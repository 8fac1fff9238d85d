import ChipEight.Error
import ChipEight.Instruction.Operation

namespace ChipEight

/-- Decoding reduces the word to sixteen bits. Strict decoding refuses words without an
operation; otherwise they have the operation `unknown`. -/
def decode (strict : Bool) (word : Int) : Except Fault (Operation × Instruction) :=
  let instruction := Instruction.ofWord word
  match instruction.operation? with
  | some operation => .ok (operation, instruction)
  | none =>
    if strict then .error (.unknownWord instruction.word)
    else .ok (.unknown, instruction)

/-- The name of a register. -/
def registerName (register : Nat) : String :=
  "V" ++ Hex.padded 1 register

namespace Instruction

private def vx (instruction : Instruction) : String := registerName instruction.x

private def vy (instruction : Instruction) : String := registerName instruction.y

private def byte (instruction : Instruction) : String := "0x" ++ Hex.padded 2 instruction.nn

private def address (instruction : Instruction) : String := "0x" ++ Hex.padded 3 instruction.nnn

def dataDirective (instruction : Instruction) : String :=
  "DW 0x" ++ Hex.padded 4 instruction.word

/-- The instruction written as a given operation. -/
def assembly (instruction : Instruction) : Operation → String
  | .clearScreen => "CLS"
  | .ret => "RET"
  | .jump => "JP " ++ instruction.address
  | .call => "CALL " ++ instruction.address
  | .jumpOffset => "JP V0, " ++ instruction.address
  | .skipEqualByte => "SE " ++ instruction.vx ++ ", " ++ instruction.byte
  | .skipUnequalByte => "SNE " ++ instruction.vx ++ ", " ++ instruction.byte
  | .skipEqual => "SE " ++ instruction.vx ++ ", " ++ instruction.vy
  | .skipUnequal => "SNE " ++ instruction.vx ++ ", " ++ instruction.vy
  | .loadByte => "LD " ++ instruction.vx ++ ", " ++ instruction.byte
  | .addByte => "ADD " ++ instruction.vx ++ ", " ++ instruction.byte
  | .copy => "LD " ++ instruction.vx ++ ", " ++ instruction.vy
  | .or => "OR " ++ instruction.vx ++ ", " ++ instruction.vy
  | .and => "AND " ++ instruction.vx ++ ", " ++ instruction.vy
  | .xor => "XOR " ++ instruction.vx ++ ", " ++ instruction.vy
  | .add => "ADD " ++ instruction.vx ++ ", " ++ instruction.vy
  | .subtract => "SUB " ++ instruction.vx ++ ", " ++ instruction.vy
  | .shiftRight => "SHR " ++ instruction.vx
  | .subtractFrom => "SUBN " ++ instruction.vx ++ ", " ++ instruction.vy
  | .shiftLeft => "SHL " ++ instruction.vx
  | .loadIndex => "LD I, " ++ instruction.address
  | .draw => "DRW " ++ instruction.vx ++ ", " ++ instruction.vy ++ ", " ++ toString instruction.n
  | .skipHeld => "SKP " ++ instruction.vx
  | .skipReleased => "SKNP " ++ instruction.vx
  | .awaitKey => "LD " ++ instruction.vx ++ ", K"
  | .readDelay => "LD " ++ instruction.vx ++ ", DT"
  | .setDelay => "LD DT, " ++ instruction.vx
  | .setSound => "LD ST, " ++ instruction.vx
  | .addIndex => "ADD I, " ++ instruction.vx
  | .storeDecimal => "LD B, " ++ instruction.vx
  | .storeRegisters => "LD [I], " ++ instruction.vx
  | .loadRegisters => "LD " ++ instruction.vx ++ ", [I]"
  | .unknown => instruction.dataDirective

/-- The instruction written as its own operation. -/
def disassemble (instruction : Instruction) : String :=
  instruction.assembly (ofWord instruction.word).operation

/-- The instruction written as the operation of a key; a key of no operation gives data. -/
def disassembleAs (instruction : Instruction) (key : String) : String :=
  match Operation.ofKey? key with
  | some operation => instruction.assembly operation
  | none => instruction.dataDirective

end Instruction

end ChipEight
