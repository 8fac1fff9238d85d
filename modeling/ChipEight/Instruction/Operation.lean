import ChipEight.Instruction.Fields

namespace ChipEight

inductive Operation where
  | clearScreen
  | ret
  | jump
  | call
  | jumpOffset
  | skipEqualByte
  | skipUnequalByte
  | skipEqual
  | skipUnequal
  | loadByte
  | addByte
  | copy
  | or
  | and
  | xor
  | add
  | subtract
  | shiftRight
  | subtractFrom
  | shiftLeft
  | loadIndex
  | draw
  | skipHeld
  | skipReleased
  | awaitKey
  | readDelay
  | setDelay
  | setSound
  | addIndex
  | storeDecimal
  | storeRegisters
  | loadRegisters
  | unknown
  deriving Repr, DecidableEq

namespace Operation

def all : List Operation :=
  [clearScreen, ret, jump, call, jumpOffset, skipEqualByte, skipUnequalByte, skipEqual,
    skipUnequal, loadByte, addByte, copy, or, and, xor, add, subtract, shiftRight, subtractFrom,
    shiftLeft, loadIndex, draw, skipHeld, skipReleased, awaitKey, readDelay, setDelay, setSound,
    addIndex, storeDecimal, storeRegisters, loadRegisters, unknown]

theorem mem_all (operation : Operation) : operation ∈ all := by
  cases operation <;> decide

def key : Operation → String
  | clearScreen => "OP_CLS"
  | ret => "OP_RET"
  | jump => "OP_JP"
  | call => "OP_CALL"
  | jumpOffset => "OP_JP_V0"
  | skipEqualByte => "OP_SE_IMM"
  | skipUnequalByte => "OP_SNE_IMM"
  | skipEqual => "OP_SE_REG"
  | skipUnequal => "OP_SNE_REG"
  | loadByte => "OP_LD_IMM"
  | addByte => "OP_ADD_IMM"
  | copy => "OP_LD_REG"
  | or => "OP_OR"
  | and => "OP_AND"
  | xor => "OP_XOR"
  | add => "OP_ADD_REG"
  | subtract => "OP_SUB"
  | shiftRight => "OP_SHR"
  | subtractFrom => "OP_SUBN"
  | shiftLeft => "OP_SHL"
  | loadIndex => "OP_LD_I"
  | draw => "OP_DRW"
  | skipHeld => "OP_SKP"
  | skipReleased => "OP_SKNP"
  | awaitKey => "OP_LD_VX_K"
  | readDelay => "OP_LD_VX_DT"
  | setDelay => "OP_LD_DT_VX"
  | setSound => "OP_LD_ST_VX"
  | addIndex => "OP_ADD_I"
  | storeDecimal => "OP_LD_BCD"
  | storeRegisters => "OP_LD_MEM_VX"
  | loadRegisters => "OP_LD_VX_MEM"
  | unknown => "OP_UNKNOWN"

def ofKey? (key : String) : Option Operation :=
  all.find? fun operation => operation.key == key

/-- The operations that change the screen. -/
def drawsScreen : Operation → Bool
  | clearScreen | draw => true
  | _ => false

end Operation

namespace Instruction

/-- `8XY_`, by the last digit. -/
def arithmetic? (instruction : Instruction) : Option Operation :=
  match instruction.n with
  | 0x0 => some .copy
  | 0x1 => some .or
  | 0x2 => some .and
  | 0x3 => some .xor
  | 0x4 => some .add
  | 0x5 => some .subtract
  | 0x6 => some .shiftRight
  | 0x7 => some .subtractFrom
  | 0xE => some .shiftLeft
  | _ => none

/-- `FX__`, by the last two digits. -/
def misc? (instruction : Instruction) : Option Operation :=
  match instruction.nn with
  | 0x07 => some .readDelay
  | 0x0A => some .awaitKey
  | 0x15 => some .setDelay
  | 0x18 => some .setSound
  | 0x1E => some .addIndex
  | 0x33 => some .storeDecimal
  | 0x55 => some .storeRegisters
  | 0x65 => some .loadRegisters
  | _ => none

/-- The operation a word stands for. Random numbers are not part of this machine. -/
def operation? (instruction : Instruction) : Option Operation :=
  match instruction.family with
  | .system =>
    if instruction.word = 0x00E0 then some .clearScreen
    else if instruction.word = 0x00EE then some .ret
    else none
  | .jump => some .jump
  | .call => some .call
  | .skipEqualByte => some .skipEqualByte
  | .skipUnequalByte => some .skipUnequalByte
  | .skipEqual => some .skipEqual
  | .loadByte => some .loadByte
  | .addByte => some .addByte
  | .arithmetic => instruction.arithmetic?
  | .skipUnequal => some .skipUnequal
  | .loadIndex => some .loadIndex
  | .jumpOffset => some .jumpOffset
  | .random => none
  | .draw => some .draw
  | .key =>
    if instruction.nn = 0x9E then some .skipHeld
    else if instruction.nn = 0xA1 then some .skipReleased
    else none
  | .misc => instruction.misc?

/-- The operation of a word, with `unknown` for words that have none. -/
def operation (instruction : Instruction) : Operation :=
  instruction.operation?.getD .unknown

end Instruction

end ChipEight
