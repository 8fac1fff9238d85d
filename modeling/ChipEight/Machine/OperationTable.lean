import ChipEight.Machine.State

/-! What each operation does to the state. The program counter already stands behind the instruction
when an operation runs. The flag register is written last, from the registers as they were. -/

namespace ChipEight

namespace Operation

open ChipEight.Action

/-- `combine` of two registers goes to the first; no flag is set. -/
def combine (instruction : Instruction) (combine : Int → Int → Int) : Action Unit := do
  let left ← register instruction.x
  let right ← register instruction.y
  setRegister instruction.x (combine left right)

/-- The low byte of a result goes to the first register, then the flag is set. -/
def arithmetic (instruction : Instruction) (compute : Int → Int → Int × Bool) : Action Unit := do
  let left ← register instruction.x
  let right ← register instruction.y
  let (result, flag) := compute left right
  setRegister instruction.x (result % 256)
  setFlag flag

def shiftRightOne (instruction : Instruction) : Action Unit := do
  let value ← register instruction.x
  setRegister instruction.x (value / 2)
  setFlag (value % 2 == 1)

def shiftLeftOne (instruction : Instruction) : Action Unit := do
  let value ← register instruction.x
  setRegister instruction.x (value * 2 % 256)
  setFlag (value / 128 % 2 == 1)

def skipWhen (instruction : Instruction) (condition : Int → Int → Bool) : Action Unit := do
  let left ← register instruction.x
  let right ← register instruction.y
  skipIf (condition left right)

/-- Only the sprite rows that land on the screen are read. -/
def drawSprite (instruction : Instruction) : Action Unit := do
  let x := (← register instruction.x) % screenWidth
  let y := (← register instruction.y) % screenHeight
  setFlag false
  let visible := min (instruction.n : Int) (screenHeight - y)
  if visible ≠ 0 then
    let sprite ← readBlock (← get).index visible
    let (display, hit) := (← get).display.draw x y sprite
    modify fun state => { state with display }
    if hit then setFlag true

def heldKey (instruction : Instruction) : Action Bool := do
  let value ← register instruction.x
  Action.key (value % 16).toNat

/-- The lowest held key is taken. While none is held the instruction waits by being repeated. -/
def takeKey (instruction : Instruction) : Action Unit := do
  match (← get).keys.idxOf? true with
  | some held =>
    setRegister instruction.x held
    modify fun state => { state with awaitingKey := false }
  | none =>
    modify fun state => State.advance (-2) { state with awaitingKey := true }

def decimalDigits (value : Int) : List Int :=
  [value / 100, value / 10 % 10, value % 10]

/-- The effect of an operation, apart from counting it. -/
def perform (instruction : Instruction) : Operation → Action Unit
  | clearScreen => modify fun state => { state with display := Display.blank }
  | ret => do Action.jump (← pop)
  | jump => Action.jump instruction.nnn
  | call => do
    push (← get).pc
    Action.jump instruction.nnn
  | jumpOffset => do Action.jump ((← register 0) + instruction.nnn)
  | skipEqualByte => do skipIf ((← register instruction.x) == instruction.nn)
  | skipUnequalByte => do skipIf ((← register instruction.x) != instruction.nn)
  | skipEqual => skipWhen instruction (· == ·)
  | skipUnequal => skipWhen instruction (· != ·)
  | loadByte => setRegister instruction.x instruction.nn
  | addByte => do setRegister instruction.x (((← register instruction.x) + instruction.nn) % 256)
  | copy => do setRegister instruction.x (← register instruction.y)
  | or => combine instruction Bits.or
  | and => combine instruction Bits.and
  | xor => combine instruction Bits.xor
  | add => arithmetic instruction fun left right => (left + right, 0xFF < left + right)
  | subtract => arithmetic instruction fun left right => (left - right, right ≤ left)
  | shiftRight => shiftRightOne instruction
  | subtractFrom => arithmetic instruction fun left right => (right - left, left ≤ right)
  | shiftLeft => shiftLeftOne instruction
  | loadIndex => modify fun state => { state with index := instruction.nnn }
  | draw => drawSprite instruction
  | skipHeld => do skipIf (← heldKey instruction)
  | skipReleased => do skipIf (!(← heldKey instruction))
  | awaitKey => takeKey instruction
  | readDelay => do setRegister instruction.x (← get).delayTimer
  | setDelay => do
    let value ← register instruction.x
    modify fun state => { state with delayTimer := value }
  | setSound => do
    let value ← register instruction.x
    modify fun state => { state with soundTimer := value }
  | addIndex => do
    let value ← register instruction.x
    modify fun state => { state with index := (state.index + value) % 0x10000 }
  | storeDecimal => do
    let value ← register instruction.x
    writeBlock (← get).index (decimalDigits value)
  | storeRegisters => do
    let state ← get
    writeBlock state.index (state.registers.take (instruction.x + 1))
  | loadRegisters => do
    let block ← readBlock (← get).index (instruction.x + 1)
    let values := block.map fun byte => (byte.toNat : Int)
    modify fun state =>
      { state with registers := values ++ state.registers.drop (instruction.x + 1) }
  | unknown => pure ()

/-- An operation that succeeds is counted. -/
def execute (operation : Operation) (instruction : Instruction) : Action Unit := do
  operation.perform instruction
  modify fun state => { state with cycles := state.cycles + 1 }

/-- One instruction word executed where the program counter stands, without fetching it. -/
def executeWord (strict : Bool) (word : Int) : Action Operation := do
  modify (State.advance 2)
  match decode strict word with
  | .error fault => throw (.fault fault)
  | .ok (operation, instruction) =>
    operation.execute instruction
    return operation

end Operation

/-- Operations under their keys, which are taken once. None is added to a frozen table. -/
structure OperationTable where
  entries : List (String × (Instruction → Action Unit))
  frozen : Bool

namespace OperationTable

/-- The machine's own operations, still open. -/
def unfrozen : OperationTable where
  entries := Operation.all.map fun operation =>
    (operation.key, fun instruction => operation.perform instruction)
  frozen := false

def freeze (table : OperationTable) : OperationTable :=
  { table with frozen := true }

def standard : OperationTable := unfrozen.freeze

/-- The keys in order. -/
def keys (table : OperationTable) : List String :=
  (table.entries.map Prod.fst).mergeSort fun left right => left < right || left == right

def register (table : OperationTable) (key : String) (effect : Instruction → Action Unit) :
    Except Error OperationTable :=
  if table.frozen then .error .tableFrozen
  else if (table.entries.lookup key).isSome then .error (.operationTaken key)
  else .ok { table with entries := table.entries ++ [(key, effect)] }

/-- Run the operation of a key, and count it when it succeeds. -/
def execute (table : OperationTable) (key : String) (instruction : Instruction) :
    Action Unit := do
  match table.entries.lookup key with
  | none => throw (.unknownOperation key)
  | some effect =>
    effect instruction
    modify fun state => { state with cycles := state.cycles + 1 }

end OperationTable

end ChipEight
