import ChipEight.Display
import ChipEight.Instruction.Assembly
import ChipEight.Memory

/-! The state of the machine. Its numbers are whole numbers without a limit of their own, and
`valid` tells whether they are what the hardware can hold. -/

namespace ChipEight

structure State where
  registers : List Int
  index : Int
  pc : Int
  /-- Return addresses, of which the first `sp` slots are in use. -/
  stack : List Int
  sp : Int
  delayTimer : Int
  soundTimer : Int
  memory : Memory
  display : Display
  keys : List Bool
  awaitingKey : Bool
  halted : Bool
  cycles : Int
  deriving DecidableEq

/-- What reports show of a state; memory and screen are left out. -/
structure Snapshot where
  registers : List Int
  index : Int
  pc : Int
  sp : Int
  stack : List Int
  delayTimer : Int
  soundTimer : Int
  halted : Bool
  cycles : Int
  deriving Repr, DecidableEq

abbrev Action := EStateM Error State

namespace State

def blank : State where
  registers := List.replicate 16 0
  index := 0
  pc := programStart
  stack := List.replicate 16 0
  sp := 0
  delayTimer := 0
  soundTimer := 0
  memory := Memory.standard
  display := Display.blank
  keys := List.replicate 16 false
  awaitingKey := false
  halted := false
  cycles := 0

def ofProgram (program : List UInt8) : State :=
  { blank with memory := (Memory.standard.load program).2 }

def snapshot (state : State) : Snapshot where
  registers := state.registers
  index := state.index
  pc := state.pc
  sp := state.sp
  stack := Slots.before state.stack state.sp
  delayTimer := state.delayTimer
  soundTimer := state.soundTimer
  halted := state.halted
  cycles := state.cycles

/-- `value` fits into `bits` bits. -/
def fits (bits : Nat) (value : Int) : Bool :=
  0 ≤ value && value < (1 <<< bits : Nat)

def valid (state : State) : Bool :=
  state.registers.length == 16 && state.registers.all (fits 8) &&
    fits 16 state.index && fits 16 state.pc &&
    state.stack.length == 16 && 0 ≤ state.sp && state.sp ≤ 16 &&
    fits 8 state.delayTimer && fits 8 state.soundTimer &&
    state.keys.length == 16 && 0 ≤ state.cycles

/-- Validity where a register may hold something that is no whole number, given as `none`. -/
def validWith (state : State) (registers : List (Option Int)) : Bool :=
  match registers.mapM id with
  | some registers => { state with registers }.valid
  | none => false

/-- Both timers run down to zero. -/
def tick (state : State) : State :=
  { state with
    delayTimer := if 0 < state.delayTimer then state.delayTimer - 1 else state.delayTimer
    soundTimer := if 0 < state.soundTimer then state.soundTimer - 1 else state.soundTimer }

/-- A number of ticks, none when it is negative. -/
def ticks (count : Int) (state : State) : State :=
  count.toNat.repeat tick state

def advance (amount : Int) (state : State) : State :=
  { state with pc := (state.pc + amount) % 0x10000 }

/-- The registers with their names. -/
def namedRegisters (registers : List Int) : List (String × Int) :=
  registers.zipIdx.map fun (value, register) => (registerName register, value)

def text (state : State) : String :=
  let hex := Hex.padded
  let registers :=
    (namedRegisters state.registers).map fun (name, value) => name ++ "=" ++ hex 2 value
  let front :=
    ["[Cycle " ++ toString state.cycles ++ "]", "PC=" ++ hex 3 state.pc,
      "I=" ++ hex 3 state.index, "SP=" ++ toString state.sp, "DT=" ++ toString state.delayTimer,
      "ST=" ++ toString state.soundTimer]
  let all :=
    if state.halted then front ++ [" ".intercalate registers, "HALTED"] else front ++ registers
  " ".intercalate all

end State

namespace Register

/-- A register is named by its number or by a text: the letter V and one digit, in either case
and any script. -/
inductive Reference where
  | number (value : Int)
  | name (text : String)
  deriving Repr, DecidableEq

namespace Reference

def text : Reference → String
  | number value => toString value
  | name text => text

private def number? : Reference → Option Int
  | number value => some value
  | name text =>
    match Text.upper text.toList with
    | ['V', digit] => ((Text.digitValue? digit).or (Hex.digitValue? digit)).map Int.ofNat
    | _ => none

def register (reference : Reference) : Except Error Nat :=
  match reference.number? with
  | some value =>
    if 0 ≤ value ∧ value < 16 then .ok value.toNat
    else .error (.unknownRegister reference.text)
  | none => .error (.unknownRegister reference.text)

end Reference

end Register

namespace Action

/-- A test of the state that may fail, and changes nothing. -/
def read (value : State → Except Error α) : Action α := do
  match value (← get) with
  | .ok result => return result
  | .error error => throw error

def register (register : Nat) : Action Int := do
  match (← get).registers[register]? with
  | some value => return value
  | none => throw (.missingSlot register)

def setRegister (register : Nat) (value : Int) : Action Unit := do
  let state ← get
  if register < state.registers.length then
    set { state with registers := state.registers.set register value }
  else throw (.missingTarget register)

/-- The flag register. -/
def setFlag (flag : Bool) : Action Unit :=
  setRegister 0xF (if flag then 1 else 0)

def push (address : Int) : Action Unit := do
  let state ← get
  if 16 ≤ state.sp then throw (.fault (.stackOverflow state.sp))
  match Slots.set? state.stack state.sp (address % 0x10000) with
  | some stack => set { state with stack, sp := state.sp + 1 }
  | none => throw (.missingTarget state.sp)

def pop : Action Int := do
  let state ← get
  if state.sp = 0 then throw (.fault .stackUnderflow)
  set { state with sp := state.sp - 1 }
  match Slots.get? state.stack (state.sp - 1) with
  | some address => return address
  | none => throw (.missingSlot (state.sp - 1))

def jump (address : Int) : Action Unit :=
  modify fun state => { state with pc := address }

def skipIf (condition : Bool) : Action Unit :=
  if condition then modify (State.advance 2) else pure ()

def setKeys (keys : List Bool) : Action Unit := do
  if keys.length ≠ 16 then throw (.keyCount keys.length)
  modify fun state => { state with keys }

def key (key : Nat) : Action Bool := do
  match (← get).keys[key]? with
  | some held => return held
  | none => throw (.missingSlot key)

def readBlock (address length : Int) : Action (List UInt8) := do
  match (← get).memory.readBlock address length with
  | .ok bytes => return bytes
  | .error fault => throw (.fault fault)

def writeBlock (address : Int) (values : List Int) : Action Unit := do
  let state ← get
  match state.memory.writeBlock address values with
  | .ok memory => set { state with memory }
  | .error fault => throw (.fault fault)

def registerAt (reference : Register.Reference) : Action Int := do
  match reference.register with
  | .ok number => register number
  | .error error => throw error

/-- Eight bits of the value are kept. -/
def setRegisterAt (reference : Register.Reference) (value : Int) : Action Unit := do
  match reference.register with
  | .ok number => setRegister number (value % 256)
  | .error error => throw error

end Action

end ChipEight
