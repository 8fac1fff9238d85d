import ChipEight.Machine.Lifecycle

namespace ChipEight.Report

variable {τ : Type}

def rule (char : Char) (width : Nat) : String :=
  String.ofList (List.replicate width char)

/-- Registers with their names, as a table in braces. -/
def registerTable (registers : List Int) : String :=
  let cell := fun (name, value) => Text.quotedString name ++ ": " ++ toString (value : Int)
  "\x7b" ++ ", ".intercalate ((State.namedRegisters registers).map cell) ++ "\x7d"

/-- Texts in quotes, as a list in brackets. -/
def textList (texts : List String) : String :=
  "[" ++ ", ".intercalate (texts.map Text.quotedString) ++ "]"

def change (arrow name : String) (before after : Int) : Option String :=
  if before = after then none
  else some (name ++ ": " ++ toString before ++ " " ++ arrow ++ " " ++ toString after)

/-- The registers that differ, in order. -/
def registerChanges (arrow : String) (before after : List Int) : List String :=
  ((State.namedRegisters before).zip after).filterMap fun ((name, value), value') =>
    change arrow name value value'

/-- The other numbers of a state that differ. -/
def fieldChanges (arrow : String) (before after : Snapshot) : List String :=
  [change arrow "i" before.index after.index,
    change arrow "sp" before.sp after.sp,
    change arrow "delay_timer" before.delayTimer after.delayTimer,
    change arrow "sound_timer" before.soundTimer after.soundTimer].filterMap id

def entryLines (entry : TraceEntry) : List String :=
  let outcome :=
    match entry.fault with
    | none => "OK"
    | some fault => "ERROR: " ++ fault.message
  let word :=
    match entry.event.word? with
    | some word => Hex.padded 4 word
    | none => "----"
  let changes :=
    registerChanges "→" entry.before.registers entry.after.registers ++
      fieldChanges "→" entry.before entry.after
  ["",
    "[Cycle " ++ toString entry.cycle ++ "] PC=0x" ++ Hex.padded 3 entry.pc ++ " " ++ word ++
      " " ++ outcome,
    "  Instruction: " ++ entry.event.mnemonic,
    "  Decoded Key: " ++ entry.event.key] ++
    (if changes.isEmpty then [] else ["  Changes: " ++ ", ".intercalate changes])

def finalState (status : Status) (state : State) : List String :=
  ["  Registers: " ++ registerTable state.registers,
    "  I: 0x" ++ Hex.padded 3 state.index ++ "  SP: " ++ toString state.sp,
    "  PC: 0x" ++ Hex.padded 3 state.pc,
    "  Cycles: " ++ toString state.cycles,
    "  Status: " ++ status.name]

/-- Each line is ended by a line feed. -/
def ofLines (lines : List String) : String :=
  String.join (lines.map (· ++ "\n"))

def traceListing (machine : Machine τ) : String :=
  let bar := rule '=' 70
  ofLines <|
    [bar, "CHIP-8 EXECUTION TRACE", bar] ++ machine.trace.entries.flatMap entryLines ++
      ["", bar, "FINAL STATE", bar] ++
      (machine.state.elim [] (finalState machine.status))

structure Summary where
  status : Status
  cycles : Int
  halted : Bool
  registers : List Int
  index : Int
  pc : Int
  delayTimer : Int
  soundTimer : Int
  litPixels : Nat
  traceLength : Nat
  errors : List String
  deriving Repr, DecidableEq

/-- A machine without a state counts as halted. -/
def summary (machine : Machine τ) : Summary where
  status := machine.status
  cycles := machine.state.elim 0 State.cycles
  halted := machine.state.elim true State.halted
  registers := machine.state.elim [] State.registers
  index := machine.state.elim 0 State.index
  pc := machine.state.elim 0 State.pc
  delayTimer := machine.state.elim 0 State.delayTimer
  soundTimer := machine.state.elim 0 State.soundTimer
  litPixels := machine.state.elim 0 fun state => state.display.litCount
  traceLength := machine.trace.entries.length
  errors := machine.trace.errors

end ChipEight.Report
