import ChipEight.Machine.Setup
import ChipEight.Machine.OperationTable

namespace ChipEight

/-- What a cycle did: it executed an operation, or it found the end of memory. -/
inductive Event where
  | executed (operation : Operation) (instruction : Instruction)
  | endOfMemory
  deriving Repr, DecidableEq

namespace Event

def key : Event → String
  | executed operation _ => operation.key
  | endOfMemory => "HALT"

def mnemonic : Event → String
  | executed operation instruction => instruction.assembly operation
  | endOfMemory => "<END OF MEMORY>"

/-- The word of the instruction, if there was one. -/
def word? : Event → Option Int
  | executed _ instruction => some instruction.word
  | endOfMemory => none

end Event

structure TraceEntry where
  cycle : Int
  pc : Int
  event : Event
  before : Snapshot
  after : Snapshot
  /-- Why the operation failed, if it did. -/
  fault : Option Fault
  deriving Repr, DecidableEq

/-- The entries kept, the oldest first. -/
structure Trace where
  limit : Nat
  entries : List TraceEntry
  deriving Repr, DecidableEq

namespace Trace

def empty (limit : Nat) : Trace := ⟨limit, []⟩

/-- The greatest number of entries that a trace can be asked to keep. -/
def greatestLimit : Nat := 0x7FFFFFFFFFFFFFFF

def push (trace : Trace) (entry : TraceEntry) : Trace :=
  let all := trace.entries ++ [entry]
  { trace with entries := all.drop (all.length - trace.limit) }

def clear (trace : Trace) : Trace :=
  { trace with entries := [] }

def last? (trace : Trace) : Option TraceEntry :=
  trace.entries.getLast?

/-- The messages of the failed cycles that are kept. -/
def errors (trace : Trace) : List String :=
  trace.entries.filterMap fun entry => entry.fault.map Fault.message

end Trace

structure Machine (τ : Type) where
  config : Config τ
  /-- There is no state before the first program. -/
  state : Option State
  status : Status
  trace : Trace
  loadedBytes : Int
  /-- A stop was asked for. -/
  stopping : Bool
  /-- The reading that the next timer update counts from. -/
  timerBase : τ
  /-- Ticks that are due, with their fraction. -/
  timerDebt : τ
  /-- A run has ended, and the next cycle must read the clock anew. -/
  clockPaused : Bool

/-- A call to a machine in its world. -/
abbrev Call (τ ε : Type) := EStateM Error (Machine τ × ε)

namespace Machine

variable {τ ε : Type} [TimeScale τ]

def idle (config : Config τ) : Machine τ where
  config := config
  state := none
  status := .idle
  trace := Trace.empty config.traceLimit.toNat
  loadedBytes := 0
  stopping := false
  timerBase := TimeScale.zero
  timerDebt := TimeScale.zero
  clockPaused := false

/-- A machine without a program, for settings that were accepted. -/
def create (config : Config τ) : Except Error (Machine τ) :=
  if (Trace.greatestLimit : Int) < config.traceLimit then .error .traceTooLong
  else .ok (idle config)

def read : Call τ ε (Machine τ) := do
  return (← get).1

def update (change : Machine τ → Machine τ) : Call τ ε Unit :=
  modify fun (machine, world) => (change machine, world)

/-- Ask the world for something. -/
def ask (request : ε → α × ε) : Call τ ε α := do
  let (machine, world) ← get
  let (answer, world') := request world
  set (machine, world')
  return answer

/-- Ask the world for something that it may fail to give. -/
def demand (request : ε → Except Error α × ε) : Call τ ε α := do
  match ← ask request with
  | .ok answer => return answer
  | .error error => throw error

def tell (surroundings : Surroundings τ ε) (note : Note) : Call τ ε Unit :=
  modify fun (machine, world) => (machine, surroundings.note note world)

def number (result : Except NumberError α) : Call τ ε α :=
  match result with
  | .ok value => return value
  | .error error => throw (.number error)

/-- Run an action on the state. -/
def onState (action : Action α) : Call τ ε α := do
  let (machine, world) ← get
  match machine.state with
  | none => throw .notLoaded
  | some state =>
    match action state with
    | .ok result state' =>
      set ({ machine with state := some state' }, world)
      return result
    | .error error state' =>
      set ({ machine with state := some state' }, world)
      throw error

/-- Put a program into a fresh state and count the bytes that found room. The timers' clock is
left as it is. -/
def load (surroundings : Surroundings τ ε) (program : List UInt8) : Call τ ε Int := do
  let total : Int := program.length
  let loaded := min total ((Memory.standard.size : Int) - programStart)
  if loaded < total then tell surroundings (.truncated loaded total)
  update fun machine =>
    { machine with
      state := some (State.ofProgram program)
      loadedBytes := loaded
      status := .loaded
      trace := machine.trace.clear
      stopping := false }
  tell surroundings (.loaded loaded)
  return loaded

/-- Time that passed outside a run does not count for the timers. -/
def resumeClock (surroundings : Surroundings τ ε) : Call τ ε Unit := do
  let now ← demand surroundings.clock
  update fun machine =>
    { machine with timerBase := now, timerDebt := TimeScale.zero, clockPaused := false }

/-- A running machine stays as it is. -/
def start (surroundings : Surroundings τ ε) : Call τ ε Unit := do
  let status := (← read).status
  if status ≠ .running then
    if status ≠ .loaded then throw (.notStartable status)
    update fun machine => { machine with status := .running, stopping := false }
    resumeClock surroundings

/-- Ask a run to end after the cycle it is in. -/
def stop : Call τ ε Unit :=
  update fun machine => { machine with stopping := true }

/-- With a rate of their own the timers tick once for each period that has passed, and the rest
is carried on; 255 ticks already bring any timer to zero. -/
def updateTimers (surroundings : Surroundings τ ε) : Call τ ε Unit := do
  match (← read).config.timerRate with
  | none => onState (modify State.tick)
  | some rate =>
    let now ← demand surroundings.clock
    let machine ← read
    let passed ← number (TimeScale.sub now machine.timerBase)
    let due ← number (TimeScale.mul passed rate)
    let debt ← number (TimeScale.add machine.timerDebt due)
    update fun machine => { machine with timerDebt := debt, timerBase := now }
    let ticks ← number (TimeScale.truncate debt)
    let rest ← number (TimeScale.sub debt (TimeScale.ofInt ticks))
    update fun machine => { machine with timerDebt := rest }
    onState (modify (State.ticks (min ticks 0xFF)))

/-- The end of memory: the machine halts, and the entry shows the halted state twice. -/
def halt (surroundings : Surroundings τ ε) (state : State) : Call τ ε TraceEntry := do
  let halted := { state with halted := true }
  update fun machine => { machine with state := some halted, status := .halted }
  tell surroundings (.ended state.pc)
  let entry : TraceEntry :=
    { cycle := state.cycles
      pc := state.pc
      event := .endOfMemory
      before := halted.snapshot
      after := halted.snapshot
      fault := none }
  update fun machine => { machine with trace := machine.trace.push entry }
  return entry

/-- A fault ends the machine's life; the entry keeps the operation as far as it was known. -/
def fail (surroundings : Surroundings τ ε) (before : Snapshot) (word : Nat)
    (operation : Operation) (cause : Fault) : Call τ ε TraceEntry := do
  onState (modify fun state => { state with halted := true })
  update fun machine => { machine with status := .faulted }
  tell surroundings (.faulted before.pc word cause)
  let state ← onState get
  let entry : TraceEntry :=
    { cycle := state.cycles
      pc := before.pc
      event := .executed operation (Instruction.ofWord word)
      before := before
      after := state.snapshot
      fault := some cause }
  update fun machine => { machine with trace := machine.trace.push entry }
  throw (.fault (.execution word before.pc cause))

/-- Show the screen when it is due. -/
def present (surroundings : Surroundings τ ε) (operation : Operation) : Call τ ε Unit := do
  let machine ← read
  if operation.drawsScreen || !machine.config.renderOnChange then
    let rows := (← onState get).display.rows
    let reception ← ask (surroundings.render rows)
    if reception.stop then stop
    if reception.interrupt then throw .interrupted

/-- What follows a successful operation: timers, screen, and the entry. -/
def complete (surroundings : Surroundings τ ε) (before : Snapshot) (operation : Operation)
    (instruction : Instruction) : Call τ ε TraceEntry := do
  if operation = .unknown then
    tell surroundings (.ignored instruction.word ((← onState get).pc - 2))
  updateTimers surroundings
  present surroundings operation
  let state ← onState get
  let entry : TraceEntry :=
    { cycle := state.cycles - 1
      pc := before.pc
      event := .executed operation instruction
      before := before
      after := state.snapshot
      fault := none }
  update fun machine => { machine with trace := machine.trace.push entry }
  return entry

/-- Fetch the word at the program counter and execute it. -/
def fetchAndExecute (surroundings : Surroundings τ ε) : Call τ ε TraceEntry := do
  let keys ← ask surroundings.poll
  onState (Action.setKeys keys)
  let state ← onState get
  let before := state.snapshot
  match state.memory.readWord state.pc with
  | .error fault => throw (.fault fault)
  | .ok word =>
    onState (modify (State.advance 2))
    match decode (← read).config.strict word with
    | .error fault => fail surroundings before word .unknown fault
    | .ok (operation, instruction) =>
      let outcome ← onState (attempt (operation.execute instruction))
      match outcome with
      | .ok () => complete surroundings before operation instruction
      | .error (.fault cause) => fail surroundings before word operation cause
      | .error other => throw other
where
  /-- The outcome of an action as a value. -/
  attempt (action : Action Unit) : Action (Except Error Unit) := do
    try
      action
      pure (.ok ())
    catch error => pure (.error error)

/-- One cycle. A loaded machine is started first. -/
def step (surroundings : Surroundings τ ε) : Call τ ε TraceEntry := do
  if (← read).state.isNone then throw .notLoaded
  if (← read).status = .loaded then start surroundings
  let machine ← read
  if machine.status ≠ .running then throw (.notRunning machine.status)
  if machine.clockPaused then resumeClock surroundings
  let state ← onState get
  if (state.memory.size : Int) ≤ state.pc + 1 then halt surroundings state
  else fetchAndExecute surroundings

/-- Wait for what is left of the period of a cycle. -/
def pace (surroundings : Surroundings τ ε) (cycleStart : τ) : Call τ ε Unit := do
  let period ← number (← read).config.cyclePeriod
  if !TimeScale.isNonPositive period then
    let now ← demand surroundings.clock
    let passed ← number (TimeScale.sub now cycleStart)
    let remaining ← number (TimeScale.sub period passed)
    if TimeScale.isPositive remaining then
      let stopped ← demand (surroundings.wait remaining)
      if stopped then stop

/-- One cycle of a run, with the wait that fills up its period. -/
def turn (surroundings : Surroundings τ ε) : Call τ ε Unit := do
  let cycleStart ← demand surroundings.clock
  let _ ← step surroundings
  if (← read).status = .running then pace surroundings cycleStart

/-- Whether another cycle may follow, of which the caller still allows `remaining`. -/
def goesOn (machine : Machine τ) (remaining : Option Nat) : Bool :=
  machine.status == .running && !machine.stopping && remaining != some 0

/-- Up to `fuel` cycles; the answer tells whether the run came to its end. -/
def cycles (surroundings : Surroundings τ ε) : Nat → Option Nat → Call τ ε Bool
  | fuel, remaining => do
    if !goesOn (← read) remaining then return true
    match fuel with
    | 0 => return false
    | fuel + 1 =>
      turn surroundings
      cycles surroundings fuel (remaining.map (· - 1))

/-- What precedes the cycles of a run. -/
def beginRun (surroundings : Surroundings τ ε) : Call τ ε Unit := do
  let machine ← read
  if machine.state.isNone then throw .notLoaded
  if machine.status = .loaded then start surroundings
  else
    update fun machine => { machine with stopping := false }
    resumeClock surroundings

/-- The number of cycles a run is allowed, from the caller or else from the settings. -/
def allowance (machine : Machine τ) (limit : Option Int) : Option Nat :=
  (limit.or machine.config.maxCycles).map Int.toNat

/-- A run. The answer is the trace that is kept, or nothing when `fuel` cycles did not bring the
run to its end. -/
def run (surroundings : Surroundings τ ε) (fuel : Nat) (limit : Option Int) :
    Call τ ε (Option (List TraceEntry)) := do
  beginRun surroundings
  let finished ← cycles surroundings fuel (allowance (← read) limit)
  if finished then
    update fun machine => { machine with clockPaused := true }
    return some (← read).trace.entries
  else return none

end Machine

end ChipEight
