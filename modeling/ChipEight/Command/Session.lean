import ChipEight.Command.Options
import ChipEight.Program
import ChipEight.Report

namespace ChipEight.Command

/-- The terminal while a machine runs: what was printed, the time, the seconds waited, and the
frames. The frame `interruptAt` is broken off by the person at the terminal. -/
structure Console where
  output : String
  now : Quantity
  waited : Quantity
  frames : Nat
  interruptAt : Option Nat

namespace Console

def fresh (interruptAt : Option Nat) : Console :=
  ⟨"", .real 0.0, .real 0.0, 0, interruptAt⟩

def print (text : String) (console : Console) : Console :=
  { console with output := console.output ++ text }

private def later (time seconds : Quantity) : Quantity :=
  match TimeScale.add time seconds with
  | .ok sum => sum
  | .error _ => time

/-- Looking at the clock takes a moment. -/
def moment : Quantity := .real 1e-6

def clock (console : Console) : Except Error Quantity × Console :=
  (.ok console.now, { console with now := later console.now moment })

/-- Waits are measured in nanoseconds by a number of 64 bits, one of them for the sign. -/
def isMeasurable (seconds : Quantity) : Bool :=
  match seconds.toFloat with
  | .ok seconds => seconds * 1e9 < 9223372036854775808.0
  | .error _ => false

/-- A wait that cannot be measured is not begun. -/
def wait (seconds : Quantity) (console : Console) : Except Error Bool × Console :=
  if isMeasurable seconds then
    (.ok false,
      { console with
        now := later console.now seconds
        waited := later console.waited seconds })
  else (.error .waitTooLong, console)

/-- With drawing off, frames are only counted. -/
def render (drawing : Bool) (rows : List Int) (console : Console) : Reception × Console :=
  let frames := console.frames + 1
  let console := { console with frames }
  if !drawing then (⟨false, false⟩, console)
  else if console.interruptAt = some frames then (⟨false, true⟩, console)
  else (⟨false, false⟩, console.print (Frame.redraw rows))

end Console

/-- No key is held, and nothing but the person at the terminal stops the machine. -/
def surroundings (drawing : Bool) : Surroundings Quantity Console where
  clock console := console.clock
  poll console := (Keypad.released.held, console)
  render rows console := console.render drawing rows
  wait seconds console := console.wait seconds
  note _ console := console

/-- How a session ends. -/
inductive Ending where
  | code (code : Nat)
  | help
  | misuse (message : String)
  /-- Nothing was typed where a line was waited for. -/
  | endOfInput
  | error (error : Error)

/-- The value that was given, or what comes of comparing none. -/
def Given.get (comparison : String) : Given α → Except Ending α
  | .value given => .ok given
  | .nothing => .error (.error (.valueless comparison))

namespace Options

private def accepted (config : Config Quantity) : Except Ending (Config Quantity) :=
  match config.check with
  | .ok () => .ok config
  | .error error => .error (.misuse error.message)

/-- The configuration that the options ask for. Its settings are checked one after the other,
and the first that is not accepted ends the session. -/
def config (options : Options) : Except Ending (Config Quantity) := do
  let standard : Config Quantity := Config.standard
  let rate ← options.rate.get "<"
  let config ← accepted { standard with rate := some rate, strict := options.strict }
  let timerRate ← options.timerRate.mapM (Given.get "<=")
  let config ← accepted { config with timerRate }
  let maxCycles ← options.maxCycles.mapM (Given.get "<")
  accepted { config with maxCycles }

/-- What is printed before the machine runs. -/
def opening (options : Options) (image : List UInt8) : String :=
  (if options.quiet then "" else "rom size: " ++ toString image.length ++ " bytes\n") ++
    (if options.hexdump then Hexdump.text programStart image ++ "\n\n" else "")

def prompt : String := "Press Enter to start interpreting..."

/-- What is printed about a machine that has run. -/
def closing (options : Options) (machine : Machine Quantity) : String :=
  if options.trace then Report.traceListing machine
  else
    let summary := Report.summary machine
    if options.quiet then
      Report.ofLines <| (State.namedRegisters summary.registers).filterMap fun (name, value) =>
        if value = 0 then none else some (name ++ "=" ++ toString value)
    else
      Report.ofLines <|
        ["",
          "Status: " ++ summary.status.name,
          "Cycles: " ++ toString summary.cycles,
          "PC: 0x" ++ Hex.padded 3 summary.pc ++ "  I: 0x" ++ Hex.padded 3 summary.index,
          "Registers: " ++ Report.registerTable summary.registers] ++
        (if summary.errors.isEmpty then [] else ["Errors: " ++ Report.textList summary.errors])

end Options

/-- What is printed on the way out of a run, and the exit code; errors of other kinds end the
session. -/
def runEnding : Option Error → Except Error (String × Nat)
  | none => .ok ("", 0)
  | some (.fault fault) => .ok ("Execution error: " ++ fault.message ++ "\n", 1)
  | some .interrupted => .ok ("\nInterrupted\n", 0)
  | some error => .error error

/-- The image that the arguments name, with a configuration that is accepted. -/
inductive Preparation where
  | ready (options : Options) (config : Config Quantity) (image : List UInt8)
  | ended (output : String) (ending : Ending)

def prepare (entry : String → FileEntry) (arguments : List String) : Preparation :=
  match Request.ofArguments arguments with
  | .help => .ended helpText .help
  | .misuse message => .ended "" (.misuse message)
  | .run options =>
    match options.config with
    | .error ending => .ended "" ending
    | .ok config =>
      match Files.find? entry options.rom with
      | .error error => .ended "" (.error (.file error))
      | .ok none => .ended ("Error: ROM file not found: " ++ options.rom ++ "\n") (.code 1)
      | .ok (some image) => .ready options config image

/-- The machine of a session and its terminal after the run, which `fuel` cycles may leave
unfinished. -/
def runMachine (drawing : Bool) (config : Config Quantity) (image : List UInt8) (fuel : Nat)
    (console : Console) : Option Error × Machine Quantity × Console :=
  let surroundings := surroundings drawing
  let call : Call Quantity Console Unit := do
    let _ ← Machine.load surroundings image
    let _ ← Machine.run surroundings fuel none
  match call (Machine.idle config, console) with
  | .ok () (machine, console) => (none, machine, console)
  | .error error (machine, console) => (some error, machine, console)

/-- A whole session: what it prints, and how it ends. `typed` tells whether a line was typed. -/
def session (entry : String → FileEntry) (arguments : List String) (typed : Bool)
    (interruptAt : Option Nat) (fuel : Nat) : String × Ending :=
  match prepare entry arguments with
  | .ended output ending => (output, ending)
  | .ready options config image =>
    let opening := options.opening image ++ (if options.noWait then "" else Options.prompt)
    if !options.noWait && !typed then (opening, .endOfInput)
    else
      let start := opening ++ (if options.noRender then "" else Frame.clearScreen)
      let console := (Console.fresh interruptAt).print start
      let (error, machine, console) :=
        runMachine (!options.noRender) config image fuel console
      match runEnding error with
      | .error error => (console.output, .error error)
      | .ok (text, code) => (console.output ++ text ++ options.closing machine, .code code)

end ChipEight.Command
