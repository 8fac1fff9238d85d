import ChipEight.Command.Session

namespace ChipEight.Command

/-- What can be read is a file; otherwise the cause of the refusal tells what is there. -/
private def fileEntry (path : String) : IO FileEntry := do
  try
    return .file (← IO.FS.readBinFile path).toList
  catch
    | .inappropriateType _ code _ => return if code = 20 then .blocked else .directory
    | .invalidArgument .. => return .tooLong
    | _ => return .absent

private def requestedEntry (arguments : List String) : IO FileEntry :=
  match Request.ofArguments arguments with
  | .run options => fileEntry (Files.spelling options.rom)
  | _ => return .absent

private def printNow (text : String) : IO Unit := do
  let output ← IO.getStdout
  output.putStr text
  output.flush

private def secondsNow : IO Quantity := do
  return .real ((← IO.monoNanosNow).toFloat / 1e9)

/-- Print what the console holds, and wait as long as it was asked to. -/
private def settle (console : Console) : IO Console := do
  printNow console.output
  match console.waited.toFloat with
  | .ok seconds =>
    if 0.0 < seconds then IO.sleep (seconds * 1000.0).toUInt32
  | .error _ => pure ()
  return { console with output := "", waited := .real 0.0, now := ← secondsNow }

private partial def runCycles (drawing : Bool) (machine : Machine Quantity) (console : Console)
    (remaining : Option Nat) : IO (Option Error × Machine Quantity × Console) := do
  match Machine.cycles (surroundings drawing) 1 remaining (machine, console) with
  | .ok finished (machine, console) =>
    let console ← settle console
    if finished then return (none, machine, console)
    else runCycles drawing machine console (remaining.map (· - 1))
  | .error error (machine, console) => return (some error, machine, ← settle console)

private def runSession (options : Options) (config : Config Quantity) (image : List UInt8) :
    IO UInt32 := do
  let drawing := !options.noRender
  let surroundings := surroundings drawing
  let begin : Call Quantity Console (Option Nat) := do
    let _ ← Machine.load surroundings image
    Machine.beginRun surroundings
    return Machine.allowance (← Machine.read) none
  let console := { Console.fresh none with now := ← secondsNow }
  let (error, machine, _) ←
    match begin (Machine.idle config, console) with
    | .ok remaining (machine, console) => runCycles drawing machine console remaining
    | .error error (machine, console) => pure (some error, machine, console)
  match runEnding error with
  | .ok (text, code) =>
    printNow (text ++ options.closing machine)
    return UInt32.ofNat code
  | .error error =>
    IO.eprintln error.message
    return 1

def runProgram (arguments : List String) : IO UInt32 := do
  let entry ← requestedEntry arguments
  match prepare (fun _ => entry) arguments with
  | .ended output ending =>
    printNow output
    match ending with
    | .code code => return UInt32.ofNat code
    | .misuse message =>
      IO.eprint (misuseText message)
      return 2
    | .error error =>
      IO.eprintln error.message
      return 1
    | _ => return 0
  | .ready options config image =>
    printNow (options.opening image)
    if !options.noWait then
      printNow Options.prompt
      if (← (← IO.getStdin).getLine).isEmpty then
        IO.eprintln "EOF when reading a line"
        return 1
    if !options.noRender then printNow Frame.clearScreen
    runSession options config image

end ChipEight.Command

def main (arguments : List String) : IO UInt32 :=
  ChipEight.Command.runProgram arguments
