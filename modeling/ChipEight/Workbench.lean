import ChipEight.Program
import ChipEight.Report

namespace ChipEight.Workbench

/-- The programs one can begin with, by name. -/
def samplePrograms : List (String × String) :=
  [("Add registers",
      "00E0  ; CLS\n600A  ; LD V0, 0x0A\n6105  ; LD V1, 0x05\n8014  ; ADD V0, V1 -> V0 = 15"),
    ("Draw and erase",
      "00E0  ; CLS\nA20C  ; LD I, 0x20C\n6010  ; LD V0, 16\n6108  ; LD V1, 8\n" ++
        "D014  ; DRW V0, V1, 4\nD014  ; DRW V0, V1, 4 -> erased, VF = 1\n" ++
        "F0F0  ; sprite data\nF0F0"),
    ("BCD",
      "60FE  ; LD V0, 254\nA300  ; LD I, 0x300\nF033  ; LD B, V0\n" ++
        "F265  ; LD V2, [I] -> V0=2 V1=5 V2=4"),
    ("Wait for key", "F00A  ; LD V0, K\n6101  ; LD V1, 1"),
    ("Custom", "")]

/-- A name that there is not gives an empty program. -/
def sampleProgram (name : String) : String :=
  (samplePrograms.lookup name).getD ""

structure Sheet where
  image : Image
  summary : String
  trace : String
  registers : String

namespace Sheet

/-- What is shown instead of a run. -/
def ofError (message : String) : Sheet :=
  ⟨Image.blank, "Error: " ++ message, "", ""⟩

end Sheet

/-- A world in which no time passes and nobody looks at the screen. -/
def surroundings : Surroundings Quantity Keypad where
  clock keypad := (.ok TimeScale.zero, keypad)
  poll keypad := (keypad.held, keypad)
  render _ keypad := (⟨false, false⟩, keypad)
  wait _ keypad := (.ok false, keypad)
  note _ keypad := keypad

def config : Config Quantity :=
  { Config.standard with rate := some (.whole 0), traceLimit := 200 }

/-- Keys by their labels, which are hexadecimal numbers. -/
def keypadOf (labels : List String) : Except Error Keypad :=
  labels.foldlM
    (fun keypad label =>
      match Reading.hexadecimal? label with
      | some key => keypad.press key
      | none => .error (.unreadableKey label))
    Keypad.released

def summaryText (image : List UInt8) (summary : Report.Summary) (fault : Option Fault) : String :=
  "\n".intercalate <|
    ["EXECUTION SUMMARY", Report.rule '=' 40,
      "Program: " ++ toString image.length ++ " bytes",
      "Status: " ++ summary.status.name,
      "Cycles: " ++ toString summary.cycles,
      "Lit pixels: " ++ toString summary.litPixels] ++
    (fault.elim [] fun fault => ["\nRuntime: " ++ fault.message]) ++
    ["\nHEXDUMP", Hexdump.text programStart image]

def entryLines (entry : TraceEntry) : List String :=
  let changes := Report.registerChanges "->" entry.before.registers entry.after.registers
  ["\n--- Cycle " ++ toString entry.cycle ++ " (PC=0x" ++ Hex.padded 3 entry.pc ++ ") ---",
    "Instruction: " ++ entry.event.mnemonic,
    "Decoded Key: " ++ entry.event.key] ++
    (if changes.isEmpty then [] else ["Changes:     " ++ ", ".intercalate changes]) ++
    (entry.fault.elim [] fun fault => ["Error:       " ++ fault.message])

/-- How many entries are shown. -/
def shownEntries : Nat := 100

def traceText (entries : List TraceEntry) : String :=
  let hidden := entries.length - shownEntries
  "\n".intercalate <|
    ["EXECUTION TRACE", Report.rule '=' 60] ++
      (entries.take shownEntries).flatMap entryLines ++
      (if hidden = 0 then [] else ["\n... (" ++ toString hidden ++ " more entries)"])

def registersText (summary : Report.Summary) : String :=
  let line := fun (name, value) =>
    "  " ++ name ++ ": 0x" ++ Hex.padded 2 value ++ " (" ++
      String.ofList ((toString value).toList.leftpad 3 ' ') ++ ")" ++
      (if value = 0 then "" else " *")
  "\n".intercalate <|
    ["REGISTERS", Report.rule '=' 30] ++ (State.namedRegisters summary.registers).map line ++
      ["", "SPECIAL", Report.rule '-' 30,
        "  I:  0x" ++ Hex.padded 3 summary.index,
        "  PC: 0x" ++ Hex.padded 3 summary.pc,
        "  DT: " ++ toString summary.delayTimer,
        "  ST: " ++ toString summary.soundTimer]

/-- A machine with the program loaded, after at most `cycles` cycles, and the fault that ended
the run. -/
def runMachine (image : List UInt8) (keypad : Keypad) (cycles : Quantity) :
    Except Error (Machine Quantity × Option Fault) := do
  let session : Call Quantity Keypad Unit := do
    let _ ← Machine.load surroundings image
    let limit ← Machine.number cycles.truncate
    let _ ← Machine.run surroundings limit.toNat (some limit)
  match session (Machine.idle config, keypad) with
  | .ok _ (machine, _) => return (machine, none)
  | .error (.fault fault) (machine, _) => return (machine, some fault)
  | .error error _ => throw error

def runImage (image : List UInt8) (labels : List String) (cycles : Quantity) :
    Except Error Sheet := do
  if image.isEmpty then return Sheet.ofError "No program provided"
  let keypad ← keypadOf labels
  let (machine, fault) ← runMachine image keypad cycles
  let summary := Report.summary machine
  return {
    image := Image.ofRows (machine.state.elim [] fun state => state.display.rows)
    summary := summaryText image summary fault
    trace := traceText machine.trace.entries
    registers := registersText summary }

/-- Run a typed program, or the image of a file where a path is given. -/
def run (entry : String → FileEntry) (source path : String) (labels : List String)
    (cycles : Quantity) : Except Error Sheet :=
  if path.isEmpty then
    match HexSource.parse source.toList with
    | .ok image => runImage image labels cycles
    | .error error => .ok (Sheet.ofError error.message)
  else
    match Files.read entry path with
    | .ok image => runImage image labels cycles
    | .error error => .ok (Sheet.ofError error.message)

end ChipEight.Workbench
