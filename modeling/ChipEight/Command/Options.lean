import ChipEight.Clock

namespace ChipEight

namespace Command

def programName : String := "chip8-vm"

def usageLines : List String :=
  ["usage: chip8-vm [-h] [--hz HZ] [--timer-hz TIMER_HZ] [--max-cycles MAX_CYCLES]",
    "                [--strict] [--hexdump] [--no-render] [--no-wait] [--trace]",
    "                [--quiet] [--verbose]",
    "                rom"]

def helpLines : List String :=
  usageLines ++
  ["",
    "chip8-vm: CHIP-8 virtual machine interpreter",
    "",
    "positional arguments:",
    "  rom                   Path to the CHIP-8 program image",
    "",
    "options:",
    "  -h, --help            show this help message and exit",
    "  --hz HZ               Instruction cycles per second, 0 for unthrottled.",
    "                        Default: 60",
    "  --timer-hz TIMER_HZ   Clock the delay/sound timers independently at this",
    "                        rate. Default: tick once per instruction cycle",
    "  --max-cycles MAX_CYCLES",
    "                        Stop after this many cycles. Default: run until halted",
    "  --strict              Treat unknown opcodes as fatal instead of no-ops",
    "  --hexdump             Print a hexdump of the program before running",
    "  --no-render           Do not draw the display in the terminal",
    "  --no-wait             Start immediately instead of waiting for Enter",
    "  --trace, -t           Print the execution trace when the run ends",
    "  --quiet, -q           Minimal output (non-zero registers only)",
    "  --verbose, -v         Enable debug logging",
    "",
    "Examples:",
    "    # Run a ROM at the default 60 cycles per second",
    "    chip8-vm roms/ibm.ch8",
    "",
    "    # Run faster, with timers still ticking at 60 Hz",
    "    chip8-vm roms/ibm.ch8 --hz 700 --timer-hz 60",
    "",
    "    # Headless: execute 100 cycles and print the trace",
    "    chip8-vm roms/ibm.ch8 --no-render --no-wait --max-cycles 100 --trace",
    "        "]

private def joined (lines : List String) : String :=
  String.join (lines.map (· ++ "\n"))

def usage : String := joined usageLines

def helpText : String := joined helpLines

/-- What is said when the arguments cannot be used. -/
def misuseText (message : String) : String :=
  usage ++ programName ++ ": error: " ++ message ++ "\n"

/-- What an option that takes a value was given. -/
inductive Given (α : Type) where
  | value (value : α)
  | nothing
  deriving Repr, DecidableEq

structure Options where
  rom : String
  rate : Given Quantity
  timerRate : Option (Given Quantity)
  maxCycles : Option (Given Int)
  strict : Bool
  hexdump : Bool
  noRender : Bool
  noWait : Bool
  trace : Bool
  quiet : Bool
  verbose : Bool

namespace Options

def standard : Options where
  rom := ""
  rate := .value (.whole 60)
  timerRate := none
  maxCycles := none
  strict := false
  hexdump := false
  noRender := false
  noWait := false
  trace := false
  quiet := false
  verbose := false

end Options

inductive OptionName where
  | help
  | rate
  | timerRate
  | maxCycles
  | strict
  | hexdump
  | noRender
  | noWait
  | trace
  | quiet
  | verbose
  deriving Repr, DecidableEq

namespace OptionName

/-- The spellings of all options, in the order in which choices are listed. -/
def spellings : List (List Char × OptionName) :=
  [("-h", help), ("--help", help), ("--hz", rate), ("--timer-hz", timerRate),
    ("--max-cycles", maxCycles), ("--strict", strict), ("--hexdump", hexdump),
    ("--no-render", noRender), ("--no-wait", noWait), ("--trace", trace), ("-t", trace),
    ("--quiet", quiet), ("-q", quiet), ("--verbose", verbose), ("-v", verbose)].map
    fun (spelling, name) => (spelling.toList, name)

/-- All spellings of an option, as messages name it. -/
def title (name : OptionName) : String :=
  "/".intercalate ((spellings.filter fun choice => choice.2 = name).map fun choice =>
    String.ofList choice.1)

def takesValue : OptionName → Bool
  | rate | timerRate | maxCycles => true
  | _ => false

end OptionName

structure Choice where
  name : OptionName
  spelling : List Char
  /-- What stands behind the spelling, in the same argument. -/
  attached : Option (List Char)
  deriving Repr, DecidableEq

/-- What an argument is before the options are carried out. -/
inductive Token where
  | operand (text : List Char)
  | separator
  | choice (choice : Choice)
  /-- It looks like an option, and there is none like it. -/
  | stranger (text : List Char)
  deriving Repr, DecidableEq

/-- What the command line asks for. -/
inductive Request where
  | run (options : Options)
  | help
  | misuse (message : String)

/-- A minus sign with a number behind it, which is no option. A line feed may follow. -/
def isNegativeNumber (text : List Char) : Bool :=
  match text with
  | '-' :: rest =>
    let body := if rest.getLast? = some '\n' then rest.dropLast else rest
    let isDigit := fun char => (Text.digitValue? char).isSome
    let fraction := (body.dropWhile isDigit).drop 1
    (!body.isEmpty && body.all isDigit) ||
      ((body.dropWhile isDigit).head? = some '.' && !fraction.isEmpty && fraction.all isDigit)
  | _ => false

/-- An argument cut at its first equals sign. -/
def cutAtSign (text : List Char) : List Char × Option (List Char) :=
  match text.dropWhile (· != '=') with
  | [] => (text, none)
  | _ :: value => (text.takeWhile (· != '='), some value)

/-- The options an argument may mean that is no complete spelling. -/
def candidates : List Char → List Choice
  | '-' :: '-' :: rest =>
    let (front, value) := cutAtSign ('-' :: '-' :: rest)
    (OptionName.spellings.filter fun choice => front.isPrefixOf choice.1).map
      fun (spelling, name) => ⟨name, spelling, value⟩
  | '-' :: letter :: rest =>
    (OptionName.spellings.filter fun choice => choice.1 = ['-', letter]).map
      fun (spelling, name) => ⟨name, spelling, some rest⟩
  | _ => []

private def ambiguous (text : List Char) (choices : List Choice) : String :=
  "ambiguous option: " ++ String.ofList text ++ " could match " ++
    ", ".intercalate (choices.map fun choice => String.ofList choice.spelling)

/-- An argument before any `--`. -/
def classify (text : List Char) : Except String Token :=
  if text.head? ≠ some '-' then .ok (.operand text)
  else
    match OptionName.spellings.lookup text with
    | some name => .ok (.choice ⟨name, text, none⟩)
    | none =>
      if text.length = 1 then .ok (.operand text)
      else
        let (front, value) := cutAtSign text
        match value, OptionName.spellings.lookup front with
        | some value, some name => .ok (.choice ⟨name, front, some value⟩)
        | _, _ =>
          match candidates text with
          | [choice] => .ok (.choice choice)
          | [] =>
            if isNegativeNumber text || text.contains ' ' then .ok (.operand text)
            else .ok (.stranger text)
          | choices => .error (ambiguous text choices)

/-- Ambiguous options are refused before anything else is looked at. -/
def tokens : List (List Char) → Except String (List Token)
  | [] => .ok []
  | text :: rest => do
    if text = ['-', '-'] then return .separator :: rest.map .operand
    let token ← classify text
    return token :: (← tokens rest)

/-- The options so far, the operand so far, and the arguments without a meaning. -/
structure Progress where
  options : Options
  rom : Option (List Char)
  extras : List (List Char)

/-- Why reading ends early. -/
inductive Halt where
  | help
  | misuse (message : String)

private def argumentError (name : OptionName) (message : String) : Halt :=
  .misuse ("argument " ++ name.title ++ ": " ++ message)

private def refused (name : OptionName) (value : List Char) : Halt :=
  argumentError name ("ignored explicit argument " ++ String.ofList (Text.quoted value))

private def unreadable (name : OptionName) (kind : String) (value : List Char) : Halt :=
  argumentError name ("invalid " ++ kind ++ " value: " ++ String.ofList (Text.quoted value))

def setFlag (options : Options) : OptionName → Except Halt Options
  | .help => .error .help
  | .strict => .ok { options with strict := true }
  | .hexdump => .ok { options with hexdump := true }
  | .noRender => .ok { options with noRender := true }
  | .noWait => .ok { options with noWait := true }
  | .trace => .ok { options with trace := true }
  | .quiet => .ok { options with quiet := true }
  | .verbose => .ok { options with verbose := true }
  | _ => .ok options

private def given (name : OptionName) (kind : String) (read? : String → Option α)
    (value : List Char) : Except Halt (Given α) :=
  if value = ['-', '-'] then .ok .nothing
  else
    match read? (String.ofList value) with
    | some value => .ok (.value value)
    | none => .error (unreadable name kind value)

private def givenReal (name : OptionName) : List Char → Except Halt (Given Quantity) :=
  given name "float" fun text => (Reading.real? text).map .real

def setValue (options : Options) (name : OptionName) (value : List Char) :
    Except Halt Options := do
  match name with
  | .rate => return { options with rate := ← givenReal name value }
  | .timerRate => return { options with timerRate := some (← givenReal name value) }
  | .maxCycles =>
    return { options with maxCycles := some (← given name "int" Reading.decimal? value) }
  | _ => return options

/-- The short options written in one argument, each a letter: the first one and those behind
it. A letter that is no option is refused with everything after it, in the name of the option
before it. -/
def cluster (name : OptionName) : List Char → Except Halt (List OptionName)
  | [] => .ok [name]
  | letter :: rest =>
    match OptionName.spellings.lookup ['-', letter] with
    | none => .error (refused name (letter :: rest))
    | some next => do return name :: (← cluster next rest)

/-- An option that takes no value, written with something attached: short ones may follow a
short one, also behind an equals sign. -/
def attachedFlags (choice : Choice) (attached : List Char) : Except Halt (List OptionName) :=
  if choice.spelling.take 2 = ['-', '-'] || attached.isEmpty then
    .error (refused choice.name attached)
  else cluster choice.name attached

def Progress.addExtra (progress : Progress) (text : List Char) : Progress :=
  { progress with extras := progress.extras ++ [text] }

/-- An option that does not take the next argument. All options of one argument are read before
the first of them is carried out. -/
def carryOut (progress : Progress) (choice : Choice) : Except Halt Progress := do
  match choice.attached with
  | none => return { progress with options := ← setFlag progress.options choice.name }
  | some attached =>
    if choice.name.takesValue then
      return { progress with options := ← setValue progress.options choice.name attached }
    else
      let names ← attachedFlags choice attached
      return { progress with options := ← names.foldlM setFlag progress.options }

/-- The first operand is the image to run; a separator right behind it is dropped with it. -/
def carryOutAll (progress : Progress) : List Token → Except Halt Progress
  | [] => .ok progress
  | .stranger text :: rest => carryOutAll (progress.addExtra text) rest
  | .choice choice :: rest =>
    if choice.name.takesValue && choice.attached.isNone then
      match rest with
      | .operand value :: rest => do
        let options ← setValue progress.options choice.name value
        carryOutAll { progress with options } rest
      | _ => .error (argumentError choice.name "expected one argument")
    else do
      let progress ← carryOut progress choice
      carryOutAll progress rest
  | .operand text :: rest =>
    match progress.rom, rest with
    | none, .separator :: rest => carryOutAll { progress with rom := some text } rest
    | none, rest => carryOutAll { progress with rom := some text } rest
    | some _, rest => carryOutAll (progress.addExtra text) rest
  | .separator :: rest =>
    match progress.rom, rest with
    | none, .operand text :: rest => carryOutAll { progress with rom := some text } rest
    | _, rest => carryOutAll (progress.addExtra ['-', '-']) rest

def Progress.request (progress : Progress) : Request :=
  match progress.rom with
  | none => .misuse "the following arguments are required: rom"
  | some rom =>
    if progress.extras.isEmpty then .run { progress.options with rom := String.ofList rom }
    else
      .misuse ("unrecognized arguments: " ++
        " ".intercalate (progress.extras.map String.ofList))

def Request.ofArguments (arguments : List String) : Request :=
  match tokens (arguments.map String.toList) with
  | .error message => .misuse message
  | .ok tokens =>
    match carryOutAll ⟨Options.standard, none, []⟩ tokens with
    | .ok progress => progress.request
    | .error .help => .help
    | .error (.misuse message) => .misuse message

end Command

end ChipEight
