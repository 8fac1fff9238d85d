import ChipEight.Clock

namespace ChipEight

structure Config (τ : Type) where
  /-- Instruction cycles a second; none or zero runs as fast as it can. -/
  rate : Option τ
  /-- Ticks a second of the two timers; with none they tick once a cycle. -/
  timerRate : Option τ
  /-- Words without an operation are faults. -/
  strict : Bool
  /-- How many entries the trace keeps. -/
  traceLimit : Int
  /-- The limit of a run that is not given one. -/
  maxCycles : Option Int
  /-- Show the screen only after operations that change it. -/
  renderOnChange : Bool

/-- A setting that is not accepted, with its value as reports show it. -/
inductive ConfigError where
  | rate (value : String)
  | timerRate (value : String)
  | traceLimit (value : Int)
  | maxCycles (value : Int)
  deriving Repr, DecidableEq

namespace ConfigError

def message : ConfigError → String
  | rate value => "hz must be >= 0, got " ++ value
  | timerRate value => "timer_hz must be > 0, got " ++ value
  | traceLimit value => "trace_limit must be >= 0, got " ++ toString value
  | maxCycles value => "max_cycles must be >= 0, got " ++ toString value

end ConfigError

namespace Config

variable {τ : Type} [TimeScale τ]

def standard : Config τ where
  rate := some (TimeScale.ofInt 60)
  timerRate := none
  strict := false
  traceLimit := 1000
  maxCycles := none
  renderOnChange := true

/-- The first setting, in this order, that is not accepted ends the check. -/
def check (config : Config τ) : Except ConfigError Unit := do
  if let some rate := config.rate then
    if TimeScale.isNegative rate then throw (.rate (TimeScale.text rate))
  if let some rate := config.timerRate then
    if TimeScale.isNonPositive rate then throw (.timerRate (TimeScale.text rate))
  if config.traceLimit < 0 then throw (.traceLimit config.traceLimit)
  if let some limit := config.maxCycles then
    if limit < 0 then throw (.maxCycles limit)

/-- The seconds one cycle should take. -/
def cyclePeriod (config : Config τ) : Except NumberError τ :=
  match config.rate with
  | some rate => TimeScale.period rate
  | none => .ok TimeScale.zero

end Config

/-- What the machine enters in the logbook. -/
inductive Note where
  /-- `bytes` of `total` bytes found room. -/
  | truncated (bytes total : Int)
  | loaded (bytes : Int)
  | ended (pc : Int)
  | faulted (pc word : Int) (cause : Fault)
  /-- A word without an operation was passed over. -/
  | ignored (word pc : Int)
  deriving Repr, DecidableEq

namespace Note

def message : Note → String
  | truncated bytes total =>
    "Program truncated: " ++ toString bytes ++ " of " ++ toString total ++ " bytes loaded"
  | loaded bytes => "Loaded " ++ toString bytes ++ " bytes at 0x200"
  | ended pc => "Halted: PC=0x" ++ Hex.padded 3 pc ++ " past end of memory"
  | faulted pc word cause =>
    "Fault at PC=0x" ++ Hex.padded 3 pc ++ " executing " ++ Hex.padded 4 word ++ ": " ++
      cause.message
  | ignored word pc =>
    "Ignoring unknown opcode " ++ Hex.padded 4 word ++ " at PC=0x" ++ Hex.padded 3 pc

end Note

/-- How a screen took a frame: whether it asked the machine to stop, and whether the person at
it broke the run off, in which case the frame was not shown. -/
structure Reception where
  stop : Bool
  interrupt : Bool
  deriving Repr, DecidableEq

/-- `τ` measures time and `ε` is the world outside the machine. -/
structure Surroundings (τ ε : Type) where
  clock : ε → Except Error τ × ε
  poll : ε → List Bool × ε
  render : List Int → ε → Reception × ε
  /-- Wait for some seconds; the answer tells whether a stop was asked for meanwhile. -/
  wait : τ → ε → Except Error Bool × ε
  note : Note → ε → ε

structure Keypad where
  held : List Bool
  deriving Repr, DecidableEq

namespace Keypad

def released : Keypad := ⟨List.replicate 16 false⟩

private def change (keypad : Keypad) (key : Int) (down : Bool) : Except Error Keypad :=
  if 0 ≤ key ∧ key < 16 then .ok ⟨keypad.held.set key.toNat down⟩
  else if Reading.isWritable key then .error (.keyOutOfRange key)
  else .error .tooManyDigits

def press (keypad : Keypad) (key : Int) : Except Error Keypad :=
  keypad.change key true

def release (keypad : Keypad) (key : Int) : Except Error Keypad :=
  keypad.change key false

/-- A keypad with some keys held. The first key that there is not ends the attempt. -/
def holding (keys : List Int) : Except Error Keypad :=
  keys.foldlM press released

end Keypad

end ChipEight
