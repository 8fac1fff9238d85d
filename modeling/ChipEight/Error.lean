import ChipEight.Files.Lookup
import ChipEight.Number.Reading

namespace ChipEight

/-- What a program can do wrong. An `execution` fault tells that of one instruction. -/
inductive Fault where
  | general (text : String)
  | stack (text : String)
  /-- `length` bytes from `address` on do not all lie in a memory of `size` bytes. -/
  | outOfBounds (address length size : Int)
  /-- A call was made with `depth` return addresses on the stack. -/
  | stackOverflow (depth : Int)
  | stackUnderflow
  /-- The word belongs to no operation. -/
  | unknownWord (word : Int)
  | execution (word pc : Int) (cause : Fault)
  | executionUncaused (word pc : Int)
  deriving Repr, DecidableEq

namespace Fault

private def place (word pc : Int) : String :=
  "Fault at PC=0x" ++ Hex.padded 3 pc ++ " executing " ++ Hex.padded 4 word

def message : Fault → String
  | general text => text
  | stack text => text
  | outOfBounds address length size =>
    let range :=
      if length = 1 then "Address 0x" ++ Hex.padded 4 address
      else "Range 0x" ++ Hex.padded 4 address ++ "+" ++ toString length
    range ++ " outside memory [0x000, 0x" ++ Hex.padded 3 size ++ ")"
  | stackOverflow depth =>
    "Stack overflow: " ++ toString depth ++ " return addresses already pushed"
  | stackUnderflow => "Stack underflow: return with empty stack"
  | unknownWord word => "Unknown opcode: " ++ Hex.padded 4 word
  | execution word pc cause => place word pc ++ ": " ++ cause.message
  | executionUncaused word pc => place word pc

end Fault

inductive Status where
  | idle
  | loaded
  | running
  | halted
  | faulted
  deriving Repr, DecidableEq

namespace Status

def name : Status → String
  | idle => "idle"
  | loaded => "loaded"
  | running => "running"
  | halted => "halted"
  | faulted => "faulted"

end Status

/-- A number that is not fit for the arithmetic of clocks. -/
inductive NumberError where
  | notANumber
  | infinite
  | tooLarge
  deriving Repr, DecidableEq

/-- Whatever can end a call before its result. -/
inductive Error where
  | fault (cause : Fault)
  | unknownRegister (name : String)
  | unknownOperation (key : String)
  | tableFrozen
  | operationTaken (key : String)
  /-- A slot that does not exist was read. -/
  | missingSlot (slot : Int)
  /-- A slot that does not exist was written. -/
  | missingTarget (slot : Int)
  | pixelPastRightEdge
  /-- A memory of fewer than no bytes. -/
  | negativeSize
  /-- A memory whose bytes could not all be numbered. -/
  | sizeOutOfRange
  /-- A memory of more bytes than are ever given out. -/
  | outOfMemory
  /-- A trace of more entries than can be numbered. -/
  | traceTooLong
  /-- An input source reported `count` keys instead of sixteen. -/
  | keyCount (count : Nat)
  | keyOutOfRange (key : Int)
  | unreadableKey (label : String)
  | notLoaded
  | notStartable (status : Status)
  | notRunning (status : Status)
  | number (cause : NumberError)
  /-- A number to be shown has too many digits. -/
  | tooManyDigits
  /-- A wait that no clock can measure. -/
  | waitTooLong
  | file (cause : FileError)
  /-- A setting without a value met the comparison that tells whether it is accepted. -/
  | valueless (comparison : String)
  /-- The person at the terminal broke off a run. -/
  | interrupted
  deriving Repr, DecidableEq

namespace NumberError

def message : NumberError → String
  | notANumber => "cannot convert float NaN to integer"
  | infinite => "cannot convert float infinity to integer"
  | tooLarge => "int too large to convert to float"

end NumberError

namespace Error

private def unfitNumber : String := "cannot fit 'int' into an index-sized integer"

private def slotMessage (slot : Int) (message : String) : String :=
  if Slots.isSlotNumber slot then message else unfitNumber

def message : Error → String
  | fault cause => cause.message
  | unknownRegister name => "Invalid register: " ++ name
  | unknownOperation key => "Unknown operation key: " ++ key
  | tableFrozen => "Cannot register primitives: registry is frozen"
  | operationTaken key => "Primitive already registered: " ++ key
  | missingSlot slot => slotMessage slot "list index out of range"
  | missingTarget slot => slotMessage slot "list assignment index out of range"
  | pixelPastRightEdge => "negative shift count"
  | negativeSize => "negative count"
  | sizeOutOfRange => unfitNumber
  | outOfMemory => ""
  | traceTooLong => "Python int too large to convert to C ssize_t"
  | keyCount count => "Expected 16 key states, got " ++ toString count
  | keyOutOfRange key => "Key index out of range: " ++ toString key
  | unreadableKey label =>
    let shown := String.ofList ((Text.quoted label.toList).take 200)
    "invalid literal for int() with base 16: " ++ shown
  | notLoaded => "No program loaded"
  | notStartable status => "Cannot start machine in state " ++ status.name
  | notRunning status => "Machine is " ++ status.name
  | number cause => cause.message
  | tooManyDigits =>
    "Exceeds the limit (" ++ toString Reading.digitLimit ++ " digits) for integer string " ++
      "conversion; use sys.set_int_max_str_digits() to increase the limit"
  | waitTooLong => "timestamp too large to convert to C _PyTime_t"
  | file cause => cause.message
  | valueless comparison =>
    Text.quotedString comparison ++ " not supported between instances of 'list' and 'int'"
  | interrupted => ""

end Error

end ChipEight
