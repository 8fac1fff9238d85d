import ChipEight.Memory

namespace ChipEight

namespace Hexdump

def bytesPerLine : Nat := 16

/-- Bytes in groups of two. -/
def groups : List UInt8 → List (List Char)
  | [] => []
  | [byte] => [Hex.byteChars byte]
  | high :: low :: rest => (Hex.byteChars high ++ Hex.byteChars low) :: groups rest

def line (address : Int) (bytes : List UInt8) : List Char :=
  Hex.paddedChars 4 address ++ ':' :: ' ' :: [' '].intercalate (groups bytes)

/-- The lines of an image whose first byte has the given address. -/
def lines (address : Int) (image : List UInt8) : List (List Char) :=
  if image.isEmpty then []
  else
    line address (image.take bytesPerLine) ::
      lines (address + bytesPerLine) (image.drop bytesPerLine)
termination_by image.length
decreasing_by
  rename_i present
  have : image ≠ [] := by simpa using present
  have := List.length_pos_iff.mpr this
  simp only [List.length_drop, bytesPerLine]
  omega

def text (address : Int) (image : List UInt8) : String :=
  String.ofList (['\n'].intercalate (lines address image))

end Hexdump

namespace HexSource

open ChipEight.Text

inductive SourceError where
  /-- The word, in capitals and without its mark, has an odd number of characters. -/
  | oddLength (word : String)
  /-- A character that is no digit, by its position in such a word. -/
  | notADigit (position : Nat)
  deriving Repr, DecidableEq

def SourceError.message : SourceError → String
  | .oddLength word => "Odd-length hex token: " ++ word
  | .notADigit position =>
    "non-hexadecimal number found in fromhex() arg at position " ++ toString position

def withoutComment (line : List Char) : List Char :=
  line.takeWhile fun char => char != ';' && char != '#'

def withoutMark : List Char → List Char
  | '0' :: 'X' :: rest => rest
  | word => word

/-- The digits of a word: its capitals, without the mark in front. -/
def body (word : List Char) : List Char :=
  withoutMark (upper word)

/-- The bytes of a row of digit pairs. -/
def pairs? : List Char → Option (List UInt8)
  | [] => some []
  | high :: low :: rest => do
    let left ← Hex.digitValue? high
    let right ← Hex.digitValue? low
    let bytes ← pairs? rest
    return UInt8.ofNat (16 * left + right) :: bytes
  | [_] => none

/-- A character beyond the first 128 is named before any other that is no digit. -/
def firstMisfit (digits : List Char) : Nat :=
  match digits.findIdx? fun char => 128 ≤ char.toNat with
  | some position => position
  | none => digits.findIdx fun char => (Hex.digitValue? char).isNone

def wordBytes (word : List Char) : Except SourceError (List UInt8) :=
  let digits := body word
  if digits.length % 2 = 1 then .error (.oddLength (String.ofList digits))
  else
    match pairs? digits with
    | some bytes => .ok bytes
    | none => .error (.notADigit (firstMisfit digits))

/-- All words of a source, comments left out. -/
def sourceWords (source : List Char) : List (List Char) :=
  (lines source).flatMap fun line => words (withoutComment line)

/-- The bytes of the words in order, or the error of the first word that has none. -/
def parse (source : List Char) : Except SourceError (List UInt8) := do
  return (← (sourceWords source).mapM wordBytes).flatten

end HexSource

end ChipEight
