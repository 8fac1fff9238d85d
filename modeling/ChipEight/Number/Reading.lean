import ChipEight.Number.Whole
import ChipEight.Text.Characters

/-! Numbers typed by people. Blanks around a number, a sign, decimal digits of any script, and
single underscores between digits are accepted. -/

namespace ChipEight.Reading

open ChipEight.Text

def isMargin (char : Char) : Bool :=
  isBlank char && !(0x1C ≤ char.toNat && char.toNat ≤ 0x1F)

/-- Digits of other scripts become the plain ones. -/
def plain (char : Char) : Char :=
  match digitValue? char with
  | some value => Char.ofNat (48 + value)
  | none => char

def prepared (text : List Char) : List Char :=
  (trimBlanks isMargin text).map plain

/-- The sign in front, and what follows it. -/
def takeSign : List Char → Bool × List Char
  | '-' :: rest => (true, rest)
  | '+' :: rest => (false, rest)
  | rest => (false, rest)

/-- Groups of digits with one underscore between two groups. -/
def digits? (base : Nat) (text : List Char) : Option (List Nat) :=
  let groups := text.splitOn '_'
  if groups.any List.isEmpty then none
  else groups.flatten.mapM fun char => (Hex.digitValue? char).filter (· < base)

def valueOf (base : Nat) (digits : List Nat) : Nat :=
  digits.foldl (fun value digit => value * base + digit) 0

/-- In base sixteen the digits may follow `0x`, and one underscore may stand after that. -/
def dropBaseMark : List Char → List Char
  | '0' :: mark :: rest =>
    if mark == 'x' || mark == 'X' then
      match rest with
      | '_' :: digits => digits
      | digits => digits
    else '0' :: mark :: rest
  | text => text

/-- Numbers with more decimal digits are neither read nor written. -/
def digitLimit : Nat := 4300

def isWritable (value : Int) : Bool :=
  value.natAbs < Nat.pow 10 digitLimit

def decimal? (text : String) : Option Int := do
  let (negative, body) := takeSign (prepared text.toList)
  let digits ← digits? 10 body
  if digits.length > digitLimit then none
  else
    let value : Int := valueOf 10 digits
    some (if negative then -value else value)

def hexadecimal? (text : String) : Option Int := do
  let (negative, body) := takeSign (prepared text.toList)
  let digits ← digits? 16 (dropBaseMark body)
  let value : Int := valueOf 16 digits
  some (if negative then -value else value)

/-- `digits * 10 ^ exponent` as the nearest floating point number. Exponents far outside the
range are settled first. -/
def nearestFloat (digits : Nat) (exponent : Int) : Float :=
  let place := exponent + (Nat.toDigits 10 digits).length
  if digits = 0 ∨ place < -400 then 0.0
  else if 400 < place then Float.ofScientific 1 false 400
  else Float.ofScientific digits (exponent < 0) exponent.natAbs

/-- Every underscore has a digit on both sides. -/
def underscoresSeparate : Char → List Char → Bool
  | _, [] => true
  | before, '_' :: rest =>
    before.isDigit && (rest.head?.any Char.isDigit) && underscoresSeparate '_' rest
  | _, char :: rest => underscoresSeparate char rest

def exponent? : List Char → Option Int
  | [] => some 0
  | mark :: rest =>
    if mark == 'e' || mark == 'E' then
      let (negative, body) := takeSign rest
      if body.isEmpty || !body.all Char.isDigit then none
      else
        let value : Int := valueOf 10 (body.map fun char => char.toNat - 48)
        some (if negative then -value else value)
    else none

def magnitude? (text : List Char) : Option Float := do
  let units := text.takeWhile Char.isDigit
  let afterUnits := text.dropWhile Char.isDigit
  let (fraction, tail) :=
    match afterUnits with
    | '.' :: rest => (rest.takeWhile Char.isDigit, rest.dropWhile Char.isDigit)
    | rest => ([], rest)
  if units.isEmpty && fraction.isEmpty then none
  else
    let power ← exponent? tail
    let digits := valueOf 10 ((units ++ fraction).map fun char => char.toNat - 48)
    some (nearestFloat digits (power - fraction.length))

def named? (text : List Char) : Option Float :=
  let name := String.ofList (text.map Char.toLower)
  if name == "inf" || name == "infinity" then some (1.0 / 0.0)
  else if name == "nan" then some (0.0 / 0.0)
  else none

def real? (text : String) : Option Float := do
  let all := prepared text.toList
  if !underscoresSeparate ' ' all then none
  else
    let (negative, body) := takeSign (all.filter (· != '_'))
    let value ← (named? body).or (magnitude? body)
    some (if negative then -value else value)

example : decimal? " 1_0 " = some 10 ∧ decimal? "1__0" = none ∧ decimal? "-٣" = some (-3) := by
  decide +kernel

example : hexadecimal? "0x_f" = some 15 ∧ hexadecimal? "0x" = none := by decide +kernel

end ChipEight.Reading
