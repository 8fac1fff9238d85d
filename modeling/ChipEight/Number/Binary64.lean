/-! Floating point numbers of 64 bits as whole numbers times powers of two, and the shortest
decimals that read back as them. -/

namespace ChipEight

inductive Binary64 where
  | notANumber
  | infinite (negative : Bool)
  /-- `mantissa * 2 ^ exponent`, or its negative. -/
  | finite (negative : Bool) (mantissa : Nat) (exponent : Int)
  deriving Repr, DecidableEq

namespace Binary64

def ofBits (bits : Nat) : Binary64 :=
  let negative := bits >>> 63 % 2 == 1
  let biased : Nat := bits >>> 52 % 0x800
  let fraction : Nat := bits % 0x10000000000000
  if biased = 2047 then
    if fraction = 0 then .infinite negative else .notANumber
  else if biased = 0 then .finite negative fraction (-1074)
  else .finite negative (0x10000000000000 + fraction) ((biased : Int) - 1075)

def ofFloat (value : Float) : Binary64 :=
  ofBits value.toBits.toNat

/-- The number without its fraction. -/
def truncate? : Binary64 → Option Int
  | .finite negative mantissa exponent =>
    let magnitude :=
      if 0 ≤ exponent then mantissa <<< exponent.toNat
      else mantissa >>> (-exponent).toNat
    some (if negative then -(magnitude : Int) else magnitude)
  | _ => none

example : (ofBits 0x400F333333333333).truncate? = some 3 := by decide
example : (ofBits 0xC00F333333333333).truncate? = some (-3) := by decide

end Binary64

/-- `digits * 10 ^ exponent`. -/
structure Decimal where
  digits : Nat
  exponent : Int
  deriving Repr, DecidableEq

/-- The reals that round to one floating point number, all over one denominator. -/
structure Rounding where
  low : Nat
  value : Nat
  high : Nat
  denominator : Nat
  closed : Bool

namespace Rounding

/-- The gap below a power of two is half as wide, except below the least normal number. -/
def ofBinary (mantissa : Nat) (exponent : Int) : Rounding :=
  let scale := if 2 ≤ exponent then 1 <<< (exponent - 2).toNat else 1
  let below := if mantissa = 0x10000000000000 ∧ exponent ≠ -1074 then 1 else 2
  { low := (4 * mantissa - below) * scale
    value := 4 * mantissa * scale
    high := (4 * mantissa + 2) * scale
    denominator := if 2 ≤ exponent then 1 else 1 <<< (2 - exponent).toNat
    closed := mantissa % 2 == 0 }

/-- The place of the first decimal digit. -/
def leadingPlace (interval : Rounding) : Int :=
  let units := interval.value / interval.denominator
  if units ≠ 0 then Int.ofNat (Nat.toDigits 10 units).length - 1
  else
    let reaches places := interval.denominator ≤ interval.value * Nat.pow 10 places
    Int.negOfNat (((List.range 400).find? reaches).getD 0)

/-- A decimal and the number, brought to one denominator. -/
def scaled (interval : Rounding) (decimal : Decimal) : Nat × Nat :=
  if 0 ≤ decimal.exponent then
    (decimal.digits * Nat.pow 10 decimal.exponent.toNat * interval.denominator, 1)
  else (decimal.digits * interval.denominator, Nat.pow 10 (-decimal.exponent).toNat)

def contains (interval : Rounding) (decimal : Decimal) : Bool :=
  let (point, factor) := interval.scaled decimal
  if interval.closed then interval.low * factor ≤ point && point ≤ interval.high * factor
  else interval.low * factor < point && point < interval.high * factor

/-- The neighbour below the number on the grid of `10 ^ place`. -/
def floor (interval : Rounding) (place : Int) : Decimal :=
  if 0 ≤ place then ⟨interval.value / (interval.denominator * Nat.pow 10 place.toNat), place⟩
  else ⟨interval.value * Nat.pow 10 (-place).toNat / interval.denominator, place⟩

/-- The hit on one grid, if there is one. Of two hits the nearer one wins, and of two equally
near ones the even one. -/
def hit? (interval : Rounding) (place : Int) : Option Decimal :=
  let below := interval.floor place
  let above : Decimal := ⟨below.digits + 1, place⟩
  match interval.contains below, interval.contains above with
  | false, false => none
  | true, false => some below
  | false, true => some above
  | true, true =>
    let (lower, factor) := interval.scaled below
    let (upper, _) := interval.scaled above
    let down := interval.value * factor - lower
    let up := upper - interval.value * factor
    if down < up ∨ (down = up ∧ below.digits % 2 = 0) then some below else some above

/-- The hit on the coarsest grid that has one. Seventeen digits always suffice. -/
def shortest (interval : Rounding) : Decimal :=
  let place := interval.leadingPlace
  ((List.range 17).findSome? fun count => interval.hit? (place - Int.ofNat count)).getD ⟨0, 0⟩

end Rounding

/-- How a floating point number is laid out: positional when its first digit stands at a place
in `[leastPlace, placeLimit)`, otherwise with an exponent of at least `exponentWidth` digits. -/
structure DecimalLayout where
  leastPlace : Int
  placeLimit : Int
  exponentWidth : Nat

namespace DecimalLayout

private def stripZeros (digits : List Char) : List Char :=
  (digits.reverse.dropWhile (· == '0')).reverse

def positional (digits : List Char) (place : Int) : List Char :=
  if place < 0 then
    '0' :: '.' :: List.replicate (-place - 1).toNat '0' ++ digits
  else
    let count := place.toNat + 1
    let units := (digits ++ List.replicate (count - digits.length) '0').take count
    let fraction := digits.drop count
    units ++ '.' :: (if fraction.isEmpty then ['0'] else fraction)

def scientific (layout : DecimalLayout) (digits : List Char) (place : Int) : List Char :=
  let fraction := digits.drop 1
  let sign := if place < 0 then '-' else '+'
  let power := (Nat.toDigits 10 place.natAbs).leftpad layout.exponentWidth '0'
  digits.take 1 ++ (if fraction.isEmpty then [] else '.' :: fraction) ++ 'e' :: sign :: power

def write (layout : DecimalLayout) (decimal : Decimal) : List Char :=
  let all := Nat.toDigits 10 decimal.digits
  let place := decimal.exponent + all.length - 1
  let digits := stripZeros all
  if layout.leastPlace ≤ place ∧ place < layout.placeLimit then positional digits place
  else layout.scientific digits place

end DecimalLayout

namespace Binary64

def text (layout : DecimalLayout) : Binary64 → String
  | .notANumber => "nan"
  | .infinite negative => if negative then "-inf" else "inf"
  | .finite negative mantissa exponent =>
    let sign := if negative then "-" else ""
    if mantissa = 0 then sign ++ "0.0"
    else sign ++ String.ofList (layout.write (Rounding.ofBinary mantissa exponent).shortest)

end Binary64

end ChipEight
