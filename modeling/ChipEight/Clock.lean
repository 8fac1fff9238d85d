import ChipEight.Error
import ChipEight.Number.Binary64

namespace ChipEight

/-- The numbers that measure time and rates: exact ones, or those of a computer, whose operations
may fail. -/
class TimeScale (τ : Type) where
  /-- What no time has passed is measured as. -/
  zero : τ
  ofInt : Int → τ
  add : τ → τ → Except NumberError τ
  sub : τ → τ → Except NumberError τ
  mul : τ → τ → Except NumberError τ
  /-- One divided by a number that is not zero. -/
  reciprocal : τ → Except NumberError τ
  /-- The number without its fraction. -/
  truncate : τ → Except NumberError Int
  isZero : τ → Bool
  isNegative : τ → Bool
  isPositive : τ → Bool
  text : τ → String

namespace TimeScale

/-- Zero or below. A number that compares with nothing is not. -/
def isNonPositive [TimeScale τ] (value : τ) : Bool :=
  isZero value || isNegative value

/-- The seconds one of `rate` events a second takes, and none for the rate zero. -/
def period [TimeScale τ] (rate : τ) : Except NumberError τ :=
  if isZero rate then .ok zero else reciprocal rate

end TimeScale

/-- Whole numbers are computed exactly; with a floating point number the result is one too. -/
inductive Quantity where
  | whole (value : Int)
  | real (value : Float)

namespace Quantity

/-- First digits from the fourth place after the point up to the sixteenth before it are written
positionally. -/
def layout : DecimalLayout := ⟨-4, 16, 2⟩

def text : Quantity → String
  | whole value => toString value
  | real value => (Binary64.ofFloat value).text layout

/-- The nearest floating point number, where there is one. -/
def toFloat : Quantity → Except NumberError Float
  | real value => .ok value
  | whole value =>
    let magnitude := Reading.nearestFloat value.natAbs 0
    if magnitude.isInf then .error .tooLarge
    else .ok (if value < 0 then -magnitude else magnitude)

private def combine (exact : Int → Int → Int) (rounded : Float → Float → Float) :
    Quantity → Quantity → Except NumberError Quantity
  | whole left, whole right => .ok (whole (exact left right))
  | left, right => do return real (rounded (← left.toFloat) (← right.toFloat))

def truncate : Quantity → Except NumberError Int
  | whole value => .ok value
  | real value =>
    match Binary64.ofFloat value with
    | .notANumber => .error .notANumber
    | .infinite _ => .error .infinite
    | number => .ok (number.truncate?.getD 0)

instance : TimeScale Quantity where
  zero := real 0.0
  ofInt := whole
  add := combine (· + ·) (· + ·)
  sub := combine (· - ·) (· - ·)
  mul := combine (· * ·) (· * ·)
  reciprocal value := do return real (1.0 / (← value.toFloat))
  truncate := truncate
  isZero
    | whole value => value == 0
    | real value => value == 0.0
  isNegative
    | whole value => value < 0
    | real value => value < 0.0
  isPositive
    | whole value => 0 < value
    | real value => 0.0 < value
  text := text

end Quantity

/-- A whole number is written without a denominator. -/
def fractionText (value : Rat) : String :=
  if value.den = 1 then toString value.num
  else toString value.num ++ "/" ++ toString value.den

instance : TimeScale Rat where
  zero := 0
  ofInt whole := whole
  add left right := .ok (left + right)
  sub left right := .ok (left - right)
  mul left right := .ok (left * right)
  reciprocal value := .ok value⁻¹
  truncate value := .ok (if value < 0 then value.ceil else value.floor)
  isZero value := value == 0
  isNegative value := value < 0
  isPositive value := 0 < value
  text := fractionText

end ChipEight
