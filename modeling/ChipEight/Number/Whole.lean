namespace ChipEight

namespace Bits

/-- Bits of `left` that are not bits of `right`. -/
def without (left right : Nat) : Nat :=
  left ^^^ (left &&& right)

/-- Bit by bit, where a negative number has ones for ever. -/
def and : Int → Int → Int
  | .ofNat left, .ofNat right => .ofNat (left &&& right)
  | .ofNat left, .negSucc right => .ofNat (without left right)
  | .negSucc left, .ofNat right => .ofNat (without right left)
  | .negSucc left, .negSucc right => .negSucc (left ||| right)

def or : Int → Int → Int
  | .ofNat left, .ofNat right => .ofNat (left ||| right)
  | .ofNat left, .negSucc right => .negSucc (without right left)
  | .negSucc left, .ofNat right => .negSucc (without left right)
  | .negSucc left, .negSucc right => .negSucc (left &&& right)

def xor : Int → Int → Int
  | .ofNat left, .ofNat right => .ofNat (left ^^^ right)
  | .ofNat left, .negSucc right => .negSucc (left ^^^ right)
  | .negSucc left, .ofNat right => .negSucc (left ^^^ right)
  | .negSucc left, .negSucc right => .ofNat (left ^^^ right)

/-- Bit `place` of a number, place 0 being the lowest. -/
def test (value : Int) (place : Nat) : Bool :=
  (value >>> place) % 2 == 1

/-- How many bits of a number are set. -/
def ones (value : Nat) : Nat :=
  (List.range (value.log2 + 1)).countP value.testBit

example : and (-4) 7 = 4 ∧ or (-4) 1 = -3 ∧ xor (-4) 7 = -5 ∧ xor (-1) (-4) = 3 := by decide
example : test (-1) 70 = true ∧ test 6 0 = false ∧ ones 0xB1 = 4 := by decide

end Bits

namespace Hex

def upperDigit (value : Nat) : Char :=
  if value < 10 then Char.ofNat (48 + value) else Char.ofNat (55 + value)

/-- The digits of a number, the highest first, without leading zeros. -/
def digits (value : Nat) : List Char :=
  (Nat.toDigits 16 value).map fun char => if char.isLower then char.toUpper else char

/-- A least width, which the sign counts towards: `-1` in four places is `-001`. -/
def paddedChars (width : Nat) (value : Int) : List Char :=
  if value < 0 then '-' :: (digits value.natAbs).leftpad (width - 1) '0'
  else (digits value.natAbs).leftpad width '0'

def padded (width : Nat) (value : Int) : String :=
  String.ofList (paddedChars width value)

def byteChars (byte : UInt8) : List Char :=
  [upperDigit (byte.toNat / 16), upperDigit (byte.toNat % 16)]

/-- The value of a hexadecimal digit in either case. -/
def digitValue? (char : Char) : Option Nat :=
  let code := char.toNat
  if 48 ≤ code ∧ code ≤ 57 then some (code - 48)
  else if 65 ≤ code ∧ code ≤ 70 then some (code - 55)
  else if 97 ≤ code ∧ code ≤ 102 then some (code - 87)
  else none

example : padded 4 (-1) = "-001" ∧ padded 3 0x1000 = "1000" ∧ padded 2 10 = "0A" := by
  decide +kernel

end Hex

namespace Slots

/-- Slot numbers have 64 bits, one of them for the sign. -/
def isSlotNumber (slot : Int) : Bool :=
  -0x8000000000000000 ≤ slot && slot < 0x8000000000000000

/-- The position that a slot number means in a row of `count` slots. -/
def position? (count : Nat) (slot : Int) : Option Nat :=
  let fromFront := if slot < 0 then slot + count else slot
  if 0 ≤ fromFront ∧ fromFront < count then some fromFront.toNat else none

def get? (row : List α) (slot : Int) : Option α :=
  (position? row.length slot).bind fun position => row[position]?

def set? (row : List α) (slot : Int) (value : α) : Option (List α) :=
  (position? row.length slot).map fun position => row.set position value

/-- The slots before a slot number. -/
def before (row : List α) (slot : Int) : List α :=
  row.take (if slot < 0 then slot + row.length else slot).toNat

theorem get?_ofNat (row : List α) (position : Nat) :
    get? row (position : Int) = row[position]? := by
  have front : ¬ ((position : Int) < 0) := by omega
  by_cases inside : position < row.length
  · have bounds : (0 : Int) ≤ position ∧ (position : Int) < row.length := by omega
    simp [get?, position?, front, bounds]
  · have outside : ¬ ((0 : Int) ≤ position ∧ (position : Int) < row.length) := by omega
    simp only [get?, position?, front, outside, if_false, Option.bind_none]
    exact (List.getElem?_eq_none (by omega)).symm

theorem before_ofNat (row : List α) (position : Nat) :
    before row (position : Int) = row.take position := by
  have front : ¬ ((position : Int) < 0) := by omega
  simp [before, front]

end Slots

end ChipEight
