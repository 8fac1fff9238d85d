import ChipEight.Number.Whole

/-! Instruction words. The first of the four hexadecimal digits names the family of an instruction,
the others are its operands, one by one (`x`, `y`, `n`) or together (`nn`, `nnn`). -/

namespace ChipEight

/-- The family of an instruction, from the first digit of its word. -/
inductive Family where
  | system
  | jump
  | call
  | skipEqualByte
  | skipUnequalByte
  | skipEqual
  | loadByte
  | addByte
  | arithmetic
  | skipUnequal
  | loadIndex
  | jumpOffset
  | random
  | draw
  | key
  | misc
  deriving Repr, DecidableEq

namespace Family

/-- All families in the order of their digits. -/
def all : List Family :=
  [system, jump, call, skipEqualByte, skipUnequalByte, skipEqual, loadByte, addByte, arithmetic,
    skipUnequal, loadIndex, jumpOffset, random, draw, key, misc]

def digit (family : Family) : Nat :=
  all.idxOf family

def name : Family → String
  | system => "SYS"
  | jump => "JP"
  | call => "CALL"
  | skipEqualByte => "SE_IMM"
  | skipUnequalByte => "SNE_IMM"
  | skipEqual => "SE_REG"
  | loadByte => "LD_IMM"
  | addByte => "ADD_IMM"
  | arithmetic => "ALU"
  | skipUnequal => "SNE_REG"
  | loadIndex => "LD_I"
  | jumpOffset => "JP_V0"
  | random => "RND"
  | draw => "DRW"
  | key => "KEY"
  | misc => "MISC"

def ofDigit (digit : Nat) : Family :=
  all.getD digit misc

end Family

structure Instruction where
  word : Int
  deriving Repr, DecidableEq

namespace Instruction

/-- The instruction of a word, of which sixteen bits count. -/
def ofWord (word : Int) : Instruction :=
  ⟨word % 0x10000⟩

def ofBytes (high low : Int) : Instruction :=
  ⟨high % 256 * 256 + low % 256⟩

/-- The digit at a place of the word, place 0 being the last. -/
def digitAt (instruction : Instruction) (place : Nat) : Nat :=
  (instruction.word >>> (4 * place) % 16).toNat

def family (instruction : Instruction) : Family :=
  Family.ofDigit (instruction.digitAt 3)

def x (instruction : Instruction) : Nat := instruction.digitAt 2

def y (instruction : Instruction) : Nat := instruction.digitAt 1

def n (instruction : Instruction) : Nat := instruction.digitAt 0

def nn (instruction : Instruction) : Nat := (instruction.word % 0x100).toNat

def nnn (instruction : Instruction) : Nat := (instruction.word % 0x1000).toNat

/-- The word as four digits. -/
def text (instruction : Instruction) : String :=
  Hex.padded 4 instruction.word

theorem x_lt (instruction : Instruction) : instruction.x < 16 := by
  simp only [x, digitAt]
  omega

theorem y_lt (instruction : Instruction) : instruction.y < 16 := by
  simp only [y, digitAt]
  omega

theorem n_lt (instruction : Instruction) : instruction.n < 16 := by
  simp only [n, digitAt]
  omega

theorem nnn_lt (instruction : Instruction) : instruction.nnn < 0x1000 := by
  simp only [nnn]
  omega

theorem nn_lt (instruction : Instruction) : instruction.nn < 0x100 := by
  simp only [nn]
  omega

end Instruction

end ChipEight
