import ChipEight.Instruction.Operation

namespace ChipEight.Instruction

variable {word : Nat} {operation : Operation}

/-- The words of an operation. The first digit is the family, and the families 0, 8, E and F look
at the last digits too. -/
def Spells (word : Nat) : Operation → Prop
  | .clearScreen => word = 0x00E0
  | .ret => word = 0x00EE
  | .jump => word / 0x1000 = 0x1
  | .call => word / 0x1000 = 0x2
  | .skipEqualByte => word / 0x1000 = 0x3
  | .skipUnequalByte => word / 0x1000 = 0x4
  | .skipEqual => word / 0x1000 = 0x5
  | .loadByte => word / 0x1000 = 0x6
  | .addByte => word / 0x1000 = 0x7
  | .copy => word / 0x1000 = 0x8 ∧ word % 0x10 = 0x0
  | .or => word / 0x1000 = 0x8 ∧ word % 0x10 = 0x1
  | .and => word / 0x1000 = 0x8 ∧ word % 0x10 = 0x2
  | .xor => word / 0x1000 = 0x8 ∧ word % 0x10 = 0x3
  | .add => word / 0x1000 = 0x8 ∧ word % 0x10 = 0x4
  | .subtract => word / 0x1000 = 0x8 ∧ word % 0x10 = 0x5
  | .shiftRight => word / 0x1000 = 0x8 ∧ word % 0x10 = 0x6
  | .subtractFrom => word / 0x1000 = 0x8 ∧ word % 0x10 = 0x7
  | .shiftLeft => word / 0x1000 = 0x8 ∧ word % 0x10 = 0xE
  | .skipUnequal => word / 0x1000 = 0x9
  | .loadIndex => word / 0x1000 = 0xA
  | .jumpOffset => word / 0x1000 = 0xB
  | .draw => word / 0x1000 = 0xD
  | .skipHeld => word / 0x1000 = 0xE ∧ word % 0x100 = 0x9E
  | .skipReleased => word / 0x1000 = 0xE ∧ word % 0x100 = 0xA1
  | .readDelay => word / 0x1000 = 0xF ∧ word % 0x100 = 0x07
  | .awaitKey => word / 0x1000 = 0xF ∧ word % 0x100 = 0x0A
  | .setDelay => word / 0x1000 = 0xF ∧ word % 0x100 = 0x15
  | .setSound => word / 0x1000 = 0xF ∧ word % 0x100 = 0x18
  | .addIndex => word / 0x1000 = 0xF ∧ word % 0x100 = 0x1E
  | .storeDecimal => word / 0x1000 = 0xF ∧ word % 0x100 = 0x33
  | .storeRegisters => word / 0x1000 = 0xF ∧ word % 0x100 = 0x55
  | .loadRegisters => word / 0x1000 = 0xF ∧ word % 0x100 = 0x65
  | .unknown => False

theorem word_ofWord (short : word < 0x10000) : (ofWord word).word = word := by
  simp only [ofWord]
  omega

theorem family_ofWord (short : word < 0x10000) :
    (ofWord word).family = Family.ofDigit (word / 0x1000) := by
  have digit : (ofWord word).digitAt 3 = word / 0x1000 := by
    simp only [digitAt, word_ofWord short, Int.shiftRight_eq_div_pow]
    omega
  rw [family, digit]

theorem x_ofWord (word : Nat) : (ofWord word).x = word / 0x100 % 0x10 := by
  simp only [x, digitAt, ofWord, Int.shiftRight_eq_div_pow]
  omega

theorem y_ofWord (word : Nat) : (ofWord word).y = word / 0x10 % 0x10 := by
  simp only [y, digitAt, ofWord, Int.shiftRight_eq_div_pow]
  omega

theorem n_ofWord (word : Nat) : (ofWord word).n = word % 0x10 := by
  simp only [n, digitAt, ofWord, Int.shiftRight_eq_div_pow]
  omega

theorem nn_ofWord (word : Nat) : (ofWord word).nn = word % 0x100 := by
  simp only [nn, ofWord]
  omega

theorem nnn_ofWord (word : Nat) : (ofWord word).nnn = word % 0x1000 := by
  simp only [nnn, ofWord]
  omega

theorem arithmetic?_eq_some (found : (ofWord word).arithmetic? = some operation)
    (digit : word / 0x1000 = 0x8) : Spells word operation := by
  unfold arithmetic? at found
  split at found <;> rename_i last
  all_goals
    rw [n_ofWord] at last
    cases found
    try exact ⟨digit, last⟩

theorem misc?_eq_some (found : (ofWord word).misc? = some operation)
    (digit : word / 0x1000 = 0xF) : Spells word operation := by
  unfold misc? at found
  split at found <;> rename_i last
  all_goals
    rw [nn_ofWord] at last
    cases found
    try exact ⟨digit, last⟩

theorem digit_family (short : word < 0x10000) :
    word / 0x1000 = (ofWord word).family.digit := by
  have digits : ∀ digit < 16, (Family.ofDigit digit).digit = digit := by decide
  rw [family_ofWord short, digits _ (by omega)]

theorem spells_of_operation? (short : word < 0x10000)
    (found : (ofWord word).operation? = some operation) : Spells word operation := by
  have digit := digit_family short
  cases family : (ofWord word).family <;> rw [family] at digit <;>
    simp only [operation?, family, word_ofWord short, nn_ofWord] at found
  case system =>
    split at found
    · cases found
      exact Int.ofNat_inj.mp ‹_›
    · split at found
      · cases found
        exact Int.ofNat_inj.mp ‹_›
      · simp at found
  case arithmetic => exact arithmetic?_eq_some found digit
  case misc => exact misc?_eq_some found digit
  case key =>
    split at found
    · cases found
      exact ⟨digit, ‹_›⟩
    · split at found
      · cases found
        exact ⟨digit, ‹_›⟩
      · simp at found
  case random => simp at found
  all_goals
    cases found
    exact digit

theorem operation?_of_spells (short : word < 0x10000) (spelled : Spells word operation) :
    (ofWord word).operation? = some operation := by
  cases operation with
  | unknown => exact spelled.elim
  | clearScreen | ret =>
    rw [show word = _ from spelled]
    rfl
  | _ =>
    first
    | obtain ⟨digit, last⟩ := spelled
      simp [operation?, family_ofWord short, digit, Family.ofDigit, Family.all, arithmetic?, misc?,
        n_ofWord, nn_ofWord, last]
    | have digit : word / 0x1000 = _ := spelled
      simp [operation?, family_ofWord short, digit, Family.ofDigit, Family.all]

/-- The decoder, as a table of words. -/
theorem operation?_eq_some (short : word < 0x10000) :
    (ofWord word).operation? = some operation ↔ Spells word operation :=
  ⟨spells_of_operation? short, operation?_of_spells short⟩

theorem operation?_eq_none (short : word < 0x10000) :
    (ofWord word).operation? = none ↔ ∀ operation, ¬ Spells word operation := by
  constructor
  · intro missing operation spelled
    rw [operation?_of_spells short spelled] at missing
    simp at missing
  · intro unspelled
    cases found : (ofWord word).operation? with
    | none => rfl
    | some operation => exact absurd (spells_of_operation? short found) (unspelled operation)

theorem operation_eq (short : word < 0x10000) (known : operation ≠ .unknown) :
    (ofWord word).operation = operation ↔ Spells word operation := by
  rw [← operation?_eq_some short, Instruction.operation]
  cases (ofWord word).operation? with
  | none => simp [known.symm]
  | some found => simp

end ChipEight.Instruction
