import ChipEight.Proofs.WellFormed

namespace ChipEight

namespace State

/-- A result is put into a register, and then a flag, if there is one, into the flag register. -/
def written (target : Nat) (result : Int) (flag : Option Int) (state : State) : State :=
  match flag with
  | none => state.setRegister target result
  | some value => (state.setRegister target result).setRegister 0xF value

/-- What an instruction that computes a register changes. A flag comes before a result that is
meant for the same register; nothing else is touched but the counter, which has sixteen bits, and
the count of cycles. -/
structure Computed (target : Nat) (result : Int) (flag : Option Int) (before after : State) :
    Prop where
  flagged : ∀ value, flag = some value → after.register 0xF = value
  stored : (target = 0xF → flag = none) → after.register target = result
  others : ∀ number, number ≠ target → (number = 0xF → flag = none) →
    after.register number = before.register number
  count : after.registers.length = before.registers.length
  counter : 0 ≤ before.pc → before.pc < 0xFFFE → after.pc = before.pc + 2
  rest : { after with registers := before.registers } =
    { before with pc := (before.pc + 2) % 0x10000, cycles := before.cycles + 1 }

variable {state : State}

theorem computed_written (sixteen : state.registers.length = 16) {target : Nat}
    (inside : target < 16) (result : Int) (flag : Option Int) :
    Computed target result flag state
      { written target result flag (state.advance 2) with
        cycles := (written target result flag (state.advance 2)).cycles + 1 } := by
  have kept : (state.advance 2).registers.length = 16 := sixteen
  have counter : 0 ≤ state.pc → state.pc < 0xFFFE → (state.pc + 2) % 0x10000 = state.pc + 2 := by
    omega
  cases flag with
  | none =>
    have register := register_setRegister (by omega : target < (state.advance 2).registers.length)
      result
    exact
      { flagged := nofun
        stored := fun _ => (register target).trans (if_pos rfl)
        others := fun number other _ => (register number).trans (if_neg other.symm)
        count := length_setRegister _ _ _
        counter := counter
        rest := rfl }
  | some value =>
    have kept' := (length_setRegister (state.advance 2) target result).trans kept
    have register := register_setRegister (by omega : target < (state.advance 2).registers.length)
      result
    -- The flag goes in last, so it is what the flag register is left with.
    have flagged := register_setRegister
      (by omega : 0xF < ((state.advance 2).setRegister target result).registers.length) value
    refine
      { flagged := ?_
        stored := ?_
        others := ?_
        count := (length_setRegister _ _ _).trans (length_setRegister _ _ _)
        counter := counter
        rest := rfl }
    · rintro _ ⟨rfl⟩
      exact (flagged 0xF).trans (if_pos rfl)
    · intro apart
      have apart : target ≠ 0xF := fun same => Option.some_ne_none _ (apart same)
      exact ((flagged target).trans (if_neg apart.symm)).trans
        ((register target).trans (if_pos rfl))
    · intro number other apart
      have apart : number ≠ 0xF := fun same => Option.some_ne_none _ (apart same)
      exact ((flagged number).trans (if_neg apart.symm)).trans
        ((register number).trans (if_neg other.symm))

end State

theorem Bits.eq_toNat {left right : Int} (operator : Int → Int → Int) (exact : Nat → Nat → Nat)
    (agrees : ∀ left right : Nat, operator left right = exact left right) (first : 0 ≤ left)
    (second : 0 ≤ right) : operator left right = exact left.toNat right.toNat := by
  obtain ⟨left, rfl⟩ := Int.eq_ofNat_of_zero_le first
  obtain ⟨right, rfl⟩ := Int.eq_ofNat_of_zero_le second
  exact agrees left right

namespace Operation

open State

/-- What the operations that compute a register make of two registers and the byte of the word:
a result and, some of them, a flag. -/
inductive Computes (left right byte : Int) : Operation → Int → Option Int → Prop where
  | addByte : Computes left right byte .addByte ((left + byte) % 256) none
  | copy : Computes left right byte .copy right none
  | or : Computes left right byte .or (left.toNat ||| right.toNat : Nat) none
  | and : Computes left right byte .and (left.toNat &&& right.toNat : Nat) none
  | xor : Computes left right byte .xor (left.toNat ^^^ right.toNat : Nat) none
  | add {result flag : Int} (sum : result + 256 * flag = left + right) :
    Computes left right byte .add result (some flag)
  | subtract {result flag : Int} (difference : result = left - right + 256 * (1 - flag))
    (unborrowed : flag = 1 ↔ right ≤ left) :
    Computes left right byte .subtract result (some flag)
  | shiftRight {result flag : Int} (halved : left = 2 * result + flag) :
    Computes left right byte .shiftRight result (some flag)
  | subtractFrom {result flag : Int} (difference : result = right - left + 256 * (1 - flag))
    (unborrowed : flag = 1 ↔ left ≤ right) :
    Computes left right byte .subtractFrom result (some flag)
  | shiftLeft {result flag : Int} (doubled : 2 * left = 256 * flag + result) :
    Computes left right byte .shiftLeft result (some flag)

variable {state : State}

/-- The result is a byte, and the flag one bit. -/
def Bounded (result : Int) (flag : Option Int) : Prop :=
  (0 ≤ result ∧ result ≤ 255) ∧ ∀ value, flag = some value → value = 0 ∨ value = 1

theorem fits_byte {value : Int} : fits 8 value = true ↔ 0 ≤ value ∧ value ≤ 255 := by
  rw [fits_iff]
  omega

theorem bounded_of_fits {result : Int} (byte : fits 8 result) : Bounded result none :=
  ⟨fits_byte.mp byte, nofun⟩

theorem bounded_of_bit {result : Int} (byte : 0 ≤ result ∧ result ≤ 255) (flag : Bool) :
    Bounded result (some (if flag then 1 else 0)) := by
  refine ⟨byte, ?_⟩
  rintro _ ⟨rfl⟩
  cases flag
  · exact .inl rfl
  · exact .inr rfl

theorem effect_computes (instruction : Instruction)
    (left : fits 8 (state.register instruction.x)) (right : fits 8 (state.register instruction.y))
    {operation : Operation} (arithmetical : operation.isArithmetic = true) :
    ∃ result flag, operation.effect instruction state = written instruction.x result flag state ∧
      Computes (state.register instruction.x) (state.register instruction.y) instruction.nn
        operation result flag ∧ Bounded result flag := by
  have vx := fits_byte.mp left
  have vy := fits_byte.mp right
  cases operation with
  | addByte => exact ⟨_, none, rfl, .addByte, bounded_of_fits (fits_byte.mpr (by omega))⟩
  | copy => exact ⟨_, none, rfl, .copy, bounded_of_fits right⟩
  | or =>
    have bits := Bits.eq_toNat Bits.or (· ||| ·) (fun _ _ => rfl) vx.1 vy.1
    refine ⟨_, none, rfl, ?_, bounded_of_fits (Bits.fits_or left right)⟩
    rw [bits]
    exact .or
  | and =>
    have bits := Bits.eq_toNat Bits.and (· &&& ·) (fun _ _ => rfl) vx.1 vy.1
    refine ⟨_, none, rfl, ?_, bounded_of_fits (Bits.fits_and left right)⟩
    rw [bits]
    exact .and
  | xor =>
    have bits := Bits.eq_toNat Bits.xor (· ^^^ ·) (fun _ _ => rfl) vx.1 vy.1
    refine ⟨_, none, rfl, ?_, bounded_of_fits (Bits.fits_xor left right)⟩
    rw [bits]
    exact .xor
  | add =>
    refine ⟨_, some _, rfl, .add ?_, bounded_of_bit (by omega) _⟩
    simp only [decide_eq_true_eq]
    split <;> omega
  | subtract =>
    refine ⟨_, some _, rfl, .subtract ?_ ?_, bounded_of_bit (by omega) _⟩ <;>
      simp only [decide_eq_true_eq] <;> split <;> omega
  | subtractFrom =>
    refine ⟨_, some _, rfl, .subtractFrom ?_ ?_, bounded_of_bit (by omega) _⟩ <;>
      simp only [decide_eq_true_eq] <;> split <;> omega
  | shiftRight =>
    refine ⟨_, some _, rfl, .shiftRight ?_, bounded_of_bit (by omega) _⟩
    simp only [beq_iff_eq]
    split <;> omega
  | shiftLeft =>
    refine ⟨_, some _, rfl, .shiftLeft ?_, bounded_of_bit (by omega) _⟩
    simp only [beq_iff_eq]
    split <;> omega
  | _ => cases arithmetical

/-- Arithmetic is exact on the bytes that the registers held before, whichever of them are the
same or the flag, and it changes nothing but the register it computes and its flag. -/
theorem arithmetic_exact (sixteen : state.registers.length = 16)
    (bytes : ∀ value ∈ state.registers, 0 ≤ value ∧ value ≤ 255) (strict : Bool) {word : Nat}
    (short : word < 0x10000) {operation : Operation} (spelled : Instruction.Spells word operation)
    (arithmetical : operation.isArithmetic = true) :
    ∃ result flag after, (executeWord strict word).run state = .ok operation after ∧
      Computes (state.register (word / 0x100 % 0x10)) (state.register (word / 0x10 % 0x10))
        (word % 0x100 : Nat) operation result flag ∧
      (0 ≤ result ∧ result ≤ 255) ∧ (∀ value, flag = some value → value = 0 ∨ value = 1) ∧
      Computed (word / 0x100 % 0x10) result flag state after := by
  have advanced : (state.advance 2).registers.length = 16 := sixteen
  have register (number : Nat) : fits 8 ((state.advance 2).register number) :=
    fits_getD (fun value member => fits_byte.mpr (bytes value member)) number
  obtain ⟨result, flag, changed, computes, byte, bit⟩ :=
    effect_computes (.ofWord word) (register _) (register _) arithmetical
  rw [Instruction.x_ofWord] at changed
  rw [Instruction.x_ofWord, Instruction.y_ofWord, Instruction.nn_ofWord] at computes
  have performed : (operation.perform (.ofWord word)).run (state.advance 2) =
      .ok () (written (word / 0x100 % 0x10) result flag (state.advance 2)) := by
    rw [← changed]
    exact perform_of_isArithmetic advanced _ arithmetical
  refine ⟨result, flag, _, ?_, computes, byte, bit, computed_written sixteen (by omega) result flag⟩
  rw [run_executeWord short spelled]
  simp only [execute, EStateM.run_bind, performed, EStateM.run_modify]

/-- A register that is added to itself and holds the flag is left with the carry. -/
theorem arithmetic_exact_flag :
    let state := { State.blank with registers := List.replicate 15 0 ++ [200] }
    state.registers.length = 16 ∧ (∀ value ∈ state.registers, 0 ≤ value ∧ value ≤ 255) ∧
      0x8FF4 < 0x10000 ∧ Instruction.Spells 0x8FF4 .add ∧ isArithmetic .add = true ∧
      ∃ after, (executeWord true 0x8FF4).run state = .ok .add after ∧ after.register 0xF = 1 := by
  intro state
  have bytes : ∀ value ∈ state.registers, 0 ≤ value ∧ value ≤ 255 := by decide
  have short : 0x8FF4 < 0x10000 := by decide
  have spelled : Instruction.Spells 0x8FF4 .add := ⟨rfl, rfl⟩
  obtain ⟨result, flag, after, ran, computes, byte, bit, changed⟩ :=
    arithmetic_exact rfl bytes true short spelled rfl
  refine ⟨rfl, bytes, short, spelled, rfl, after, ran, ?_⟩
  cases computes with
  | @add result flag sum =>
    have sum : result + 256 * flag = 200 + 200 := sum
    have carried : flag = 1 := by
      rcases bit flag rfl with none | one
      · omega
      · exact one
    rw [changed.flagged flag rfl, carried]

end Operation

end ChipEight
