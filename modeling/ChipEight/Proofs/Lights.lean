import ChipEight.Proofs.WellFormed
import Mathlib.Algebra.BigOperators.Group.Finset.Sigma
import Mathlib.Algebra.BigOperators.Intervals
import Mathlib.Data.Finset.SymmDiff
import Mathlib.Data.List.GetD

namespace ChipEight

namespace Bits

variable {value other : Int} {bits place : Nat}

theorem test_natCast (value place : Nat) : test value place = value.testBit place := by
  rw [test, Int.shiftRight_eq_div_pow, ← Int.natCast_ediv, Nat.testBit_eq_decide_div_mod_eq]
  rw [Bool.eq_iff_iff, beq_iff_eq, decide_eq_true_eq]
  omega

theorem eq_natCast (bounded : State.fits bits value) :
    ∃ exact : Nat, value = exact ∧ exact < 2 ^ bits := by
  obtain ⟨low, high⟩ := State.fits_iff.mp bounded
  obtain ⟨exact, rfl⟩ := Int.eq_ofNat_of_zero_le low
  rw [Nat.one_shiftLeft] at high
  exact ⟨exact, rfl, Int.ofNat_lt.mp high⟩

theorem test_beyond (bounded : State.fits bits value) (beyond : bits ≤ place) :
    test value place = false := by
  obtain ⟨exact, rfl, small⟩ := eq_natCast bounded
  rw [test_natCast]
  exact Nat.testBit_lt_two_pow (Nat.lt_of_lt_of_le small (Nat.pow_le_pow_right (by decide) beyond))

theorem test_xor (bounded : State.fits bits value) (mask : Nat) (place : Nat) :
    test (xor value mask) place = (test value place ^^ mask.testBit place) := by
  obtain ⟨exact, rfl, _⟩ := eq_natCast bounded
  exact (test_natCast _ _).trans (by rw [Nat.testBit_xor, test_natCast])

theorem xor_zero (value : Int) : xor value 0 = value := by
  cases value <;> simp [xor]

theorem and_zero (value : Int) : and value 0 = 0 := by
  cases value <;> simp [and, without]

theorem and_ne_zero (bounded : State.fits bits value) (mask : Nat) :
    and value mask ≠ 0 ↔ ∃ place, test value place = true ∧ mask.testBit place = true := by
  obtain ⟨exact, rfl, _⟩ := eq_natCast bounded
  have common : and exact mask = ((exact &&& mask : Nat) : Int) := rfl
  have both (place : Nat) : (exact &&& mask).testBit place = true ↔
      test exact place = true ∧ mask.testBit place = true := by
    rw [Nat.testBit_and, Bool.and_eq_true, test_natCast]
  rw [common, Int.natCast_ne_zero]
  constructor
  · intro shared
    obtain ⟨place, set⟩ := Nat.exists_testBit_of_ne_zero shared
    exact ⟨place, (both place).mp set⟩
  · rintro ⟨place, set⟩ nothing
    have unset := (both place).mpr set
    rw [nothing, Nat.zero_testBit] at unset
    cases unset

theorem eq_of_test (first : State.fits bits value) (second : State.fits bits other)
    (same : ∀ place < bits, test value place = test other place) : value = other := by
  have everywhere (place : Nat) : test value place = test other place := by
    by_cases inside : place < bits
    · exact same place inside
    · rw [test_beyond first (by omega), test_beyond second (by omega)]
  obtain ⟨value, rfl, _⟩ := eq_natCast first
  obtain ⟨other, rfl, _⟩ := eq_natCast second
  simp only [test_natCast] at everywhere
  rw [Nat.eq_of_testBit_eq everywhere]

theorem ones_eq {value : Nat} (bounded : value < 2 ^ bits) :
    ones value = ((Finset.range bits).filter fun place => value.testBit place).card := by
  have counted : ones value =
      ((Finset.range (value.log2 + 1)).filter fun place => value.testBit place).card := by
    rw [ones, List.countP_eq_length_filter, Finset.card_def, Finset.filter_val, Finset.range_val,
      Multiset.range, Multiset.filter_coe, Multiset.coe_card]
    simp only [Bool.decide_eq_true]
  have within {count place : Nat} (small : value < 2 ^ count) (set : value.testBit place = true) :
      place < count :=
    (Nat.pow_lt_pow_iff_right (by decide)).mp
      (Nat.lt_of_le_of_lt (Nat.ge_two_pow_of_testBit set) small)
  rw [counted]
  congr 1
  ext place
  simp only [Finset.mem_filter, Finset.mem_range]
  constructor
  · rintro ⟨_, set⟩
    exact ⟨within bounded set, set⟩
  · rintro ⟨_, set⟩
    exact ⟨within Nat.lt_log2_self set, set⟩

end Bits

namespace Display

/-- The columns and rows of all pixels. -/
@[irreducible] def screen : Finset (Nat × Nat) :=
  Finset.range screenWidth ×ˢ Finset.range screenHeight

/-- The pixels that are on. -/
def lights (display : Display) : Finset (Nat × Nat) :=
  screen.filter fun pixel => lit (display.rows.getD pixel.2 0) pixel.1

variable {display other : Display} {column row : Nat}

theorem mem_screen : (column, row) ∈ screen ↔ column < 64 ∧ row < 32 := by
  unfold screen
  rw [Finset.mem_product, Finset.mem_range, Finset.mem_range]
  rfl

theorem mem_lights : (column, row) ∈ display.lights ↔
    (column < 64 ∧ row < 32) ∧ lit (display.rows.getD row 0) column = true := by
  rw [lights, Finset.mem_filter, mem_screen]

theorem lights_blank : blank.lights = ∅ := by
  apply Finset.eq_empty_of_forall_notMem
  rintro ⟨column, row⟩ on
  obtain ⟨inside, on⟩ := mem_lights.mp on
  have dark : blank.rows.getD row 0 = (0 : Nat) := List.getD_replicate _ inside.2
  rw [dark, lit, Bits.test_natCast, Nat.zero_testBit] at on
  cases on

theorem WellFormed.fits_getD (formed : display.WellFormed) (row : Nat) :
    State.fits 64 (display.rows.getD row 0) :=
  State.fits_getD formed.rows row

theorem WellFormed.pixel_eq (formed : display.WellFormed) (inside : column < 64 ∧ row < 32) :
    display.pixel column row = .ok (decide ((column, row) ∈ display.lights)) := by
  have found : display.rows[row]? = some (display.rows.getD row 0) := by
    rw [List.getD_eq_getElem?_getD, List.getElem?_eq_getElem (by rw [formed.count]; exact inside.2)]
    rfl
  have near : ¬ ((screenWidth : Int) - 1 < column) := by
    simp only [screenWidth]
    omega
  have place : ((screenWidth : Int) - 1 - column).toNat = screenWidth - 1 - column := by
    simp only [screenWidth]
    omega
  have shown : decide ((column, row) ∈ display.lights) = lit (display.rows.getD row 0) column := by
    rw [Bool.eq_iff_iff, decide_eq_true_eq, mem_lights]
    exact ⟨fun both => both.2, fun on => ⟨inside, on⟩⟩
  simp only [pixel, Slots.get?_ofNat, found, if_neg near, place, shown, lit]

/-- The pixels that are on settle the picture. -/
theorem WellFormed.eq_of_lights (formed : display.WellFormed) (formed' : other.WellFormed)
    (same : display.lights = other.lights) : display = other := by
  have rows : display.rows = other.rows := by
    refine List.ext_getElem (formed.count.trans formed'.count.symm) fun row inside inside' => ?_
    have high : row < 32 := formed.count ▸ inside
    have bits := Bits.eq_of_test (formed.fits_getD row) (formed'.fits_getD row) fun place near => ?_
    · simpa [inside, inside'] using bits
    · -- Bit `place` is column `63 - place`.
      have agree : (63 - place, row) ∈ display.lights ↔ (63 - place, row) ∈ other.lights := by
        rw [same]
      have column : screenWidth - 1 - (63 - place) = place := by
        simp only [screenWidth]
        omega
      have wide : 63 - place < 64 := by omega
      simp only [mem_lights, wide, high, true_and, lit, column] at agree
      exact Bool.eq_iff_iff.mpr agree
  exact congrArg Display.mk rows

theorem card_row {bits : Int} (bounded : State.fits 64 bits) :
    Bits.ones bits.natAbs = ∑ column ∈ Finset.range 64, if lit bits column then 1 else 0 := by
  obtain ⟨exact, rfl, small⟩ := Bits.eq_natCast bounded
  rw [Int.natAbs_natCast, Bits.ones_eq small, Finset.card_filter, ← Finset.sum_range_reflect]
  simp only [lit, Bits.test_natCast, screenWidth]

theorem foldl_ones (rows : List Int) (start : Nat) :
    rows.foldl (fun count row => count + Bits.ones row.natAbs) start =
      start + ∑ row ∈ Finset.range rows.length, Bits.ones (rows.getD row 0).natAbs := by
  induction rows generalizing start with
  | nil => rfl
  | cons row rows ih =>
    rw [List.foldl_cons, ih, List.length_cons, Finset.sum_range_succ']
    simp only [List.getD_cons_succ, List.getD_cons_zero]
    omega

theorem WellFormed.litCount_eq (formed : display.WellFormed) :
    display.litCount = display.lights.card := by
  have rows (row : Nat) := card_row (formed.fits_getD row)
  rw [litCount, foldl_ones, Nat.zero_add, formed.count, lights, Finset.card_filter]
  unfold screen
  rw [Finset.sum_product_right]
  exact Finset.sum_congr rfl fun row _ => rows row

end Display

end ChipEight
