import Mathlib
import ChipEight.Clock

/-! Which floating-point numbers are finite. A whole number has one next to it exactly below
`2 ^ 1024 - 2 ^ 970`, and a sum or a product of what is not finite is not finite either. -/

namespace ChipEight

open Float.Model UnpackedFloat

namespace Binary64

/-- The least whole number that has no floating-point number next to it. -/
def limit : Nat := 2 ^ 1024 - 2 ^ 970

theorem targetExponent_eq (total : Int) :
    Format.binary64.targetExponent total = max (total - 53) (-1074) :=
  rfl

theorem isFinite_unpack (bits : BitVec Format.binary64.numBits) :
    (UnpackedFloat.unpack Format.binary64 bits).isFinite = true ↔
      (@unpackExponent Format.binary64 bits).toNat ≠ 2047 := by
  have full : (-1#11 : BitVec 11).toNat = 2047 := rfl
  rw [← full, ne_eq, BitVec.toNat_inj]
  simp only [UnpackedFloat.unpack]
  split
  · rename_i same
    simp only [same, not_true, iff_false]
    split <;> simp [UnpackedFloat.isFinite]
  · rename_i apart
    simp only [apart, not_false_eq_true, iff_true]
    split
    · split <;> rfl
    · rfl

theorem isFinite_iff (value : Float) :
    value.isFinite = true ↔ value.toBits.toNat >>> 52 % 0x800 ≠ 2047 := by
  have exponent : (@unpackExponent Format.binary64 value.toBits.toBitVec).toNat =
      value.toBits.toNat >>> 52 % 0x800 := by
    simp [unpackExponent]
  rw [← exponent]
  exact isFinite_unpack value.toBits.toBitVec

theorem isInf_of_isFinite {value : Float} (finite : value.isFinite = true) :
    value.isInf = false := by
  have finite : value.toModel.unpack.isFinite = true := finite
  show value.toModel.unpack.isInf = false
  cases unpacked : value.toModel.unpack with
  | infinity => rw [unpacked] at finite; cases finite
  | _ => rfl

theorem isFinite_pack_zero (sign : Sign) : (Float.Model.pack (.zero sign)).isFinite = true := by
  cases sign <;> decide

theorem isFinite_pack {sign : Sign} {mantissa : Nat} {exponent : Int} (positive : 0 < mantissa)
    (small : exponent ≤ 971) :
    (Float.Model.pack (.finite sign mantissa exponent positive)).isFinite = true := by
  have bias : (Format.binary64.exponentBias : Int) = 1023 := rfl
  apply (isFinite_unpack _).mpr
  simp only [Float.Model.pack, UnpackedFloat.pack]
  rw [if_neg (by omega)]
  split
  · rw [unpackExponent_packComponents, BitVec.toNat_ofNat]
    omega
  · rw [unpackExponent_packComponents]
    decide

theorem isInf_pack {sign : Sign} {mantissa : Nat} {exponent : Int} (positive : 0 < mantissa) :
    (Float.Model.pack (.finite sign mantissa exponent positive)).isInf = true ↔
      972 ≤ exponent := by
  by_cases small : exponent ≤ 971
  · have bounded : (Float.Model.pack (.finite sign mantissa exponent positive)).isInf = false :=
      @isInf_of_isFinite (.ofModel _) (isFinite_pack positive small)
    simp only [bounded, Bool.false_eq_true, false_iff]
    omega
  · have bias : (Format.binary64.exponentBias : Int) = 1023 := rfl
    have same : Float.Model.pack (.finite sign mantissa exponent positive) =
        Float.Model.pack (.infinity sign) := by
      simp only [Float.Model.pack, UnpackedFloat.pack]
      congr 1
      rw [if_pos]
      omega
    have infinite : (Float.Model.pack (.infinity sign)).isInf = true := by cases sign <;> decide
    simp only [same, infinite, true_iff]
    omega

/-! Rounding shifts the mantissa to the exponent it should have, rounds it by the bits behind it,
and shifts once more if that was a carry. -/

theorem mantissa_shiftRight (extended : ExtendedMantissa) (count : Nat) :
    (extended >>> count).mantissa = extended.mantissa / 2 ^ count := by
  show (count.repeat ExtendedMantissa.shiftRightOne extended).mantissa = _
  induction count with
  | zero => simp [Nat.repeat]
  | succ count ih =>
    simp only [Nat.repeat, ExtendedMantissa.shiftRightOne, ih, Nat.div_div_eq_div_mul, Nat.pow_succ]

theorem roundBit_shiftRight (extended : ExtendedMantissa) (count : Nat) :
    (extended >>> (count + 1)).roundBit = (extended.mantissa / 2 ^ count % 2 != 0) := by
  rw [← mantissa_shiftRight]
  rfl

theorem shiftRight_zeros (mantissa count : Nat) :
    (⟨mantissa * 2 ^ count, false, false⟩ : ExtendedMantissa) >>> count =
      ⟨mantissa, false, false⟩ := by
  show count.repeat ExtendedMantissa.shiftRightOne _ = _
  induction count generalizing mantissa with
  | zero => simp [Nat.repeat]
  | succ count ih =>
    have more : mantissa * 2 ^ (count + 1) = (mantissa * 2) * 2 ^ count := by
      rw [Nat.pow_succ]
      ac_rfl
    rw [Nat.repeat, more, ih]
    simp [ExtendedMantissa.shiftRightOne]

theorem roundedMantissa_bounds (extended : ExtendedMantissa) :
    extended.mantissa ≤ extended.roundedMantissa ∧
      extended.roundedMantissa ≤ extended.mantissa + 1 := by
  obtain ⟨mantissa, roundBit, stickyBit⟩ := extended
  cases roundBit <;> cases stickyBit <;>
    simp only [ExtendedMantissa.roundedMantissa, ExtendedMantissa.accuracy,
      Accuracy.roundToNearestEven] <;> omega

theorem roundedMantissa_odd {extended : ExtendedMantissa} (odd : extended.mantissa % 2 = 1) :
    extended.roundedMantissa = extended.mantissa + extended.roundBit.toNat := by
  obtain ⟨mantissa, roundBit, stickyBit⟩ := extended
  simp only at odd
  cases roundBit <;> cases stickyBit <;>
    simp [ExtendedMantissa.roundedMantissa, ExtendedMantissa.accuracy, Accuracy.roundToNearestEven,
      odd]

theorem roundWithAccuracy_eq {sign : Sign} {mantissa : Nat} {exponent between ended : Int}
    {accuracy : Accuracy} {extended last : ExtendedMantissa}
    (first : shiftToTargetExponent Format.binary64 mantissa exponent accuracy = (extended, between))
    (second : shiftToTargetExponent Format.binary64 extended.roundedMantissa between .exact =
      (last, ended))
    (positive : 0 < last.mantissa) :
    roundWithAccuracy Format.binary64 sign mantissa exponent accuracy =
      .finite sign last.mantissa ended positive := by
  simp only [roundWithAccuracy, first, second]
  exact dif_neg (Nat.pos_iff_ne_zero.mp positive)

theorem log2_mul_two_pow {mantissa : Nat} (positive : 0 < mantissa) (zeros : Nat) :
    (mantissa * 2 ^ zeros).log2 = mantissa.log2 + zeros := by
  induction zeros with
  | zero => simp
  | succ zeros ih =>
    have apart : mantissa * 2 ^ zeros ≠ 0 :=
      Nat.pos_iff_ne_zero.mp (Nat.mul_pos positive (Nat.two_pow_pos zeros))
    have more : mantissa * 2 ^ (zeros + 1) = 2 * (mantissa * 2 ^ zeros) := by
      rw [Nat.pow_succ]
      ac_rfl
    rw [more, Nat.log2_two_mul apart, ih]
    rfl

theorem roundWithAccuracy_zeros {sign : Sign} {mantissa zeros : Nat} {exponent : Int}
    (positive : 0 < mantissa)
    (shifted : zeros = (Format.binary64.targetExponent
      (totalExponent (mantissa * 2 ^ zeros) exponent) - exponent).toNat) :
    roundWithAccuracy Format.binary64 sign (mantissa * 2 ^ zeros) exponent .exact =
      .finite sign mantissa (exponent + zeros) positive := by
  have first : shiftToTargetExponent Format.binary64 (mantissa * 2 ^ zeros) exponent .exact =
      (⟨mantissa, false, false⟩, exponent + zeros) := by
    simp only [shiftToTargetExponent, shiftToExponent, ← shifted,
      ExtendedMantissa.ofMantissaAndAccuracy, shiftRight_zeros]
  have total : totalExponent mantissa (exponent + zeros) =
      totalExponent (mantissa * 2 ^ zeros) exponent := by
    simp only [totalExponent, log2_mul_two_pow positive]
    omega
  have second : shiftToTargetExponent Format.binary64 mantissa (exponent + zeros) .exact =
      (⟨mantissa, false, false⟩, exponent + zeros) := by
    have reached : (Format.binary64.targetExponent (totalExponent (mantissa * 2 ^ zeros) exponent) -
        (exponent + zeros)).toNat = 0 := by
      generalize Format.binary64.targetExponent _ = target at *
      omega
    simp only [shiftToTargetExponent, shiftToExponent, total, reached]
    simp [ExtendedMantissa.ofMantissaAndAccuracy]
    rfl
  exact roundWithAccuracy_eq first second positive

/-- A mantissa of at most 53 bits with enough zeros behind it is not rounded, and its exponent stays
small. -/
theorem isFinite_rounded {sign : Sign} {mantissa zeros : Nat} {exponent : Int}
    (positive : 0 < mantissa) (narrow : mantissa.log2 < 53) (normal : -1074 ≤ exponent + zeros)
    (low : exponent ≤ 971) (high : mantissa.log2 + zeros + exponent ≤ 1023) :
    (Float.Model.pack (roundWithAccuracy Format.binary64 sign (mantissa * 2 ^ zeros) exponent
      .exact)).isFinite = true := by
  let target := Format.binary64.targetExponent (totalExponent (mantissa * 2 ^ zeros) exponent)
  let lost := (target - exponent).toNat
  have targeted : target = max (mantissa.log2 + zeros + 1 + exponent - 53) (-1074) := by
    simp only [target, totalExponent, log2_mul_two_pow positive]
    rfl
  have parted : mantissa * 2 ^ zeros = (mantissa * 2 ^ (zeros - lost)) * 2 ^ lost := by
    rw [Nat.mul_assoc, ← Nat.pow_add, Nat.sub_add_cancel]
    omega
  have kept : 0 < mantissa * 2 ^ (zeros - lost) := Nat.mul_pos positive (Nat.two_pow_pos _)
  rw [parted, roundWithAccuracy_zeros kept (by rw [← parted])]
  exact isFinite_pack kept (by omega)

/-! Whole numbers that are small are converted as machine words. -/

theorem unpack_bounds {value : Float} {sign : Sign} {mantissa : Nat} {exponent : Int}
    {positive : 0 < mantissa}
    (unpacked : value.toModel.unpack = .finite sign mantissa exponent positive) :
    mantissa < 2 ^ 53 ∧ -1074 ≤ exponent ∧ exponent ≤ 971 := by
  let bits := value.toModel.toBits.toBitVec
  have bias : (Format.binary64.exponentBias : Int) = 1023 := rfl
  have field := (@unpackExponent Format.binary64 bits).isLt
  simp only [Float.Model.unpack, UnpackedFloat.unpack] at unpacked
  split at unpacked
  · split at unpacked <;> cases unpacked
  · rename_i apart
    rw [← BitVec.toNat_inj] at apart
    split at unpacked
    · split at unpacked
      · cases unpacked
      · rename_i zero _
        have low := (@unpackMantissa Format.binary64 bits).isLt
        simp only [UnpackedFloat.finite.injEq] at unpacked
        obtain ⟨_, rfl, rfl⟩ := unpacked
        rw [zero]
        simp only [BitVec.toNat_ofNat, Nat.zero_mod] at low ⊢
        omega
    · rename_i normal
      have low := ((1#1 : BitVec 1) ++ @unpackMantissa Format.binary64 bits).isLt
      simp only [UnpackedFloat.finite.injEq] at unpacked
      obtain ⟨_, rfl, rfl⟩ := unpacked
      rw [← BitVec.toNat_inj] at normal
      simp at low field apart normal ⊢
      refine ⟨low, ?_, ?_⟩ <;> omega

theorem isFinite_mul_one {value : Float} (finite : value.isFinite = true) :
    (value * Float.ofBits 0x3FF0000000000000).isFinite = true := by
  have positive : 0 < 2 ^ 52 := by decide
  have one : (Float.ofBits 0x3FF0000000000000).toModel.unpack =
      .finite .positive (2 ^ 52) (-52) positive :=
    rfl
  show (Float.Model.pack (UnpackedFloat.mul Format.binary64 value.toModel.unpack
    (Float.ofBits 0x3FF0000000000000).toModel.unpack)).isFinite = true
  have finite : value.toModel.unpack.isFinite = true := finite
  rw [one]
  cases unpacked : value.toModel.unpack with
  | notANumber => rw [unpacked] at finite; cases finite
  | infinity => rw [unpacked] at finite; cases finite
  | zero sign => exact isFinite_pack_zero _
  | finite sign mantissa exponent positive =>
    obtain ⟨small, low, high⟩ := unpack_bounds unpacked
    have narrow := (Nat.log2_lt (Nat.pos_iff_ne_zero.mp positive)).mpr small
    exact isFinite_rounded positive narrow (by omega) (by omega) (by omega)

theorem isFinite_toFloat {count : Nat} (small : count < 2 ^ 53) :
    count.toUInt64.toFloat.isFinite = true := by
  have whole : (count.toUInt64.toNat : Int) = count := by
    rw [Nat.toUInt64, UInt64.toNat_ofNat']
    omega
  show (Float.Model.pack (normalize Format.binary64 count.toUInt64.toNat 0 .positive)).isFinite =
    true
  rw [whole]
  by_cases zero : count = 0
  · rw [zero]
    exact isFinite_pack_zero _
  · have narrow := (Nat.log2_lt zero).mpr small
    have above : compare (count : Int) 0 = .gt := by
      rw [Int.compare_eq_gt]
      omega
    have target : Format.binary64.targetExponent (totalExponent count 0) =
        (count.log2 : Int) - 52 := by
      rw [targetExponent_eq, totalExponent]
      omega
    simp only [UnpackedFloat.normalize, above, UnpackedFloat.round, decreaseExponent, target,
      Int.toNat_natCast, Nat.shiftLeft_eq]
    exact isFinite_rounded (Nat.pos_of_ne_zero zero) narrow (by omega) (by omega) (by omega)

/-! Others are rounded to 53 bits. The largest of those that fit have the exponent 971, and half of
their last bit is `2 ^ 970`. -/

theorem ofScientific_whole {count : Nat} (apart : count ≠ 0) :
    UnpackedFloat.ofScientific Format.binary64 count 0 =
      roundWithAccuracy Format.binary64 .positive (count * 2 ^ 53) (-53) .exact := by
  have bits : Format.binary64.mantissaBits = 53 := rfl
  have low : ¬ (0 : Int) < -((2 ^ Format.binary64.exponentBits : Int) + count.log2) := by
    have big : (2 ^ Format.binary64.exponentBits : Int) = 2048 := rfl
    omega
  rw [UnpackedFloat.ofScientific, dif_neg apart, if_neg (by decide), if_neg low,
    if_pos (Int.le_refl 0), UnpackedFloat.mul]
  simp only [bits, Nat.shiftLeft_eq, Int.toNat_zero, Nat.pow_zero, Nat.mul_one]
  rfl

/-- The 54 bits of a whole number from its highest one on: the mantissa and the bit behind it. -/
def leading (count : Nat) : Nat :=
  count * 2 ^ 53 / 2 ^ count.log2

theorem leading_bounds {count : Nat} (apart : count ≠ 0) :
    2 ^ 53 ≤ leading count ∧ leading count < 2 ^ 54 := by
  constructor
  · apply (Nat.le_div_iff_mul_le (Nat.two_pow_pos _)).mpr
    rw [Nat.mul_comm]
    exact Nat.mul_le_mul_right _ (Nat.log2_self_le apart)
  · have more : 2 ^ 54 * 2 ^ count.log2 = 2 ^ (count.log2 + 1) * 2 ^ 53 := by
      rw [← Nat.pow_add, ← Nat.pow_add]
      congr 1
      omega
    apply (Nat.div_lt_iff_lt_mul (Nat.two_pow_pos _)).mpr
    rw [more]
    exact Nat.mul_lt_mul_of_pos_right Nat.lt_log2_self (by decide)

/-- A whole number with its bits behind the mantissa shifted out. -/
def shifted (count : Nat) : ExtendedMantissa :=
  (⟨count * 2 ^ 53, false, false⟩ : ExtendedMantissa) >>> (count.log2 + 1)

theorem mantissa_shifted (count : Nat) : (shifted count).mantissa = leading count / 2 := by
  rw [leading, Nat.div_div_eq_div_mul, ← Nat.pow_succ]
  exact mantissa_shiftRight _ _

/-- Rounding carries into one bit more only if all 54 bits are set. -/
theorem roundedMantissa_shifted {count : Nat} (apart : count ≠ 0) :
    leading count / 2 ≤ (shifted count).roundedMantissa ∧
      (shifted count).roundedMantissa ≤ 2 ^ 53 ∧
      ((shifted count).roundedMantissa = 2 ^ 53 ↔ leading count = 2 ^ 54 - 1) := by
  obtain ⟨low, high⟩ := leading_bounds apart
  have mantissa := mantissa_shifted count
  have bounds := roundedMantissa_bounds (shifted count)
  refine ⟨by omega, by omega, ?_⟩
  by_cases odd : (shifted count).mantissa % 2 = 1
  · have bit : (shifted count).roundBit.toNat = leading count % 2 := by
      rw [show (shifted count).roundBit = (leading count % 2 != 0) from roundBit_shiftRight _ _]
      rcases Nat.mod_two_eq_zero_or_one (leading count) with even | odd
      · simp [even]
      · simp [odd]
    have up := roundedMantissa_odd odd
    omega
  · omega

theorem shiftToTargetExponent_whole {count : Nat} (apart : count ≠ 0) :
    shiftToTargetExponent Format.binary64 (count * 2 ^ 53) (-53) .exact =
      (shifted count, (count.log2 : Int) - 52) := by
  have log : (count * 2 ^ 53).log2 = count.log2 + 53 :=
    log2_mul_two_pow (Nat.pos_of_ne_zero apart) 53
  have amount : (Format.binary64.targetExponent (totalExponent (count * 2 ^ 53) (-53)) -
      -53).toNat = count.log2 + 1 := by
    rw [targetExponent_eq, totalExponent, log]
    omega
  simp only [shiftToTargetExponent, shiftToExponent, amount,
    ExtendedMantissa.ofMantissaAndAccuracy, shifted]
  exact congrArg _ (by omega)

/-- How far a rounded mantissa is shifted once more. -/
def carry (rounded : Nat) : Nat :=
  if rounded = 2 ^ 53 then 1 else 0

theorem shiftToTargetExponent_rounded {rounded : Nat} {exponent : Int} (least : 2 ^ 52 ≤ rounded)
    (most : rounded ≤ 2 ^ 53) (normal : -1074 ≤ exponent) :
    shiftToTargetExponent Format.binary64 rounded exponent .exact =
      ((⟨rounded, false, false⟩ : ExtendedMantissa) >>> carry rounded,
        exponent + carry rounded) := by
  have log : rounded.log2 = 52 + carry rounded := by
    have apart : rounded ≠ 0 := by omega
    apply (Nat.log2_eq_iff apart).mpr
    simp only [carry]
    split <;> omega
  have amount : (Format.binary64.targetExponent (totalExponent rounded exponent) -
      exponent).toNat = carry rounded := by
    rw [targetExponent_eq, totalExponent, log]
    omega
  simp only [shiftToTargetExponent, shiftToExponent, amount,
    ExtendedMantissa.ofMantissaAndAccuracy]

theorem isInf_shifted {count : Nat} (apart : count ≠ 0) :
    (Float.Model.pack (roundWithAccuracy Format.binary64 .positive (count * 2 ^ 53) (-53)
      .exact)).isInf = true ↔
        1024 ≤ count.log2 ∨ count.log2 = 970 + 53 ∧ leading count = 2 ^ 54 - 1 := by
  obtain ⟨low, high⟩ := leading_bounds apart
  obtain ⟨least, most, carried⟩ := roundedMantissa_shifted apart
  let rounded := (shifted count).roundedMantissa
  have first := shiftToTargetExponent_whole apart
  let last : ExtendedMantissa := (⟨rounded, false, false⟩ : ExtendedMantissa) >>> carry rounded
  have second : shiftToTargetExponent Format.binary64 rounded ((count.log2 : Int) - 52) .exact =
      (last, (count.log2 : Int) - 52 + carry rounded) :=
    shiftToTargetExponent_rounded (by omega) most (by omega)
  have positive : 0 < last.mantissa := by
    rw [mantissa_shiftRight]
    show 0 < rounded / 2 ^ carry rounded
    rw [carry]
    split <;> omega
  rw [roundWithAccuracy_eq first second positive, isInf_pack, ← carried, carry]
  split <;> omega

theorem mul_div_two_pow (count more both : Nat) :
    count * 2 ^ both / 2 ^ (more + both) = count / 2 ^ more := by
  rw [Nat.pow_add]
  exact Nat.mul_div_mul_right count (2 ^ more) (Nat.two_pow_pos both)

theorem le_log2_of_mul {count more both : Nat} (apart : count ≠ 0)
    (above : 2 ^ both * 2 ^ more ≤ count) : more + both ≤ count.log2 := by
  rw [Nat.le_log2 apart, Nat.add_comm, Nat.pow_add]
  exact above

theorem le_of_le_log2 {count top bound : Nat} (apart : count ≠ 0) (within : bound ≤ 2 ^ top)
    (above : top ≤ count.log2) : bound ≤ count :=
  Nat.le_trans within ((Nat.le_log2 apart).mp above)

theorem le_div_two_pow {count bound power : Nat} :
    bound ≤ count / 2 ^ power ↔ bound * 2 ^ power ≤ count :=
  Nat.le_div_iff_mul_le (Nat.two_pow_pos power)

theorem isInf_rounded {count : Nat} (apart : count ≠ 0) :
    (Float.Model.pack (roundWithAccuracy Format.binary64 .positive (count * 2 ^ 53) (-53)
      .exact)).isInf = true ↔ limit ≤ count := by
  have within : limit ≤ 2 ^ 1024 := by decide +kernel
  have border : limit = (2 ^ 54 - 1) * 2 ^ 970 := by decide +kernel
  have bounds := leading_bounds apart
  have parted (top : count.log2 = 970 + 53) : leading count = count / 2 ^ 970 := by
    have same := mul_div_two_pow count 970 53
    rwa [← top] at same
  rw [isInf_shifted apart]
  constructor
  · rintro (above | ⟨top, full⟩)
    · exact le_of_le_log2 apart within above
    · have reached : 2 ^ 54 - 1 ≤ count / 2 ^ 970 :=
        Nat.le_of_eq (full.symm.trans (parted top))
      rw [border]
      exact le_div_two_pow.mp reached
  · intro above
    rw [border] at above
    have narrow : 2 ^ 53 * 2 ^ 970 ≤ (2 ^ 54 - 1) * 2 ^ 970 := by decide +kernel
    have reached := le_log2_of_mul apart (Nat.le_trans narrow above)
    by_cases top : count.log2 = 970 + 53
    · have full := le_div_two_pow.mpr above
      rw [← parted top] at full
      exact .inr ⟨top, Nat.le_antisymm (Nat.le_sub_one_of_lt bounds.2) full⟩
    · exact .inl (Nat.lt_of_le_of_ne reached fun same => top same.symm)

/-- The nearest floating-point number of a whole number is infinite exactly from there on. -/
theorem isInf_nearestFloat (count : Nat) :
    (Reading.nearestFloat count 0).isInf = true ↔ limit ≤ count := by
  have low : 2 ^ 53 ≤ limit := by decide +kernel
  have high : limit ≤ 10 ^ 400 := by decide +kernel
  rw [Reading.nearestFloat]
  by_cases zero : count = 0
  · have bounded : (0.0 : Float).isInf = false := by decide +kernel
    rw [if_pos (.inl zero), bounded, zero]
    simp only [Bool.false_eq_true, false_iff]
    omega
  rw [if_neg (by omega)]
  by_cases long : 400 < (0 : Int) + (Nat.toDigits 10 count).length
  · have infinite : (Float.ofScientific 1 false 400).isInf = true := by decide +kernel
    have above : 10 ^ 400 ≤ count := by
      apply Nat.not_lt.mp
      intro below
      have short := (Nat.length_toDigits_le_iff (by decide) (by decide)).mpr below
      omega
    simp only [if_pos long, infinite, true_iff]
    exact Nat.le_trans high above
  rw [if_neg long, Float.ofScientific]
  split
  · rename_i small
    have bounded := isInf_of_isFinite (isFinite_mul_one (isFinite_toFloat small.1))
    have within := small.1
    have apart : ¬ limit ≤ count := by omega
    simp only [apart, iff_false, Bool.not_eq_true]
    exact bounded
  · show (Float.Model.pack (UnpackedFloat.ofScientific Format.binary64 count 0)).isInf = true ↔ _
    rw [ofScientific_whole zero]
    exact isInf_rounded zero

/-! What is not finite stays so. -/

theorem unpack_of_not_isFinite {value : Float} (unbounded : value.isFinite = false) :
    value.toModel.unpack = .notANumber ∨ ∃ sign, value.toModel.unpack = .infinity sign := by
  have unbounded : value.toModel.unpack.isFinite = false := unbounded
  cases unpacked : value.toModel.unpack with
  | notANumber => exact .inl rfl
  | infinity sign => exact .inr ⟨sign, rfl⟩
  | zero sign => rw [unpacked] at unbounded; cases unbounded
  | finite sign mantissa exponent positive => rw [unpacked] at unbounded; cases unbounded

theorem isFinite_pack_infinity (sign : Sign) :
    (Float.Model.pack (.infinity sign)).isFinite = false := by
  cases sign <;> decide

theorem isFinite_pack_notANumber : (Float.Model.pack .notANumber).isFinite = false := by
  decide

theorem isFinite_mul (left : Float) {right : Float} (unbounded : right.isFinite = false) :
    (left * right).isFinite = false := by
  show (Float.Model.pack (UnpackedFloat.mul Format.binary64 left.toModel.unpack
    right.toModel.unpack)).isFinite = false
  rcases unpack_of_not_isFinite unbounded with unpacked | ⟨sign, unpacked⟩ <;> rw [unpacked] <;>
    cases left.toModel.unpack <;>
    simp only [UnpackedFloat.mul, isFinite_pack_notANumber, isFinite_pack_infinity]

theorem isFinite_add (left : Float) {right : Float} (unbounded : right.isFinite = false) :
    (left + right).isFinite = false := by
  show (Float.Model.pack (UnpackedFloat.add Format.binary64 left.toModel.unpack
    right.toModel.unpack)).isFinite = false
  rcases unpack_of_not_isFinite unbounded with unpacked | ⟨sign, unpacked⟩ <;> rw [unpacked] <;>
    cases left.toModel.unpack <;>
    simp only [UnpackedFloat.add, isFinite_pack_notANumber, isFinite_pack_infinity]
  -- Infinities of two signs cancel to no number at all.
  split <;> simp only [isFinite_pack_notANumber, isFinite_pack_infinity]

/-! The exact value of a number. -/

theorem ofFloat_finite (value : Float) :
    (∃ negative mantissa exponent, ofFloat value = .finite negative mantissa exponent) ↔
      value.isFinite = true := by
  rw [isFinite_iff]
  simp only [ofFloat, ofBits]
  split
  · split <;> simp [*]
  · split <;> simp [*]

theorem ofBits_bounds {bits : Nat} {negative : Bool} {mantissa : Nat} {exponent : Int}
    (same : ofBits bits = .finite negative mantissa exponent) :
    mantissa < 2 ^ 53 ∧ exponent ≤ 971 := by
  have field : bits >>> 52 % 0x800 < 0x800 := Nat.mod_lt _ (by decide)
  have fraction : bits % 0x10000000000000 < 0x10000000000000 := Nat.mod_lt _ (by decide)
  simp only [ofBits] at same
  split at same
  · split at same <;> cases same
  · split at same <;> cases same <;> omega

theorem natAbs_signed (negative : Bool) (magnitude : Nat) :
    (if negative then -(magnitude : Int) else magnitude).natAbs = magnitude := by
  cases negative <;> simp

theorem truncate_le {negative : Bool} {mantissa top : Nat} {exponent : Int}
    (narrow : mantissa < 2 ^ 53) (small : exponent ≤ top) :
    ∃ whole, (finite negative mantissa exponent).truncate? = some whole ∧
      whole.natAbs ≤ (2 ^ 53 - 1) * 2 ^ top := by
  have most : mantissa ≤ 2 ^ 53 - 1 := by omega
  refine ⟨_, rfl, ?_⟩
  rw [natAbs_signed]
  split
  · rw [Nat.shiftLeft_eq]
    exact Nat.mul_le_mul most (Nat.pow_le_pow_right (by decide) (by omega))
  · rw [Nat.shiftRight_eq_div_pow, ← Nat.mul_one (mantissa / _)]
    exact Nat.mul_le_mul (Nat.le_trans (Nat.div_le_self _ _) most) (Nat.two_pow_pos top)

end Binary64

namespace Quantity

theorem toFloat_fails {value : Quantity} {cause : NumberError} :
    value.toFloat = .error cause ↔
      cause = .tooLarge ∧ ∃ count, value = .whole count ∧ Binary64.limit ≤ count.natAbs := by
  cases value with
  | real value => simp [toFloat]
  | whole count =>
    simp only [toFloat, ← Binary64.isInf_nearestFloat, whole.injEq, exists_eq_left']
    by_cases infinite : (Reading.nearestFloat count.natAbs 0).isInf = true
    · simp [infinite, eq_comm]
    · simp [infinite]

theorem truncate_real (value : Float) :
    (value.isFinite = true ∧ ∃ ticks float, (real value).truncate = .ok ticks ∧
        (whole ticks).toFloat = .ok float) ∨
      value.isFinite = false ∧ ∃ cause, (real value).truncate = .error cause := by
  have known := Binary64.ofFloat_finite value
  cases found : Binary64.ofFloat value with
  | notANumber | infinite negative =>
    right
    simp [truncate, found]
    simpa [found] using known
  | finite negative mantissa exponent =>
    left
    obtain ⟨narrow, small⟩ := Binary64.ofBits_bounds found
    obtain ⟨ticks, truncated, low⟩ : ∃ ticks,
        (Binary64.finite negative mantissa exponent).truncate? = some ticks ∧
          ticks.natAbs ≤ (2 ^ 53 - 1) * 2 ^ 971 :=
      Binary64.truncate_le narrow small
    have border : (2 ^ 53 - 1) * 2 ^ 971 < Binary64.limit := by decide +kernel
    refine ⟨known.mp ⟨_, _, _, found⟩, ticks, ?_⟩
    cases converted : (whole ticks).toFloat with
    | error cause =>
      obtain ⟨_, count, same, above⟩ := toFloat_fails.mp converted
      cases same
      exact absurd (Nat.lt_of_le_of_lt low border) (Nat.not_lt.mpr above)
    | ok float =>
      refine ⟨float, ?_, rfl⟩
      simp [truncate, found, truncated]

end Quantity

end ChipEight
