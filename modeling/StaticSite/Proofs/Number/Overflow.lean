import Mathlib.Algebra.Group.Nat.Defs
import StaticSite.Number.Binary64

/-!
Contract: which integers double precision cannot hold.

Owns:
- the coefficient and the exponent field to which an integer is rounded;
- the least size at which the nearest value of an integer is an infinity.

Does not own: rounding of other numbers (see `StaticSite.Number.Binary64`).
-/

namespace StaticSite.Binary64

/-! ## Rounding to a coefficient -/

theorem scaleDown_one (numerator : Nat) (exponent : Int) :
    scaleDown numerator 1 exponent =
      (numerator * 2 ^ (-exponent).toNat, 2 ^ exponent.toNat) := by
  simp [scaleDown]

/-- A positive number, scaled so that its leading bit has the place value two to the
fifty-second power, is at least that power. -/
theorem fractionCount_le_scaled {size : Nat} (positive : size ≠ 0) :
    fractionCount ≤ size * 2 ^ (-((Nat.log2 size : Int) - 52)).toNat /
      2 ^ ((Nat.log2 size : Int) - 52).toNat := by
  have isPower : fractionCount = 2 ^ 52 := by decide
  have leading := Nat.log2_self_le positive
  rw [isPower, Nat.le_div_iff_mul_le (Nat.two_pow_pos _), ← Nat.pow_add]
  rcases Nat.le_total 52 (Nat.log2 size) with large | small
  · have down : (-((Nat.log2 size : Int) - 52)).toNat = 0 := by omega
    have up : 52 + ((Nat.log2 size : Int) - 52).toNat = Nat.log2 size := by omega
    rw [down, up, Nat.pow_zero, Nat.mul_one]
    exact leading
  · have down : (-((Nat.log2 size : Int) - 52)).toNat = 52 - Nat.log2 size := by omega
    have up : 52 + ((Nat.log2 size : Int) - 52).toNat =
        Nat.log2 size + (52 - Nat.log2 size) := by omega
    rw [down, up, Nat.pow_add]
    exact Nat.mul_le_mul_right _ leading

theorem fieldOfQuotient_one {size : Nat} (positive : size ≠ 0) :
    fieldOfQuotient size 1 = Nat.log2 size + 1023 := by
  have scaled := fractionCount_le_scaled positive
  have noBits : Nat.log2 1 = 0 := by decide
  simp only [fieldOfQuotient, scaleDown_one, noBits, Int.natCast_zero, Int.sub_zero]
  rw [if_neg (Nat.not_lt.mpr scaled)]
  omega

/-- The coefficient to which a positive integer is rounded. -/
def roundedCoefficient (size : Nat) : Nat :=
  nearestQuotient (size * 2 ^ (-((Nat.log2 size : Int) - 52)).toNat)
    (2 ^ ((Nat.log2 size : Int) - 52).toNat)

theorem quotient_le_nearestQuotient (numerator denominator : Nat) :
    numerator / denominator ≤ nearestQuotient numerator denominator := by
  simp only [nearestQuotient]
  split
  · exact Nat.le_refl _
  · split <;> omega

theorem nearestQuotient_le_succ (numerator denominator : Nat) :
    nearestQuotient numerator denominator ≤ numerator / denominator + 1 := by
  simp only [nearestQuotient]
  split
  · exact Nat.le_succ _
  · split <;> omega

/-- The nearest value of an integer is an infinity exactly if its leading bit, or the one
that it carries into when it is rounded, is beyond the largest exponent. -/
theorem overflows_iff_log2 (value : Int) (nonzero : value.natAbs ≠ 0) :
    overflows value = true ↔
      1024 ≤ Nat.log2 value.natAbs ∨
        1023 ≤ Nat.log2 value.natAbs ∧
          2 * fractionCount ≤ roundedCoefficient value.natAbs := by
  have scaled := fractionCount_le_scaled nonzero
  have large : ¬ roundedCoefficient value.natAbs < 4503599627370496 :=
    Nat.not_lt.mpr (Nat.le_trans scaled (quotient_le_nearestQuotient _ _))
  have exponent : ((Nat.log2 value.natAbs + 1023 : Nat) : Int) - 1075 =
      (Nat.log2 value.natAbs : Int) - 52 := by omega
  have rounded : ofInt value = ofCoefficient (value < 0) (roundedCoefficient value.natAbs)
      (Nat.log2 value.natAbs + 1023) := by
    simp only [ofInt, ofQuotient, nonzero, if_false, fieldOfQuotient_one nonzero, exponent,
      scaleDown_one, roundedCoefficient]
  rw [overflows, rounded, ofCoefficient, dif_neg large]
  by_cases plain : roundedCoefficient value.natAbs < 2 * fractionCount
  · rw [if_pos plain]
    split
    · simp only [isFinite, Bool.not_true, Bool.false_eq_true, false_iff]
      omega
    · simp only [isFinite, Bool.not_false, true_iff]
      omega
  · rw [if_neg plain]
    split
    · simp only [isFinite, Bool.not_true, Bool.false_eq_true, false_iff]
      omega
    · simp only [isFinite, Bool.not_false, true_iff]
      omega

/-! ## The least integer that overflows -/

/-- A number below the next multiple of a doubled half is rounded up to an even quotient
exactly if it reaches the half above the odd one. -/
theorem succ_le_nearestQuotient_iff {numerator half quotient : Nat} (positive : 0 < half)
    (odd : quotient % 2 = 1) (below : numerator < (quotient + 1) * (2 * half)) :
    quotient + 1 ≤ nearestQuotient numerator (2 * half) ↔
      quotient * (2 * half) + half ≤ numerator := by
  have divided := Nat.div_add_mod numerator (2 * half)
  have rest := Nat.mod_lt numerator (Nat.mul_pos Nat.two_pos positive)
  have atMost : numerator / (2 * half) ≤ quotient :=
    Nat.le_of_lt_succ ((Nat.div_lt_iff_lt_mul (Nat.mul_pos Nat.two_pos positive)).mpr below)
  rcases Nat.lt_or_ge (numerator / (2 * half)) quotient with less | reached
  · have notReached := nearestQuotient_le_succ numerator (2 * half)
    have smaller := (Nat.div_lt_iff_lt_mul (Nat.mul_pos Nat.two_pos positive)).mp less
    omega
  · have isQuotient : numerator / (2 * half) = quotient := Nat.le_antisymm atMost reached
    rw [isQuotient, Nat.mul_comm (2 * half)] at divided
    simp only [nearestQuotient, isQuotient]
    split
    · omega
    · split <;> omega

/-- The least size of an integer whose nearest value is an infinity: half a unit in the
last place below two to the power of 1024. -/
def overflowBound : Nat := 2 ^ 1024 - 2 ^ 970

theorem overflowBound_eq : overflowBound = (2 ^ 53 - 1) * (2 * 2 ^ 970) + 2 ^ 970 := by
  decide +kernel

theorem overflowBound_le : overflowBound ≤ 2 ^ Nat.succ 1023 := by
  decide +kernel

theorem le_overflowBound : 2 ^ 1023 ≤ overflowBound := by
  decide +kernel

/-- Just below the range of double precision, the leading bit carries over exactly if the
size reaches the bound. -/
theorem carries_iff {size : Nat} (leading : Nat.log2 size = 1023) :
    2 * fractionCount ≤ roundedCoefficient size ↔ overflowBound ≤ size := by
  have unscaled : (-(((1023 : Nat) : Int) - 52)).toNat = 0 := by decide
  have unit : 2 ^ (((1023 : Nat) : Int) - 52).toNat = 2 * 2 ^ 970 := by decide +kernel
  have positive := Nat.two_pow_pos 970
  have twoFractions : 2 * fractionCount = (2 ^ 53 - 1) + 1 := by decide
  have topUnits : (2 ^ 53 - 1 + 1) * (2 * 2 ^ 970) = 2 ^ (1023 + 1) := by decide +kernel
  have below : size < (2 ^ 53 - 1 + 1) * (2 * 2 ^ 970) := by
    rw [topUnits, ← leading]
    exact Nat.lt_log2_self
  simp only [roundedCoefficient, leading, unscaled, unit, Nat.pow_zero, Nat.mul_one,
    twoFractions, overflowBound_eq]
  generalize 2 ^ 970 = half at below positive ⊢
  exact succ_le_nearestQuotient_iff positive (by decide) below

/-- The nearest value of an integer is an infinity exactly if its size reaches the bound. -/
theorem overflows_iff (value : Int) :
    overflows value = true ↔ overflowBound ≤ value.natAbs := by
  by_cases zero : value.natAbs = 0
  · have isZero : value = 0 := Int.natAbs_eq_zero.mp zero
    subst isZero
    decide +kernel
  rw [overflows_iff_log2 value zero]
  rcases Nat.lt_trichotomy (Nat.log2 value.natAbs) 1023 with small | middle | large
  · have notBeyond : ¬ 1024 ≤ Nat.log2 value.natAbs := by omega
    have notCarried : ¬ 1023 ≤ Nat.log2 value.natAbs := by omega
    have power := Nat.pow_le_pow_right Nat.two_pos small
    have below : value.natAbs < overflowBound :=
      Nat.lt_of_lt_of_le Nat.lt_log2_self (Nat.le_trans power le_overflowBound)
    exact iff_of_false (not_or.mpr ⟨notBeyond, fun carries => notCarried carries.1⟩)
      (Nat.not_le.mpr below)
  · rw [← carries_iff middle, middle]
    constructor
    · rintro (beyond | carries)
      · exact absurd beyond (by decide)
      · exact carries.2
    · exact fun carries => Or.inr ⟨Nat.le_refl _, carries⟩
  · have power := Nat.pow_le_pow_right Nat.two_pos large
    have reached : overflowBound ≤ value.natAbs :=
      Nat.le_trans overflowBound_le (Nat.le_trans power (Nat.log2_self_le zero))
    exact ⟨fun _ => reached, fun _ => Or.inl large⟩

end StaticSite.Binary64
