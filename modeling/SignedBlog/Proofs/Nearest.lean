import Mathlib.Algebra.Order.Field.Power
import Mathlib.Tactic.FieldSimp
import Mathlib.Tactic.Linarith
import Mathlib.Tactic.NormNum
import SignedBlog.Proofs.Rounding

/-!
The number that is nearest to a quotient.

A finite number stands for a range of reals, all of which are rounded to it. A quotient in that range is
rounded to the number, and so is a decimal number: `Binary64.ofDecimal_of_holds`.
-/

namespace SignedBlog.Binary64

set_option autoImplicit false

/-! ## Rounding to a whole number -/

/-- Half a unit on both sides is rounded to a whole number, the ends only to an even one. -/
theorem roundDiv_eq {num den m : Nat} (hden : 0 < den) (hlow : 2 * (den * m) ≤ 2 * num + den)
    (hhigh : 2 * num ≤ 2 * (den * m) + den)
    (hends : m % 2 = 0 ∨ 2 * (den * m) < 2 * num + den ∧ 2 * num < 2 * (den * m) + den) :
    roundDiv num den = m := by
  have hdivision := Nat.div_add_mod num den
  have hremainder := Nat.mod_lt num hden
  -- rounding goes to the whole part or to the number behind it, so `m` is one of the two
  have hle : m ≤ num / den + 1 := by
    have hless : den * (2 * m) < den * (2 * (num / den) + 3) := by grind
    have := Nat.lt_of_mul_lt_mul_left hless
    omega
  have hge : num / den ≤ m := by
    have hless : den * (2 * (num / den)) < den * (2 * m + 2) := by grind
    have := Nat.lt_of_mul_lt_mul_left hless
    omega
  unfold roundDiv
  dsimp only
  obtain heq | heq : m = num / den ∨ m = num / den + 1 := by omega
  · rw [← heq] at hdivision ⊢
    split
    · rfl
    split
    · omega
    · omega
  · rw [heq, Nat.mul_succ] at hlow hhigh hends
    rw [heq]
    split
    · omega
    split
    · rfl
    · omega

theorem roundDiv_eq_of_rat {num den m : Nat} (hden : 0 < den)
    (hlow : (m : ℚ) - 1 / 2 ≤ (num : ℚ) / den) (hhigh : (num : ℚ) / den ≤ m + 1 / 2)
    (hends : m % 2 = 0 ∨ (m : ℚ) - 1 / 2 < (num : ℚ) / den ∧ (num : ℚ) / den < m + 1 / 2) :
    roundDiv num den = m := by
  have hpos : (0 : ℚ) < den := by exact_mod_cast hden
  rw [le_div_iff₀ hpos] at hlow
  rw [div_le_iff₀ hpos] at hhigh
  rw [lt_div_iff₀ hpos, div_lt_iff₀ hpos] at hends
  apply roundDiv_eq hden
  · have : (2 * (den * m) : ℚ) ≤ 2 * num + den := by linarith
    exact_mod_cast this
  · have : (2 * num : ℚ) ≤ 2 * (den * m) + den := by linarith
    exact_mod_cast this
  · refine hends.imp_right fun ⟨hlow, hhigh⟩ => ⟨?_, ?_⟩
    · have : (2 * (den * m) : ℚ) < 2 * num + den := by linarith
      exact_mod_cast this
    · have : (2 * num : ℚ) < 2 * (den * m) + den := by linarith
      exact_mod_cast this

/-! ## The scale of a quotient -/

/-- A quotient in units of a power of two, as `nearest` writes it. -/
theorem cast_scaled (num den : Nat) (e : Int) :
    ((num * 2 ^ (-e).toNat : Nat) : ℚ) / (den * 2 ^ e.toNat : Nat) = num / den * 2 ^ (-e) := by
  obtain ⟨n, rfl | rfl⟩ := e.eq_nat_or_neg
  · have hzero : (-(n : Int)).toNat = 0 := by omega
    rw [hzero, Int.toNat_natCast, zpow_neg, zpow_natCast]
    push_cast
    rw [mul_one, ← div_div, ← div_eq_mul_inv]
  · have hzero : (-(n : Int)).toNat = 0 := by omega
    rw [neg_neg, hzero, Int.toNat_natCast, zpow_natCast]
    push_cast
    ring

theorem div_lt_iff_cast {num den : Nat} (hden : 0 < den) (bound : Nat) :
    num / den < bound ↔ (num : ℚ) / den < bound := by
  have hpos : (0 : ℚ) < den := by exact_mod_cast hden
  rw [Nat.div_lt_iff_lt_mul hden, div_lt_iff₀ hpos]
  norm_cast

section Scale

variable {num den : Nat} {e : Int}

theorem two_zpow_pos (e : Int) : (0 : ℚ) < 2 ^ e := zpow_pos (by norm_num) e

theorem two_zpow_add (e : Int) (k : Nat) : (2 : ℚ) ^ (e + k) = 2 ^ k * 2 ^ e := by
  rw [zpow_add₀ two_ne_zero, zpow_natCast, mul_comm]

theorem scaled_lt_iff (hden : 0 < den) (e : Int) :
    (num * 2 ^ (-e).toNat) / (den * 2 ^ e.toNat) < 2 ^ 53 ↔ (num : ℚ) / den < 2 ^ (e + 53) := by
  have hpos : 0 < den * 2 ^ e.toNat := Nat.mul_pos hden (Nat.two_pow_pos _)
  have hsum : (2 : ℚ) ^ (e + 53) = 2 ^ (53 : Nat) * 2 ^ e := two_zpow_add e 53
  rw [div_lt_iff_cast hpos, cast_scaled, zpow_neg, ← div_eq_mul_inv, div_lt_iff₀ (two_zpow_pos e),
    hsum]
  norm_cast

theorem log2_bounds {n : Nat} (h : 0 < n) :
    (2 : ℚ) ^ (n.log2 : Int) ≤ n ∧ (n : ℚ) < 2 ^ ((n.log2 : Int) + 1) := by
  have hlow := Nat.log2_self_le (Nat.ne_of_gt h)
  have hhigh := Nat.lt_log2_self (n := n)
  constructor
  · rw [zpow_natCast]
    exact_mod_cast hlow
  · have hcast : ((n.log2 : Int) + 1) = ((n.log2 + 1 : Nat) : Int) := by push_cast; rfl
    rw [hcast, zpow_natCast]
    exact_mod_cast hhigh

/-- The first guess at the scale is right or one too small. -/
theorem quotient_bounds (hnum : 0 < num) (hden : 0 < den) :
    (2 : ℚ) ^ ((num.log2 : Int) - den.log2 - 1) < num / den ∧
      (num : ℚ) / den < 2 ^ ((num.log2 : Int) - den.log2 + 1) := by
  obtain ⟨hnum₁, hnum₂⟩ := log2_bounds hnum
  obtain ⟨hden₁, hden₂⟩ := log2_bounds hden
  have hpos : (0 : ℚ) < den := by exact_mod_cast hden
  constructor
  · rw [lt_div_iff₀ hpos]
    calc (2 : ℚ) ^ ((num.log2 : Int) - den.log2 - 1) * den
        < 2 ^ ((num.log2 : Int) - den.log2 - 1) * 2 ^ ((den.log2 : Int) + 1) :=
          mul_lt_mul_of_pos_left hden₂ (two_zpow_pos _)
      _ = 2 ^ (num.log2 : Int) := by
          rw [← zpow_add₀ two_ne_zero]
          congr 1
          ring
      _ ≤ num := hnum₁
  · rw [div_lt_iff₀ hpos]
    calc (num : ℚ) < 2 ^ ((num.log2 : Int) + 1) := hnum₂
      _ = 2 ^ ((num.log2 : Int) - den.log2 + 1) * 2 ^ (den.log2 : Int) := by
          rw [← zpow_add₀ two_ne_zero]
          congr 1
          ring
      _ ≤ 2 ^ ((num.log2 : Int) - den.log2 + 1) * den :=
          mul_le_mul_of_nonneg_left hden₁ (two_zpow_pos _).le

theorem lt_of_two_zpow_lt {a b : Int} (h : (2 : ℚ) ^ a < 2 ^ b) : a < b :=
  (zpow_lt_zpow_iff_right₀ (by norm_num)).mp h

theorem scaleOf_eq (hnum : 0 < num) (hden : 0 < den) (hmin : -1074 ≤ e)
    (hlow : e = -1074 ∨ (2 : ℚ) ^ (e + 52) ≤ num / den) (hhigh : (num : ℚ) / den < 2 ^ (e + 53)) :
    scaleOf num den = e := by
  obtain ⟨hquotient₁, hquotient₂⟩ := quotient_bounds hnum hden
  obtain ⟨guess, hguess⟩ : ∃ guess, (num.log2 : Int) - den.log2 - 53 = guess := ⟨_, rfl⟩
  have hfits : (if 0 ≤ guess then decide (num / (den * Nat.pow 2 guess.toNat) < Nat.pow 2 53)
      else decide (num * Nat.pow 2 (-guess).toNat / den < Nat.pow 2 53))
      = decide ((num : ℚ) / den < 2 ^ (guess + 53)) := by
    have hiff := @scaled_lt_iff num den hden guess
    split
    · have hzero : (-guess).toNat = 0 := by omega
      rw [hzero, pow_zero, mul_one] at hiff
      exact decide_eq_decide.mpr hiff
    · have hzero : guess.toNat = 0 := by omega
      rw [hzero, pow_zero, mul_one] at hiff
      exact decide_eq_decide.mpr hiff
  unfold scaleOf
  simp only [hguess, hfits]
  -- the chosen scale has 53 digits before the point
  obtain ⟨chosen, hchosen, hchosen₁, hchosen₂⟩ : ∃ chosen,
      (if decide ((num : ℚ) / den < 2 ^ (guess + 53)) = true then guess else guess + 1) = chosen ∧
        (2 : ℚ) ^ (chosen + 52) ≤ num / den ∧ (num : ℚ) / den < 2 ^ (chosen + 53) := by
    by_cases hless : (num : ℚ) / den < 2 ^ (guess + 53)
    · refine ⟨guess, by simp [hless], le_of_lt ?_, hless⟩
      rwa [show guess + 52 = (num.log2 : Int) - den.log2 - 1 by omega]
    · refine ⟨guess + 1, by simp [hless], ?_, ?_⟩
      · rw [show guess + 1 + 52 = guess + 53 by ring]
        exact not_lt.mp hless
      · rwa [show guess + 1 + 53 = (num.log2 : Int) - den.log2 + 1 by omega]
  rw [hchosen]
  have hle := lt_of_two_zpow_lt (lt_of_le_of_lt hchosen₁ hhigh)
  obtain rfl | hlow := hlow
  · omega
  · have hge := lt_of_two_zpow_lt (lt_of_le_of_lt hlow hchosen₂)
    omega

theorem nearest_eq {m : Nat} (hscale : scaleOf num den = e)
    (hround : roundDiv (num * 2 ^ (-e).toNat) (den * 2 ^ e.toNat) = m) :
    nearest num den = min ((e + 1074).toNat * 2 ^ 52 + m) (2047 * 2 ^ 52) := by
  unfold nearest
  simp only [hscale]
  split
  · have hzero : (-e).toNat = 0 := by omega
    rw [hzero, pow_zero, mul_one] at hround
    simp only [Nat.pow_eq, hround]
  · have hzero : e.toNat = 0 := by omega
    rw [hzero, pow_zero, mul_one] at hround
    simp only [Nat.pow_eq, hround]

end Scale

/-! ## The range of a number -/

/-- A real in a range. -/
def RoundingRange.Holds (s : RoundingRange) (v : ℚ) : Prop :=
  if s.closed then (s.low : ℚ) / s.den ≤ v ∧ v ≤ s.high / s.den
  else (s.low : ℚ) / s.den < v ∧ v < s.high / s.den

/-- The power of two that multiplies the significand. -/
def exponent (x : Binary64) : Int := x.raisedExponent - 1075

/-- By how many quarters of a unit the range begins before the number: the numbers before a power of two
lie closer. -/
def quartersBelow (x : Binary64) : Nat := if x.fractionBits = 0 && 1 < x.exponentBits then 1 else 2

section Number

variable {x : Binary64}

theorem fractionBits_lt (x : Binary64) : x.fractionBits < 2 ^ 52 :=
  Nat.mod_lt _ (Nat.two_pow_pos 52)

theorem exponentBits_lt (x : Binary64) : x.exponentBits < 2 ^ 11 :=
  Nat.mod_lt _ (Nat.two_pow_pos 11)

theorem exponentBits_lt_of_finite (h : x.isFinite = true) : x.exponentBits < 2047 := by
  have hlt := exponentBits_lt x
  have hne : x.exponentBits ≠ 2047 := by simpa [isFinite] using h
  omega

theorem significand_lt (x : Binary64) : x.significand < 2 ^ 53 := by
  have hlt := fractionBits_lt x
  unfold significand
  split
  · omega
  · simp only [Nat.pow_eq]
    omega

theorem exponent_bounds (h : x.isFinite = true) : -1074 ≤ x.exponent ∧ x.exponent ≤ 971 := by
  have hlt := exponentBits_lt_of_finite h
  unfold exponent raisedExponent
  omega

/-- The bits without the sign: the exponent above the significand, whose leading one is carried. -/
theorem magnitudeBits_eq (x : Binary64) :
    x.bits.toNat % 2 ^ 63 = (x.exponent + 1074).toNat * 2 ^ 52 + x.significand := by
  have hexponent : x.exponentBits = x.bits.toNat / 2 ^ 52 % 2 ^ 11 := rfl
  have hfraction : x.fractionBits = x.bits.toNat % 2 ^ 52 := rfl
  unfold exponent raisedExponent significand
  split
  · omega
  · simp only [Nat.pow_eq]
    omega

theorem ofParts_magnitudeBits (x : Binary64) :
    ofParts x.isNegative (x.bits.toNat % 2 ^ 63) = x := by
  have hlt : x.bits.toNat < 2 ^ 64 := x.bits.toNat_lt
  have hsum : (if x.isNegative then Nat.pow 2 63 else 0) + x.bits.toNat % 2 ^ 63 = x.bits.toNat := by
    simp only [isNegative, Nat.pow_eq, decide_eq_true_eq]
    split <;> omega
  unfold ofParts
  rw [hsum, UInt64.ofNat_toNat]

theorem quartersBelow_le (x : Binary64) : 1 ≤ x.quartersBelow ∧ x.quartersBelow ≤ 2 := by
  unfold quartersBelow
  split <;> omega

/-- Away from a power of two the range begins half a unit before the number. -/
theorem quartersBelow_of_normal (hexponent : -1074 < x.exponent) :
    2 ^ 52 ≤ x.significand ∧
      (x.significand = 2 ^ 52 ∧ x.quartersBelow = 1 ∨ 2 ^ 52 < x.significand) := by
  have hnormal : 1 < x.exponentBits := by
    unfold exponent raisedExponent at hexponent
    omega
  have hsignificand : x.significand = 2 ^ 52 + x.fractionBits := by
    unfold significand
    rw [if_neg (by omega)]
    rfl
  refine ⟨by omega, ?_⟩
  by_cases hfraction : x.fractionBits = 0
  · left
    refine ⟨by omega, ?_⟩
    simp [quartersBelow, hfraction, hnormal]
  · right
    omega

theorem quarter_unit (e : Nat) :
    ((2 ^ (e - 1077) : Nat) : ℚ) / (2 ^ (1077 - e) : Nat) = 2 ^ ((e : Int) - 1075) / 4 := by
  have hfour : (4 : ℚ) = 2 ^ (2 : Int) := by norm_num
  push_cast
  rw [hfour, ← zpow_natCast, ← zpow_natCast, ← zpow_sub₀ two_ne_zero, ← zpow_sub₀ two_ne_zero]
  congr 1
  omega

theorem den_pos (x : Binary64) : 0 < x.roundingRange.den := Nat.two_pow_pos (1077 - x.raisedExponent)

theorem roundingRange_value (x : Binary64) :
    (x.roundingRange.value : ℚ) / x.roundingRange.den = x.significand * 2 ^ x.exponent := by
  have hunit := quarter_unit x.raisedExponent
  unfold roundingRange exponent
  simp only [Nat.pow_eq, Nat.cast_mul, Nat.cast_ofNat]
  rw [mul_div_assoc, hunit]
  ring

theorem roundingRange_low (hpos : x.significand ≠ 0) :
    (x.roundingRange.low : ℚ) / x.roundingRange.den
      = (x.significand - x.quartersBelow / 4) * 2 ^ x.exponent := by
  have hunit := quarter_unit x.raisedExponent
  have hbelow : x.quartersBelow ≤ 4 * x.significand := by
    have := (quartersBelow_le x).2
    omega
  change ((4 * x.significand - x.quartersBelow) * 2 ^ (x.raisedExponent - 1077) : Nat)
    / ((2 ^ (1077 - x.raisedExponent) : Nat) : ℚ) = _
  rw [Nat.cast_mul, mul_div_assoc, hunit, Nat.cast_sub hbelow, exponent]
  push_cast
  ring

theorem roundingRange_high (x : Binary64) :
    (x.roundingRange.high : ℚ) / x.roundingRange.den
      = (x.significand + 1 / 2) * 2 ^ x.exponent := by
  have hunit := quarter_unit x.raisedExponent
  unfold roundingRange exponent
  simp only [Nat.pow_eq, Nat.cast_mul, Nat.cast_add, Nat.cast_ofNat]
  rw [mul_div_assoc, hunit]
  ring

/-- The range of a number that is not zero, in units of the number. -/
theorem bounds_of_holds {v : ℚ} (hpos : x.significand ≠ 0) (h : x.roundingRange.Holds v) :
    ((x.significand : ℚ) - x.quartersBelow / 4) * 2 ^ x.exponent ≤ v ∧
      v ≤ (x.significand + 1 / 2) * 2 ^ x.exponent ∧
      (x.significand % 2 = 0 ∨
        ((x.significand : ℚ) - x.quartersBelow / 4) * 2 ^ x.exponent < v ∧
          v < (x.significand + 1 / 2) * 2 ^ x.exponent) := by
  have hclosed : x.roundingRange.closed = (x.significand % 2 == 0) := rfl
  unfold RoundingRange.Holds at h
  rw [roundingRange_low hpos, roundingRange_high, hclosed] at h
  split at h
  next heven => exact ⟨h.1, h.2, .inl (by simpa using heven)⟩
  next => exact ⟨h.1.le, h.2.le, .inr h⟩

theorem cast_bounds (hpos : x.significand ≠ 0) :
    (1 : ℚ) ≤ x.significand ∧ (x.significand : ℚ) + 1 ≤ 2 ^ 53 ∧ (x.quartersBelow : ℚ) ≤ 2 := by
  have hone := Nat.one_le_iff_ne_zero.mpr hpos
  have hless := significand_lt x
  have hbelow := (quartersBelow_le x).2
  exact ⟨by exact_mod_cast hone, by exact_mod_cast hless, by exact_mod_cast hbelow⟩

section Holds

variable {v : ℚ}

theorem pos_of_holds (hpos : x.significand ≠ 0) (h : x.roundingRange.Holds v) : 0 < v := by
  obtain ⟨hone, -, hbelow⟩ := cast_bounds hpos
  exact lt_of_lt_of_le (mul_pos (by linarith) (two_zpow_pos _)) (bounds_of_holds hpos h).1

theorem lt_of_holds (hpos : x.significand ≠ 0) (h : x.roundingRange.Holds v) :
    v < 2 ^ (x.exponent + 53) := by
  obtain ⟨-, hless, -⟩ := cast_bounds hpos
  calc v ≤ (x.significand + 1 / 2) * 2 ^ x.exponent := (bounds_of_holds hpos h).2.1
    _ < 2 ^ 53 * 2 ^ x.exponent := mul_lt_mul_of_pos_right (by linarith) (two_zpow_pos _)
    _ = 2 ^ (x.exponent + 53) := (two_zpow_add x.exponent 53).symm

/-- Whatever the range holds before a power of two, the number is that power, and the range ends there
with half the units. -/
theorem edge_of_holds (hpos : x.significand ≠ 0) (h : x.roundingRange.Holds v)
    (hexponent : -1074 < x.exponent) (hless : v < 2 ^ (x.exponent + 52)) :
    x.significand = 2 ^ 52 ∧ (2 : ℚ) ^ (x.exponent - 1 + 52) ≤ v ∧
      (((2 ^ 53 : Nat) : ℚ) - 1 / 2) * 2 ^ (x.exponent - 1) ≤ v ∧
      v ≤ ((2 ^ 53 : Nat) + 1 / 2) * 2 ^ (x.exponent - 1) := by
  obtain ⟨hlow, -, -⟩ := bounds_of_holds hpos h
  have hunit := two_zpow_pos x.exponent
  have hpower : (2 : ℚ) ^ (x.exponent + 52) = 2 ^ 52 * 2 ^ x.exponent := two_zpow_add x.exponent 52
  have hhalved : (2 : ℚ) ^ (x.exponent - 1) = 2 ^ x.exponent / 2 := zpow_sub_one₀ two_ne_zero _
  rw [hpower] at hless
  obtain ⟨-, ⟨hleast, hquarters⟩ | hgreater⟩ := quartersBelow_of_normal hexponent
  · rw [hleast, hquarters] at hlow
    push_cast at hlow
    refine ⟨hleast, ?_, ?_, ?_⟩
    · have hraised : (2 : ℚ) ^ (x.exponent - 1 + 52) = 2 ^ 52 * 2 ^ (x.exponent - 1) :=
        two_zpow_add (x.exponent - 1) 52
      rw [hraised, hhalved]
      linarith
    · rw [hhalved]
      push_cast
      linarith
    · rw [hhalved]
      push_cast
      linarith
  · exfalso
    obtain ⟨-, -, hbelow⟩ := cast_bounds hpos
    have hgreater : (2 : ℚ) ^ 52 + 1 ≤ x.significand := by exact_mod_cast hgreater
    have hcross : (2 : ℚ) ^ 52 * 2 ^ x.exponent
        < (x.significand - x.quartersBelow / 4) * 2 ^ x.exponent :=
      mul_lt_mul_of_pos_right (by linarith) hunit
    linarith

end Holds

variable {num den : Nat}

theorem nearest_eq_of_rat {m : Nat} {e : Int} (hnum : 0 < num) (hden : 0 < den) (hmin : -1074 ≤ e)
    (hscale : e = -1074 ∨ (2 : ℚ) ^ (e + 52) ≤ num / den) (htop : (num : ℚ) / den < 2 ^ (e + 53))
    (hlow : ((m : ℚ) - 1 / 2) * 2 ^ e ≤ num / den) (hhigh : (num : ℚ) / den ≤ (m + 1 / 2) * 2 ^ e)
    (hends : m % 2 = 0 ∨
      ((m : ℚ) - 1 / 2) * 2 ^ e < num / den ∧ (num : ℚ) / den < (m + 1 / 2) * 2 ^ e) :
    nearest num den = min ((e + 1074).toNat * 2 ^ 52 + m) (2047 * 2 ^ 52) := by
  have hunit := two_zpow_pos e
  apply nearest_eq (scaleOf_eq hnum hden hmin hscale htop)
  apply roundDiv_eq_of_rat (Nat.mul_pos hden (Nat.two_pow_pos _)) <;>
    rw [cast_scaled, zpow_neg, ← div_eq_mul_inv]
  · rwa [le_div_iff₀ hunit]
  · rwa [div_le_iff₀ hunit]
  · rwa [lt_div_iff₀ hunit, div_lt_iff₀ hunit]

/-- A quotient in the range of a number is rounded to it. -/
theorem nearest_of_holds (hfinite : x.isFinite = true) (hpos : x.significand ≠ 0) (hden : 0 < den)
    (h : x.roundingRange.Holds ((num : ℚ) / den)) : nearest num den = x.bits.toNat % 2 ^ 63 := by
  obtain ⟨hlow, hhigh, hends⟩ := bounds_of_holds hpos h
  obtain ⟨hmin, hmax⟩ := exponent_bounds hfinite
  have hsignificand := significand_lt x
  have htop := lt_of_holds hpos h
  have hnum : 0 < num := by
    have hquotient := pos_of_holds hpos h
    apply Nat.pos_of_ne_zero
    rintro rfl
    simp at hquotient
  rw [magnitudeBits_eq]
  by_cases hscale : x.exponent = -1074 ∨ (2 : ℚ) ^ (x.exponent + 52) ≤ num / den
  case pos =>
    have hhalf : ((x.significand : ℚ) - 1 / 2) * 2 ^ x.exponent
        ≤ (x.significand - x.quartersBelow / 4) * 2 ^ x.exponent := by
      obtain ⟨-, -, hbelow⟩ := cast_bounds hpos
      exact mul_le_mul_of_nonneg_right (by linarith) (two_zpow_pos _).le
    rw [nearest_eq_of_rat hnum hden hmin hscale htop (hhalf.trans hlow) hhigh
      (hends.imp_right fun h => ⟨lt_of_le_of_lt hhalf h.1, h.2⟩)]
    omega
  case neg =>
    -- the quotient lies just before a power of two, where the units are half as large
    rw [not_or, not_le] at hscale
    obtain ⟨hexponent, hless⟩ := hscale
    obtain ⟨hleast, hbottom, hedge⟩ := edge_of_holds hpos h (by omega) hless
    have hless : (num : ℚ) / den < 2 ^ (x.exponent - 1 + 53) := by
      rwa [show x.exponent - 1 + 53 = x.exponent + 52 by ring]
    rw [nearest_eq_of_rat hnum hden (by omega) (.inr hbottom) hless hedge.1 hedge.2
      (.inl (by norm_num))]
    omega

end Number

/-! ## Decimal numbers -/

theorem length_toDigits_bounds {n : Nat} (h : 0 < n) :
    (10 : ℚ) ^ (((Nat.toDigits 10 n).length : Int) - 1) ≤ n ∧
      (n : ℚ) < 10 ^ ((Nat.toDigits 10 n).length : Int) := by
  have hpos := @Nat.length_toDigits_pos 10 n
  have hiff {k : Nat} (hk : 0 < k) := @Nat.length_toDigits_le_iff 10 n k (by decide) hk
  generalize (Nat.toDigits 10 n).length = size at hpos hiff
  have hhigh := (hiff hpos).mp le_rfl
  have hlow : 10 ^ (size - 1) ≤ n := by
    by_cases hone : size = 1
    · rw [hone]
      exact h
    · have := (hiff (k := size - 1) (by omega)).not.mp (by omega)
      omega
  constructor
  · rw [show (size : Int) - 1 = (size - 1 : Nat) by omega, zpow_natCast]
    exact_mod_cast hlow
  · rw [zpow_natCast]
    exact_mod_cast hhigh

theorem ten_zpow_pos (e : Int) : (0 : ℚ) < 10 ^ e := zpow_pos (by norm_num) e

theorem lt_of_ten_zpow_lt {a b : Int} (h : (10 : ℚ) ^ a < 10 ^ b) : a < b :=
  (zpow_lt_zpow_iff_right₀ (by norm_num)).mp h

theorem two_zpow_lt : (2 : ℚ) ^ (1024 : Int) < 10 ^ (309 : Int) := by
  have h : 2 ^ 1024 < 10 ^ 309 := by decide +kernel
  rw [show (1024 : Int) = (1024 : Nat) from rfl, show (309 : Int) = (309 : Nat) from rfl,
    zpow_natCast, zpow_natCast]
  exact_mod_cast h

theorem ten_zpow_lt : (10 : ℚ) ^ (-324 : Int) < 2 ^ (-1075 : Int) := by
  have h : 2 ^ 1075 < 10 ^ 324 := by decide +kernel
  rw [show (-324 : Int) = -(324 : Nat) from rfl, show (-1075 : Int) = -(1075 : Nat) from rfl,
    zpow_neg, zpow_neg, zpow_natCast, zpow_natCast]
  exact (inv_lt_inv₀ (by positivity) (by positivity)).mpr (by exact_mod_cast h)

section Decimal

variable {x : Binary64} {digits : Nat} {power : Int}

/-- What is rounded to a finite number is neither too large nor too small for the reader. -/
theorem magnitude_of_holds {v : ℚ} (hfinite : x.isFinite = true) (hpos : x.significand ≠ 0)
    (h : x.roundingRange.Holds v) : (10 : ℚ) ^ (-324 : Int) < v ∧ v < 10 ^ (309 : Int) := by
  obtain ⟨hlow, -, -⟩ := bounds_of_holds hpos h
  obtain ⟨hmin, hmax⟩ := exponent_bounds hfinite
  obtain ⟨hone, -, hbelow⟩ := cast_bounds hpos
  constructor
  · calc (10 : ℚ) ^ (-324 : Int) < 2 ^ (-1075 : Int) := ten_zpow_lt
      _ = 1 / 2 * 2 ^ (-1074 : Int) := by
          rw [show (-1075 : Int) = -1074 - 1 by ring, zpow_sub_one₀ two_ne_zero]
          ring
      _ ≤ (x.significand - x.quartersBelow / 4) * 2 ^ x.exponent :=
          mul_le_mul (by linarith) (zpow_le_zpow_right₀ (by norm_num) hmin) (two_zpow_pos _).le
            (by linarith)
      _ ≤ v := hlow
  · calc v < 2 ^ (x.exponent + 53) := lt_of_holds hpos h
      _ ≤ 2 ^ (1024 : Int) := zpow_le_zpow_right₀ (by norm_num) (by omega)
      _ < 10 ^ (309 : Int) := two_zpow_lt

/-- A decimal number in the range of a number is read as that number. -/
theorem ofDecimal_of_holds (hfinite : x.isFinite = true) (hpos : x.significand ≠ 0)
    (h : x.roundingRange.Holds (digits * 10 ^ power)) :
    ofDecimal x.isNegative digits power = x := by
  obtain ⟨hlow, hhigh⟩ := magnitude_of_holds hfinite hpos h
  have hdigits : digits ≠ 0 := by
    rintro rfl
    rw [Nat.cast_zero, zero_mul] at hlow
    exact absurd hlow (not_lt.mpr (ten_zpow_pos _).le)
  obtain ⟨hsize₁, hsize₂⟩ := length_toDigits_bounds (Nat.pos_of_ne_zero hdigits)
  unfold ofDecimal
  rw [if_neg hdigits]
  generalize ((Nat.toDigits 10 digits).length : Int) = size at hsize₁ hsize₂
  have hlarge : size - 1 + power < 309 := by
    apply lt_of_ten_zpow_lt
    rw [zpow_add₀ (by norm_num)]
    exact lt_of_le_of_lt (mul_le_mul_of_nonneg_right hsize₁ (ten_zpow_pos _).le) hhigh
  have hsmall : -324 < size + power := by
    apply lt_of_ten_zpow_lt
    rw [zpow_add₀ (by norm_num)]
    exact hlow.trans (mul_lt_mul_of_pos_right hsize₂ (ten_zpow_pos _))
  dsimp only
  rw [if_neg (by omega), if_neg (by omega)]
  by_cases hwhole : 0 ≤ power
  · rw [if_pos hwhole]
    obtain ⟨n, rfl⟩ := Int.eq_ofNat_of_zero_le hwhole
    have hvalue : (digits : ℚ) * 10 ^ (n : Int) = (digits * Nat.pow 10 n : Nat) / (1 : Nat) := by
      rw [zpow_natCast, Nat.pow_eq]
      push_cast
      rw [div_one]
    rw [hvalue] at h
    rw [Int.toNat_natCast, nearest_of_holds hfinite hpos Nat.one_pos h, ofParts_magnitudeBits]
  · rw [if_neg hwhole]
    obtain ⟨n, rfl⟩ : ∃ n : Nat, power = -n := ⟨(-power).toNat, by omega⟩
    have hvalue : (digits : ℚ) * 10 ^ (-n : Int) = digits / (Nat.pow 10 n : Nat) := by
      rw [zpow_neg, zpow_natCast, Nat.pow_eq]
      push_cast
      rw [div_eq_mul_inv]
    rw [hvalue] at h
    have hden : 0 < Nat.pow 10 n := Nat.pow_pos (by decide)
    rw [neg_neg, Int.toNat_natCast, nearest_of_holds hfinite hpos hden h, ofParts_magnitudeBits]

theorem ofDecimal_zero (h : x.significand = 0) : ofDecimal x.isNegative 0 power = x := by
  have hexponent : x.raisedExponent = 1 := by
    unfold significand at h
    unfold raisedExponent
    split at h
    next hzero => rw [hzero]; rfl
    next => simp only [Nat.pow_eq] at h; omega
  have hbits : x.bits.toNat % 2 ^ 63 = 0 := by
    rw [magnitudeBits_eq, h, exponent, hexponent]
    rfl
  rw [ofDecimal, if_pos rfl, ← hbits, ofParts_magnitudeBits]

end Decimal

end SignedBlog.Binary64
