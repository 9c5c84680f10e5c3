import Mathlib.Tactic.Ring
import SignedBlog.Number.Binary64

/-!
The whole part of a rounded product.

A share such as 0.95 has no exact double-precision form, and its product with a whole number is rounded
again. Yet the whole part of the product is that of the exact fraction, as long as the share is below the
fraction by no more than rounding takes off: `Binary64.wholePart_timesNat`.
-/

namespace SignedBlog.Binary64

set_option autoImplicit false

/-! ## Rounding a quotient -/

theorem div_le_roundDiv (num den : Nat) :
    num / den ≤ roundDiv num den ∧ roundDiv num den ≤ num / den + 1 := by
  unfold roundDiv
  dsimp only
  split
  · omega
  split <;> omega

/-- The nearest whole number is off by no more than a half. -/
theorem roundDiv_bounds {num den : Nat} (hden : 0 < den) :
    2 * (den * roundDiv num den) ≤ 2 * num + den ∧ 2 * num ≤ 2 * (den * roundDiv num den) + den := by
  have hdiv := Nat.div_add_mod num den
  have hmod := Nat.mod_lt num hden
  unfold roundDiv
  dsimp only
  split
  · omega
  split
  · rw [Nat.mul_succ]
    omega
  · obtain heven | hodd := Nat.mod_two_eq_zero_or_one (num / den)
    · rw [heven, Nat.add_zero]
      omega
    · rw [hodd, Nat.mul_succ]
      omega

/-! ## Numbers between powers of two -/

section

variable {num b t : Nat}

/-- Shifted to 53 digits before the point, a number lies between two powers of two. -/
theorem shifted_bounds (hnum : num ≠ 0) (ht : num.log2 + t = b + 52) :
    2 ^ b * 2 ^ 52 ≤ num * 2 ^ t ∧ num * 2 ^ t < 2 ^ b * 2 ^ 53 := by
  have hlow := Nat.mul_le_mul_right (2 ^ t) (Nat.log2_self_le hnum)
  have hhigh := Nat.mul_lt_mul_of_pos_right (Nat.lt_log2_self (n := num)) (Nat.two_pow_pos t)
  rw [← Nat.pow_add] at hlow hhigh
  rw [← Nat.pow_add, ← Nat.pow_add, ← ht, show b + 53 = num.log2 + 1 + t by omega]
  exact ⟨hlow, hhigh⟩

theorem scaleOf_pow (hnum : num ≠ 0) (ht : num.log2 + t = b + 52) (hmin : t ≤ 1074) :
    scaleOf num (2 ^ b) = -(t : Int) := by
  have hlow := (shifted_bounds hnum ht).1
  have hdouble : num * 2 ^ (t + 1) = 2 * (num * 2 ^ t) := by ring
  have hfull : ¬ num * Nat.pow 2 (t + 1) / 2 ^ b < Nat.pow 2 53 := by
    rw [Nat.not_lt, Nat.le_div_iff_mul_le (Nat.two_pow_pos b)]
    change 2 ^ 53 * 2 ^ b ≤ num * 2 ^ (t + 1)
    omega
  have he : (num.log2 : Int) - ((2 ^ b).log2 : Nat) - 53 = -(t + 1 : Nat) := by
    rw [Nat.log2_two_pow]
    omega
  have hnegative : ¬ (0 : Int) ≤ -(t + 1 : Nat) := by omega
  unfold scaleOf
  rw [he]
  simp only [Int.neg_neg, Int.toNat_natCast, if_neg hnegative, hfull, decide_false,
    Bool.false_eq_true, if_false]
  omega

/-- The significand may be rounded up to the next power of two. -/
theorem significand_bounds (hnum : num ≠ 0) (ht : num.log2 + t = b + 52) :
    2 ^ 52 ≤ roundDiv (num * 2 ^ t) (2 ^ b) ∧ roundDiv (num * 2 ^ t) (2 ^ b) ≤ 2 ^ 53 := by
  obtain ⟨hlow, hhigh⟩ := shifted_bounds hnum ht
  have hround := div_le_roundDiv (num * 2 ^ t) (2 ^ b)
  have hlow' : 2 ^ 52 ≤ num * 2 ^ t / 2 ^ b := by
    rw [Nat.le_div_iff_mul_le (Nat.two_pow_pos b), Nat.mul_comm]
    exact hlow
  have hhigh' : num * 2 ^ t / 2 ^ b < 2 ^ 53 := by
    rw [Nat.div_lt_iff_lt_mul (Nat.two_pow_pos b), Nat.mul_comm (2 ^ 53)]
    exact hhigh
  omega

theorem nearest_pow (hnum : num ≠ 0) (ht : num.log2 + t = b + 52) (hpos : 1 ≤ t) (hmin : t ≤ 1074) :
    nearest num (2 ^ b) = (1074 - t) * 2 ^ 52 + roundDiv (num * 2 ^ t) (2 ^ b) := by
  have hnegative : ¬ (0 : Int) ≤ -(t : Int) := by omega
  have hraised : (-(t : Int) + 1074).toNat = 1074 - t := by omega
  have hround := (significand_bounds hnum ht).2
  unfold nearest
  rw [scaleOf_pow hnum ht hmin]
  simp only [if_neg hnegative, Int.neg_neg, Int.toNat_natCast, hraised]
  change min ((1074 - t) * 2 ^ 52 + roundDiv (num * 2 ^ t) (2 ^ b)) (2047 * 2 ^ 52) = _
  omega

end

theorem magnitude_ofParts {m t : Nat} (hlow : 2 ^ 52 ≤ m) (hhigh : m ≤ 2 ^ 53) (hpos : 1 ≤ t)
    (hmin : t ≤ 1074) :
    (ofParts false ((1074 - t) * 2 ^ 52 + m)).magnitude = m * 2 ^ (1075 - t) := by
  have hbits : (ofParts false ((1074 - t) * 2 ^ 52 + m)).bits.toNat = (1074 - t) * 2 ^ 52 + m := by
    change (UInt64.ofNat (0 + ((1074 - t) * 2 ^ 52 + m))).toNat = _
    rw [Nat.zero_add, UInt64.toNat_ofNat', Nat.mod_eq_of_lt (by omega)]
  have hexponent : (ofParts false ((1074 - t) * 2 ^ 52 + m)).exponentBits
      = ((1074 - t) * 2 ^ 52 + m) / 2 ^ 52 % 2 ^ 11 := by
    unfold exponentBits
    rw [hbits]
    rfl
  have hfraction : (ofParts false ((1074 - t) * 2 ^ 52 + m)).fractionBits
      = ((1074 - t) * 2 ^ 52 + m) % 2 ^ 52 := by
    unfold fractionBits
    rw [hbits]
    rfl
  unfold magnitude significand raisedExponent
  rw [hexponent, hfraction]
  obtain hfull | rfl : m < 2 ^ 53 ∨ m = 2 ^ 53 := by omega
  · have hquotient : ((1074 - t) * 2 ^ 52 + m) / 2 ^ 52 % 2 ^ 11 = 1075 - t := by omega
    have hremainder : ((1074 - t) * 2 ^ 52 + m) % 2 ^ 52 = m - 2 ^ 52 := by omega
    rw [hquotient, hremainder, if_neg (by omega), Nat.max_eq_left (by omega)]
    simp only [Nat.pow_eq, Nat.add_sub_cancel' hlow]
  -- the carry leaves no fraction and the next exponent
  · have hquotient : ((1074 - t) * 2 ^ 52 + 2 ^ 53) / 2 ^ 52 % 2 ^ 11 = 1075 - t + 1 := by omega
    have hremainder : ((1074 - t) * 2 ^ 52 + 2 ^ 53) % 2 ^ 52 = 0 := by omega
    rw [hquotient, hremainder, if_neg (by omega), Nat.max_eq_left (by omega)]
    simp only [Nat.pow_eq, Nat.add_zero]
    ring

/-! ## Products -/

/-- A number just below a fraction, as `m` units of which a power of two make a whole: rounding to a unit
neither takes it below the whole part of the fraction nor up to the next whole number. -/
theorem div_of_near {one den num power shifted m : Nat} (hone : 0 < one) (hden : 0 < den)
    (hpos : 0 < power) (hle : den * shifted ≤ num * power * one)
    (hnear : num * power * one * 2 ^ 54 ≤ den * shifted * (2 ^ 54 + 1))
    (hlow : one * 2 ^ 52 ≤ shifted) (hhigh : shifted < one * 2 ^ 53) (hnum : num < 2 ^ 52)
    (hround : 2 * (one * m) ≤ 2 * shifted + one) (hround' : 2 * shifted ≤ 2 * (one * m) + one) :
    m / power = num / den := by
  have hdivision := Nat.div_add_mod num den
  have hremainder := Nat.mod_lt num hden
  apply Nat.div_eq_of_lt_le
  case lo =>
    apply Nat.le_of_not_lt
    intro hless
    have hwhole : den * (num / den) * (power * one) ≤ num * (power * one) :=
      Nat.mul_le_mul_right _ (by omega)
    have hunits := Nat.mul_le_mul_left (den * one) (Nat.succ_le_of_lt hless)
    have hhalf := Nat.mul_le_mul_left den hround'
    have hcap := Nat.mul_lt_mul_of_pos_left hhigh hden
    grind
  case hi =>
    -- one part of the denominator is more than half a unit
    have hpart : den < 2 * power := by
      apply Nat.lt_of_not_le
      intro hsmall
      have h₁ := Nat.mul_le_mul_left den hlow
      have h₂ := Nat.mul_le_mul_left (one * 2 ^ 52) hsmall
      have h₃ := Nat.mul_lt_mul_of_pos_right hnum (Nat.mul_pos hpos hone)
      grind
    apply Nat.lt_of_not_le
    intro hmore
    have hnext : (num + 1) * (power * one) ≤ den * (num / den + 1) * (power * one) := by
      apply Nat.mul_le_mul_right
      rw [Nat.mul_succ]
      omega
    have hunits := Nat.mul_le_mul_left (den * one) hmore
    have hhalf := Nat.mul_le_mul_left den hround
    have hpart' := Nat.mul_lt_mul_of_pos_right hpart hone
    grind

/-- A number below a fraction by no more than a part in 2⁵⁴, and not so small that it has fewer digits. -/
structure JustUnder (x : Binary64) (num den : Nat) : Prop where
  normal : 2 ^ 53 ≤ x.magnitude
  le : den * x.magnitude ≤ num * scaledOne
  near : num * scaledOne * 2 ^ 54 ≤ den * x.magnitude * (2 ^ 54 + 1)

-- the exponent stays a variable, so that no step of a proof evaluates the power
theorem scaledOne_eq {b : Nat} (hb : b = 1075) : scaledOne = 2 ^ b := by
  unfold scaledOne
  rw [← hb]
  rfl

/-- The whole part is the rounded product without its last digits. -/
theorem wholePart_ofParts {num b t : Nat} (hb : b = 1075) (hnum : num ≠ 0)
    (ht : num.log2 + t = b + 52) (hpos : 1 ≤ t) (hmin : t ≤ 1074) :
    (ofParts false (nearest num scaledOne)).wholePart
      = roundDiv (num * 2 ^ t) scaledOne / 2 ^ t := by
  obtain ⟨hlow, hhigh⟩ := significand_bounds hnum ht
  have hsplit : 2 ^ b = 2 ^ t * 2 ^ (1075 - t) := by
    rw [← Nat.pow_add, hb]
    congr 1
    omega
  unfold wholePart
  rw [scaledOne_eq hb, nearest_pow hnum ht hpos hmin, magnitude_ofParts hlow hhigh hpos hmin]
  nth_rewrite 2 [hsplit]
  rw [Nat.mul_div_mul_right _ _ (Nat.two_pow_pos _)]

/-- The whole part of the rounded product is that of the product with the fraction itself. -/
theorem wholePart_timesNat {x : Binary64} {num den n : Nat} (hx : x.JustUnder num den) (hden : 0 < den)
    (hn : n * num < 2 ^ 52) : (x.timesNat n).wholePart = n * num / den := by
  obtain rfl | hpos := Nat.eq_zero_or_pos n
  · rw [Nat.zero_mul, Nat.zero_div, timesNat, Nat.zero_mul]
    decide +kernel
  obtain ⟨b, hb⟩ : ∃ b, b = 1075 := ⟨_, rfl⟩
  have hone : 0 < scaledOne := by
    rw [scaledOne_eq hb]
    exact Nat.two_pow_pos b
  have hproduct := Nat.mul_le_mul_left n hx.le
  have hlow : 2 ^ 53 ≤ n * x.magnitude := Nat.le_trans hx.normal (Nat.le_mul_of_pos_left _ hpos)
  have hhigh : n * x.magnitude < 2 ^ (b + 52) := by
    have hall := Nat.le_mul_of_pos_left (n * x.magnitude) hden
    have hcap := Nat.mul_lt_mul_of_pos_right hn hone
    rw [Nat.pow_add, ← scaledOne_eq hb]
    grind
  have hne : n * x.magnitude ≠ 0 := by omega
  have hlog := (Nat.log2_lt hne).mpr hhigh
  have hlog' := (Nat.le_log2 hne).mpr hlow
  obtain ⟨t, ht⟩ : ∃ t, (n * x.magnitude).log2 + t = b + 52 :=
    ⟨b + 52 - (n * x.magnitude).log2, by omega⟩
  have hdigits : 1 ≤ t ∧ t ≤ 1074 := by omega
  obtain ⟨hunits, hunits'⟩ := shifted_bounds hne ht
  obtain ⟨hround, hround'⟩ := @roundDiv_bounds (n * x.magnitude * 2 ^ t) scaledOne hone
  rw [← scaledOne_eq hb] at hunits hunits'
  unfold timesNat
  rw [wholePart_ofParts hb hne ht hdigits.1 hdigits.2]
  have hle : den * (n * x.magnitude * 2 ^ t) ≤ n * num * 2 ^ t * scaledOne :=
    calc den * (n * x.magnitude * 2 ^ t) = n * (den * x.magnitude) * 2 ^ t := by ring
      _ ≤ n * (num * scaledOne) * 2 ^ t := Nat.mul_le_mul_right _ hproduct
      _ = n * num * 2 ^ t * scaledOne := by ring
  have hnear : n * num * 2 ^ t * scaledOne * 2 ^ 54 ≤ den * (n * x.magnitude * 2 ^ t) * (2 ^ 54 + 1) :=
    calc n * num * 2 ^ t * scaledOne * 2 ^ 54 = n * 2 ^ t * (num * scaledOne * 2 ^ 54) := by ring
      _ ≤ n * 2 ^ t * (den * x.magnitude * (2 ^ 54 + 1)) := Nat.mul_le_mul_left _ hx.near
      _ = den * (n * x.magnitude * 2 ^ t) * (2 ^ 54 + 1) := by ring
  exact div_of_near hone hden (Nat.two_pow_pos t) hle hnear hunits hunits' hn hround hround'

end SignedBlog.Binary64
