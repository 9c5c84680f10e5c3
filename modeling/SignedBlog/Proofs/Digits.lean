import Mathlib.Algebra.Group.Int.Defs
import Mathlib.Algebra.Group.Nat.Defs
import SignedBlog.Number.Integer

/-!
How many digits an integer has, as a bound on the integer.

A limit on digits is a power of ten that the integer stays below (`Integer.fits_iff`). So integers that
stand in a few bytes are always written, and under every limit some integer is not
(`Integer.fits_power`).
-/

namespace SignedBlog.Integer

set_option autoImplicit false

/-- So many digits tell just the numbers below that power of ten. -/
theorem length_ofNat_le_iff {n count : Nat} (hcount : 0 < count) :
    (Text.ofNat n).length ≤ count ↔ n < 10 ^ count := by
  unfold Text.ofNat
  rw [List.length_map]
  exact Nat.length_toDigits_le_iff (by decide) hcount

theorem fits_iff {most : Nat} {n : Int} (hmost : 0 < most) :
    fits (some most) n = true ↔ n.natAbs < 10 ^ most := by
  unfold fits
  rw [decide_eq_true_eq]
  exact length_ofNat_le_iff hmost

/-- Where any integer fits, one of a single digit does. -/
theorem fits_of_digit {limit : Option Nat} {n digit : Int} (h : fits limit n = true)
    (hdigit : digit.natAbs < 10) : fits limit digit = true := by
  cases limit with
  | none => rfl
  | some most =>
    have hmost : 0 < most := by
      refine Nat.lt_of_lt_of_le ?_ (of_decide_eq_true h)
      unfold Text.ofNat
      rw [List.length_map]
      exact Nat.length_toDigits_pos
    have hpower : 10 ^ 1 ≤ 10 ^ most := Nat.pow_le_pow_right (by decide) hmost
    exact (fits_iff hmost).mpr (by omega)

/-- An integer of few digits fits the usual limit. -/
theorem fits_of_lt {n : Int} {count : Nat} (hn : n.natAbs < 10 ^ count)
    (hcount : count ≤ digitLimit) : fits usualLimit n = true := by
  have hpower : 10 ^ count ≤ 10 ^ digitLimit := Nat.pow_le_pow_right (by decide) hcount
  exact (fits_iff (by decide)).mpr (Nat.lt_of_lt_of_le hn hpower)

/-- What stands in eight bytes fits the usual limit. -/
theorem fits_of_eightBytes {n : Int} (h₀ : 0 ≤ n) (h : n < 256 ^ 8) : fits usualLimit n = true := by
  refine @fits_of_lt n 20 ?_ (by decide)
  have hpower : (256 : Int) ^ 8 < 10 ^ 20 := by decide
  omega

/-- For every limit there is an integer that is too long. -/
theorem fits_power (most : Nat) : fits (some most) (10 ^ most) = false := by
  cases most with
  | zero => rfl
  | succ most =>
    rw [Bool.eq_false_iff]
    intro hfits
    have hlt := (fits_iff (Nat.succ_pos most)).mp hfits
    rw [Int.natAbs_pow] at hlt
    exact Nat.lt_irrefl _ hlt

end SignedBlog.Integer
