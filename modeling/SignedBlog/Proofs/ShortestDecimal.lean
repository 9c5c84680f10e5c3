import SignedBlog.Proofs.Nearest

/-!
The shortest decimal number that is read as a given one.

The search goes from one digit to seventeen. A grid of seventeen digits is finer than the range of any
finite number, so the search ends within the range: `Binary64.shortest_holds`.
-/

namespace SignedBlog.Binary64

set_option autoImplicit false

/-! ## Grid points -/

theorem ten_zpow_eq (unit : Int) :
    (10 : ℚ) ^ unit = (10 ^ unit.toNat : Nat) / (10 ^ (-unit).toNat : Nat) := by
  push_cast
  rw [← zpow_natCast, ← zpow_natCast, ← zpow_sub₀ (by norm_num)]
  congr 1
  omega

namespace RoundingRange

variable {s : RoundingRange} {unit : Int} {k : Nat}

theorem contains_iff (hden : 0 < s.den) :
    s.contains unit k = true ↔ s.Holds (k * 10 ^ unit) := by
  have hpos : (0 : ℚ) < s.den := by exact_mod_cast hden
  have hdown : (0 : ℚ) < (10 ^ (-unit).toNat : Nat) := by positivity
  unfold contains Holds
  simp only [Nat.pow_eq]
  rw [ten_zpow_eq, ← mul_div_assoc]
  rw [div_le_div_iff₀ hpos hdown, div_le_div_iff₀ hdown hpos, div_lt_div_iff₀ hpos hdown,
    div_lt_div_iff₀ hdown hpos]
  norm_cast
  split <;> simp

/-- The range reaches to both sides of its value. -/
structure Proper (s : RoundingRange) : Prop where
  den : 0 < s.den
  low : (s.low : ℚ) / s.den < s.value / s.den
  high : (s.value : ℚ) / s.den < s.high / s.den

theorem holds_of_lt {v : ℚ} (hlow : (s.low : ℚ) / s.den < v) (hhigh : v < s.high / s.den) :
    s.Holds v := by
  unfold Holds
  split
  · exact ⟨hlow.le, hhigh.le⟩
  · exact ⟨hlow, hhigh⟩

end RoundingRange

section Grid

variable {s : RoundingRange} {unit : Int}

theorem gridPoint?_contains {k : Nat} (h : gridPoint? s unit = some k) :
    s.contains unit k = true := by
  unfold gridPoint? at h
  dsimp only at h
  split at h
  next hlower hupper =>
    split at h
    · cases h
      exact hlower
    split at h
    · cases h
      exact hupper
    · obtain heven | hodd := Nat.mod_two_eq_zero_or_one
        (s.value * Nat.pow 10 (-unit).toNat / (Nat.pow 10 unit.toNat * s.den))
      · rw [heven] at h
        cases h
        exact hlower
      · rw [hodd] at h
        cases h
        exact hupper
  next hlower _ =>
    cases h
    exact hlower
  next _ hupper =>
    cases h
    exact hupper
  next => cases h

/-- The grid point before the value, or the value itself. -/
theorem grid_bounds (hden : 0 < s.den) (unit : Int) :
    ∃ k : Nat, k = s.value * 10 ^ (-unit).toNat / (10 ^ unit.toNat * s.den) ∧
      (k : ℚ) * 10 ^ unit ≤ s.value / s.den ∧ (s.value : ℚ) / s.den < (k + 1 : Nat) * 10 ^ unit := by
  have hpos : (0 : ℚ) < s.den := by exact_mod_cast hden
  have hdown : (0 : ℚ) < (10 ^ (-unit).toNat : Nat) := by positivity
  have hup : 0 < 10 ^ unit.toNat * s.den := Nat.mul_pos (by positivity) hden
  have hlow := Nat.div_mul_le_self (s.value * 10 ^ (-unit).toNat) (10 ^ unit.toNat * s.den)
  have hhigh := Nat.lt_div_mul_add hup (a := s.value * 10 ^ (-unit).toNat)
  rw [← Nat.succ_mul] at hhigh
  refine ⟨_, rfl, ?_, ?_⟩
  · rw [ten_zpow_eq, ← mul_div_assoc, div_le_div_iff₀ hdown hpos]
    rw [← Nat.mul_assoc] at hlow
    exact_mod_cast hlow
  · rw [ten_zpow_eq, ← mul_div_assoc, div_lt_div_iff₀ hpos hdown]
    rw [← Nat.mul_assoc] at hhigh
    exact_mod_cast hhigh

/-- Between the two grid points around the value there is no room for a range that is wider. -/
theorem exists_gridPoint? (hs : s.Proper)
    (hunit : (10 : ℚ) ^ unit < s.high / s.den - s.low / s.den) : ∃ k, gridPoint? s unit = some k := by
  obtain ⟨k, hk, hbefore, hbehind⟩ := grid_bounds hs.den unit
  cases hfound : gridPoint? s unit with
  | some k => exact ⟨k, rfl⟩
  | none =>
    exfalso
    -- neither of the grid points around the value lies in the range
    have hlow : ¬ s.Holds (k * 10 ^ unit) := by
      rw [← RoundingRange.contains_iff hs.den, hk]
      intro hlower
      unfold gridPoint? at hfound
      simp only [Nat.pow_eq, hlower] at hfound
      split at hfound <;> simp_all
    have hhigh : ¬ s.Holds ((k + 1 : Nat) * 10 ^ unit) := by
      rw [← RoundingRange.contains_iff hs.den, hk]
      intro hupper
      unfold gridPoint? at hfound
      simp only [Nat.pow_eq, hupper] at hfound
      split at hfound <;> simp_all
    have hlower : (k : ℚ) * 10 ^ unit ≤ s.low / s.den :=
      not_lt.mp fun h => hlow (RoundingRange.holds_of_lt h (lt_of_le_of_lt hbefore hs.high))
    have hupper : (s.high : ℚ) / s.den ≤ (k + 1 : Nat) * 10 ^ unit :=
      not_lt.mp fun h => hhigh (RoundingRange.holds_of_lt (hs.low.trans hbehind) h)
    push_cast at hupper
    linarith

/-! ## The search -/

/-- The search ends within the range, at the latest where the grid is finer than the range. -/
theorem shortestFrom_holds (hs : s.Proper) {point : Int} {last : Nat}
    (hlast : (10 : ℚ) ^ (point - last) < s.high / s.den - s.low / s.den) {fuel digits : Nat}
    (hfrom : digits ≤ last) (hto : last < digits + fuel) :
    s.Holds ((shortestFrom s point fuel digits).1 * 10 ^ (shortestFrom s point fuel digits).2) := by
  induction fuel generalizing digits with
  | zero => omega
  | succ fuel ih =>
    unfold shortestFrom
    cases hfound : gridPoint? s (point - digits) with
    | some k => exact (RoundingRange.contains_iff hs.den).mp (gridPoint?_contains hfound)
    | none =>
      obtain rfl | hless := Nat.eq_or_lt_of_le hfrom
      -- on the last grid there is a point, so the search cannot have failed
      · obtain ⟨k, hk⟩ := exists_gridPoint? hs hlast
        rw [hk] at hfound
        cases hfound
      · exact ih hless (by omega)

end Grid

/-! ## The decimal point -/

theorem leadingZeros_spec (den fuel num : Nat) :
    leadingZeros den fuel num = fuel ∨ den ≤ num * 10 ^ (leadingZeros den fuel num + 1) := by
  induction fuel generalizing num with
  | zero => exact .inl rfl
  | succ fuel ih =>
    unfold leadingZeros
    split
    · right
      omega
    · obtain hall | hsome := ih (num * 10)
      · left
        omega
      · right
        rwa [Nat.pow_succ, Nat.mul_comm _ 10, ← Nat.mul_assoc]

/-- The digits before the decimal point are no more than the quotient has. -/
theorem decimalPoint_le {num den : Nat} (hden : 0 < den)
    (hsmall : (10 : ℚ) ^ (-401 : Int) ≤ num / den) :
    (10 : ℚ) ^ (decimalPoint num den - 1) ≤ num / den := by
  have hpos : (0 : ℚ) < den := by exact_mod_cast hden
  unfold decimalPoint
  split
  next hle =>
    have hwhole := (length_toDigits_bounds (Nat.div_pos hle hden)).1
    refine hwhole.trans ?_
    rw [le_div_iff₀ hpos]
    exact_mod_cast Nat.div_mul_le_self num den
  next =>
    obtain hall | hsome := leadingZeros_spec den 400 num
    · rw [hall]
      exact hsmall
    · generalize leadingZeros den 400 num = zeros at hsome
      rw [show -(zeros : Int) - 1 = -((zeros + 1 : Nat) : Int) by push_cast; ring, zpow_neg,
        zpow_natCast, le_div_iff₀ hpos, inv_mul_le_iff₀ (by positivity)]
      rw [Nat.mul_comm] at hsome
      exact_mod_cast hsome

/-! ## Finite numbers -/

section Number

variable {x : Binary64}

theorem proper_roundingRange (hpos : x.significand ≠ 0) : x.roundingRange.Proper := by
  have hunit := two_zpow_pos x.exponent
  have habove : (1 : ℚ) ≤ x.quartersBelow := by exact_mod_cast (quartersBelow_le x).1
  refine ⟨den_pos x, ?_, ?_⟩
  · rw [roundingRange_low hpos, roundingRange_value]
    exact mul_lt_mul_of_pos_right (by linarith) hunit
  · rw [roundingRange_value, roundingRange_high]
    exact mul_lt_mul_of_pos_right (by linarith) hunit

theorem significand_of_quarter (h : x.quartersBelow = 1) : x.significand = 2 ^ 52 := by
  unfold quartersBelow at h
  split at h
  next hpower =>
    simp only [Bool.and_eq_true, decide_eq_true_eq] at hpower
    unfold significand
    rw [if_neg (by omega), hpower.1]
    rfl
  next => omega

/-- Seventeen digits make a grid that is finer than the range of the number. -/
theorem seventeen_digits (hpos : x.significand ≠ 0) {point : Int}
    (hpoint : (10 : ℚ) ^ (point - 1) ≤ x.significand * 2 ^ x.exponent) :
    (10 : ℚ) ^ (point - (17 : Nat)) < x.roundingRange.high / x.roundingRange.den
      - x.roundingRange.low / x.roundingRange.den := by
  have hunit := two_zpow_pos x.exponent
  have hdigits : (10 : ℚ) ^ (point - (17 : Nat)) = 10 ^ (point - 1) / 10 ^ 16 := by
    rw [show point - (17 : Nat) = point - 1 - (16 : Nat) by push_cast; ring,
      zpow_sub₀ (by norm_num), zpow_natCast]
  have hwidth : (x.significand : ℚ) / 10 ^ 16 < 1 / 2 + x.quartersBelow / 4 := by
    obtain hquarter | hhalf : x.quartersBelow = 1 ∨ x.quartersBelow = 2 := by
      have := quartersBelow_le x
      omega
    · rw [hquarter, significand_of_quarter hquarter]
      norm_num
    · have hless : (x.significand : ℚ) < 2 ^ 53 := by exact_mod_cast significand_lt x
      rw [hhalf, div_lt_iff₀ (by norm_num)]
      norm_num at hless ⊢
      linarith
  rw [hdigits, roundingRange_high, roundingRange_low hpos]
  calc (10 : ℚ) ^ (point - 1) / 10 ^ 16 ≤ x.significand * 2 ^ x.exponent / 10 ^ 16 :=
        div_le_div_of_nonneg_right hpoint (by positivity)
    _ = x.significand / 10 ^ 16 * 2 ^ x.exponent := by ring
    _ < (1 / 2 + x.quartersBelow / 4) * 2 ^ x.exponent := mul_lt_mul_of_pos_right hwidth hunit
    _ = _ := by ring

/-- The shortest digits lie in the range of the number. -/
theorem shortest_holds (hfinite : x.isFinite = true) (hpos : x.significand ≠ 0) :
    x.roundingRange.Holds
      ((shortest x.roundingRange).1 * 10 ^ (shortest x.roundingRange).2) := by
  have hproper := proper_roundingRange hpos
  have hvalue := RoundingRange.holds_of_lt hproper.low hproper.high
  have hsmall : (10 : ℚ) ^ (-401 : Int) ≤ x.roundingRange.value / x.roundingRange.den :=
    (zpow_le_zpow_right₀ (by norm_num) (by norm_num)).trans
      (magnitude_of_holds hfinite hpos hvalue).1.le
  have hpoint := decimalPoint_le hproper.den hsmall
  rw [roundingRange_value] at hpoint
  exact shortestFrom_holds hproper (seventeen_digits hpos hpoint) (by omega) (by omega)

end Number

end SignedBlog.Binary64
