import Mathlib.Data.List.TakeWhile
import SignedBlog.Proofs.JsonNumbers
import SignedBlog.Proofs.ShortestDecimal

/-!
Floating-point numbers of JSON, written and read back.

The text of a finite number is a numeral: digits, and behind them a fraction, a power of ten or both.
Whichever of its layouts is taken, the numeral has the value of the shortest digits, which are read as
the number itself: `Json.readsBack_float`.
-/

namespace SignedBlog

set_option autoImplicit false

/-! ## Digits -/

theorem ofDigitChars_replicate (count init : Nat) :
    Nat.ofDigitChars 10 (List.replicate count '0') init = init * 10 ^ count := by
  induction count generalizing init with
  | zero => simp [Nat.ofDigitChars_eq_foldl]
  | succ count ih =>
    rw [List.replicate_succ, Nat.ofDigitChars_cons, ih, Nat.pow_succ]
    simp
    ring

theorem ofDigitChars_append_zeros (digits : List Char) (count : Nat) :
    Nat.ofDigitChars 10 (digits ++ List.replicate count '0') 0
      = Nat.ofDigitChars 10 digits 0 * 10 ^ count := by
  rw [Nat.ofDigitChars_append, ofDigitChars_replicate]

namespace Binary64

/-- Digits without a needless zero before them. -/
def Leads (digits : List Char) : Prop := ∃ c cs, digits = c :: cs ∧ c ≠ '0'

theorem leads_toDigits {n : Nat} (h : 0 < n) : Leads (Nat.toDigits 10 n) := by
  obtain ⟨c, t, hdigits, -, hzero⟩ := Text.ofNat_eq_cons n
  cases hchars : Nat.toDigits 10 n with
  | nil => simp [Text.ofNat, hchars] at hdigits
  | cons d ds =>
    refine ⟨d, ds, rfl, ?_⟩
    rintro rfl
    simp only [Text.ofNat, hchars, List.map_cons, List.cons.injEq] at hdigits
    have := hzero (hdigits.1 ▸ rfl)
    omega

theorem Leads.not_zeros {digits : List Char} (h : Leads digits) (count : Nat) :
    digits ≠ List.replicate count '0' := by
  obtain ⟨c, cs, rfl, hc⟩ := h
  intro hzeros
  have hmem : c ∈ List.replicate count '0' := hzeros ▸ List.mem_cons_self
  exact hc (List.eq_of_mem_replicate hmem)

/-- The digits that are kept, and the zeros that are not. -/
theorem trimZeros_append (k : Nat) (unit : Int) :
    ∃ zeros : Nat, Nat.toDigits 10 k = (trimZeros k unit).1 ++ List.replicate zeros '0' ∧
      (trimZeros k unit).2 = unit + zeros + (trimZeros k unit).1.length := by
  have hsplit := List.takeWhile_append_dropWhile (p := (· == '0')) (l := (Nat.toDigits 10 k).reverse)
  have hzeros : (Nat.toDigits 10 k).reverse.takeWhile (· == '0')
      = List.replicate ((Nat.toDigits 10 k).reverse.takeWhile (· == '0')).length '0' := by
    rw [List.eq_replicate_iff]
    refine ⟨rfl, fun c hc => ?_⟩
    simpa using List.mem_takeWhile_imp hc
  generalize ((Nat.toDigits 10 k).reverse.takeWhile (· == '0')).length = zeros at hzeros
  have hdigits : Nat.toDigits 10 k
      = ((Nat.toDigits 10 k).reverse.dropWhile (· == '0')).reverse ++ List.replicate zeros '0' := by
    have hreverse := congrArg List.reverse hsplit
    rw [List.reverse_append, hzeros, List.reverse_replicate, List.reverse_reverse] at hreverse
    exact hreverse.symm
  refine ⟨zeros, hdigits, ?_⟩
  have hlength := congrArg List.length hdigits
  rw [List.length_append, List.length_replicate] at hlength
  simp only [trimZeros]
  omega

/-- Trimmed digits have the same value and neither begin nor end with a needless zero. -/
theorem trimZeros_spec {k : Nat} (h : 0 < k) (unit : Int) :
    Leads (trimZeros k unit).1 ∧ (∀ c ∈ (trimZeros k unit).1, c.isDigit = true) ∧
      (Nat.ofDigitChars 10 (trimZeros k unit).1 0 : ℚ)
          * 10 ^ ((trimZeros k unit).2 - (trimZeros k unit).1.length) = k * 10 ^ unit := by
  obtain ⟨zeros, hdigits, hpoint⟩ := trimZeros_append k unit
  have hleads := leads_toDigits h
  have hvalue := @Nat.ofDigitChars_toDigits 10 k (by decide) (by decide)
  have hchars : ∀ c ∈ Nat.toDigits 10 k, c.isDigit = true := fun c hc =>
    Nat.isDigit_of_mem_toDigits (by decide) (by decide) hc
  rw [hdigits] at hleads hvalue hchars
  rw [hpoint]
  generalize (trimZeros k unit).1 = digits at *
  refine ⟨?_, (List.forall_mem_append.mp hchars).1, ?_⟩
  · obtain ⟨c, cs, hcons, hc⟩ := hleads
    cases digits with
    | nil => exact absurd rfl (Leads.not_zeros ⟨c, cs, hcons, hc⟩ zeros)
    | cons d ds =>
      exact ⟨d, ds, rfl, (List.cons.inj hcons).1 ▸ hc⟩
  · rw [ofDigitChars_append_zeros] at hvalue
    rw [← hvalue, show unit + zeros + (digits.length : Int) - digits.length = zeros + unit by ring,
      zpow_add₀ (by norm_num), zpow_natCast]
    push_cast
    ring

/-! ## Numerals -/

/-- A number as it is written in JSON, without its sign. -/
structure Numeral where
  whole : List Char
  fraction : List Char
  power : Option Int

namespace Numeral

/-- The letter for a power of ten, its sign and at least two digits. -/
def powerChars (power : Int) : List Char :=
  let size := Nat.toDigits 10 power.natAbs
  'e' :: (if power < 0 then '-' else '+') :: (if size.length < 2 then '0' :: size else size)

def chars (n : Numeral) : List Char :=
  n.whole ++ (if n.fraction = [] then [] else '.' :: n.fraction) ++ n.power.elim [] powerChars

/-- What all digits write, as if there were no point. -/
def digits (n : Numeral) : Nat := Nat.ofDigitChars 10 (n.whole ++ n.fraction) 0

/-- The power of ten that multiplies the digits. -/
def exponent (n : Numeral) : Int := n.power.getD 0 - n.fraction.length

/-- A numeral of a floating-point number: it cannot be taken for an integer. -/
structure Valid (n : Numeral) : Prop where
  digits : ∀ c ∈ n.whole ++ n.fraction, c.isDigit = true
  whole : n.whole = ['0'] ∨ Leads n.whole
  decimal : n.fraction ≠ [] ∨ n.power ≠ none

end Numeral

theorem Numeral.Valid.chars_eq_cons {n : Numeral} (h : n.Valid) :
    ∃ c cs, n.chars = c :: cs ∧ c.isDigit = true := by
  have hdigits := (List.forall_mem_append.mp h.digits).1
  unfold Numeral.chars
  obtain hwhole | ⟨c, cs, hwhole, -⟩ := h.whole
  · rw [hwhole]
    exact ⟨_, _, rfl, rfl⟩
  · rw [hwhole] at hdigits ⊢
    exact ⟨c, _, rfl, hdigits c List.mem_cons_self⟩

section Layout

variable {digits : List Char} {point : Int}

/-- A numeral is the layout of some digits with the point at a place, and has their value. -/
structure Numeral.LaysOut (n : Numeral) (digits : List Char) (point : Int) : Prop where
  chars : layOut digits point = n.chars
  valid : n.Valid
  value : (n.digits : ℚ) * 10 ^ n.exponent
    = Nat.ofDigitChars 10 digits 0 * 10 ^ (point - digits.length)

theorem layOut_small (hlow : -4 < point) (hhigh : point ≤ 0) (hleads : Leads digits)
    (hdigits : ∀ c ∈ digits, c.isDigit = true) : ∃ n : Numeral, n.LaysOut digits point := by
  obtain ⟨zeros, rfl⟩ : ∃ zeros : Nat, point = -zeros := ⟨(-point).toNat, by omega⟩
  obtain ⟨c, cs, rfl, hc⟩ := hleads
  refine ⟨⟨['0'], List.replicate zeros '0' ++ c :: cs, none⟩, ?_, ⟨?_, .inl rfl, .inl (by simp)⟩, ?_⟩
  · simp [layOut, Numeral.chars, hlow, hhigh]
  · rw [List.forall_mem_append, List.forall_mem_append]
    refine ⟨by simp, fun d hd => ?_, hdigits⟩
    rw [List.eq_of_mem_replicate hd]
    rfl
  · have hvalue : Nat.ofDigitChars 10 (['0'] ++ (List.replicate zeros '0' ++ c :: cs)) 0
        = Nat.ofDigitChars 10 (c :: cs) 0 := by
      rw [Nat.ofDigitChars_append, Nat.ofDigitChars_append, ofDigitChars_replicate]
      simp [Nat.ofDigitChars_cons, Nat.ofDigitChars_nil]
    simp only [Numeral.digits, Numeral.exponent, hvalue]
    congr 2
    simp
    ring

theorem layOut_positional {before : Nat} (hlow : 0 < before) (hhigh : before ≤ 16) :
    layOut digits before = digits.take before ++ List.replicate (before - digits.length) '0' ++
      '.' :: (if (digits.drop before).isEmpty then ['0'] else digits.drop before) := by
  unfold layOut
  rw [if_pos (by simp; omega), if_neg (by omega)]
  rfl

/-- The point stands behind all digits, and zeros fill what is left before it. -/
theorem layOut_whole {filled : Nat} (hhigh : digits.length + filled ≤ 16) (hleads : Leads digits)
    (hdigits : ∀ c ∈ digits, c.isDigit = true) :
    ∃ n : Numeral, n.LaysOut digits (digits.length + filled : Nat) := by
  have hpos : 0 < digits.length := by
    obtain ⟨c, cs, rfl, -⟩ := hleads
    exact Nat.succ_pos _
  refine ⟨⟨digits ++ List.replicate filled '0', ['0'], none⟩, ?_, ⟨?_, .inr ?_, .inl (by simp)⟩, ?_⟩
  · rw [layOut_positional (by omega) hhigh, List.take_of_length_le (by omega),
      List.drop_of_length_le (by omega), Nat.add_sub_cancel_left]
    simp [Numeral.chars]
  · rw [List.forall_mem_append, List.forall_mem_append]
    refine ⟨⟨hdigits, fun d hd => ?_⟩, by simp⟩
    rw [List.eq_of_mem_replicate hd]
    rfl
  · obtain ⟨c, cs, rfl, hc⟩ := hleads
    exact ⟨c, _, rfl, hc⟩
  · have hvalue : Nat.ofDigitChars 10 (digits ++ List.replicate filled '0' ++ ['0']) 0
        = Nat.ofDigitChars 10 digits 0 * 10 ^ (filled + 1) := by
      rw [List.append_assoc, ← List.replicate_succ', ofDigitChars_append_zeros]
    simp only [Numeral.digits, Numeral.exponent, hvalue]
    push_cast
    rw [mul_assoc, ← zpow_natCast, ← zpow_add₀ (by norm_num)]
    congr 2
    simp

/-- The point stands among the digits. -/
theorem layOut_mixed {before : Nat} (hlow : 0 < before) (hhigh : before ≤ 16)
    (hless : before < digits.length) (hleads : Leads digits)
    (hdigits : ∀ c ∈ digits, c.isDigit = true) : ∃ n : Numeral, n.LaysOut digits before := by
  have hdrop : digits.drop before ≠ [] := by
    simpa using hless
  refine ⟨⟨digits.take before, digits.drop before, none⟩, ?_, ⟨?_, .inr ?_, .inl hdrop⟩, ?_⟩
  · rw [layOut_positional hlow hhigh, Nat.sub_eq_zero_of_le hless.le]
    simp [Numeral.chars, hdrop]
  · rwa [List.take_append_drop]
  · obtain ⟨c, cs, rfl, hc⟩ := hleads
    obtain ⟨before, rfl⟩ : ∃ n, before = n + 1 := ⟨before - 1, by omega⟩
    exact ⟨c, cs.take before, rfl, hc⟩
  · simp only [Numeral.digits, Numeral.exponent, List.take_append_drop]
    congr 2
    simp
    omega

theorem layOut_scientific (hpoint : ¬ (-4 < point ∧ point ≤ 16)) (hleads : Leads digits)
    (hdigits : ∀ c ∈ digits, c.isDigit = true) : ∃ n : Numeral, n.LaysOut digits point := by
  obtain ⟨c, cs, rfl, hc⟩ := hleads
  refine ⟨⟨[c], cs, some (point - 1)⟩, ?_, ⟨?_, .inr ⟨c, [], rfl, hc⟩, .inr (by simp)⟩, ?_⟩
  · unfold layOut Numeral.chars
    rw [if_neg (by simpa using hpoint)]
    cases cs with
    | nil => rfl
    | cons d ds => simp [Numeral.powerChars]
  · simpa using hdigits
  · simp only [Numeral.digits, Numeral.exponent, List.singleton_append]
    congr 2
    simp
    ring

theorem exists_layOut (point : Int) (hleads : Leads digits)
    (hdigits : ∀ c ∈ digits, c.isDigit = true) : ∃ n : Numeral, n.LaysOut digits point := by
  by_cases hpositional : -4 < point ∧ point ≤ 16
  · by_cases hsmall : point ≤ 0
    · exact layOut_small hpositional.1 hsmall hleads hdigits
    obtain ⟨before, rfl⟩ := Int.eq_ofNat_of_zero_le (show 0 ≤ point by omega)
    by_cases hless : before < digits.length
    · exact layOut_mixed (by omega) (by omega) hless hleads hdigits
    · obtain ⟨filled, rfl⟩ := Nat.exists_eq_add_of_le (Nat.not_lt.mp hless)
      exact layOut_whole (by omega) hleads hdigits
  · exact layOut_scientific hpositional hleads hdigits

end Layout

/-- The text of a finite number is a numeral that is read as the number. -/
theorem exists_numeral {x : Binary64} (hfinite : x.isFinite = true) :
    ∃ n : Numeral, x.magnitudeChars = n.chars ∧ n.Valid ∧
      ofDecimal x.isNegative n.digits n.exponent = x := by
  unfold magnitudeChars
  by_cases hzero : x.significand = 0
  · rw [if_pos hzero]
    exact ⟨⟨['0'], ['0'], none⟩, rfl, ⟨by simp, .inl rfl, .inl (by simp)⟩, ofDecimal_zero hzero⟩
  · rw [if_neg hzero]
    have hholds := shortest_holds hfinite hzero
    have hpos : 0 < (shortest x.roundingRange).1 := by
      apply Nat.pos_of_ne_zero
      intro hnone
      have hlow := (magnitude_of_holds hfinite hzero hholds).1
      rw [hnone, Nat.cast_zero, zero_mul] at hlow
      exact absurd hlow (not_lt.mpr (ten_zpow_pos _).le)
    obtain ⟨hleads, hdigits, hvalue⟩ := trimZeros_spec hpos (shortest x.roundingRange).2
    obtain ⟨n, hn⟩ := exists_layOut (trimZeros (shortest x.roundingRange).1
      (shortest x.roundingRange).2).2 hleads hdigits
    refine ⟨n, hn.chars, hn.valid, ofDecimal_of_holds hfinite hzero ?_⟩
    rw [hn.value, hvalue]
    exact hholds

end Binary64

/-! ## Reading numerals -/

namespace Json

open Binary64

abbrev ofChars (cs : List Char) : Text := cs.map CodePoint.ofChar

theorem isAsciiDigit_of_mem_ofChars {cs : List Char} (h : ∀ c ∈ cs, c.isDigit = true) :
    ∀ c ∈ ofChars cs, c.isAsciiDigit = true := by
  intro c hc
  obtain ⟨d, hd, rfl⟩ := List.mem_map.mp hc
  exact CodePoint.isAsciiDigit_ofChar (h d hd)

theorem takeWhole?_ofChars {whole : List Char} (hdigits : ∀ c ∈ whole, c.isDigit = true)
    (hwhole : whole = ['0'] ∨ Leads whole) {rest : Text} (hrest : Stops rest) :
    takeWhole? (ofChars whole ++ rest) = some (ofChars whole, rest) := by
  obtain rfl | ⟨c, cs, rfl, hc⟩ := hwhole
  · rfl
  · have htake := takeDigits_append (isAsciiDigit_of_mem_ofChars hdigits) hrest
    have hdigit : (CodePoint.ofChar c).isAsciiDigit = true :=
      CodePoint.isAsciiDigit_ofChar (hdigits c List.mem_cons_self)
    have hzero : (CodePoint.ofChar c).val ≠ 0x30 := fun hval => hc (Char.toNat_inj.mp hval)
    change takeWhole? (CodePoint.ofChar c :: (ofChars cs ++ rest)) = _
    rw [takeWhole?, if_neg hzero, if_pos hdigit]
    exact congrArg some htake

theorem takeFraction_ofChars {fraction : List Char} (hdigits : ∀ c ∈ fraction, c.isDigit = true)
    (hne : fraction ≠ []) {rest : Text} (hrest : Stops rest) :
    takeFraction (('.' : CodePoint) :: (ofChars fraction ++ rest)) = (ofChars fraction, rest) := by
  have htake := takeDigits_append (isAsciiDigit_of_mem_ofChars hdigits) hrest
  have hpoint : ('.' : CodePoint).val = 0x2E := rfl
  rw [takeFraction, htake, if_pos]
  simpa [hpoint] using hne

/-- The size of a power of ten has at least two digits. -/
theorem padded_spec (n : Nat) :
    ∃ digits : List Char, (if (Nat.toDigits 10 n).length < 2 then '0' :: Nat.toDigits 10 n
        else Nat.toDigits 10 n) = digits ∧ digits ≠ [] ∧ (∀ c ∈ digits, c.isDigit = true) ∧
      Nat.ofDigitChars 10 digits 0 = n := by
  have hvalue := @Nat.ofDigitChars_toDigits 10 n (by decide) (by decide)
  have hdigits : ∀ c ∈ Nat.toDigits 10 n, c.isDigit = true := fun c hc =>
    Nat.isDigit_of_mem_toDigits (by decide) (by decide) hc
  split
  · refine ⟨_, rfl, by simp, List.forall_mem_cons.mpr ⟨rfl, hdigits⟩, ?_⟩
    rw [Nat.ofDigitChars_cons]
    exact hvalue
  · refine ⟨_, rfl, ?_, hdigits, hvalue⟩
    exact List.ne_nil_of_length_pos Nat.length_toDigits_pos

theorem takeExponent?_powerChars (power : Int) {rest : Text} (hrest : Stops rest) :
    takeExponent? (ofChars (Numeral.powerChars power) ++ rest) = some (power, rest) := by
  obtain ⟨digits, hpadded, hne, hdigits, hvalue⟩ := padded_spec power.natAbs
  have htake := takeDigits_append (isAsciiDigit_of_mem_ofChars hdigits) hrest
  have hread : digitsToNat (ofChars digits) = power.natAbs := by
    rw [digitsToNat_map, hvalue]
  have hsome : (ofChars digits).isEmpty = false := by simpa using hne
  unfold Numeral.powerChars
  simp only [hpadded]
  by_cases hnegative : power < 0
  · rw [if_pos hnegative]
    change takeExponent? (('e' : CodePoint) :: ('-' : CodePoint) :: (ofChars digits ++ rest)) = _
    have hsign : Integer.takeSign (('-' : CodePoint) :: (ofChars digits ++ rest))
        = (true, ofChars digits ++ rest) := rfl
    rw [takeExponent?, if_pos (by decide), hsign]
    simp only [htake, hsome, hread, Bool.false_eq_true, if_false, if_true, Option.some.injEq,
      Prod.mk.injEq, and_true]
    omega
  · rw [if_neg hnegative]
    change takeExponent? (('e' : CodePoint) :: ('+' : CodePoint) :: (ofChars digits ++ rest)) = _
    have hsign : Integer.takeSign (('+' : CodePoint) :: (ofChars digits ++ rest))
        = (false, ofChars digits ++ rest) := rfl
    rw [takeExponent?, if_pos (by decide), hsign]
    simp only [htake, hsome, hread, Bool.false_eq_true, if_false, Option.some.injEq,
      Prod.mk.injEq, and_true]
    omega

theorem takeFraction_of_ne {c : CodePoint} (h : c.val ≠ 0x2E) (t : Text) :
    takeFraction (c :: t) = ([], c :: t) := by
  rw [takeFraction, if_neg (by simp [h])]

theorem stops_powerChars (power : Int) (rest : Text) :
    Stops (ofChars (Numeral.powerChars power) ++ rest) := by
  intro c hc
  cases hc
  rfl

section Parts

variable {limits : Limits} {n : Numeral} {rest : Text}

/-- Behind the digits stands a power of ten or the end of the number. -/
theorem takeExponent?_ofChars (power : Option Int) (hrest : ends rest = true) :
    Stops (ofChars (power.elim [] Numeral.powerChars) ++ rest) ∧
      takeExponent? (ofChars (power.elim [] Numeral.powerChars) ++ rest)
        = power.map fun power => (power, rest) := by
  cases power with
  | none => exact ⟨stops_of_ends hrest, takeExponent?_of_ends hrest⟩
  | some power =>
    exact ⟨stops_powerChars power rest, takeExponent?_powerChars power (stops_of_ends hrest)⟩

theorem takeParts_chars (hn : n.Valid) (hrest : ends rest = true) :
    ∃ behind, takeWhole? (ofChars n.chars ++ rest) = some (ofChars n.whole, behind) ∧
      takeFraction behind
        = (ofChars n.fraction, ofChars (n.power.elim [] Numeral.powerChars) ++ rest) := by
  obtain ⟨whole, fraction, power⟩ := n
  obtain ⟨hdigits, hwhole, hdecimal⟩ := hn
  simp only at hdigits hwhole hdecimal
  obtain ⟨hdigits₁, hdigits₂⟩ := List.forall_mem_append.mp hdigits
  obtain ⟨hstops, -⟩ := takeExponent?_ofChars power hrest
  have hchars : ofChars (Numeral.chars ⟨whole, fraction, power⟩) ++ rest
      = ofChars whole ++ (ofChars (if fraction = [] then [] else '.' :: fraction) ++
          (ofChars (power.elim [] Numeral.powerChars) ++ rest)) := by
    simp only [Numeral.chars, ofChars, List.map_append, List.append_assoc]
  rw [hchars]
  by_cases hnone : fraction = []
  -- without a fraction there is a power of ten, and its letter ends the digits
  · subst hnone
    obtain ⟨power, rfl⟩ := Option.ne_none_iff_exists'.mp (hdecimal.resolve_left (by simp))
    exact ⟨_, takeWhole?_ofChars hdigits₁ hwhole hstops, takeFraction_of_ne (by decide) _⟩
  · have hpoint (t : Text) : Stops (('.' : CodePoint) :: t) := by
      intro c hc
      cases hc
      rfl
    rw [if_neg hnone]
    exact ⟨_, takeWhole?_ofChars hdigits₁ hwhole (hpoint _),
      takeFraction_ofChars hdigits₂ hnone hstops⟩

/-- A numeral is read as the digits it has and the power of ten that multiplies them. -/
theorem takeNumber_chars (hn : n.Valid) (hrest : ends rest = true) (negative : Bool)
    (start : Text) :
    takeNumber limits negative start (ofChars n.chars ++ rest)
      = .ok (.float (.ofDecimal negative n.digits n.exponent), rest) := by
  obtain ⟨behind, hwhole, hfraction⟩ := takeParts_chars hn hrest
  obtain ⟨-, hexponent⟩ := takeExponent?_ofChars n.power hrest
  have hvalue : digitsToNat (ofChars n.whole ++ ofChars n.fraction) = n.digits := by
    rw [← List.map_append, digitsToNat_map]
    rfl
  unfold takeNumber
  simp only [hwhole, hfraction, hexponent, hvalue]
  cases hpower : n.power with
  | none =>
    have hsome : (ofChars n.fraction).isEmpty = false := by
      simpa using hn.decimal.resolve_right (by simp [hpower])
    simp [hsome, Numeral.exponent, hpower]
  | some power => simp [Numeral.exponent, hpower]

end Parts

theorem floatText_of_finite {x : Binary64} (h : x.isFinite = true) :
    floatText x = ofChars ((if x.isNegative then ['-'] else []) ++ x.magnitudeChars) := by
  have hne : x.exponentBits ≠ 2047 := by simpa [Binary64.isFinite] using h
  have hnan : x.isNaN = false := by simp [Binary64.isNaN, hne]
  unfold floatText Binary64.toText
  rw [if_neg (by simp [hnan]), if_pos h, if_neg (by simp [hnan]), if_pos h]

/-- A finite number is read back as itself. -/
theorem readsBack_float {limits : Limits} {x : Binary64} (h : x.isFinite = true) :
    ReadsBack limits (.float x) := by
  obtain ⟨n, hchars, hn, hread⟩ := exists_numeral h
  obtain ⟨c, cs, hcons, hc⟩ := hn.chars_eq_cons
  have hdigit := CodePoint.isAsciiDigit_ofChar hc
  have hwrite : Json.write .compact (.float x)
      = ofChars ((if x.isNegative then ['-'] else []) ++ n.chars) := by
    rw [← hchars, ← floatText_of_finite h]
    rfl
  have hnumber {rest : Text} (hrest : ends rest = true) (start : Text) :
      takeNumber limits x.isNegative start (ofChars n.chars ++ rest) = .ok (.float x, rest) := by
    rw [takeNumber_chars hn hrest, hread]
  -- the sign is read before the number, and a number without one begins with its first digit
  cases hsign : x.isNegative with
  | false =>
    rw [hsign, if_neg Bool.false_ne_true, List.nil_append] at hwrite
    have hdash : (CodePoint.ofChar c).val ≠ 0x2D := by
      simp only [CodePoint.isAsciiDigit, Bool.and_eq_true, decide_eq_true_eq] at hdigit
      omega
    refine ⟨⟨CodePoint.ofChar c, ofChars cs, by rw [hwrite, hcons]; rfl,
      startsScalar_of_digit hdigit⟩, fun rest hrest => ?_⟩
    have hread := hnumber hrest (ofChars n.chars ++ rest)
    rw [hsign, hcons] at hread
    rw [hwrite, hcons]
    change takeScalar limits (CodePoint.ofChar c :: (ofChars cs ++ rest)) = _
    unfold takeScalar
    rw [(takeWord?_of_digit hdigit _).1]
    simp only [if_neg hdash]
    exact hread
  | true =>
    rw [hsign, if_pos rfl, List.singleton_append] at hwrite
    refine ⟨⟨('-' : CodePoint), ofChars n.chars, by rw [hwrite]; rfl, by decide⟩,
      fun rest hrest => ?_⟩
    have hread := hnumber hrest (('-' : CodePoint) :: (ofChars n.chars ++ rest))
    rw [hsign, hcons] at hread
    rw [hwrite, hcons]
    change takeScalar limits (('-' : CodePoint) :: CodePoint.ofChar c :: (ofChars cs ++ rest)) = _
    unfold takeScalar
    rw [(takeWord?_of_digit hdigit _).2]
    exact hread

end Json

end SignedBlog
