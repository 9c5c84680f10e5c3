import SignedBlog.Json.Reader
import SignedBlog.Json.Writer
import SignedBlog.Proofs.Utf8

/-!
Strings of JSON, written and read back.

`Json.Escaped` lists the ways a code point is written; each of them is read as that code point. Only
where every code point beyond ASCII is escaped, two surrogates that form a pair come back as the
code point they stand for: `Json.takeQuoted_written` says so for every text.
-/

namespace SignedBlog.Json

set_option autoImplicit false

/-! ## Units -/

theorem hexDigit?_digitChar {n : Nat} (h : n < 16) :
    (CodePoint.ofChar (Nat.digitChar n)).hexDigit? = some n := by
  revert n
  decide

theorem takeUnit?_hexDigits {n : Nat} (h : n < 0x10000) (rest : Text) :
    takeUnit? (Text.hexDigits 4 n ++ rest) = some (n, rest) := by
  change takeUnit? (.ofChar (Nat.digitChar (n / 16 / 16 / 16 % 16)) ::
    .ofChar (Nat.digitChar (n / 16 / 16 % 16)) :: .ofChar (Nat.digitChar (n / 16 % 16)) ::
    .ofChar (Nat.digitChar (n % 16)) :: rest) = _
  unfold takeUnit?
  simp only [hexDigit?_digitChar (show n / 16 / 16 / 16 % 16 < 16 by omega),
    hexDigit?_digitChar (show n / 16 / 16 % 16 < 16 by omega),
    hexDigit?_digitChar (show n / 16 % 16 < 16 by omega),
    hexDigit?_digitChar (show n % 16 < 16 by omega), Option.some.injEq, Prod.mk.injEq, and_true]
  omega

@[simp] theorem length_hexDigits (width n : Nat) : (Text.hexDigits width n).length = width := by
  induction width generalizing n with
  | zero => rfl
  | succ width ih => simp [Text.hexDigits, ih]

theorem forall_mem_hexDigits {p : CodePoint → Prop} (h : ∀ n < 16, p (.ofChar (Nat.digitChar n)))
    (width n : Nat) : ∀ c ∈ Text.hexDigits width n, p c := by
  induction width generalizing n with
  | zero => exact List.forall_mem_nil _
  | succ width ih =>
    rw [Text.hexDigits, List.forall_mem_append, List.forall_mem_singleton]
    exact ⟨ih (n / 16), h _ (Nat.mod_lt n (by decide))⟩

/-! ## Escapes -/

/-- The ways a code point is written within a string. -/
inductive Escaped (asciiOnly : Bool) (c : CodePoint) : Text → Prop where
  | letter {e : CodePoint} : e.val ≠ 0x75 → simpleEscape? e = some c → Escaped asciiOnly c ['\\', e]
  | unit : c.val < 0x10000 → (c.isSurrogate = true → asciiOnly = true) →
      Escaped asciiOnly c (escapeUnit c.val)
  | plain : c.val ≠ 0x22 → c.val ≠ 0x5C → 0x20 ≤ c.val → (asciiOnly = true → c.val < 0x7F) →
      Escaped asciiOnly c [c]
  | pair {high low : Nat} : isHighUnit high = true → isLowUnit low = true → asciiOnly = true →
      pairUnits high low = c → Escaped asciiOnly c (escapeUnit high ++ escapeUnit low)

theorem escapeChar_escaped (asciiOnly : Bool) (c : CodePoint) :
    Escaped asciiOnly c (escapeChar asciiOnly c) := by
  have hlt := c.val_lt
  -- the letters come first, and each of them stands for one code point
  have hletter : ∀ {n : Nat} (e : Char), c.val = n → (e : CodePoint).val ≠ 0x75 →
      simpleEscape? e = some (.ofNat n) → Escaped asciiOnly c ['\\', e] := by
    intro n e hn hunit he
    rw [Utf8.ofNat_eq hn.symm] at he
    exact .letter hunit he
  unfold escapeChar
  by_cases hquote : c.val = 0x22
  · rw [if_pos hquote]
    exact hletter '"' hquote (by decide) rfl
  rw [if_neg hquote]
  by_cases hslash : c.val = 0x5C
  · rw [if_pos hslash]
    exact hletter '\\' hslash (by decide) rfl
  rw [if_neg hslash]
  by_cases hb : c.val = 0x08
  · rw [if_pos hb]
    exact hletter 'b' hb (by decide) rfl
  rw [if_neg hb]
  by_cases ht : c.val = 0x09
  · rw [if_pos ht]
    exact hletter 't' ht (by decide) rfl
  rw [if_neg ht]
  by_cases hline : c.val = 0x0A
  · rw [if_pos hline]
    exact hletter 'n' hline (by decide) rfl
  rw [if_neg hline]
  by_cases hf : c.val = 0x0C
  · rw [if_pos hf]
    exact hletter 'f' hf (by decide) rfl
  rw [if_neg hf]
  by_cases hr : c.val = 0x0D
  · rw [if_pos hr]
    exact hletter 'r' hr (by decide) rfl
  rw [if_neg hr]
  by_cases hcontrol : c.val < 0x20
  · rw [if_pos hcontrol]
    refine .unit (by omega) fun hc => ?_
    simp only [CodePoint.isSurrogate, Bool.and_eq_true, decide_eq_true_eq] at hc
    omega
  rw [if_neg hcontrol]
  by_cases hplain : (c.val < 0x7F || !asciiOnly) = true
  · rw [if_pos hplain]
    refine .plain hquote hslash (by omega) fun hascii => ?_
    simpa [hascii] using hplain
  have hascii : asciiOnly = true := by simp at hplain; exact hplain.2
  rw [if_neg hplain]
  by_cases hunit : c.val < 0x10000
  · rw [if_pos hunit]
    exact .unit hunit fun _ => hascii
  · rw [if_neg hunit]
    refine .pair ?_ ?_ hascii (Utf8.ofNat_eq ?_)
    · simp only [isHighUnit, Bool.and_eq_true, decide_eq_true_eq]
      omega
    · simp only [isLowUnit, Bool.and_eq_true, decide_eq_true_eq]
      omega
    · omega

/-! ## Reading one escape -/

/-- What follows cannot be the second half of a pair of surrogates. -/
def Separate (more : Text) : Prop :=
  ∀ rest, more = ('\\' : CodePoint) :: ('u' : CodePoint) :: rest →
    ∃ n after, takeUnit? rest = some (n, after) ∧ isLowUnit n = false

theorem takeEscapedUnit_alone {t more : Text} {n : Nat} (hunit : takeUnit? t = some (n, more))
    (hmore : isHighUnit n = true → Separate more) :
    takeEscapedUnit t = .ok (.ofNat n, more) := by
  unfold takeEscapedUnit
  rw [hunit]
  match more with
  | [] => rfl
  | [_] => rfl
  | a :: b :: rest =>
    simp only
    split
    · next hpair =>
      simp only [Bool.and_eq_true, decide_eq_true_eq] at hpair
      have ha : a = ('\\' : CodePoint) := CodePoint.ext_val hpair.1.1.2
      have hb : b = ('u' : CodePoint) := CodePoint.ext_val hpair.1.2
      obtain ⟨m, after, hsecond, hlow⟩ := hmore hpair.1.1.1 rest (by rw [ha, hb])
      rw [hsecond]
      simp [hlow]
    · rfl

theorem takeEscapedUnit_pair {high low : Nat} (hhigh : isHighUnit high = true)
    (hlow : isLowUnit low = true) {more : Text} (hmore : more ≠ []) :
    takeEscapedUnit (Text.hexDigits 4 high ++ (escapeUnit low ++ more))
      = .ok (pairUnits high low, more) := by
  have hhigh' : high < 0x10000 := by
    simp only [isHighUnit, Bool.and_eq_true, decide_eq_true_eq] at hhigh
    omega
  have hlow' : low < 0x10000 := by
    simp only [isLowUnit, Bool.and_eq_true, decide_eq_true_eq] at hlow
    omega
  have hlength : 4 < (Text.hexDigits 4 low ++ more).length := by
    have hpos := List.length_pos_iff.mpr hmore
    rw [List.length_append, length_hexDigits]
    omega
  unfold takeEscapedUnit
  rw [takeUnit?_hexDigits hhigh']
  simp only [escapeUnit, List.cons_append, hhigh, hlength, takeUnit?_hexDigits hlow', hlow]
  rfl

/-- One written code point is read back, unless it is a surrogate whose other half follows. -/
theorem takeString_escaped {asciiOnly : Bool} {c : CodePoint} {w : Text} (h : Escaped asciiOnly c w)
    {more : Text} (hmore : more ≠ [])
    (hseparate : asciiOnly = true → isHighUnit c.val = true → Separate more) (start : Text)
    (fuel : Nat) (done : Text) :
    takeString start (fuel + 1) done (w ++ more) = takeString start fuel (c :: done) more := by
  cases h with
  | @letter e hunit he =>
    change takeString start (fuel + 1) done (('\\' : CodePoint) :: e :: more) = _
    rw [takeString, if_neg (by decide), if_pos (by decide)]
    simp only [if_neg hunit, he]
  | unit hlt hsurrogate =>
    have hhigh : isHighUnit c.val = true → Separate more := by
      intro hhigh
      refine hseparate (hsurrogate ?_) hhigh
      simp only [isHighUnit, CodePoint.isSurrogate, Bool.and_eq_true, decide_eq_true_eq] at hhigh ⊢
      omega
    change takeString start (fuel + 1) done
      (('\\' : CodePoint) :: ('u' : CodePoint) :: (Text.hexDigits 4 c.val ++ more)) = _
    rw [takeString, if_neg (by decide), if_pos (by decide)]
    simp only [takeEscapedUnit_alone (takeUnit?_hexDigits hlt more) hhigh, @Utf8.ofNat_eq c _ rfl]
    rfl
  | plain hquote hslash hcontrol _ =>
    change (if c.val = 0x22 then _ else if c.val = 0x5C then _ else if c.val < 0x20 then _
      else takeString start fuel (c :: done) more) = _
    rw [if_neg hquote, if_neg hslash, if_neg (by omega)]
  | @pair high low hhigh hlow _ hc =>
    change takeString start (fuel + 1) done
      (('\\' : CodePoint) :: ('u' : CodePoint) :: (Text.hexDigits 4 high ++ escapeUnit low ++ more)) = _
    rw [takeString, if_neg (by decide), if_pos (by decide), List.append_assoc]
    simp only [takeEscapedUnit_pair hhigh hlow hmore, hc]
    rfl

/-! ## Reading a string -/

/-- A text in which surrogates that form a pair are the code point they stand for. -/
def joinPairs : Text → Text
  | [] => []
  | [c] => [c]
  | c :: d :: t =>
    if isHighUnit c.val && isLowUnit d.val then pairUnits c.val d.val :: joinPairs t
    else c :: joinPairs (d :: t)

/-- What a text is read back as. -/
def readBack (asciiOnly : Bool) (t : Text) : Text := if asciiOnly then joinPairs t else t

theorem joinPairs_of_clean {t : Text} (h : t.Clean) : joinPairs t = t := by
  fun_induction joinPairs t with
  | case1 => rfl
  | case2 => rfl
  | case3 c d t hpair ih =>
    have hc := (Text.clean_cons.mp h).1
    simp only [isHighUnit, Bool.and_eq_true, decide_eq_true_eq] at hpair
    simp only [CodePoint.isSurrogate, Bool.and_eq_false_iff, decide_eq_false_iff_not] at hc
    omega
  | case4 c d t hpair ih => rw [ih (Text.clean_cons.mp h).2]

theorem readBack_of_clean {t : Text} (h : t.Clean) (asciiOnly : Bool) :
    readBack asciiOnly t = t := by
  unfold readBack
  rw [joinPairs_of_clean h, ite_self]

theorem separate_of_head {c : CodePoint} (h : c.val ≠ 0x5C) (t : Text) : Separate (c :: t) := by
  intro rest hrest
  have hc : c = ('\\' : CodePoint) := (List.cons.inj hrest).1
  exact absurd (congrArg CodePoint.val hc) h

theorem Escaped.separate {asciiOnly : Bool} {c : CodePoint} {w : Text} (h : Escaped asciiOnly c w)
    (hc : isLowUnit c.val = false) (more : Text) : Separate (w ++ more) := by
  cases h with
  | @letter e hunit _ =>
    intro rest hrest
    have he : e = ('u' : CodePoint) := (List.cons.inj (List.cons.inj hrest).2).1
    exact absurd (congrArg CodePoint.val he) hunit
  | unit hlt _ =>
    intro rest hrest
    have htail : Text.hexDigits 4 c.val ++ more = rest := (List.cons.inj (List.cons.inj hrest).2).2
    rw [← htail]
    exact ⟨_, _, takeUnit?_hexDigits hlt more, hc⟩
  | plain _ hslash _ _ => exact separate_of_head hslash more
  | @pair high low hhigh _ _ _ =>
    intro rest hrest
    have htail : Text.hexDigits 4 high ++ escapeUnit low ++ more = rest :=
      (List.cons.inj (List.cons.inj hrest).2).2
    simp only [isHighUnit, Bool.and_eq_true, decide_eq_true_eq] at hhigh
    rw [← htail, List.append_assoc]
    refine ⟨_, _, takeUnit?_hexDigits (by omega) _, ?_⟩
    simp only [isLowUnit, Bool.and_eq_false_iff, decide_eq_false_iff_not]
    omega

theorem val_pairUnits {high low : Nat} (hhigh : isHighUnit high = true)
    (hlow : isLowUnit low = true) :
    (pairUnits high low).val = 0x10000 + (high - 0xD800) * 0x400 + (low - 0xDC00) := by
  simp only [isHighUnit, isLowUnit, Bool.and_eq_true, decide_eq_true_eq] at hhigh hlow
  have hlt : 0x10000 + (high - 0xD800) * 0x400 + (low - 0xDC00) < 0x110000 := by omega
  unfold pairUnits
  rw [@Utf8.ofNat_eq ⟨_, hlt⟩ _ rfl]

theorem escapeChar_surrogate {c : CodePoint} (h : c.isSurrogate = true) :
    escapeChar true c = escapeUnit c.val := by
  simp only [CodePoint.isSurrogate, Bool.and_eq_true, decide_eq_true_eq] at h
  have hplain : (c.val < 0x7F || !true) = false := by simp; omega
  unfold escapeChar
  rw [hplain]
  repeat rw [if_neg (by first | omega | decide)]
  rw [if_pos (by omega)]

theorem takeString_unescaped (t rest start : Text) {fuel : Nat} (hfuel : t.length < fuel)
    (done : Text) :
    takeString start fuel done (t.flatMap (escapeChar false) ++ ('"' : CodePoint) :: rest)
      = .ok (done.reverse ++ t, rest) := by
  induction t generalizing fuel done with
  | nil =>
    obtain ⟨fuel, rfl⟩ : ∃ more, fuel = more + 1 := ⟨fuel - 1, by simp at hfuel; omega⟩
    simp [takeString, CodePoint.ofChar]
  | cons c t ih =>
    obtain ⟨fuel, rfl⟩ : ∃ more, fuel = more + 1 := ⟨fuel - 1, by simp at hfuel; omega⟩
    rw [List.flatMap_cons, List.append_assoc,
      takeString_escaped (escapeChar_escaped false c) (by simp) (by simp),
      ih (by simpa using hfuel)]
    simp

/-- Written in ASCII, a text comes back with its pairs of surrogates joined. -/
theorem takeString_ascii (t rest start : Text) {fuel : Nat} (hfuel : t.length < fuel)
    (done : Text) :
    takeString start fuel done (t.flatMap (escapeChar true) ++ ('"' : CodePoint) :: rest)
      = .ok (done.reverse ++ joinPairs t, rest) := by
  fun_induction joinPairs t generalizing fuel done with
  | case1 =>
    obtain ⟨fuel, rfl⟩ : ∃ more, fuel = more + 1 := ⟨fuel - 1, by simp at hfuel; omega⟩
    simp [takeString, CodePoint.ofChar]
  | case2 c =>
    obtain ⟨fuel, rfl⟩ : ∃ more, fuel = more + 2 := ⟨fuel - 2, by simp at hfuel; omega⟩
    have hseparate := separate_of_head (c := ('"' : CodePoint)) (by decide) rest
    rw [List.flatMap_cons, List.append_assoc, List.flatMap_nil, List.nil_append,
      takeString_escaped (escapeChar_escaped true c) (by simp) fun _ _ => hseparate]
    simp [takeString, CodePoint.ofChar]
  | case3 c d t hpair ih =>
    obtain ⟨fuel, rfl⟩ : ∃ more, fuel = more + 1 := ⟨fuel - 1, by simp at hfuel; omega⟩
    rw [Bool.and_eq_true] at hpair
    have hc : c.isSurrogate = true := by
      have := hpair.1
      simp only [isHighUnit, CodePoint.isSurrogate, Bool.and_eq_true, decide_eq_true_eq] at this ⊢
      omega
    have hd : d.isSurrogate = true := by
      have := hpair.2
      simp only [isLowUnit, CodePoint.isSurrogate, Bool.and_eq_true, decide_eq_true_eq] at this ⊢
      omega
    have hescaped : Escaped true (pairUnits c.val d.val) (escapeUnit c.val ++ escapeUnit d.val) :=
      .pair hpair.1 hpair.2 rfl rfl
    have hastral : isHighUnit (pairUnits c.val d.val).val = false := by
      rw [val_pairUnits hpair.1 hpair.2]
      simp only [isHighUnit, Bool.and_eq_false_iff, decide_eq_false_iff_not]
      omega
    rw [List.flatMap_cons, List.flatMap_cons, escapeChar_surrogate hc, escapeChar_surrogate hd,
      ← List.append_assoc, List.append_assoc,
      takeString_escaped hescaped (by simp) (by simp [hastral]), ih (by simp at hfuel; omega)]
    simp
  | case4 c d t hpair ih =>
    obtain ⟨fuel, rfl⟩ : ∃ more, fuel = more + 1 := ⟨fuel - 1, by simp at hfuel; omega⟩
    have hseparate : true = true → isHighUnit c.val = true →
        Separate ((d :: t).flatMap (escapeChar true) ++ ('"' : CodePoint) :: rest) := by
      intro _ hhigh
      have hlow : isLowUnit d.val = false := by simpa [hhigh] using hpair
      rw [List.flatMap_cons, List.append_assoc]
      exact (escapeChar_escaped true d).separate hlow _
    rw [List.flatMap_cons, List.append_assoc,
      takeString_escaped (escapeChar_escaped true c) (by simp) hseparate,
      ih (by simpa using hfuel)]
    simp

theorem Escaped.ne_nil {asciiOnly : Bool} {c : CodePoint} {w : Text} (h : Escaped asciiOnly c w) :
    w ≠ [] := by
  cases h <;> exact List.cons_ne_nil _ _

theorem length_le_escaped (asciiOnly : Bool) (t : Text) :
    t.length ≤ (t.flatMap (escapeChar asciiOnly)).length := by
  induction t with
  | nil => simp
  | cons c t ih =>
    have hpos := List.length_pos_iff.mpr (escapeChar_escaped asciiOnly c).ne_nil
    rw [List.flatMap_cons, List.length_append, List.length_cons]
    omega

theorem quote_append (asciiOnly : Bool) (t rest : Text) :
    quote asciiOnly t ++ rest
      = ('"' : CodePoint) :: (t.flatMap (escapeChar asciiOnly) ++ ('"' : CodePoint) :: rest) := by
  simp [quote]

/-- A written string is read back, whatever follows it. -/
theorem takeQuoted_written (asciiOnly : Bool) (t rest : Text) :
    takeQuoted (t.flatMap (escapeChar asciiOnly) ++ ('"' : CodePoint) :: rest)
      = .ok (readBack asciiOnly t, rest) := by
  have hlength := length_le_escaped asciiOnly t
  have hfuel : t.length
      < (t.flatMap (escapeChar asciiOnly) ++ ('"' : CodePoint) :: rest).length + 1 := by
    rw [List.length_append]
    omega
  unfold takeQuoted
  cases asciiOnly with
  | false => exact takeString_unescaped t rest _ hfuel []
  | true => exact takeString_ascii t rest _ hfuel []

end SignedBlog.Json
