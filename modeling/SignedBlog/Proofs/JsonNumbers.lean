import SignedBlog.Json.Reader
import SignedBlog.Json.Writer

/-!
Integers of JSON, written and read back.

`Json.ReadsBack` says of a number that it is read as itself in front of whatever may follow a value.
Integers do as long as they are within the limit on digits: `Json.readsBack_int`.
-/

namespace SignedBlog

set_option autoImplicit false

/-! ## Decimal digits -/

theorem CodePoint.isAsciiDigit_ofChar {c : Char} (h : c.isDigit = true) :
    (ofChar c).isAsciiDigit = true := by
  simp only [Char.isDigit, Bool.and_eq_true, decide_eq_true_eq] at h
  have hlow : 0x30 ≤ c.toNat := h.1
  have hhigh : c.toNat ≤ 0x39 := h.2
  change (decide (0x30 ≤ c.toNat) && decide (c.toNat ≤ 0x39)) = true
  simp [hlow, hhigh]

namespace Text

theorem isAsciiDigit_of_mem_ofNat {n : Nat} {c : CodePoint} (h : c ∈ ofNat n) :
    c.isAsciiDigit = true := by
  obtain ⟨d, hd, rfl⟩ := List.mem_map.mp h
  exact CodePoint.isAsciiDigit_ofChar (Nat.isDigit_of_mem_toDigits (by decide) (by decide) hd)

theorem ofNat_of_lt {n : Nat} (h : n < 10) : ofNat n = [(Nat.digitChar n : CodePoint)] := by
  unfold ofNat
  rw [Nat.toDigits_of_lt_base h]
  rfl

theorem ofNat_of_le {n : Nat} (h : 10 ≤ n) :
    ofNat n = ofNat (n / 10) ++ [(Nat.digitChar (n % 10) : CodePoint)] := by
  unfold ofNat
  rw [Nat.toDigits_of_base_le (by decide) h, List.map_append]
  rfl

/-- There is a first digit, and it is no zero unless the number is zero. -/
theorem ofNat_eq_cons (n : Nat) :
    ∃ c t, ofNat n = c :: t ∧ c.isAsciiDigit = true ∧ (c.val = 0x30 → n = 0) := by
  induction n using Nat.strongRecOn with
  | _ n ih =>
    by_cases hlt : n < 10
    · have hdigits := ofNat_of_lt hlt
      refine ⟨_, [], hdigits, isAsciiDigit_of_mem_ofNat (n := n) ?_, fun hzero => ?_⟩
      · rw [hdigits]
        exact List.mem_cons_self
      · have hchar : Nat.digitChar n = '0' := Char.toNat_inj.mp hzero
        exact Nat.digitChar_eq_zero.mp hchar
    · obtain ⟨c, t, hdigits, hc, hzero⟩ := ih (n / 10) (by omega)
      refine ⟨c, t ++ [(Nat.digitChar (n % 10) : CodePoint)], ?_, hc, fun h => ?_⟩
      · rw [ofNat_of_le (by omega), hdigits, List.cons_append]
      · have := hzero h
        omega

end Text

namespace Json

theorem digitsToNat_map (digits : List Char) :
    digitsToNat (digits.map CodePoint.ofChar) = Nat.ofDigitChars 10 digits 0 := by
  rw [Nat.ofDigitChars_eq_foldl]
  unfold digitsToNat Integer.ofDigits
  rw [List.map_map, List.foldl_map]
  congr 1
  funext m c
  rw [Nat.mul_comm]
  rfl

theorem digitsToNat_ofNat (n : Nat) : digitsToNat (Text.ofNat n) = n := by
  rw [Text.ofNat, digitsToNat_map, Nat.ofDigitChars_toDigits (by decide) (by decide)]

/-! ## What may follow a value -/

/-- A text that may stand behind a value: it is empty or begins with a blank, a comma or a closing
bracket. -/
def ends : Text → Bool
  | [] => true
  | c :: _ => isSpace c || c.val == 0x2C || c.val == 0x5D || c.val == 0x7D

theorem isAsciiDigit_of_ends {c : CodePoint} {t : Text} (h : ends (c :: t) = true) :
    c.isAsciiDigit = false ∧ c.val ≠ 0x2E ∧ c.val ≠ 0x65 ∧ c.val ≠ 0x45 := by
  simp only [ends, isSpace, Bool.or_eq_true, decide_eq_true_eq, beq_iff_eq] at h
  refine ⟨?_, by omega, by omega, by omega⟩
  simp only [CodePoint.isAsciiDigit, Bool.and_eq_false_iff, decide_eq_false_iff_not]
  omega

/-- No digit stands at the front of a text. -/
def Stops (t : Text) : Prop := ∀ c ∈ t.head?, c.isAsciiDigit = false

theorem stops_of_ends {rest : Text} (h : ends rest = true) : Stops rest := by
  cases rest with
  | nil => simp [Stops]
  | cons c t => simp [Stops, isAsciiDigit_of_ends h]

theorem takeDigits_append {digits rest : Text} (hdigits : ∀ c ∈ digits, c.isAsciiDigit = true)
    (hrest : Stops rest) : takeDigits (digits ++ rest) = (digits, rest) := by
  have htake : rest.takeWhile CodePoint.isAsciiDigit = [] := by
    cases rest with
    | nil => rfl
    | cons c t => exact List.takeWhile_cons_of_neg (by simp [hrest c rfl])
  have hdrop : rest.dropWhile CodePoint.isAsciiDigit = rest := by
    cases rest with
    | nil => rfl
    | cons c t => exact List.dropWhile_cons_of_neg (by simp [hrest c rfl])
  unfold takeDigits
  rw [List.takeWhile_append_of_pos hdigits, List.dropWhile_append_of_pos hdigits, htake, hdrop,
    List.append_nil]

theorem takeFraction_of_ends {rest : Text} (h : ends rest = true) : takeFraction rest = ([], rest) := by
  cases rest with
  | nil => rfl
  | cons c t =>
    rw [takeFraction, if_neg (by simp [isAsciiDigit_of_ends h])]

theorem takeExponent?_of_ends {rest : Text} (h : ends rest = true) : takeExponent? rest = none := by
  cases rest with
  | nil => rfl
  | cons c t =>
    rw [takeExponent?, if_neg (by simp [isAsciiDigit_of_ends h])]

/-! ## Integers -/

theorem takeWhole?_ofNat (n : Nat) {rest : Text} (h : ends rest = true) :
    takeWhole? (Text.ofNat n ++ rest) = some (Text.ofNat n, rest) := by
  by_cases hzero : n = 0
  · subst hzero
    rfl
  obtain ⟨c, t, hdigits, hc, hfirst⟩ := Text.ofNat_eq_cons n
  have htake := takeDigits_append (fun c hc => Text.isAsciiDigit_of_mem_ofNat (n := n) hc)
    (stops_of_ends h)
  rw [hdigits, List.cons_append] at htake ⊢
  rw [takeWhole?, if_neg (fun h => hzero (hfirst h)), if_pos hc, htake]

theorem takeNumber_ofNat {limits : Limits} {n : Nat} (hlimit : (Text.ofNat n).length ≤ limits.digits)
    {rest : Text} (h : ends rest = true) (negative : Bool) (start : Text) :
    takeNumber limits negative start (Text.ofNat n ++ rest)
      = .ok (.int (if negative then -(n : Int) else n), rest) := by
  unfold takeNumber
  rw [takeWhole?_ofNat n h]
  simp only [takeFraction_of_ends h, takeExponent?_of_ends h, digitsToNat_ofNat, List.isEmpty_nil,
    if_neg (Nat.not_lt.mpr hlimit)]
  rfl

theorem takeWord?_eq_none {t : Text} (h : ∀ word ∈ words, Text.dropStart? word.1 t = none) :
    takeWord? t = none := by
  refine List.findSome?_eq_none_iff.mpr fun word hword => ?_
  change (Text.dropStart? word.1 t).map _ = none
  rw [h word hword, Option.map_none]

/-- Words begin with a letter, or with a dash and a letter. -/
theorem words_letters : ∀ word ∈ words, ∃ a b s, word.1 = a :: b :: s ∧
    a.isAsciiDigit = false ∧ (a ≠ ('-' : CodePoint) ∨ b.isAsciiDigit = false) := by
  simp only [words, List.forall_mem_cons]
  refine ⟨⟨_, _, _, rfl, by decide, .inl (by decide)⟩, ⟨_, _, _, rfl, by decide, .inl (by decide)⟩,
    ⟨_, _, _, rfl, by decide, .inl (by decide)⟩, ⟨_, _, _, rfl, by decide, .inl (by decide)⟩,
    ⟨_, _, _, rfl, by decide, .inl (by decide)⟩, ⟨_, _, _, rfl, by decide, .inr (by decide)⟩, ?_⟩
  simp

theorem takeWord?_of_digit {c : CodePoint} (h : c.isAsciiDigit = true) (t : Text) :
    takeWord? (c :: t) = none ∧ takeWord? (('-' : CodePoint) :: c :: t) = none := by
  have hne : ∀ {d : CodePoint}, d.isAsciiDigit = false → d ≠ c := by
    intro d hd heq
    rw [heq, h] at hd
    cases hd
  constructor
  · refine takeWord?_eq_none fun word hword => ?_
    obtain ⟨a, b, s, hname, ha, -⟩ := words_letters word hword
    rw [hname, Text.dropStart?, if_neg (hne ha)]
  · refine takeWord?_eq_none fun word hword => ?_
    obtain ⟨a, b, s, hname, -, hdash | hb⟩ := words_letters word hword
    · rw [hname, Text.dropStart?, if_neg hdash]
    · rw [hname, Text.dropStart?, Text.dropStart?, if_neg (hne hb), ite_self]

/-- A code point with which no string, array or object begins, and nothing ends. -/
def startsScalar (c : CodePoint) : Bool :=
  !isSpace c && c.val != 0x22 && c.val != 0x5B && c.val != 0x7B && c.val != 0x5D && c.val != 0x7D

/-- A number is read as itself in front of whatever may follow it. -/
structure ReadsBack (limits : Limits) (number : Json) : Prop where
  starts : ∃ c t, number.write .compact = c :: t ∧ startsScalar c = true
  reads : ∀ rest, ends rest = true →
    takeScalar limits (number.write .compact ++ rest) = .ok (number, rest)

theorem startsScalar_of_digit {c : CodePoint} (h : c.isAsciiDigit = true) :
    startsScalar c = true := by
  simp only [CodePoint.isAsciiDigit, Bool.and_eq_true, decide_eq_true_eq] at h
  simp only [startsScalar, isSpace, Bool.and_eq_true, Bool.not_eq_true', Bool.or_eq_false_iff,
    decide_eq_false_iff_not, bne_iff_ne]
  omega

theorem readsBack_int {limits : Limits} {n : Int}
    (hlimit : (Text.ofNat n.natAbs).length ≤ limits.digits) : ReadsBack limits (.int n) := by
  obtain ⟨c, t, hdigits, hc, -⟩ := Text.ofNat_eq_cons n.natAbs
  have hword := takeWord?_of_digit hc
  cases n with
  | ofNat m =>
    change Text.ofNat m = c :: t at hdigits
    refine ⟨⟨c, t, hdigits, startsScalar_of_digit hc⟩, fun rest hrest => ?_⟩
    have hdash : c.val ≠ 0x2D := by
      simp only [CodePoint.isAsciiDigit, Bool.and_eq_true, decide_eq_true_eq] at hc
      omega
    change takeScalar limits (Text.ofNat m ++ rest) = _
    have hnumber := takeNumber_ofNat hlimit hrest false (Text.ofNat m ++ rest)
    change takeNumber limits false (Text.ofNat m ++ rest) (Text.ofNat m ++ rest) = _ at hnumber
    rw [hdigits, List.cons_append] at hnumber ⊢
    unfold takeScalar
    rw [(hword _).1]
    simp only [if_neg hdash, hnumber]
    rfl
  | negSucc m =>
    change Text.ofNat (m + 1) = c :: t at hdigits
    refine ⟨⟨_, _, rfl, by decide⟩, fun rest hrest => ?_⟩
    change takeScalar limits (('-' : CodePoint) :: (Text.ofNat (m + 1) ++ rest)) = _
    have hnumber := takeNumber_ofNat hlimit hrest true
      (('-' : CodePoint) :: (Text.ofNat (m + 1) ++ rest))
    change takeNumber limits true _ (Text.ofNat (m + 1) ++ rest) = _ at hnumber
    rw [hdigits, List.cons_append] at hnumber ⊢
    unfold takeScalar
    rw [(hword _).2]
    simp only [hnumber]
    rfl

end Json

end SignedBlog
