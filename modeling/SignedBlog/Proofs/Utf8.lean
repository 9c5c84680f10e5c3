import SignedBlog.Encoding

/-!
UTF-8, written and read back.

A text without surrogates is *clean*; just the clean texts have a UTF-8 form
(`Utf8.encode_eq_ok_iff`). The bytes of a text, surrogates included, read back as that text
(`Utf8.decodeSurrogates?_flatMap`), so that different texts have different bytes.
-/

namespace SignedBlog

set_option autoImplicit false

/-- No code point of a text is a surrogate. -/
def Text.Clean (t : Text) : Prop := ∀ c ∈ t, c.isSurrogate = false

instance (t : Text) : Decidable t.Clean := inferInstanceAs (Decidable (∀ c ∈ t, _))

namespace Text

@[simp] theorem clean_nil : Clean [] := by
  intro c hc
  cases hc

@[simp] theorem clean_cons {c : CodePoint} {t : Text} :
    Clean (c :: t) ↔ c.isSurrogate = false ∧ Clean t :=
  List.forall_mem_cons

@[simp] theorem clean_append {s t : Text} : Clean (s ++ t) ↔ Clean s ∧ Clean t :=
  List.forall_mem_append

theorem clean_of_isAscii {t : Text} (h : ∀ c ∈ t, c.isAscii = true) : Clean t := by
  intro c hc
  have hascii := h c hc
  simp only [CodePoint.isAscii, decide_eq_true_eq] at hascii
  simp only [CodePoint.isSurrogate, Bool.and_eq_false_iff, decide_eq_false_iff_not]
  omega

end Text

namespace Utf8

/-! ## Texts that have a UTF-8 form -/

theorem surrogateRunFrom?_eq_none_iff {place : Nat} {t : Text} :
    surrogateRunFrom? place t = none ↔ t.Clean := by
  induction t generalizing place with
  | nil => simp [surrogateRunFrom?]
  | cons c t ih =>
    rw [surrogateRunFrom?, Text.clean_cons]
    cases hc : c.isSurrogate with
    | true => simp
    | false => simpa using ih

theorem encode_eq_ok_iff {t : Text} {bs : List UInt8} :
    encode t = .ok bs ↔ t.Clean ∧ bs = t.flatMap encodeChar := by
  unfold encode surrogateRun?
  cases hrun : surrogateRunFrom? 0 t with
  | none =>
    have hclean : t.Clean := surrogateRunFrom?_eq_none_iff.mp hrun
    simp only [Except.ok.injEq]
    exact ⟨fun heq => ⟨hclean, heq.symm⟩, fun h => h.2.symm⟩
  | some run =>
    have hclean : ¬ t.Clean := by
      rw [← @surrogateRunFrom?_eq_none_iff 0, hrun]
      exact Option.some_ne_none run
    simp [hclean]

theorem encode_of_not_clean {t : Text} (h : ¬ t.Clean) : ∃ run, encode t = .error run := by
  cases hencode : encode t with
  | error run => exact ⟨run, rfl⟩
  | ok bs => exact absurd (encode_eq_ok_iff.mp hencode).1 h

/-! ## Reading one code point -/

theorem toNat_ofNat {n : Nat} (h : n < 256) : (UInt8.ofNat n).toNat = n :=
  UInt8.toNat_ofNat_of_lt h

theorem ofNat_eq {c : CodePoint} {n : Nat} (h : n = c.val) : CodePoint.ofNat n = c := by
  subst h
  simp [CodePoint.ofNat, CodePoint.ofNat?, c.val_lt]

theorem isContinuation_ofNat (n : Nat) :
    isContinuation (UInt8.ofNat (0x80 + n % 0x40)) = true := by
  unfold isContinuation
  rw [toNat_ofNat (by omega)]
  simp only [Bool.and_eq_true, decide_eq_true_eq]
  omega

/-- What the lead byte asks of the second one, besides that it is a continuation byte. -/
theorem admitsSecond_of_bounds {surrogates : Bool} {lead second : Nat} (hlow : 0x80 ≤ second)
    (hhigh : second ≤ 0xBF) (hE0 : lead = 0xE0 → 0xA0 ≤ second) (hF0 : lead = 0xF0 → 0x90 ≤ second)
    (hED : lead = 0xED → surrogates = true ∨ second ≤ 0x9F) (hF4 : lead = 0xF4 → second ≤ 0x8F) :
    admitsSecond surrogates lead second = true := by
  simp only [admitsSecond, Bool.and_eq_true, decide_eq_true_eq]
  constructor
  · split
    · next hlead => exact hE0 hlead
    · split
      · next hlead => exact hF0 hlead
      · exact hlow
  · split
    · next hlead =>
      simp only [Bool.not_eq_true'] at hlead
      exact (hED hlead.1).resolve_left (by simp [hlead.2])
    · split
      · next hlead => exact hF4 hlead
      · exact hhigh

section Front

variable {c : CodePoint} {surrogates : Bool}

theorem front_one (h : c.val < 0x80) (rest : List UInt8) :
    front surrogates (UInt8.ofNat c.val) rest = .char c 1 rest := by
  unfold front
  rw [toNat_ofNat (by omega), if_pos h, @ofNat_eq c _ rfl]

theorem front_two (h : 0x80 ≤ c.val) (hlt : c.val < 0x800) (rest : List UInt8) :
    front surrogates (UInt8.ofNat (0xC0 + c.val / 0x40))
      (UInt8.ofNat (0x80 + c.val % 0x40) :: rest) = .char c 2 rest := by
  have hlead : ¬ (0xC0 + c.val / 0x40 < 0xC2 || 0xF4 < 0xC0 + c.val / 0x40) = true := by
    simp only [Bool.or_eq_true, decide_eq_true_eq]
    omega
  have hsecond : admitsSecond surrogates (0xC0 + c.val / 0x40) (0x80 + c.val % 0x40) = true := by
    apply admitsSecond_of_bounds <;> omega
  unfold front
  simp only [toNat_ofNat (show 0xC0 + c.val / 0x40 < 256 by omega),
    toNat_ofNat (show 0x80 + c.val % 0x40 < 256 by omega), hsecond]
  rw [if_neg (by omega), if_neg hlead, if_neg (by simp), if_pos (by omega),
    @ofNat_eq c _ (by omega)]

theorem front_three (h : 0x800 ≤ c.val) (hlt : c.val < 0x10000)
    (hclean : surrogates = true ∨ c.isSurrogate = false) (rest : List UInt8) :
    front surrogates (UInt8.ofNat (0xE0 + c.val / 0x1000))
      (UInt8.ofNat (0x80 + c.val / 0x40 % 0x40) :: UInt8.ofNat (0x80 + c.val % 0x40) :: rest)
      = .char c 3 rest := by
  have hlead : ¬ (0xE0 + c.val / 0x1000 < 0xC2 || 0xF4 < 0xE0 + c.val / 0x1000) = true := by
    simp only [Bool.or_eq_true, decide_eq_true_eq]
    omega
  -- the second byte tells surrogates from the code points before and behind them
  have hsecond : admitsSecond surrogates (0xE0 + c.val / 0x1000) (0x80 + c.val / 0x40 % 0x40)
      = true := by
    refine admitsSecond_of_bounds (by omega) (by omega) (by omega) (by omega) ?_ (by omega)
    intro hlead
    simp only [CodePoint.isSurrogate, Bool.and_eq_false_iff, decide_eq_false_iff_not] at hclean
    exact hclean.imp_right fun hplain => by omega
  unfold front
  simp only [toNat_ofNat (show 0xE0 + c.val / 0x1000 < 256 by omega),
    toNat_ofNat (show 0x80 + c.val / 0x40 % 0x40 < 256 by omega),
    toNat_ofNat (show 0x80 + c.val % 0x40 < 256 by omega), hsecond, isContinuation_ofNat]
  rw [if_neg (by omega), if_neg hlead, if_neg (by simp), if_neg (by omega), if_neg (by simp),
    if_pos (by omega), @ofNat_eq c _ (by omega)]

theorem front_four (h : 0x10000 ≤ c.val) (rest : List UInt8) :
    front surrogates (UInt8.ofNat (0xF0 + c.val / 0x40000))
      (UInt8.ofNat (0x80 + c.val / 0x1000 % 0x40) :: UInt8.ofNat (0x80 + c.val / 0x40 % 0x40) ::
        UInt8.ofNat (0x80 + c.val % 0x40) :: rest) = .char c 4 rest := by
  have hlt := c.val_lt
  have hlead : ¬ (0xF0 + c.val / 0x40000 < 0xC2 || 0xF4 < 0xF0 + c.val / 0x40000) = true := by
    simp only [Bool.or_eq_true, decide_eq_true_eq]
    omega
  have hsecond : admitsSecond surrogates (0xF0 + c.val / 0x40000) (0x80 + c.val / 0x1000 % 0x40)
      = true := by
    apply admitsSecond_of_bounds <;> omega
  unfold front
  simp only [toNat_ofNat (show 0xF0 + c.val / 0x40000 < 256 by omega),
    toNat_ofNat (show 0x80 + c.val / 0x1000 % 0x40 < 256 by omega),
    toNat_ofNat (show 0x80 + c.val / 0x40 % 0x40 < 256 by omega),
    toNat_ofNat (show 0x80 + c.val % 0x40 < 256 by omega), hsecond, isContinuation_ofNat]
  rw [if_neg (by omega), if_neg hlead, if_neg (by simp), if_neg (by omega), if_neg (by simp),
    if_neg (by omega), if_neg (by simp), @ofNat_eq c _ (by omega)]

/-- The bytes of a code point read back as that code point, whatever follows. -/
theorem front_encodeChar (hclean : surrogates = true ∨ c.isSurrogate = false) :
    ∃ lead tail, encodeChar c = lead :: tail ∧
      ∀ rest, front surrogates lead (tail ++ rest) = .char c (tail.length + 1) rest := by
  unfold encodeChar
  by_cases hone : c.val < 0x80
  · rw [if_pos hone]
    exact ⟨_, _, rfl, front_one hone⟩
  rw [if_neg hone]
  by_cases htwo : c.val < 0x800
  · rw [if_pos htwo]
    exact ⟨_, _, rfl, front_two (by omega) htwo⟩
  rw [if_neg htwo]
  by_cases hthree : c.val < 0x10000
  · rw [if_pos hthree]
    exact ⟨_, _, rfl, front_three (by omega) hthree hclean⟩
  · rw [if_neg hthree]
    exact ⟨_, _, rfl, front_four (by omega)⟩

end Front

/-! ## Reading a text -/

theorem decodeFrom_flatMap {surrogates : Bool} {t : Text}
    (hclean : surrogates = true ∨ t.Clean) {fuel : Nat} (hfuel : t.length ≤ fuel) (place : Nat)
    (done : Text) :
    decodeFrom surrogates fuel place done (t.flatMap encodeChar) = .ok (done.reverse ++ t) := by
  induction t generalizing fuel place done with
  | nil => cases fuel <;> simp [decodeFrom]
  | cons c t ih =>
    obtain ⟨fuel, rfl⟩ : ∃ more, fuel = more + 1 := ⟨fuel - 1, by simp at hfuel; omega⟩
    have hc : surrogates = true ∨ c.isSurrogate = false := hclean.imp_right fun h => h c (by simp)
    have ht : surrogates = true ∨ Text.Clean t := hclean.imp_right fun h => (Text.clean_cons.mp h).2
    obtain ⟨lead, tail, hbytes, hfront⟩ := front_encodeChar hc
    rw [List.flatMap_cons, hbytes, List.cons_append, decodeFrom, hfront]
    simp only [ih ht (by simpa using hfuel), List.reverse_cons, List.append_assoc,
      List.cons_append, List.nil_append]

theorem length_le_flatMap (t : Text) : t.length ≤ (t.flatMap encodeChar).length := by
  induction t with
  | nil => simp
  | cons c t ih =>
    obtain ⟨lead, tail, hbytes, -⟩ := @front_encodeChar c true (.inl rfl)
    rw [List.flatMap_cons, hbytes, List.length_append, List.length_cons, List.length_cons]
    omega

theorem decodeSurrogates?_flatMap (t : Text) :
    decodeSurrogates? (t.flatMap encodeChar) = some t := by
  unfold decodeSurrogates?
  rw [decodeFrom_flatMap (.inl rfl) (length_le_flatMap t)]
  rfl

/-- Different texts have different bytes, also where they hold surrogates. -/
theorem flatMap_encodeChar_injective {s t : Text}
    (h : s.flatMap encodeChar = t.flatMap encodeChar) : s = t := by
  have hs := decodeSurrogates?_flatMap s
  rw [h, decodeSurrogates?_flatMap] at hs
  exact (Option.some.inj hs).symm

end Utf8

theorem Text.utf8_eq_ok_iff {t : Text} {bs : Bytes} :
    t.utf8 = .ok bs ↔ t.Clean ∧ bs = t.flatMap Utf8.encodeChar := by
  rw [← Utf8.encode_eq_ok_iff, utf8]
  cases Utf8.encode t with
  | error run => constructor <;> intro h <;> cases h
  | ok bytes => constructor <;> intro h <;> cases h <;> rfl

/-- The bytes of a text are read as that text. -/
theorem Text.decode_of_utf8 {t : Text} {bs : Bytes} (h : t.utf8 = .ok bs) :
    Utf8.decode bs = .ok t := by
  obtain ⟨hclean, rfl⟩ := Text.utf8_eq_ok_iff.mp h
  exact Utf8.decodeFrom_flatMap (.inr hclean) (Utf8.length_le_flatMap t) 0 []

theorem Text.utf8_of_not_clean {t : Text} (h : ¬ t.Clean) :
    ∃ run, t.utf8 = .error (.unencodable run) := by
  obtain ⟨run, hrun⟩ := Utf8.encode_of_not_clean h
  exact ⟨run, by rw [utf8, hrun]; rfl⟩

end SignedBlog
