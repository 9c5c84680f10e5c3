import SignedBlog.Bytes.Base64
import SignedBlog.Proofs.Utf8

/-!
Base64, written and read back.

`Base64.decode?_encode` says that the bytes come back from their text, so that different bytes have
different texts. `Base64.exists_decode?_iff` says which texts are read as so many bytes.
-/

namespace SignedBlog.Base64

set_option autoImplicit false

/-! ## Six-bit numbers -/

theorem groups_lt (bs : Bytes) : ∀ n ∈ groups bs, n < 64 := by
  fun_induction groups bs with
  | case1 => simp
  | case2 a =>
    have ha := a.toNat_lt
    simp only [List.mem_cons, List.not_mem_nil, or_false, forall_eq_or_imp, forall_eq]
    omega
  | case3 a b =>
    have ha := a.toNat_lt
    have hb := b.toNat_lt
    simp only [List.mem_cons, List.not_mem_nil, or_false, forall_eq_or_imp, forall_eq]
    omega
  | case4 a b c rest ih =>
    have ha := a.toNat_lt
    have hb := b.toNat_lt
    have hc := c.toNat_lt
    simp only [List.forall_mem_cons]
    refine ⟨by omega, by omega, by omega, by omega, ih⟩

theorem ofNat_eq_of_toNat {b : UInt8} {n : Nat} (h : n % 256 = b.toNat) : UInt8.ofNat n = b := by
  apply UInt8.toNat_inj.mp
  rw [UInt8.toNat_ofNat']
  exact h

theorem ungroup_groups (bs : Bytes) : ungroup (groups bs) = bs := by
  fun_induction groups bs with
  | case1 => rfl
  | case2 a =>
    have ha := a.toNat_lt
    rw [ungroup, ofNat_eq_of_toNat (b := a) (by omega)]
  | case3 a b =>
    have ha := a.toNat_lt
    have hb := b.toNat_lt
    rw [ungroup, ofNat_eq_of_toNat (b := a) (by omega), ofNat_eq_of_toNat (b := b) (by omega)]
  | case4 a b c rest ih =>
    have ha := a.toNat_lt
    have hb := b.toNat_lt
    have hc := c.toNat_lt
    rw [ungroup, ih, ofNat_eq_of_toNat (b := a) (by omega), ofNat_eq_of_toNat (b := b) (by omega),
      ofNat_eq_of_toNat (b := c) (by omega)]

theorem length_groups (bs : Bytes) : (groups bs).length = (4 * bs.length + 2) / 3 := by
  fun_induction groups bs with
  | case1 => rfl
  | case2 a => simp
  | case3 a b => simp
  | case4 a b c rest ih =>
    simp only [List.length_cons, ih]
    omega

/-- The padding that is written fills up the last group. -/
theorem admitsPadding_groups (bs : Bytes) :
    admitsPadding (groups bs).length (padding bs.length) = true := by
  rw [length_groups]
  unfold admitsPadding padding
  obtain ⟨k, hk | hk | hk⟩ : ∃ k, bs.length = 3 * k ∨ bs.length = 3 * k + 1 ∨
      bs.length = 3 * k + 2 := ⟨bs.length / 3, by omega⟩
  · have hchars : (4 * bs.length + 2) / 3 % 4 = 0 := by omega
    have hpads : (3 - bs.length % 3) % 3 = 0 := by omega
    simp [hchars, hpads]
  · have hchars : (4 * bs.length + 2) / 3 % 4 = 2 := by omega
    have hpads : (3 - bs.length % 3) % 3 = 2 := by omega
    simp [hchars, hpads]
  · have hchars : (4 * bs.length + 2) / 3 % 4 = 3 := by omega
    have hpads : (3 - bs.length % 3) % 3 = 1 := by omega
    simp [hchars, hpads]

/-! ## Characters -/

theorem value?_digit {n : Nat} (h : n < 64) : value? (digit '+' '/' n) = some n := by
  revert n
  decide

theorem filterMap_value?_digits {ns : List Nat} (h : ∀ n ∈ ns, n < 64) :
    (ns.map (digit '+' '/')).filterMap value? = ns := by
  induction ns with
  | nil => rfl
  | cons n ns ih =>
    rw [List.forall_mem_cons] at h
    rw [List.map_cons, List.filterMap_cons_some (value?_digit h.1), ih h.2]

/-- The bytes come back from their text. -/
theorem decode?_encode (bs : Bytes) : decode? (encode bs) = some bs := by
  have hdigits : ∀ c ∈ (groups bs).map (digit '+' '/'), (value? c).isSome = true := by
    intro c hc
    obtain ⟨n, hn, rfl⟩ := List.mem_map.mp hc
    rw [value?_digit (groups_lt bs n hn)]
    rfl
  have hpad : (value? ('=' : CodePoint)).isSome = false := by decide
  have htake : (encode bs).takeWhile (fun c => (value? c).isSome)
      = (groups bs).map (digit '+' '/') := by
    unfold encode
    rw [List.takeWhile_append_of_pos hdigits, List.takeWhile_replicate, hpad]
    simp
  have hdrop : (encode bs).dropWhile (fun c => (value? c).isSome)
      = List.replicate (padding bs.length) ('=' : CodePoint) := by
    unfold encode
    rw [List.dropWhile_append_of_pos hdigits, List.dropWhile_replicate, hpad]
    simp
  unfold decode?
  simp only [htake, hdrop, List.length_map, List.length_replicate, admitsPadding_groups,
    filterMap_value?_digits (groups_lt bs), ungroup_groups, List.all_replicate]
  simp

theorem isAscii_digit {n : Nat} (h : n < 64) : (digit '+' '/' n).isAscii = true := by
  revert n
  decide

theorem isAscii_encode (bs : Bytes) : ∀ c ∈ encode bs, c.isAscii = true := by
  intro c hc
  rw [encode, List.mem_append, List.mem_map] at hc
  obtain ⟨n, hn, rfl⟩ | hpad := hc
  · exact isAscii_digit (groups_lt bs n hn)
  · rw [(List.mem_replicate.mp hpad).2]
    decide

theorem clean_encode (bs : Bytes) : (encode bs).Clean :=
  Text.clean_of_isAscii (isAscii_encode bs)

theorem encode_injective {as bs : Bytes} (h : encode as = encode bs) : as = bs := by
  have has := decode?_encode as
  rw [h, decode?_encode] at has
  exact (Option.some.inj has).symm

/-! ## Texts that are base64 -/

def alphabet : Text := "ABCDEFGHIJKLMNOPQRSTUVWXYZabcdefghijklmnopqrstuvwxyz0123456789+/"

theorem digit_of_value? {c : CodePoint} {n : Nat} (h : value? c = some n) :
    n < 64 ∧ digit '+' '/' n = c := by
  unfold value? at h
  simp only [Bool.and_eq_true, decide_eq_true_eq] at h
  unfold digit
  split at h
  · cases h
    rw [if_pos (by omega)]
    exact ⟨by omega, Utf8.ofNat_eq (by omega)⟩
  split at h
  · cases h
    rw [if_neg (by omega), if_pos (by omega)]
    exact ⟨by omega, Utf8.ofNat_eq (by omega)⟩
  split at h
  · cases h
    rw [if_neg (by omega), if_neg (by omega), if_pos (by omega)]
    exact ⟨by omega, Utf8.ofNat_eq (by omega)⟩
  split at h
  · next hplus =>
    cases h
    exact ⟨by omega, CodePoint.ext_val hplus.symm⟩
  split at h
  · next hslash =>
    cases h
    exact ⟨by omega, CodePoint.ext_val hslash.symm⟩
  · cases h

theorem digit_mem_alphabet {n : Nat} (h : n < 64) : digit '+' '/' n ∈ alphabet := by
  revert n
  decide

theorem mem_encode {bs : Bytes} {c : CodePoint} (h : c ∈ encode bs) :
    c ∈ alphabet ∨ c = ('=' : CodePoint) := by
  rw [encode, List.mem_append, List.mem_map] at h
  obtain ⟨n, hn, rfl⟩ | hpad := h
  · exact .inl (digit_mem_alphabet (groups_lt bs n hn))
  · exact .inr (List.mem_replicate.mp hpad).2

theorem mem_alphabet_iff {c : CodePoint} : c ∈ alphabet ↔ (value? c).isSome = true := by
  constructor
  · have hall : ∀ c ∈ alphabet, (value? c).isSome = true := by decide
    exact hall c
  · intro h
    obtain ⟨n, hn⟩ := Option.isSome_iff_exists.mp h
    obtain ⟨hlt, rfl⟩ := digit_of_value? hn
    exact digit_mem_alphabet hlt

theorem length_ungroup {ns : List Nat} (h : ns.length % 4 ≠ 1) :
    (ungroup ns).length = ns.length * 3 / 4 := by
  fun_induction ungroup ns with
  | case1 a b c d rest ih =>
    simp only [List.length_cons] at h ⊢
    rw [ih (by omega)]
    omega
  | case2 | case3 => simp
  | case4 ns hfour hthree htwo =>
    match ns with
    | [] => rfl
    | [a] => simp at h
    | [a, b] => exact absurd rfl (htwo a b)
    | [a, b, c] => exact absurd rfl (hthree a b c)
    | a :: b :: c :: d :: rest => exact absurd rfl (hfour a b c d rest)

theorem length_filterMap_value? {t : Text} (h : ∀ c ∈ t, (value? c).isSome = true) :
    (t.filterMap value?).length = t.length := by
  induction t with
  | nil => rfl
  | cons c t ih =>
    rw [List.forall_mem_cons] at h
    obtain ⟨n, hn⟩ := Option.isSome_iff_exists.mp h.1
    rw [List.filterMap_cons_some hn, List.length_cons, List.length_cons, ih h.2]

theorem decode?_append {digits : Text} (hdigits : ∀ c ∈ digits, c ∈ alphabet) (pads : Nat) :
    decode? (digits ++ List.replicate pads ('=' : CodePoint))
      = if admitsPadding digits.length pads then some (ungroup (digits.filterMap value?)) else none := by
  have hvalues : ∀ c ∈ digits, (value? c).isSome = true := fun c hc => mem_alphabet_iff.mp (hdigits c hc)
  have hpad : (value? ('=' : CodePoint)).isSome = false := by decide
  unfold decode?
  simp only [List.takeWhile_append_of_pos hvalues, List.dropWhile_append_of_pos hvalues,
    List.takeWhile_replicate, List.dropWhile_replicate, hpad]
  simp

/-- What is read is a text of digits and padding. -/
theorem of_decode? {t : Text} {bs : Bytes} (h : decode? t = some bs) :
    ∃ digits pads, t = digits ++ List.replicate pads ('=' : CodePoint) ∧
      (∀ c ∈ digits, c ∈ alphabet) ∧ admitsPadding digits.length pads = true ∧
      bs = ungroup (digits.filterMap value?) := by
  unfold decode? at h
  simp only [Option.ite_none_right_eq_some, Bool.and_eq_true, Option.some.injEq] at h
  obtain ⟨⟨hpads, hadmits⟩, rfl⟩ := h
  refine ⟨_, (t.dropWhile fun c => (value? c).isSome).length, ?_, ?_, hadmits, rfl⟩
  · have hsame : t.dropWhile (fun c => (value? c).isSome)
        = List.replicate (t.dropWhile fun c => (value? c).isSome).length ('=' : CodePoint) := by
      rw [List.eq_replicate_iff]
      exact ⟨rfl, fun c hc => by simpa using List.all_eq_true.mp hpads c hc⟩
    rw [← hsame, List.takeWhile_append_dropWhile]
  · intro c hc
    exact mem_alphabet_iff.mpr (List.all_eq_true.mp List.all_takeWhile c hc)

/-- Where the last group is not full, a text of so many bytes has its digits and its padding by number. -/
theorem exists_decode?_iff {t : Text} {n : Nat} (hn : n % 3 ≠ 0) :
    (∃ bs, decode? t = some bs ∧ bs.length = n) ↔
      ∃ digits, digits.length = (4 * n + 2) / 3 ∧ (∀ c ∈ digits, c ∈ alphabet) ∧
        t = digits ++ List.replicate (padding n) ('=' : CodePoint) := by
  constructor
  · rintro ⟨bs, hdecode, rfl⟩
    obtain ⟨digits, pads, rfl, hdigits, hadmits, rfl⟩ := of_decode? hdecode
    have hvalues := length_filterMap_value? fun c hc => mem_alphabet_iff.mp (hdigits c hc)
    have hlength := @length_ungroup (digits.filterMap value?)
    rw [hvalues] at hlength
    unfold admitsPadding at hadmits
    split at hadmits
    · next hfull =>
      rw [hlength (by omega)] at hn
      omega
    · cases hadmits
    · next hfull hone =>
      rw [beq_iff_eq] at hadmits
      have hfull' : digits.length % 4 ≠ 0 := hfull
      have hone' : digits.length % 4 ≠ 1 := hone
      refine ⟨digits, ?_, hdigits, ?_⟩
      · rw [hlength hone]
        omega
      · obtain ⟨k, ⟨hk, rfl⟩ | ⟨hk, rfl⟩⟩ :
            ∃ k, digits.length = 4 * k + 2 ∧ pads = 2 ∨ digits.length = 4 * k + 3 ∧ pads = 1 :=
          ⟨digits.length / 4, by omega⟩
        · have hmod : (ungroup (digits.filterMap value?)).length % 3 = 1 := by
            rw [hlength hone]
            omega
          rw [padding, hmod]
        · have hmod : (ungroup (digits.filterMap value?)).length % 3 = 2 := by
            rw [hlength hone]
            omega
          rw [padding, hmod]
  · rintro ⟨digits, hlength, hdigits, rfl⟩
    have hvalues := length_filterMap_value? fun c hc => mem_alphabet_iff.mp (hdigits c hc)
    have hadmits : admitsPadding digits.length (padding n) = true := by
      unfold admitsPadding padding
      obtain ⟨k, hk | hk⟩ : ∃ k, n = 3 * k + 1 ∨ n = 3 * k + 2 := ⟨n / 3, by omega⟩
      · have hchars : digits.length % 4 = 2 := by omega
        have hpads : (3 - n % 3) % 3 = 2 := by omega
        simp [hchars, hpads]
      · have hchars : digits.length % 4 = 3 := by omega
        have hpads : (3 - n % 3) % 3 = 1 := by omega
        simp [hchars, hpads]
    rw [decode?_append hdigits, if_pos hadmits]
    refine ⟨_, rfl, ?_⟩
    rw [length_ungroup (by rw [hvalues]; omega), hvalues]
    omega

end SignedBlog.Base64
