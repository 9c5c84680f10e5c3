import SignedBlog.Proofs.JsonValues

/-!
Surrogates in written JSON.

Where a layout does not escape everything beyond ASCII, a surrogate in a text is written as it is.
So the text of a value has a UTF-8 form exactly if every text in the value has one:
`Json.clean_writeAt`.
-/

namespace SignedBlog.Json

set_option autoImplicit false

/-! ## Surrogates in a written string -/

theorem clean_escapeUnit (n : Nat) : (escapeUnit n).Clean := by
  rw [escapeUnit, Text.clean_cons, Text.clean_cons]
  exact ⟨by decide, by decide, Text.clean_of_isAscii (forall_mem_hexDigits (by decide) 4 n)⟩

/-- Letters stand for ASCII and are ASCII. -/
theorem isSurrogate_of_simpleEscape {e c : CodePoint} (h : simpleEscape? e = some c) :
    e.isSurrogate = false ∧ c.isSurrogate = false := by
  have hlow : ∀ {d : CodePoint}, d.val < 0x80 → d.isSurrogate = false := by
    intro d hd
    simp only [CodePoint.isSurrogate, Bool.and_eq_false_iff, decide_eq_false_iff_not]
    omega
  unfold simpleEscape? at h
  split at h
  · next he =>
    simp only [Bool.or_eq_true, decide_eq_true_eq] at he
    cases h
    exact ⟨hlow (by omega), hlow (by omega)⟩
  iterate 5
    split at h
    · next he =>
      cases h
      exact ⟨hlow (by omega), by decide⟩
  cases h

/-- Where not everything beyond ASCII is escaped, a surrogate is written as it is. -/
theorem clean_escapeChar (c : CodePoint) :
    (escapeChar false c).Clean ↔ c.isSurrogate = false := by
  have hescaped := escapeChar_escaped false c
  generalize escapeChar false c = w at hescaped
  cases hescaped with
  | letter _ hletter =>
    obtain ⟨he, hc⟩ := isSurrogate_of_simpleEscape hletter
    have hslash : ('\\' : CodePoint).isSurrogate = false := by decide
    simp [he, hc, hslash]
  | unit _ hunit =>
    have hplain : c.isSurrogate = false := by
      rw [← Bool.not_eq_true]
      exact fun hc => Bool.noConfusion (hunit hc)
    exact iff_of_true (clean_escapeUnit c.val) hplain
  | plain => simp
  | pair _ _ hascii => cases hascii

theorem clean_quote (t : Text) : (quote false t).Clean ↔ t.Clean := by
  have hmark : ('"' : CodePoint).isSurrogate = false := by decide
  have hescaped : Text.Clean (t.flatMap (escapeChar false)) ↔ t.Clean := by
    induction t with
    | nil => simp
    | cons c t ih => rw [List.flatMap_cons, Text.clean_append, ih, clean_escapeChar, Text.clean_cons]
  simp [quote, hmark, hescaped]

/-! ## Surrogates in a written value -/

theorem clean_ofInt (n : Int) : (Text.ofInt n).Clean := by
  have hdigits : ∀ m, (Text.ofNat m).Clean := by
    intro m
    refine Text.clean_of_isAscii fun c hc => ?_
    have hdigit := Text.isAsciiDigit_of_mem_ofNat hc
    simp only [CodePoint.isAsciiDigit, CodePoint.isAscii, Bool.and_eq_true,
      decide_eq_true_eq] at hdigit ⊢
    omega
  cases n with
  | ofNat m => exact hdigits m
  | negSucc m => exact Text.clean_cons.mpr ⟨by decide, hdigits (m + 1)⟩

theorem clean_join {separator : Text} (h : separator.Clean) (items : List Text) :
    (Text.join separator items).Clean ↔ ∀ item ∈ items, Text.Clean item := by
  match items with
  | [] => simp [Text.join]
  | [item] => simp [Text.join]
  | item :: next :: items =>
    change Text.Clean (item ++ separator ++ Text.join separator (next :: items)) ↔ _
    rw [Text.clean_append, Text.clean_append, clean_join h (next :: items), List.forall_mem_cons]
    simp [h]

/-- A layout that writes surrogates as they are, and none beside. -/
structure Layout.Transparent (layout : Layout) : Prop where
  asciiOnly : layout.asciiOnly = false
  comma : layout.comma.Clean
  colon : layout.colon.Clean

theorem clean_lineBreak (layout : Layout) (level : Nat) : (layout.lineBreak level).Clean := by
  refine Text.clean_of_isAscii fun c hc => ?_
  have hspace := isSpace_lineBreak layout level c hc
  simp only [isSpace, CodePoint.isAscii, Bool.or_eq_true, decide_eq_true_eq] at hspace ⊢
  omega

theorem clean_enclose {layout : Layout} (h : layout.Transparent) (level : Nat)
    {opening closing : CodePoint} (hopening : opening.isSurrogate = false)
    (hclosing : closing.isSurrogate = false) (items : List Text) :
    (enclose layout level opening closing items).Clean ↔ ∀ item ∈ items, Text.Clean item := by
  cases items with
  | nil => simp [enclose, hopening, hclosing]
  | cons item items =>
    have hseparator : (layout.comma ++ layout.lineBreak (level + 1)).Clean :=
      Text.clean_append.mpr ⟨h.comma, clean_lineBreak layout (level + 1)⟩
    simp only [enclose, Text.clean_append, Text.clean_cons, clean_join hseparator,
      clean_lineBreak, hopening, hclosing, Text.clean_nil, true_and, and_true]

section Surrogates

variable {layout : Layout}

mutual

/-- The text of a value holds a surrogate exactly if a text in it does. -/
theorem clean_writeAt (h : layout.Transparent) (level : Nat) (value : Json)
    (hvalue : value.Integral) : (writeAt layout level value).Clean ↔ value.Clean := by
  have hwords : ("null" : Text).Clean ∧ ("true" : Text).Clean ∧ ("false" : Text).Clean := by decide
  match value with
  | .null => exact iff_of_true hwords.1 (List.forall_mem_nil _)
  | .bool true => exact iff_of_true hwords.2.1 (List.forall_mem_nil _)
  | .bool false => exact iff_of_true hwords.2.2 (List.forall_mem_nil _)
  | .int n => exact iff_of_true (clean_ofInt n) (List.forall_mem_nil _)
  | .float x =>
    obtain ⟨n, hn⟩ := hvalue _ List.mem_cons_self
    cases hn
  | .text t =>
    rw [writeAt, h.asciiOnly, clean_quote]
    exact List.forall_mem_singleton.symm
  | .array items =>
    rw [writeAt, clean_enclose h level (by decide) (by decide)]
    exact clean_writeItems h (level + 1) items hvalue
  | .object fields =>
    rw [writeAt, clean_enclose h level (by decide) (by decide)]
    exact clean_writeFields h (level + 1) fields hvalue

theorem clean_writeItems (h : layout.Transparent) (level : Nat) (items : List Json)
    (hitems : ∀ number ∈ numbersItems items, ∃ n, number = .int n) :
    (∀ t ∈ writeItems layout level items, Text.Clean t) ↔ ∀ t ∈ textsItems items, Text.Clean t := by
  match items with
  | [] => exact Iff.rfl
  | item :: items =>
    rw [numbersItems, List.forall_mem_append] at hitems
    rw [writeItems, textsItems, List.forall_mem_cons, List.forall_mem_append,
      clean_writeAt h level item hitems.1, clean_writeItems h level items hitems.2]
    rfl

theorem clean_writeFields (h : layout.Transparent) (level : Nat) (fields : List (Text × Json))
    (hfields : ∀ number ∈ numbersFields fields, ∃ n, number = .int n) :
    (∀ t ∈ writeFields layout level fields, Text.Clean t) ↔
      ∀ t ∈ textsFields fields, Text.Clean t := by
  match fields with
  | [] => exact Iff.rfl
  | (name, value) :: fields =>
    rw [numbersFields, List.forall_mem_append] at hfields
    rw [writeFields, textsFields, List.forall_mem_cons, List.forall_mem_cons,
      List.forall_mem_append, Text.clean_append, Text.clean_append, h.asciiOnly, clean_quote,
      clean_writeAt h level value hfields.1, clean_writeFields h level fields hfields.2]
    simp [h.colon, Clean, and_assoc]

end

end Surrogates

theorem transparent_compact : Layout.compact.Transparent := ⟨rfl, by decide, by decide⟩

end SignedBlog.Json
