import SignedBlog.Proofs.FloatText
import SignedBlog.Proofs.JsonStrings

/-!
JSON in printable ASCII.

Where every other code point is escaped, the text of a value is made of the printable characters of
ASCII, whatever texts and names the value holds: `Json.plainAscii_writeAt`. So it has no line breaks.
-/

namespace SignedBlog

set_option autoImplicit false

namespace Text

/-- Every code point is one of the printable ones of ASCII, blanks included. -/
def PlainAscii (t : Text) : Prop := ∀ c ∈ t, 0x20 ≤ c.val ∧ c.val ≤ 0x7E

instance (t : Text) : Decidable t.PlainAscii :=
  inferInstanceAs (Decidable (∀ c ∈ t, 0x20 ≤ c.val ∧ c.val ≤ 0x7E))

@[simp] theorem plainAscii_nil : PlainAscii [] := List.forall_mem_nil _

@[simp] theorem plainAscii_cons {c : CodePoint} {t : Text} :
    PlainAscii (c :: t) ↔ (0x20 ≤ c.val ∧ c.val ≤ 0x7E) ∧ PlainAscii t :=
  List.forall_mem_cons

@[simp] theorem plainAscii_append {s t : Text} :
    PlainAscii (s ++ t) ↔ PlainAscii s ∧ PlainAscii t :=
  List.forall_mem_append

/-- Every code point is a printable one of ASCII, and neither blank nor quote nor backslash. -/
def Solid (t : Text) : Prop := ∀ c ∈ t, 0x20 < c.val ∧ c.val ≤ 0x7E ∧ c.val ≠ 0x22 ∧ c.val ≠ 0x5C

instance (t : Text) : Decidable t.Solid :=
  inferInstanceAs (Decidable (∀ c ∈ t, 0x20 < c.val ∧ c.val ≤ 0x7E ∧ c.val ≠ 0x22 ∧ c.val ≠ 0x5C))

theorem Solid.plainAscii {t : Text} (h : t.Solid) : t.PlainAscii := fun c hc =>
  ⟨Nat.le_of_lt (h c hc).1, (h c hc).2.1⟩

theorem solid_nil : Solid [] := List.forall_mem_nil _

theorem solid_cons {c : CodePoint} {t : Text} : Solid (c :: t) ↔ Solid [c] ∧ Solid t := by
  unfold Solid
  rw [List.forall_mem_cons, List.forall_mem_singleton]

theorem solid_append {s t : Text} : Solid (s ++ t) ↔ Solid s ∧ Solid t :=
  List.forall_mem_append

theorem solid_of_digits {t : Text} (h : ∀ c ∈ t, c.isAsciiDigit = true) : Solid t := by
  intro c hc
  have hdigit := h c hc
  simp only [CodePoint.isAsciiDigit, Bool.and_eq_true, decide_eq_true_eq] at hdigit
  omega

theorem solid_ofNat (n : Nat) : Solid (ofNat n) :=
  solid_of_digits fun _ hc => isAsciiDigit_of_mem_ofNat hc

theorem solid_ofInt (n : Int) : Solid (ofInt n) := by
  cases n with
  | ofNat n => exact solid_ofNat n
  | negSucc n => exact solid_cons.mpr ⟨by decide, solid_ofNat (n + 1)⟩

theorem plainAscii_join {separator : Text} (h : separator.PlainAscii) {items : List Text}
    (hitems : ∀ item ∈ items, PlainAscii item) : PlainAscii (join separator items) := by
  induction items with
  | nil => exact plainAscii_nil
  | cons item items ih =>
    rw [List.forall_mem_cons] at hitems
    cases items with
    | nil => exact hitems.1
    | cons next items =>
      change PlainAscii (item ++ separator ++ join separator (next :: items))
      rw [plainAscii_append, plainAscii_append]
      exact ⟨⟨hitems.1, h⟩, ih hitems.2⟩

end Text

namespace Json

open Binary64 Text

/-! ## Strings -/

theorem solid_hexDigits (width n : Nat) : Solid (Text.hexDigits width n) :=
  forall_mem_hexDigits (by decide) width n

theorem plainAscii_escapeUnit (n : Nat) : PlainAscii (escapeUnit n) := by
  rw [escapeUnit, plainAscii_cons, plainAscii_cons]
  exact ⟨by decide, by decide, (solid_hexDigits 4 n).plainAscii⟩

theorem plainAscii_escapeChar (c : CodePoint) : PlainAscii (escapeChar true c) := by
  unfold escapeChar
  -- the quote, the backslash and the five control characters with escapes of their own
  iterate 7
    split
    · decide
  split
  · exact plainAscii_escapeUnit c.val
  split
  next hplain =>
    have hless : c.val < 0x7F := by simpa using hplain
    exact plainAscii_cons.mpr ⟨by omega, plainAscii_nil⟩
  split
  · exact plainAscii_escapeUnit c.val
  · exact plainAscii_append.mpr ⟨plainAscii_escapeUnit _, plainAscii_escapeUnit _⟩

theorem plainAscii_quote (t : Text) : PlainAscii (quote true t) := by
  have hescaped : PlainAscii (t.flatMap (escapeChar true)) := by
    induction t with
    | nil => exact plainAscii_nil
    | cons c t ih =>
      rw [List.flatMap_cons, plainAscii_append]
      exact ⟨plainAscii_escapeChar c, ih⟩
  rw [quote, plainAscii_append, plainAscii_cons]
  exact ⟨⟨by decide, hescaped⟩, by decide⟩

/-! ## Numbers -/

theorem solid_digits {digits : List Char} (h : ∀ c ∈ digits, c.isDigit = true) :
    Solid (ofChars digits) :=
  solid_of_digits (isAsciiDigit_of_mem_ofChars h)

theorem solid_powerChars (power : Int) : Solid (ofChars (Numeral.powerChars power)) := by
  obtain ⟨digits, hpadded, -, hdigits, -⟩ := padded_spec power.natAbs
  have hsign : Solid [CodePoint.ofChar (if power < 0 then '-' else '+')] := by
    split <;> decide
  have hsize := solid_digits hdigits
  unfold Numeral.powerChars
  simp only [hpadded]
  exact solid_cons.mpr ⟨by decide, solid_cons.mpr ⟨hsign, hsize⟩⟩

theorem solid_chars {n : Numeral} (h : n.Valid) : Solid (ofChars n.chars) := by
  obtain ⟨hwhole, hfraction⟩ := List.forall_mem_append.mp h.digits
  unfold Numeral.chars
  rw [ofChars, List.map_append, List.map_append, solid_append, solid_append]
  refine ⟨⟨solid_digits hwhole, ?fraction⟩, ?power⟩
  case fraction =>
    split
    · exact solid_nil
    · exact solid_cons.mpr ⟨by decide, solid_digits hfraction⟩
  case power =>
    cases n.power with
    | none => exact solid_nil
    | some power => exact solid_powerChars power

theorem solid_floatText (x : Binary64) : Solid (floatText x) := by
  by_cases hfinite : x.isFinite = true
  · obtain ⟨n, hchars, hn, -⟩ := exists_numeral hfinite
    rw [floatText_of_finite hfinite, hchars, ofChars, List.map_append, solid_append]
    refine ⟨?_, solid_chars hn⟩
    split <;> decide
  · unfold floatText
    rw [if_neg hfinite]
    split
    · decide
    split <;> decide

/-! ## Values -/

/-- A layout on one line that escapes all but printable ASCII, and has nothing else between items. -/
structure Layout.PlainAscii (layout : Layout) : Prop where
  asciiOnly : layout.asciiOnly = true
  comma : layout.comma.PlainAscii
  colon : layout.colon.PlainAscii
  indent : layout.indent = none

theorem plainAscii_enclose {layout : Layout} (h : layout.PlainAscii) (level : Nat)
    {opening closing : CodePoint} (hopening : PlainAscii [opening]) (hclosing : PlainAscii [closing])
    {items : List Text} (hitems : ∀ item ∈ items, PlainAscii item) :
    PlainAscii (enclose layout level opening closing items) := by
  have hline (level : Nat) : layout.lineBreak level = [] := by
    unfold Layout.lineBreak
    rw [h.indent]
  cases items with
  | nil => exact plainAscii_append.mpr ⟨hopening, hclosing⟩
  | cons item items =>
    have hseparator : (layout.comma ++ layout.lineBreak (level + 1)).PlainAscii := by
      rw [hline, List.append_nil]
      exact h.comma
    have hjoin := plainAscii_join hseparator hitems
    simp only [enclose, hline, List.append_nil] at hjoin ⊢
    rw [plainAscii_append, List.singleton_append, plainAscii_cons]
    exact ⟨⟨(plainAscii_cons.mp hopening).1, hjoin⟩, hclosing⟩

section Written

variable {layout : Layout}

mutual

/-- Whatever a value holds, its text is printable ASCII. -/
theorem plainAscii_writeAt (h : layout.PlainAscii) (level : Nat) (value : Json) :
    PlainAscii (writeAt layout level value) := by
  have hwords : PlainAscii "null" ∧ PlainAscii "true" ∧ PlainAscii "false" := by decide
  match value with
  | .null => exact hwords.1
  | .bool true => exact hwords.2.1
  | .bool false => exact hwords.2.2
  | .int n => exact (solid_ofInt n).plainAscii
  | .float x => exact (solid_floatText x).plainAscii
  | .text t =>
    rw [writeAt, h.asciiOnly]
    exact plainAscii_quote t
  | .array items =>
    exact plainAscii_enclose h level (by decide) (by decide) (plainAscii_writeItems h _ items)
  | .object fields =>
    exact plainAscii_enclose h level (by decide) (by decide) (plainAscii_writeFields h _ fields)

theorem plainAscii_writeItems (h : layout.PlainAscii) (level : Nat) (items : List Json) :
    ∀ t ∈ writeItems layout level items, PlainAscii t := by
  match items with
  | [] => exact List.forall_mem_nil _
  | item :: items =>
    rw [writeItems, List.forall_mem_cons]
    exact ⟨plainAscii_writeAt h level item, plainAscii_writeItems h level items⟩

theorem plainAscii_writeFields (h : layout.PlainAscii) (level : Nat)
    (fields : List (Text × Json)) : ∀ t ∈ writeFields layout level fields, PlainAscii t := by
  match fields with
  | [] => exact List.forall_mem_nil _
  | (name, value) :: fields =>
    rw [writeFields, List.forall_mem_cons, plainAscii_append, plainAscii_append, h.asciiOnly]
    exact ⟨⟨⟨plainAscii_quote name, h.colon⟩, plainAscii_writeAt h level value⟩,
      plainAscii_writeFields h level fields⟩

end

end Written

theorem plainAscii_spacedAscii : Layout.spacedAscii.PlainAscii := ⟨rfl, by decide, by decide, rfl⟩

end Json

end SignedBlog
