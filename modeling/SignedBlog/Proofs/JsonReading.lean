import SignedBlog.Proofs.FloatText
import SignedBlog.Proofs.JsonValues

/-!
JSON read without bounds.

A text is too short to reach a bound on nesting or digits that is as large as the text is long. So with
such bounds every value comes back from its text whose numbers are finite: `Json.readAll_written`.
-/

namespace SignedBlog.Json

set_option autoImplicit false

/-! ## Bounds that are not reached -/

/-- Reads a text with bounds that it is too short to reach. -/
def readAll (t : Text) : Option Json := (read ⟨t.length, t.length⟩ t).toOption

theorem length_le_join {separator t : Text} {items : List Text} (h : t ∈ items) :
    t.length ≤ (Text.join separator items).length := by
  induction items with
  | nil => cases h
  | cons item items ih =>
    cases items with
    | nil =>
      have e : t = item := List.mem_singleton.mp h
      exact e ▸ Nat.le_refl _
    | cons next items =>
      have hjoin : (Text.join separator (item :: next :: items)).length
          = item.length + separator.length + (Text.join separator (next :: items)).length := by
        change (item ++ separator ++ Text.join separator (next :: items)).length = _
        rw [List.length_append, List.length_append]
      obtain rfl | hmore := List.mem_cons.mp h
      · omega
      · have hlength := ih hmore
        omega

/-- Each of the values between brackets is shorter than the whole, even without the brackets. -/
theorem length_le_enclose (layout : Layout) (level : Nat) (opening closing : CodePoint)
    {items : List Text} {t : Text} (h : t ∈ items) :
    t.length + 2 ≤ (enclose layout level opening closing items).length := by
  have hjoin := @length_le_join (layout.comma ++ layout.lineBreak (level + 1)) t items h
  obtain ⟨item, more, rfl⟩ := List.exists_cons_of_ne_nil (List.ne_nil_of_mem h)
  simp only [enclose, List.length_append, List.length_cons, List.length_nil] at hjoin ⊢
  omega

theorem length_enclose_pos (layout : Layout) (level : Nat) (opening closing : CodePoint)
    (items : List Text) : 1 ≤ (enclose layout level opening closing items).length := by
  cases items with
  | nil => exact Nat.le_add_left 1 1
  | cons item items =>
    simp only [enclose, List.length_append, List.length_cons, List.length_nil]
    omega

theorem length_digits_le (n : Int) : (Text.ofNat n.natAbs).length ≤ (Text.ofInt n).length := by
  cases n with
  | ofNat m => exact Nat.le_refl _
  | negSucc m => exact Nat.le_succ _

/-- Neither the nesting nor the digits of a whole number exceed a bound. -/
structure Fits (bound : Nat) (value : Json) : Prop where
  depth : value.depth ≤ bound
  digits : ∀ n, .int n ∈ value.numbers → (Text.ofNat n.natAbs).length ≤ bound

theorem Fits.mono {bound larger : Nat} {value : Json} (h : Fits bound value)
    (hle : bound ≤ larger) : Fits larger value :=
  ⟨Nat.le_trans h.depth hle, fun n hn => Nat.le_trans (h.digits n hn) hle⟩

mutual

/-- The text of a value is as long as the value is deep, and as any of its numbers. -/
theorem fits_length (layout : Layout) (level : Nat) (value : Json) :
    value.Fits (writeAt layout level value).length := by
  match value with
  | .null | .bool _ | .float _ | .text _ =>
    refine ⟨Nat.zero_le _, fun n hn => ?_⟩
    simp [numbers] at hn
  | .int m =>
    refine ⟨Nat.zero_le _, fun n hn => ?_⟩
    have e : n = m := by simpa [numbers] using hn
    rw [e]
    exact length_digits_le m
  -- the brackets of an array or an object make up for the level that it adds
  | .array items =>
    have hpos := length_enclose_pos layout level '[' ']' (writeItems layout (level + 1) items)
    obtain ⟨hdepth, hdigits⟩ := fits_items layout (level + 1) items fun t ht =>
      Nat.le_sub_of_add_le (Nat.le_of_succ_le (length_le_enclose layout level '[' ']' ht))
    rw [writeAt]
    refine ⟨?_, fun n hn => ?_⟩
    · rw [Json.depth]
      omega
    · have hlength := hdigits n hn
      omega
  | .object fields =>
    have hpos := length_enclose_pos layout level '\x7b' '\x7d'
      (writeFields layout (level + 1) fields)
    obtain ⟨hdepth, hdigits⟩ := fits_fields layout (level + 1) fields fun t ht =>
      Nat.le_sub_of_add_le (Nat.le_of_succ_le (length_le_enclose layout level '\x7b' '\x7d' ht))
    rw [writeAt]
    refine ⟨?_, fun n hn => ?_⟩
    · rw [Json.depth]
      omega
    · have hlength := hdigits n hn
      omega

theorem fits_items (layout : Layout) (level : Nat) (items : List Json) {bound : Nat}
    (h : ∀ t ∈ writeItems layout level items, t.length ≤ bound) :
    depthItems items ≤ bound ∧
      ∀ n, .int n ∈ numbersItems items → (Text.ofNat n.natAbs).length ≤ bound := by
  match items with
  | [] => exact ⟨Nat.zero_le _, fun n hn => absurd hn List.not_mem_nil⟩
  | item :: items =>
    rw [writeItems, List.forall_mem_cons] at h
    have hitem := fits_length layout level item
    obtain ⟨hdepth, hdigits⟩ := fits_items layout level items h.2
    refine ⟨Nat.max_le.mpr ⟨Nat.le_trans hitem.depth h.1, hdepth⟩, fun n hn => ?_⟩
    obtain hfirst | hmore := List.mem_append.mp hn
    · exact Nat.le_trans (hitem.digits n hfirst) h.1
    · exact hdigits n hmore

theorem fits_fields (layout : Layout) (level : Nat) (fields : List (Text × Json)) {bound : Nat}
    (h : ∀ t ∈ writeFields layout level fields, t.length ≤ bound) :
    depthFields fields ≤ bound ∧
      ∀ n, .int n ∈ numbersFields fields → (Text.ofNat n.natAbs).length ≤ bound := by
  match fields with
  | [] => exact ⟨Nat.zero_le _, fun n hn => absurd hn List.not_mem_nil⟩
  | (name, value) :: fields =>
    rw [writeFields, List.forall_mem_cons] at h
    have hvalue := fits_length layout level value
    have hlength : (writeAt layout level value).length ≤ bound := by
      have hfield := h.1
      simp only [List.length_append] at hfield
      omega
    obtain ⟨hdepth, hdigits⟩ := fits_fields layout level fields h.2
    refine ⟨Nat.max_le.mpr ⟨Nat.le_trans hvalue.depth hlength, hdepth⟩, fun n hn => ?_⟩
    obtain hfirst | hmore := List.mem_append.mp hn
    · exact Nat.le_trans (hvalue.digits n hfirst) hlength
    · exact hdigits n hmore

end

theorem separates_compact : Layout.compact.Separates :=
  ⟨⟨[], rfl, List.forall_mem_nil _⟩, ⟨[], rfl, List.forall_mem_nil _⟩⟩

/-! ## Finite numbers -/

/-- An integer or a finite floating-point number. -/
def FiniteNumber (number : Json) : Prop :=
  (∃ n, number = .int n) ∨ ∃ x, number = .float x ∧ x.isFinite = true

mutual

theorem isFinite_iff (value : Json) :
    value.isFinite = true ↔ ∀ number ∈ value.numbers, FiniteNumber number := by
  match value with
  | .null | .bool _ | .text _ => exact iff_of_true rfl (List.forall_mem_nil _)
  | .int n => simp [isFinite, numbers, FiniteNumber]
  | .float x => simp [isFinite, numbers, FiniteNumber]
  | .array items => exact isFiniteItems_iff items
  | .object fields => exact isFiniteFields_iff fields

theorem isFiniteItems_iff (items : List Json) :
    isFiniteItems items = true ↔ ∀ number ∈ numbersItems items, FiniteNumber number := by
  match items with
  | [] => exact iff_of_true rfl (List.forall_mem_nil _)
  | item :: items =>
    rw [isFiniteItems, Bool.and_eq_true, isFinite_iff item, isFiniteItems_iff items, numbersItems,
      List.forall_mem_append]

theorem isFiniteFields_iff (fields : List (Text × Json)) :
    isFiniteFields fields = true ↔ ∀ number ∈ numbersFields fields, FiniteNumber number := by
  match fields with
  | [] => exact iff_of_true rfl (List.forall_mem_nil _)
  | (name, value) :: fields =>
    rw [isFiniteFields, Bool.and_eq_true, isFinite_iff value, isFiniteFields_iff fields,
      numbersFields, List.forall_mem_append]

end

theorem Integral.isFinite {value : Json} (h : value.Integral) : value.isFinite = true :=
  (isFinite_iff value).mpr fun number hnumber => .inl (h number hnumber)

theorem isFinite_object {fields : List (Text × Json)} :
    isFinite (.object fields) = true ↔ ∀ field ∈ fields, field.2.isFinite = true := by
  change isFiniteFields fields = true ↔ _
  induction fields with
  | nil => exact iff_of_true rfl (List.forall_mem_nil _)
  | cons field fields ih =>
    rw [isFiniteFields, Bool.and_eq_true, ih, List.forall_mem_cons]

mutual

theorem isFinite_mapTexts (f : Text → Text) (value : Json) :
    (mapTexts f value).isFinite = value.isFinite := by
  match value with
  | .null | .bool _ | .int _ | .float _ | .text _ => rfl
  | .array items => exact isFinite_mapTextsItems f items
  | .object fields => exact isFinite_mapTextsFields f fields

theorem isFinite_mapTextsItems (f : Text → Text) (items : List Json) :
    isFiniteItems (mapTextsItems f items) = isFiniteItems items := by
  match items with
  | [] => rfl
  | item :: items =>
    rw [mapTextsItems, isFiniteItems, isFinite_mapTexts f item, isFinite_mapTextsItems f items]
    rfl

theorem isFinite_mapTextsFields (f : Text → Text) (fields : List (Text × Json)) :
    isFiniteFields (mapTextsFields f fields) = isFiniteFields fields := by
  match fields with
  | [] => rfl
  | (name, value) :: fields =>
    rw [mapTextsFields, isFiniteFields, isFinite_mapTexts f value, isFinite_mapTextsFields f fields]
    rfl

end

/-! ## Reading without bounds -/

section ReadAll

variable {layout : Layout} {value : Json} {blanks : Text}

/-- What is finite is read back from its text without a bound, whatever blanks stand behind it. -/
theorem readAll_written_blanks (hlayout : layout.Separates) (h : value.isFinite = true)
    (hblanks : ∀ c ∈ blanks, isSpace c = true) :
    readAll (value.write layout ++ blanks) = some (readBackAs layout value) := by
  let limits : Limits := ⟨(value.write layout ++ blanks).length, (value.write layout ++ blanks).length⟩
  have hlength : (value.write layout).length ≤ (value.write layout ++ blanks).length := by
    rw [List.length_append]
    omega
  have hfits := (fits_length layout 0 value).mono hlength
  have hnumbers : ∀ number ∈ value.numbers, ReadsBack limits number := by
    intro number hnumber
    obtain ⟨n, rfl⟩ | ⟨x, rfl, hx⟩ := (isFinite_iff value).mp h number hnumber
    · exact readsBack_int (hfits.digits n hnumber)
    · exact readsBack_float hx
  have hread : read limits (value.write layout ++ blanks) = .ok (readBackAs layout value) :=
    read_write_blanks hlayout hnumbers hfits.depth hblanks
  unfold readAll
  rw [hread]
  rfl

/-- What is finite is read back from its text without a bound. -/
theorem readAll_written (hlayout : layout.Separates) (h : value.isFinite = true) :
    readAll (value.write layout) = some (readBackAs layout value) := by
  have hread := readAll_written_blanks hlayout h (List.forall_mem_nil _)
  rwa [List.append_nil] at hread

/-- What is legible is read back from its text without a bound, whatever blanks stand behind it. -/
theorem readAll_write_blanks (hlayout : layout.Separates) (h : value.Legible)
    (hblanks : ∀ c ∈ blanks, isSpace c = true) :
    readAll (value.write layout ++ blanks) = some value := by
  rw [readAll_written_blanks hlayout h.integral.isFinite hblanks, h.clean.readBackAs]

/-- What is legible is read back from its text without a bound. -/
theorem readAll_write (hlayout : layout.Separates) (h : value.Legible) :
    readAll (value.write layout) = some value := by
  rw [readAll_written hlayout h.integral.isFinite, h.clean.readBackAs]

end ReadAll

end SignedBlog.Json
