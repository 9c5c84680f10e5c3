import SignedBlog.Proofs.Base64
import SignedBlog.Proofs.Content
import SignedBlog.Proofs.FieldOrder

/-!
What the canonical text of a payload tells.

A plain value is made of texts without surrogates, integers, truth values, bytes and records of such.
Its normal form leaves out fields that have no value and holds bytes as base64 texts; the order of
fields is that of the payload, so it is compared up to order. `Canonical.text_eq_iff` says that two
payloads have one canonical text exactly when they have one normal form, as far down as mappings are
followed and as long as integers are short enough to be written, whatever the room and the limit are.
-/

namespace SignedBlog

set_option autoImplicit false

namespace Value

/-! ## Plain values -/

inductive Plain : Value → Prop where
  | null : Plain .null
  | bool (b : Bool) : Plain (.bool b)
  | int (n : Int) : Plain (.int n)
  | text {t : Text} (hclean : t.Clean) : Plain (.text t)
  | bytes (bs : Bytes) : Plain (.bytes bs)
  | buffer (bs : Bytes) : Plain (.buffer bs)
  | record {fields : List (Text × Value)} (hnames : (fields.map Prod.fst).Nodup)
      (hclean : ∀ field ∈ fields, field.1.Clean) (hvalues : ∀ field ∈ fields, Plain field.2) :
      Plain (.record fields)

theorem record_injective : Function.Injective record := by
  intro as bs h
  refine List.map_injective_iff.mpr ?_ (Value.dict.inj h)
  intro a b hab
  obtain ⟨hname, hvalue⟩ := Prod.mk.inj hab
  exact Prod.ext (Value.text.inj hname) hvalue

theorem plain_record {fields : List (Text × Value)} :
    (record fields).Plain ↔
      (fields.map Prod.fst).Nodup ∧ (∀ field ∈ fields, field.1.Clean) ∧
        ∀ field ∈ fields, field.2.Plain := by
  refine ⟨fun h => ?_, fun ⟨hnames, hclean, hvalues⟩ => .record hnames hclean hvalues⟩
  generalize hvalue : record fields = value at h
  cases h with
  | record hnames hclean hvalues =>
    rw [record_injective hvalue]
    exact ⟨hnames, hclean, hvalues⟩
  | _ => cases hvalue

theorem depth_record_le {fields : List (Text × Value)} {room : Nat} :
    (record fields).depth ≤ room + 1 ↔ ∀ field ∈ fields, field.2.depth ≤ room := by
  change depthEntries (fields.map _) + 1 ≤ _ ↔ _
  rw [Nat.add_le_add_iff_right]
  induction fields with
  | nil => simp [depthEntries]
  | cons field fields ih =>
    have hname : depth (.text field.1) = 0 := rfl
    rw [List.map_cons, depthEntries, List.forall_mem_cons, ← ih, hname]
    omega

/-! ## Normal forms -/

mutual

/-- The normal form of a plain value, if it is one at all and not `null`. -/
def normal? : Value → Option Json
  | .bool b => some (.bool b)
  | .int n => some (.int n)
  | .text t => some (.text t)
  | .bytes bs | .buffer bs => some (.text (Base64.encode bs))
  | .dict entries => some (.object (normalEntries entries))
  | _ => none

def normalEntries : List (Value × Value) → List (Text × Json)
  | [] => []
  | (.text name, value) :: entries =>
    ((normal? value).map (Prod.mk name)).toList ++ normalEntries entries
  | _ :: entries => normalEntries entries

end

/-- The normal form of a record, as fields. -/
def normalFields (fields : List (Text × Value)) : List (Text × Json) :=
  Canonical.fieldsWith normal? fields

theorem normal?_record (fields : List (Text × Value)) :
    (record fields).normal? = some (.object (normalFields fields)) := by
  change some (Json.object (normalEntries (fields.map _))) = _
  congr 2
  induction fields with
  | nil => rfl
  | cons field fields ih =>
    rw [List.map_cons, normalEntries, ih]
    unfold normalFields Canonical.fieldsWith
    rw [List.filterMap_cons]
    cases field.2.normal? <;> rfl

/-- Names do not repeat in a normal form, and its text determines it. -/
theorem Plain.normal {value : Value} (h : value.Plain) {form : Json}
    (hform : value.normal? = some form) : form.Distinct ∧ form.Legible := by
  induction h generalizing form with
  | null => cases hform
  | bool b =>
    cases hform
    exact ⟨trivial, Json.legible_bool b⟩
  | int n =>
    cases hform
    exact ⟨trivial, Json.legible_int n⟩
  | text hclean =>
    cases hform
    exact ⟨trivial, Json.legible_text.mpr hclean⟩
  | bytes bs =>
    cases hform
    exact ⟨trivial, Json.legible_text.mpr (Base64.clean_encode bs)⟩
  | buffer bs =>
    cases hform
    exact ⟨trivial, Json.legible_text.mpr (Base64.clean_encode bs)⟩
  | @record fields hnames hclean _ ih =>
    rw [normal?_record] at hform
    cases hform
    have hnodup : ((normalFields fields).map Prod.fst).Nodup :=
      hnames.sublist (Canonical.map_fst_fieldsWith_sublist normal? fields)
    rw [Json.distinct_object, Json.legible_object]
    refine ⟨⟨hnodup, fun field hfield => ?_⟩, fun field hfield => ?_⟩
    · obtain ⟨value, hvalue, hresult⟩ := Canonical.mem_fieldsWith.mp hfield
      exact (ih _ hvalue hresult).1
    · obtain ⟨value, hvalue, hresult⟩ := Canonical.mem_fieldsWith.mp hfield
      exact ⟨hclean _ hvalue, (ih _ hvalue hresult).2⟩

/-- What may be written of a plain value is what may be written of its normal form. -/
theorem Plain.fits_normal {value : Value} {digits : Option Nat} (h : value.Plain) :
    value.fits digits = true ↔ ∀ form, value.normal? = some form → form.fits digits = true := by
  induction h with
  | null => simp [fits, normal?]
  | bool b => simp [fits, normal?, Json.fits]
  | int n => simp [fits, normal?, Json.fits]
  | text _ => simp [fits, normal?, Json.fits]
  | bytes bs => simp [fits, normal?, Json.fits]
  | buffer bs => simp [fits, normal?, Json.fits]
  | @record fields _ _ _ ih =>
    simp only [normal?_record, Option.some.injEq, forall_eq', fits_record, Json.fits_object]
    constructor
    · intro hfields field hfield
      obtain ⟨value, hvalue, hform⟩ := Canonical.mem_fieldsWith.mp hfield
      exact (ih _ hvalue).mp (hfields _ hvalue) _ hform
    · intro hforms field hfield
      refine (ih field hfield).mpr fun form hform => ?_
      exact hforms (field.1, form) (Canonical.mem_fieldsWith.mpr ⟨field.2, hfield, hform⟩)

end Value

namespace Canonical

/-! ## Forms of plain values -/

theorem collect_map_ok {α : Type} (f : α → Option Json) (fields : List (Text × α)) :
    collect (fields.map fun field => (field.1, .ok (f field.2))) = .ok (fieldsWith f fields) := by
  induction fields with
  | nil => rfl
  | cons field fields ih =>
    rw [List.map_cons, fieldsWith, List.filterMap_cons]
    cases f field.2 with
    | none => exact ih
    | some form =>
      rw [collect, ih]
      rfl

theorem collect_tooDeep {forms : List (Text × Except Fault (Option Json))}
    (hforms : ∀ form ∈ forms, form.2 = .error .tooDeep ∨ ∃ value, form.2 = .ok value)
    (hdeep : ∃ form ∈ forms, form.2 = .error .tooDeep) : collect forms = .error .tooDeep := by
  induction forms with
  | nil =>
    obtain ⟨form, hform, -⟩ := hdeep
    cases hform
  | cons form forms ih =>
    obtain ⟨name, result⟩ := form
    rw [List.forall_mem_cons] at hforms
    obtain hresult | ⟨value, hresult⟩ := hforms.1
    · change result = _ at hresult
      rw [hresult]
      rfl
    · change result = _ at hresult
      subst hresult
      have hlater : ∃ form ∈ forms, form.2 = .error .tooDeep := by
        simpa using hdeep
      have hrest := ih hforms.2 hlater
      cases value with
      | none => exact hrest
      | some value =>
        rw [collect, hrest]
        rfl

variable {fields : List (Text × Value)} {room : Nat} {path : Text}

theorem assemble_record (room : Nat) (path : Text) (fields : List (Text × Value)) :
    assemble path (formEntries room path (fields.map fun field => (.text field.1, field.2)))
      = collect (sortFields (fields.map fun field =>
          (field.1, form room (entryPath path (.text field.1)) field.2))) := by
  rw [formEntries_map, assemble_map]

/-- The form of a record is its normal form in the order of names. -/
theorem assemble_eq_ok (hnames : (fields.map Prod.fst).Nodup)
    (hforms : ∀ field ∈ fields, form room (entryPath path (.text field.1)) field.2
      = .ok (field.2.normal?.map Json.sorted)) :
    assemble path (formEntries room path (fields.map fun field => (.text field.1, field.2)))
      = .ok (sortFields (Json.sortedFields (Value.normalFields fields))) := by
  have hall : (fields.map fun field =>
        (field.1, form room (entryPath path (.text field.1)) field.2))
      = fields.map fun field => (field.1, .ok (field.2.normal?.map Json.sorted)) := by
    apply List.map_congr_left
    intro field hfield
    rw [hforms field hfield]
  have hsorted : fieldsWith (fun value => (Value.normal? value).map Json.sorted) fields
      = Json.sortedFields (Value.normalFields fields) := by
    rw [Json.sortedFields_eq_map, Value.normalFields, fieldsWith, fieldsWith, List.map_filterMap]
    simp [Function.comp_def]
  rw [assemble_record, hall,
    sortFields_map (fun value => (Except.ok ((Value.normal? value).map Json.sorted))),
    collect_map_ok (fun value => (Value.normal? value).map Json.sorted),
    sortFields_fieldsWith _ hnames, hsorted]

theorem assemble_tooDeep
    (hforms : ∀ field ∈ fields, form room (entryPath path (.text field.1)) field.2 = .error .tooDeep ∨
      ∃ value, form room (entryPath path (.text field.1)) field.2 = .ok value)
    (hdeep : ∃ field ∈ fields,
      form room (entryPath path (.text field.1)) field.2 = .error .tooDeep) :
    assemble path (formEntries room path (fields.map fun field => (.text field.1, field.2)))
      = .error .tooDeep := by
  rw [assemble_record]
  apply collect_tooDeep
  · intro result hresult
    obtain ⟨field, hfield, rfl⟩ := List.mem_map.mp ((sortFields_perm _).mem_iff.mp hresult)
    exact hforms field hfield
  · obtain ⟨field, hfield, hresult⟩ := hdeep
    exact ⟨_, (sortFields_perm _).mem_iff.mpr (List.mem_map_of_mem hfield), hresult⟩

end Canonical

namespace Value.Plain

open Canonical

variable {value : Value} {room : Nat}

theorem form_eq_ok (h : value.Plain) (path : Text) (hdepth : value.depth ≤ room) :
    form room path value = .ok (value.normal?.map Json.sorted) := by
  induction h generalizing room path with
  | null | bool | int | text | bytes | buffer => rfl
  | @record fields hnames _ _ ih =>
    cases room with
    | zero => exact absurd hdepth (Nat.not_succ_le_zero _)
    | succ room =>
      rw [depth_record_le] at hdepth
      have hforms : ∀ field ∈ fields, form room (entryPath path (.text field.1)) field.2
          = .ok (field.2.normal?.map Json.sorted) :=
        fun field hfield => ih field hfield _ (hdepth field hfield)
      rw [normal?_record]
      change (assemble path (formEntries room path (fields.map _))).map _ = _
      rw [assemble_eq_ok hnames hforms]
      rfl

theorem form_tooDeep (h : value.Plain) (path : Text) (hdepth : room < value.depth) :
    form room path value = .error .tooDeep := by
  induction h generalizing room path with
  | null | bool | int | text | bytes | buffer => exact absurd hdepth (Nat.not_lt_zero _)
  | @record fields _ _ hvalues ih =>
    cases room with
    | zero => rfl
    | succ room =>
      rw [← Nat.not_le, depth_record_le] at hdepth
      simp only [not_forall, Nat.not_le] at hdepth
      obtain ⟨deep, hmem, hdeep⟩ := hdepth
      change (assemble path (formEntries room path (fields.map _))).map _ = _
      rw [assemble_tooDeep ?_ ⟨deep, hmem, ih deep hmem _ hdeep⟩]
      · rfl
      · intro field hfield
        by_cases hfits : field.2.depth ≤ room
        · exact .inr ⟨_, (hvalues field hfield).form_eq_ok _ hfits⟩
        · exact .inl (ih field hfield _ (Nat.lt_of_not_le hfits))

end Value.Plain

namespace Canonical

/-! ## Canonical texts -/

theorem withVersion_of_new {fields : List (Text × Json)}
    (hnew : versionName ∉ fields.map Prod.fst) :
    withVersion fields = sortFields ((versionName, .int version) :: fields) := by
  unfold withVersion
  rw [if_neg]
  simpa using hnew

/-- The object that is written for a plain record. -/
def written (fields : List (Text × Value)) : Json :=
  .object (sortFields ((versionName, .int version) ::
    sortFields (Json.sortedFields (Value.normalFields fields))))

variable {fields as bs : List (Text × Value)} {levels : Nat} {digits : Option Nat}

/-- The version is written with every record, so it has to fit as well. -/
theorem fits_written (h : (Value.record fields).Plain) :
    (written fields).fits digits = true ↔
      Integer.fits digits version = true ∧ (Value.record fields).fits digits = true := by
  have hforms : (Value.record fields).fits digits = true ↔
      (Json.object (Value.normalFields fields)).fits digits = true := by
    rw [h.fits_normal, Value.normal?_record]
    simp
  have hsorted : (Json.object (sortFields (Json.sortedFields (Value.normalFields fields)))).fits
      digits = true ↔ (Json.object (Value.normalFields fields)).fits digits = true := by
    have hreordered := Json.reordered_sorted (.object (Value.normalFields fields))
    exact ⟨hreordered.symm.fits, hreordered.fits⟩
  rw [hforms, ← hsorted, written, Json.fits_object, Json.fits_object]
  simp only [(sortFields_perm (_ :: _)).mem_iff, List.forall_mem_cons]
  rfl

theorem fields_of_plain (h : (Value.record fields).Plain)
    (hdepth : (Value.record fields).depth ≤ levels + 1) :
    Canonical.fields levels (.record fields)
      = .ok (sortFields (Json.sortedFields (Value.normalFields fields))) := by
  obtain ⟨hnames, -, hvalues⟩ := Value.plain_record.mp h
  rw [Value.depth_record_le] at hdepth
  have hforms : ∀ field ∈ fields, form levels (entryPath [] (.text field.1)) field.2
      = .ok (field.2.normal?.map Json.sorted) :=
    fun field hfield => (hvalues field hfield).form_eq_ok _ (hdepth field hfield)
  exact assemble_eq_ok hnames hforms

/-- A plain record that is followed to its end is written, unless an integer is too long. -/
theorem text_of_plain (h : (Value.record fields).Plain)
    (hnew : versionName ∉ fields.map Prod.fst)
    (hdepth : (Value.record fields).depth ≤ levels + 1) :
    text (.record fields) levels digits = writeForm digits (written fields) := by
  have hsub : ((sortFields (Json.sortedFields (Value.normalFields fields))).map Prod.fst)
      ⊆ fields.map Prod.fst := by
    intro name hname
    rw [((sortFields_perm _).map Prod.fst).mem_iff, Json.map_fst_sortedFields] at hname
    exact (map_fst_fieldsWith_sublist Value.normal? fields).subset hname
  unfold text
  simp only [fields_of_plain h hdepth, withVersion_of_new fun hmem => hnew (hsub hmem)]
  rfl

theorem text_tooDeep (h : (Value.record fields).Plain)
    (hdepth : levels + 1 < (Value.record fields).depth) :
    text (.record fields) levels digits = .error .tooDeep := by
  have hform := h.form_tooDeep [] hdepth
  change (assemble [] (formEntries levels [] (fields.map _))).map _ = _ at hform
  have hfields : Canonical.fields levels (.record fields) = .error .tooDeep := by
    change assemble [] (formEntries levels [] (fields.map _)) = _
    cases hassembled : assemble [] (formEntries levels []
        (fields.map fun field => (.text field.1, field.2))) with
    | ok forms =>
      rw [hassembled] at hform
      cases hform
    | error fault =>
      rw [hassembled] at hform
      cases hform
      rfl
  unfold text
  rw [hfields]

theorem legible_written (h : (Value.record fields).Plain) : (written fields).Legible := by
  have hlegible := (h.normal (Value.normal?_record fields)).2
  have hsorted := (Json.reordered_sorted _).legible hlegible
  rw [Json.sorted, Json.legible_object] at hsorted
  rw [written, Json.legible_object]
  intro field hfield
  rw [(sortFields_perm _).mem_iff, List.mem_cons] at hfield
  obtain rfl | hfield := hfield
  · exact ⟨by decide, Json.legible_int version⟩
  · exact hsorted field hfield

theorem written_eq_iff (ha : (Value.record as).Plain) :
    written as = written bs ↔
      (Json.object (Value.normalFields as)).Reordered (.object (Value.normalFields bs)) := by
  have hdistinct := (ha.normal (Value.normal?_record as)).1
  rw [Json.reordered_iff hdistinct, Json.sorted, Json.sorted]
  constructor
  · intro h
    have hboth := sortFields_perm ((versionName, Json.int version) ::
      sortFields (Json.sortedFields (Value.normalFields as)))
    rw [Json.object.inj h] at hboth
    -- the version stands in both, so the rest is the same up to order
    have hrest := (hboth.symm.trans (sortFields_perm _)).cons_inv
    have hperm := (sortFields_perm _).symm.trans (hrest.trans (sortFields_perm _))
    have hnames : ((Json.sortedFields (Value.normalFields as)).map Prod.fst).Nodup := by
      rw [Json.map_fst_sortedFields]
      exact (Json.distinct_object.mp hdistinct).1
    rw [sortFields_eq_of_perm hperm hnames]
  · intro h
    rw [written, written, Json.object.inj h]

/-- Whatever room there is for mappings and whatever limit is set on digits, two plain records without
a field for the version that are followed to their ends and can be written have one canonical text
exactly when they have one normal form up to the order of fields. One with more levels than there is
room for has no text, and neither has one with an integer that is too long. -/
theorem text_eq_iff (levels : Nat) (digits : Option Nat) (ha : (Value.record as).Plain)
    (hb : (Value.record bs).Plain) (hnewa : versionName ∉ as.map Prod.fst)
    (hnewb : versionName ∉ bs.map Prod.fst) (hversion : Integer.fits digits version = true) :
    ((Value.record as).depth ≤ levels + 1 → (Value.record bs).depth ≤ levels + 1 →
      (Value.record as).fits digits = true → (Value.record bs).fits digits = true →
      ∃ s t, text (.record as) levels digits = .ok s ∧ text (.record bs) levels digits = .ok t ∧
        (s = t ↔
          (Json.object (Value.normalFields as)).Reordered (.object (Value.normalFields bs)))) ∧
    (levels + 1 < (Value.record as).depth →
      text (.record as) levels digits = .error .tooDeep) ∧
    ((Value.record as).depth ≤ levels + 1 → (Value.record as).fits digits = false →
      text (.record as) levels digits = .error (.setting .longInteger)) := by
  refine ⟨fun hdeptha hdepthb hfitsa hfitsb => ?_, text_tooDeep ha, fun hdepth hlong => ?_⟩
  · refine ⟨(written as).write .compactAscii, (written bs).write .compactAscii, ?_, ?_, ?_⟩
    · rw [text_of_plain ha hnewa hdeptha]
      exact if_pos ((fits_written ha).mpr ⟨hversion, hfitsa⟩)
    · rw [text_of_plain hb hnewb hdepthb]
      exact if_pos ((fits_written hb).mpr ⟨hversion, hfitsb⟩)
    rw [← written_eq_iff ha]
    constructor
    · exact Json.write_injective Json.separates_compactAscii (legible_written ha)
        (legible_written hb)
    · intro h
      rw [h]
  · rw [text_of_plain ha hnewa hdepth]
    refine if_neg fun hfits => ?_
    have hwritten := ((fits_written ha).mp hfits).2
    rw [hlong] at hwritten
    cases hwritten

/-- A record with a field that has no value, and bytes. -/
def bytesSample : List (Text × Value) :=
  [("b", .null), ("a", .bytes [1]), ("c", .record [("x", .int 1), ("y", .bool true)])]

/-- The same in another order at both levels, with text in place of the bytes. -/
def textSample : List (Text × Value) :=
  [("c", .record [("y", .bool true), ("z", .null), ("x", .int 1)]), ("a", .text "AQ==")]

theorem samples_plain : (Value.record bytesSample).Plain ∧ (Value.record textSample).Plain := by
  have hinner : (Value.record [("x", .int 1), ("y", .bool true)]).Plain := by
    refine .record (by decide) (by decide) ?_
    simp only [List.forall_mem_cons]
    exact ⟨.int 1, .bool true, List.forall_mem_nil _⟩
  have hother : (Value.record [("y", .bool true), ("z", .null), ("x", .int 1)]).Plain := by
    refine .record (by decide) (by decide) ?_
    simp only [List.forall_mem_cons]
    exact ⟨.bool true, .null, .int 1, List.forall_mem_nil _⟩
  constructor
  · refine .record (by decide) (by decide) ?_
    simp only [bytesSample, List.forall_mem_cons]
    exact ⟨.null, .bytes [1], hinner, List.forall_mem_nil _⟩
  · refine .record (by decide) (by decide) ?_
    simp only [textSample, List.forall_mem_cons]
    exact ⟨hother, .text (by decide), List.forall_mem_nil _⟩

theorem samples_reordered : (Json.object (Value.normalFields bytesSample)).Reordered
    (.object (Value.normalFields textSample)) := by
  let inner : Json := .object [("x", .int 1), ("y", .bool true)]
  have houter : Json.Reordered (.object [("a", .text "AQ=="), ("c", inner)])
      (.object [("c", inner), ("a", .text "AQ==")]) := .fields (.swap _ _ _)
  have hinner : inner.Reordered (.object [("y", .bool true), ("x", .int 1)]) :=
    .fields (.swap _ _ _)
  exact houter.trans (@Json.Reordered.inside [] _ "c" _ _ hinner)

theorem text_eq_iff_samples :
    (Value.record bytesSample).Plain ∧ (Value.record textSample).Plain ∧
      versionName ∉ bytesSample.map Prod.fst ∧ versionName ∉ textSample.map Prod.fst ∧
      ∃ t, text (.record bytesSample) = .ok t ∧ text (.record textSample) = .ok t := by
  obtain ⟨ha, hb⟩ := samples_plain
  have hnewa : versionName ∉ bytesSample.map Prod.fst := by decide
  have hnewb : versionName ∉ textSample.map Prod.fst := by decide
  refine ⟨ha, hb, hnewa, hnewb, ?_⟩
  obtain ⟨s, t, hs, ht, hsame⟩ :=
    (text_eq_iff usualLevels Integer.usualLimit ha hb hnewa hnewb (by decide)).1 (by decide)
      (by decide) (by decide) (by decide)
  rw [hsame.mpr samples_reordered] at hs
  exact ⟨t, hs, ht⟩

/-! ## Records without a text -/

theorem plain_singleton {value : Value} (h : value.Plain) : (Value.record [("k", value)]).Plain := by
  have hname : ("k" : Text).Clean := by decide
  exact .record (List.nodup_singleton _) (List.forall_mem_singleton.mpr hname)
    (List.forall_mem_singleton.mpr h)

theorem versionName_not_mem_singleton (value : Value) :
    versionName ∉ ([("k", value)] : List (Text × Value)).map Prod.fst := by
  have hname : versionName ≠ "k" := by decide
  simpa using hname

/-- A number within so many records. -/
def nested : Nat → Value
  | 0 => .int 1
  | depth + 1 => .record [("k", nested depth)]

theorem plain_nested (depth : Nat) : (nested depth).Plain := by
  induction depth with
  | zero => exact .int 1
  | succ depth ih => exact plain_singleton ih

theorem depth_nested (depth : Nat) : (nested depth).depth = depth := by
  induction depth with
  | zero => rfl
  | succ depth ih =>
    change max (max 0 (nested depth).depth) 0 + 1 = depth + 1
    rw [ih]
    omega

/-- However much room there is for mappings, a record may have no canonical text, not even the one it
shares with itself; and so it is however many digits are allowed, even for a record without any mapping
in it. -/
theorem not_text_eq_iff :
    (¬ ∃ levels, ∀ as bs : List (Text × Value),
      (Value.record as).Plain → (Value.record bs).Plain →
      versionName ∉ as.map Prod.fst → versionName ∉ bs.map Prod.fst →
        ((∃ t, text (.record as) levels none = .ok t ∧ text (.record bs) levels none = .ok t) ↔
          (Json.object (Value.normalFields as)).Reordered
            (.object (Value.normalFields bs)))) ∧
    ¬ ∃ most, ∀ as bs : List (Text × Value),
      (Value.record as).Plain → (Value.record bs).Plain →
      (Value.record as).depth = 1 → (Value.record bs).depth = 1 →
      versionName ∉ as.map Prod.fst → versionName ∉ bs.map Prod.fst →
        ((∃ t, text (.record as) usualLevels (some most) = .ok t ∧
            text (.record bs) usualLevels (some most) = .ok t) ↔
          (Json.object (Value.normalFields as)).Reordered
            (.object (Value.normalFields bs))) := by
  constructor
  · rintro ⟨levels, hclaim⟩
    have hplain := plain_singleton (plain_nested (levels + 1))
    have hdepth : (Value.record [("k", nested (levels + 1))]).depth = levels + 2 :=
      depth_nested (levels + 2)
    have hnew := versionName_not_mem_singleton (nested (levels + 1))
    obtain ⟨t, htext, -⟩ := (hclaim _ _ hplain hplain hnew hnew).mpr (.refl _)
    rw [text_tooDeep hplain (by rw [hdepth]; omega)] at htext
    cases htext
  · rintro ⟨most, hclaim⟩
    have hplain := plain_singleton (.int (10 ^ most))
    have hnew := versionName_not_mem_singleton (.int (10 ^ most))
    obtain ⟨t, htext, -⟩ := (hclaim _ _ hplain hplain rfl rfl hnew hnew).mpr (.refl _)
    have hlong : (written [("k", .int (10 ^ most))]).fits (some most) = false := by
      rw [Bool.eq_false_iff, ne_eq, fits_written hplain, Value.fits_record]
      rintro ⟨-, hfits⟩
      have hpower := hfits _ List.mem_cons_self
      rw [Value.fits, Integer.fits_power] at hpower
      cases hpower
    rw [text_of_plain hplain hnew (Nat.le_add_left 1 usualLevels), writeForm, hlong] at htext
    cases htext

end Canonical

end SignedBlog
