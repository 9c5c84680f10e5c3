import SignedBlog.Proofs.Content
import SignedBlog.Proofs.FieldOrder

/-!
The version in a canonical text.

What stands at the top level of a canonical text is `Canonical.members`: the fields of the payload that
have a value and, unless one of them has its name, the version. No name stands there twice. So a payload
can change the version under which it is written by a field of that name, and in no other way:
`Canonical.version_of_text`.
-/

namespace SignedBlog.Canonical

set_option autoImplicit false

/-- What stands at the top level of the canonical text of a payload, with room for so many mappings
below. -/
def members (levels : Nat) (payload : Value) : Except Fault (List (Text × Json)) :=
  (fields levels payload).map withVersion

theorem text_eq_ok {payload : Value} {levels : Nat} {digits : Option Nat} {t : Text}
    (h : text payload levels digits = .ok t) :
    ∃ own, fields levels payload = .ok own ∧
      t = (Json.object (withVersion own)).write .compactAscii := by
  unfold text writeForm at h
  cases hfields : fields levels payload with
  | error fault =>
    rw [hfields] at h
    cases h
  | ok own =>
    simp only [hfields] at h
    split at h
    · cases h
      exact ⟨own, rfl, rfl⟩
    · cases h

/-! ## Forms -/

section Form

variable {room : Nat} {path : Text} {value : Value}

theorem form_dict_eq_ok {entries : List (Value × Value)} {result : Option Json}
    (h : form room path (.dict entries) = .ok result) : ∃ found, result = some (.object found) := by
  cases room with
  | zero => simp [form] at h
  | succ room =>
    simp only [form] at h
    cases hfound : assemble path (formEntries room path entries) with
    | error fault =>
      rw [hfound] at h
      cases h
    | ok found =>
      rw [hfound] at h
      cases h
      exact ⟨found, rfl⟩

theorem form_eq_none_iff : form room path value = .ok none ↔ value = .null := by
  refine ⟨fun h => ?_, fun h => by rw [h, form]⟩
  cases value with
  | null => rfl
  | dict entries =>
    obtain ⟨found, hfound⟩ := form_dict_eq_ok h
    cases hfound
  | _ => simp [form] at h

theorem form_eq_int_iff {n : Int} : form room path value = .ok (some (.int n)) ↔ value = .int n := by
  refine ⟨fun h => ?_, fun h => by rw [h, form]⟩
  cases value with
  | int m =>
    rw [form] at h
    cases h
    rfl
  | dict entries =>
    obtain ⟨found, hfound⟩ := form_dict_eq_ok h
    cases hfound
  | _ => simp [form] at h

end Form

/-! ## Fields that were collected -/

section Collect

variable {forms : List (Text × Except Fault (Option Json))} {found : List (Text × Json)}

/-- Fields are collected only if each has a form, and then those are found that have a value. -/
theorem collect_eq_ok (h : collect forms = .ok found) :
    (∀ field ∈ forms, ∃ form, field.2 = .ok form) ∧
      ∀ name json, (name, json) ∈ found ↔ (name, .ok (some json)) ∈ forms := by
  induction forms generalizing found with
  | nil =>
    cases h
    simp
  | cons field forms ih =>
    obtain ⟨name, form⟩ := field
    match form with
    | .error fault => cases h
    | .ok none =>
      obtain ⟨hall, hmem⟩ := ih h
      refine ⟨List.forall_mem_cons.mpr ⟨⟨none, rfl⟩, hall⟩, fun other json => ?_⟩
      rw [hmem, List.mem_cons]
      simp
    | .ok (some form) =>
      simp only [collect] at h
      cases hrest : collect forms with
      | error fault =>
        rw [hrest] at h
        cases h
      | ok rest =>
        rw [hrest] at h
        cases h
        obtain ⟨hall, hmem⟩ := ih hrest
        refine ⟨List.forall_mem_cons.mpr ⟨⟨some form, rfl⟩, hall⟩, fun other json => ?_⟩
        rw [List.mem_cons, List.mem_cons, hmem]
        simp

/-- A mapping whose fields have forms is a record. -/
theorem record_of_textFields? {room : Nat} {path : Text} {entries : List (Value × Value)}
    (h : textFields? (formEntries room path entries) = some forms) :
    ∃ fields : List (Text × Value), entries = fields.map fun field => (.text field.1, field.2) := by
  induction entries generalizing forms with
  | nil => exact ⟨[], rfl⟩
  | cons entry entries ih =>
    obtain ⟨key, value⟩ := entry
    match key with
    | .text name =>
      obtain ⟨rest, hrest, -⟩ := Option.map_eq_some_iff.mp h
      obtain ⟨fields, rfl⟩ := ih hrest
      exact ⟨(name, value) :: fields, rfl⟩

end Collect

/-- An entry of a mapping has a value, with a form of its own at the top level. -/
def Shows (levels : Nat) (entries : List (Value × Value)) (name : Text) (json : Json) : Prop :=
  ∃ value, (.text name, value) ∈ entries ∧ value ≠ .null ∧
    form levels name value = .ok (some json)

/-- The fields of a payload are its entries that have a value. -/
theorem fields_eq_ok {levels : Nat} {entries : List (Value × Value)} {own : List (Text × Json)}
    (hkeys : (entries.map Prod.fst).Nodup) (h : fields levels (.dict entries) = .ok own) :
    (own.map Prod.fst).Nodup ∧
      (∀ key value, (key, value) ∈ entries → value ≠ .null →
        ∃ name json, key = .text name ∧ form levels name value = .ok (some json)) ∧
      ∀ name json, (name, json) ∈ own ↔ Shows levels entries name json := by
  change assemble [] (formEntries levels [] entries) = .ok own at h
  cases htexts : textFields? (formEntries levels [] entries) with
  | none =>
    unfold assemble at h
    rw [htexts] at h
    cases h
  | some forms =>
    obtain ⟨named, rfl⟩ := record_of_textFields? htexts
    rw [formEntries_map, assemble_map] at h
    obtain ⟨hall, hmem⟩ := collect_eq_ok h
    have hnames : (named.map Prod.fst).Nodup := by
      refine List.Nodup.of_map Value.text ?_
      simpa [Function.comp_def] using hkeys
    refine ⟨?distinct, ?formed, ?shown⟩
    case distinct =>
      refine List.Nodup.sublist (collect_sublist h) ?_
      rw [((sortFields_perm _).map Prod.fst).nodup_iff]
      simpa [Function.comp_def] using hnames
    case formed =>
      intro key value hentry hvalue
      obtain ⟨field, hfield, heq⟩ := List.mem_map.mp hentry
      cases heq
      have hsorted := (sortFields_perm _).mem_iff.mpr (List.mem_map_of_mem
        (f := fun field => (field.1, form levels (entryPath [] (.text field.1)) field.2)) hfield)
      obtain ⟨result, hresult⟩ := hall _ hsorted
      cases result with
      | none => exact absurd (form_eq_none_iff.mp hresult) hvalue
      | some json => exact ⟨field.1, json, rfl, hresult⟩
    case shown =>
      intro name json
      rw [hmem, (sortFields_perm _).mem_iff, List.mem_map]
      constructor
      · rintro ⟨⟨_, value⟩, hfield, heq⟩
        obtain ⟨rfl, hform⟩ := Prod.mk.inj heq
        refine ⟨value, List.mem_map.mpr ⟨_, hfield, rfl⟩, ?_, hform⟩
        rintro rfl
        cases hform
      · rintro ⟨value, hentry, -, hform⟩
        obtain ⟨field, hfield, heq⟩ := List.mem_map.mp hentry
        cases heq
        exact ⟨field, hfield, Prod.ext rfl hform⟩

/-! ## The version among the fields -/

section WithVersion

variable {found : List (Text × Json)}

theorem nodup_withVersion (h : (found.map Prod.fst).Nodup) :
    ((withVersion found).map Prod.fst).Nodup := by
  by_cases hown : versionName ∈ found.map Prod.fst
  · have hany : found.any (·.1 == versionName) = true := by simpa using hown
    unfold withVersion
    rwa [if_pos hany]
  · have hany : ¬ found.any (·.1 == versionName) = true := by simpa using hown
    unfold withVersion
    rw [if_neg hany, ((sortFields_perm _).map Prod.fst).nodup_iff]
    exact List.nodup_cons.mpr ⟨hown, h⟩

/-- The version is added where no field has its name. -/
theorem mem_withVersion (member : Text × Json) :
    member ∈ withVersion found ↔
      member ∈ found ∨ member = (versionName, .int version) ∧ versionName ∉ found.map Prod.fst := by
  by_cases hown : versionName ∈ found.map Prod.fst
  · have hany : found.any (·.1 == versionName) = true := by simpa using hown
    unfold withVersion
    rw [if_pos hany]
    simp [hown]
  · have hany : ¬ found.any (·.1 == versionName) = true := by simpa using hown
    unfold withVersion
    rw [if_neg hany, (sortFields_perm _).mem_iff, List.mem_cons]
    tauto

theorem versionName_mem_withVersion (found : List (Text × Json)) :
    versionName ∈ (withVersion found).map Prod.fst := by
  rw [List.mem_map]
  by_cases hown : versionName ∈ found.map Prod.fst
  · obtain ⟨member, hmem, hname⟩ := List.mem_map.mp hown
    exact ⟨member, (mem_withVersion member).mpr (.inl hmem), hname⟩
  · exact ⟨_, (mem_withVersion _).mpr (.inr ⟨rfl, hown⟩), rfl⟩

end WithVersion

section Payload

variable {levels : Nat} {entries : List (Value × Value)} {own : List (Text × Json)}

/-- The name of the version is free exactly if no entry has a value under it. -/
theorem versionName_not_mem_iff (hkeys : (entries.map Prod.fst).Nodup)
    (h : fields levels (.dict entries) = .ok own) :
    versionName ∉ own.map Prod.fst ↔
      ∀ value, (.text versionName, value) ∈ entries → value = .null := by
  obtain ⟨-, hformed, hshown⟩ := fields_eq_ok hkeys h
  rw [← not_iff_not, not_not, List.mem_map]
  constructor
  · rintro ⟨⟨_, json⟩, hmem, rfl⟩ hnull
    obtain ⟨value, hentry, hvalue, -⟩ := (hshown _ json).mp hmem
    exact hvalue (hnull value hentry)
  · intro hsome
    simp only [not_forall, exists_prop] at hsome
    obtain ⟨value, hentry, hvalue⟩ := hsome
    obtain ⟨name, json, hname, hform⟩ := hformed _ value hentry hvalue
    cases hname
    exact ⟨(versionName, json), (hshown _ json).mpr ⟨value, hentry, hvalue, hform⟩, rfl⟩

/-- Only the version itself, as an entry, leaves the version as it is. -/
theorem shows_version_iff (hkeys : (entries.map Prod.fst).Nodup) :
    (Shows levels entries versionName (.int version) ∨
        ∀ value, (.text versionName, value) ∈ entries → value = .null) ↔
      ∀ value, (.text versionName, value) ∈ entries → value = .null ∨ value = .int version := by
  constructor
  · rintro (⟨value, hentry, -, hform⟩ | hnull) other hother
    · have hsame := List.inj_on_of_nodup_map hkeys hother hentry rfl
      exact .inr ((Prod.mk.inj hsame).2.trans (form_eq_int_iff.mp hform))
    · exact .inl (hnull other hother)
  · intro hintact
    by_cases hnull : ∀ value, (.text versionName, value) ∈ entries → value = .null
    · exact .inr hnull
    · simp only [not_forall, exists_prop] at hnull
      obtain ⟨value, hentry, hvalue⟩ := hnull
      have hint := (hintact value hentry).resolve_left hvalue
      exact .inl ⟨value, hentry, hvalue, form_eq_int_iff.mpr hint⟩

end Payload

/-- A canonical text has one field for each entry of its payload that has a value, and one for the
version. An entry under the name of the version takes its place, so the version stands there exactly if
every such entry has no value or is the version itself. That is so for whatever room there is and
whatever limit on digits. -/
theorem version_of_text {levels : Nat} {digits : Option Nat} {entries : List (Value × Value)}
    {t : Text} (hkeys : (entries.map Prod.fst).Nodup)
    (htext : text (.dict entries) levels digits = .ok t) :
    ∃ found, members levels (.dict entries) = .ok found ∧ t = (Json.object found).write .compactAscii ∧
      (found.map Prod.fst).Nodup ∧ versionName ∈ found.map Prod.fst ∧
      (∀ key value, (key, value) ∈ entries → value ≠ .null →
        ∃ name json, key = .text name ∧ form levels name value = .ok (some json)) ∧
      (∀ name json, name ≠ versionName → ((name, json) ∈ found ↔ Shows levels entries name json)) ∧
      (∀ json, (versionName, json) ∈ found ↔ Shows levels entries versionName json ∨
        json = .int version ∧ ∀ value, (.text versionName, value) ∈ entries → value = .null) ∧
      ((versionName, .int version) ∈ found ↔
        ∀ value, (.text versionName, value) ∈ entries → value = .null ∨ value = .int version) := by
  obtain ⟨own, hfields, rfl⟩ := text_eq_ok htext
  obtain ⟨hdistinct, hformed, hshown⟩ := fields_eq_ok hkeys hfields
  have hfound : members levels (.dict entries) = .ok (withVersion own) := by
    unfold members
    rw [hfields]
    rfl
  have hversion : ∀ json, (versionName, json) ∈ withVersion own ↔
      Shows levels entries versionName json ∨
        json = .int version ∧ ∀ value, (.text versionName, value) ∈ entries → value = .null := by
    intro json
    rw [mem_withVersion, hshown, versionName_not_mem_iff hkeys hfields, Prod.mk.injEq]
    simp
  refine ⟨_, hfound, rfl, nodup_withVersion hdistinct, versionName_mem_withVersion own, hformed,
    ?others, hversion, ?intact⟩
  case others =>
    intro name json hname
    rw [mem_withVersion, hshown, Prod.mk.injEq]
    simp [hname]
  case intact =>
    rw [hversion, ← @shows_version_iff levels entries hkeys]
    simp

/-- A payload with an entry under the name of the version, one without a value and one more. -/
def imitation : List (Text × Value) := [(versionName, .int 2), ("a", .null), ("b", .text "x")]

theorem fields_imitation (levels : Nat) :
    fields levels (.record imitation) = .ok [(versionName, .int 2), ("b", .text "x")] := by
  rw [fields_record levels (by decide)]
  rfl

theorem version_of_text_imitation :
    ((imitation.map fun field => (Value.text field.1, field.2)).map Prod.fst).Nodup ∧
      text (.record imitation)
        = .ok ((Json.object [(versionName, .int 2), ("b", .text "x")]).write .compactAscii) ∧
      ∃ found, members usualLevels (.record imitation) = .ok found ∧ (versionName, .int version) ∉ found ∧
        (found.map Prod.fst).Nodup := by
  have hkeys : ((imitation.map fun field => (Value.text field.1, field.2)).map Prod.fst).Nodup := by
    have hnames : (imitation.map Prod.fst).Nodup := by decide
    simpa [Function.comp_def] using hnames.map (f := Value.text) fun s t h => Value.text.inj h
  have htext : text (.record imitation)
      = .ok ((Json.object [(versionName, .int 2), ("b", .text "x")]).write .compactAscii) := by
    unfold text
    rw [fields_imitation]
    rfl
  refine ⟨hkeys, htext, ?_⟩
  obtain ⟨found, hfound, -, hdistinct, -, -, -, -, hintact⟩ := version_of_text hkeys htext
  refine ⟨found, hfound, fun hmem => ?_, hdistinct⟩
  have hentry := hintact.mp hmem (.int 2) List.mem_cons_self
  obtain hnull | hversion := hentry
  · cases hnull
  · cases hversion

/-- A payload can have another version written than the one its text is made by. -/
theorem not_version_of_text :
    ¬ ∀ (entries : List (Value × Value)) (found : List (Text × Json)),
      (entries.map Prod.fst).Nodup → members usualLevels (.dict entries) = .ok found →
        found.filter (fun member => member.1 == versionName) = [(versionName, .int version)] := by
  intro hclaim
  have hfields : members usualLevels (.record [(versionName, .int 2)])
      = .ok [(versionName, .int 2)] := by
    unfold members
    rw [fields_record usualLevels (by decide)]
    rfl
  have hfound := hclaim [(.text versionName, .int 2)] _ (by simp) hfields
  simp [version] at hfound

end SignedBlog.Canonical
