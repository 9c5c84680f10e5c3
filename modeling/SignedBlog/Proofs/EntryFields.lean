import Mathlib.Data.List.Induction
import Mathlib.Data.List.Nodup
import SignedBlog.Log.Line

/-!
The fields of a log entry.

A log takes an entry if its fields can be merged into the record that is made of it: `Log.Accepts`. The
fields it then has are told apart by their names, and none has a name that every record has
(`Log.sound_allFields`). Its line is written from `Log.columns`, in which the last of a name counts
(`Json.mem_mergeFields`).
-/

namespace SignedBlog

set_option autoImplicit false

/-! ## Merging -/

namespace Entries

variable {α β : Type} [BEq α] [LawfulBEq α]

theorem mem_put {entries : List (α × β)} {entry other : α × β} :
    other ∈ put (· == ·) entries entry ↔ other ∈ entries ∧ other.1 ≠ entry.1 ∨ other = entry := by
  obtain ⟨key, value⟩ := entry
  unfold put
  by_cases hkey : key ∈ entries.map Prod.fst
  · rw [if_pos (by simpa using hkey), List.mem_map]
    constructor
    · rintro ⟨old, hold, rfl⟩
      by_cases hsame : old.1 = key
      · simp [hsame]
      · simp [hsame, hold]
    · rintro (⟨hother, hne⟩ | rfl)
      · exact ⟨other, hother, by simp [hne]⟩
      · obtain ⟨old, hold, rfl⟩ := List.mem_map.mp hkey
        exact ⟨old, hold, by simp⟩
  · rw [if_neg (by simpa using hkey), List.mem_append, List.mem_singleton]
    refine or_congr_left ⟨fun hother => ⟨hother, ?_⟩, fun h => h.1⟩
    rintro rfl
    exact hkey (List.mem_map_of_mem hother)

theorem nodup_put {entries : List (α × β)} (h : (entries.map Prod.fst).Nodup) (entry : α × β) :
    ((put (· == ·) entries entry).map Prod.fst).Nodup := by
  unfold put
  by_cases hkey : entry.1 ∈ entries.map Prod.fst
  · rw [if_pos (by simpa using hkey), List.map_map]
    have hsame : entries.map (Prod.fst ∘ fun old =>
        if old.1 == entry.1 then (old.1, entry.2) else old) = entries.map Prod.fst := by
      apply List.map_congr_left
      intro old _
      simp only [Function.comp_apply]
      split <;> rfl
    rw [hsame]
    exact h
  · rw [if_neg (by simpa using hkey), List.map_append, List.map_singleton, ← List.concat_eq_append]
    exact List.Nodup.concat hkey h

theorem nodup_merge (entries : List (α × β)) :
    ((merge (· == ·) entries).map Prod.fst).Nodup := by
  induction entries using List.reverseRecOn with
  | nil => exact .nil
  | append_singleton entries entry ih =>
    rw [merge_append_singleton]
    exact nodup_put ih entry

end Entries

namespace Json

variable {name : Text} {fields : List (Text × Json)}

theorem lastField?_concat (fields : List (Text × Json)) (field : Text × Json) :
    lastField? name (fields ++ [field])
      = if field.1 = name then some field.2 else lastField? name fields := by
  simp [lastField?]

theorem lastField?_append (fields others : List (Text × Json)) :
    lastField? name (fields ++ others) = (lastField? name others).or (lastField? name fields) := by
  induction others using List.reverseRecOn with
  | nil => simp [lastField?]
  | append_singleton others field ih =>
    rw [← List.append_assoc, lastField?_concat, lastField?_concat, ih]
    split <;> simp

theorem lastField?_eq_none (h : name ∉ fields.map Prod.fst) : lastField? name fields = none := by
  induction fields using List.reverseRecOn with
  | nil => rfl
  | append_singleton fields field ih =>
    rw [List.map_append, List.mem_append, not_or] at h
    have hne : field.1 ≠ name := by simpa using Ne.symm (by simpa using h.2)
    rw [lastField?_concat, if_neg hne, ih h.1]

/-- Where no name repeats, the last field of a name is the field of that name. -/
theorem lastField?_eq_some_iff (h : (fields.map Prod.fst).Nodup) {json : Json} :
    lastField? name fields = some json ↔ (name, json) ∈ fields := by
  induction fields using List.reverseRecOn with
  | nil => simp [lastField?]
  | append_singleton fields field ih =>
    obtain ⟨other, value⟩ := field
    rw [List.map_append, List.nodup_append] at h
    rw [lastField?_concat, List.mem_append, List.mem_singleton]
    by_cases hname : other = name
    · subst hname
      have hnew : (other, json) ∉ fields := fun hmem =>
        h.2.2 _ (List.mem_map_of_mem hmem) _ (by simp) rfl
      simp [hnew, eq_comm]
    · simp [hname, ih h.1, Ne.symm hname]

theorem nodup_mergeFields (fields : List (Text × Json)) :
    ((mergeFields fields).map Prod.fst).Nodup :=
  Entries.nodup_merge fields

/-- Of the fields of a name the last counts. -/
theorem mem_mergeFields {json : Json} :
    (name, json) ∈ mergeFields fields ↔ lastField? name fields = some json := by
  unfold mergeFields
  induction fields using List.reverseRecOn with
  | nil => simp [lastField?]
  | append_singleton fields field ih =>
    rw [Entries.merge_append_singleton, Entries.mem_put, ih, lastField?_concat]
    by_cases hname : field.1 = name
    · subst hname
      simp [Prod.ext_iff, eq_comm]
    · simp [hname, Ne.symm hname, Prod.ext_iff]

end Json

namespace Log

/-! ## Fields that are accepted -/

/-- Fields as a record may have them: told apart by their names, and beside what every record has. -/
structure Sound (fields : List Field) : Prop where
  distinct : fields.Pairwise fun a b => a.1.sameKey b.1 = false
  free : ∀ field ∈ fields, isReserved field.1 = false

theorem Sound.tail {field : Field} {fields : List Field} (h : Sound (field :: fields)) :
    Sound fields :=
  ⟨(List.pairwise_cons.mp h.distinct).2, (List.forall_mem_cons.mp h.free).2⟩

theorem Sound.collect {fields found : List Field} {named : List (Value × Except Fault Value)}
    (h : Sound fields) (hfound : Group.collect fields named = .ok found) : Sound found := by
  -- on the fields that are still to be merged: what was merged before stays sound
  induction named generalizing fields with
  | nil =>
    cases hfound
    exact h
  | cons first named ih =>
    obtain ⟨name, held⟩ := first
    cases held with
    | error fault =>
      simp only [Group.collect] at hfound
      split at hfound <;> cases hfound
    | ok value =>
      simp only [Group.collect] at hfound
      split at hfound
      · cases hfound
      next hallowed =>
      simp only [Bool.or_eq_true, List.any_eq_true, not_or, Bool.not_eq_true, not_exists,
        not_and] at hallowed
      refine ih ⟨?_, ?_⟩ hfound
      · rw [List.pairwise_append]
        refine ⟨h.distinct, List.pairwise_singleton _ _, fun field hfield other hother => ?_⟩
        rw [List.mem_singleton.mp hother]
        exact hallowed.2 field hfield
      · rw [List.forall_mem_append, List.forall_mem_singleton]
        exact ⟨h.free, hallowed.1⟩

theorem sound_allFields {entry : Entry} {fields : List Field} (h : entry.allFields = .ok fields) :
    Sound fields := by
  unfold Entry.allFields at h
  split at h
  · cases h
  split at h
  · cases h
  split at h
  · cases h
  unfold Group.fields at h
  split at h
  · cases h
  · exact Sound.collect ⟨.nil, List.forall_mem_nil _⟩ h

/-! ## Fields that are shown -/

theorem sameKey_text (s t : Text) : Value.sameKey (.text s) (.text t) = (s == t) := by
  simp [Value.sameKey, Value.sameScalar]

/-- Fields and those of them that are shown, as they are written. -/
inductive Shown : List Field → List (Text × Json) → Prop where
  | nil : Shown [] []
  | hidden {name : Text} {value : Value} {fields : List Field} {shown : List (Text × Json)} :
      isShown name = false → Shown fields shown → Shown ((.text name, value) :: fields) shown
  | shown {name : Text} {value : Value} {json : Json} {fields : List Field}
      {shown : List (Text × Json)} :
      isShown name = true → fieldJson value = .ok json → Shown fields shown →
        Shown ((.text name, value) :: fields) ((name, json) :: shown)

theorem shownFields_eq_ok_iff {fields : List Field} {shown : List (Text × Json)} :
    shownFields fields = .ok shown ↔ Shown fields shown := by
  constructor
  · intro h
    induction fields generalizing shown with
    | nil =>
      cases h
      exact .nil
    | cons field fields ih =>
      obtain ⟨key, value⟩ := field
      cases key with
      | text name =>
        simp only [shownFields] at h
        cases hname : isShown name with
        | false =>
          rw [hname, if_neg Bool.false_ne_true] at h
          exact .hidden hname (ih h)
        | true =>
          rw [hname, if_pos rfl] at h
          cases hvalue : fieldJson value <;> rw [hvalue] at h
          · cases h
          cases hrest : shownFields fields <;> rw [hrest] at h <;> cases h
          exact .shown hname hvalue (ih hrest)
      | _ => cases h
  · intro h
    induction h with
    | nil => rfl
    | hidden hname _ ih => simp [shownFields, hname, ih]
    | shown hname hvalue _ ih => simp [shownFields, hname, hvalue, ih, Except.map]

namespace Shown

variable {fields : List Field} {shown : List (Text × Json)}

theorem named (h : Shown fields shown) : ∀ field ∈ fields, ∃ name, field.1 = .text name := by
  induction h with
  | nil => simp
  | hidden _ _ ih | shown _ _ _ ih => exact List.forall_mem_cons.mpr ⟨⟨_, rfl⟩, ih⟩

theorem mem_iff (h : Shown fields shown) {name : Text} {json : Json} :
    (name, json) ∈ shown ↔
      isShown name = true ∧ ∃ value, (.text name, value) ∈ fields ∧ fieldJson value = .ok json := by
  induction h with
  | nil => simp
  | hidden hhidden _ ih =>
    rw [ih]
    refine and_congr_right fun hname => exists_congr fun value => and_congr_left fun _ => ?_
    refine ⟨List.mem_cons_of_mem _, fun hmem => ?_⟩
    obtain heq | hmem := List.mem_cons.mp hmem
    · cases heq
      rw [hname] at hhidden
      cases hhidden
    · exact hmem
  | shown hshown hvalue _ ih =>
    rw [List.mem_cons, ih]
    constructor
    · rintro (heq | ⟨hname, value, hmem, hjson⟩)
      · cases heq
        exact ⟨hshown, _, List.mem_cons_self, hvalue⟩
      · exact ⟨hname, value, List.mem_cons_of_mem _ hmem, hjson⟩
    · rintro ⟨hname, value, hmem, hjson⟩
      obtain heq | hmem := List.mem_cons.mp hmem
      · cases heq
        rw [hvalue] at hjson
        cases hjson
        exact .inl rfl
      · exact .inr ⟨hname, value, hmem, hjson⟩

/-- Every field that is shown can be written. -/
theorem exists_of_mem (h : Shown fields shown) {name : Text} {value : Value}
    (hname : isShown name = true) (hmem : (.text name, value) ∈ fields) :
    ∃ json, fieldJson value = .ok json := by
  induction h with
  | nil => cases hmem
  | hidden hhidden _ ih =>
    obtain heq | hmem := List.mem_cons.mp hmem
    · cases heq
      rw [hname] at hhidden
      cases hhidden
    · exact ih hmem
  | shown _ hvalue _ ih =>
    obtain heq | hmem := List.mem_cons.mp hmem
    · cases heq
      exact ⟨_, hvalue⟩
    · exact ih hmem

/-- No name is shown twice. -/
theorem nodup (h : Shown fields shown) (hsound : Sound fields) : (shown.map Prod.fst).Nodup := by
  induction h with
  | nil => exact .nil
  | hidden _ _ ih => exact ih hsound.tail
  | @shown name _ _ fields shown _ _ hrest ih =>
    refine List.nodup_cons.mpr ⟨fun hmem => ?_, ih hsound.tail⟩
    obtain ⟨⟨_, json⟩, hfield, rfl⟩ := List.mem_map.mp hmem
    obtain ⟨-, value, hvalue, -⟩ := hrest.mem_iff.mp hfield
    have hne := (List.pairwise_cons.mp hsound.distinct).1 _ hvalue
    simp [sameKey_text] at hne

end Shown

/-! ## The line of an entry -/

/-- A log takes an entry: nothing that is given with the entry itself is given once more, its level is
high enough, and the record that is made of it has these fields and this report. -/
structure Accepts (threshold : Level) (entry : Entry) (fields : List Field) (report : Option Text) :
    Prop where
  givenOnce : ∀ field ∈ entry.fields, Entry.givenNames.contains field.1 = false
  reaches : entry.level.reaches threshold = true
  merged : entry.allFields = .ok fields
  reported : entry.reported = .ok report

section Line

variable {threshold : Level} {moment : Moment} {entry : Entry}

theorem Accepts.line_eq {fields : List Field} {report : Option Text}
    (h : Accepts threshold entry fields report) (moment : Moment) :
    line .json threshold moment entry = (jsonLine moment entry report fields).map some := by
  have hnone : entry.fields.find? (fun field => Entry.givenNames.contains field.1) = none := by
    rw [List.find?_eq_none]
    intro field hfield
    rw [h.givenOnce field hfield]
    exact Bool.false_ne_true
  unfold line writtenLine
  simp only [hnone, h.reaches, h.merged, h.reported]
  rfl

theorem jsonLine_eq_ok_iff {fields : List Field} {report : Option Text} {t : Text} :
    jsonLine moment entry report fields = .ok t ↔
      ∃ shown, Shown fields shown ∧
        (Json.object (columns moment entry report shown)).depth ≤ Value.wireDepth ∧
        t = (Json.object (columns moment entry report shown)).write .spacedAscii := by
  unfold jsonLine writtenObject
  cases hshown : shownFields fields with
  | error fault =>
    constructor
    · intro h
      cases h
    · rintro ⟨shown, hfields, -⟩
      rw [shownFields_eq_ok_iff.mpr hfields] at hshown
      cases hshown
  | ok shown =>
    simp only
    constructor
    · intro h
      split at h
      · cases h
      next hdepth =>
      cases h
      exact ⟨shown, shownFields_eq_ok_iff.mp hshown, Nat.not_lt.mp hdepth, rfl⟩
    · rintro ⟨other, hother, hdepth, rfl⟩
      rw [shownFields_eq_ok_iff.mpr hother] at hshown
      cases hshown
      rw [if_neg (Nat.not_lt.mpr hdepth)]

/-- A line is written of an entry that the log takes, and of no other. -/
theorem accepts_of_line {t : Text} (h : line .json threshold moment entry = .ok (some t)) :
    ∃ fields report, Accepts threshold entry fields report ∧
      jsonLine moment entry report fields = .ok t := by
  unfold line at h
  split at h
  · cases h
  next hgiven =>
  split at h
  rotate_left
  · cases h
  next hreaches =>
  unfold writtenLine at h
  split at h
  · cases h
  next fields hmerged =>
  split at h
  · cases h
  next report hreported =>
  refine ⟨fields, report, ⟨?_, hreaches, hmerged, hreported⟩, ?_⟩
  · intro field hfield
    simpa using List.find?_eq_none.mp hgiven field hfield
  · simp only at h
    cases hline : jsonLine moment entry report fields <;> rw [hline] at h <;> cases h
    rfl

end Line

end Log

end SignedBlog
