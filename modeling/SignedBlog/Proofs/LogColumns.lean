import SignedBlog.Proofs.EntryFields

/-!
The columns of a log line that are not fields of the entry.

A line says when, at which level, by which logger and for which request its entry was made, and what the
message is. A field of the entry takes the place of such a column if it has the same name, for of these
names only the message's is reserved: `Log.columns_of_line`.
-/

namespace SignedBlog.Log

set_option autoImplicit false

section Columns

variable {moment : Moment} {entry : Entry}

theorem map_fst_headFields (moment : Moment) (entry : Entry) (report : Option Text) :
    (headFields moment entry report).map Prod.fst =
      ["timestamp", "level", "logger", "message"] ++
        ((if entry.requestId.isEmpty then [] else ["request_id"]) ++
          (if report.isNone then [] else ["exception"])) := by
  unfold headFields requestField
  cases entry.requestId.isEmpty <;> cases report <;> rfl

theorem nodup_headFields (moment : Moment) (entry : Entry) (report : Option Text) :
    ((headFields moment entry report).map Prod.fst).Nodup := by
  rw [map_fst_headFields]
  cases entry.requestId.isEmpty <;> cases report.isNone <;> decide

/-- What a line says before the fields stays where no field that is shown has the name. -/
theorem mem_columns {report : Option Text} {shown : List (Text × Json)} {name : Text} {json : Json}
    (h : (shown.map Prod.fst).Nodup) :
    (name, json) ∈ columns moment entry report shown ↔
      (name, json) ∈ shown ∨
        (name, json) ∈ headFields moment entry report ∧ name ∉ shown.map Prod.fst := by
  unfold columns
  rw [Json.mem_mergeFields, Json.lastField?_append]
  by_cases hname : name ∈ shown.map Prod.fst
  · obtain ⟨⟨_, value⟩, hmem, rfl⟩ := List.mem_map.mp hname
    have hlast := (Json.lastField?_eq_some_iff h).mpr hmem
    rw [hlast, ← Json.lastField?_eq_some_iff h, hlast]
    simp [hname]
  · have hnone : (name, json) ∉ shown := fun hmem => hname (List.mem_map_of_mem hmem)
    rw [Json.lastField?_eq_none hname, Option.none_or,
      Json.lastField?_eq_some_iff (nodup_headFields moment entry report)]
    simp [hname, hnone]

/-- What a line says of its entry, each under its name; the request only if there is one. -/
def ownColumns (moment : Moment) (entry : Entry) : List (Text × Option Json) :=
  [("timestamp", some (.text moment.iso)), ("level", some (.text entry.level.name)),
   ("logger", some (.text entry.logger)), ("message", some (.text entry.message)),
   ("request_id", if entry.requestId.isEmpty then none else some (.text entry.requestId))]

/-- A column stands among the members of an object: its value does and no other, or none does. -/
def Carries (members : List (Text × Json)) (column : Text × Option Json) : Prop :=
  ∀ json, (column.1, json) ∈ members ↔ column.2 = some json

theorem isShown_ownColumns : ∀ column ∈ ownColumns moment entry, isShown column.1 = true := by
  simp only [ownColumns, List.forall_mem_cons]
  refine ⟨by decide, by decide, by decide, by decide, by decide, List.forall_mem_nil _⟩

theorem carries_headFields (report : Option Text) :
    ∀ column ∈ ownColumns moment entry, Carries (headFields moment entry report) column := by
  intro column hcolumn json
  rw [← Json.lastField?_eq_some_iff (nodup_headFields moment entry report)]
  suffices hlast : Json.lastField? column.1 (headFields moment entry report) = column.2 by
    rw [hlast]
  revert column
  simp only [ownColumns, List.forall_mem_cons]
  unfold headFields requestField
  cases entry.requestId.isEmpty <;> cases report <;>
    exact ⟨rfl, rfl, rfl, rfl, rfl, List.forall_mem_nil _⟩

section Line

variable {fields : List Field} {shown : List (Text × Json)}

/-- A name that is shown is free exactly if no field has it. -/
theorem Shown.not_mem_iff (h : Shown fields shown) {name : Text} (hname : isShown name = true) :
    name ∉ shown.map Prod.fst ↔ ∀ value, (.text name, value) ∉ fields := by
  rw [← not_iff_not, not_not, List.mem_map]
  constructor
  · rintro ⟨⟨_, json⟩, hmem, rfl⟩ hnone
    obtain ⟨-, value, hvalue, -⟩ := h.mem_iff.mp hmem
    exact hnone value hvalue
  · intro hsome
    simp only [not_forall, not_not] at hsome
    obtain ⟨value, hvalue⟩ := hsome
    obtain ⟨json, hjson⟩ := h.exists_of_mem hname hvalue
    exact ⟨(name, json), h.mem_iff.mpr ⟨hname, value, hvalue, hjson⟩, rfl⟩

theorem mem_columns_of_own (h : Shown fields shown) (hsound : Sound fields) (report : Option Text) :
    ∀ column ∈ ownColumns moment entry, ∀ json,
      (column.1, json) ∈ columns moment entry report shown ↔
        (∃ value, (.text column.1, value) ∈ fields ∧ fieldJson value = .ok json) ∨
          column.2 = some json ∧ ∀ value, (.text column.1, value) ∉ fields := by
  intro column hcolumn json
  have hname := isShown_ownColumns column hcolumn
  rw [mem_columns (h.nodup hsound), h.mem_iff, h.not_mem_iff hname,
    carries_headFields report column hcolumn json]
  simp [hname]

theorem carries_columns_iff (h : Shown fields shown) (hsound : Sound fields) (report : Option Text) :
    ∀ column ∈ ownColumns moment entry, Carries (columns moment entry report shown) column ↔
      ∀ value, (.text column.1, value) ∈ fields →
        ∃ json, fieldJson value = .ok json ∧ column.2 = some json := by
  intro column hcolumn
  have hmem := mem_columns_of_own h hsound report column hcolumn
  constructor
  · intro hcarries value hvalue
    obtain ⟨json, hjson⟩ := h.exists_of_mem (isShown_ownColumns column hcolumn) hvalue
    exact ⟨json, hjson, (hcarries json).mp ((hmem json).mpr (.inl ⟨value, hvalue, hjson⟩))⟩
  · intro hsame json
    rw [hmem]
    constructor
    · rintro (⟨value, hvalue, hjson⟩ | ⟨hown, -⟩)
      · obtain ⟨other, hother, hown⟩ := hsame value hvalue
        rw [hjson] at hother
        cases hother
        exact hown
      · exact hown
    · intro hown
      by_cases hnone : ∀ value, (.text column.1, value) ∉ fields
      · exact .inr ⟨hown, hnone⟩
      · simp only [not_forall, not_not] at hnone
        obtain ⟨value, hvalue⟩ := hnone
        obtain ⟨other, hother, hown'⟩ := hsame value hvalue
        rw [hown] at hown'
        cases hown'
        exact .inl ⟨value, hvalue, hother⟩

theorem carries_message (h : Shown fields shown) (hsound : Sound fields) (report : Option Text) :
    Carries (columns moment entry report shown) ("message", some (.text entry.message)) := by
  rw [carries_columns_iff h hsound report _ (by simp [ownColumns])]
  intro value hvalue
  have hfree : isReserved (.text "message") = false := hsound.free _ hvalue
  have hreserved : isReserved (.text "message") = true := by decide
  rw [hreserved] at hfree
  cases hfree

end Line

/-- A line carries a column of its own exactly if no field of the entry has the name, or a field of
that name says the same. Only the message is never replaced. -/
theorem columns_of_line {threshold : Level} {t : Text}
    (h : line .json threshold moment entry = .ok (some t)) :
    ∃ fields members, entry.allFields = .ok fields ∧
      t = (Json.object members).write .spacedAscii ∧ (members.map Prod.fst).Nodup ∧
      (∀ column ∈ ownColumns moment entry, ∀ json, (column.1, json) ∈ members ↔
        (∃ value, (.text column.1, value) ∈ fields ∧ fieldJson value = .ok json) ∨
          column.2 = some json ∧ ∀ value, (.text column.1, value) ∉ fields) ∧
      (∀ column ∈ ownColumns moment entry, Carries members column ↔
        ∀ value, (.text column.1, value) ∈ fields →
          ∃ json, fieldJson value = .ok json ∧ column.2 = some json) ∧
      Carries members ("message", some (.text entry.message)) := by
  obtain ⟨fields, report, haccepts, hline⟩ := accepts_of_line h
  obtain ⟨shown, hshown, -, rfl⟩ := jsonLine_eq_ok_iff.mp hline
  have hsound := sound_allFields haccepts.merged
  exact ⟨fields, columns moment entry report shown, haccepts.merged, rfl, Json.nodup_mergeFields _,
    mem_columns_of_own hshown hsound report, carries_columns_iff hshown hsound report,
    carries_message hshown hsound report⟩

end Columns

/-- An entry outside of any request, with fields under the names of the level and of the request. -/
def disguised : Entry where
  logger := "l"
  level := .info
  message := "m"
  extra := some [("level", .text "FAKE")]
  fields := [("request_id", .text "forged")]
  requestId := []
  incident := none

/-- The members of the line of the entry. -/
def disguisedMembers (moment : Moment) : List (Text × Json) :=
  [("timestamp", .text moment.iso), ("level", .text "FAKE"), ("logger", .text "l"),
   ("message", .text "m"), ("request_id", .text "forged")]

theorem line_disguised (moment : Moment) :
    line .json .debug moment disguised
      = .ok (some ((Json.object (disguisedMembers moment)).write .spacedAscii)) :=
  rfl

theorem columns_of_line_disguised :
    line .json .debug ⟨"now", "now"⟩ disguised
        = .ok (some ((Json.object (disguisedMembers ⟨"now", "now"⟩)).write .spacedAscii)) ∧
      ∃ members, ¬ Carries members ("level", some (.text "INFO")) ∧
        ¬ Carries members ("request_id", none) ∧ Carries members ("message", some (.text "m")) := by
  have hline := line_disguised ⟨"now", "now"⟩
  refine ⟨hline, ?_⟩
  obtain ⟨fields, members, hfields, -, -, -, hreplaced, hmessage⟩ := columns_of_line hline
  have hgiven : fields
      = [(.text "level", .text "FAKE"), (.text "request_id", .text "forged")] := by
    cases hfields
    rfl
  refine ⟨members, fun hlevel => ?_, fun hrequest => ?_, hmessage⟩
  · obtain ⟨json, hjson, hown⟩ := (hreplaced ("level", some (.text "INFO"))
      (.tail _ (.head _))).mp hlevel (.text "FAKE") (by simp [hgiven])
    cases hjson
    have hsame : ("INFO" : Text) = "FAKE" := Json.text.inj (Option.some.inj hown)
    revert hsame
    decide
  · obtain ⟨json, -, hown⟩ := (hreplaced ("request_id", none)
      (.tail _ (.tail _ (.tail _ (.tail _ (.head _)))))).mp hrequest (.text "forged") (by simp [hgiven])
    cases hown

/-- Fields can have a line say another level than that of its entry, and a request where there is none. -/
theorem not_columns_of_line :
    ¬ ∀ (threshold : Level) (moment : Moment) (entry : Entry) (members : List (Text × Json)),
      line .json threshold moment entry = .ok (some ((Json.object members).write .spacedAscii)) →
        ∀ column ∈ ownColumns moment entry, Carries members column := by
  intro hclaim
  have hcarries := hclaim .debug ⟨"now", "now"⟩ disguised _ (line_disguised _)
    ("request_id", none) (.tail _ (.tail _ (.tail _ (.tail _ (.head _)))))
  have hmem := (hcarries (.text "forged")).mp (by simp [disguisedMembers])
  cases hmem

end SignedBlog.Log
