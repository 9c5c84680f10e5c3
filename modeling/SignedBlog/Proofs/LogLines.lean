import SignedBlog.Proofs.Digits
import SignedBlog.Proofs.JsonAscii
import SignedBlog.Proofs.JsonReading
import SignedBlog.Proofs.LogColumns

/-!
The line of a log entry, read by others.

Whatever texts an entry is made of, its line is printable ASCII and holds one object of standard JSON, in
which each field that is shown has its value, or the literal of its value if that has no JSON:
`Log.line_of_accepts`. The names of fields have to be texts, and integers may not be too long; of other
entries there may be no line (`Log.not_line_of_accepts`).
-/

namespace SignedBlog

set_option autoImplicit false

/-! ## Values that are not too deep -/

namespace Value

/-- A result that stays within a depth, or a fault other than that it is too deep. -/
def Within {α : Type} (depth : α → Nat) (bound : Nat) : Except Fault α → Prop
  | .ok a => depth a ≤ bound
  | .error fault => fault ≠ .tooDeep

theorem Within.map {α β : Type} {depth : α → Nat} {depth' : β → Nat} {bound bound' : Nat}
    {result : Except Fault α} (h : Within depth bound result) {f : α → β}
    (hf : ∀ a, depth a ≤ bound → depth' (f a) ≤ bound') : Within depth' bound' (result.map f) := by
  cases result with
  | error fault => exact h
  | ok a => exact hf a h

section Wire

variable {rules : WireRules}

theorem wireInt_cases (n : Int) :
    wireInt rules n = .ok n ∨ wireInt rules n = .error (.setting .longInteger) := by
  cases hfits : Integer.fits rules.digits n with
  | true => exact .inl (wireInt_of_fits hfits)
  | false => exact .inr (wireInt_of_long hfits)

theorem wireName_ne_tooDeep (key : Value) : wireName rules key ≠ .error .tooDeep := by
  cases key with
  | bool b => cases b <;> simp [wireName]
  | int n =>
    obtain hint | hint := @wireInt_cases rules n <;> simp [wireName, hint, Except.map]
  | float x =>
    simp only [wireName, wireFloat]
    split <;> simp [Except.map]
  | _ => simp [wireName]

theorem wireBytes_within (value : Value) (bound : Nat) :
    Within Json.depth bound (wireBytes rules value) := by
  unfold wireBytes
  split
  · cases value <;> first | exact Nat.zero_le _ | exact nofun
  · exact nofun

mutual

/-- With room for the value there is no fault for its depth, and its JSON is no deeper. -/
theorem wire_within {room : Nat} (value : Value) (h : value.depth ≤ room) :
    Within Json.depth value.depth (wire rules room value) := by
  match value with
  | .null | .bool _ | .text _ => exact Nat.zero_le _
  | .int n =>
    obtain hint | hint := @wireInt_cases rules n
    · rw [wire, hint]
      exact Nat.zero_le _
    · rw [wire, hint]
      exact nofun
  | .float x =>
    unfold wire wireFloat
    split
    · exact nofun
    · exact Nat.zero_le _
  | .bytes bs | .buffer bs => exact wireBytes_within _ _
  | .set _ => exact nofun
  | .list items | .tuple items =>
    rw [depth] at h
    obtain ⟨room, rfl⟩ : ∃ n, room = n + 1 := ⟨room - 1, by omega⟩
    have hitems := wireItems_within items (Nat.le_of_succ_le_succ h)
    exact hitems.map fun _ => Nat.succ_le_succ
  | .dict entries =>
    rw [depth] at h
    obtain ⟨room, rfl⟩ : ∃ n, room = n + 1 := ⟨room - 1, by omega⟩
    have hentries := wireEntries_within entries (Nat.le_of_succ_le_succ h)
    exact hentries.map fun _ => Nat.succ_le_succ

theorem wireItems_within {room : Nat} (items : List Value) (h : depthItems items ≤ room) :
    Within Json.depthItems (depthItems items) (wireItems rules room items) := by
  match items with
  | [] => exact Nat.zero_le _
  | item :: items =>
    rw [depthItems] at h
    obtain ⟨hitem, hitems⟩ := Nat.max_le.mp h
    have hfirst := wire_within item hitem
    have hrest := wireItems_within items hitems
    rw [wireItems, depthItems]
    cases hwire : wire rules room item with
    | error fault =>
      rw [hwire] at hfirst
      exact hfirst
    | ok first =>
      cases hmore : wireItems rules room items with
      | error fault =>
        rw [hmore] at hrest
        exact hrest
      | ok rest =>
        rw [hwire] at hfirst
        rw [hmore] at hrest
        exact max_le_max hfirst hrest

theorem wireEntries_within {room : Nat} (entries : List (Value × Value))
    (h : depthEntries entries ≤ room) :
    Within Json.depthFields (depthEntries entries) (wireEntries rules room entries) := by
  match entries with
  | [] => exact Nat.zero_le _
  | (key, value) :: entries =>
    rw [depthEntries] at h
    have hvalue : value.depth ≤ room := by omega
    have hentries : depthEntries entries ≤ room := by omega
    have hfirst := wire_within value hvalue
    have hrest := wireEntries_within entries hentries
    have hname := @wireName_ne_tooDeep rules key
    rw [wireEntries, depthEntries]
    cases hkey : wireName rules key with
    | error fault =>
      rw [hkey] at hname
      exact fun hdeep => hname (congrArg Except.error hdeep)
    | ok name =>
      cases hwire : wire rules room value with
      | error fault =>
        rw [hwire] at hfirst
        exact hfirst
      | ok first =>
        cases hmore : wireEntries rules room entries with
        | error fault =>
          rw [hmore] at hrest
          exact hrest
        | ok rest =>
          rw [hwire] at hfirst
          rw [hmore] at hrest
          exact max_le_max (Nat.le_trans hfirst (Nat.le_max_right _ _)) hrest

end

end Wire

mutual

/-- With room for the value and no integer that is too long, its literal can be written. -/
theorem literalFault?_eq_none {room : Nat} (value : Value) (hdepth : value.depth ≤ room)
    (hfits : value.fits Integer.usualLimit = true) : literalFault? room value = none := by
  match value with
  | .null | .bool _ | .float _ | .text _ | .bytes _ | .buffer _ => rfl
  | .int n => exact if_pos hfits
  | .list items | .tuple items | .set items =>
    rw [depth] at hdepth
    obtain ⟨room, rfl⟩ : ∃ n, room = n + 1 := ⟨room - 1, by omega⟩
    exact itemsFault?_eq_none items (Nat.le_of_succ_le_succ hdepth) hfits
  | .dict entries =>
    rw [depth] at hdepth
    obtain ⟨room, rfl⟩ : ∃ n, room = n + 1 := ⟨room - 1, by omega⟩
    exact entriesFault?_eq_none entries (Nat.le_of_succ_le_succ hdepth) hfits

theorem itemsFault?_eq_none {room : Nat} (items : List Value) (hdepth : depthItems items ≤ room)
    (hfits : fitsItems Integer.usualLimit items = true) : itemsFault? room items = none := by
  match items with
  | [] => rfl
  | item :: items =>
    obtain ⟨hitem, hitems⟩ := Nat.max_le.mp hdepth
    obtain ⟨hfirst, hrest⟩ := Bool.and_eq_true_iff.mp hfits
    rw [itemsFault?, literalFault?_eq_none item hitem hfirst,
      itemsFault?_eq_none items hitems hrest]
    rfl

theorem entriesFault?_eq_none {room : Nat} (entries : List (Value × Value))
    (hdepth : depthEntries entries ≤ room)
    (hfits : fitsEntries Integer.usualLimit entries = true) : entriesFault? room entries = none := by
  match entries with
  | [] => rfl
  | (key, value) :: entries =>
    obtain ⟨hentry, hentries⟩ := Nat.max_le.mp hdepth
    obtain ⟨hkey, hvalue⟩ := Nat.max_le.mp hentry
    obtain ⟨hfirst, hrest⟩ := Bool.and_eq_true_iff.mp hfits
    obtain ⟨hname, hheld⟩ := Bool.and_eq_true_iff.mp hfirst
    rw [entriesFault?, literalFault?_eq_none key hkey hname, literalFault?_eq_none value hvalue hheld,
      entriesFault?_eq_none entries hentries hrest]
    rfl

end

/-- What a line shows of a value: its JSON, or its literal if it has none. -/
def logForm (value : Value) : Json :=
  match value.toPlain with
  | .ok json => json
  | .error _ => .text value.literal

/-- A value that a line can show: with the line around it, it is not nested more deeply than is written,
no integer in it has too many digits, and its JSON, if it has one, has only finite numbers. -/
structure Showable (value : Value) : Prop where
  depth : value.depth < wireDepth
  fits : value.fits Integer.usualLimit = true
  finite : ∀ json, value.toPlain = .ok json → json.isFinite = true

section Form

variable {value : Value}

theorem Showable.fieldJson_eq (h : value.Showable) : Log.fieldJson value = .ok value.logForm := by
  have hwithin : Within Json.depth value.depth value.toPlain := wire_within value h.depth.le
  unfold Log.fieldJson logForm
  cases hplain : value.toPlain with
  | ok json => rfl
  | error fault =>
    rw [hplain] at hwithin
    have hdisplay : value.display = .ok value.literal := by
      have hwritten : value.writtenLiteral = .ok value.literal := by
        unfold writtenLiteral
        rw [@literalFault?_eq_none literalDepth value h.depth.le h.fits]
      cases value with
      | text t => cases hplain
      | _ => exact hwritten
    cases fault with
    | tooDeep => exact absurd rfl hwithin
    | _ => simp [hdisplay, Except.map]

theorem Showable.depth_logForm (h : value.Showable) : value.logForm.depth < wireDepth := by
  have hwithin : Within Json.depth value.depth value.toPlain := wire_within value h.depth.le
  unfold logForm
  cases hplain : value.toPlain with
  | ok json =>
    rw [hplain] at hwithin
    exact Nat.lt_of_le_of_lt hwithin h.depth
  | error fault => exact (by decide : 0 < wireDepth)

theorem Showable.isFinite_logForm (h : value.Showable) : value.logForm.isFinite = true := by
  unfold logForm
  cases hplain : value.toPlain with
  | ok json => exact h.finite json hplain
  | error fault => rfl

end Form

end Value

namespace Json

/-- The fields of an object as they are read back. -/
def readBackFields (layout : Layout) (fields : List (Text × Json)) : List (Text × Json) :=
  fields.map fun field => (readBack layout.asciiOnly field.1, readBackAs layout field.2)

theorem readBackAs_object (layout : Layout) (fields : List (Text × Json)) :
    readBackAs layout (.object fields) = .object (readBackFields layout fields) := by
  change Json.object (mapTextsFields _ fields) = _
  congr 1
  induction fields with
  | nil => rfl
  | cons field fields ih => rw [mapTextsFields, ih, readBackFields, readBackFields, List.map_cons]

theorem map_fst_readBackFields (layout : Layout) {fields : List (Text × Json)}
    (h : ∀ field ∈ fields, field.1.Clean) :
    (readBackFields layout fields).map Prod.fst = fields.map Prod.fst := by
  rw [readBackFields, List.map_map]
  exact List.map_congr_left fun field hfield => readBack_of_clean (h field hfield) layout.asciiOnly

theorem depthFields_le {fields : List (Text × Json)} {bound : Nat} :
    depthFields fields ≤ bound ↔ ∀ field ∈ fields, field.2.depth ≤ bound := by
  induction fields with
  | nil => exact iff_of_true (Nat.zero_le _) (List.forall_mem_nil _)
  | cons field fields ih => rw [depthFields, Nat.max_le, ih, List.forall_mem_cons]

theorem separates_spacedAscii : Layout.spacedAscii.Separates := by
  have hblank : ∀ c ∈ [(' ' : CodePoint)], isSpace c = true := by decide
  exact ⟨⟨_, rfl, hblank⟩, ⟨_, rfl, hblank⟩⟩

end Json

namespace Log

/-! ## Lines -/

section Line

variable {moment : Moment} {entry : Entry} {report : Option Text} {fields : List Field}
  {shown : List (Text × Json)}

/-- Fields whose names are texts, and of which those that are shown have values that can be. -/
structure Legible (fields : List Field) : Prop where
  named : ∀ field ∈ fields, ∃ name, field.1 = .text name
  showable : ∀ name value, (.text name, value) ∈ fields → isShown name = true → value.Showable

theorem Legible.exists_shown (h : Legible fields) : ∃ shown, Shown fields shown := by
  induction fields with
  | nil => exact ⟨_, .nil⟩
  | cons field fields ih =>
    obtain ⟨key, value⟩ := field
    obtain ⟨⟨name, hkey⟩, hnamed⟩ := List.forall_mem_cons.mp h.named
    cases hkey
    obtain ⟨shown, hshown⟩ := ih ⟨hnamed, fun name value hmem =>
      h.showable name value (List.mem_cons_of_mem _ hmem)⟩
    cases hname : isShown name with
    | false => exact ⟨_, .hidden hname hshown⟩
    | true =>
      have hvalue := h.showable name value List.mem_cons_self hname
      exact ⟨_, .shown hname hvalue.fieldJson_eq hshown⟩

theorem exists_text_of_mem_headFields :
    ∀ field ∈ headFields moment entry report, ∃ t, field.2 = .text t := by
  unfold headFields requestField
  cases entry.requestId.isEmpty <;> cases report <;> simp [reportField]

/-- A column is a text, or what is shown of a field. -/
theorem column_cases (h : Shown fields shown) (hsound : Sound fields) (hlegible : Legible fields)
    {name : Text} {json : Json} (hmem : (name, json) ∈ columns moment entry report shown) :
    (∃ t, json = .text t) ∨ ∃ value : Value, value.Showable ∧ json = value.logForm := by
  obtain hshown | ⟨hhead, -⟩ := (mem_columns (h.nodup hsound)).mp hmem
  · right
    obtain ⟨hname, value, hvalue, hjson⟩ := h.mem_iff.mp hshown
    have hshowable := hlegible.showable name value hvalue hname
    rw [hshowable.fieldJson_eq] at hjson
    exact ⟨value, hshowable, (Except.ok.inj hjson).symm⟩
  · exact .inl (exists_text_of_mem_headFields _ hhead)

theorem depth_columns (h : Shown fields shown) (hsound : Sound fields) (hlegible : Legible fields) :
    (Json.object (columns moment entry report shown)).depth ≤ Value.wireDepth := by
  have hcolumns : Json.depthFields (columns moment entry report shown) ≤ Value.wireDepth - 1 := by
    rw [Json.depthFields_le]
    rintro ⟨name, json⟩ hmem
    obtain ⟨t, rfl⟩ | ⟨value, hvalue, rfl⟩ := column_cases h hsound hlegible hmem
    · exact Nat.zero_le _
    · exact Nat.le_sub_one_of_lt hvalue.depth_logForm
  exact Nat.succ_le_succ hcolumns

theorem isFinite_columns (h : Shown fields shown) (hsound : Sound fields)
    (hlegible : Legible fields) :
    (Json.object (columns moment entry report shown)).isFinite = true := by
  rw [Json.isFinite_object]
  rintro ⟨name, json⟩ hmem
  obtain ⟨t, rfl⟩ | ⟨value, hvalue, rfl⟩ := column_cases h hsound hlegible hmem
  · rfl
  · exact hvalue.isFinite_logForm

theorem clean_columns (h : Shown fields shown) (hsound : Sound fields)
    (hclean : ∀ name value, (.text name, value) ∈ fields → isShown name = true → name.Clean) :
    ∀ column ∈ columns moment entry report shown, column.1.Clean := by
  rintro ⟨name, json⟩ hmem
  obtain hshown | ⟨hhead, -⟩ := (mem_columns (h.nodup hsound)).mp hmem
  · obtain ⟨hname, value, hvalue, -⟩ := h.mem_iff.mp hshown
    exact hclean name value hvalue hname
  · have hnames : ∀ name ∈ (headFields moment entry report).map Prod.fst, Text.Clean name := by
      rw [map_fst_headFields]
      cases entry.requestId.isEmpty <;> cases report.isNone <;> decide
    exact hnames name (List.mem_map_of_mem hhead)

/-- The line of an entry that the log takes: printable ASCII, and so a single line, that holds one
object of standard JSON. Each field that is shown is a member, up to pairs of surrogates, which JSON
does not tell from the code point they stand for; without surrogates in names no two members have the
same name. -/
theorem line_of_accepts {threshold : Level} (haccepts : Accepts threshold entry fields report)
    (hlegible : Legible fields) (moment : Moment) :
    ∃ t members, line .json threshold moment entry = .ok (some t) ∧ t.PlainAscii ∧
      Json.readAll t = some (.object members) ∧ (Json.object members).isFinite = true ∧
      (∀ name value, (.text name, value) ∈ fields → isShown name = true →
        (Json.joinPairs name, value.logForm.readBackAs .spacedAscii) ∈ members) ∧
      ((∀ name value, (.text name, value) ∈ fields → isShown name = true → name.Clean) →
        (members.map Prod.fst).Nodup) := by
  have hsound := sound_allFields haccepts.merged
  obtain ⟨shown, hshown⟩ := hlegible.exists_shown
  have hfinite := @isFinite_columns moment entry report _ _ hshown hsound hlegible
  have hline : jsonLine moment entry report fields
      = .ok ((Json.object (columns moment entry report shown)).write .spacedAscii) :=
    jsonLine_eq_ok_iff.mpr ⟨shown, hshown, depth_columns hshown hsound hlegible, rfl⟩
  have hread := Json.readAll_written Json.separates_spacedAscii hfinite
  have hback := Json.isFinite_mapTexts (Json.readBack true)
    (.object (columns moment entry report shown))
  rw [Json.readBackAs_object] at hread
  refine ⟨_, _, ?line, Json.plainAscii_writeAt Json.plainAscii_spacedAscii 0 _, hread, ?finite,
    ?members, ?names⟩
  case line =>
    rw [haccepts.line_eq moment, hline]
    rfl
  case finite =>
    rw [← Json.readBackAs_object]
    exact hback.trans hfinite
  case members =>
    intro name value hmem hname
    have hvalue := (hlegible.showable name value hmem hname).fieldJson_eq
    have hcolumn : (name, value.logForm) ∈ columns moment entry report shown :=
      (mem_columns (hshown.nodup hsound)).mpr
        (.inl (hshown.mem_iff.mpr ⟨hname, value, hmem, hvalue⟩))
    exact List.mem_map_of_mem hcolumn
  case names =>
    intro hclean
    rw [Json.map_fst_readBackFields _ (clean_columns hshown hsound hclean)]
    exact Json.nodup_mergeFields _

end Line

/-- An entry that would break its line: with line ends and quotes in its texts, at a level without a
name, a number that has no short binary form, a surrogate, and bytes. -/
def hostile : Entry where
  logger := "l\r"
  level := ⟨25⟩
  message := "m\n\"\x7d\u2028"
  extra := some [("k\"\n", .list [.float ⟨0x3FB999999999999A⟩, .text [⟨0xD800, by decide⟩]])]
  fields := [("raw", .bytes [0, 255])]
  requestId := "\x00"
  incident := none

def hostileFields : List Field :=
  [(.text "k\"\n", .list [.float ⟨0x3FB999999999999A⟩, .text [⟨0xD800, by decide⟩]]),
   (.text "raw", .bytes [0, 255])]

theorem line_of_accepts_hostile :
    Accepts .debug hostile hostileFields none ∧ Legible hostileFields ∧
      ∃ t members, line .json .debug ⟨"now", "now"⟩ hostile = .ok (some t) ∧ t.PlainAscii ∧
        Json.readAll t = some (.object members) ∧
        (("k\"\n" : Text), Json.array [.float ⟨0x3FB999999999999A⟩, .text [⟨0xD800, by decide⟩]])
          ∈ members ∧
        (("raw" : Text), Json.text "b'\\x00\\xff'") ∈ members := by
  have haccepts : Accepts .debug hostile hostileFields none := by
    refine ⟨?_, rfl, rfl, rfl⟩
    decide
  have hlegible : Legible hostileFields := by
    constructor
    case named => simp [hostileFields]
    case showable =>
      intro name value hmem hname
      simp only [hostileFields, List.mem_cons, Prod.mk.injEq, List.not_mem_nil, or_false] at hmem
      obtain ⟨-, rfl⟩ | ⟨-, rfl⟩ := hmem
      · refine ⟨by decide, by decide, fun json hjson => ?_⟩
        cases hjson
        rfl
      · refine ⟨by decide, by decide, fun json hjson => ?_⟩
        cases hjson
  obtain ⟨t, members, hline, hascii, hread, -, hmembers, -⟩ :=
    line_of_accepts haccepts hlegible ⟨"now", "now"⟩
  refine ⟨haccepts, hlegible, t, members, hline, hascii, hread, ?_, ?_⟩
  · exact hmembers "k\"\n" _ List.mem_cons_self rfl
  · exact hmembers "raw" (.bytes [0, 255]) (List.mem_cons_of_mem _ List.mem_cons_self) rfl

/-- An entry that is given its fields as one group. -/
def grouped (group : List Field) : Entry where
  logger := "l"
  level := .info
  message := "m"
  extra := none
  fields := [("extra", .dict group)]
  requestId := []
  incident := none

def longFields : List Field := [(.text "n", .int (10 ^ Integer.digitLimit))]

def numberedFields : List Field := [(.int 1, .text "x")]

theorem accepts_longFields : Accepts .debug (grouped longFields) longFields none :=
  ⟨by decide, rfl, rfl, rfl⟩

theorem accepts_numberedFields : Accepts .debug (grouped numberedFields) numberedFields none :=
  ⟨by decide, rfl, rfl, rfl⟩

/-- An integer that is too long has no JSON and no literal. -/
theorem fieldJson_of_long {n : Int} (h : Integer.fits Integer.usualLimit n = false) :
    fieldJson (.int n) = .error (.setting .longInteger) := by
  have hplain : (Value.int n).toPlain = .error (.setting .longInteger) := by
    unfold Value.toPlain Value.wire
    rw [@Value.wireInt_of_long ⟨false, false, Integer.usualLimit⟩ n h]
    rfl
  have hliteral : Value.literalFault? Value.literalDepth (.int n)
      = some (.setting .longInteger) := if_neg (Bool.eq_false_iff.mp h)
  have hdisplay : (Value.int n).display = .error (.setting .longInteger) := by
    change (Value.int n).writtenLiteral = _
    unfold Value.writtenLiteral
    rw [hliteral]
  unfold fieldJson
  simp only [hplain, hdisplay]
  rfl

/-- A log takes entries of which there is no line: one with an integer that is too long, and one with a
number for a name. -/
theorem not_line_of_accepts :
    (Accepts .debug (grouped longFields) longFields none ∧
      line .json .debug ⟨"now", "now"⟩ (grouped longFields) = .error (.setting .longInteger)) ∧
    Accepts .debug (grouped numberedFields) numberedFields none ∧
      line .json .debug ⟨"now", "now"⟩ (grouped numberedFields)
        = .error (.entry (.nameNotText "int")) := by
  refine ⟨⟨accepts_longFields, ?_⟩, accepts_numberedFields, ?_⟩
  · have hfield := fieldJson_of_long (Integer.fits_power Integer.digitLimit)
    have hshown : shownFields longFields = .error (.setting .longInteger) := by
      unfold longFields shownFields
      rw [hfield]
      rfl
    rw [accepts_longFields.line_eq]
    unfold jsonLine
    rw [hshown]
    rfl
  · rw [accepts_numberedFields.line_eq]
    rfl

end Log

end SignedBlog
