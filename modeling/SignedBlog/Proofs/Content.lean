import SignedBlog.Post
import SignedBlog.Proofs.Digits

/-!
What the signature and the id of a post are taken over, written out.

The payloads of a post always have a canonical form, and a text as long as the integer in them may be
written. `Post.bytes_signedPayload` and `Post.bytes_bodyPayload` say which one, so that no later proof
has to open the canonical text.
-/

namespace SignedBlog

set_option autoImplicit false

/-- What is given once the digits of an integer are checked goes on to what follows. -/
theorem Integer.map_checkDigits_bind {α β : Type} (limit : Option Nat) (n : Int) (given : α)
    (next : α → Except Fault β) :
    ((checkDigits limit n).map fun () => given) >>= next
      = checkDigits limit n >>= fun () => next given := by
  cases checkDigits limit n <;> rfl

/-! ## Records in canonical form -/

namespace Canonical

/-- Names in rising order, no two of them the same. -/
def Rising (names : List Text) : Prop := names.Pairwise fun a b => Text.le a b = true ∧ a ≠ b

instance (names : List Text) : Decidable (Rising names) :=
  inferInstanceAs (Decidable (names.Pairwise _))

theorem textFields?_map {α : Type} (fields : List (Text × α)) :
    textFields? (fields.map fun field => (Value.text field.1, field.2)) = some fields := by
  induction fields with
  | nil => rfl
  | cons field fields ih => simp [textFields?, ih]

theorem formEntries_map (room : Nat) (path : Text) (fields : List (Text × Value)) :
    formEntries room path (fields.map fun field => (.text field.1, field.2))
      = (fields.map fun field =>
          (field.1, form room (entryPath path (.text field.1)) field.2)).map
        fun field => (Value.text field.1, field.2) := by
  induction fields with
  | nil => rfl
  | cons field fields ih => simp [formEntries, ih]

/-- Fields whose names rise already stay as they are. -/
theorem sortFields_of_rising {α : Type} {fields : List (Text × α)}
    (h : Rising (fields.map Prod.fst)) : sortFields fields = fields := by
  unfold sortFields
  apply List.mergeSort_of_pairwise
  exact (List.pairwise_map.mp h).imp fun hab => hab.1

theorem assemble_map (path : Text) (forms : List (Text × Except Fault (Option Json))) :
    assemble path (forms.map fun form => (Value.text form.1, form.2))
      = collect (sortFields forms) := by
  unfold assemble
  rw [textFields?_map]

/-- The form of a record whose names rise comes from the forms of its fields, one by one. -/
theorem form_record (room : Nat) (path : Text) {fields : List (Text × Value)}
    (h : Rising (fields.map Prod.fst)) :
    form (room + 1) path (.record fields)
      = (collect (fields.map fun field =>
          (field.1, form room (entryPath path (.text field.1)) field.2))).map
        fun fields => some (.object fields) := by
  change (assemble path (formEntries room path (fields.map _))).map _ = _
  rw [formEntries_map, assemble_map, sortFields_of_rising]
  simpa [Function.comp_def] using h

theorem fields_record (room : Nat) {fields : List (Text × Value)}
    (h : Rising (fields.map Prod.fst)) :
    Canonical.fields room (.record fields)
      = collect (fields.map fun field => (field.1, form room field.1 field.2)) := by
  change assemble [] (formEntries room [] (fields.map _)) = _
  rw [formEntries_map, assemble_map, sortFields_of_rising]
  · rfl
  · simpa [Function.comp_def] using h

theorem collect_sublist {fields : List (Text × Except Fault (Option Json))}
    {forms : List (Text × Json)} (h : collect fields = .ok forms) :
    (forms.map Prod.fst).Sublist (fields.map Prod.fst) := by
  induction fields generalizing forms with
  | nil =>
    cases h
    exact .slnil
  | cons field fields ih =>
    obtain ⟨name, form⟩ := field
    match form with
    | .error fault => cases h
    | .ok none => exact (ih h).cons name
    | .ok (some form) =>
      simp only [collect] at h
      cases hrest : collect fields with
      | error fault =>
        rw [hrest] at h
        cases h
      | ok rest =>
        rw [hrest] at h
        cases h
        exact (ih hrest).cons_cons name

/-- The version comes before fields that rise and come behind its name. -/
theorem withVersion_of_rising {fields : List (Text × Json)}
    (h : Rising (versionName :: fields.map Prod.fst)) :
    withVersion fields = (versionName, .int version) :: fields := by
  have hnew : ∀ field ∈ fields, field.1 ≠ versionName := by
    intro field hfield heq
    have hle := (List.pairwise_cons.mp h).1 field.1 (List.mem_map_of_mem hfield)
    exact hle.2 heq.symm
  unfold withVersion
  rw [if_neg (by simpa using fun form hform => hnew (versionName, form) hform rfl)]
  exact sortFields_of_rising h

/-- The canonical bytes of fields behind the version. -/
def content (fields : List (Text × Json)) : Bytes :=
  ((Json.object ((versionName, .int version) :: fields)).write .compactAscii).flatMap
    Utf8.encodeChar

/-- The bytes of a record in whose form one integer may be too long. -/
theorem bytes_record {levels : Nat} {digits : Option Nat} {fields : List (Text × Value)}
    {forms : List (Text × Json)} {n : Int} (h : Rising (versionName :: fields.map Prod.fst))
    (hforms : collect (fields.map fun field => (field.1, form levels field.1 field.2))
      = .ok forms)
    (hfits : Json.fitsFields digits forms = Integer.fits digits n) :
    Canonical.bytes (.record fields) levels digits
      = (Integer.checkDigits digits n).map fun () => content forms := by
  have hsub : (forms.map Prod.fst).Sublist (fields.map Prod.fst) := by
    simpa [Function.comp_def] using collect_sublist hforms
  have hforms_rising : Rising (versionName :: forms.map Prod.fst) :=
    h.sublist (hsub.cons_cons versionName)
  have hobject : (Json.object ((versionName, .int version) :: forms)).fits digits
      = Integer.fits digits n := by
    simp only [Json.fits, Json.fitsFields, hfits]
    -- the version has one digit, so it fits where the integer does
    cases hn : Integer.fits digits n with
    | false => exact Bool.and_false _
    | true => rw [Integer.fits_of_digit hn (by decide), Bool.and_true]
  unfold Canonical.bytes Canonical.text writeForm Integer.checkDigits
  rw [fields_record levels (List.pairwise_cons.mp h).2, hforms]
  simp only [withVersion_of_rising hforms_rising, hobject]
  split <;> rfl

end Canonical

/-! ## The contents of a post -/

namespace Post

/-- Fields behind one for bytes that may be missing. -/
def behindOptional (name : Text) (bytes : Option Bytes) (fields : List (Text × Json)) :
    List (Text × Json) :=
  match bytes with
  | none => fields
  | some bytes => (name, .text (Base64.encode bytes)) :: fields

/-- What the signature of a post is made over. -/
def signedContent (blogId : Bytes) (timestamp : Int) (parentId : Option Bytes) (text : Text) :
    Bytes :=
  Canonical.content (("blogId", .text (Base64.encode blogId)) ::
    behindOptional "parentId" parentId [("text", .text text), ("timestamp", .int timestamp)])

/-- What the message id of a post is made over, besides its blog and its time. -/
def bodyContent (author : Author) (parentId : Option Bytes) (text : Text) (signature : Bytes) :
    Bytes :=
  Canonical.content (("author", .object [("formatVersion", .int author.formatVersion),
      ("name", .text author.name), ("publicKey", .text (Base64.encode author.publicKey))]) ::
    behindOptional "parentId" parentId
      [("signature", .text (Base64.encode signature)), ("text", .text text)])

theorem bytes_signedPayload (digits : Option Nat) (blogId : Bytes) (timestamp : Int)
    (parentId : Option Bytes) (text : Text) :
    Canonical.bytes (signedPayload blogId timestamp parentId text) payloadLevels digits
      = (Integer.checkDigits digits timestamp).map fun () =>
          signedContent blogId timestamp parentId text := by
  have hrising : Canonical.Rising
      [Canonical.versionName, "blogId", "parentId", "text", "timestamp"] := by decide
  refine Canonical.bytes_record hrising ?forms ?digits
  case forms => cases parentId <;> rfl
  case digits =>
    cases parentId <;>
      simp only [behindOptional, Json.fitsFields, Json.fits, Bool.true_and, Bool.and_true]

theorem bytes_bodyPayload (author : Author) (parentId : Option Bytes) (text : Text)
    (signature : Bytes) :
    Canonical.bytes (bodyPayload author parentId text signature) payloadLevels
      = (Integer.checkDigits Integer.usualLimit author.formatVersion).map fun () =>
          bodyContent author parentId text signature := by
  have hrising : Canonical.Rising
      [Canonical.versionName, "author", "parentId", "signature", "text"] := by decide
  have hauthor : Canonical.Rising ["formatVersion", "name", "publicKey"] := by decide
  have hform : Canonical.form payloadLevels "author" (.record [
        ("formatVersion", .int author.formatVersion), ("name", .text author.name),
        ("publicKey", .bytes author.publicKey)])
      = .ok (some (.object [("formatVersion", .int author.formatVersion),
          ("name", .text author.name),
          ("publicKey", .text (Base64.encode author.publicKey))])) := by
    refine (Canonical.form_record 0 _ ?_).trans rfl
    exact hauthor
  refine Canonical.bytes_record hrising ?forms ?digits
  case forms =>
    simp only [List.map_cons, hform]
    cases parentId <;> rfl
  case digits =>
    cases parentId <;>
      simp only [behindOptional, Json.fitsFields, Json.fits, Bool.and_true]

end Post

end SignedBlog
