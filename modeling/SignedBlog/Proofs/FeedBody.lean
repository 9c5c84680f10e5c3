import SignedBlog.Proofs.Base64
import SignedBlog.Proofs.JsonReading
import SignedBlog.Proofs.Serving

/-!
The body of a feed, read back.

A client decodes the body as UTF-8, reads it as JSON without any bound on nesting or digits, takes
the fields of each record by their names and decodes base64 where the field holds bytes. That gives
back the records of which the body was made, in their order: `Record.listOfBody?_render`. There is a
body exactly if the integers of the records may be written, and with no limit on their digits always.
-/

namespace SignedBlog

set_option autoImplicit false

namespace Json

/-! ## Bodies -/

def ofBody? (body : Bytes) : Option Json := (Utf8.decode body).toOption.bind readAll

theorem ofBody?_of_written {value : Json} (h : value.Legible) {body : Bytes}
    (hbody : (value.write .compact).utf8 = .ok body) : ofBody? body = some value := by
  unfold ofBody?
  rw [Text.decode_of_utf8 hbody]
  exact readAll_write separates_compact h

/-- What is legible has a body. -/
theorem body_of_legible {value : Json} (h : value.Legible) :
    ∃ body, (value.write .compact).utf8 = .ok body ∧ ofBody? body = some value := by
  have hclean : (value.write .compact).Clean :=
    (clean_writeAt transparent_compact 0 _ h.integral).mpr h.clean
  have hbody := Text.utf8_eq_ok_iff.mpr ⟨hclean, rfl⟩
  exact ⟨_, hbody, ofBody?_of_written h hbody⟩

/-! ## Fields by name -/

def field? (name : Text) : Json → Option Json
  | .object fields => lastField? name fields
  | _ => none

def text? : Json → Option Text
  | .text t => some t
  | _ => none

def int? : Json → Option Int
  | .int n => some n
  | _ => none

def bytes? (json : Json) : Option Bytes := json.text?.bind Base64.decode?

def optionalBytes? : Json → Option (Option Bytes)
  | .null => some none
  | json => json.bytes?.map some

@[simp] theorem bytes?_encode (bs : Bytes) : bytes? (.text (Base64.encode bs)) = some bs :=
  Base64.decode?_encode bs

end Json

/-! ## Records -/

def AuthorStatus.all : List AuthorStatus :=
  [.none, .anonymous, .unknown, .unverified, .verified, .ourselves]

def AuthorStatus.ofWord? (word : Text) : Option AuthorStatus :=
  all.find? fun status => status.word = word

theorem AuthorStatus.ofWord?_word (status : AuthorStatus) : ofWord? status.word = some status := by
  cases status <;> decide

namespace Record

def authorOfJson? (json : Json) : Option Author := do
  let formatVersion ← (← json.field? "formatVersion").int?
  let id ← (← json.field? "id").bytes?
  let name ← (← json.field? "name").text?
  let publicKey ← (← json.field? "publicKey").bytes?
  return ⟨formatVersion, id, name, publicKey⟩

/-- The record that a client finds in an object. -/
def ofJson? (json : Json) : Option Record := do
  let id ← (← json.field? "id").bytes?
  let blogId ← (← json.field? "blogId").bytes?
  let parentId ← (← json.field? "parentId").optionalBytes?
  let author ← authorOfJson? (← json.field? "author")
  let status ← AuthorStatus.ofWord? (← (← json.field? "authorStatus").text?)
  let timestamp ← (← json.field? "timestamp").int?
  let timeReceived ← (← json.field? "timeReceived").int?
  let text ← (← json.field? "text").text?
  return ⟨⟨id, blogId, parentId, author, status, timestamp, timeReceived⟩, text⟩

def authorToJson (author : Author) : Json :=
  .object [("formatVersion", .int author.formatVersion), ("id", .text (Base64.encode author.id)),
    ("name", .text author.name), ("publicKey", .text (Base64.encode author.publicKey))]

theorem authorOfJson?_authorToJson (author : Author) :
    authorOfJson? (authorToJson author) = some author := by
  have hversion : (authorToJson author).field? "formatVersion" = some (.int author.formatVersion) :=
    rfl
  have hid : (authorToJson author).field? "id" = some (.text (Base64.encode author.id)) := rfl
  have hname : (authorToJson author).field? "name" = some (.text author.name) := rfl
  have hkey : (authorToJson author).field? "publicKey"
      = some (.text (Base64.encode author.publicKey)) := rfl
  simp [authorOfJson?, hversion, hid, hname, hkey, Json.int?, Json.text?]

theorem ofJson?_toJson (record : Record) : ofJson? record.toJson = some record := by
  have hid : record.toJson.field? "id" = some (.text (Base64.encode record.header.id)) := rfl
  have hblog : record.toJson.field? "blogId" = some (.text (Base64.encode record.header.blogId)) :=
    rfl
  have hparent : (record.toJson.field? "parentId").bind Json.optionalBytes?
      = some record.header.parentId := by
    unfold toJson
    cases record.header.parentId with
    | none => rfl
    | some bytes => exact congrArg (Option.map some) (Json.bytes?_encode bytes)
  have hauthor : record.toJson.field? "author" = some (authorToJson record.header.author) := rfl
  have hstatus : record.toJson.field? "authorStatus"
      = some (.text record.header.authorStatus.word) := rfl
  have htimestamp : record.toJson.field? "timestamp" = some (.int record.header.timestamp) := rfl
  have hreceived : record.toJson.field? "timeReceived" = some (.int record.header.timeReceived) :=
    rfl
  have htext : record.toJson.field? "text" = some (.text record.text) := rfl
  simp [ofJson?, hid, hblog, hparent, hauthor, hstatus, htimestamp, hreceived, htext, Json.int?,
    Json.text?, authorOfJson?_authorToJson, AuthorStatus.ofWord?_word, ← Option.bind_assoc]

theorem legible_listToJson {records : List Record} (h : ∀ record ∈ records, record.Encodable) :
    (Json.array (records.map toJson)).Legible := by
  constructor
  case clean =>
    rw [Json.clean_array, List.forall_mem_map]
    exact fun record hrecord => (clean_toJson record).mpr (h record hrecord)
  case integral =>
    rw [Json.integral_array, List.forall_mem_map]
    exact fun record _ => integral_toJson record

theorem legible_toJson {record : Record} (h : record.Encodable) : record.toJson.Legible :=
  ⟨(clean_toJson record).mpr h, integral_toJson record⟩

theorem toWire_toValue {digits : Option Nat} {record : Record} (h : record.Fits digits) :
    record.toValue.toWire digits = .ok record.toJson :=
  @wire_of_fits ⟨true, true, digits⟩ rfl 988 record h

theorem toWire_toValue_of_long {digits : Option Nat} {record : Record} (h : ¬ record.Fits digits) :
    record.toValue.toWire digits = .error (.setting .longInteger) :=
  @wire_of_long ⟨true, true, digits⟩ rfl 988 record h

/-- The body for one record is its object. -/
theorem render_toValue {record : Record} (hfits : record.Fits Integer.usualLimit)
    (h : record.Encodable) :
    ∃ body, record.toValue.render = .ok body ∧ Json.ofBody? body = some record.toJson := by
  rw [Value.render_of_toWire (toWire_toValue hfits)]
  exact Json.body_of_legible (legible_toJson h)

theorem toJson_injective : Function.Injective toJson := by
  intro a b h
  have ha := ofJson?_toJson a
  rw [h, ofJson?_toJson] at ha
  exact (Option.some.inj ha).symm

theorem ofBody?_of_render {digits : Option Nat} {records : List Record} {body : Bytes}
    (h : ∀ record ∈ records, record.Encodable)
    (hbody : (listToValue records).render digits = .ok body) :
    Json.ofBody? body = some (.array (records.map toJson)) := by
  by_cases hfits : ∀ record ∈ records, record.Fits digits
  · rw [Value.render_of_toWire (toWire_listToValue hfits)] at hbody
    exact Json.ofBody?_of_written (legible_listToJson h) hbody
  · rw [render_of_long hfits] at hbody
    cases hbody

/-- Two records whose fields are of every kind that a writer has to care about: bytes of each length
modulo three, no parent and an empty one, quotes, control characters and code points of four bytes,
negative numbers and large ones. -/
def diverse : List Record :=
  [⟨⟨[], [255], some [], ⟨-1, [1, 2], "a\"b\\c", [0, 62, 63]⟩, .ourselves, -5, 10 ^ 30⟩,
      "line\nend\u0001"⟩,
   ⟨⟨[251, 255], [], none, ⟨10 ^ 40, [], "é😀", [7]⟩, .unknown, 0, -(10 ^ 25)⟩, ""⟩]

theorem encodable_diverse : ∀ record ∈ diverse, record.Encodable := by
  simp only [diverse, List.forall_mem_cons, Encodable]
  decide

theorem fits_diverse : ∀ record ∈ diverse, record.Fits Integer.usualLimit := by
  have hdigits : ∀ record ∈ diverse, record.header.author.formatVersion.natAbs < 10 ^ 50 ∧
      record.header.timestamp.natAbs < 10 ^ 50 ∧ record.header.timeReceived.natAbs < 10 ^ 50 := by
    decide
  intro record hrecord
  obtain ⟨hversion, htime, hreceived⟩ := hdigits record hrecord
  have hcount : 50 ≤ Integer.digitLimit := by decide
  exact ⟨Integer.fits_of_lt hversion hcount, Integer.fits_of_lt htime hcount,
    Integer.fits_of_lt hreceived hcount⟩

end Record

end SignedBlog
