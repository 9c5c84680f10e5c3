import SignedBlog.Http.Message
import SignedBlog.Json.Encoding
import SignedBlog.Json.Reader
import SignedBlog.Text.Blank

/-!
Bodies of requests that publish a post.

A body is read before anything else is known of the request: as JSON if its content type says so,
and as bytes otherwise. Later the text of the post is taken from it, or a complaint says why there is
none and shows what was there instead.
-/

namespace SignedBlog.Http

set_option autoImplicit false

/-- What the body of a request holds. -/
inductive Body where
  | absent
  | json (value : Json)
  | raw (bytes : Bytes)

/-- Why a body cannot be read. -/
inductive Unreadable where
  /-- It is no text, or asks too much of the reader. -/
  | notText
  | notJson (misread : Json.Misread)

/-- How much a body may ask of the reader. -/
def bodyLimits : Json.Limits := ⟨960, Integer.digitLimit⟩

/-- Whether a content type stands for JSON: `application/json` or `application/*+json`, whatever its
case and parameters. -/
def isJsonType (contentType : Text) : Bool :=
  let type := (Text.strip (contentType.takeWhile (· != (';' : CodePoint)))).lower
  match Text.pieces '/' type with
  | [main, sub] =>
    main == ("application" : Text) &&
      (sub == ("json" : Text) || Text.endsWith sub "+json")
  | _ => false

/-- The JSON value of bytes. -/
def readJson (bytes : Bytes) : Except Unreadable Json :=
  match Json.decodeText? bytes with
  | none => .error .notText
  | some text =>
    match Json.read bodyLimits text with
    | .ok json => .ok json
    | .error misread =>
      if misread.defect = .tooDeep || misread.defect = .tooManyDigits then .error .notText
      else .error (.notJson misread)

/-- The body of a request. -/
def Request.readBody (request : Request) : Except Unreadable Body :=
  if request.body.isEmpty then .ok .absent
  else if isJsonType ((request.header? "content-type").getD []) then
    match readJson request.body with
    | .error unreadable => .error unreadable
    | .ok json => .ok (.json json)
  else .ok (.raw request.body)

/-! ## The text of a post -/

/-- Why a body holds no text. -/
inductive Complaint where
  | noBody
  | notAnObject (body : Body)
  | noText (fields : List (Text × Json))
  | textNotString (value : Json)

/-- The text that a body holds; other fields do not matter. -/
def Body.text : Body → Except Complaint Text
  | .absent => .error .noBody
  | .json (.object fields) =>
    match Json.lastField? "text" fields with
    | none => .error (.noText fields)
    | some (.text t) => .ok t
    | some value => .error (.textNotString value)
  | body => .error (.notAnObject body)

mutual

/-- A value as it is shown back: fields of one name are one, and those whose names begin with `_sa`
are left out. -/
def echo : Json → Json
  | .array items => .array (echoItems items)
  | .object fields => .object (Json.mergeFields (echoFields fields))
  | value => value

def echoItems : List Json → List Json
  | [] => []
  | item :: items => echo item :: echoItems items

def echoFields : List (Text × Json) → List (Text × Json)
  | [] => []
  | (name, value) :: fields =>
    if Text.startsWith name "_sa" then echoFields fields
    else (name, echo value) :: echoFields fields

end

/-- What was there instead of an object; bytes are shown as the text they hold. -/
def Body.echo : Body → Except Fault Json
  | .absent => .ok .null
  | .json value => .ok (Http.echo value)
  | .raw bytes => ((Utf8.decode bytes).map Json.text).mapError .undecodable

/-- A complaint in the form in which clients get it: its kind, where it is, its wording and what was
there. -/
def complaintJson (kind : Text) (location : List Json) (wording : Text) (input : Json)
    (more : List (Text × Json)) : Json :=
  .object [("detail", .array [.object (("type", .text kind) :: ("loc", .array location) ::
    ("msg", .text wording) :: ("input", input) :: more)])]

def Complaint.toJson : Complaint → Except Fault Json
  | .noBody => .ok (complaintJson "missing" [.text "body"] "Field required" .null [])
  | .notAnObject body =>
    body.echo.map fun input =>
      complaintJson "model_attributes_type" [.text "body"]
        "Input should be a valid dictionary or object to extract fields from" input []
  | .noText fields =>
    .ok (complaintJson "missing" [.text "body", .text "text"] "Field required"
      (echo (.object fields)) [])
  | .textNotString value =>
    .ok (complaintJson "string_type" [.text "body", .text "text"]
      "Input should be a valid string" (echo value) [])

/-- The complaint about a body that is no JSON. -/
def misreadJson (misread : Json.Misread) : Json :=
  complaintJson "json_invalid" [.text "body", .int misread.place] "JSON decode error" (.object [])
    [("ctx", .object [("error", .text misread.defect.message)])]

end SignedBlog.Http
