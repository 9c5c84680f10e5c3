import SignedBlog.Encoding
import SignedBlog.Json.Writer
import SignedBlog.Text.Case

/-!
Requests and responses.
-/

namespace SignedBlog.Http

set_option autoImplicit false

structure Request where
  method : Text
  path : Text
  query : Text
  headers : List (Text × Text)
  body : Bytes

/-- The first value of a header; names are compared without case. -/
def Request.header? (request : Request) (name : Text) : Option Text :=
  (request.headers.find? fun header => header.1.lower == name.lower).map (·.2)

structure Response where
  status : Nat
  contentType : Option Text
  /-- Headers besides the type of the content. -/
  headers : List (Text × Text)
  body : Bytes

/-- The type of JSON bodies. -/
def jsonType : Text := "application/json"

/-- JSON as the body of a response: every number has to be finite, and every text needs a UTF-8
form. -/
def encodeJson (json : Json) : Except Fault Bytes :=
  if json.isFinite then (json.write .compact).utf8 else .error .notFinite

/-- A response with a JSON body. -/
def Response.ofJson (status : Nat) (json : Json) : Except Fault Response :=
  (encodeJson json).map fun body => ⟨status, some jsonType, [], body⟩

/-- A response that says what was wrong. -/
def Response.refusal (status : Nat) (detail : Text) (headers : List (Text × Text)) : Response where
  status := status
  contentType := some jsonType
  headers := headers
  body := ((Json.object [("detail", .text detail)]).write .compact).flatMap Utf8.encodeChar

/-- The response to a request on which the node failed. -/
def Response.failure : Response :=
  ⟨500, some "text/plain; charset=utf-8", [], Bytes.ofString "Internal Server Error"⟩

end SignedBlog.Http
