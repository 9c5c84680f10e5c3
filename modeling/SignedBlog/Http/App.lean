import SignedBlog.Http.Body
import SignedBlog.Http.Host
import SignedBlog.Http.Route
import SignedBlog.Http.Token
import SignedBlog.Node.Feed
import SignedBlog.Node.Health

/-!
The HTTP interface of a node.

The feed may be read and written with the bearer token; health and metrics are open. Every request is
counted once it is answered, and one on which the node fails is answered with status 500 and counted
as failed.

* `App.handle` answers one request and gives the interface as it is afterwards.
-/

namespace SignedBlog.Http

set_option autoImplicit false

/-- A node behind its token. -/
structure App where
  node : Node
  token : Text
  /-- Where requests are counted, if not among the node's own counters. -/
  requests : Option Metrics

/-- What comes with a request from outside: an id for it and how long it took, in milliseconds. -/
structure Arrival where
  freshId : Text
  elapsed : Int

/-- The answer to a request. -/
structure Reply where
  response : Response
  /-- The id of the request, unless the node failed on it. -/
  requestId : Option Text
  /-- Why the node failed. -/
  raised : Option Fault

namespace App

/-- Puts an interface in front of a node, which has to have a local author. -/
def start (node : Node) (token : Text) (requests : Option Metrics) : Except Fault App :=
  node.identity.localAuthor.map fun _ => ⟨node, token, requests⟩

/-! ## The feed -/

/-- The header that asks for a bearer token. -/
def challenge : List (Text × Text) := [("www-authenticate", "Bearer")]

/-- Goes on with a request that carries the token, and refuses any other. -/
def authorized (app : App) (request : Request) (next : Outcome Response) : Outcome Response :=
  match checkToken app.token (request.header? "authorization") with
  | .error fault => (.error fault, app.node)
  | .ok .missing => (.ok (.refusal 401 "Missing bearer token" challenge), app.node)
  | .ok .refused => (.ok (.refusal 401 "Invalid bearer token" challenge), app.node)
  | .ok .granted => next

/-- A body as a JSON answer. -/
def answer (body : Except Fault Bytes) : Except Fault Response :=
  body.map fun bytes => ⟨200, some jsonType, [], bytes⟩

def serveFeed (node : Node) : Outcome Response :=
  match node.listPosts with
  | (.error fault, node) => (.error fault, node)
  | (.ok records, node) => (answer (Record.listToValue records).render, node)

/-- Publishes the text that a body holds. -/
def publish (body : Body) (node : Node) : Outcome Response :=
  match body.text with
  | .error complaint => (complaint.toJson.bind (Response.ofJson 422), node)
  | .ok text =>
    match node.createPost text with
    | (.error (.invalidText defect), node) => (.ok (.refusal 400 defect.message []), node)
    | (.error fault, node) => (.error fault, node)
    | (.ok record, node) => (answer record.toValue.render, node)

/-- Reads the body first, then looks at the token, then publishes. -/
def servePublish (app : App) (request : Request) : Outcome Response :=
  match request.readBody with
  | .error .notText => (.ok (.refusal 400 "There was an error parsing the body" []), app.node)
  | .error (.notJson misread) => (Response.ofJson 422 (misreadJson misread), app.node)
  | .ok body => app.authorized request (publish body app.node)

/-! ## Health and metrics -/

def healthBody : Json :=
  .object [("status", .text "healthy"), ("service", .text "nodeblog")]

/-- The limit on digits is of no account for health and metrics: no count and no duration gets near
it. -/
def serveHealth (node : Node) (elapsed : Int) : Except Fault Response := do
  let health := node.health true true
  let json ← (Value.record [("status", Health.word health.healthy), ("checks", health.toValue),
    ("duration_ms", .int elapsed)]).toWire none
  Response.ofJson (if health.healthy then 200 else 503) json

def serveMetrics (node : Node) : Except Fault Response := do
  let json ← (Value.record node.metrics.summary).toWire none
  Response.ofJson 200 json

/-! ## Requests -/

/-- What a request gives, before it is counted. -/
def respond (app : App) (arrival : Arrival) (request : Request) : Outcome Response :=
  match Target.find request.method request.path with
  | .listPosts => app.authorized request (serveFeed app.node)
  | .createPost => app.servePublish request
  | .health => (Response.ofJson 200 healthBody, app.node)
  | .detailedHealth => (serveHealth app.node arrival.elapsed, app.node)
  | .metrics => (serveMetrics app.node, app.node)
  | .wrongMethod => (.ok (.refusal 405 "Method Not Allowed" [("allow", "GET")]), app.node)
  | .elsewhere path =>
    ((location request.host path request.query).map fun target =>
      ⟨307, none, [("location", target)], []⟩, app.node)
  | .unknown => (.ok (.refusal 404 "Not Found" []), app.node)

/-- Counts a request that was answered. -/
def count (app : App) (elapsed : Int) (success : Bool) : App :=
  match app.requests with
  | some metrics => { app with requests := some (metrics.recordRequest elapsed success) }
  | none =>
    { app with node := { app.node with metrics := app.node.metrics.recordRequest elapsed success } }

/-- Answers a request. -/
def handle (app : App) (arrival : Arrival) (request : Request) : Reply × App :=
  match app.respond arrival request with
  | (.error fault, node) =>
    (⟨.failure, none, some fault⟩, { app with node }.count arrival.elapsed false)
  | (.ok response, node) =>
    (⟨response, some ((request.header? "x-request-id").getD arrival.freshId), none⟩,
      { app with node }.count arrival.elapsed (response.status < 500))

end App

end SignedBlog.Http
