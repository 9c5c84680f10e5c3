import SignedBlog.Http.Message
import SignedBlog.Text.Blank
import SignedBlog.Text.Percent

/-!
What a request asks for, told by its method and path.

The pages on which the interface documents itself (`/docs`, `/docs/oauth2-redirect`, `/redoc` and
`/openapi.json`) are left out: they read neither the node nor the token, and are unknown paths here.
-/

namespace SignedBlog.Http

set_option autoImplicit false

inductive Target where
  | listPosts
  | createPost
  | health
  | detailedHealth
  | metrics
  /-- The path is known, but not with this method. -/
  | wrongMethod
  /-- The path is known without the slashes at its end. -/
  | elsewhere (path : Text)
  | unknown
deriving DecidableEq

/-- The path of the feed. -/
def postsPath : Text := "/v1/blogs/posts"

/-- The known paths with what their methods ask for. -/
def routes : List (Text × List (Text × Target)) :=
  [(postsPath, [("GET", .listPosts), ("POST", .createPost)]),
   ("/health", [("GET", .health)]),
   ("/health/detailed", [("GET", .detailedHealth)]),
   ("/metrics", [("GET", .metrics)])]

/-- A path without the line break that may stand at its end. -/
def withoutLineBreak (path : Text) : Text :=
  if path.getLast? = some ('\n' : CodePoint) then path.dropLast else path

/-- What the methods of a path ask for, if the path is known. -/
def methodsAt? (path : Text) : Option (List (Text × Target)) := routes.lookup (withoutLineBreak path)

/-- What a method asks for at a path. -/
def Target.find (method path : Text) : Target :=
  match methodsAt? path with
  | some methods => (methods.lookup method).getD .wrongMethod
  | none =>
    let bare := path.trimEnd (· == ('/' : CodePoint))
    if bare != path && (methodsAt? bare).isSome then .elsewhere bare else .unknown

/-! ## Locations -/

/-- Bytes besides the unreserved ones that stand for themselves in a location. -/
def isLocationByte (b : UInt8) : Bool :=
  (Bytes.ofString ":/%#?=@[]!$&'()*+,;").contains b

/-- The address of a path on a host, with a query. -/
def location (host path query : Text) : Except Fault Text :=
  let tail : Text := if query.isEmpty then [] else ('?' : CodePoint) :: query
  (Percent.encode isLocationByte (("http://" : Text) ++ host ++ path ++ tail)).mapError .unencodable

end SignedBlog.Http
