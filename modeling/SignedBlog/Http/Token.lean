import SignedBlog.Bytes.Base64
import SignedBlog.Environment
import SignedBlog.Fault
import SignedBlog.Text.Blank

/-!
The bearer token that the interface asks for.
-/

namespace SignedBlog.Http

set_option autoImplicit false

/-- Whether a request may go on. -/
inductive Access where
  | granted
  /-- There is no bearer token. -/
  | missing
  /-- The token is another one. -/
  | refused
deriving DecidableEq

/-- The scheme of an authorization, which is what stands before the first blank, and the rest. -/
def splitAuthorization (header : Text) : Text × Text :=
  (Text.cutFirst? (· == (' ' : CodePoint)) header).getD (header, [])

/-- Looks for the expected token in an authorization header. Tokens are compared only if both are
ASCII. -/
def checkToken (expected : Text) (authorization : Option Text) : Except Fault Access :=
  let (scheme, supplied) := splitAuthorization (authorization.getD [])
  if scheme.lower != ("bearer" : Text) || supplied.isEmpty then .ok .missing
  else if !(supplied.strip.isAscii && expected.isAscii) then .error .tokenNotAscii
  else if supplied.strip = expected then .ok .granted
  else .ok .refused

/-- How many random bytes a new token has. -/
def freshTokenLength : Nat := 32

/-- The token of the environment, or a new one from random bytes where none is set. -/
def tokenOfEnvironment (env : Environment) (random : Bytes) : Text :=
  let token := env.lookup "NODEBLOG_AUTH_TOKEN" []
  if token.isEmpty then Base64.encodeUrl random else token

end SignedBlog.Http
