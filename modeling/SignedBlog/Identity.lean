import SignedBlog.Bytes.Base64
import SignedBlog.Environment
import SignedBlog.Post

/-!
The identity of a node: the one local author it may have.

The author is registered once; another one is refused. In settings the secret key is base64 text;
without it a node that is not in production makes a passing identity, with a warning.
-/

namespace SignedBlog

set_option autoImplicit false

/-- The local author of a node, if it has one. -/
structure Identity where
  author? : Option LocalAuthor
deriving DecidableEq

namespace Identity

/-- Makes an author the node's own, unless it has another. -/
def register (identity : Identity) (author : LocalAuthor) : Except Fault Identity :=
  match identity.author? with
  | none => .ok ⟨some author⟩
  | some current =>
    if current.id = author.id then .ok ⟨some author⟩ else .error (.identity .otherRegistered)

def localAuthor (identity : Identity) : Except Fault LocalAuthor :=
  match identity.author? with
  | none => .error .noLocalIdentity
  | some author => .ok author

/-- What the node knows of an author: its own, or nothing. -/
def statusOf (identity : Identity) (authorId : Bytes) : AuthorStatus :=
  match identity.author? with
  | none => .unknown
  | some author => if author.id = authorId then .ourselves else .unknown

/-- A header with what the node knows of its author. -/
def withStatus (identity : Identity) (header : Header) : Header :=
  { header with authorStatus := identity.statusOf header.author.id }

end Identity

/-- What came of reading the identity from settings, with the warnings given on the way. -/
structure LoadedIdentity where
  result : Except Fault LocalAuthor
  warnings : List Text

/-- The warning that an identity does not last. -/
def passingIdentityWarning : Text :=
  "Local identity not configured. Generating ephemeral identity for development. It changes on each restart - NOT suitable for production!"

/-- The local author that the environment describes; `fresh` is the seed of a new one. -/
def LoadedIdentity.ofEnvironment (env : Environment) (fresh : Ed25519.Seed) : LoadedIdentity :=
  let name := env.lookup "NODEBLOG_AUTHOR_NAME" "node"
  let encoded := env.lookup "NODEBLOG_PRIVATE_KEY" []
  if !encoded.isEmpty then
    match Base64.decode? encoded with
    | none => ⟨.error (.identity .keyNotBase64), []⟩
    | some privateKey => ⟨LocalAuthor.create name privateKey, []⟩
  else if env.isProduction then ⟨.error (.identity .keyMissing), []⟩
  else ⟨LocalAuthor.create name fresh.bytes, [passingIdentityWarning]⟩

end SignedBlog
