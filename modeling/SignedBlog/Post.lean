import SignedBlog.Author
import SignedBlog.Canonical

/-!
Blogs and posts.

A post is signed by its author and addressed by its content. The signature covers the blog, the
time, the parent and the text; the message id covers the blog, the time and a body that holds the
author, the parent, the text and the signature.

* `Post.compose` makes a post, `Post.verify` checks one that somebody else made.
-/

namespace SignedBlog

set_option autoImplicit false

/-- A stream of posts of one author. -/
structure Blog where
  id : Bytes
  author : Author
deriving DecidableEq

/-- A signed post; one that a peer sends is not checked yet. -/
structure Post where
  messageId : Bytes
  blogId : Bytes
  parentId : Option Bytes
  author : Author
  timestamp : Int
  text : Text
  signature : Bytes
deriving DecidableEq

/-- What a node knows of an author. -/
inductive AuthorStatus where
  | none
  | anonymous
  | unknown
  | unverified
  | verified
  | ourselves
deriving DecidableEq

/-- What is known of a stored post without its text. -/
structure Header where
  id : Bytes
  blogId : Bytes
  parentId : Option Bytes
  author : Author
  authorStatus : AuthorStatus
  timestamp : Int
  timeReceived : Int
deriving DecidableEq

/-- The personal blog of an author. -/
def Blog.personal (author : Author) : Blog := ⟨Identifier.blog author.id, author⟩

namespace Post

/-- An id that may be missing, as part of a payload. -/
def optionalBytes : Option Bytes → Value
  | none => .null
  | some bytes => .bytes bytes

/-- What the signature covers, as a payload. -/
def signedPayload (blogId : Bytes) (timestamp : Int) (parentId : Option Bytes) (text : Text) : Value :=
  .record [("blogId", .bytes blogId), ("parentId", optionalBytes parentId), ("text", .text text),
    ("timestamp", .int timestamp)]

/-- What the message id covers besides the blog and the time, as a payload. -/
def bodyPayload (author : Author) (parentId : Option Bytes) (text : Text) (signature : Bytes) :
    Value :=
  .record [
    ("author", .record [("formatVersion", .int author.formatVersion), ("name", .text author.name),
      ("publicKey", .bytes author.publicKey)]),
    ("parentId", optionalBytes parentId), ("signature", .bytes signature), ("text", .text text)]

/-- The mappings within each other below the top level of what is signed and hashed: that of the
author. -/
def payloadLevels : Nat := 1

/-- The text has a UTF-8 form that is not too long. -/
def checkText (text : Text) : Except Fault Unit :=
  match Utf8.encode text with
  | .error _ => .error (.invalidPost .textNotUtf8)
  | .ok bytes => if maxTextLength < bytes.length then .error (.invalidPost .textTooLong) else .ok ()

/-- Signs and addresses a post. -/
def compose (blogId : Bytes) (timestamp : Int) (parentId : Option Bytes) (author : LocalAuthor)
    (text : Text) : Except Fault Post := do
  checkText text
  let content ← Canonical.bytes (signedPayload blogId timestamp parentId text) payloadLevels
  let signature := Signature.sign Signature.postLabel content author.seed
  let body ← Canonical.bytes (bodyPayload author.toAuthor parentId text signature) payloadLevels
  let messageId ← Identifier.message blogId timestamp body
  return ⟨messageId, blogId, parentId, author.toAuthor, timestamp, text, signature⟩

/-- Passes when a condition holds, and otherwise finds a post invalid. -/
def require (holds : Bool) (defect : PostDefect) : Except Fault Unit :=
  if holds then .ok () else .error (.invalidPost defect)

/-- Checks that a post's text, author, blog, signature and id belong together. -/
def verify (post : Post) : Except Fault Unit := do
  checkText post.text
  let authorId ← Identifier.author post.author.formatVersion post.author.publicKey
  require (post.author.id = authorId) .foreignAuthorId
  require (post.blogId = Identifier.blog post.author.id) .foreignBlog
  let content ←
    Canonical.bytes (signedPayload post.blogId post.timestamp post.parentId post.text) payloadLevels
  require (Signature.verify Signature.postLabel content post.signature post.author.publicKey)
    .badSignature
  let body ←
    Canonical.bytes (bodyPayload post.author post.parentId post.text post.signature) payloadLevels
  let messageId ← Identifier.message post.blogId post.timestamp body
  require (post.messageId = messageId) .wrongMessageId

end Post

end SignedBlog
