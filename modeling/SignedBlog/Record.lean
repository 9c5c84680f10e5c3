import SignedBlog.Post
import SignedBlog.Value.Literal
import SignedBlog.Value.Wire

/-!
Records of the feed: a header joined with the text of its post, as clients get it.
-/

namespace SignedBlog

set_option autoImplicit false

/-- The word for a status. -/
def AuthorStatus.word : AuthorStatus → Text
  | .none => "none"
  | .anonymous => "anonymous"
  | .unknown => "unknown"
  | .unverified => "unverified"
  | .verified => "verified"
  | .ourselves => "ourselves"

/-- How much of the literal of something that is no status is shown. -/
def AuthorStatus.shownLength : Nat := 100

/-- The fault that a value is no status, or why that cannot be said of it. -/
def AuthorStatus.fault (value : Value) : Fault :=
  match value.writtenLiteral with
  | .error fault => fault
  | .ok literal =>
    .unknownStatus
      (if shownLength < literal.length then literal.take shownLength ++ ("..." : Text) else literal)

/-- An author by field names. -/
def Author.toValue (author : Author) : Value :=
  .record [("formatVersion", .int author.formatVersion), ("id", .bytes author.id),
    ("name", .text author.name), ("publicKey", .bytes author.publicKey)]

/-- A stored post as the feed shows it. -/
structure Record where
  header : Header
  text : Text
deriving DecidableEq

namespace Record

/-- A record by field names. -/
def toValue (record : Record) : Value :=
  .record [
    ("id", .bytes record.header.id),
    ("blogId", .bytes record.header.blogId),
    ("parentId", Post.optionalBytes record.header.parentId),
    ("author", record.header.author.toValue),
    ("authorStatus", .text record.header.authorStatus.word),
    ("timestamp", .int record.header.timestamp),
    ("timeReceived", .int record.header.timeReceived),
    ("text", .text record.text)]

/-- A feed by field names. -/
def listToValue (records : List Record) : Value := .list (records.map toValue)

end Record

end SignedBlog
