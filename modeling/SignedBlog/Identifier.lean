import SignedBlog.Crypto.Sha2
import SignedBlog.Encoding

/-!
Labelled SHA-256 identifiers.

A digest covers a label and parts that each carry their length in four bytes, so that no two lists
of parts run together into the same bytes. Every kind of identifier has a label of its own.
-/

namespace SignedBlog.Identifier

set_option autoImplicit false

/-- A part behind its length. -/
def frame (part : Bytes) : Bytes := Bytes.bigEndian 4 part.length ++ part

/-- What is hashed: the label and the framed parts. -/
def preimage (label : Bytes) (parts : List Bytes) : Bytes := label ++ parts.flatMap frame

def digest (label : Bytes) (parts : List Bytes) : Bytes := Sha2.sha256 (preimage label parts)

@[simp] theorem length_digest (label : Bytes) (parts : List Bytes) :
    (digest label parts).length = 32 :=
  Sha2.length_sha256 _

/-- The digest of parts of which each is short enough for its length to be told in four bytes. -/
def digestFitting (label : Bytes) (parts : List Bytes) : Except Fault Bytes :=
  if parts.all fun part => decide (part.length < Nat.pow 256 4) then .ok (digest label parts)
  else .error (.range .tooBig)

theorem digestFitting_of_fits {label : Bytes} {parts : List Bytes}
    (h : ∀ part ∈ parts, part.length < Nat.pow 256 4) :
    digestFitting label parts = .ok (digest label parts) := by
  unfold digestFitting
  rw [if_pos]
  simpa using h

/-- The digest under a label given as text. -/
def digestOf (label : Text) (parts : List Bytes) : Except Fault Bytes :=
  match label.utf8 with
  | .error fault => .error fault
  | .ok label => digestFitting label parts

def authorLabel : Bytes := Bytes.ofString "org.nodeblog/AUTHOR_ID"

def blogLabel : Bytes := Bytes.ofString "org.nodeblog/BLOG_ID"

def messageLabel : Bytes := Bytes.ofString "org.nodeblog/MESSAGE_ID"

/-- The id of an author rests on the format version, one byte, and the public key. -/
def author (formatVersion : Int) (publicKey : Bytes) : Except Fault Bytes :=
  match Bytes.ofInteger 1 formatVersion with
  | .error fault => .error fault
  | .ok version => digestFitting authorLabel [version, publicKey]

/-- The id of the personal blog of an author, whose id is taken to be no longer than any id is. -/
def blog (authorId : Bytes) : Bytes := digest blogLabel [authorId]

/-- The id of a message rests on its blog, its time in eight bytes, and its body. -/
def message (blogId : Bytes) (timestamp : Int) (body : Bytes) : Except Fault Bytes :=
  if timestamp < 0 then
    -- the wording of the refusal has the time in it
    if Integer.fits Integer.usualLimit timestamp then .error (.payload (.negativeTimestamp timestamp))
    else .error (.setting .longInteger)
  else
    match Bytes.ofInteger 8 timestamp with
    | .error fault => .error fault
    | .ok time => digestFitting messageLabel [blogId, time, body]

end SignedBlog.Identifier
