import SignedBlog.Crypto.Ed25519
import SignedBlog.Encoding

/-!
Signatures for a purpose. The purpose is a label in front of what is signed, behind its own length,
so that a signature made for one purpose is none for another.
-/

namespace SignedBlog.Signature

set_option autoImplicit false

/-- What is signed: the label behind its length, and the message. -/
def labelled (label message : Bytes) : Bytes :=
  Bytes.bigEndian 4 label.length ++ label ++ message

/-- The purpose of signing a post. -/
def postLabel : Bytes := Bytes.ofString "org.nodeblog/POST"

def sign (label message : Bytes) (seed : Ed25519.Seed) : Bytes :=
  Ed25519.sign seed (labelled label message)

def verify (label message signature publicKey : Bytes) : Bool :=
  Ed25519.verify publicKey (labelled label message) signature

/-- Bytes as a seed, or the fault that there are not thirty-two. -/
def seed (bs : Bytes) : Except Fault Ed25519.Seed :=
  match Ed25519.Seed.ofBytes? bs with
  | some seed => .ok seed
  | none => .error .seedLength

/-- Signs under a label given as text; the seed is looked at first. -/
def signAs (label : Text) (message privateKey : Bytes) : Except Fault Bytes :=
  match seed privateKey with
  | .error fault => .error fault
  | .ok seed => label.utf8.map fun label => sign label message seed

/-- Verifies under a label given as text; under a label without UTF-8 form nothing is signed. -/
def verifyAs (label : Text) (message signature publicKey : Bytes) : Bool :=
  match Utf8.encode label with
  | .error _ => false
  | .ok label => verify label message signature publicKey

end SignedBlog.Signature
