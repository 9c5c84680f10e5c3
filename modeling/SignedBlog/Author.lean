import SignedBlog.Identifier
import SignedBlog.Signature

/-!
Authors: who signs posts.

An author is known by a public key, from which the id is derived, and by a display name that need
not be unique. `Author.create` and `LocalAuthor.create` are the checked ways to make one.
-/

namespace SignedBlog

set_option autoImplicit false

/-- An author as a peer announces it; the fields need not belong together. -/
structure Author where
  formatVersion : Int
  id : Bytes
  name : Text
  publicKey : Bytes
deriving DecidableEq

/-- An author whose secret key this node holds. -/
structure LocalAuthor extends Author where
  seed : Ed25519.Seed
deriving DecidableEq

namespace Author

/-- The format version of authors made here. -/
def currentVersion : Int := 1

/-- A name has at least one code point and at most fifty UTF-8 bytes. -/
def checkName (name : Text) : Except Fault Unit :=
  if name.isEmpty then .error (.identity .emptyName)
  else match name.utf8 with
    | .error fault => .error fault
    | .ok bytes => if maxNameLength < bytes.length then .error (.identity .longName) else .ok ()

/-- The author of a public key. -/
def create (name : Text) (publicKey : Bytes) (formatVersion : Int) : Except Fault Author :=
  match checkName name with
  | .error fault => .error fault
  | .ok () =>
    if publicKey.length = publicKeyLength then
      (Identifier.author formatVersion publicKey).map fun id => ⟨formatVersion, id, name, publicKey⟩
    else .error (.identity (.publicKeySize publicKey.length))

end Author

namespace LocalAuthor

/-- The local author of a name and a seed, unchecked. -/
def ofSeed (name : Text) (seed : Ed25519.Seed) : LocalAuthor where
  formatVersion := Author.currentVersion
  id := Identifier.digest Identifier.authorLabel [[1], seed.publicKey]
  name := name
  publicKey := seed.publicKey
  seed := seed

/-- The id of a local author is the one derived from its version and key. -/
theorem author_ofSeed (name : Text) (seed : Ed25519.Seed) :
    Identifier.author (ofSeed name seed).formatVersion (ofSeed name seed).publicKey
      = .ok (ofSeed name seed).id := by
  change Identifier.digestFitting Identifier.authorLabel [[1], seed.publicKey] = _
  rw [Identifier.digestFitting_of_fits]
  · rfl
  · simp

/-- The local author of a name and a secret key. -/
def create (name : Text) (privateKey : Bytes) : Except Fault LocalAuthor :=
  match Author.checkName name with
  | .error fault => .error fault
  | .ok () =>
    match Ed25519.Seed.ofBytes? privateKey with
    | none => .error (.identity .seedLength)
    | some seed => .ok (ofSeed name seed)

end LocalAuthor

end SignedBlog
