import Mathlib.Algebra.GroupWithZero.Nat
import SignedBlog.Proofs.Authenticity
import SignedBlog.Proofs.Base64
import SignedBlog.Proofs.JsonStrings
import SignedBlog.Proofs.Utf8

/-!
Whatever text fits is made into a post.

The written contents of a post grow at most linearly in its parts, so an author with a short name
gets a message id for every text that fits, at every time that fits into eight bytes:
`Post.compose_eq_made`. The signature is the same under every name: `Node.valid_annsPost`.
-/

namespace SignedBlog

set_option autoImplicit false

/-! ## Lengths of written values -/

theorem Base64.length_encode_le (bs : Bytes) : (encode bs).length ≤ 2 * bs.length + 4 := by
  rw [encode, List.length_append, List.length_map, length_groups, List.length_replicate, padding]
  omega

theorem Utf8.length_encodeChar_le (c : CodePoint) : (encodeChar c).length ≤ 4 := by
  unfold encodeChar
  split
  · simp
  split
  · simp
  split <;> simp

theorem Utf8.length_flatMap_le (t : Text) : (t.flatMap encodeChar).length ≤ 4 * t.length := by
  induction t with
  | nil => simp
  | cons c t ih =>
    have hc := length_encodeChar_le c
    rw [List.flatMap_cons, List.length_append, List.length_cons]
    omega

namespace Json

theorem length_escapeUnit (n : Nat) : (escapeUnit n).length = 6 := by
  rw [escapeUnit, List.length_cons, List.length_cons, length_hexDigits]

theorem length_escapeChar_le (asciiOnly : Bool) (c : CodePoint) :
    (escapeChar asciiOnly c).length ≤ 12 := by
  have hescaped := escapeChar_escaped asciiOnly c
  generalize escapeChar asciiOnly c = w at hescaped
  cases hescaped <;> simp [length_escapeUnit]

theorem length_quote_le (asciiOnly : Bool) (t : Text) :
    (quote asciiOnly t).length ≤ 12 * t.length + 2 := by
  have hescaped : (t.flatMap (escapeChar asciiOnly)).length ≤ 12 * t.length := by
    induction t with
    | nil => simp
    | cons c t ih =>
      have hc := length_escapeChar_le asciiOnly c
      rw [List.flatMap_cons, List.length_append, List.length_cons]
      omega
  rw [quote, List.length_append, List.length_cons, List.length_singleton]
  omega

theorem length_join_le (separator : Text) (items : List Text) :
    (Text.join separator items).length
      ≤ (items.map fun item => item.length + separator.length).sum := by
  match items with
  | [] => simp [Text.join]
  | [item] => simp [Text.join]
  | item :: next :: items =>
    have ih := length_join_le separator (next :: items)
    change (item ++ separator ++ Text.join separator (next :: items)).length ≤ _
    rw [List.length_append, List.length_append, List.map_cons, List.sum_cons]
    omega

theorem length_enclose_le (level : Nat) (opening closing : CodePoint) (items : List Text) :
    (enclose .compactAscii level opening closing items).length
      ≤ (items.map fun item => item.length + 1).sum + 2 := by
  have hjoin := length_join_le "," items
  cases items with
  | nil => simp [enclose]
  | cons item items =>
    refine Nat.le_trans ?_ (Nat.add_le_add_right hjoin 2)
    simp [enclose, Layout.lineBreak, Layout.compactAscii]

mutual

/-- As many code points as a value has at most when it is written without blanks. -/
def mass : Json → Nat
  | .text t => 12 * t.length + 2
  | .array items => massItems items + 2
  | .object fields => massFields fields + 2
  | value => (value.write .compactAscii).length

def massItems : List Json → Nat
  | [] => 0
  | item :: items => mass item + 1 + massItems items

def massFields : List (Text × Json) → Nat
  | [] => 0
  | (name, value) :: fields => 12 * name.length + mass value + 4 + massFields fields

end

mutual

theorem length_writeAt_le (level : Nat) (value : Json) :
    (writeAt .compactAscii level value).length ≤ value.mass := by
  match value with
  | .null | .bool true | .bool false | .int _ | .float _ => exact Nat.le_refl _
  | .text t => exact length_quote_le true t
  | .array items =>
    refine Nat.le_trans (length_enclose_le level _ _ _) ?_
    rw [mass]
    exact Nat.add_le_add_right (length_writeItems_le (level + 1) items) 2
  | .object fields =>
    refine Nat.le_trans (length_enclose_le level _ _ _) ?_
    rw [mass]
    exact Nat.add_le_add_right (length_writeFields_le (level + 1) fields) 2

theorem length_writeItems_le (level : Nat) (items : List Json) :
    ((writeItems .compactAscii level items).map fun item => item.length + 1).sum
      ≤ massItems items := by
  match items with
  | [] => exact Nat.le_refl _
  | item :: items =>
    have hitem := length_writeAt_le level item
    have hitems := length_writeItems_le level items
    rw [writeItems, List.map_cons, List.sum_cons, massItems]
    omega

theorem length_writeFields_le (level : Nat) (fields : List (Text × Json)) :
    ((writeFields .compactAscii level fields).map fun field => field.length + 1).sum
      ≤ massFields fields := by
  match fields with
  | [] => exact Nat.le_refl _
  | (name, value) :: fields =>
    have hname := length_quote_le true name
    have hvalue := length_writeAt_le level value
    have hfields := length_writeFields_le level fields
    have hcolon : Layout.compactAscii.colon.length = 1 := rfl
    have hascii : Layout.compactAscii.asciiOnly = true := rfl
    rw [writeFields, List.map_cons, List.sum_cons, massFields, List.length_append,
      List.length_append, hcolon, hascii]
    omega

end

end Json

/-! ## Posts made here -/

namespace Post

theorem length_bodyContent_le (name text : Text) (seed : Ed25519.Seed) (signature : Bytes) :
    (bodyContent (LocalAuthor.ofSeed name seed).toAuthor none text signature).length
      ≤ 4 * (12 * name.length + 12 * text.length + 24 * signature.length + 2000) := by
  have hkey := Base64.length_encode_le seed.publicKey
  have hsignature := Base64.length_encode_le signature
  have hversion : ((Json.int 1).write .compactAscii).length = 1 := rfl
  have hnames : Canonical.versionName.length = 9 ∧ ("author" : Text).length = 6 ∧
      ("formatVersion" : Text).length = 13 ∧ ("name" : Text).length = 4 ∧
      ("publicKey" : Text).length = 9 ∧ ("signature" : Text).length = 9 ∧
      ("text" : Text).length = 4 := by decide
  rw [Ed25519.Seed.length_publicKey] at hkey
  refine Nat.le_trans (Utf8.length_flatMap_le _) (Nat.mul_le_mul_left 4 ?_)
  refine Nat.le_trans (Json.length_writeAt_le 0 _) ?_
  simp only [behindOptional, Json.mass, Json.massFields, LocalAuthor.ofSeed,
    Author.currentVersion, Canonical.version, hversion]
  omega

theorem TextFits.clean {text : Text} (h : TextFits text) : text.Clean := by
  obtain ⟨bytes, hbytes, -⟩ := h
  exact (Utf8.encode_eq_ok_iff.mp hbytes).1

theorem TextFits.length_le {text : Text} (h : TextFits text) : text.length ≤ maxTextLength := by
  obtain ⟨bytes, hbytes, hlength⟩ := h
  obtain ⟨-, rfl⟩ := Utf8.encode_eq_ok_iff.mp hbytes
  exact Nat.le_trans (Utf8.length_le_flatMap text) hlength

/-- The post that an author makes of a text for the own blog at some time. -/
def made (author : LocalAuthor) (timestamp : Int) (text : Text) : Post :=
  let blogId := Identifier.blog author.id
  let signature := Signature.sign Signature.postLabel (signedContent blogId timestamp none text)
    author.seed
  { messageId := Identifier.digest Identifier.messageLabel
      [blogId, Bytes.bigEndian 8 timestamp.toNat, bodyContent author.toAuthor none text signature]
    blogId := blogId
    parentId := none
    author := author.toAuthor
    timestamp := timestamp
    text := text
    signature := signature }

/-- A post under another name and another id. -/
def renamed (post : Post) (name : Text) (messageId : Bytes) : Post :=
  { post with messageId, author := { post.author with name } }

section Made

variable {name text : Text} {seed : Ed25519.Seed} {timestamp : Int}

/-- Under another name an author makes the same post, with another id. -/
theorem renamed_made (newName : Text) (messageId : Bytes) :
    (made (.ofSeed name seed) timestamp text).renamed newName messageId
      = { made (.ofSeed newName seed) timestamp text with messageId } :=
  rfl

theorem message_made (hname : name.length ≤ maxNameLength) (htext : text.length ≤ maxTextLength)
    (h₀ : 0 ≤ timestamp) (htime : timestamp < 256 ^ 8) :
    Identifier.message (made (.ofSeed name seed) timestamp text).blogId timestamp
        (made (.ofSeed name seed) timestamp text).body
      = .ok (made (.ofSeed name seed) timestamp text).messageId := by
  have hblog : (made (.ofSeed name seed) timestamp text).blogId.length = 32 :=
    Identifier.length_digest _ _
  have hsignature : (made (.ofSeed name seed) timestamp text).signature.length = 64 :=
    Ed25519.length_sign _ _
  have hbody := length_bodyContent_le name text seed
    (made (.ofSeed name seed) timestamp text).signature
  change (made (.ofSeed name seed) timestamp text).body.length ≤ _ at hbody
  unfold maxNameLength at hname
  unfold maxTextLength at htext
  exact Identifier.message_eq_ok h₀ htime (by omega) (by omega)

theorem compose_eq_made (hname : name.length ≤ maxNameLength) (htext : TextFits text)
    (h₀ : 0 ≤ timestamp) (htime : timestamp < 256 ^ 8) :
    compose (Identifier.blog (LocalAuthor.ofSeed name seed).id) timestamp none
      (.ofSeed name seed) text = .ok (made (.ofSeed name seed) timestamp text) := by
  rw [compose_of_fits htext (Integer.fits_of_eightBytes h₀ htime)
    (Identifier.fits_of_author (LocalAuthor.author_ofSeed name seed))]
  change (Identifier.message (made (.ofSeed name seed) timestamp text).blogId timestamp
    (made (.ofSeed name seed) timestamp text).body >>= fun _ => _) = _
  rw [message_made hname htext.length_le h₀ htime]
  rfl

theorem valid_made (hname : name.length ≤ maxNameLength) (htext : TextFits text)
    (h₀ : 0 ≤ timestamp) (htime : timestamp < 256 ^ 8)
    (haccepted : Signature.verify Signature.postLabel
      (signedContent (Identifier.blog (LocalAuthor.ofSeed name seed).id) timestamp none text)
      (made (.ofSeed name seed) timestamp text).signature seed.publicKey = true) :
    (made (.ofSeed name seed) timestamp text).Valid :=
  valid_of_compose (compose_eq_made hname htext h₀ htime) haccepted

end Made

end Post

namespace Node

theorem annsSignature_accepted :
    ann.seed.Accepted (Signature.labelled Signature.postLabel
      (Post.signedContent (Identifier.blog ann.id) 5 none "hello")) :=
  annsSignings_accepted (ann.seed, Signature.labelled Signature.postLabel
    (Post.signedContent (Identifier.blog ann.id) 5 none "hello")) (List.mem_singleton.mpr rfl)

/-- A post made with a known seed, under some name. -/
def annsPost (name : Text) : Post := .made (.ofSeed name ann.seed) 5 "hello"

/-- What is signed does not change with the name, so the post is valid under each. -/
theorem valid_annsPost {name : Text} (hname : name.length ≤ maxNameLength) :
    (annsPost name).Valid := by
  have htext : Post.TextFits "hello" := ⟨_, rfl, by decide⟩
  exact Post.valid_made hname htext (by decide) (by decide) annsSignature_accepted

set_option maxRecDepth 100000 in
theorem annsPost_ids_ne : (annsPost "ann").messageId ≠ (annsPost "eve").messageId := by
  decide +kernel

end Node

end SignedBlog
