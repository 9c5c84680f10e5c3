import SignedBlog.Proofs.Base64
import SignedBlog.Proofs.Content
import SignedBlog.Proofs.Framing
import SignedBlog.Proofs.JsonValues

/-!
Different contents have different bytes.

What a post is signed over tells its blog, its time, its parent and its text, and with the label in
front also what for: `Post.labelled_eq_iff`. What a message id is taken over tells the author, the
parent, the text and the signature: `Post.bodyContent_inj`.
-/

namespace SignedBlog

set_option autoImplicit false

/-! ## Canonical bytes -/

namespace Canonical

theorem content_readBack {as bs : List (Text × Json)} (ha : (Json.object as).Integral)
    (hb : (Json.object bs).Integral) (h : content as = content bs) :
    Json.mapTextsFields (Json.readBack true) as = Json.mapTextsFields (Json.readBack true) bs := by
  have hversioned : ∀ {fields : List (Text × Json)}, (Json.object fields).Integral →
      (Json.object ((versionName, .int version) :: fields)).Integral := by
    intro fields hfields
    exact List.forall_mem_cons.mpr ⟨⟨version, rfl⟩, hfields⟩
  have hvalue := Json.readBackAs_eq Json.separates_compactAscii (hversioned ha) (hversioned hb)
    (Utf8.flatMap_encodeChar_injective h)
  exact (List.cons.inj (Json.object.inj hvalue)).2

theorem content_inj {as bs : List (Text × Json)} (ha : (Json.object as).Legible)
    (hb : (Json.object bs).Legible) (h : content as = content bs) : as = bs := by
  have hread := content_readBack ha.integral hb.integral h
  have hsame : ∀ {fields : List (Text × Json)}, (Json.object fields).Legible →
      Json.mapTextsFields (Json.readBack true) fields = fields := by
    intro fields hfields
    exact Json.mapTextsFields_eq_self fields fun t ht => Json.readBack_of_clean (hfields.clean t ht) true
  rwa [hsame ha, hsame hb] at hread

end Canonical

namespace Post

/-! ## Fields that may be missing -/

theorem legible_behindOptional {name : Text} (hname : name.Clean) (bytes : Option Bytes)
    {fields : List (Text × Json)} (h : (Json.object fields).Legible) :
    (Json.object (behindOptional name bytes fields)).Legible := by
  cases bytes with
  | none => exact h
  | some bytes =>
    exact Json.legible_object_cons.mpr ⟨hname, Json.legible_text.mpr (Base64.clean_encode bytes), h⟩

/-- Whether there are bytes is told by the first name, and which by their text. -/
theorem behindOptional_inj {name : Text} {bytes₁ bytes₂ : Option Bytes}
    {fields₁ fields₂ : List (Text × Json)} (h₁ : name ∉ fields₁.map Prod.fst)
    (h₂ : name ∉ fields₂.map Prod.fst)
    (h : behindOptional name bytes₁ fields₁ = behindOptional name bytes₂ fields₂) :
    bytes₁ = bytes₂ ∧ fields₁ = fields₂ := by
  match bytes₁, bytes₂ with
  | none, none => exact ⟨rfl, h⟩
  | none, some bytes =>
    change fields₁ = (name, _) :: fields₂ at h
    subst h
    exact absurd List.mem_cons_self h₁
  | some bytes, none =>
    change (name, _) :: fields₁ = fields₂ at h
    subst h
    exact absurd List.mem_cons_self h₂
  | some bytes, some bytes' =>
    obtain ⟨hfirst, hfields⟩ := List.cons.inj h
    have htext := Json.text.inj (Prod.mk.inj hfirst).2
    exact ⟨congrArg some (Base64.encode_injective htext), hfields⟩

/-! ## What is signed -/

/-- The fields that the signature covers. -/
def signedFields (blogId : Bytes) (timestamp : Int) (parentId : Option Bytes) (text : Text) :
    List (Text × Json) :=
  ("blogId", .text (Base64.encode blogId)) ::
    behindOptional "parentId" parentId [("text", .text text), ("timestamp", .int timestamp)]

theorem legible_signedFields (blogId : Bytes) (timestamp : Int) (parentId : Option Bytes)
    {text : Text} (h : text.Clean) :
    (Json.object (signedFields blogId timestamp parentId text)).Legible := by
  refine Json.legible_object_cons.mpr ⟨by decide, ?_, legible_behindOptional (by decide) _ ?_⟩
  · exact Json.legible_text.mpr (Base64.clean_encode blogId)
  · simp only [Json.legible_object_cons, Json.legible_text, Json.legible_int,
      Json.legible_object_nil, and_true]
    exact ⟨by decide, h, by decide⟩

theorem signedContent_inj {blogId₁ blogId₂ : Bytes} {timestamp₁ timestamp₂ : Int}
    {parentId₁ parentId₂ : Option Bytes} {text₁ text₂ : Text} (htext₁ : text₁.Clean)
    (htext₂ : text₂.Clean)
    (h : signedContent blogId₁ timestamp₁ parentId₁ text₁
      = signedContent blogId₂ timestamp₂ parentId₂ text₂) :
    blogId₁ = blogId₂ ∧ timestamp₁ = timestamp₂ ∧ parentId₁ = parentId₂ ∧ text₁ = text₂ := by
  have hfields := Canonical.content_inj (legible_signedFields blogId₁ timestamp₁ parentId₁ htext₁)
    (legible_signedFields blogId₂ timestamp₂ parentId₂ htext₂) h
  obtain ⟨hblog, hmore⟩ := List.cons.inj hfields
  -- a missing parent has no field at all, so the next name decides
  have hname : ("parentId" : Text) ∉ (["text", "timestamp"] : List Text) := by decide
  obtain ⟨hparent, hrest⟩ := behindOptional_inj hname hname hmore
  simp only [List.cons.injEq, Prod.mk.injEq, Json.text.injEq, Json.int.injEq, true_and,
    and_true] at hblog hrest
  exact ⟨Base64.encode_injective hblog, hrest.2, hparent, hrest.1⟩

/-- Whatever limit is set on digits, contents whose times may be written have bytes, and two labelled
ones are the same bytes only if their labels, blogs, times, parents and texts are the same. A content
whose time has too many digits has no bytes. -/
theorem labelled_eq_iff (digits : Option Nat) {label₁ label₂ text₁ text₂ : Text}
    {name₁ name₂ blogId₁ blogId₂ : Bytes} {timestamp₁ timestamp₂ : Int}
    {parentId₁ parentId₂ : Option Bytes}
    (hlabel₁ : label₁.utf8 = .ok name₁) (hlabel₂ : label₂.utf8 = .ok name₂)
    (hname₁ : name₁.length < 256 ^ 4) (hname₂ : name₂.length < 256 ^ 4) (htext₁ : text₁.Clean)
    (htext₂ : text₂.Clean) :
    (Integer.fits digits timestamp₁ = true → Integer.fits digits timestamp₂ = true →
      ∃ content₁ content₂,
        Canonical.bytes (signedPayload blogId₁ timestamp₁ parentId₁ text₁) payloadLevels digits
          = .ok content₁ ∧
        Canonical.bytes (signedPayload blogId₂ timestamp₂ parentId₂ text₂) payloadLevels digits
          = .ok content₂ ∧
        (Signature.labelled name₁ content₁ = Signature.labelled name₂ content₂ ↔
          label₁ = label₂ ∧ blogId₁ = blogId₂ ∧ timestamp₁ = timestamp₂ ∧
            parentId₁ = parentId₂ ∧ text₁ = text₂)) ∧
    (Integer.fits digits timestamp₁ = false →
      Canonical.bytes (signedPayload blogId₁ timestamp₁ parentId₁ text₁) payloadLevels digits
        = .error (.setting .longInteger)) := by
  refine ⟨fun hfits₁ hfits₂ => ?_, fun hlong => ?_⟩
  rotate_left
  · rw [bytes_signedPayload, Integer.checkDigits_of_long hlong]
    rfl
  refine ⟨signedContent blogId₁ timestamp₁ parentId₁ text₁,
    signedContent blogId₂ timestamp₂ parentId₂ text₂, ?_, ?_, ?_⟩
  · rw [bytes_signedPayload, Integer.checkDigits_of_fits hfits₁]
    rfl
  · rw [bytes_signedPayload, Integer.checkDigits_of_fits hfits₂]
    rfl
  obtain ⟨-, rfl⟩ := Text.utf8_eq_ok_iff.mp hlabel₁
  obtain ⟨-, rfl⟩ := Text.utf8_eq_ok_iff.mp hlabel₂
  constructor
  · intro h
    obtain ⟨hname, hcontent⟩ := Signature.labelled_inj hname₁ hname₂ h
    exact ⟨Utf8.flatMap_encodeChar_injective hname, signedContent_inj htext₁ htext₂ hcontent⟩
  · rintro ⟨rfl, rfl, rfl, rfl, rfl⟩
    rfl

/-- No parent is another content than a parent without bytes. -/
theorem labelled_ne_of_emptyParent :
    ("org.nodeblog/POST" : Text).utf8 = .ok Signature.postLabel ∧
      Signature.postLabel.length < 256 ^ 4 ∧ ("hello" : Text).Clean ∧
      ∃ content₁ content₂,
        Canonical.bytes (signedPayload [1] 5 none "hello") payloadLevels = .ok content₁ ∧
        Canonical.bytes (signedPayload [1] 5 (some []) "hello") payloadLevels = .ok content₂ ∧
        Signature.labelled Signature.postLabel content₁
          ≠ Signature.labelled Signature.postLabel content₂ := by
  have hlabel : ("org.nodeblog/POST" : Text).utf8 = .ok Signature.postLabel := rfl
  have hlength : Signature.postLabel.length < 256 ^ 4 := by decide
  have htext : ("hello" : Text).Clean := by decide
  refine ⟨hlabel, hlength, htext, ?_⟩
  have hfits : Integer.fits Integer.usualLimit 5 = true := by decide
  obtain ⟨content₁, content₂, hcontent₁, hcontent₂, heq⟩ :=
    (@labelled_eq_iff Integer.usualLimit _ _ _ _ _ _ [1] [1] 5 5 none (some []) hlabel hlabel
      hlength hlength htext htext).1 hfits hfits
  refine ⟨content₁, content₂, hcontent₁, hcontent₂, fun h => ?_⟩
  obtain ⟨-, -, -, hparent, -⟩ := heq.mp h
  cases hparent

/-! ## What a message id is taken over -/

/-- The fields behind the author. -/
def textFields (parentId : Option Bytes) (text : Text) (signature : Bytes) : List (Text × Json) :=
  behindOptional "parentId" parentId
    [("signature", .text (Base64.encode signature)), ("text", .text text)]

/-- The fields that the message id covers. -/
def bodyFields (author : Author) (parentId : Option Bytes) (text : Text) (signature : Bytes) :
    List (Text × Json) :=
  ("author", .object [("formatVersion", .int author.formatVersion), ("name", .text author.name),
    ("publicKey", .text (Base64.encode author.publicKey))]) :: textFields parentId text signature

theorem legible_textFields (parentId : Option Bytes) {text : Text} (h : text.Clean)
    (signature : Bytes) : (Json.object (textFields parentId text signature)).Legible := by
  refine legible_behindOptional (by decide) parentId ?_
  simp only [Json.legible_object_cons, Json.legible_text, Json.legible_object_nil, and_true]
  exact ⟨by decide, Base64.clean_encode signature, by decide, h⟩

theorem integral_bodyFields (author : Author) (parentId : Option Bytes) {text : Text}
    (h : text.Clean) (signature : Bytes) :
    (Json.object (bodyFields author parentId text signature)).Integral :=
  List.forall_mem_cons.mpr
    ⟨⟨author.formatVersion, rfl⟩, (legible_textFields parentId h signature).integral⟩

/-- Of the fields only the name may be read back as another one. -/
theorem mapTextsFields_bodyFields (author : Author) (parentId : Option Bytes) {text : Text}
    (h : text.Clean) (signature : Bytes) :
    Json.mapTextsFields (Json.readBack true) (bodyFields author parentId text signature)
      = bodyFields { author with name := Json.readBack true author.name } parentId text
          signature := by
  have hrest := Json.mapTextsFields_eq_self (textFields parentId text signature) fun t ht =>
    Json.readBack_of_clean ((legible_textFields parentId h signature).clean t ht) true
  have hkey := Json.readBack_of_clean (Base64.clean_encode author.publicKey) true
  simp only [bodyFields, Json.mapTextsFields, Json.mapTexts, hrest, hkey]
  rfl

/-- The bytes tell a name up to its pairs of surrogates, and everything else. -/
theorem bodyContent_inj {author₁ author₂ : Author} {parentId₁ parentId₂ : Option Bytes}
    {text₁ text₂ : Text} {signature₁ signature₂ : Bytes} (htext₁ : text₁.Clean)
    (htext₂ : text₂.Clean)
    (h : bodyContent author₁ parentId₁ text₁ signature₁
      = bodyContent author₂ parentId₂ text₂ signature₂) :
    (author₁.formatVersion = author₂.formatVersion ∧
        Json.readBack true author₁.name = Json.readBack true author₂.name ∧
        author₁.publicKey = author₂.publicKey) ∧
      parentId₁ = parentId₂ ∧ text₁ = text₂ ∧ signature₁ = signature₂ := by
  have hfields := Canonical.content_readBack
    (integral_bodyFields author₁ parentId₁ htext₁ signature₁)
    (integral_bodyFields author₂ parentId₂ htext₂ signature₂) h
  rw [mapTextsFields_bodyFields author₁ parentId₁ htext₁ signature₁,
    mapTextsFields_bodyFields author₂ parentId₂ htext₂ signature₂] at hfields
  obtain ⟨hauthor, hmore⟩ := List.cons.inj hfields
  have hname : ("parentId" : Text) ∉ (["signature", "text"] : List Text) := by decide
  obtain ⟨hparent, hrest⟩ := behindOptional_inj hname hname hmore
  simp only [List.cons.injEq, Prod.mk.injEq, Json.object.injEq, Json.text.injEq, Json.int.injEq,
    true_and, and_true] at hauthor hrest
  exact ⟨⟨hauthor.1, hauthor.2.1, Base64.encode_injective hauthor.2.2⟩, hparent, hrest.2,
    Base64.encode_injective hrest.1⟩

end Post

end SignedBlog
