import SignedBlog.Proofs.Authorship
import SignedBlog.Proofs.Content

/-!
When a post verifies, and how verification fails.

* `Post.Valid` is what verification checks, part by part: `Post.verify_eq_ok_iff`.
* `Post.Escapes` are the faults that are no verdict on the post: a number or a part that does not
  fit where an id is derived, or a time with more digits than may be written. Verification ends with
  such a fault (`Post.verify_of_escapes`), and otherwise a post that is not valid is found to have a
  defect (`Post.verify_of_not_valid`).
* `Post.valid_of_compose` says that a post made here is valid if its signature is accepted.
-/

namespace SignedBlog

set_option autoImplicit false

namespace Post

/-! ## What verification checks -/

/-- A text has a UTF-8 form that is short enough. -/
def TextFits (text : Text) : Prop :=
  ∃ bytes, Utf8.encode text = .ok bytes ∧ bytes.length ≤ maxTextLength

/-- The text of a post may be published, and its blog is that of its author. -/
structure Placed (post : Post) : Prop where
  textFits : TextFits post.text
  authorId : Identifier.author post.author.formatVersion post.author.publicKey = .ok post.author.id
  ownBlog : post.blogId = Identifier.blog post.author.id

/-- Everything about a post but its message id belongs together. -/
structure Sealed (post : Post) : Prop extends Placed post where
  timestampFits : Integer.fits Integer.usualLimit post.timestamp = true
  signed : Signature.verify Signature.postLabel
    (signedContent post.blogId post.timestamp post.parentId post.text) post.signature
    post.author.publicKey = true

/-- The body of the message that a post is. -/
def body (post : Post) : Bytes :=
  bodyContent post.author post.parentId post.text post.signature

/-- Everything about a post belongs together. -/
structure Valid (post : Post) : Prop extends Sealed post where
  messageId : Identifier.message post.blogId post.timestamp post.body = .ok post.messageId

/-- A fault in deriving an id of a post or in writing its time, with all that is checked before in
order. -/
inductive Escapes (post : Post) (fault : Fault) : Prop where
  | author : TextFits post.text →
      Identifier.AuthorFault post.author.formatVersion post.author.publicKey fault →
      Escapes post fault
  | timestamp : post.Placed → Integer.fits Integer.usualLimit post.timestamp = false →
      fault = .setting .longInteger → Escapes post fault
  | message : post.Sealed → Identifier.MessageFault post.blogId post.timestamp post.body fault →
      Escapes post fault

/-! ## What verification answers -/

theorem checkText_eq_ok {text : Text} (h : TextFits text) : checkText text = .ok () := by
  obtain ⟨bytes, hbytes, hlength⟩ := h
  unfold checkText
  rw [hbytes]
  exact if_neg (Nat.not_lt.mpr hlength)

theorem checkText_eq_defect {text : Text} (h : ¬ TextFits text) :
    ∃ defect, checkText text = .error (.invalidPost defect) := by
  unfold checkText
  cases hbytes : Utf8.encode text with
  | error run => exact ⟨_, rfl⟩
  | ok bytes =>
    have hlength : maxTextLength < bytes.length := by
      by_cases hle : bytes.length ≤ maxTextLength
      · exact absurd ⟨bytes, hbytes, hle⟩ h
      · omega
    exact ⟨_, if_pos hlength⟩

@[simp] theorem require_true (defect : PostDefect) : require true defect = .ok () := rfl

@[simp] theorem require_false (defect : PostDefect) :
    require false defect = .error (.invalidPost defect) := rfl

/-- Verification on the contents written out. -/
theorem verify_eq (post : Post) :
    post.verify = (do
      checkText post.text
      let authorId ← Identifier.author post.author.formatVersion post.author.publicKey
      require (post.author.id = authorId) .foreignAuthorId
      require (post.blogId = Identifier.blog post.author.id) .foreignBlog
      Integer.checkDigits Integer.usualLimit post.timestamp
      require (Signature.verify Signature.postLabel
        (signedContent post.blogId post.timestamp post.parentId post.text) post.signature
        post.author.publicKey) .badSignature
      Integer.checkDigits Integer.usualLimit post.author.formatVersion
      let messageId ← Identifier.message post.blogId post.timestamp post.body
      require (post.messageId = messageId) .wrongMessageId) := by
  unfold verify body
  simp only [bytes_signedPayload, bytes_bodyPayload, Integer.map_checkDigits_bind]

/-- A placed post is checked for the digits of its time, its signature and its message id. -/
theorem Placed.verify_eq {post : Post} (h : post.Placed) :
    post.verify = (do
      Integer.checkDigits Integer.usualLimit post.timestamp
      require (Signature.verify Signature.postLabel
        (signedContent post.blogId post.timestamp post.parentId post.text) post.signature
        post.author.publicKey) .badSignature
      let messageId ← Identifier.message post.blogId post.timestamp post.body
      require (post.messageId = messageId) .wrongMessageId) := by
  have hversion := Identifier.fits_of_author h.authorId
  rw [Post.verify_eq, checkText_eq_ok h.textFits, h.authorId, ← h.ownBlog,
    Integer.checkDigits_of_fits hversion]
  change (require (decide (post.author.id = post.author.id)) _ >>= fun _ =>
    require (decide (post.blogId = post.blogId)) _ >>= fun _ => _) = _
  rw [decide_eq_true rfl, decide_eq_true rfl]
  rfl

/-- A sealed post is only checked for its message id. -/
theorem Sealed.verify_eq {post : Post} (h : post.Sealed) :
    post.verify = (do
      let messageId ← Identifier.message post.blogId post.timestamp post.body
      require (post.messageId = messageId) .wrongMessageId) := by
  rw [h.toPlaced.verify_eq, Integer.checkDigits_of_fits h.timestampFits, h.signed]
  rfl

theorem verify_of_valid {post : Post} (h : post.Valid) : post.verify = .ok () := by
  rw [h.toSealed.verify_eq, h.messageId]
  change require (decide (post.messageId = post.messageId)) _ = _
  rw [decide_eq_true rfl, require_true]

theorem verify_of_escapes {post : Post} {fault : Fault} (h : post.Escapes fault) :
    post.verify = .error fault := by
  cases h with
  | author htext hfault =>
    rw [verify_eq, checkText_eq_ok htext, Identifier.author_eq_error hfault]
    rfl
  | timestamp hplaced hlong hfault =>
    rw [hplaced.verify_eq, Integer.checkDigits_of_long hlong, hfault]
    rfl
  | message hsealed hfault =>
    rw [hsealed.verify_eq, Identifier.message_eq_error hfault]
    rfl

/-- A post that is not placed has a defect, unless the id of its author cannot be derived. -/
theorem verify_of_not_placed {post : Post} (hplaced : ¬ post.Placed)
    (hfits : ∀ fault, ¬ post.Escapes fault) :
    ∃ defect, post.verify = .error (.invalidPost defect) := by
  rw [verify_eq]
  by_cases htext : TextFits post.text
  rotate_left
  · obtain ⟨defect, hdefect⟩ := checkText_eq_defect htext
    rw [hdefect]
    exact ⟨defect, rfl⟩
  rw [checkText_eq_ok htext]
  obtain ⟨authorId, hauthor⟩ | ⟨fault, hfault⟩ :=
    Identifier.author_ok_or_fault post.author.formatVersion post.author.publicKey
  rotate_left
  · exact absurd (.author htext hfault) (hfits fault)
  rw [hauthor]
  by_cases hid : post.author.id = authorId
  rotate_left
  · exact ⟨.foreignAuthorId, by simp only [hid, decide_false, require_false, bind, Except.bind]⟩
  subst hid
  have hblog : post.blogId ≠ Identifier.blog post.author.id :=
    fun hblog => hplaced ⟨htext, hauthor, hblog⟩
  exact ⟨.foreignBlog, by
    simp only [hblog, decide_true, decide_false, require_true, require_false, bind, Except.bind]⟩

/-- Where an id can be derived or is not reached, a post that is not valid has a defect. -/
theorem verify_of_not_valid {post : Post} (hvalid : ¬ post.Valid)
    (hfits : ∀ fault, ¬ post.Escapes fault) :
    ∃ defect, post.verify = .error (.invalidPost defect) := by
  by_cases hplaced : post.Placed
  rotate_left
  · exact verify_of_not_placed hplaced hfits
  rw [hplaced.verify_eq]
  cases htime : Integer.fits Integer.usualLimit post.timestamp with
  | false => exact absurd (.timestamp hplaced htime rfl) (hfits _)
  | true =>
    rw [Integer.checkDigits_of_fits htime]
    cases hsigned : Signature.verify Signature.postLabel
      (signedContent post.blogId post.timestamp post.parentId post.text) post.signature
      post.author.publicKey with
    | false => exact ⟨.badSignature, rfl⟩
    | true =>
      have hsealed : post.Sealed := ⟨hplaced, htime, hsigned⟩
      obtain ⟨messageId, hmessage⟩ | ⟨fault, hfault⟩ :=
        Identifier.message_ok_or_fault post.blogId post.timestamp post.body
      rotate_left
      · exact absurd (.message hsealed hfault) (hfits fault)
      have hother : post.messageId ≠ messageId := by
        intro heq
        exact hvalid ⟨hsealed, heq ▸ hmessage⟩
      refine ⟨.wrongMessageId, ?_⟩
      rw [hmessage]
      change require (decide (post.messageId = messageId)) _ = _
      rw [decide_eq_false hother, require_false]

theorem Escapes.ne_defect {post : Post} {fault : Fault} (h : post.Escapes fault)
    (defect : PostDefect) : fault ≠ .invalidPost defect := by
  cases h with
  | author _ hfault => cases hfault <;> exact Fault.noConfusion
  | timestamp _ _ hfault =>
    rw [hfault]
    exact Fault.noConfusion
  | message _ hfault => cases hfault <;> exact Fault.noConfusion

theorem verify_eq_ok_iff (post : Post) : post.verify = .ok () ↔ post.Valid := by
  refine ⟨fun hok => ?_, verify_of_valid⟩
  by_cases hescapes : ∃ fault, post.Escapes fault
  · obtain ⟨fault, hfault⟩ := hescapes
    rw [verify_of_escapes hfault] at hok
    cases hok
  · refine Classical.byContradiction fun hvalid => ?_
    obtain ⟨defect, hdefect⟩ :=
      verify_of_not_valid hvalid fun fault hfault => hescapes ⟨fault, hfault⟩
    rw [hdefect] at hok
    cases hok

/-! ## Posts made here -/

/-- Composition on the contents written out. -/
theorem compose_eq (blogId : Bytes) (timestamp : Int) (parentId : Option Bytes)
    (author : LocalAuthor) (text : Text) :
    compose blogId timestamp parentId author text = (do
      checkText text
      Integer.checkDigits Integer.usualLimit timestamp
      let signature := Signature.sign Signature.postLabel
        (signedContent blogId timestamp parentId text) author.seed
      Integer.checkDigits Integer.usualLimit author.formatVersion
      let messageId ← Identifier.message blogId timestamp
        (bodyContent author.toAuthor parentId text signature)
      return ⟨messageId, blogId, parentId, author.toAuthor, timestamp, text, signature⟩) := by
  unfold compose
  simp only [bytes_signedPayload, bytes_bodyPayload, Integer.map_checkDigits_bind]

/-- Where text, time and version may be written, only the message id is left to fail. -/
theorem compose_of_fits {blogId : Bytes} {timestamp : Int} {parentId : Option Bytes}
    {author : LocalAuthor} {text : Text} (htext : TextFits text)
    (htime : Integer.fits Integer.usualLimit timestamp = true)
    (hversion : Integer.fits Integer.usualLimit author.formatVersion = true) :
    compose blogId timestamp parentId author text = (do
      let signature := Signature.sign Signature.postLabel
        (signedContent blogId timestamp parentId text) author.seed
      let messageId ← Identifier.message blogId timestamp
        (bodyContent author.toAuthor parentId text signature)
      return ⟨messageId, blogId, parentId, author.toAuthor, timestamp, text, signature⟩) := by
  rw [compose_eq, checkText_eq_ok htext, Integer.checkDigits_of_fits htime,
    Integer.checkDigits_of_fits hversion]
  rfl

/-- A time or a version with too many digits cannot be signed. -/
theorem compose_of_long {blogId : Bytes} {timestamp : Int} {parentId : Option Bytes}
    {author : LocalAuthor} {text : Text} (htext : TextFits text)
    (h : ¬ (Integer.fits Integer.usualLimit timestamp = true ∧
      Integer.fits Integer.usualLimit author.formatVersion = true)) :
    compose blogId timestamp parentId author text = .error (.setting .longInteger) := by
  rw [compose_eq, checkText_eq_ok htext]
  cases htime : Integer.fits Integer.usualLimit timestamp with
  | false =>
    rw [Integer.checkDigits_of_long htime]
    rfl
  | true =>
    have hversion := Bool.eq_false_iff.mpr fun hversion => h ⟨htime, hversion⟩
    rw [Integer.checkDigits_of_fits htime, Integer.checkDigits_of_long hversion]
    rfl

theorem fits_of_compose {blogId : Bytes} {timestamp : Int} {parentId : Option Bytes}
    {author : LocalAuthor} {text : Text} {post : Post}
    (h : compose blogId timestamp parentId author text = .ok post) :
    TextFits text ∧ Integer.fits Integer.usualLimit timestamp = true ∧
      Integer.fits Integer.usualLimit author.formatVersion = true := by
  by_cases htext : TextFits text
  rotate_left
  · obtain ⟨defect, hdefect⟩ := checkText_eq_defect htext
    rw [compose_eq, hdefect] at h
    cases h
  refine ⟨htext, Decidable.byContradiction fun hlong => ?_⟩
  rw [compose_of_long htext hlong] at h
  cases h

theorem compose_eq_ok {blogId : Bytes} {timestamp : Int} {parentId : Option Bytes}
    {author : LocalAuthor} {text : Text} {post : Post}
    (h : compose blogId timestamp parentId author text = .ok post) :
    TextFits text ∧ ∃ messageId signature,
      signature = Signature.sign Signature.postLabel
        (signedContent blogId timestamp parentId text) author.seed ∧
      Identifier.message blogId timestamp (bodyContent author.toAuthor parentId text signature)
        = .ok messageId ∧
      post = ⟨messageId, blogId, parentId, author.toAuthor, timestamp, text, signature⟩ := by
  obtain ⟨htext, htime, hversion⟩ := fits_of_compose h
  rw [compose_of_fits htext htime hversion] at h
  refine ⟨htext, ?_⟩
  cases hmessage : Identifier.message blogId timestamp (bodyContent author.toAuthor parentId text
    (Signature.sign Signature.postLabel (signedContent blogId timestamp parentId text)
      author.seed)) with
  | error fault =>
    simp only [hmessage, bind, Except.bind] at h
    cases h
  | ok messageId =>
    simp only [hmessage, bind, Except.bind] at h
    cases h
    exact ⟨messageId, _, rfl, hmessage, rfl⟩

/-- With a text that fits, an integer that cannot be written and an id that cannot be derived are all
that is left to fail. -/
theorem compose_eq_error {blogId : Bytes} {timestamp : Int} {parentId : Option Bytes}
    {author : LocalAuthor} {text : Text} {fault : Fault} (htext : TextFits text)
    (h : compose blogId timestamp parentId author text = .error fault) :
    fault = .setting .longInteger ∨ ∃ body, Identifier.MessageFault blogId timestamp body fault := by
  by_cases hfits : Integer.fits Integer.usualLimit timestamp = true ∧
    Integer.fits Integer.usualLimit author.formatVersion = true
  rotate_left
  · rw [compose_of_long htext hfits] at h
    cases h
    exact .inl rfl
  rw [compose_of_fits htext hfits.1 hfits.2] at h
  obtain ⟨messageId, hmessage⟩ | ⟨other, hother⟩ :=
    Identifier.message_ok_or_fault blogId timestamp
      (bodyContent author.toAuthor parentId text (Signature.sign Signature.postLabel
        (signedContent blogId timestamp parentId text) author.seed))
  · simp only [hmessage, bind, Except.bind] at h
    cases h
  · simp only [Identifier.message_eq_error hother, bind, Except.bind] at h
    cases h
    exact .inr ⟨_, hother⟩

/-- A post that an author makes for the own blog is valid if its signature is accepted. -/
theorem valid_of_compose {name text : Text} {seed : Ed25519.Seed} {timestamp : Int}
    {parentId : Option Bytes} {post : Post}
    (h : compose (Identifier.blog (LocalAuthor.ofSeed name seed).id) timestamp parentId
      (.ofSeed name seed) text = .ok post)
    (haccepted : Signature.verify Signature.postLabel
      (signedContent (Identifier.blog (LocalAuthor.ofSeed name seed).id) timestamp parentId text)
      (Signature.sign Signature.postLabel
        (signedContent (Identifier.blog (LocalAuthor.ofSeed name seed).id) timestamp parentId text)
        seed) seed.publicKey = true) :
    post.Valid := by
  obtain ⟨htext, messageId, signature, rfl, hmessage, rfl⟩ := compose_eq_ok h
  exact {
    textFits := htext
    authorId := LocalAuthor.author_ofSeed name seed
    ownBlog := rfl
    timestampFits := Identifier.fits_of_message hmessage
    signed := haccepted
    messageId := hmessage }

end Post

theorem LocalAuthor.create_eq_ok {name : Text} {privateKey : Bytes} {author : LocalAuthor}
    (h : LocalAuthor.create name privateKey = .ok author) :
    ∃ seed, author = .ofSeed name seed :=
  ⟨author.seed, (LocalAuthor.create_eq_ok_iff.mp h).2.2⟩

end SignedBlog
