import SignedBlog.Proofs.Publishing
import SignedBlog.Proofs.Unambiguity

/-!
The message id of a post that verifies stands for the whole post.

As long as the hash does not collide, posts that verify have the same message id only if they are
the same, and a post that verifies does not verify once a field of it is changed:
`Post.messageId_eq_iff`.
-/

namespace SignedBlog

set_option autoImplicit false

/-- No two of some byte strings have one hash. -/
def Sha2.CollisionFree (inputs : List Bytes) : Prop :=
  ∀ a ∈ inputs, ∀ b ∈ inputs, sha256 a = sha256 b → a = b

theorem Sha2.CollisionFree.of_subset {some all : List Bytes} (h : CollisionFree all)
    (hsubset : some ⊆ all) : CollisionFree some :=
  fun a ha b hb => h a (hsubset ha) b (hsubset hb)

theorem Sha2.collisionFree_pair {a b : Bytes} (h : sha256 a ≠ sha256 b) : CollisionFree [a, b] := by
  simp only [CollisionFree, List.forall_mem_cons, List.not_mem_nil, false_imp_iff, implies_true,
    and_true, true_and]
  exact ⟨fun hab => absurd hab h, fun hba => absurd hba.symm h⟩

namespace Post

/-- The byte string whose hash the message id is. -/
def addressed (post : Post) : Bytes :=
  Identifier.preimage Identifier.messageLabel
    [post.blogId, Bytes.bigEndian 8 post.timestamp.toNat, post.body]

theorem Valid.messageId_eq {post : Post} (h : post.Valid) :
    post.messageId = Sha2.sha256 post.addressed := by
  obtain ⟨-, -, -, -, hid⟩ := Identifier.message_eq_ok_iff.mp h.messageId
  exact hid

theorem parts_lt_of_message {post : Post} {messageId : Bytes}
    (h : Identifier.message post.blogId post.timestamp post.body = .ok messageId) :
    ∀ part ∈ [post.blogId, Bytes.bigEndian 8 post.timestamp.toNat, post.body],
      part.length < 256 ^ 4 := by
  obtain ⟨-, -, hblog, hbody, -⟩ := Identifier.message_eq_ok_iff.mp h
  simp only [List.forall_mem_cons, List.not_mem_nil, false_imp_iff, implies_true, and_true,
    Bytes.length_bigEndian]
  exact ⟨hblog, by decide, hbody⟩

theorem Valid.parts_lt {post : Post} (h : post.Valid) :
    ∀ part ∈ [post.blogId, Bytes.bigEndian 8 post.timestamp.toNat, post.body],
      part.length < 256 ^ 4 :=
  parts_lt_of_message h.messageId

/-- Two names are the same, or neither holds a surrogate. -/
def NamesTell (a b : Post) : Prop :=
  a.author.name = b.author.name ∨ a.author.name.Clean ∧ b.author.name.Clean

/-- The byte string whose hash the message id is tells every other field. -/
theorem addressed_inj {a b : Post} (ha : a.Valid) (hb : b.Valid) (hnames : NamesTell a b)
    (h : a.addressed = b.addressed) :
    a.blogId = b.blogId ∧ a.parentId = b.parentId ∧ a.author = b.author ∧
      a.timestamp = b.timestamp ∧ a.text = b.text ∧ a.signature = b.signature := by
  obtain ⟨hstart₁, htime₁, -⟩ := Identifier.message_eq_ok_iff.mp ha.messageId
  obtain ⟨hstart₂, htime₂, -⟩ := Identifier.message_eq_ok_iff.mp hb.messageId
  have hparts := Identifier.preimage_inj ha.parts_lt hb.parts_lt h
  simp only [List.cons.injEq, and_true] at hparts
  obtain ⟨hblog, htime, hbody⟩ := hparts
  have htimestamp := Bytes.bigEndian_inj (by omega) (by omega) htime
  obtain ⟨⟨hversion, hread, hkey⟩, hparent, htext, hsignature⟩ :=
    bodyContent_inj ha.textFits.clean hb.textFits.clean hbody
  have hname : a.author.name = b.author.name := by
    obtain hsame | ⟨hname₁, hname₂⟩ := hnames
    · exact hsame
    · rwa [Json.readBack_of_clean hname₁, Json.readBack_of_clean hname₂] at hread
  -- the id of the author is not part of the body; version and key were checked to give it
  have hid : a.author.id = b.author.id := by
    have hauthor := ha.authorId
    rw [hversion, hkey, hb.authorId] at hauthor
    exact (Except.ok.inj hauthor).symm
  have hauthor : a.author = b.author := by
    cases hleft : a.author
    cases hright : b.author
    simp_all
  exact ⟨hblog, hparent, hauthor, by omega, htext, hsignature⟩

/-- Posts that differ in one field. -/
inductive Altered (post : Post) : Post → Prop where
  | messageId {id : Bytes} : id ≠ post.messageId → Altered post { post with messageId := id }
  | blogId {id : Bytes} : id ≠ post.blogId → Altered post { post with blogId := id }
  | parentId {id : Option Bytes} : id ≠ post.parentId → Altered post { post with parentId := id }
  | formatVersion {version : Int} : version ≠ post.author.formatVersion →
      Altered post { post with author := { post.author with formatVersion := version } }
  | authorId {id : Bytes} : id ≠ post.author.id →
      Altered post { post with author := { post.author with id } }
  | name {name : Text} : name ≠ post.author.name →
      Altered post { post with author := { post.author with name } }
  | publicKey {key : Bytes} : key ≠ post.author.publicKey →
      Altered post { post with author := { post.author with publicKey := key } }
  | timestamp {time : Int} : time ≠ post.timestamp → Altered post { post with timestamp := time }
  | text {text : Text} : text ≠ post.text → Altered post { post with text }
  | signature {bytes : Bytes} : bytes ≠ post.signature →
      Altered post { post with signature := bytes }

/-- Posts that verify have one message id exactly if all their other fields are the same, so a post
that differs in one field from one that verifies does not verify. -/
theorem messageId_eq_iff {a b : Post} (ha : a.verify = .ok ()) (hnames : NamesTell a b)
    (hcollide : Sha2.CollisionFree [a.addressed, b.addressed]) :
    (b.verify = .ok () →
      (a.messageId = b.messageId ↔
        a.blogId = b.blogId ∧ a.parentId = b.parentId ∧ a.author = b.author ∧
          a.timestamp = b.timestamp ∧ a.text = b.text ∧ a.signature = b.signature)) ∧
    (a.Altered b → b.verify ≠ .ok ()) := by
  rw [verify_eq_ok_iff] at ha
  have hiff : b.Valid →
      (a.messageId = b.messageId ↔
        a.blogId = b.blogId ∧ a.parentId = b.parentId ∧ a.author = b.author ∧
          a.timestamp = b.timestamp ∧ a.text = b.text ∧ a.signature = b.signature) := by
    intro hb
    constructor
    · intro hid
      rw [ha.messageId_eq, hb.messageId_eq] at hid
      exact addressed_inj ha hb hnames (hcollide _ (by simp) _ (by simp) hid)
    · rintro ⟨hblog, hparent, hauthor, htime, htext, hsignature⟩
      rw [ha.messageId_eq, hb.messageId_eq, addressed, addressed, body, body, hblog, hparent,
        hauthor, htime, htext, hsignature]
  refine ⟨fun hb => hiff ((verify_eq_ok_iff b).mp hb), fun haltered hb => ?_⟩
  have hsame := hiff ((verify_eq_ok_iff b).mp hb)
  cases haltered with
  | messageId hne => exact hne (hsame.mpr ⟨rfl, rfl, rfl, rfl, rfl, rfl⟩).symm
  | blogId hne => exact hne (hsame.mp rfl).1.symm
  | parentId hne => exact hne (hsame.mp rfl).2.1.symm
  | formatVersion hne => exact hne (congrArg Author.formatVersion (hsame.mp rfl).2.2.1).symm
  | authorId hne => exact hne (congrArg Author.id (hsame.mp rfl).2.2.1).symm
  | name hne => exact hne (congrArg Author.name (hsame.mp rfl).2.2.1).symm
  | publicKey hne => exact hne (congrArg Author.publicKey (hsame.mp rfl).2.2.1).symm
  | timestamp hne => exact hne (hsame.mp rfl).2.2.2.1.symm
  | text hne => exact hne (hsame.mp rfl).2.2.2.2.1.symm
  | signature hne => exact hne (hsame.mp rfl).2.2.2.2.2.symm

/-- A post and the same under another name have different ids; with the id of the one the other
does not verify. -/
theorem messageId_eq_iff_renamed :
    (Node.annsPost "ann").verify = .ok () ∧ (Node.annsPost "eve").verify = .ok () ∧
      NamesTell (Node.annsPost "ann") (Node.annsPost "eve") ∧
      Sha2.CollisionFree [(Node.annsPost "ann").addressed, (Node.annsPost "eve").addressed] ∧
      (Node.annsPost "ann").messageId ≠ (Node.annsPost "eve").messageId ∧
      { Node.annsPost "eve" with messageId := (Node.annsPost "ann").messageId }.verify
        ≠ .ok () := by
  have hann : (Node.annsPost "ann").Valid := Node.valid_annsPost (by decide)
  have heve : (Node.annsPost "eve").Valid := Node.valid_annsPost (by decide)
  have hcollide : Sha2.CollisionFree
      [(Node.annsPost "ann").addressed, (Node.annsPost "eve").addressed] := by
    refine Sha2.collisionFree_pair ?_
    rw [← hann.messageId_eq, ← heve.messageId_eq]
    exact Node.annsPost_ids_ne
  have hnames : NamesTell (Node.annsPost "ann") (Node.annsPost "eve") := by
    change ("ann" : Text) = "eve" ∨ ("ann" : Text).Clean ∧ ("eve" : Text).Clean
    decide
  have hne : ("eve" : Text) ≠ "ann" := by decide
  have haltered : (Node.annsPost "ann").Altered
      { Node.annsPost "eve" with messageId := (Node.annsPost "ann").messageId } := by
    have hname : (Node.annsPost "ann").Altered
        ((Node.annsPost "ann").renamed "eve" (Node.annsPost "ann").messageId) := .name hne
    unfold Node.annsPost at hname ⊢
    rwa [renamed_made] at hname
  refine ⟨verify_of_valid hann, verify_of_valid heve, hnames, hcollide, ?_, ?_⟩
  · intro hid
    have hsame := (messageId_eq_iff (verify_of_valid hann) hnames hcollide).1 (verify_of_valid heve)
    exact hne (congrArg Author.name (hsame.mp hid).2.2.1).symm
  · -- for any two posts, so that nothing of these two is computed
    have hrefused : ∀ a b : Post, a.verify = .ok () → NamesTell a b →
        Sha2.CollisionFree [a.addressed, b.addressed] →
        a.Altered { b with messageId := a.messageId } →
        { b with messageId := a.messageId }.verify ≠ .ok () :=
      fun a b ha hnames hcollide =>
        (@messageId_eq_iff a { b with messageId := a.messageId } ha hnames hcollide).2
    exact hrefused _ _ (verify_of_valid hann) hnames hcollide haltered

end Post

end SignedBlog
