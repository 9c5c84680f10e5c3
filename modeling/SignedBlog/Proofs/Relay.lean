import SignedBlog.Proofs.Addressing

/-!
How often one signature can be stored.

A signature covers the blog, the time, the parent and the text of a post, and through the blog the
author; the name of the author it does not cover. So messages of one key and one signature are the
same but for that name and the id: `Node.renamed_of_run`. Whoever relays a post can have it stored
again under another name: `Node.messages_of_relay`.
-/

namespace SignedBlog

set_option autoImplicit false

/-- A signature is accepted under a key for no two of some messages. -/
def Ed25519.AcceptsOne (publicKey signature : Bytes) (messages : List Bytes) : Prop :=
  ∀ a ∈ messages, ∀ b ∈ messages,
    verify publicKey a signature = true → verify publicKey b signature = true → a = b

namespace Post

/-! ## Posts of one signature -/

/-- The byte string whose hash the id of the author is. -/
def authorHashed (post : Post) : Bytes :=
  Identifier.preimage Identifier.authorLabel
    [Bytes.bigEndian 1 post.author.formatVersion.toNat, post.author.publicKey]

/-- The byte string whose hash the id of the blog is. -/
def blogHashed (post : Post) : Bytes := Identifier.preimage Identifier.blogLabel [post.author.id]

/-- What is signed. -/
def signed (post : Post) : Bytes :=
  Signature.labelled Signature.postLabel
    (signedContent post.blogId post.timestamp post.parentId post.text)

theorem Valid.authorId_eq {post : Post} (h : post.Valid) :
    post.author.id = Sha2.sha256 post.authorHashed := by
  obtain ⟨-, -, -, hid⟩ := Identifier.author_eq_ok_iff.mp h.authorId
  exact hid

section

variable {a b : Post}

theorem signed_inj (ha : a.text.Clean) (hb : b.text.Clean) (h : a.signed = b.signed) :
    a.blogId = b.blogId ∧ a.timestamp = b.timestamp ∧ a.parentId = b.parentId ∧
      a.text = b.text := by
  have hlabel : Signature.postLabel.length < 256 ^ 4 := by decide
  exact signedContent_inj ha hb (Signature.labelled_inj hlabel hlabel h).2

theorem authorId_eq_of_blogId_eq (ha : a.Valid) (hb : b.Valid)
    (hcollide : Sha2.sha256 a.blogHashed = Sha2.sha256 b.blogHashed → a.blogHashed = b.blogHashed)
    (h : a.blogId = b.blogId) : a.author.id = b.author.id := by
  have hlength : ∀ {post : Post}, post.Valid → ∀ part ∈ [post.author.id], part.length < 256 ^ 4 := by
    intro post hpost part hpart
    rw [List.mem_singleton.mp hpart, hpost.authorId_eq, Sha2.length_sha256]
    decide
  rw [ha.ownBlog, hb.ownBlog] at h
  exact (List.cons.inj (Identifier.preimage_inj (hlength ha) (hlength hb) (hcollide h))).1

theorem formatVersion_eq_of_authorId_eq (ha : a.Valid) (hb : b.Valid)
    (hcollide : Sha2.sha256 a.authorHashed = Sha2.sha256 b.authorHashed →
      a.authorHashed = b.authorHashed)
    (h : a.author.id = b.author.id) : a.author.formatVersion = b.author.formatVersion := by
  obtain ⟨hstart₁, hbyte₁, hkey₁, -⟩ := Identifier.author_eq_ok_iff.mp ha.authorId
  obtain ⟨hstart₂, hbyte₂, hkey₂, -⟩ := Identifier.author_eq_ok_iff.mp hb.authorId
  have hlength : ∀ {n : Nat} {key : Bytes}, key.length < 256 ^ 4 →
      ∀ part ∈ [Bytes.bigEndian 1 n, key], part.length < 256 ^ 4 := by
    intro n key hkey
    rw [List.forall_mem_cons, Bytes.length_bigEndian]
    exact ⟨by decide, fun part hpart => List.mem_singleton.mp hpart ▸ hkey⟩
  rw [ha.authorId_eq, hb.authorId_eq] at h
  have hparts := Identifier.preimage_inj (hlength hkey₁) (hlength hkey₂) (hcollide h)
  have hversion := Bytes.bigEndian_inj (by omega) (by omega) (List.cons.inj hparts).1
  omega

theorem eq_of_renamed (ha : a.Valid) (hb : b.Valid)
    (h : b = a.renamed a.author.name b.messageId) : b = a := by
  have hid : b.messageId = a.messageId := by
    rw [ha.messageId_eq, hb.messageId_eq, h]
    rfl
  rw [h, hid]
  rfl

/-- Valid posts of one key and one signature are the same up to name and id. -/
theorem eq_renamed_of_signature (ha : a.Valid) (hb : b.Valid)
    (hauthors : Sha2.sha256 a.authorHashed = Sha2.sha256 b.authorHashed →
      a.authorHashed = b.authorHashed)
    (hblogs : Sha2.sha256 a.blogHashed = Sha2.sha256 b.blogHashed → a.blogHashed = b.blogHashed)
    (hkey : a.author.publicKey = b.author.publicKey) (hsignature : a.signature = b.signature)
    (hsigned : a.signed = b.signed) : b = a.renamed b.author.name b.messageId := by
  obtain ⟨hblog, htime, hparent, htext⟩ := signed_inj ha.textFits.clean hb.textFits.clean hsigned
  -- the blog stands for the id of the author, and that id for version and key
  have hid := authorId_eq_of_blogId_eq ha hb hblogs hblog
  have hversion := formatVersion_eq_of_authorId_eq ha hb hauthors hid
  obtain ⟨messageId₁, blogId₁, parentId₁, ⟨version₁, id₁, name₁, key₁⟩, time₁, text₁, signature₁⟩ := a
  obtain ⟨messageId₂, blogId₂, parentId₂, ⟨version₂, id₂, name₂, key₂⟩, time₂, text₂, signature₂⟩ := b
  simp only at hblog htime hparent htext hid hversion hkey hsignature
  simp only [renamed, hblog, htime, hparent, htext, hid, hversion, hkey, hsignature]

end

end Post

namespace Node

/-! ## A post that is relayed under another name -/

section Delivery

variable {name newName text : Text} {seed : Ed25519.Seed} {timestamp : Int} {node : Node}

theorem blogId_made_known
    (hstore : node.store = Store.empty.addBlog (.personal (LocalAuthor.ofSeed name seed).toAuthor)) :
    (Post.made (.ofSeed newName seed) timestamp text).blogId ∈ node.store.blogIds := by
  rw [hstore, Store.empty_addBlog]
  exact List.mem_singleton.mpr rfl

theorem messages_of_delivery
    (hstore : node.store = Store.empty.addBlog (.personal (LocalAuthor.ofSeed name seed).toAuthor))
    (hvalid : (Post.made (.ofSeed newName seed) timestamp text).Valid) :
    (node.run [.addRemotePost (.made (.ofSeed newName seed) timestamp text)]).store.messages
      = [⟨.made (.ofSeed newName seed) timestamp text, max node.arrivalClock 0, false⟩] := by
  have hknown : (Post.made (.ofSeed newName seed) timestamp text).blogId ∈ node.store.blogIds :=
    blogId_made_known hstore
  have hfresh : (Post.made (.ofSeed newName seed) timestamp text).messageId
      ∉ node.store.messageIds := by
    rw [hstore, Store.empty_addBlog]
    exact List.not_mem_nil
  simp only [run, List.foldl_cons, List.foldl_nil, after,
    addRemotePost_of_fresh (Post.verify_of_valid hvalid) hknown hfresh]
  rw [hstore, Store.empty_addBlog]
  rfl

/-- A peer can deliver a post to the node that made it once more, under another name. -/
theorem messages_of_relay
    (hstore : node.store = Store.empty.addBlog (.personal (LocalAuthor.ofSeed name seed).toAuthor))
    (hidentity : node.identity = ⟨some (.ofSeed name seed)⟩) (hclock : node.clock = timestamp)
    (harrival : node.arrivalClock = timestamp)
    (hadmitted : admitText text node.textLimit = .ok ()) (hname : name.length ≤ maxNameLength)
    (htext : Post.TextFits text) (h₀ : 0 ≤ timestamp) (htime : timestamp < 256 ^ 8)
    (hvalid : (Post.made (.ofSeed newName seed) timestamp text).Valid)
    (hids : (Post.made (.ofSeed newName seed) timestamp text).messageId
      ≠ (Post.made (.ofSeed name seed) timestamp text).messageId) :
    (node.run [.createPost text,
        .addRemotePost (.made (.ofSeed newName seed) timestamp text)]).store.messages
      = [⟨.made (.ofSeed name seed) timestamp text, timestamp, true⟩,
          ⟨.made (.ofSeed newName seed) timestamp text, timestamp, false⟩] := by
  have hdraft : node.draft text = .ok (.made (.ofSeed name seed) timestamp text) := by
    unfold draft Identity.localAuthor
    rw [hidentity, hclock]
    exact Post.compose_eq_made hname htext h₀ htime
  have hnew : (Post.made (.ofSeed name seed) timestamp text).messageId ∉ node.store.messageIds := by
    rw [hstore, Store.empty_addBlog]
    exact List.not_mem_nil
  have hcreated := createPost_of_fresh hadmitted hdraft (blogId_made_known hstore) hnew
  rw [harrival] at hcreated
  -- the blog is still known, and the id is another one
  have hknown : (Post.made (.ofSeed newName seed) timestamp text).blogId
      ∈ (node.store.push timestamp (.made (.ofSeed name seed) timestamp text) true).blogIds := by
    rw [Store.blogIds_push]
    exact blogId_made_known hstore
  have hfresh : (Post.made (.ofSeed newName seed) timestamp text).messageId
      ∉ (node.store.push timestamp (.made (.ofSeed name seed) timestamp text) true).messageIds := by
    rw [Store.messageIds_push, hstore, Store.empty_addBlog]
    exact fun h => hids (List.mem_singleton.mp h)
  simp only [run, List.foldl_cons, List.foldl_nil, after, hcreated]
  rw [addRemotePost_of_fresh (Post.verify_of_valid hvalid) hknown hfresh]
  change node.store.messages ++ [⟨_, max timestamp node.store.latest, true⟩] ++
    [⟨_, max timestamp (max timestamp node.store.latest), false⟩] = _
  rw [hstore, Store.empty_addBlog, Int.max_eq_left h₀, Int.max_self]
  rfl

end Delivery

/-- What is signed, and what the ids of author and blog are taken over, does not change with the
name. -/
theorem assumptions_of_renamed {posts : List Post} {post : Post} {name : Text} {messageId : Bytes}
    (h : posts = [post, post.renamed name messageId]) :
    (∀ other ∈ posts, Ed25519.AcceptsOne other.author.publicKey other.signature
        (posts.map Post.signed)) ∧
      Sha2.CollisionFree (posts.map Post.authorHashed) ∧
      Sha2.CollisionFree (posts.map Post.blogHashed) := by
  have hsame : ∀ {x : Bytes}, ∀ a ∈ [x, x], ∀ b ∈ [x, x], a = b := by
    intro x a ha b hb
    simp only [List.mem_cons, List.not_mem_nil, or_false, or_self] at ha hb
    rw [ha, hb]
  rw [h]
  exact ⟨fun other _ a ha b hb _ _ => hsame a ha b hb, fun a ha b hb _ => hsame a ha b hb,
    fun a ha b hb _ => hsame a ha b hb⟩

/-- A post is made, and a peer delivers it under another name. -/
def relayActions : List Action := [.createPost "hello", .addRemotePost (annsPost "eve")]

theorem messages_of_annsRelay : ((annsNode.setClock 5).run relayActions).store.messages
    = [⟨annsPost "ann", 5, true⟩, ⟨annsPost "eve", 5, false⟩] := by
  have htext : Post.TextFits "hello" := ⟨_, rfl, by decide⟩
  have hvalid : (annsPost "eve").Valid := valid_annsPost (by decide)
  have hids := annsPost_ids_ne.symm
  unfold annsPost at hvalid hids
  have hmessages := @messages_of_relay "ann" "eve" "hello" ann.seed 5 (annsNode.setClock 5) rfl rfl
    rfl rfl rfl (by decide) htext (by decide) (by decide) hvalid hids
  unfold relayActions annsPost
  exact hmessages

theorem annsPost_eve :
    annsPost "eve" = (annsPost "ann").renamed "eve" (annsPost "eve").messageId := by
  unfold annsPost
  rw [Post.renamed_made]

theorem posts_of_annsRelay : ((annsNode.setClock 5).run relayActions).store.posts
    = [annsPost "ann", (annsPost "ann").renamed "eve" (annsPost "eve").messageId] := by
  rw [Store.posts, messages_of_annsRelay, List.map_cons, List.map_cons, List.map_nil,
    ← annsPost_eve]

theorem annsRelay_accepted :
    ∀ signing ∈ (annsNode.setClock 5).signings relayActions, signing.1.Accepted signing.2 := by
  intro signing hsigning
  rw [List.mem_singleton.mp hsigning]
  exact annsSignature_accepted

/-! ## Stored messages of one signature -/

/-- Whatever is done to a node that was built on nothing, different messages of one key and one
signature have different names and are the same otherwise, except for their ids. The signatures
made on the way are taken to be accepted, and no stored one for two messages; hashes are taken not
to collide. -/
theorem renamed_of_run {name : Text} {privateKey : Bytes} {author : LocalAuthor} {clock : Int}
    {metrics : Metrics} {limit : Option Int} {availability : Availability} {readFault : Fault}
    {node : Node} {actions : List Action}
    (hauthor : LocalAuthor.create name privateKey = .ok author)
    (hbuild : (build .empty author clock metrics limit availability readFault).1 = .ok node)
    (haccepted : ∀ signing ∈ node.signings actions, signing.1.Accepted signing.2)
    (hone : ∀ post ∈ (node.run actions).store.posts,
      Ed25519.AcceptsOne post.author.publicKey post.signature
        ((node.run actions).store.posts.map Post.signed))
    (hauthors : Sha2.CollisionFree ((node.run actions).store.posts.map Post.authorHashed))
    (hblogs : Sha2.CollisionFree ((node.run actions).store.posts.map Post.blogHashed)) :
    ∀ a ∈ (node.run actions).store.messages, ∀ b ∈ (node.run actions).store.messages, a ≠ b →
      a.post.author.publicKey = b.post.author.publicKey → a.post.signature = b.post.signature →
      a.post.author.name ≠ b.post.author.name ∧
        b.post = a.post.renamed b.post.author.name b.post.messageId := by
  intro a ha b hb hne hkey hsignature
  have hauthentic := (authentic_of_build hauthor hbuild).run haccepted
  have hcoherent := coherent_of_run hbuild actions
  have hposts : ∀ {stored : Stored}, stored ∈ (node.run actions).store.messages →
      stored.post ∈ (node.run actions).store.posts := fun h => List.mem_map_of_mem h
  have hvalid₁ := hauthentic.valid a ha
  have hvalid₂ := hauthentic.valid b hb
  have hsigned : a.post.signed = b.post.signed := by
    have hverified := hvalid₂.signed
    rw [← hkey, ← hsignature] at hverified
    exact hone _ (hposts ha) _ (List.mem_map_of_mem (hposts ha)) _
      (List.mem_map_of_mem (hposts hb)) hvalid₁.signed hverified
  have hrenamed := Post.eq_renamed_of_signature hvalid₁ hvalid₂
    (hauthors _ (List.mem_map_of_mem (hposts ha)) _ (List.mem_map_of_mem (hposts hb)))
    (hblogs _ (List.mem_map_of_mem (hposts ha)) _ (List.mem_map_of_mem (hposts hb)))
    hkey hsignature hsigned
  refine ⟨fun hname => hne ?_, hrenamed⟩
  -- with one name there is one id, and the store holds an id only once
  rw [← hname] at hrenamed
  have hsame := Post.eq_of_renamed hvalid₁ hvalid₂ hrenamed
  exact List.inj_on_of_nodup_map hcoherent.messageIds_nodup ha hb (by rw [hsame])

theorem renamed_of_run_relay :
    LocalAuthor.create "ann" (List.replicate 32 7) = .ok ann ∧
      (build .empty ann 5 {} none {}).1 = .ok (annsNode.setClock 5) ∧
      (∀ signing ∈ (annsNode.setClock 5).signings relayActions, signing.1.Accepted signing.2) ∧
      (∀ post ∈ ((annsNode.setClock 5).run relayActions).store.posts,
        Ed25519.AcceptsOne post.author.publicKey post.signature
          (((annsNode.setClock 5).run relayActions).store.posts.map Post.signed)) ∧
      Sha2.CollisionFree
        (((annsNode.setClock 5).run relayActions).store.posts.map Post.authorHashed) ∧
      Sha2.CollisionFree
        (((annsNode.setClock 5).run relayActions).store.posts.map Post.blogHashed) ∧
      ∀ a ∈ ((annsNode.setClock 5).run relayActions).store.messages,
        ∀ b ∈ ((annsNode.setClock 5).run relayActions).store.messages, a ≠ b →
          a.post.author.publicKey = b.post.author.publicKey →
          a.post.signature = b.post.signature →
          a.post.author.name ≠ b.post.author.name ∧
            b.post = a.post.renamed b.post.author.name b.post.messageId := by
  obtain ⟨hone, hauthors, hblogs⟩ := assumptions_of_renamed posts_of_annsRelay
  exact ⟨rfl, rfl, annsRelay_accepted, hone, hauthors, hblogs,
    @renamed_of_run "ann" (List.replicate 32 7) ann 5 {} none {} .messageGone (annsNode.setClock 5)
      relayActions rfl rfl annsRelay_accepted hone hauthors hblogs⟩

/-- One signature can be stored twice, under two names. -/
theorem not_one_message_of_signature :
    ¬ ∀ (name : Text) (privateKey : Bytes) (author : LocalAuthor) (clock : Int) (node : Node)
      (actions : List Action), LocalAuthor.create name privateKey = .ok author →
      (build .empty author clock {} none {}).1 = .ok node →
      (∀ signing ∈ node.signings actions, signing.1.Accepted signing.2) →
      (∀ post ∈ (node.run actions).store.posts,
        Ed25519.AcceptsOne post.author.publicKey post.signature
          ((node.run actions).store.posts.map Post.signed)) →
      Sha2.CollisionFree ((node.run actions).store.posts.map Post.authorHashed) →
      Sha2.CollisionFree ((node.run actions).store.posts.map Post.blogHashed) →
      ∀ a ∈ (node.run actions).store.messages, ∀ b ∈ (node.run actions).store.messages,
        a.post.author.publicKey = b.post.author.publicKey → a.post.signature = b.post.signature →
        a = b := by
  intro hclaim
  obtain ⟨hone, hauthors, hblogs⟩ := assumptions_of_renamed posts_of_annsRelay
  have hsame := hclaim "ann" (List.replicate 32 7) ann 5 (annsNode.setClock 5) relayActions rfl rfl
    annsRelay_accepted hone hauthors hblogs
  rw [messages_of_annsRelay, annsPost_eve] at hsame
  have hstored := hsame _ List.mem_cons_self _ (List.mem_cons_of_mem _ List.mem_cons_self) rfl rfl
  exact annsPost_ids_ne (congrArg (fun stored => stored.post.messageId) hstored)

end Node

end SignedBlog
