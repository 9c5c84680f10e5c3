import SignedBlog.Proofs.Action

/-!
Every stored post verifies, whichever way it came into the store.

The posts a node makes are not verified when they are stored. They are valid all the same as long as
the signatures that the node makes are accepted under the keys they are made with.
-/

namespace SignedBlog

set_option autoImplicit false

/-- The signature that a seed makes of a message is accepted under the key of the seed. -/
def Ed25519.Seed.Accepted (seed : Ed25519.Seed) (message : Bytes) : Prop :=
  Ed25519.verify seed.publicKey message (Ed25519.sign seed message) = true

namespace Node

/-! ## Signatures made in a run -/

/-- What an action signs, with the seed it signs with. -/
def signing? (node : Node) : Action → Option (Ed25519.Seed × Bytes)
  | .createPost text => node.identity.author?.map fun author =>
      (author.seed, Signature.labelled Signature.postLabel
        (Post.signedContent (Identifier.blog author.id) node.clock none text))
  | _ => none

/-- What is signed in a run. -/
def signings (node : Node) : List Action → List (Ed25519.Seed × Bytes)
  | [] => []
  | action :: actions => (node.signing? action).toList ++ (node.after action).signings actions

/-! ## The invariant -/

/-- Stored posts are valid, and the node's author has the id and key of some seed. -/
structure Authentic (node : Node) : Prop where
  valid : ∀ stored ∈ node.store.messages, stored.post.Valid
  author_ofSeed : ∀ author, node.identity.author? = some author →
    ∃ name seed, author = .ofSeed name seed

theorem valid_of_draft {node : Node} (h : node.Authentic) {text : Text} {post : Post}
    (hdraft : node.draft text = .ok post)
    (haccepted : ∀ signing, node.signing? (.createPost text) = some signing →
      signing.1.Accepted signing.2) : post.Valid := by
  obtain ⟨author, hauthor, hcompose⟩ := compose_of_draft hdraft
  obtain ⟨name, seed, rfl⟩ := h.author_ofSeed author hauthor
  refine Post.valid_of_compose hcompose (haccepted (seed, _) ?_)
  simp only [signing?, hauthor, Option.map_some]
  rfl

theorem StoreEffect.valid {node : Node} {action : Action} {store : Store}
    (heffect : StoreEffect node action store) (h : node.Authentic)
    (haccepted : ∀ signing, node.signing? action = some signing → signing.1.Accepted signing.2) :
    ∀ stored ∈ store.messages, stored.post.Valid := by
  refine heffect.forall_messages h.valid ?drafted ?delivered
  case drafted =>
    rintro text post rfl hdraft
    exact valid_of_draft h hdraft haccepted
  case delivered =>
    intro post _ hverified
    exact (Post.verify_eq_ok_iff _).mp hverified

namespace Authentic

variable {node : Node}

theorem after (h : node.Authentic) (action : Action)
    (haccepted : ∀ signing, node.signing? action = some signing → signing.1.Accepted signing.2) :
    (node.after action).Authentic where
  valid := (after_effect node action).1.valid h haccepted
  author_ofSeed := by
    intro author hauthor
    obtain hsame | ⟨name, privateKey, registered, hcreate, hnext⟩ :=
      (after_effect node action).2
    · rw [hsame] at hauthor
      exact h.author_ofSeed author hauthor
    · rw [hnext] at hauthor
      cases hauthor
      obtain ⟨seed, hseed⟩ := LocalAuthor.create_eq_ok hcreate
      exact ⟨name, seed, hseed⟩

theorem run (h : node.Authentic) {actions : List Action}
    (haccepted : ∀ signing ∈ node.signings actions, signing.1.Accepted signing.2) :
    (node.run actions).Authentic := by
  induction actions generalizing node with
  | nil => exact h
  | cons action actions ih =>
    rw [signings, List.forall_mem_append] at haccepted
    refine ih (h.after action ?_) haccepted.2
    intro signing hsigning
    exact haccepted.1 signing (Option.mem_toList.mpr hsigning)

end Authentic

theorem authentic_of_build {name : Text} {privateKey : Bytes} {author : LocalAuthor} {clock : Int}
    {metrics : Metrics} {limit : Option Int} {availability : Availability} {readFault : Fault}
    {node : Node}
    (hauthor : LocalAuthor.create name privateKey = .ok author)
    (hbuild : (build .empty author clock metrics limit availability readFault).1 = .ok node) :
    node.Authentic := by
  obtain ⟨hstore, hidentity, -⟩ := build_eq_ok hbuild
  constructor
  · rw [hstore]
    intro stored hstored
    cases hstored
  · rw [hidentity]
    intro registered hregistered
    cases hregistered
    obtain ⟨seed, hseed⟩ := LocalAuthor.create_eq_ok hauthor
    exact ⟨name, seed, hseed⟩

/-- Whatever is done to a node that was built on nothing, each of its posts verifies, if the
signatures made on the way are accepted. -/
theorem verify_of_run {name : Text} {privateKey : Bytes} {author : LocalAuthor} {clock : Int}
    {metrics : Metrics} {limit : Option Int} {availability : Availability} {readFault : Fault}
    {node : Node}
    {actions : List Action}
    (hauthor : LocalAuthor.create name privateKey = .ok author)
    (hbuild : (build .empty author clock metrics limit availability readFault).1 = .ok node)
    (haccepted : ∀ signing ∈ node.signings actions, signing.1.Accepted signing.2) :
    ∀ post ∈ (node.run actions).store.posts, post.verify = .ok () := by
  intro post hpost
  obtain ⟨stored, hstored, rfl⟩ := List.mem_map.mp hpost
  have hauthentic := (authentic_of_build hauthor hbuild).run haccepted
  exact Post.verify_of_valid (hauthentic.valid stored hstored)

/-! ## A run -/

/-- An author whose seed is known. -/
def ann : LocalAuthor := .ofSeed "ann" ⟨List.replicate 32 7, rfl⟩

/-- A node of that author. -/
def annsNode : Node where
  store := Store.empty.addBlog (Blog.personal ann.toAuthor)
  identity := ⟨some ann⟩
  clock := 0
  metrics := {}
  textLimit := maxTextLength
  availability := {}

/-- A post is made, and another one arrives that bears no signature. -/
def annsActions : List Action :=
  [.setClock 5, .createPost "hello",
    .addRemotePost ⟨[], Identifier.blog ann.id, none, ann.toAuthor, 5, "hello", []⟩, .listPosts]

set_option maxRecDepth 100000 in
theorem annsSignings_accepted :
    ∀ signing ∈ annsNode.signings annsActions, signing.1.Accepted signing.2 := by
  have haccepted : ann.seed.Accepted (Signature.labelled Signature.postLabel
      (Post.signedContent (Identifier.blog ann.id) 5 none "hello")) := by
    unfold Ed25519.Seed.Accepted
    decide +kernel
  intro signing hsigning
  rw [List.mem_singleton.mp hsigning]
  exact haccepted

theorem verify_of_run_anns :
    LocalAuthor.create "ann" (List.replicate 32 7) = .ok ann ∧
      (build .empty ann 0 {} none {}).1 = .ok annsNode ∧
      (∀ signing ∈ annsNode.signings annsActions, signing.1.Accepted signing.2) ∧
      ∀ post ∈ (annsNode.run annsActions).store.posts, post.verify = .ok () :=
  ⟨rfl, rfl, annsSignings_accepted, @verify_of_run "ann" (List.replicate 32 7) ann 0 {} none {}
    .messageGone annsNode annsActions rfl rfl annsSignings_accepted⟩

end Node

end SignedBlog
