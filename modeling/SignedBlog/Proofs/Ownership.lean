import SignedBlog.Proofs.Listing
import SignedBlog.Proofs.Relay

/-!
To whom blogs and posts belong.

A blog is known by an id that is taken over the id of its author, and so is the blog of a post. Both hold
of all that a node stores, over any number of starts on one store: `Node.Owned`. As long as ids do not
collide, each header of a blog is therefore one of the author of that blog: `Node.headers_owned`.
-/

namespace SignedBlog

set_option autoImplicit false

/-! ## Ids of blogs -/

namespace Identifier

/-- The byte string whose hash the id of an author's blog is. -/
def blogPreimage (authorId : Bytes) : Bytes := preimage blogLabel [authorId]

/-- The length of what is hashed tells that of the author's id, so an id of any length is told. -/
theorem blogPreimage_inj {a b : Bytes} (h : blogPreimage a = blogPreimage b) : a = b := by
  have hframes : frame a = frame b := by
    have hparts := List.append_cancel_left h
    simpa using hparts
  have hlength := congrArg List.length hframes
  unfold frame at hframes hlength
  rw [List.length_append, List.length_append, Bytes.length_bigEndian, Bytes.length_bigEndian] at hlength
  refine (List.append_inj hframes ?_).2
  rw [Bytes.length_bigEndian, Bytes.length_bigEndian]

theorem eq_of_blog_eq {ids : List Bytes} (hcollide : Sha2.CollisionFree (ids.map blogPreimage))
    {a b : Bytes} (ha : a ∈ ids) (hb : b ∈ ids) (h : blog a = blog b) : a = b :=
  blogPreimage_inj (hcollide _ (List.mem_map_of_mem ha) _ (List.mem_map_of_mem hb) h)

end Identifier

/-- A post names its author by key and version, and its blog by the author. -/
structure Post.Belongs (post : Post) : Prop where
  authorId : Identifier.author post.author.formatVersion post.author.publicKey = .ok post.author.id
  ownBlog : post.blogId = Identifier.blog post.author.id

theorem Post.Valid.belongs {post : Post} (h : post.Valid) : post.Belongs := ⟨h.authorId, h.ownBlog⟩

namespace Store

theorem mem_blogs_addBlog {store : Store} {added blog : Blog} (h : blog ∈ (store.addBlog added).blogs) :
    blog ∈ store.blogs ∨ blog = added := by
  obtain hsame | ⟨-, hadded⟩ := addBlog_eq store added
  · rw [hsame] at h
    exact .inl h
  · rw [hadded, blogs, List.map_append, List.mem_append] at h
    exact h.imp_right List.mem_singleton.mp

end Store

namespace Node

/-! ## Starts and actions -/

/-- What may happen to a node: something is done to it, or a node of an author is started on its store. -/
inductive Event where
  | action (action : Action)
  | start (name : Text) (privateKey : Bytes) (clock : Int) (metrics : Metrics) (limit : Option Int)
      (availability : Availability) (readFault : Fault)

/-- The node that runs after an event. Where a start fails the node goes on, with what the start has done
to the store. -/
def afterEvent (node : Node) : Event → Node
  | .action action => node.after action
  | .start name privateKey clock metrics limit availability readFault =>
    match LocalAuthor.create name privateKey with
    | .error _ => node
    | .ok author =>
      match build node.store author clock metrics limit availability readFault with
      | (.ok next, _) => next
      | (.error _, store) => { node with store }

def undergo (node : Node) (events : List Event) : Node := events.foldl afterEvent node

/-- A start makes the blog of its author known, and the node has that author or the one it had. -/
theorem afterEvent_start (node : Node) (name : Text) (privateKey : Bytes) (clock : Int)
    (metrics : Metrics) (limit : Option Int) (availability : Availability) (readFault : Fault) :
    node.afterEvent (.start name privateKey clock metrics limit availability readFault) = node ∨
      ∃ author, LocalAuthor.create name privateKey = .ok author ∧
        (node.afterEvent (.start name privateKey clock metrics limit availability readFault)).store
          = node.store.addBlog (Blog.personal author.toAuthor) ∧
        ((node.afterEvent (.start name privateKey clock metrics limit availability readFault)).identity
            = node.identity ∨
          (node.afterEvent (.start name privateKey clock metrics limit availability readFault)).identity
            = ⟨some author⟩) := by
  cases hcreate : LocalAuthor.create name privateKey with
  | error fault =>
    refine .inl ?_
    simp only [afterEvent, hcreate]
  | ok author =>
    refine .inr ⟨author, rfl, ?_⟩
    simp only [afterEvent, hcreate, build]
    cases checkLimit limit with
    | error fault => exact ⟨rfl, .inl rfl⟩
    | ok textLimit => exact ⟨rfl, .inr rfl⟩

/-! ## The invariant -/

/-- Blogs and posts of a node belong to their authors, and its own author has the id and key of some
seed. -/
structure Owned (node : Node) : Prop where
  coherent : node.store.Coherent
  blogs : ∀ blog ∈ node.store.blogs, blog.id = Identifier.blog blog.author.id
  posts : ∀ stored ∈ node.store.messages, stored.post.Belongs
  author_ofSeed : ∀ author, node.identity.author? = some author →
    ∃ name seed, author = .ofSeed name seed

theorem belongs_of_draft {node : Node} (h : node.Owned) {text : Text} {post : Post}
    (hdraft : node.draft text = .ok post) : post.Belongs := by
  obtain ⟨author, hauthor, hcompose⟩ := compose_of_draft hdraft
  obtain ⟨name, seed, rfl⟩ := h.author_ofSeed author hauthor
  obtain ⟨-, messageId, signature, -, -, rfl⟩ := Post.compose_eq_ok hcompose
  exact ⟨LocalAuthor.author_ofSeed name seed, rfl⟩

theorem Owned.blogs_addBlog {node : Node} (h : node.Owned) {added : Blog}
    (hadded : added.id = Identifier.blog added.author.id) :
    ∀ blog ∈ (node.store.addBlog added).blogs, blog.id = Identifier.blog blog.author.id := by
  intro blog hmem
  obtain hold | rfl := Store.mem_blogs_addBlog hmem
  · exact h.blogs blog hold
  · exact hadded

theorem StoreEffect.blogs {node : Node} {action : Action} {store : Store}
    (heffect : StoreEffect node action store) (h : node.Owned) :
    ∀ blog ∈ store.blogs, blog.id = Identifier.blog blog.author.id := by
  cases heffect with
  | kept => exact h.blogs
  | blogAdded hblog => exact h.blogs_addBlog hblog
  | drafted =>
    rw [Store.blogs_push]
    exact h.blogs
  | delivered =>
    rw [Store.blogs_push]
    exact h.blogs

namespace Owned

variable {node : Node}

theorem after (h : node.Owned) (action : Action) : (node.after action).Owned where
  coherent := by
    obtain ⟨changes, hchanges⟩ := (after_effect node action).1.exists_changes
    rw [hchanges]
    exact h.coherent.run changes
  blogs := (after_effect node action).1.blogs h
  posts := by
    refine (after_effect node action).1.forall_messages h.posts ?_ ?_
    · intro text post _ hdraft
      exact belongs_of_draft h hdraft
    · intro post _ hverified
      exact ((Post.verify_eq_ok_iff post).mp hverified).belongs
  author_ofSeed := by
    intro author hauthor
    obtain hsame | ⟨name, privateKey, registered, hcreate, hnext⟩ := (after_effect node action).2
    · rw [hsame] at hauthor
      exact h.author_ofSeed author hauthor
    · rw [hnext] at hauthor
      cases hauthor
      obtain ⟨seed, hseed⟩ := LocalAuthor.create_eq_ok hcreate
      exact ⟨name, seed, hseed⟩

theorem afterEvent (h : node.Owned) (event : Event) : (node.afterEvent event).Owned := by
  cases event with
  | action action => exact h.after action
  | start name privateKey clock metrics limit availability readFault =>
    obtain hsame | ⟨author, hcreate, hstore, hidentity⟩ :=
      afterEvent_start node name privateKey clock metrics limit availability readFault
    · rw [hsame]
      exact h
    refine ⟨?coherent, ?blogs, ?posts, ?author⟩
    case coherent =>
      rw [hstore]
      exact h.coherent.addBlog _
    case blogs =>
      rw [hstore]
      exact h.blogs_addBlog rfl
    case posts =>
      rw [hstore, Store.messages_addBlog]
      exact h.posts
    case author =>
      intro registered hregistered
      obtain hsame | hnext := hidentity
      · rw [hsame] at hregistered
        exact h.author_ofSeed registered hregistered
      · rw [hnext] at hregistered
        cases hregistered
        obtain ⟨seed, hseed⟩ := LocalAuthor.create_eq_ok hcreate
        exact ⟨name, seed, hseed⟩

theorem undergo (h : node.Owned) (events : List Event) : (node.undergo events).Owned := by
  induction events generalizing node with
  | nil => exact h
  | cons event events ih => exact ih (h.afterEvent event)

end Owned

theorem owned_of_anonymous {clock : Int} {metrics : Metrics} {limit : Option Int}
    {availability : Availability} {readFault : Fault} {node : Node}
    (hstart : anonymous .empty clock metrics limit availability readFault = .ok node) : node.Owned := by
  unfold anonymous at hstart
  cases hlimit : checkLimit limit with
  | error fault =>
    rw [hlimit] at hstart
    cases hstart
  | ok textLimit =>
    rw [hlimit] at hstart
    cases hstart
    exact {
      coherent := Store.coherent_empty
      blogs := fun _ hblog => absurd hblog List.not_mem_nil
      posts := fun _ hstored => absurd hstored List.not_mem_nil
      author_ofSeed := fun _ hauthor => absurd hauthor (Option.some_ne_none _).symm }

/-! ## Headers -/

/-- The ids of all authors that a node knows: of its blogs, of its posts, and its own. -/
def authorIds (node : Node) : List Bytes :=
  node.store.blogs.map (·.author.id) ++ node.store.posts.map (·.author.id) ++
    (node.identity.author?.map (·.id)).toList

/-- The header is listed under a blog as one of the author of the blog. -/
structure Listed (node : Node) (blog : Blog) (header : Header) : Prop where
  blogId : header.blogId = blog.id
  owner : header.author.id = blog.author.id
  derived : Identifier.author header.author.formatVersion header.author.publicKey
    = .ok header.author.id
  ours_iff : header.authorStatus = .ourselves ↔
    ∃ author, node.identity.author? = some author ∧ blog.id = (Blog.personal author.toAuthor).id

theorem Owned.listed {node : Node} (h : node.Owned)
    (hcollide : Sha2.CollisionFree (node.authorIds.map Identifier.blogPreimage)) {blog : Blog}
    (hblog : blog ∈ node.store.blogs) {stored : Stored} (hstored : stored ∈ node.store.messages)
    (hid : stored.post.blogId = blog.id) : node.Listed blog (node.identity.record stored).header := by
  have hbelongs := h.posts stored hstored
  have hposted : stored.post.author.id ∈ node.authorIds :=
    List.mem_append_left _ (List.mem_append_right _ (List.mem_map_of_mem (List.mem_map_of_mem hstored)))
  have hknown : blog.author.id ∈ node.authorIds :=
    List.mem_append_left _ (List.mem_append_left _ (List.mem_map_of_mem hblog))
  have howner : stored.post.author.id = blog.author.id := by
    apply Identifier.eq_of_blog_eq hcollide hposted hknown
    rw [← hbelongs.ownBlog, ← h.blogs blog hblog, hid]
  refine ⟨hid, howner, hbelongs.authorId, ?_⟩
  change (if node.identity.author?.map (·.id) = some stored.post.author.id then AuthorStatus.ourselves
    else .unknown) = .ourselves ↔ _
  cases hauthor : node.identity.author? with
  | none => simp
  | some author =>
    have hown : author.id ∈ node.authorIds := by
      refine List.mem_append_right _ ?_
      rw [hauthor]
      exact List.mem_singleton.mpr rfl
    have hsame : author.id = stored.post.author.id ↔ blog.id = Identifier.blog author.id := by
      rw [h.blogs blog hblog, howner]
      constructor
      · intro heq
        rw [heq]
      · intro heq
        exact (Identifier.eq_of_blog_eq hcollide hknown hown heq).symm
    simp [hsame, Blog.personal]

/-- Whatever happens to a node that began with nothing, over any number of starts on its store: each
blog it knows has the id that belongs to its author, and can be listed; every header that is listed
under the blog names that blog and its author, by an id that follows from version and key, and has the
status of the node's own posts exactly if the blog is the personal blog of the node's author. The hash is
taken not to collide on what ids of blogs are taken over. -/
theorem headers_owned {clock : Int} {metrics : Metrics} {limit : Option Int}
    {availability : Availability} {readFault : Fault} {node : Node} {events : List Event}
    (hstart : anonymous .empty clock metrics limit availability readFault = .ok node)
    (hcollide : Sha2.CollisionFree ((node.undergo events).authorIds.map Identifier.blogPreimage)) :
    ∀ blog ∈ (node.undergo events).store.blogs,
      blog.id = Identifier.blog blog.author.id ∧
        ∃ headers, (node.undergo events).headers blog.id = .ok headers ∧
          ∀ header ∈ headers, (node.undergo events).Listed blog header := by
  intro blog hblog
  have howned := (owned_of_anonymous hstart).undergo events
  obtain ⟨shelf, hshelf, rfl⟩ := List.mem_map.mp hblog
  have hlisting : (node.undergo events).headers shelf.blog.id
      = .ok (((node.undergo events).store.ofBlog shelf.blog.id).map fun stored =>
          ((node.undergo events).identity.record stored).header) := by
    unfold headers
    rw [howned.coherent.headers_eq hshelf]
    simp only [Except.map, List.map_map, Function.comp_def, Identity.withStatus_header]
  refine ⟨howned.blogs _ hblog, _, hlisting, ?_⟩
  intro header hheader
  obtain ⟨stored, hstored, rfl⟩ := List.mem_map.mp hheader
  obtain ⟨hmem, hid⟩ := Store.mem_ofBlog.mp hstored
  exact howned.listed hcollide hblog hmem hid

/-- A blog of an author of whom nothing but an id is known. -/
def bensBlog : Blog := Blog.personal ⟨1, [1], "ben", []⟩

/-- A node is started, a peer delivers a post under another name, and another blog is added. -/
def annsEvents : List Event :=
  [.start "ann" (List.replicate 32 7) 0 {} none {} .messageGone,
    .action (.addRemotePost (annsPost "eve")), .action (.addPersonalBlog bensBlog.author)]

/-- The node that there is then. -/
def annsLaterNode : Node :=
  { annsNode with store := (annsNode.store.push 0 (annsPost "eve") false).addBlog bensBlog }

theorem undergo_annsEvents (node : Node) (hstore : node.store = .empty) :
    node.undergo annsEvents = annsLaterNode := by
  have hcreate : LocalAuthor.create "ann" (List.replicate 32 7) = .ok ann := rfl
  have hstart : node.afterEvent (.start "ann" (List.replicate 32 7) 0 {} none {} .messageGone)
      = annsNode := by
    simp only [afterEvent, hcreate, hstore]
    rfl
  have heve : (annsPost "eve").verify = .ok () := Post.verify_of_valid (valid_annsPost (by decide))
  have hdelivered : annsNode.afterEvent (.action (.addRemotePost (annsPost "eve")))
      = { annsNode with store := annsNode.store.push 0 (annsPost "eve") false } :=
    congrArg Prod.snd (@addRemotePost_of_fresh annsNode _ heve (blogId_made_known rfl) List.not_mem_nil)
  unfold undergo annsEvents
  rw [List.foldl_cons, hstart, List.foldl_cons, hdelivered]
  rfl

set_option maxRecDepth 100000 in
theorem annsBlog_ids_ne :
    Sha2.sha256 (Identifier.blogPreimage ann.id) ≠ Sha2.sha256 (Identifier.blogPreimage [1]) := by
  decide +kernel

theorem blogs_annsLaterNode :
    annsLaterNode.store.blogs = [Blog.personal ann.toAuthor, bensBlog] := by
  have hid : ∀ author : Author,
      (Blog.personal author).id = Sha2.sha256 (Identifier.blogPreimage author.id) := fun _ => rfl
  have hstore : annsNode.store = ⟨[⟨Blog.personal ann.toAuthor, []⟩], [], 0⟩ :=
    Store.empty_addBlog (Blog.personal ann.toAuthor)
  have hnew : bensBlog.id ∉ (annsNode.store.push 0 (annsPost "eve") false).blogIds := by
    rw [Store.blogIds_push, hstore, Store.blogIds, List.map_singleton, List.mem_singleton, hid,
      bensBlog, hid]
    exact annsBlog_ids_ne.symm
  rw [annsLaterNode, Store.addBlog_of_new hnew, Store.blogs, List.map_append]
  change (annsNode.store.push 0 (annsPost "eve") false).blogs ++ [bensBlog] = _
  rw [Store.blogs_push, hstore]
  rfl

theorem authorIds_annsLaterNode : annsLaterNode.authorIds ⊆ [ann.id, [1]] := by
  have hstored : annsLaterNode.store.posts = [annsPost "eve"] := by
    unfold annsLaterNode Store.posts
    rw [Store.messages_addBlog]
    rfl
  -- the id of an author does not change with the name
  have hid : ∀ (name other : Text) (seed : Ed25519.Seed),
      (Post.made (.ofSeed name seed) 5 "hello").author.id = (LocalAuthor.ofSeed other seed).id :=
    fun _ _ _ => rfl
  have hids : annsLaterNode.authorIds = [ann.id, [1]] ++ [ann.id] ++ [ann.id] := by
    unfold authorIds
    rw [hstored, blogs_annsLaterNode, List.map_singleton, annsPost, hid "eve" "ann" ann.seed]
    rfl
  rw [hids]
  simp

theorem headers_owned_anns :
    ∃ node, anonymous .empty 5 {} none {} = .ok node ∧
      Sha2.CollisionFree ((node.undergo annsEvents).authorIds.map Identifier.blogPreimage) ∧
      bensBlog ∈ (node.undergo annsEvents).store.blogs ∧
      ∀ blog ∈ (node.undergo annsEvents).store.blogs,
        blog.id = Identifier.blog blog.author.id ∧
          ∃ headers, (node.undergo annsEvents).headers blog.id = .ok headers ∧
            ∀ header ∈ headers, (node.undergo annsEvents).Listed blog header := by
  have hcollide : ∀ node : Node, node.store = .empty →
      Sha2.CollisionFree ((node.undergo annsEvents).authorIds.map Identifier.blogPreimage) := by
    intro node hstore
    rw [undergo_annsEvents node hstore]
    exact (Sha2.collisionFree_pair annsBlog_ids_ne).of_subset
      (List.map_subset Identifier.blogPreimage authorIds_annsLaterNode)
  refine ⟨_, rfl, hcollide _ rfl, ?_,
    @headers_owned 5 {} none {} .messageGone _ annsEvents rfl (hcollide _ rfl)⟩
  rw [undergo_annsEvents _ rfl, blogs_annsLaterNode]
  exact List.mem_cons_of_mem _ List.mem_cons_self

end Node

end SignedBlog
