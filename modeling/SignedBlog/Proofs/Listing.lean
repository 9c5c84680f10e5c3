import SignedBlog.Node.Feed
import SignedBlog.Proofs.FeedOrder

/-!
What a listing holds.

A node lists its store in the order `Store.feed`, one record for each message, as long as texts can
be read: `Node.listPosts_eq`. What the feed is then follows for every store that grew from nothing.
-/

namespace SignedBlog

set_option autoImplicit false

/-! ## Records -/

/-- The record of a stored post on a node of this identity. -/
def Identity.record (identity : Identity) (stored : Stored) : Record where
  header := {
    id := stored.post.messageId
    blogId := stored.post.blogId
    parentId := stored.post.parentId
    author := stored.post.author
    authorStatus :=
      if identity.author?.map (·.id) = some stored.post.author.id then .ourselves else .unknown
    timestamp := stored.post.timestamp
    timeReceived := stored.timeReceived }
  text := stored.post.text

theorem Identity.withStatus_header (identity : Identity) (stored : Stored) :
    identity.withStatus stored.header = (identity.record stored).header := by
  have hstatus : identity.statusOf stored.post.author.id
      = (identity.record stored).header.authorStatus := by
    unfold statusOf record
    cases identity.author? with
    | none => rfl
    | some author => simp
  unfold withStatus
  change { stored.header with authorStatus := identity.statusOf stored.post.author.id } = _
  rw [hstatus]
  rfl

namespace Node

/-! ## Headers -/

theorem collectHeaders_eq {node : Node} (h : node.store.Coherent) {shelves : List Shelf}
    (hshelves : ∀ shelf ∈ shelves, shelf ∈ node.store.shelves) :
    node.collectHeaders (shelves.map (·.blog))
      = .ok ((shelves.flatMap fun shelf => node.store.ofBlog shelf.blog.id).map fun stored =>
          (node.identity.record stored).header) := by
  induction shelves with
  | nil => rfl
  | cons shelf shelves ih =>
    rw [List.forall_mem_cons] at hshelves
    have hfirst : node.headers shelf.blog.id
        = .ok ((node.store.ofBlog shelf.blog.id).map fun stored =>
            (node.identity.record stored).header) := by
      unfold headers
      rw [h.headers_eq hshelves.1]
      simp [Except.map, Function.comp_def, Identity.withStatus_header]
    rw [List.map_cons, collectHeaders, hfirst]
    simp only [ih hshelves.2, List.flatMap_cons, List.map_append]
    rfl

theorem collectHeaders_blogs {node : Node} (h : node.store.Coherent) :
    node.collectHeaders node.store.blogs
      = .ok (node.store.byBlog.map fun stored => (node.identity.record stored).header) := by
  rw [Store.blogs, collectHeaders_eq h fun shelf hshelf => hshelf]
  simp only [Store.byBlog, Store.blogIds, List.flatMap_map]

theorem sortByArrival_map (identity : Identity) (messages : List Stored) :
    sortByArrival (messages.map fun stored => (identity.record stored).header)
      = (messages.mergeSort fun a b => decide (a.timeReceived ≤ b.timeReceived)).map fun stored =>
          (identity.record stored).header := by
  rw [sortByArrival, List.map_mergeSort]
  intro a _ b _
  rfl

/-! ## Texts -/

/-- So many texts can still be read. -/
def CanRead (count : Nat) (node : Node) : Prop :=
  ∀ left, node.availability.readsLeft = some left → count ≤ left

theorem canRead_of_unlimited {node : Node} (h : node.availability.readsLeft = none)
    (count : Nat) : node.CanRead count := by
  intro left hleft
  rw [h] at hleft
  cases hleft

/-- The node after so many texts were read. -/
def afterReads (count : Nat) (node : Node) : Node :=
  { node with availability :=
      { node.availability with readsLeft := node.availability.readsLeft.map (· - count) } }

@[simp] theorem afterReads_zero (node : Node) : node.afterReads 0 = node := by
  obtain ⟨store, identity, clock, metrics, limit, ⟨readsLeft, unreachable⟩, readFault, arrivalClock⟩ :=
    node
  cases readsLeft <;> rfl

theorem afterReads_afterReads (first second : Nat) (node : Node) :
    (node.afterReads first).afterReads second = node.afterReads (first + second) := by
  simp [afterReads, Function.comp_def, Nat.sub_sub]

theorem CanRead.afterReads {first second : Nat} {node : Node} (h : node.CanRead (first + second)) :
    (node.afterReads first).CanRead second := by
  intro left hleft
  obtain ⟨before, hbefore, rfl⟩ := Option.map_eq_some_iff.mp hleft
  have hle := h before hbefore
  omega

theorem readText_eq {node : Node} (h : node.store.Coherent) {stored : Stored}
    (hstored : stored ∈ node.store.messages) (hreads : node.CanRead 1) :
    node.readText stored.post.messageId = (.ok stored.post.text, node.afterReads 1) := by
  obtain ⟨store, identity, clock, metrics, limit, ⟨readsLeft, unreachable⟩, readFault, arrivalClock⟩ :=
    node
  unfold readText
  rw [h.text_eq hstored]
  match readsLeft with
  | none => rfl
  | some 0 =>
    have hle := hreads 0 rfl
    omega
  | some (left + 1) => rfl

theorem joinTexts_eq {node : Node} (h : node.store.Coherent) {messages : List Stored}
    (hmessages : ∀ stored ∈ messages, stored ∈ node.store.messages)
    (hreads : node.CanRead messages.length) (done : List Record) :
    joinTexts done (messages.map fun stored => (node.identity.record stored).header) node
      = (.ok (done.reverse ++ messages.map node.identity.record),
          node.afterReads messages.length) := by
  induction messages generalizing node done with
  | nil => simp [joinTexts]
  | cons stored messages ih =>
    rw [List.forall_mem_cons] at hmessages
    rw [List.length_cons, Nat.add_comm] at hreads ⊢
    have hread : node.readText (node.identity.record stored).header.id
        = (.ok stored.post.text, node.afterReads 1) := by
      refine readText_eq h hmessages.1 fun left hleft => ?_
      have hle := hreads left hleft
      omega
    simp only [List.map_cons, joinTexts, hread]
    rw [← afterReads_afterReads, List.append_cons, ← List.reverse_cons]
    exact @ih (node.afterReads 1) h hmessages.2 hreads.afterReads _

/-! ## The listing -/

theorem listPosts_eq {node : Node} (h : node.store.Coherent)
    (hreads : node.CanRead node.store.count) :
    node.listPosts
      = (.ok (node.store.feed.map node.identity.record),
          (node.afterReads node.store.count).countListing) := by
  have hlength : node.store.feed.length = node.store.count := h.feed_perm.length_eq
  have hjoined := joinTexts_eq h (fun stored hstored => h.mem_feed_iff.mp hstored)
    (hlength ▸ hreads) []
  rw [hlength] at hjoined
  have hsorted := sortByArrival_map node.identity node.store.byBlog
  unfold listPosts
  rw [collectHeaders_blogs h]
  simp only [hsorted]
  rw [← Store.feed, hjoined]
  rfl

/-! ## A small store -/

/-- Two blogs, and a message in each that arrived at one time: first in the second blog. -/
def crossedChanges : List Store.Change :=
  let blog (n : UInt8) : Blog := ⟨[n], ⟨1, [n], "ann", []⟩⟩
  let post (n : UInt8) : Post := ⟨[n, n], [n], none, (blog n).author, 7, "hello", []⟩
  [.addBlog (blog 1), .addBlog (blog 2), .addMessage 5 (post 2) false, .addMessage 5 (post 1) true]

def crossed : Node where
  store := Store.empty.run crossedChanges
  identity := ⟨none⟩
  clock := 5
  metrics := {}
  textLimit := 20
  availability := {}

theorem crossed_canRead : crossed.CanRead crossed.store.count := by
  intro left hleft
  cases hleft

/-! ## What follows for every store -/

/-- A listing holds one record for each message and nothing else. The records are in order of
arrival, and those of one blog as they were accepted. -/
theorem listPosts_of_run {changes : List Store.Change} {node : Node}
    (hstore : node.store = Store.empty.run changes)
    (hreads : node.CanRead node.store.count) :
    ∃ records,
      node.listPosts = (.ok records, (node.afterReads node.store.count).countListing) ∧
      records.Perm (node.store.messages.map node.identity.record) ∧
      (records.map (·.header.id)).Nodup ∧
      (∀ record ∈ records, record.header.authorStatus.word =
        if node.identity.author?.map (·.id) = some record.header.author.id
        then ("ourselves" : Text) else "unknown") ∧
      (records.map (·.header.timeReceived)).Pairwise (· ≤ ·) ∧
      ∀ blogId, (records.filter fun record => record.header.blogId = blogId)
        = (node.store.ofBlog blogId).map node.identity.record := by
  have h : node.store.Coherent := hstore ▸ Store.coherent_empty.run changes
  refine ⟨_, listPosts_eq h hreads, h.feed_perm.map _, ?nodup, ?status, ?rises, ?blog⟩
  case nodup =>
    rw [List.map_map]
    exact h.feed_ids_nodup
  case status =>
    intro record hrecord
    obtain ⟨stored, -, rfl⟩ := List.mem_map.mp hrecord
    change AuthorStatus.word (if _ then _ else _) = _
    rw [apply_ite AuthorStatus.word]
    rfl
  case rises =>
    rw [List.map_map]
    exact node.store.feed_rises
  case blog =>
    intro blogId
    rw [List.filter_map]
    exact congrArg (List.map node.identity.record) (h.feed_filter blogId)

theorem listPosts_of_run_crossed :
    crossed.store = Store.empty.run crossedChanges ∧ crossed.CanRead crossed.store.count ∧
      ∃ records,
        crossed.listPosts = (.ok records, (crossed.afterReads 2).countListing) ∧
        records.Perm (crossed.store.messages.map crossed.identity.record) := by
  refine ⟨rfl, crossed_canRead, ?_⟩
  obtain ⟨records, hlist, hperm, -⟩ := @listPosts_of_run crossedChanges crossed rfl
    crossed_canRead
  exact ⟨records, hlist, hperm⟩

/-! ## Ties -/

/-- A listing gives the ids in the order of the store exactly when no message arrived at the time of
an earlier one whose blog was added later. Any two such messages change places. -/
theorem listPosts_ties {changes : List Store.Change} {node : Node}
    (hstore : node.store = Store.empty.run changes) (hreads : node.CanRead node.store.count) :
    ∃ records,
      node.listPosts = (.ok records, (node.afterReads node.store.count).countListing) ∧
      (∀ a b, [a, b].Sublist node.store.messages → a.timeReceived = b.timeReceived →
        ([a.post.messageId, b.post.messageId].Sublist (records.map (·.header.id)) ↔
          ¬ [b.post.blogId, a.post.blogId].Sublist node.store.blogIds)) ∧
      (records.map (·.header.id) = node.store.posts.map (·.messageId) ↔
        ∀ a b, [a, b].Sublist node.store.messages → a.timeReceived = b.timeReceived →
          ¬ [b.post.blogId, a.post.blogId].Sublist node.store.blogIds) := by
  have h : node.store.Coherent := hstore ▸ Store.coherent_empty.run changes
  refine ⟨_, listPosts_eq h hreads, ?_⟩
  rw [List.map_map, Store.posts, List.map_map]
  exact ⟨fun a b hab htie => h.pair_ids_of_tie hab htie, h.feed_ids_eq_iff⟩

theorem listPosts_ties_crossed :
    crossed.store = Store.empty.run crossedChanges ∧ crossed.CanRead crossed.store.count ∧
      ∃ records,
        crossed.listPosts = (.ok records, (crossed.afterReads 2).countListing) ∧
        ∀ a b, [a, b].Sublist crossed.store.messages → a.timeReceived = b.timeReceived →
          ([a.post.messageId, b.post.messageId].Sublist (records.map (·.header.id)) ↔
            ¬ [b.post.blogId, a.post.blogId].Sublist crossed.store.blogIds) := by
  refine ⟨rfl, crossed_canRead, ?_⟩
  obtain ⟨records, hlist, hpair, -⟩ := @listPosts_ties crossedChanges crossed rfl crossed_canRead
  exact ⟨records, hlist, hpair⟩

/-- A listing need not keep the order in which the store accepted messages. -/
theorem not_listPosts_in_order :
    ¬ ∀ (changes : List Store.Change) (node : Node), node.store = Store.empty.run changes →
      node.CanRead node.store.count → ∀ records, node.listPosts.1 = .ok records →
        records.map (·.header.id) = node.store.posts.map (·.messageId) := by
  intro hclaim
  have h : crossed.store.Coherent := Store.coherent_empty.run crossedChanges
  have hlist := listPosts_eq h crossed_canRead
  have hids := hclaim crossedChanges crossed rfl crossed_canRead _ (congrArg Prod.fst hlist)
  have hfeed : crossed.store.feed = crossed.store.byBlog :=
    List.mergeSort_of_pairwise (by decide)
  rw [hfeed] at hids
  revert hids
  decide

end Node

end SignedBlog
