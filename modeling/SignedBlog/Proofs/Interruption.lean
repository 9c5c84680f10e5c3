import SignedBlog.Proofs.Listing

/-!
Listings that are interrupted.

A listing reads one text for each message, in the order of the feed. The first text that cannot be read
ends it, and what is wrong with that text is all that is answered: `Node.joinTexts_cut`. So a listing
gives every record or none: `Node.listPosts_all_or_nothing`.
-/

namespace SignedBlog.Node

set_option autoImplicit false

/-! ## Reading with a limit -/

/-- The node as it would be if every text could be read. -/
def readable (node : Node) : Node :=
  { node with availability := { node.availability with readsLeft := none } }

theorem canRead_of_limit {node : Node} {limit count : Nat}
    (h : node.availability.readsLeft = some limit) (hcount : count ≤ limit) :
    node.CanRead count := by
  intro left hleft
  rw [h] at hleft
  cases hleft
  exact hcount

theorem readsLeft_afterReads {node : Node} {limit : Nat}
    (h : node.availability.readsLeft = some limit) (count : Nat) :
    (node.afterReads count).availability.readsLeft = some (limit - count) := by
  simp [afterReads, h]

theorem readText_of_none_left {node : Node} (h : node.availability.readsLeft = some 0)
    (messageId : Bytes) : node.readText messageId = (.error node.readFault, node) := by
  simp only [readText, h]

/-! ## The text that ends a listing -/

/-- The first text that cannot be read ends the reading with its own fault, whatever was read before. -/
theorem joinTexts_cut {node next : Node} {fault : Fault} (h : node.store.Coherent)
    {read later : List Stored} {stored : Stored}
    (hread : ∀ earlier ∈ read, earlier ∈ node.store.messages) (hreads : node.CanRead read.length)
    (hfault : (node.afterReads read.length).readText stored.post.messageId = (.error fault, next))
    (done : List Record) :
    joinTexts done ((read ++ stored :: later).map fun stored => (node.identity.record stored).header)
        node = (.error fault, next) := by
  induction read generalizing node done with
  | nil =>
    rw [List.length_nil, afterReads_zero] at hfault
    have hfirst : node.readText (node.identity.record stored).header.id = (.error fault, next) := hfault
    simp only [List.nil_append, List.map_cons, joinTexts, hfirst]
  | cons earlier read ih =>
    rw [List.forall_mem_cons] at hread
    rw [List.length_cons, Nat.add_comm] at hreads hfault
    have hfirst : node.readText (node.identity.record earlier).header.id
        = (.ok earlier.post.text, node.afterReads 1) := by
      refine readText_eq h hread.1 fun left hleft => ?_
      have hle := hreads left hleft
      omega
    -- behind the first text the node has one reading less, and so has the fault
    rw [← afterReads_afterReads] at hfault
    simp only [List.cons_append, List.map_cons, joinTexts, hfirst]
    exact @ih (node.afterReads 1) h hread.2 hreads.afterReads hfault _

/-- A listing ends at the first place of the feed whose text cannot be read. -/
theorem listPosts_cut {node : Node} {limit : Nat} (h : node.store.Coherent)
    (hreads : node.availability.readsLeft = some limit) (hcut : limit < node.store.count) :
    node.listPosts = (.error node.readFault, node.afterReads limit) := by
  have hlength : node.store.feed.length = node.store.count := h.feed_perm.length_eq
  have hlimit : limit < node.store.feed.length := by omega
  have hsplit := List.take_append_drop limit node.store.feed
  rw [List.drop_eq_getElem_cons hlimit] at hsplit
  have htaken : (node.store.feed.take limit).length = limit := by
    rw [List.length_take]
    omega
  have hfault : (node.afterReads (node.store.feed.take limit).length).readText
      node.store.feed[limit].post.messageId = (.error node.readFault, node.afterReads limit) := by
    rw [htaken]
    apply readText_of_none_left
    rw [readsLeft_afterReads hreads, Nat.sub_self]
  have hjoined := @joinTexts_cut node _ _ h (node.store.feed.take limit)
    (node.store.feed.drop (limit + 1)) node.store.feed[limit]
    (fun stored hstored => h.mem_feed_iff.mp (List.mem_of_mem_take hstored))
    (canRead_of_limit hreads (Nat.le_of_eq htaken)) hfault []
  rw [hsplit] at hjoined
  unfold listPosts
  rw [collectHeaders_blogs h]
  simp only [sortByArrival_map node.identity node.store.byBlog]
  rw [← Store.feed, hjoined]

/-! ## All or nothing -/

/-- Where so many texts can be read, a listing gives all that it would give if every text could be, or,
with fewer texts than messages, nothing but the fault with which the first text that is out of reach
fails to be read, whatever fault that is. It is counted only in the first case, and leaves the store as
it is in both. -/
theorem listPosts_all_or_nothing {changes : List Store.Change} {node : Node} {limit : Nat}
    (hstore : node.store = Store.empty.run changes)
    (hreads : node.availability.readsLeft = some limit) :
    (node.store.count ≤ limit → ∃ records,
      node.readable.listPosts.1 = .ok records ∧ records.length = node.store.count ∧
      records.Perm (node.store.messages.map node.identity.record) ∧
      node.listPosts = (.ok records, (node.afterReads node.store.count).countListing)) ∧
    (limit < node.store.count → ∃ stored,
      node.store.feed[limit]? = some stored ∧
      (node.afterReads limit).readText stored.post.messageId
        = (.error node.readFault, node.afterReads limit) ∧
      node.listPosts = (.error node.readFault, node.afterReads limit)) ∧
    node.listPosts.2.store = node.store ∧
    node.listPosts.2.metrics.listingsServed
      = node.metrics.listingsServed + if node.listPosts.1.isOk then 1 else 0 := by
  have h : node.store.Coherent := hstore ▸ Store.coherent_empty.run changes
  obtain hcut | hall := Nat.lt_or_ge limit node.store.count
  · have hlist := listPosts_cut h hreads hcut
    have hlength : node.store.feed.length = node.store.count := h.feed_perm.length_eq
    refine ⟨fun hall => absurd hcut (Nat.not_lt.mpr hall), fun _ => ?_, ?_, ?_⟩
    · refine ⟨_, List.getElem?_eq_getElem (by omega), ?_, hlist⟩
      apply readText_of_none_left
      rw [readsLeft_afterReads hreads, Nat.sub_self]
    · rw [hlist]
      rfl
    · rw [hlist]
      rfl
  · have hlist := listPosts_eq h (canRead_of_limit hreads hall)
    have hreadable := @listPosts_eq node.readable h (canRead_of_unlimited rfl _)
    have hperm := h.feed_perm.map node.identity.record
    refine ⟨fun _ => ?_, fun hless => absurd hall (Nat.not_le.mpr hless), ?_, ?_⟩
    · refine ⟨_, congrArg Prod.fst hreadable, ?_, hperm, hlist⟩
      rw [List.length_map]
      exact h.feed_perm.length_eq
    · rw [hlist]
      rfl
    · rw [hlist]
      rfl

/-- Two messages, of whose texts one can be read before the store is lost. -/
def crossedOnce : Node :=
  { crossed with
    availability := { readsLeft := some 1 }
    readFault := .storeUnreachable "connection lost" }

theorem listPosts_all_or_nothing_crossed :
    crossedOnce.store = Store.empty.run crossedChanges ∧
      crossedOnce.availability.readsLeft = some 1 ∧ 1 < crossedOnce.store.count ∧
      crossedOnce.listPosts
        = (.error (.storeUnreachable "connection lost"), crossedOnce.afterReads 1) ∧
      crossedOnce.listPosts.2.metrics.listingsServed = 0 := by
  have hcut : 1 < crossedOnce.store.count := by decide
  obtain ⟨-, hshort, -, hcounted⟩ :=
    @listPosts_all_or_nothing crossedChanges crossedOnce 1 rfl rfl
  obtain ⟨stored, -, -, hlist⟩ := hshort hcut
  refine ⟨rfl, rfl, hcut, hlist, ?_⟩
  rw [hcounted, hlist]
  rfl

end SignedBlog.Node
