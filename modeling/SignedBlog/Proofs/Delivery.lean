import SignedBlog.Proofs.Relay

/-!
Posts of peers, delivered in any order.

Verification does not look at the store, and a post that is stored can only keep out a post of its own
id. So what a list of deliveries adds to a node follows from the list as a whole: `Node.Received` says
what, `Node.Received.deliver` that one delivery keeps to it, and `Node.deliverAll_of_perm` that the order
and the times do not count.
-/

namespace SignedBlog

set_option autoImplicit false

/-- Posts that verify are the same as soon as their ids are, if neither the hash nor the names hide a
difference. -/
theorem Post.eq_of_messageId_eq {a b : Post} (ha : a.Valid) (hb : b.Valid) (hnames : NamesTell a b)
    (hcollide : Sha2.sha256 a.addressed = Sha2.sha256 b.addressed → a.addressed = b.addressed)
    (h : a.messageId = b.messageId) : a = b := by
  have haddressed : a.addressed = b.addressed := by
    apply hcollide
    rw [← ha.messageId_eq, ← hb.messageId_eq, h]
  obtain ⟨hblog, hparent, hauthor, htime, htext, hsignature⟩ := addressed_inj ha hb hnames haddressed
  cases a
  cases b
  simp_all

theorem Store.mem_messageIds {store : Store} {id : Bytes} :
    id ∈ store.messageIds ↔ ∃ post ∈ store.posts, post.messageId = id := by
  simp [messageIds, posts]

/-- A post that a peer delivers when the clock reads some time. -/
structure Delivery where
  time : Int
  post : Post

/-- A post is found to have a defect. -/
def Post.isRefused (post : Post) : Bool :=
  match post.verify with
  | .error (.invalidPost _) => true
  | _ => false

namespace Node

/-! ## One delivery -/

/-- The node after a delivery, whether the post was taken or not. -/
def deliver (node : Node) (delivery : Delivery) : Node :=
  ((node.setClock delivery.time).addRemotePost delivery.post).2

/-- A node takes a post that verifies, for a blog it knows, if the id is new to it. -/
structure Admits (node : Node) (post : Post) : Prop where
  verified : post.verify = .ok ()
  known : post.blogId ∈ node.store.blogIds
  fresh : post.messageId ∉ node.store.messageIds

theorem deliver_of_admits {node : Node} {delivery : Delivery} (h : node.Admits delivery.post) :
    node.deliver delivery
      = { node.setClock delivery.time with
          store := node.store.push delivery.time delivery.post false } := by
  have htaken := @addRemotePost_of_fresh (node.setClock delivery.time) _ h.verified h.known h.fresh
  exact congrArg Prod.snd htaken

/-- A delivery that is not taken leaves the store alone. It is counted exactly if the post is found to
have a defect. -/
theorem deliver_of_not_admits {node : Node} {delivery : Delivery} (h : ¬ node.Admits delivery.post) :
    (node.deliver delivery).store = node.store ∧
      (node.deliver delivery).metrics.remotePostsRejected
        = node.metrics.remotePostsRejected + if delivery.post.isRefused then 1 else 0 := by
  unfold deliver addRemotePost Post.isRefused
  cases hverify : delivery.post.verify with
  | error fault => cases fault <;> exact ⟨rfl, rfl⟩
  | ok _ =>
    obtain ⟨fault, hstore⟩ | ⟨hknown, hfresh⟩ :=
      storePost_cases delivery.post false (node.setClock delivery.time)
    · simp only [hstore]
      exact ⟨rfl, rfl⟩
    · exact absurd ⟨hverify, hknown, hfresh⟩ h

/-! ## What deliveries add -/

/-- A node has been delivered some posts and is `now` in this state: what it admits of them has come
behind what it held, each post once, and what has a defect has been counted. -/
structure Received (node : Node) (delivered : List Post) (now : Node) : Prop where
  blogIds : now.store.blogIds = node.store.blogIds
  posts : ∃ added, now.store.posts = node.store.posts ++ added ∧ added.Nodup ∧
    ∀ post, post ∈ added ↔ post ∈ delivered ∧ node.Admits post
  rejected : now.metrics.remotePostsRejected
    = node.metrics.remotePostsRejected + delivered.countP Post.isRefused

/-- Among some posts an id stands for one post: hashes do not collide and names hold no surrogates. -/
structure Distinguishes (posts : List Post) : Prop where
  names_clean : ∀ post ∈ posts, post.author.name.Clean
  collisionFree : Sha2.CollisionFree (posts.map Post.addressed)

theorem Distinguishes.of_subset {posts all : List Post} (h : Distinguishes all)
    (hsubset : posts ⊆ all) : Distinguishes posts where
  names_clean := fun post hpost => h.names_clean post (hsubset hpost)
  collisionFree := h.collisionFree.of_subset (List.map_subset _ hsubset)

theorem Distinguishes.eq_of_messageId_eq {posts : List Post} (h : Distinguishes posts) {a b : Post}
    (ha : a ∈ posts) (hb : b ∈ posts) (hverified₁ : a.verify = .ok ())
    (hverified₂ : b.verify = .ok ()) (hid : a.messageId = b.messageId) : a = b :=
  Post.eq_of_messageId_eq ((Post.verify_eq_ok_iff a).mp hverified₁)
    ((Post.verify_eq_ok_iff b).mp hverified₂) (.inr ⟨h.names_clean a ha, h.names_clean b hb⟩)
    (h.collisionFree _ (List.mem_map_of_mem ha) _ (List.mem_map_of_mem hb)) hid

theorem received_nil (node : Node) : node.Received [] node where
  blogIds := rfl
  posts := ⟨[], by simp⟩
  rejected := rfl

namespace Received

variable {node now : Node} {delivered : List Post} {delivery : Delivery}

/-- What is admitted after some deliveries was admitted before them, and is not among them. -/
theorem admits_iff (h : node.Received delivered now)
    (hids : Distinguishes (delivered ++ [delivery.post])) :
    now.Admits delivery.post ↔ node.Admits delivery.post ∧ delivery.post ∉ delivered := by
  obtain ⟨added, hposts, -, hadded⟩ := h.posts
  have hstored : ∀ id, id ∈ now.store.messageIds ↔
      id ∈ node.store.messageIds ∨ ∃ post ∈ added, post.messageId = id := by
    intro id
    rw [Store.mem_messageIds, Store.mem_messageIds, hposts]
    simp only [List.mem_append, or_and_right, exists_or]
  constructor
  · rintro ⟨hverified, hknown, hfresh⟩
    rw [hstored, not_or] at hfresh
    have hadmits : node.Admits delivery.post := ⟨hverified, h.blogIds ▸ hknown, hfresh.1⟩
    exact ⟨hadmits, fun hmem => hfresh.2 ⟨_, (hadded _).mpr ⟨hmem, hadmits⟩, rfl⟩⟩
  · rintro ⟨hadmits, hnew⟩
    refine ⟨hadmits.verified, h.blogIds.symm ▸ hadmits.known, ?_⟩
    rw [hstored, not_or]
    refine ⟨hadmits.fresh, ?_⟩
    rintro ⟨earlier, hearlier, hid⟩
    obtain ⟨hmem, hadmitted⟩ := (hadded earlier).mp hearlier
    have hsame := hids.eq_of_messageId_eq (List.mem_append_left _ hmem)
      (List.mem_append_right _ (List.mem_singleton.mpr rfl)) hadmitted.verified hadmits.verified hid
    exact hnew (hsame ▸ hmem)

theorem countP_concat (delivered : List Post) (post : Post) :
    (delivered ++ [post]).countP Post.isRefused
      = delivered.countP Post.isRefused + if post.isRefused then 1 else 0 := by
  rw [List.countP_append, List.countP_singleton]

theorem take (h : node.Received delivered now) (hids : Distinguishes (delivered ++ [delivery.post]))
    (hadmits : now.Admits delivery.post) :
    node.Received (delivered ++ [delivery.post]) (now.deliver delivery) := by
  obtain ⟨added, hposts, hnodup, hadded⟩ := h.posts
  obtain ⟨hbefore, hnew⟩ := (h.admits_iff hids).mp hadmits
  have hsound : delivery.post.isRefused = false := by
    unfold Post.isRefused
    rw [hbefore.verified]
  rw [deliver_of_admits hadmits]
  refine ⟨?blogIds, ⟨added ++ [delivery.post], ?extended, ?nodup, ?mem⟩, ?rejected⟩
  case blogIds =>
    rw [Store.blogIds_push]
    exact h.blogIds
  case extended =>
    change (now.store.push delivery.time delivery.post false).messages.map (·.post) = _
    rw [Store.push, List.map_append, List.map_singleton, ← List.append_assoc, ← hposts]
    rfl
  case nodup =>
    rw [← List.concat_eq_append]
    exact List.Nodup.concat (fun hmem => hnew ((hadded _).mp hmem).1) hnodup
  case mem =>
    intro post
    rw [List.mem_append, List.mem_append, List.mem_singleton, hadded post, or_and_right]
    refine or_congr_right ⟨?_, And.left⟩
    rintro rfl
    exact ⟨rfl, hbefore⟩
  case rejected =>
    rw [countP_concat, hsound]
    exact h.rejected

theorem leave (h : node.Received delivered now) (hids : Distinguishes (delivered ++ [delivery.post]))
    (hadmits : ¬ now.Admits delivery.post) :
    node.Received (delivered ++ [delivery.post]) (now.deliver delivery) := by
  obtain ⟨added, hposts, hnodup, hadded⟩ := h.posts
  obtain ⟨hstore, hrejected⟩ := deliver_of_not_admits hadmits
  rw [h.admits_iff hids, not_and_not_right] at hadmits
  refine ⟨?blogIds, ⟨added, ?extended, hnodup, ?mem⟩, ?rejected⟩
  case blogIds =>
    rw [hstore]
    exact h.blogIds
  case extended =>
    rw [hstore]
    exact hposts
  case mem =>
    -- an admissible post that is not taken has been delivered before
    intro post
    rw [hadded post, List.mem_append, List.mem_singleton, or_and_right]
    refine ⟨.inl, fun hmem => hmem.elim id ?_⟩
    rintro ⟨rfl, hpost⟩
    exact ⟨hadmits hpost, hpost⟩
  case rejected =>
    rw [hrejected, h.rejected, countP_concat, Nat.add_assoc]

theorem deliver (h : node.Received delivered now)
    (hids : Distinguishes (delivered ++ [delivery.post])) :
    node.Received (delivered ++ [delivery.post]) (now.deliver delivery) := by
  by_cases hadmits : now.Admits delivery.post
  · exact h.take hids hadmits
  · exact h.leave hids hadmits

end Received

/-! ## Many deliveries -/

def deliverAll (node : Node) (deliveries : List Delivery) : Node := deliveries.foldl deliver node

theorem Received.deliverAll {node now : Node} {delivered : List Post} {deliveries : List Delivery}
    (h : node.Received delivered now) (hids : Distinguishes (delivered ++ deliveries.map (·.post))) :
    node.Received (delivered ++ deliveries.map (·.post)) (now.deliverAll deliveries) := by
  induction deliveries generalizing delivered now with
  | nil =>
    rw [List.map_nil, List.append_nil]
    exact h
  | cons delivery deliveries ih =>
    rw [List.map_cons, List.append_cons] at hids ⊢
    exact ih (h.deliver (hids.of_subset (List.subset_append_left _ _))) hids

/-- Deliveries of the same posts, in whatever order and at whatever times, leave a node with the same
posts and the same counts. The posts that come behind those it held are those of the list that verify, are
of a blog it knows and have an id that was new to it, each of them once. Names hold no surrogates, and
the hash is taken not to collide on what the ids are taken over. -/
theorem deliverAll_of_perm {node : Node} {first second : List Delivery}
    (hperm : (first.map (·.post)).Perm (second.map (·.post)))
    (hnames : ∀ delivery ∈ first, delivery.post.author.name.Clean)
    (hcollide : Sha2.CollisionFree (first.map (·.post.addressed))) :
    (∀ post, post ∈ (node.deliverAll first).store.posts ↔
        post ∈ (node.deliverAll second).store.posts) ∧
      (node.deliverAll first).store.count = (node.deliverAll second).store.count ∧
      (node.deliverAll first).metrics.remotePostsRejected
        = (node.deliverAll second).metrics.remotePostsRejected ∧
      (node.deliverAll first).metrics.remotePostsRejected
        = node.metrics.remotePostsRejected + (first.map (·.post)).countP Post.isRefused ∧
      ∃ added, (node.deliverAll first).store.posts = node.store.posts ++ added ∧ added.Nodup ∧
        ∀ post, post ∈ added ↔
          post ∈ first.map (·.post) ∧ post.verify = .ok () ∧
            post.blogId ∈ node.store.blogIds ∧ post.messageId ∉ node.store.messageIds := by
  have hids : Distinguishes (first.map (·.post)) := by
    refine ⟨List.forall_mem_map.mpr hnames, ?_⟩
    rw [List.map_map]
    exact hcollide
  have hfirst : node.Received (first.map (·.post)) (node.deliverAll first) :=
    (received_nil node).deliverAll hids
  have hsecond : node.Received (second.map (·.post)) (node.deliverAll second) :=
    (received_nil node).deliverAll (hids.of_subset hperm.symm.subset)
  obtain ⟨added₁, hposts₁, hnodup₁, hadded₁⟩ := hfirst.posts
  obtain ⟨added₂, hposts₂, hnodup₂, hadded₂⟩ := hsecond.posts
  have hsame : added₁.Perm added₂ := by
    rw [List.perm_ext_iff_of_nodup hnodup₁ hnodup₂]
    intro post
    rw [hadded₁, hadded₂, hperm.mem_iff]
  refine ⟨?members, ?count, ?rejections, hfirst.rejected, added₁, hposts₁, hnodup₁, ?added⟩
  case members =>
    intro post
    rw [hposts₁, hposts₂, List.mem_append, List.mem_append, hsame.mem_iff]
  case count =>
    rw [← Store.length_posts, ← Store.length_posts, hposts₁, hposts₂, List.length_append,
      List.length_append, hsame.length_eq]
  case rejections =>
    rw [hfirst.rejected, hsecond.rejected, hperm.countP_eq]
  case added =>
    intro post
    rw [hadded₁]
    refine and_congr_right fun _ => ?_
    exact ⟨fun h => ⟨h.verified, h.known, h.fresh⟩, fun h => ⟨h.1, h.2.1, h.2.2⟩⟩

/-- One post twice, another one, and that one with a wrong id. -/
def evesDeliveries : List Delivery :=
  [⟨9, annsPost "eve"⟩, ⟨3, { annsPost "ann" with messageId := [] }⟩, ⟨4, annsPost "ann"⟩,
    ⟨2, annsPost "eve"⟩]

/-- The same posts, the last one first, while the clock stands still. -/
def evesDeliveriesReversed : List Delivery :=
  evesDeliveries.reverse.map fun delivery => { delivery with time := 0 }

theorem deliverAll_of_perm_eves :
    (evesDeliveries.map (·.post)).Perm (evesDeliveriesReversed.map (·.post)) ∧
      (∀ delivery ∈ evesDeliveries, delivery.post.author.name.Clean) ∧
      Sha2.CollisionFree (evesDeliveries.map (·.post.addressed)) ∧
      (∀ post, post ∈ (annsNode.deliverAll evesDeliveries).store.posts ↔
        post ∈ (annsNode.deliverAll evesDeliveriesReversed).store.posts) ∧
      (annsNode.deliverAll evesDeliveries).store.count
        = (annsNode.deliverAll evesDeliveriesReversed).store.count ∧
      (annsNode.deliverAll evesDeliveries).metrics.remotePostsRejected
        = (annsNode.deliverAll evesDeliveriesReversed).metrics.remotePostsRejected ∧
      annsPost "eve" ∈ (annsNode.deliverAll evesDeliveriesReversed).store.posts := by
  have hperm : (evesDeliveries.map (·.post)).Perm (evesDeliveriesReversed.map (·.post)) := by
    unfold evesDeliveriesReversed
    rw [List.map_map, List.map_reverse]
    exact (List.reverse_perm _).symm
  have hnames : ∀ delivery ∈ evesDeliveries, delivery.post.author.name.Clean := by
    have hann : ("ann" : Text).Clean := by decide
    have heve : ("eve" : Text).Clean := by decide
    unfold evesDeliveries
    simp only [List.forall_mem_cons, List.not_mem_nil, false_imp_iff, implies_true, and_true]
    exact ⟨heve, hann, hann, heve⟩
  have heve : (annsPost "eve").Valid := valid_annsPost (by decide)
  have hcollide : Sha2.CollisionFree (evesDeliveries.map (·.post.addressed)) := by
    have hne : Sha2.sha256 (annsPost "ann").addressed ≠ Sha2.sha256 (annsPost "eve").addressed := by
      rw [← (valid_annsPost (by decide)).messageId_eq, ← heve.messageId_eq]
      exact annsPost_ids_ne
    refine (Sha2.collisionFree_pair hne).of_subset ?_
    -- the message id is no part of what it is taken over
    have hall : ∀ a b : Post, ([b, { a with messageId := [] }, a, b].map Post.addressed)
        ⊆ [a.addressed, b.addressed] := by
      intro a b
      change [b.addressed, a.addressed, a.addressed, b.addressed] ⊆ _
      simp
    exact hall (annsPost "ann") (annsPost "eve")
  obtain ⟨hposts, hcount, hrejected, -, added, hadded, -, hmem⟩ :=
    @deliverAll_of_perm annsNode evesDeliveries evesDeliveriesReversed hperm hnames hcollide
  refine ⟨hperm, hnames, hcollide, hposts, hcount, hrejected, ?_⟩
  rw [← hposts, hadded]
  refine List.mem_append_right _ ((hmem _).mpr ⟨List.mem_cons_self, Post.verify_of_valid heve, ?_, ?_⟩)
  · exact blogId_made_known rfl
  · exact List.not_mem_nil

end Node

end SignedBlog
