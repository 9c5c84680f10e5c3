import SignedBlog.Proofs.Action
import SignedBlog.Proofs.Listing

/-!
How the feed grows.

The feed is put together anew for each listing. `Store.Coherent.feed_push` says that a message that
arrives is put in somewhere and nothing else moves, and `Node.Call.growth` that no call does more
than that. Both give `Node.listPosts_grows`.
-/

namespace SignedBlog

set_option autoImplicit false

namespace Store

/-! ## The feed after a change -/

theorem byBlog_sublist_push (store : Store) (clock : Int) (post : Post) (isLocal : Bool) :
    store.byBlog.Sublist (store.push clock post isLocal).byBlog := by
  rw [byBlog, byBlog, blogIds_push]
  apply List.Sublist.flatMap_right
  intro blogId _
  rw [ofBlog_push]
  exact List.sublist_append_left _ _

namespace Coherent

variable {store : Store}

theorem feed_addBlog (h : store.Coherent) (blog : Blog) :
    (store.addBlog blog).feed = store.feed := by
  obtain hsame | ⟨hnew, hadded⟩ := addBlog_eq store blog
  · rw [hsame]
  have hofBlog : (store.addBlog blog).ofBlog = store.ofBlog := by
    funext blogId
    rw [ofBlog, messages_addBlog, ofBlog]
  have hids : (store.addBlog blog).blogIds = store.blogIds ++ [blog.id] := by
    rw [hadded]
    simp [blogIds]
  have hbyBlog : (store.addBlog blog).byBlog = store.byBlog := by
    simp [byBlog, hofBlog, hids, h.ofBlog_eq_nil hnew]
  rw [feed, hbyBlog, feed]

/-- A message that arrives is put in somewhere, and the others stay in their order. -/
theorem feed_push (h : store.Coherent) {clock : Int} {post : Post} {isLocal : Bool}
    (hknown : post.blogId ∈ store.blogIds) (hfresh : post.messageId ∉ store.messageIds) :
    ∃ earlier later, store.feed = earlier ++ later ∧
      (store.push clock post isLocal).feed
        = earlier ++ store.arriving clock post isLocal :: later := by
  have hnext : (store.push clock post isLocal).Coherent := h.push hknown hfresh
  have hmessages : (store.push clock post isLocal).messages
      = store.messages ++ [store.arriving clock post isLocal] := rfl
  have harrived : store.arriving clock post isLocal ∈ (store.push clock post isLocal).feed := by
    rw [hnext.mem_feed_iff, hmessages]
    simp
  obtain ⟨earlier, later, hsplit⟩ := List.append_of_mem harrived
  refine ⟨earlier, later, ?_, hsplit⟩
  have hperm : store.feed.Perm (earlier ++ later) := by
    have hall := hnext.feed_perm
    rw [hsplit, hmessages] at hall
    have hcons := List.perm_middle.symm.trans (hall.trans (List.perm_append_singleton _ _))
    exact h.feed_perm.trans hcons.cons_inv.symm
  -- Both lists keep the order of the new feed, in which no two messages stand both ways.
  have hrest : (earlier ++ later).Pairwise fun a b =>
      [a, b].Sublist (store.push clock post isLocal).feed := by
    rw [List.pairwise_iff_forall_sublist]
    intro a b hab
    rw [hsplit]
    exact hab.trans (List.Sublist.append_left (List.sublist_cons_self _ _) _)
  have hbefore : store.feed.Pairwise fun a b =>
      [a, b].Sublist (store.push clock post isLocal).feed := by
    rw [List.pairwise_iff_forall_sublist]
    intro a b hab
    have ha : a ∈ store.messages := h.mem_feed_iff.mp (hab.subset (by simp))
    have hb : b ∈ store.messages := h.mem_feed_iff.mp (hab.subset (by simp))
    have hne := pair_ne h.feed_nodup hab
    rw [h.pair_feed_iff ha hb hne] at hab
    rw [hnext.pair_feed_iff (List.mem_append_left _ ha) (List.mem_append_left _ hb) hne]
    exact hab.imp_right fun htie => ⟨htie.1, htie.2.trans (byBlog_sublist_push ..)⟩
  refine hperm.eq_of_pairwise ?_ hbefore hrest
  intro a b _ _ hab hba
  exact absurd hba (not_sublist_swap hnext.feed_nodup hab)

end Coherent

/-! ## Growth -/

/-- What may become of a store without anything being taken from it. -/
inductive Growth (store : Store) : Store → Prop where
  | kept : Growth store store
  | blog (blog : Blog) : Growth store (store.addBlog blog)
  | message {clock : Int} {post : Post} {isLocal : Bool} (hknown : post.blogId ∈ store.blogIds)
      (hfresh : post.messageId ∉ store.messageIds) :
      Growth store (store.push clock post isLocal)

theorem Growth.coherent {store next : Store} (hgrowth : store.Growth next) (h : store.Coherent) :
    next.Coherent := by
  cases hgrowth with
  | kept => exact h
  | blog blog => exact h.addBlog blog
  | message hknown hfresh => exact h.push hknown hfresh

end Store

/-! ## Listings -/

/-- A listing has one record more than before, and nothing else has changed. -/
structure Inserted (record : Record) (before after : List Record) : Prop where
  placed : ∃ earlier later, before = earlier ++ later ∧ after = earlier ++ record :: later
  once : after.count record = 1
  latest : ∀ other ∈ after, other.header.timeReceived ≤ record.header.timeReceived

theorem Store.Coherent.inserted {store : Store} (h : store.Coherent) {clock : Int} {post : Post}
    {isLocal : Bool} (hknown : post.blogId ∈ store.blogIds)
    (hfresh : post.messageId ∉ store.messageIds) (identity : Identity) :
    Inserted (identity.record (store.arriving clock post isLocal))
      (store.feed.map identity.record)
      ((store.push clock post isLocal).feed.map identity.record) := by
  have hnext : (store.push clock post isLocal).Coherent := h.push hknown hfresh
  obtain ⟨earlier, later, hbefore, hafter⟩ := @feed_push store h clock post isLocal hknown hfresh
  refine ⟨?placed, ?once, ?latest⟩
  case placed =>
    refine ⟨earlier.map identity.record, later.map identity.record, ?_, ?_⟩
    · rw [hbefore, List.map_append]
    · rw [hafter, List.map_append, List.map_cons]
  case once =>
    have hids := hnext.feed_ids_nodup
    have hnodup : ((store.push clock post isLocal).feed.map identity.record).Nodup := by
      refine List.Nodup.of_map (fun record => record.header.id) ?_
      rw [List.map_map]
      exact hids
    apply List.count_eq_one_of_mem hnodup
    rw [hafter]
    simp
  case latest =>
    rw [List.forall_mem_map]
    intro other hother
    have hle := hnext.arrival_le_latest other (hnext.mem_feed_iff.mp hother)
    exact hle

namespace Node

/-! ## Calls -/

/-- A call of a running node by its own program: publishing, taking posts and blogs, listing. -/
inductive Call where
  | createPost (text : Text)
  | addLocalPost (post : Post)
  | addRemotePost (post : Post)
  | addBlog (blog : Blog)
  | addPersonalBlog (author : Author)
  | listPosts

/-- The node after a call, whether it was refused or not. -/
def afterCall (node : Node) : Call → Node
  | .createPost text => (node.createPost text).2
  | .addLocalPost post => (node.addLocalPost post).2
  | .addRemotePost post => (node.addRemotePost post).2
  | .addBlog blog => (node.addBlog blog).2
  | .addPersonalBlog author => (node.addPersonalBlog author).2
  | .listPosts => node.listPosts.2

theorem addLocalPost_growth (post : Post) (node : Node) :
    ∃ store, node.store.Growth store ∧ (node.addLocalPost post).2 = { node with store } := by
  obtain ⟨fault, hrefused⟩ | ⟨hknown, hfresh⟩ := storePost_cases post true node
  · unfold addLocalPost
    rw [hrefused]
    exact ⟨node.store, .kept, rfl⟩
  · unfold addLocalPost storePost
    rw [Store.addMessage_eq_ok_iff.mpr ⟨hknown, hfresh, rfl, rfl⟩]
    exact ⟨_, .message hknown hfresh, rfl⟩

theorem StoreEffect.growth {node : Node} {action : Action} {store : Store}
    (heffect : StoreEffect node action store) : node.store.Growth store := by
  cases heffect with
  | kept => exact .kept
  | blogAdded => exact .blog _
  | drafted _ hknown hfresh => exact .message hknown hfresh
  | delivered _ hknown hfresh => exact .message hknown hfresh

/-- No call does more than let the store grow; whose node it is and what can be read stay. -/
theorem afterCall_growth {node : Node} (h : node.store.Coherent)
    (hreads : node.availability.readsLeft = none) (call : Call) :
    node.store.Growth (node.afterCall call).store ∧
      (node.afterCall call).identity = node.identity ∧
      (node.afterCall call).availability.readsLeft = none := by
  cases call with
  | createPost text =>
    obtain ⟨store, metrics, heffect, hnext⟩ := createPost_effect text node
    rw [afterCall, hnext]
    exact ⟨heffect.growth, rfl, hreads⟩
  | addLocalPost post =>
    obtain ⟨store, hgrowth, hnext⟩ := addLocalPost_growth post node
    rw [afterCall, hnext]
    exact ⟨hgrowth, rfl, hreads⟩
  | addRemotePost post =>
    obtain ⟨store, metrics, heffect, hnext⟩ := addRemotePost_effect post node
    rw [afterCall, hnext]
    exact ⟨heffect.growth, rfl, hreads⟩
  | addBlog blog =>
    obtain ⟨store, heffect, hnext⟩ := addBlog_effect blog node
    rw [afterCall, hnext]
    exact ⟨heffect.growth, rfl, hreads⟩
  | addPersonalBlog author => exact ⟨.blog _, rfl, hreads⟩
  | listPosts =>
    rw [afterCall, listPosts_eq h (canRead_of_unlimited hreads _)]
    refine ⟨.kept, rfl, ?_⟩
    change node.availability.readsLeft.map _ = none
    rw [hreads]
    rfl

/-- What publishing answers is the record of the message that it stored. -/
theorem createPost_record {node : Node} {text : Text} {record : Record}
    (hcreated : (node.createPost text).1 = .ok record) :
    ∃ post, post.blogId ∈ node.store.blogIds ∧ post.messageId ∉ node.store.messageIds ∧
      (node.createPost text).2.store = node.store.push node.arrivalClock post true ∧
      record = node.identity.record (node.store.arriving node.arrivalClock post true) := by
  obtain ⟨fault, metrics, hrefused⟩ | ⟨post, hdraft, hknown, hfresh, hstored⟩ :=
    createPost_cases text node
  · rw [hrefused] at hcreated
    cases hcreated
  · rw [hstored] at hcreated ⊢
    obtain ⟨-, -, -, htext, -⟩ := draft_eq_ok hdraft
    cases hcreated
    refine ⟨post, hknown, hfresh, rfl, ?_⟩
    rw [Identity.withStatus_header, ← htext]
    rfl

/-! ## Listings before and after a call -/

/-- Whatever has happened to a store and whatever the clock reads, a call leaves the records of a
listing in their order. One more is put in exactly when a post is stored, and it is the record that
publishing answers. -/
theorem listPosts_grows {changes : List Store.Change} {node : Node}
    (hstore : node.store = Store.empty.run changes)
    (hreads : node.availability.readsLeft = none) (call : Call) :
    ∃ before after,
      node.listPosts.1 = .ok before ∧ (node.afterCall call).listPosts.1 = .ok after ∧
      ((node.afterCall call).store.messages = node.store.messages ∧ after = before ∨
        ∃ stored, (node.afterCall call).store.messages = node.store.messages ++ [stored] ∧
          Inserted (node.identity.record stored) before after) ∧
      ∀ text record, call = .createPost text → (node.createPost text).1 = .ok record →
        Inserted record before after := by
  have h : node.store.Coherent := hstore ▸ Store.coherent_empty.run changes
  obtain ⟨hgrowth, hidentity, hreadsAfter⟩ := afterCall_growth h hreads call
  have hlist := listPosts_eq h (canRead_of_unlimited hreads _)
  have hlistAfter := listPosts_eq (hgrowth.coherent h) (canRead_of_unlimited hreadsAfter _)
  rw [hidentity] at hlistAfter
  refine ⟨_, _, congrArg Prod.fst hlist, congrArg Prod.fst hlistAfter, ?grown, ?answered⟩
  case grown =>
    generalize (node.afterCall call).store = next at hgrowth
    cases hgrowth with
    | kept => exact .inl ⟨rfl, rfl⟩
    | blog blog =>
      refine .inl ⟨Store.messages_addBlog _ _, ?_⟩
      rw [h.feed_addBlog blog]
    | message hknown hfresh => exact .inr ⟨_, rfl, h.inserted hknown hfresh node.identity⟩
  case answered =>
    rintro text record rfl hcreated
    obtain ⟨post, hknown, hfresh, hpushed, rfl⟩ := createPost_record hcreated
    rw [afterCall, hpushed]
    exact h.inserted hknown hfresh node.identity

/-- A post of the first blog, when the clock has been set back. -/
def lateCall : Call := .addLocalPost ⟨[1, 9], [1], none, ⟨1, [1], "ann", []⟩, 3, "late", []⟩

theorem listPosts_grows_crossed :
    crossed.store = Store.empty.run crossedChanges ∧ crossed.availability.readsLeft = none ∧
      ∃ before after, (crossed.setClock 3).listPosts.1 = .ok before ∧
        ((crossed.setClock 3).afterCall lateCall).listPosts.1 = .ok after ∧
        ∃ stored, stored.timeReceived = 5 ∧
          Inserted (crossed.identity.record stored) before after := by
  refine ⟨rfl, rfl, ?_⟩
  obtain ⟨before, after, hbefore, hafter, hgrown, -⟩ :=
    @listPosts_grows crossedChanges (crossed.setClock 3) rfl rfl lateCall
  refine ⟨before, after, hbefore, hafter, ?_⟩
  obtain ⟨hsame, -⟩ | ⟨stored, hstored, hinserted⟩ := hgrown
  · exact absurd (congrArg List.length hsame) (by decide)
  · refine ⟨stored, ?_, hinserted⟩
    have hlast := congrArg (fun messages => messages.getLast?.map (·.timeReceived)) hstored
    simp only [List.getLast?_concat, Option.map_some] at hlast
    exact Option.some.inj (hlast.symm.trans (by decide))

end Node

end SignedBlog
