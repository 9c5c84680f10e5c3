import Mathlib.Data.List.Flatten
import SignedBlog.Proofs.Log

/-!
The order of the feed.

The feed takes the messages blog by blog and sorts them by arrival. `Store.Coherent.pair_feed_iff`
says which of two messages comes first: the one that arrived first, or, where both arrived at one
time, the one of the blog that was added first.
-/

namespace SignedBlog

set_option autoImplicit false

namespace Store

/-! ## Pairs in a list -/

section Pairs

variable {α β : Type} {items : List α} {a b : α}

theorem pair_sublist_or (ha : a ∈ items) (hb : b ∈ items) (hne : a ≠ b) :
    [a, b].Sublist items ∨ [b, a].Sublist items := by
  induction items with
  | nil => cases ha
  | cons first items ih =>
    cases ha with
    | head =>
      have hb' : b ∈ items := (List.mem_cons.mp hb).resolve_left (Ne.symm hne)
      exact .inl ((List.singleton_sublist.mpr hb').cons_cons a)
    | tail _ ha =>
      cases hb with
      | head => exact .inr ((List.singleton_sublist.mpr ha).cons_cons b)
      | tail _ hb =>
        cases ih ha hb with
        | inl hab => exact .inl (hab.cons first)
        | inr hba => exact .inr (hba.cons first)

theorem not_sublist_swap (hnodup : items.Nodup) (hab : [a, b].Sublist items) :
    ¬ [b, a].Sublist items := by
  intro hba
  induction items with
  | nil => cases hab
  | cons first items ih =>
    rw [List.nodup_cons] at hnodup
    cases hab with
    | cons _ hab =>
      cases hba with
      | cons _ hba => exact ih hnodup.2 hab hba
      | cons_cons _ ha => exact hnodup.1 (hab.subset (by simp))
    | cons_cons _ hb =>
      cases hba with
      | cons _ hba => exact hnodup.1 (hba.subset (by simp))
      | cons_cons _ ha => exact hnodup.1 (List.singleton_sublist.mp ha)

theorem pair_ne (hnodup : items.Nodup) (hab : [a, b].Sublist items) : a ≠ b := by
  rintro rfl
  exact not_sublist_swap hnodup hab hab

theorem not_sublist_swap_iff (hnodup : items.Nodup) (ha : a ∈ items) (hb : b ∈ items)
    (hne : a ≠ b) : ¬ [b, a].Sublist items ↔ [a, b].Sublist items := by
  refine ⟨fun hba => ?_, not_sublist_swap hnodup⟩
  exact (pair_sublist_or ha hb hne).resolve_right hba

/-- Keys that do not repeat stand in the order of their items. -/
theorem pair_map_sublist_iff {key : α → β} (hkeys : (items.map key).Nodup) (ha : a ∈ items)
    (hb : b ∈ items) (hne : a ≠ b) :
    [key a, key b].Sublist (items.map key) ↔ [a, b].Sublist items := by
  refine ⟨fun hkey => ?_, fun hab => hab.map key⟩
  cases pair_sublist_or ha hb hne with
  | inl hab => exact hab
  | inr hba => exact absurd hkey (not_sublist_swap hkeys (hba.map key))

end Pairs

/-! ## Blog by blog -/

/-- The messages of one blog after those of the other. -/
def byBlog (store : Store) : List Stored := store.blogIds.flatMap store.ofBlog

theorem mem_ofBlog {store : Store} {stored : Stored} {blogId : Bytes} :
    stored ∈ store.ofBlog blogId ↔ stored ∈ store.messages ∧ stored.post.blogId = blogId := by
  rw [ofBlog, List.mem_filter, decide_eq_true_eq]

namespace Coherent

variable {store : Store} {a b : Stored}

theorem mem_byBlog_iff (h : store.Coherent) : a ∈ store.byBlog ↔ a ∈ store.messages := by
  rw [byBlog, List.mem_flatMap]
  constructor
  · rintro ⟨blogId, -, ha⟩
    exact (mem_ofBlog.mp ha).1
  · intro ha
    exact ⟨a.post.blogId, h.blog_known a ha, mem_ofBlog.mpr ⟨ha, rfl⟩⟩

theorem byBlog_nodup (h : store.Coherent) : store.byBlog.Nodup := by
  rw [byBlog, List.nodup_flatMap]
  refine ⟨fun blogId _ => h.messages_nodup.filter _, ?_⟩
  refine h.blogIds_nodup.imp ?_
  intro first second hne stored hfirst hsecond
  exact hne ((mem_ofBlog.mp hfirst).2.symm.trans (mem_ofBlog.mp hsecond).2)

theorem byBlog_perm (h : store.Coherent) : store.byBlog.Perm store.messages := by
  rw [List.perm_ext_iff_of_nodup h.byBlog_nodup h.messages_nodup]
  intro stored
  exact h.mem_byBlog_iff

theorem ofBlog_sublist_byBlog (h : store.Coherent) (blogId : Bytes) :
    (store.ofBlog blogId).Sublist store.byBlog := by
  by_cases hknown : blogId ∈ store.blogIds
  · exact List.sublist_flatten_of_mem (List.mem_map_of_mem hknown)
  · rw [h.ofBlog_eq_nil hknown]
    exact List.nil_sublist _

theorem pair_byBlog_of_same (h : store.Coherent) (hab : [a, b].Sublist store.messages)
    (hblog : a.post.blogId = b.post.blogId) : [a, b].Sublist store.byBlog := by
  have hkept : ([a, b].filter fun stored => stored.post.blogId = b.post.blogId) = [a, b] := by
    simp [hblog]
  have hsub : [a, b].Sublist (store.ofBlog b.post.blogId) := by
    rw [← hkept]
    exact hab.filter _
  exact hsub.trans (h.ofBlog_sublist_byBlog b.post.blogId)

theorem pair_byBlog_of_blogs (ha : a ∈ store.messages) (hb : b ∈ store.messages)
    (hblogs : [a.post.blogId, b.post.blogId].Sublist store.blogIds) :
    [a, b].Sublist store.byBlog := by
  have ha' : [a].Sublist (store.ofBlog a.post.blogId) :=
    List.singleton_sublist.mpr (mem_ofBlog.mpr ⟨ha, rfl⟩)
  have hb' : [b].Sublist (store.ofBlog b.post.blogId) :=
    List.singleton_sublist.mpr (mem_ofBlog.mpr ⟨hb, rfl⟩)
  have hpair : [a, b].Sublist ([a.post.blogId, b.post.blogId].flatMap store.ofBlog) := by
    simpa using ha'.append hb'
  exact hpair.trans (hblogs.flatMap store.ofBlog)

/-- Of two messages the one whose blog was added first comes first; in one blog, the one that was
accepted first. -/
theorem pair_byBlog_iff (h : store.Coherent) (ha : a ∈ store.messages) (hb : b ∈ store.messages)
    (hne : a ≠ b) :
    [a, b].Sublist store.byBlog ↔
      [a.post.blogId, b.post.blogId].Sublist store.blogIds ∨
      a.post.blogId = b.post.blogId ∧ [a, b].Sublist store.messages := by
  constructor
  · intro hpair
    by_cases hblog : a.post.blogId = b.post.blogId
    · refine .inr ⟨hblog, (pair_sublist_or ha hb hne).resolve_right fun hba => ?_⟩
      exact not_sublist_swap h.byBlog_nodup hpair (h.pair_byBlog_of_same hba hblog.symm)
    · have hknown := pair_sublist_or (h.blog_known a ha) (h.blog_known b hb) hblog
      refine .inl (hknown.resolve_right fun hba => ?_)
      exact not_sublist_swap h.byBlog_nodup hpair (pair_byBlog_of_blogs hb ha hba)
  · rintro (hblogs | ⟨hblog, hab⟩)
    · exact pair_byBlog_of_blogs ha hb hblogs
    · exact h.pair_byBlog_of_same hab hblog

end Coherent

/-! ## By arrival -/

/-- The messages in the order of the feed. -/
def feed (store : Store) : List Stored :=
  store.byBlog.mergeSort fun a b => decide (a.timeReceived ≤ b.timeReceived)

theorem arrival_trans (a b c : Stored) (hab : decide (a.timeReceived ≤ b.timeReceived) = true)
    (hbc : decide (b.timeReceived ≤ c.timeReceived) = true) :
    decide (a.timeReceived ≤ c.timeReceived) = true := by
  rw [decide_eq_true_eq] at hab hbc ⊢
  omega

theorem arrival_total (a b : Stored) :
    (decide (a.timeReceived ≤ b.timeReceived) ||
      decide (b.timeReceived ≤ a.timeReceived)) = true := by
  rw [Bool.or_eq_true, decide_eq_true_eq, decide_eq_true_eq]
  omega

theorem feed_rises (store : Store) :
    (store.feed.map (·.timeReceived)).Pairwise (· ≤ ·) := by
  rw [List.pairwise_map]
  refine (List.pairwise_mergeSort arrival_trans arrival_total store.byBlog).imp ?_
  intro a b hab
  exact of_decide_eq_true hab

namespace Coherent

variable {store : Store} {a b : Stored}

theorem feed_perm (h : store.Coherent) : store.feed.Perm store.messages :=
  (List.mergeSort_perm _ _).trans h.byBlog_perm

theorem mem_feed_iff (h : store.Coherent) : a ∈ store.feed ↔ a ∈ store.messages :=
  h.feed_perm.mem_iff

theorem feed_nodup (h : store.Coherent) : store.feed.Nodup :=
  h.feed_perm.nodup_iff.mpr h.messages_nodup

theorem ofBlog_sublist_feed (h : store.Coherent) (blogId : Bytes) :
    (store.ofBlog blogId).Sublist store.feed := by
  have hrises : (store.ofBlog blogId).Pairwise fun a b =>
      decide (a.timeReceived ≤ b.timeReceived) = true := by
    refine (List.pairwise_map.mp h.arrivals_rise).sublist List.filter_sublist |>.imp ?_
    intro a b hab
    exact decide_eq_true hab
  exact List.sublist_mergeSort arrival_trans arrival_total hrises (h.ofBlog_sublist_byBlog blogId)

/-- The messages of one blog stand in the feed as they were accepted. -/
theorem feed_filter (h : store.Coherent) (blogId : Bytes) :
    (store.feed.filter fun stored => stored.post.blogId = blogId) = store.ofBlog blogId := by
  have hsub : (store.ofBlog blogId).Sublist
      (store.feed.filter fun stored => stored.post.blogId = blogId) := by
    have hkept := (h.ofBlog_sublist_feed blogId).filter fun stored => stored.post.blogId = blogId
    rw [ofBlog, List.filter_filter] at hkept
    simpa [ofBlog] using hkept
  have hlength := (h.feed_perm.filter fun stored => stored.post.blogId = blogId).length_eq
  exact (hsub.eq_of_length hlength.symm).symm

theorem pair_feed_iff (h : store.Coherent) (ha : a ∈ store.messages) (hb : b ∈ store.messages)
    (hne : a ≠ b) :
    [a, b].Sublist store.feed ↔
      a.timeReceived < b.timeReceived ∨
      a.timeReceived = b.timeReceived ∧ [a, b].Sublist store.byBlog := by
  have hrises : ∀ {a b : Stored}, [a, b].Sublist store.feed → a.timeReceived ≤ b.timeReceived := by
    intro a b hab
    exact List.pairwise_iff_forall_sublist.mp (List.pairwise_map.mp store.feed_rises) hab
  have htie : ∀ {a b : Stored}, a.timeReceived ≤ b.timeReceived → [a, b].Sublist store.byBlog →
      [a, b].Sublist store.feed := by
    intro a b hle hab
    exact List.pair_sublist_mergeSort arrival_trans arrival_total (decide_eq_true hle) hab
  constructor
  · intro hab
    have hle := hrises hab
    by_cases hlt : a.timeReceived < b.timeReceived
    · exact .inl hlt
    have heq : a.timeReceived = b.timeReceived := by omega
    have hknown := pair_sublist_or (h.mem_byBlog_iff.mpr ha) (h.mem_byBlog_iff.mpr hb) hne
    refine .inr ⟨heq, hknown.resolve_right fun hba => ?_⟩
    exact not_sublist_swap h.feed_nodup hab (htie (by omega) hba)
  · rintro (hlt | ⟨heq, hab⟩)
    · have hknown := pair_sublist_or (h.mem_feed_iff.mpr ha) (h.mem_feed_iff.mpr hb) hne
      refine hknown.resolve_right fun hba => ?_
      have hle := hrises hba
      omega
    · exact htie (by omega) hab

/-! ## Ties -/

/-- Two messages that arrived at one time keep the order they were accepted in, unless the blog of
the later one was added before that of the earlier one. -/
theorem pair_feed_of_tie (h : store.Coherent) (hab : [a, b].Sublist store.messages)
    (htie : a.timeReceived = b.timeReceived) :
    [a, b].Sublist store.feed ↔
      ¬ [b.post.blogId, a.post.blogId].Sublist store.blogIds := by
  have hne := pair_ne h.messages_nodup hab
  have ha : a ∈ store.messages := hab.subset (by simp)
  have hb : b ∈ store.messages := hab.subset (by simp)
  rw [h.pair_feed_iff ha hb hne, h.pair_byBlog_iff ha hb hne]
  by_cases hblog : a.post.blogId = b.post.blogId
  · have hsame : ¬ [b.post.blogId, a.post.blogId].Sublist store.blogIds := by
      intro hsub
      exact pair_ne h.blogIds_nodup hsub hblog.symm
    exact iff_of_true (.inr ⟨htie, .inr ⟨hblog, hab⟩⟩) hsame
  · rw [not_sublist_swap_iff h.blogIds_nodup (h.blog_known a ha) (h.blog_known b hb) hblog]
    simp [htie, hblog]

/-- The feed is the list of messages exactly when no tie goes against the order of the blogs. -/
theorem feed_eq_messages_iff (h : store.Coherent) :
    store.feed = store.messages ↔
      ∀ a b, [a, b].Sublist store.messages → a.timeReceived = b.timeReceived →
        ¬ [b.post.blogId, a.post.blogId].Sublist store.blogIds := by
  constructor
  · intro heq a b hab htie
    rw [← h.pair_feed_of_tie hab htie, heq]
    exact hab
  intro hties
  have hfeed : store.feed.Pairwise fun a b => [a, b].Sublist store.feed :=
    List.pairwise_iff_forall_sublist.mpr fun hab => hab
  have hmessages : store.messages.Pairwise fun a b => [a, b].Sublist store.feed := by
    rw [List.pairwise_iff_forall_sublist]
    intro a b hab
    have hle := List.pairwise_iff_forall_sublist.mp (List.pairwise_map.mp h.arrivals_rise) hab
    by_cases htie : a.timeReceived = b.timeReceived
    · exact (h.pair_feed_of_tie hab htie).mpr (hties a b hab htie)
    · rw [h.pair_feed_iff (hab.subset (by simp)) (hab.subset (by simp))
        (pair_ne h.messages_nodup hab)]
      exact .inl (by omega)
  refine h.feed_perm.eq_of_pairwise ?_ hfeed hmessages
  intro a b _ _ hab hba
  exact absurd hba (not_sublist_swap h.feed_nodup hab)

theorem feed_ids_nodup (h : store.Coherent) :
    (store.feed.map (·.post.messageId)).Nodup :=
  (h.feed_perm.map _).nodup_iff.mpr h.messageIds_nodup

theorem pair_ids_of_tie (h : store.Coherent) (hab : [a, b].Sublist store.messages)
    (htie : a.timeReceived = b.timeReceived) :
    [a.post.messageId, b.post.messageId].Sublist (store.feed.map (·.post.messageId)) ↔
      ¬ [b.post.blogId, a.post.blogId].Sublist store.blogIds := by
  have ha := h.mem_feed_iff.mpr (hab.subset List.mem_cons_self)
  have hb := h.mem_feed_iff.mpr (hab.subset (List.mem_cons_of_mem a List.mem_cons_self))
  rw [← h.pair_feed_of_tie hab htie]
  exact pair_map_sublist_iff h.feed_ids_nodup ha hb (pair_ne h.messages_nodup hab)

theorem feed_ids_eq_iff (h : store.Coherent) :
    store.feed.map (·.post.messageId) = store.messageIds ↔
      ∀ a b, [a, b].Sublist store.messages → a.timeReceived = b.timeReceived →
        ¬ [b.post.blogId, a.post.blogId].Sublist store.blogIds := by
  constructor
  · intro heq a b hab htie
    rw [← h.pair_ids_of_tie hab htie, heq]
    exact hab.map fun stored : Stored => stored.post.messageId
  · intro hties
    rw [h.feed_eq_messages_iff.mpr hties]
    rfl

end Coherent

end Store

end SignedBlog
