import Mathlib.Data.List.Nodup
import SignedBlog.Store

/-!
The store as a log of what it accepted.

Whatever happens to a store is a list of changes, `Store.run`. Each change keeps `Store.Coherent`:
blogs and messages have ids of their own, every shelf lists just the messages of its blog, and
arrival times do not fall. What the store answers then depends on its list of messages alone.
-/

namespace SignedBlog

set_option autoImplicit false

/-! ## Shelves -/

/-- A shelf once a post has arrived. -/
def Shelf.push (post : Post) (shelf : Shelf) : Shelf :=
  if shelf.blog.id = post.blogId then { shelf with ids := shelf.ids ++ [post.messageId] } else shelf

@[simp] theorem Shelf.blog_push (post : Post) (shelf : Shelf) :
    (Shelf.push post shelf).blog = shelf.blog := by
  unfold Shelf.push
  split <;> rfl

namespace Store

/-! ## Keys -/

/-- Looking for the key of an item finds the item where keys do not repeat. -/
theorem find?_key {α β : Type} [BEq β] [LawfulBEq β] {key : α → β} {items : List α} {item : α}
    (hkeys : (items.map key).Nodup) (hitem : item ∈ items) :
    items.find? (fun other => key other == key item) = some item := by
  induction items with
  | nil => cases hitem
  | cons first items ih =>
    rw [List.map_cons, List.nodup_cons] at hkeys
    cases hitem with
    | head => simp
    | tail _ hitem =>
      have hne : key first ≠ key item := by
        intro heq
        exact hkeys.1 (heq ▸ List.mem_map_of_mem hitem)
      rw [List.find?_cons_of_neg (by simpa using hne)]
      exact ih hkeys.2 hitem

/-- The items of a key are the one that is found, where keys do not repeat. -/
theorem filter_key {α β : Type} [BEq β] [LawfulBEq β] {key : α → β} {items : List α} (k : β)
    (hkeys : (items.map key).Nodup) :
    items.filter (fun item => key item == k) = (items.find? fun item => key item == k).toList := by
  induction items with
  | nil => rfl
  | cons first items ih =>
    rw [List.map_cons, List.nodup_cons] at hkeys
    by_cases hfirst : key first == k
    · have hrest : items.filter (fun item => key item == k) = [] := by
        rw [List.filter_eq_nil_iff]
        intro item hitem hkey
        rw [← LawfulBEq.eq_of_beq hkey] at hfirst
        exact hkeys.1 (LawfulBEq.eq_of_beq hfirst ▸ List.mem_map_of_mem hitem)
      simp only [List.filter_cons, List.find?_cons, hfirst, hrest, if_true, Option.toList_some]
    · simp only [List.filter_cons, List.find?_cons, hfirst, Bool.false_eq_true, if_false]
      exact ih hkeys.2

/-! ## What a store holds -/

def blogIds (store : Store) : List Bytes := store.shelves.map (·.blog.id)

def messageIds (store : Store) : List Bytes := store.messages.map (·.post.messageId)

/-- The messages of a blog, in the order they arrived. -/
def ofBlog (store : Store) (blogId : Bytes) : List Stored :=
  store.messages.filter fun stored => stored.post.blogId = blogId

theorem blogIds_eq (store : Store) : store.blogIds = store.blogs.map (·.id) := by
  unfold blogIds blogs
  rw [List.map_map]
  rfl

theorem containsBlog_iff (store : Store) (blogId : Bytes) :
    store.containsBlog blogId = true ↔ blogId ∈ store.blogIds := by
  simp [containsBlog, blogIds]

theorem stored?_isSome_iff (store : Store) (messageId : Bytes) :
    (store.stored? messageId).isSome = true ↔ messageId ∈ store.messageIds := by
  simp [stored?, messageIds]

/-! ## Accepting a message -/

/-- A post as it is stored when it arrives. -/
def arriving (store : Store) (clock : Int) (post : Post) (isLocal : Bool) : Stored :=
  ⟨post, max clock store.latest, isLocal⟩

/-- The store once a post has arrived. -/
def push (store : Store) (clock : Int) (post : Post) (isLocal : Bool) : Store where
  shelves := store.shelves.map (Shelf.push post)
  messages := store.messages ++ [store.arriving clock post isLocal]
  latest := max clock store.latest

theorem blogs_push (store : Store) (clock : Int) (post : Post) (isLocal : Bool) :
    (store.push clock post isLocal).blogs = store.blogs := by
  simp [push, blogs]

@[simp] theorem blogIds_push (store : Store) (clock : Int) (post : Post) (isLocal : Bool) :
    (store.push clock post isLocal).blogIds = store.blogIds := by
  simp [push, blogIds]

@[simp] theorem messageIds_push (store : Store) (clock : Int) (post : Post) (isLocal : Bool) :
    (store.push clock post isLocal).messageIds = store.messageIds ++ [post.messageId] := by
  simp [push, messageIds, arriving]

theorem ofBlog_push (store : Store) (clock : Int) (post : Post) (isLocal : Bool) (blogId : Bytes) :
    (store.push clock post isLocal).ofBlog blogId
      = store.ofBlog blogId ++
        if post.blogId = blogId then [store.arriving clock post isLocal] else [] := by
  unfold ofBlog push
  rw [List.filter_append]
  simp [List.filter_cons, arriving]

/-- A post is accepted exactly when its blog is known and its id is new. -/
theorem addMessage_eq_ok_iff {store next : Store} {clock : Int} {post : Post} {isLocal : Bool}
    {header : Header} :
    store.addMessage clock post isLocal = .ok (header, next) ↔
      post.blogId ∈ store.blogIds ∧ post.messageId ∉ store.messageIds ∧
      header = (store.arriving clock post isLocal).header ∧
      next = store.push clock post isLocal := by
  rw [← containsBlog_iff, ← stored?_isSome_iff]
  unfold addMessage
  by_cases hblog : store.containsBlog post.blogId = true
  rotate_left
  · simp [hblog]
  by_cases hfresh : (store.stored? post.messageId).isSome = true
  · simp [hblog, hfresh]
  rw [if_neg (by simp [hblog]), if_neg hfresh, Except.ok.injEq, Prod.mk.injEq]
  constructor
  · rintro ⟨rfl, rfl⟩
    exact ⟨hblog, hfresh, rfl, rfl⟩
  · rintro ⟨-, -, rfl, rfl⟩
    exact ⟨rfl, rfl⟩

theorem addMessage_of_unknown {store : Store} {post : Post} (hblog : post.blogId ∉ store.blogIds)
    (clock : Int) (isLocal : Bool) :
    store.addMessage clock post isLocal = .error (.unknownBlog post.blogId) := by
  rw [← containsBlog_iff] at hblog
  unfold addMessage
  rw [if_pos (by simpa using hblog)]

theorem addMessage_of_stored {store : Store} {post : Post} (hblog : post.blogId ∈ store.blogIds)
    (hid : post.messageId ∈ store.messageIds) (clock : Int) (isLocal : Bool) :
    store.addMessage clock post isLocal = .error (.duplicateMessage post.messageId) := by
  rw [← containsBlog_iff] at hblog
  rw [← stored?_isSome_iff] at hid
  unfold addMessage
  rw [if_neg (by simp [hblog]), if_pos hid]

/-- A post can be read back as soon as it is stored. -/
theorem header_push {store : Store} {post : Post} (hfresh : post.messageId ∉ store.messageIds)
    (clock : Int) (isLocal : Bool) :
    (store.push clock post isLocal).header post.blogId post.messageId
      = .ok (store.arriving clock post isLocal).header := by
  have hnone : store.stored? post.messageId = none := by
    rw [← Option.not_isSome_iff_eq_none, stored?_isSome_iff]
    exact hfresh
  have hfind : (store.push clock post isLocal).stored? post.messageId
      = some (store.arriving clock post isLocal) := by
    unfold stored? at hnone ⊢
    simp [push, List.find?_append, hnone, arriving]
  unfold header
  rw [hfind]
  exact if_pos rfl

/-! ## Changes -/

/-- What may happen to a store. -/
inductive Change where
  | addBlog (blog : Blog)
  | addMessage (clock : Int) (post : Post) (isLocal : Bool)
  | clear

/-- The store after a change; a message that is refused leaves it as it is. -/
def apply (store : Store) : Change → Store
  | .addBlog blog => store.addBlog blog
  | .addMessage clock post isLocal =>
    match store.addMessage clock post isLocal with
    | .error _ => store
    | .ok (_, next) => next
  | .clear => empty

/-- The store after several changes, one after the other. -/
def run (store : Store) (changes : List Change) : Store := changes.foldl apply store

theorem run_append (store : Store) (changes later : List Change) :
    store.run (changes ++ later) = (store.run changes).run later :=
  List.foldl_append

theorem apply_addMessage (store : Store) (clock : Int) (post : Post) (isLocal : Bool) :
    store.apply (.addMessage clock post isLocal) = store ∨
      post.blogId ∈ store.blogIds ∧ post.messageId ∉ store.messageIds ∧
      store.apply (.addMessage clock post isLocal) = store.push clock post isLocal := by
  simp only [apply]
  cases hadd : store.addMessage clock post isLocal with
  | error fault => exact .inl rfl
  | ok result =>
    obtain ⟨header, next⟩ := result
    obtain ⟨hblog, hfresh, -, rfl⟩ := addMessage_eq_ok_iff.mp hadd
    exact .inr ⟨hblog, hfresh, rfl⟩

theorem apply_addMessage_of_fresh {store : Store} {clock : Int} {post : Post} {isLocal : Bool}
    (hblog : post.blogId ∈ store.blogIds) (hfresh : post.messageId ∉ store.messageIds) :
    store.apply (.addMessage clock post isLocal) = store.push clock post isLocal := by
  simp only [apply, addMessage_eq_ok_iff.mpr ⟨hblog, hfresh, rfl, rfl⟩]

theorem addBlog_of_new {store : Store} {blog : Blog} (hnew : blog.id ∉ store.blogIds) :
    store.addBlog blog = { store with shelves := store.shelves ++ [⟨blog, []⟩] } := by
  unfold addBlog
  rw [if_neg]
  rw [containsBlog_iff]
  exact hnew

theorem empty_addBlog (blog : Blog) : empty.addBlog blog = ⟨[⟨blog, []⟩], [], 0⟩ := by
  rw [addBlog_of_new List.not_mem_nil]
  rfl

theorem addBlog_eq (store : Store) (blog : Blog) :
    store.addBlog blog = store ∨
      blog.id ∉ store.blogIds ∧
      store.addBlog blog = { store with shelves := store.shelves ++ [⟨blog, []⟩] } := by
  by_cases hknown : blog.id ∈ store.blogIds
  · refine .inl ?_
    unfold addBlog
    rw [if_pos ((containsBlog_iff store blog.id).mpr hknown)]
  · exact .inr ⟨hknown, addBlog_of_new hknown⟩

@[simp] theorem messages_addBlog (store : Store) (blog : Blog) :
    (store.addBlog blog).messages = store.messages := by
  obtain hsame | ⟨-, hadded⟩ := addBlog_eq store blog
  · rw [hsame]
  · rw [hadded]

/-! ## What every change keeps -/

/-- What holds of a store, whatever has happened to it. -/
structure Coherent (store : Store) : Prop where
  blogIds_nodup : store.blogIds.Nodup
  messageIds_nodup : store.messageIds.Nodup
  shelf_ids : ∀ shelf ∈ store.shelves,
    shelf.ids = (store.ofBlog shelf.blog.id).map (·.post.messageId)
  blog_known : ∀ stored ∈ store.messages, stored.post.blogId ∈ store.blogIds
  arrivals_rise : (store.messages.map (·.timeReceived)).Pairwise (· ≤ ·)
  arrival_le_latest : ∀ stored ∈ store.messages, stored.timeReceived ≤ store.latest

theorem coherent_empty : empty.Coherent where
  blogIds_nodup := .nil
  messageIds_nodup := .nil
  shelf_ids := by simp [empty]
  blog_known := by simp [empty]
  arrivals_rise := .nil
  arrival_le_latest := by simp [empty]

namespace Coherent

variable {store : Store}

theorem ofBlog_eq_nil (h : store.Coherent) {blogId : Bytes} (hnew : blogId ∉ store.blogIds) :
    store.ofBlog blogId = [] := by
  rw [ofBlog, List.filter_eq_nil_iff]
  intro stored hstored hblog
  exact hnew (of_decide_eq_true hblog ▸ h.blog_known stored hstored)

theorem addBlog (h : store.Coherent) (blog : Blog) : (store.addBlog blog).Coherent := by
  obtain hsame | ⟨hnew, hadded⟩ := addBlog_eq store blog
  · rw [hsame]
    exact h
  have hnone := h.ofBlog_eq_nil hnew
  have hids : (store.addBlog blog).blogIds = store.blogIds ++ [blog.id] := by
    rw [hadded]
    simp [blogIds]
  rw [hadded] at hids ⊢
  refine { h with blogIds_nodup := ?blogs, shelf_ids := ?shelves, blog_known := ?known }
  case blogs =>
    rw [hids, ← List.concat_eq_append]
    exact List.Nodup.concat hnew h.blogIds_nodup
  case shelves =>
    intro shelf hshelf
    rw [List.mem_append, List.mem_singleton] at hshelf
    cases hshelf with
    | inl hold => exact h.shelf_ids shelf hold
    | inr hlast =>
      subst hlast
      change [] = (store.ofBlog blog.id).map _
      rw [hnone, List.map_nil]
  case known =>
    intro stored hstored
    rw [hids]
    exact List.mem_append_left _ (h.blog_known stored hstored)

theorem push (h : store.Coherent) {clock : Int} {post : Post} {isLocal : Bool}
    (hblog : post.blogId ∈ store.blogIds) (hfresh : post.messageId ∉ store.messageIds) :
    (store.push clock post isLocal).Coherent where
  blogIds_nodup := by
    rw [blogIds_push]
    exact h.blogIds_nodup
  messageIds_nodup := by
    rw [messageIds_push, ← List.concat_eq_append]
    exact List.Nodup.concat hfresh h.messageIds_nodup
  shelf_ids := by
    intro shelf hshelf
    obtain ⟨old, hold, rfl⟩ := List.mem_map.mp hshelf
    rw [Shelf.blog_push, ofBlog_push, List.map_append, ← h.shelf_ids old hold]
    unfold Shelf.push
    by_cases heq : old.blog.id = post.blogId
    · rw [if_pos heq, if_pos heq.symm]
      rfl
    · rw [if_neg heq, if_neg (Ne.symm heq), List.map_nil, List.append_nil]
  blog_known := by
    intro stored hstored
    rw [blogIds_push]
    rw [Store.push, List.mem_append, List.mem_singleton] at hstored
    cases hstored with
    | inl hold => exact h.blog_known stored hold
    | inr hlast =>
      subst hlast
      exact hblog
  arrivals_rise := by
    rw [Store.push, List.map_append, List.pairwise_append]
    refine ⟨h.arrivals_rise, List.pairwise_singleton _ _, ?_⟩
    intro time htime last hlast
    obtain ⟨stored, hstored, rfl⟩ := List.mem_map.mp htime
    have hle := h.arrival_le_latest stored hstored
    rw [List.map_singleton, List.mem_singleton] at hlast
    subst hlast
    change stored.timeReceived ≤ max clock store.latest
    omega
  arrival_le_latest := by
    intro stored hstored
    change stored.timeReceived ≤ max clock store.latest
    rw [Store.push, List.mem_append, List.mem_singleton] at hstored
    cases hstored with
    | inl hold =>
      have hle := h.arrival_le_latest stored hold
      omega
    | inr hlast =>
      subst hlast
      exact Int.le_refl _

theorem apply (h : store.Coherent) (change : Change) : (store.apply change).Coherent := by
  cases change with
  | addBlog blog => exact h.addBlog blog
  | addMessage clock post isLocal =>
    obtain hsame | ⟨hblog, hfresh, hpush⟩ := apply_addMessage store clock post isLocal
    · rw [hsame]
      exact h
    · rw [hpush]
      exact h.push hblog hfresh
  | clear => exact coherent_empty

theorem run (h : store.Coherent) (changes : List Change) : (store.run changes).Coherent := by
  induction changes generalizing store with
  | nil => exact h
  | cons change changes ih => exact ih (h.apply change)

/-! ## What a coherent store answers -/

theorem messages_nodup (h : store.Coherent) : store.messages.Nodup :=
  List.Nodup.of_map _ h.messageIds_nodup

theorem stored?_eq (h : store.Coherent) {stored : Stored} (hstored : stored ∈ store.messages) :
    store.stored? stored.post.messageId = some stored :=
  find?_key h.messageIds_nodup hstored

theorem text_eq (h : store.Coherent) {stored : Stored} (hstored : stored ∈ store.messages) :
    store.text stored.post.messageId = .ok stored.post.text := by
  unfold text message
  rw [h.stored?_eq hstored]
  rfl

/-- The headers of a blog are those of its messages. -/
theorem headers_eq (h : store.Coherent) {shelf : Shelf} (hshelf : shelf ∈ store.shelves) :
    store.headers shelf.blog.id = .ok ((store.ofBlog shelf.blog.id).map Stored.header) := by
  have hfind : store.shelf? shelf.blog.id = some shelf :=
    find?_key h.blogIds_nodup hshelf
  unfold headers
  rw [hfind]
  simp only [h.shelf_ids shelf hshelf, List.filterMap_map]
  rw [← List.filterMap_eq_map]
  congr 1
  apply List.filterMap_congr
  intro stored hstored
  simp only [Function.comp_apply, h.stored?_eq (List.mem_filter.mp hstored).1, Option.map_some]

theorem headers_of_known (h : store.Coherent) {blogId : Bytes} (hknown : blogId ∈ store.blogIds) :
    store.headers blogId = .ok ((store.ofBlog blogId).map Stored.header) := by
  obtain ⟨shelf, hshelf, rfl⟩ := List.mem_map.mp hknown
  exact h.headers_eq hshelf

end Coherent

theorem headers_of_unknown {store : Store} {blogId : Bytes} (hunknown : blogId ∉ store.blogIds) :
    store.headers blogId = .error (.unknownBlog blogId) := by
  have hnone : store.shelf? blogId = none := by
    unfold shelf?
    rw [List.find?_eq_none]
    intro shelf hshelf hid
    exact hunknown (List.mem_map.mpr ⟨shelf, hshelf, LawfulBEq.eq_of_beq hid⟩)
  unfold headers
  rw [hnone]

end Store

end SignedBlog
