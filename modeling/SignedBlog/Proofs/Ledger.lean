import SignedBlog.Proofs.Log

/-!
The store answers as a ledger.

A `Ledger` is a list of blogs and a list of accepted messages, each with the reading of the clock when
it was accepted. It has no shelves and no latest arrival time: what it answers, headers and arrival times
included, is worked out from the two lists whenever it is asked. A store that `Represents` a ledger
answers like it and still represents it after any operation, so from nothing both give the same answers:
`Store.replies_eq`.
-/

namespace SignedBlog

set_option autoImplicit false

namespace Store

/-! ## Operations and answers -/

/-- What may be asked of a store. -/
inductive Query where
  | blogs
  | containsBlog (blogId : Bytes)
  | headers (blogId : Bytes)
  | header (blogId messageId : Bytes)
  | message (messageId : Bytes)
  | text (messageId : Bytes)
  | messages
  | count

inductive Operation where
  | change (change : Change)
  | query (query : Query)

inductive Answer where
  | done
  | blogs (blogs : List Blog)
  | truth (holds : Bool)
  | headers (headers : List Header)
  | header (header : Header)
  | post (post : Post)
  | text (text : Text)
  | posts (posts : List Post)
  | count (count : Nat)

/-- The answers to operations one after the other, of whatever serves them. -/
def replies {σ : Type} (serve : Operation → σ → Except Fault Answer × σ) (state : σ) :
    List Operation → List (Except Fault Answer)
  | [] => []
  | operation :: operations =>
    (serve operation state).1 :: replies serve (serve operation state).2 operations

def ask (store : Store) : Query → Except Fault Answer
  | .blogs => .ok (.blogs store.blogs)
  | .containsBlog blogId => .ok (.truth (store.containsBlog blogId))
  | .headers blogId => (store.headers blogId).map .headers
  | .header blogId messageId => (store.header blogId messageId).map .header
  | .message messageId => (store.message messageId).map .post
  | .text messageId => (store.text messageId).map .text
  | .messages => .ok (.posts store.posts)
  | .count => .ok (.count store.count)

def acknowledge (store : Store) : Change → Except Fault Answer
  | .addBlog _ => .ok .done
  | .addMessage clock post isLocal =>
    ((store.addMessage clock post isLocal).map Prod.fst).map .header
  | .clear => .ok .done

def serve : Operation → Store → Except Fault Answer × Store
  | .change change, store => (store.acknowledge change, store.apply change)
  | .query query, store => (store.ask query, store)

end Store

/-! ## The ledger -/

/-- A message that was accepted, with what the clock read. -/
structure Acceptance where
  post : Post
  reading : Int
  isLocal : Bool

/-- The header of an accepted message: what its post says, and when it arrived. Nothing is known of its
author. -/
def Acceptance.headerAt (entry : Acceptance) (arrival : Int) : Header where
  id := entry.post.messageId
  blogId := entry.post.blogId
  parentId := entry.post.parentId
  author := entry.post.author
  authorStatus := .unknown
  timestamp := entry.post.timestamp
  timeReceived := arrival

structure Ledger where
  blogs : List Blog
  accepted : List Acceptance
  blogs_distinct : (blogs.map (·.id)).Nodup
  accepted_distinct : (accepted.map (·.post.messageId)).Nodup

namespace Ledger

def empty : Ledger := ⟨[], [], .nil, .nil⟩

def blogIds (ledger : Ledger) : List Bytes := ledger.blogs.map (·.id)

def messageIds (ledger : Ledger) : List Bytes := ledger.accepted.map (·.post.messageId)

/-- The greatest of zero and some readings of the clock. -/
def greatest (readings : List Int) : Int := readings.foldl max 0

/-- When the message at some place arrived: the greatest of zero and the readings up to it. -/
def arrival (ledger : Ledger) (place : Nat) : Int :=
  greatest ((ledger.accepted.take (place + 1)).map (·.reading))

/-- The headers of the accepted messages, in the order they were accepted. -/
def log (ledger : Ledger) : List Header :=
  ledger.accepted.mapIdx fun place entry => entry.headerAt (ledger.arrival place)

/-! ## What a ledger answers -/

def headers (ledger : Ledger) (blogId : Bytes) : Except Fault (List Header) :=
  if blogId ∈ ledger.blogIds then
    .ok (ledger.log.filter fun header => header.blogId = blogId)
  else .error (.unknownBlog blogId)

def header (ledger : Ledger) (blogId messageId : Bytes) : Except Fault Header :=
  match ledger.log.find? fun header =>
      (header.blogId, header.id) == (blogId, messageId) with
  | none => .error (.unknownMessage messageId)
  | some header => .ok header

def message (ledger : Ledger) (messageId : Bytes) : Except Fault Post :=
  match ledger.accepted.find? fun entry => entry.post.messageId == messageId with
  | none => .error (.unknownMessage messageId)
  | some entry => .ok entry.post

def ask (ledger : Ledger) : Store.Query → Except Fault Store.Answer
  | .blogs => .ok (.blogs ledger.blogs)
  | .containsBlog blogId => .ok (.truth (decide (blogId ∈ ledger.blogIds)))
  | .headers blogId => (ledger.headers blogId).map .headers
  | .header blogId messageId => (ledger.header blogId messageId).map .header
  | .message messageId => (ledger.message messageId).map .post
  | .text messageId => (ledger.message messageId).map fun post => .text post.text
  | .messages => .ok (.posts (ledger.accepted.map (·.post)))
  | .count => .ok (.count ledger.accepted.length)

/-! ## What is done to a ledger -/

theorem nodup_concat {α β : Type} {key : α → β} {items : List α} {item : α}
    (h : (items.map key).Nodup) (hnew : key item ∉ items.map key) :
    ((items ++ [item]).map key).Nodup := by
  rw [List.map_append, List.map_singleton, ← List.concat_eq_append]
  exact List.Nodup.concat hnew h

/-- The first blog of an id stays. -/
def addBlog (ledger : Ledger) (blog : Blog) : Ledger :=
  if h : blog.id ∈ ledger.blogIds then ledger
  else
    { ledger with
      blogs := ledger.blogs ++ [blog]
      blogs_distinct := nodup_concat ledger.blogs_distinct h }

def accept (ledger : Ledger) (entry : Acceptance)
    (h : entry.post.messageId ∉ ledger.messageIds) : Ledger :=
  { ledger with
    accepted := ledger.accepted ++ [entry]
    accepted_distinct := nodup_concat ledger.accepted_distinct h }

/-- A message is refused if its blog is unknown, and otherwise if its id is known; the ledger is then
as before. -/
def addMessage (ledger : Ledger) (reading : Int) (post : Post) (isLocal : Bool) :
    Except Fault Header × Ledger :=
  if post.blogId ∉ ledger.blogIds then (.error (.unknownBlog post.blogId), ledger)
  else if h : post.messageId ∈ ledger.messageIds then
    (.error (.duplicateMessage post.messageId), ledger)
  else
    let entry : Acceptance := ⟨post, reading, isLocal⟩
    let next := ledger.accept entry h
    (.ok (entry.headerAt (next.arrival ledger.accepted.length)), next)

def serve : Store.Operation → Ledger → Except Fault Store.Answer × Ledger
  | .change (.addBlog blog), ledger => (.ok .done, ledger.addBlog blog)
  | .change (.addMessage clock post isLocal), ledger =>
    ((ledger.addMessage clock post isLocal).1.map .header,
      (ledger.addMessage clock post isLocal).2)
  | .change .clear, _ => (.ok .done, empty)
  | .query query, ledger => (ledger.ask query, ledger)

/-! ## Arrival times -/

theorem greatest_append_singleton (readings : List Int) (reading : Int) :
    greatest (readings ++ [reading]) = max reading (greatest readings) := by
  unfold greatest
  rw [List.foldl_append, List.foldl_cons, List.foldl_nil, Int.max_comm]

variable {ledger : Ledger} {entry : Acceptance} {h : entry.post.messageId ∉ ledger.messageIds}

theorem arrival_accept_of_lt {place : Nat} (hplace : place < ledger.accepted.length) :
    (ledger.accept entry h).arrival place = ledger.arrival place := by
  have htake : (ledger.accepted ++ [entry]).take (place + 1)
      = ledger.accepted.take (place + 1) :=
    List.take_append_of_le_length (by omega)
  unfold arrival accept
  rw [htake]

theorem arrival_accept_last :
    (ledger.accept entry h).arrival ledger.accepted.length
      = max entry.reading (greatest (ledger.accepted.map (·.reading))) := by
  have htake : (ledger.accepted ++ [entry]).take (ledger.accepted.length + 1)
      = ledger.accepted ++ [entry] := by
    apply List.take_of_length_le
    simp
  unfold arrival accept
  rw [htake, List.map_append, List.map_singleton, greatest_append_singleton]

/-! ## What a store would hold -/

/-- The accepted messages with the times they arrived. -/
def messages (ledger : Ledger) : List Stored :=
  ledger.accepted.mapIdx fun place entry =>
    ⟨entry.post, ledger.arrival place, entry.isLocal⟩

theorem posts_messages (ledger : Ledger) :
    ledger.messages.map (·.post) = ledger.accepted.map (·.post) := by
  apply List.ext_getElem
  · simp [messages]
  · intro place h₁ h₂
    simp [messages]

/-- A stored message has the header that the ledger gives. -/
theorem log_eq (ledger : Ledger) : ledger.log = ledger.messages.map Stored.header := by
  apply List.ext_getElem
  · simp [log, messages]
  · intro place h₁ h₂
    simp [log, messages, Acceptance.headerAt, Stored.header, Post.header]

theorem messages_accept :
    (ledger.accept entry h).messages
      = ledger.messages ++ [⟨entry.post,
          max entry.reading (greatest (ledger.accepted.map (·.reading))), entry.isLocal⟩] := by
  -- the times of the messages that are there do not change
  have hbefore : ledger.accepted.mapIdx (fun place entry' =>
        (⟨entry'.post, (ledger.accept entry h).arrival place, entry'.isLocal⟩ : Stored))
      = ledger.messages := by
    unfold messages
    rw [List.mapIdx_eq_mapIdx_iff]
    intro place hplace
    rw [arrival_accept_of_lt hplace]
  have hall : (ledger.accept entry h).messages
      = (ledger.accepted ++ [entry]).mapIdx fun place entry' =>
          ⟨entry'.post, (ledger.accept entry h).arrival place, entry'.isLocal⟩ := rfl
  rw [hall, List.mapIdx_concat, hbefore, arrival_accept_last]

end Ledger

namespace Store

/-! ## A store and its ledger -/

/-- A store holds what a ledger holds. -/
structure Represents (store : Store) (ledger : Ledger) : Prop where
  coherent : store.Coherent
  blogs : store.blogs = ledger.blogs
  messages : store.messages = ledger.messages
  latest : store.latest = Ledger.greatest (ledger.accepted.map (·.reading))

theorem represents_empty : empty.Represents .empty where
  coherent := coherent_empty
  blogs := rfl
  messages := rfl
  latest := rfl

namespace Represents

variable {store : Store} {ledger : Ledger}

theorem posts (h : store.Represents ledger) :
    store.messages.map (·.post) = ledger.accepted.map (·.post) := by
  rw [h.messages, Ledger.posts_messages]

theorem blogIds (h : store.Represents ledger) : store.blogIds = ledger.blogIds := by
  rw [Store.blogIds_eq, h.blogs]
  rfl

theorem messageIds (h : store.Represents ledger) : store.messageIds = ledger.messageIds := by
  have hids := congrArg (List.map Post.messageId) h.posts
  rw [List.map_map, List.map_map] at hids
  exact hids

/-! ## Queries -/

theorem headers (h : store.Represents ledger) (blogId : Bytes) :
    store.headers blogId = ledger.headers blogId := by
  unfold Ledger.headers
  by_cases hknown : blogId ∈ ledger.blogIds
  · rw [if_pos hknown, ledger.log_eq, ← h.messages, List.filter_map]
    rw [← h.blogIds] at hknown
    exact h.coherent.headers_of_known hknown
  · rw [if_neg hknown]
    rw [← h.blogIds] at hknown
    exact headers_of_unknown hknown

theorem header (h : store.Represents ledger) (blogId messageId : Bytes) :
    store.header blogId messageId = ledger.header blogId messageId := by
  -- the store looks for the message id and compares the blog, the ledger looks for both at once
  have hpairs : (store.messages.map fun stored =>
      (stored.post.blogId, stored.post.messageId)).Nodup := by
    have hids := h.coherent.messageIds_nodup
    refine List.Nodup.of_map Prod.snd ?_
    rw [List.map_map]
    exact hids
  have hlog : ledger.log.find? (fun header => (header.blogId, header.id) == (blogId, messageId))
      = (store.messages.find? fun stored =>
          (stored.post.blogId, stored.post.messageId) == (blogId, messageId)).map
            Stored.header := by
    rw [ledger.log_eq, ← h.messages, List.find?_map]
    rfl
  unfold Ledger.header
  rw [hlog]
  by_cases hboth : ∃ stored ∈ store.messages,
      stored.post.blogId = blogId ∧ stored.post.messageId = messageId
  · obtain ⟨stored, hstored, rfl, rfl⟩ := hboth
    have hfind : store.messages.find? (fun other => (other.post.blogId, other.post.messageId)
        == (stored.post.blogId, stored.post.messageId)) = some stored :=
      find?_key hpairs hstored
    unfold Store.header
    rw [hfind, h.coherent.stored?_eq hstored]
    exact if_pos rfl
  · have hnone : store.messages.find? (fun stored =>
        (stored.post.blogId, stored.post.messageId) == (blogId, messageId)) = none := by
      rw [List.find?_eq_none]
      intro stored hstored hpair
      have heq := Prod.mk.inj (LawfulBEq.eq_of_beq hpair)
      exact hboth ⟨stored, hstored, heq.1, heq.2⟩
    rw [hnone]
    unfold Store.header
    cases hfound : store.stored? messageId with
    | none => rfl
    | some stored =>
      have hstored : stored ∈ store.messages := List.mem_of_find?_eq_some hfound
      have hid : stored.post.messageId = messageId := by
        simpa using List.find?_some hfound
      have hother : stored.post.blogId ≠ blogId := fun hblog => hboth ⟨stored, hstored, hblog, hid⟩
      exact if_neg hother

theorem message (h : store.Represents ledger) (messageId : Bytes) :
    store.message messageId = ledger.message messageId := by
  have hfind {α : Type} (post : α → Post) (items : List α) :
      (items.find? fun item => (post item).messageId == messageId).map post
        = (items.map post).find? fun post => post.messageId == messageId := by
    rw [List.find?_map]
    rfl
  have hsame : (store.stored? messageId).map Stored.post
      = (ledger.accepted.find? fun entry => entry.post.messageId == messageId).map
          Acceptance.post := by
    rw [hfind, ← h.posts]
    exact hfind Stored.post store.messages
  unfold Store.message Ledger.message
  cases hentry : ledger.accepted.find? fun entry => entry.post.messageId == messageId with
  | none =>
    rw [hentry, Option.map_none, Option.map_eq_none_iff] at hsame
    rw [hsame]
  | some entry =>
    rw [hentry, Option.map_some, Option.map_eq_some_iff] at hsame
    obtain ⟨stored, hstored, hpost⟩ := hsame
    rw [hstored]
    exact congrArg Except.ok hpost

theorem ask (h : store.Represents ledger) (query : Query) : store.ask query = ledger.ask query := by
  cases query with
  | blogs => exact congrArg (fun blogs => Except.ok (Answer.blogs blogs)) h.blogs
  | containsBlog blogId =>
    have hknown : store.containsBlog blogId = decide (blogId ∈ ledger.blogIds) := by
      rw [Bool.eq_iff_iff, containsBlog_iff, decide_eq_true_eq, h.blogIds]
    exact congrArg (fun known => Except.ok (Answer.truth known)) hknown
  | headers blogId => exact congrArg (Except.map Answer.headers) (h.headers blogId)
  | header blogId messageId => exact congrArg (Except.map Answer.header) (h.header blogId messageId)
  | message messageId => exact congrArg (Except.map Answer.post) (h.message messageId)
  | text messageId =>
    change ((store.message messageId).map Post.text).map Answer.text = _
    rw [h.message messageId]
    change _ = (ledger.message messageId).map fun post => Answer.text post.text
    cases ledger.message messageId <;> rfl
  | messages => exact congrArg (fun posts => Except.ok (Answer.posts posts)) h.posts
  | count =>
    have hlength := congrArg List.length h.posts
    rw [List.length_map, List.length_map] at hlength
    exact congrArg (fun count => Except.ok (Answer.count count)) hlength

/-! ## Changes -/

theorem addBlog (h : store.Represents ledger) (blog : Blog) :
    (store.addBlog blog).Represents (ledger.addBlog blog) := by
  unfold Ledger.addBlog
  by_cases hknown : blog.id ∈ ledger.blogIds
  · rw [dif_pos hknown]
    rw [← h.blogIds, ← containsBlog_iff] at hknown
    unfold Store.addBlog
    rw [if_pos hknown]
    exact h
  · rw [dif_neg hknown]
    have hadded := addBlog_of_new (h.blogIds ▸ hknown)
    refine ⟨h.coherent.addBlog blog, ?blogs, ?messages, ?latest⟩
    case blogs =>
      change _ = ledger.blogs ++ [blog]
      rw [hadded, ← h.blogs]
      exact List.map_append
    case messages =>
      rw [messages_addBlog, h.messages]
      rfl
    case latest =>
      rw [hadded]
      exact h.latest

theorem addMessage (h : store.Represents ledger) (clock : Int) (post : Post) (isLocal : Bool) :
    (store.addMessage clock post isLocal).map Prod.fst = (ledger.addMessage clock post isLocal).1 ∧
      (store.apply (.addMessage clock post isLocal)).Represents
        (ledger.addMessage clock post isLocal).2 := by
  unfold Ledger.addMessage
  by_cases hblog : post.blogId ∈ ledger.blogIds
  -- the blog is looked for before the message id
  rotate_left
  · rw [if_pos hblog]
    rw [← h.blogIds] at hblog
    simp only [apply, addMessage_of_unknown hblog]
    exact ⟨rfl, h⟩
  rw [if_neg (not_not_intro hblog)]
  rw [← h.blogIds] at hblog
  by_cases hid : post.messageId ∈ ledger.messageIds
  · rw [dif_pos hid]
    rw [← h.messageIds] at hid
    simp only [apply, addMessage_of_stored hblog hid]
    exact ⟨rfl, h⟩
  · rw [dif_neg hid]
    have hfresh : post.messageId ∉ store.messageIds := h.messageIds ▸ hid
    have htaken : store.addMessage clock post isLocal
        = .ok ((store.arriving clock post isLocal).header, store.push clock post isLocal) :=
      addMessage_eq_ok_iff.mpr ⟨hblog, hfresh, rfl, rfl⟩
    refine ⟨?_, ?_⟩
    · have harrival := @Ledger.arrival_accept_last ledger ⟨post, clock, isLocal⟩ hid
      rw [← h.latest] at harrival
      rw [htaken]
      exact congrArg (fun time => Except.ok (post.header time)) harrival.symm
    · rw [apply_addMessage_of_fresh hblog hfresh]
      refine ⟨h.coherent.push hblog hfresh, ?blogs, ?messages, ?latest⟩
      case blogs =>
        change _ = ledger.blogs
        rw [← h.blogs]
        simp [Store.push, Store.blogs]
      case messages =>
        rw [Ledger.messages_accept, ← h.messages, ← h.latest]
        rfl
      case latest =>
        change max clock store.latest = _
        rw [h.latest, ← Ledger.greatest_append_singleton]
        unfold Ledger.accept
        rw [List.map_append, List.map_singleton]

/-- Whatever is asked of a store or done to it, it answers as its ledger does, and both still hold the
same. -/
theorem serve (h : store.Represents ledger) (operation : Operation) :
    (store.serve operation).1 = (ledger.serve operation).1 ∧
      (store.serve operation).2.Represents (ledger.serve operation).2 := by
  match operation with
  | .change (.addBlog blog) => exact ⟨rfl, h.addBlog blog⟩
  | .change (.addMessage clock post isLocal) =>
    obtain ⟨hanswer, hnext⟩ := h.addMessage clock post isLocal
    exact ⟨congrArg (Except.map Answer.header) hanswer, hnext⟩
  | .change .clear => exact ⟨rfl, represents_empty⟩
  | .query query => exact ⟨h.ask query, h⟩

theorem replies (h : store.Represents ledger) (operations : List Operation) :
    Store.replies Store.serve store operations = Store.replies Ledger.serve ledger operations := by
  induction operations generalizing store ledger with
  | nil => rfl
  | cons operation operations ih =>
    obtain ⟨hanswer, hnext⟩ := h.serve operation
    rw [Store.replies, Store.replies, hanswer, ih hnext]

end Represents

/-- Whatever is done to an empty store and asked of it, every answer and every fault is that of a
ledger. -/
theorem replies_eq (operations : List Operation) :
    replies serve empty operations = replies Ledger.serve .empty operations :=
  represents_empty.replies operations

end Store

end SignedBlog
