import SignedBlog.Proofs.Log
import SignedBlog.Proofs.Transactions

/-!
A server that holds what a store in memory holds, and what is read from it.

A server `Mirrors` a store in memory if its tables hold the blogs and the messages of the store, cell by
cell, in rows whose numbers rise. Work that only reads (`Reads`) then comes to what the store says, and a
transaction of such work (`Tells`) leaves a server that mirrors the same store. Every question to a
store is such a transaction.
-/

namespace SignedBlog.Database

set_option autoImplicit false

/-! ## A server that holds what a store holds -/

structure Mirrors (server : Server Unit) (store : Store) : Prop where
  coherent : store.Coherent
  latest : store.latest = (store.messages.map (·.timeReceived)).max?.getD 0
  latest_nonneg : 0 ≤ store.latest
  latest_lt : store.latest < Int.pow 2 63
  hasTables : server.hasTables = true
  blogs : (server.committed .blogs).map Tuple.cells = store.blogs.map Blog.cells
  messages : (server.committed .messages).map Tuple.cells = store.messages.map Stored.cells
  numbered : ∀ table, Numbered (server.committed table) (server.drawn table)

/-- A transaction on such a server that has not written anything. -/
structure Opened (server : Server Unit) (store : Store) : Prop extends Mirrors server store where
  active : (server.session ()).status = .active
  clean : ∀ table, (server.session ()).pending table = []

section

variable {server next : Server Unit} {store : Store}

theorem Mirrors.of_eq (h : Mirrors server store) (hasTables : next.hasTables = server.hasTables)
    (hcommitted : next.committed = server.committed)
    (hdrawn : ∀ table, server.drawn table ≤ next.drawn table) : Mirrors next store := by
  refine { h with hasTables := ?_, blogs := ?_, messages := ?_, numbered := ?_ }
  · rw [hasTables, h.hasTables]
  · rw [hcommitted, h.blogs]
  · rw [hcommitted, h.messages]
  · rw [hcommitted]
    exact fun table => (h.numbered table).mono (hdrawn table)

theorem Mirrors.opened (h : Mirrors server store) : Opened (server.discard ()) store where
  toMirrors := h.of_eq rfl rfl fun _ => Int.le_refl _
  active := by rw [Server.discard, Server.session_setSession]; rfl
  clean := by rw [Server.discard, Server.session_setSession]; exact fun _ => rfl

namespace Opened

theorem answer (h : Opened server store) (rows : List Row) : Opened (server.answer () rows) store where
  toMirrors := h.of_eq rfl rfl fun _ => Int.le_refl _
  active := by rw [Server.answer, Server.session_setSession]; exact h.active
  clean := by rw [Server.answer, Server.session_setSession]; exact h.clean

theorem lock (h : Opened server store) (table : Table) : Opened (server.lock () table) store where
  toMirrors := h.of_eq rfl rfl fun _ => Int.le_refl _
  active := h.active
  clean := h.clean

theorem draw (h : Opened server store) {table : Table} {seq : Int} (hseq : server.drawn table ≤ seq) :
    Opened (server.draw table seq) store where
  toMirrors := by
    refine h.of_eq rfl rfl fun table' => ?_
    change _ ≤ Function.update server.drawn table seq table'
    rw [Function.update_apply]
    split
    case isTrue heq => exact heq ▸ hseq
    case isFalse => exact Int.le_refl _
  active := h.active
  clean := h.clean

theorem sees (h : Opened server store) : server.sees () = true := by
  rw [Server.sees, h.hasTables, Bool.true_or]

theorem visible_eq (h : Opened server store) (table : Table) :
    server.visible () table = server.committed table := by
  rw [Server.visible, h.clean, List.append_nil]

theorem publish (h : Opened server store) : Mirrors ((server.publish ()).discard ()) store :=
  h.of_eq (h.sees.trans h.hasTables.symm) (funext h.visible_eq) fun _ => Int.le_refl _

theorem discard (h : Opened server store) : Mirrors ((server.discard ()).discard ()) store :=
  h.of_eq rfl rfl fun _ => Int.le_refl _

end Opened

end

/-! ## Reading -/

section

variable {α β : Type} {store : Store} {result : Except Fault α} {work : Dialogue α}

/-- Work that comes to some result, and only reads. -/
def Reads (store : Store) (result : Except Fault α) (work : Dialogue α) : Prop :=
  ∀ server, Opened server store →
    work.Meets serving (fun told next => told = result ∧ Opened next store) server

/-- A dialogue that comes to some result, and leaves the server as it was. -/
def Tells (store : Store) (result : Except Fault α) (dialogue : Dialogue α) : Prop :=
  ∀ server, Mirrors server store →
    dialogue.Meets serving (fun told next => told = result ∧ Mirrors next store) server

namespace Reads

theorem finish (result : Except Fault α) : Reads store result (.finish result) :=
  fun _ h => ⟨rfl, h⟩

theorem bind {a : α} {next : α → Dialogue β} {result : Except Fault β} (h : Reads store (.ok a) work)
    (hnext : Reads store result (next a)) : Reads store result (work >>= next) := by
  intro server hserver
  rw [Dialogue.meets_bind]
  refine (h server hserver).mono ?_
  rintro told server' ⟨rfl, hserver'⟩
  exact hnext server' hserver'

theorem bind_fault {fault : Fault} {next : α → Dialogue β} (h : Reads store (.error fault) work) :
    Reads store (.error fault) (work >>= next) := by
  intro server hserver
  rw [Dialogue.meets_bind]
  refine (h server hserver).mono ?_
  rintro told server' ⟨rfl, hserver'⟩
  exact ⟨rfl, hserver'⟩

theorem ended {server : Server Unit} (h : Reads store result work) (hserver : Opened server store) :
    work.Meets serving (Dialogue.ended fun told next => told = result ∧ Mirrors next store) server := by
  refine (h server hserver).mono ?_
  rintro told next ⟨rfl, hnext⟩
  cases told with
  | error fault =>
    refine ⟨?_, rfl, hnext.discard⟩
    rw [hnext.active]
    simp
  | ok a => exact ⟨hnext.active, rfl, hnext.publish⟩

theorem transaction (h : Reads store result work) : Tells store result (Dialogue.transaction work) :=
  fun _ hserver => Dialogue.meets_transaction (h.ended hserver.opened)

theorem writing (h : Reads store result work) (pg : PostStore) : Tells store result (pg.writing work) :=
  fun _ hserver => Dialogue.meets_writing (h.ended hserver.opened)

/-- Goes on from what a transaction reads to what it does then. -/
theorem meets_bind {a : α} {next : α → Dialogue β} {goal : Except Fault β → Server Unit → Prop}
    {server : Server Unit} (h : Reads store (.ok a) work) (hserver : Opened server store)
    (hnext : ∀ server', Opened server' store → (next a).Meets serving goal server') :
    (work >>= next).Meets serving goal server := by
  rw [Dialogue.meets_bind]
  refine (h server hserver).mono ?_
  rintro told server' ⟨rfl, hserver'⟩
  exact hnext server' hserver'

end Reads

theorem reads_query {statement : Statement} {search : Search} {rows : List Row}
    (hcommand : statement.command = .select search)
    (hrows : ∀ server found, Mirrors server store →
      search.Finds statement.parameters (server.committed search.table) found →
      search.selection.rows (found.map Tuple.cells) = rows) :
    Reads store (.ok rows) (Dialogue.query statement) := by
  intro server h
  apply Dialogue.meets_query hcommand h.active h.sees
  intro found hfinds
  rw [h.visible_eq] at hfinds
  rw [hrows server found h.toMirrors hfinds]
  exact ⟨rfl, h.answer rows⟩

theorem mapM_map_ok {γ : Type} {items : List α} {f : α → β} {g : β → Except Fault γ} {k : α → γ}
    (h : ∀ item, g (f item) = .ok (k item)) : (items.map f).mapM g = .ok (items.map k) := by
  induction items with
  | nil => rfl
  | cons item items ih =>
    rw [List.map_cons, List.mapM_cons, h, ih]
    rfl

/-! ### Blogs -/

theorem reads_blogs :
    Reads store (.ok (store.blogs.map fun blog => Table.blogs.columns.map blog.cells))
      (Dialogue.query .selectBlogs) := by
  apply reads_query rfl
  intro server found h hfinds
  have hfound : found.map Tuple.cells = (store.blogs.filter fun _ => true).map Blog.cells :=
    hfinds.eq_map h.blogs (fun _ => rfl) rfl (h.numbered _).rise
  rw [hfound, List.filter_true]
  exact List.map_map

theorem reads_blog (blogId : Bytes) :
    Reads store (.ok ((store.blogs.filter fun blog => blog.id == blogId).map fun _ => [.int 1]))
      (Dialogue.query (.selectBlog blogId)) := by
  apply reads_query rfl
  intro server found h hfinds
  have hfound := hfinds.perm_map h.blogs (fun blog => Bool.and_true (blog.id == blogId))
  have hlength := hfound.length_eq
  -- a one for each row says no more than how many there are
  change (found.map Tuple.cells).map (fun _ => [Value.int 1]) = _
  rw [List.map_const', List.map_const', hlength, List.length_map]

theorem isEmpty_reads_blog (blogId : Bytes) :
    ((store.blogs.filter fun blog => blog.id == blogId).map fun _ => [Value.int 1]).isEmpty
      = !store.containsBlog blogId := by
  rw [Bool.eq_iff_iff, Bool.not_eq_true', ← Bool.not_eq_true, Store.containsBlog_iff, Store.blogIds_eq]
  simp [List.filter_eq_nil_iff]

theorem reads_requireBlog (blogId : Bytes) :
    Reads store (if store.containsBlog blogId then .ok () else .error (.unknownBlog blogId))
      (PostStore.requireBlog blogId) := by
  refine (reads_blog blogId).bind ?_
  rw [isEmpty_reads_blog]
  cases store.containsBlog blogId <;> exact .finish _

theorem tells_blogs : Tells store (.ok store.blogs) PostStore.blogs := by
  refine (reads_blogs.bind ?_).transaction
  rw [mapM_map_ok Blog.toBlog_cells, List.map_id']
  exact .finish _

theorem tells_containsBlog (blogId : Bytes) :
    Tells store (.ok (store.containsBlog blogId)) (PostStore.containsBlog blogId) := by
  refine ((reads_blog blogId).bind ?_).transaction
  rw [isEmpty_reads_blog, Bool.not_not]
  exact .finish _

/-! ### Messages -/

theorem reads_messages :
    Reads store (.ok (store.messages.map fun stored => Column.ofMessage.map stored.cells))
      (Dialogue.query .selectMessages) := by
  apply reads_query rfl
  intro server found h hfinds
  have hfound : found.map Tuple.cells = (store.messages.filter fun _ => true).map Stored.cells :=
    hfinds.eq_map h.messages (fun _ => rfl) rfl (h.numbered _).rise
  rw [hfound, List.filter_true]
  exact List.map_map

theorem reads_messagesOfBlog (blogId : Bytes) :
    Reads store (.ok ((store.ofBlog blogId).map fun stored => Column.ofMessage.map stored.cells))
      (Dialogue.query (.selectMessagesOfBlog blogId)) := by
  apply reads_query rfl
  intro server found h hfinds
  have hgiven : ∀ stored : Stored, stored.cells.agree [.blogId] [.bytes blogId]
      = decide (stored.post.blogId = blogId) := by
    intro stored
    change (stored.post.blogId == blogId && true) = _
    rw [Bool.and_true, beq_eq_decide]
  have hfound : found.map Tuple.cells = (store.ofBlog blogId).map Stored.cells :=
    hfinds.eq_map h.messages hgiven rfl (h.numbered _).rise
  rw [hfound]
  exact List.map_map

def rowsOf (columns : List Column) (stored? : Option Stored) : List Row :=
  (stored?.map fun stored => columns.map stored.cells).toList

theorem rows_rowsOf (columns : List Column) (stored? : Option Stored) :
    (Selection.cells columns).rows (stored?.map Stored.cells).toList = rowsOf columns stored? := by
  cases stored? <;> rfl

theorem reads_message {statement : Statement} {columns : List Column} {messageId : Bytes}
    (hcommand : statement.command = .select ⟨.cells columns, .messages, [.messageId], false⟩)
    (hparameters : statement.parameters = [.bytes messageId]) :
    Reads store (.ok (rowsOf columns (store.stored? messageId))) (Dialogue.query statement) := by
  apply reads_query hcommand
  intro server found h hfinds
  rw [hparameters] at hfinds
  have hfound := hfinds.eq_of_option h.messages
    (fun stored => Bool.and_true (stored.post.messageId == messageId))
    (Store.filter_key messageId h.coherent.messageIds_nodup)
  rw [hfound, rows_rowsOf]
  rfl

theorem reads_messageOfBlog (blogId messageId : Bytes) :
    Reads store (.ok (rowsOf Column.ofMessage
        ((store.stored? messageId).filter fun stored => stored.post.blogId == blogId)))
      (Dialogue.query (.selectMessageOfBlog blogId messageId)) := by
  apply reads_query rfl
  intro server found h hfinds
  have hone : store.messages.filter (fun stored =>
        stored.post.blogId == blogId && (stored.post.messageId == messageId && true))
      = ((store.stored? messageId).filter fun stored => stored.post.blogId == blogId).toList := by
    simp only [Bool.and_true]
    rw [← List.filter_filter, Store.filter_key messageId h.coherent.messageIds_nodup]
    exact Option.toList_filter.symm
  have hfound := hfinds.eq_of_option h.messages (fun _ => rfl) hone
  rw [hfound, rows_rowsOf]

/-- The greatest of some times does not depend on their order. -/
theorem max?_perm {times others : List Int} (h : times.Perm others) : times.max? = others.max? := by
  cases hmax : others.max? with
  | none =>
    rw [List.max?_eq_none_iff] at hmax
    rw [hmax] at h
    rw [h.eq_nil]
    rfl
  | some time =>
    rw [List.max?_eq_some_iff] at hmax ⊢
    exact ⟨h.mem_iff.mpr hmax.1, fun other hother => hmax.2 other (h.mem_iff.mp hother)⟩

theorem reads_latestArrival : Reads store (.ok (.int store.latest)) PostStore.latestArrival := by
  have hrows : Reads store (.ok [[.int store.latest]]) (Dialogue.query .selectLatestArrival) := by
    apply reads_query rfl
    intro server found h hfinds
    have hfound : (found.map Tuple.cells).Perm ((store.messages.filter fun _ => true).map Stored.cells) :=
      hfinds.perm_map h.messages fun _ => rfl
    rw [List.filter_true] at hfound
    have htimes := hfound.filterMap fun cells => integer? (cells .timeReceived)
    have hmessages : (store.messages.map Stored.cells).filterMap
          (fun cells => integer? (cells .timeReceived)) = store.messages.map (·.timeReceived) := by
      rw [List.filterMap_map]
      change store.messages.filterMap (some ∘ Stored.timeReceived) = _
      rw [List.filterMap_eq_map]
    rw [hmessages] at htimes
    change [[Value.int (((found.map Tuple.cells).filterMap _).max?.getD 0)]] = _
    rw [max?_perm htimes, ← h.latest]
  exact hrows.bind ((Reads.finish _).bind (.finish _))

theorem tells_headers (hcoherent : store.Coherent) (blogId : Bytes) :
    Tells store (store.headers blogId) (PostStore.headers blogId) := by
  have hrequire : Reads store _ (PostStore.requireBlog blogId) := reads_requireBlog blogId
  apply Reads.transaction
  by_cases hknown : blogId ∈ store.blogIds
  · rw [(Store.containsBlog_iff store blogId).mpr hknown] at hrequire
    rw [hcoherent.headers_of_known hknown]
    refine hrequire.bind ((reads_messagesOfBlog blogId).bind ?_)
    rw [mapM_map_ok Stored.toHeader_cells]
    exact .finish _
  · rw [Store.headers_of_unknown hknown]
    rw [← Store.containsBlog_iff, Bool.not_eq_true] at hknown
    rw [hknown] at hrequire
    exact hrequire.bind_fault

def tellRow (messageId : Bytes) (columns : List Column) (take : Row → Except Fault α) :
    Option Stored → Except Fault α
  | none => .error (.unknownMessage messageId)
  | some stored => take (columns.map stored.cells)

theorem tells_row {statement : Statement} {columns : List Column} {messageId : Bytes}
    {stored? : Option Stored} (take : Row → Except Fault α)
    (h : Reads store (.ok (rowsOf columns stored?)) (Dialogue.query statement)) :
    Tells store (tellRow messageId columns take stored?) (Dialogue.transaction do
      let row ← PostStore.messageRow messageId statement
      Dialogue.ofExcept (take row)) := by
  apply Reads.transaction
  cases stored? with
  | none =>
    have hrow : Reads store (.error (.unknownMessage messageId))
        (PostStore.messageRow messageId statement) := h.bind (.finish _)
    exact hrow.bind_fault
  | some stored =>
    have hrow : Reads store (.ok (columns.map stored.cells))
        (PostStore.messageRow messageId statement) := h.bind (.finish _)
    exact hrow.bind (.finish _)

theorem tells_header (blogId messageId : Bytes) :
    Tells store (store.header blogId messageId) (PostStore.header blogId messageId) := by
  have hsame : store.header blogId messageId = tellRow messageId Column.ofMessage Row.toHeader
      ((store.stored? messageId).filter fun stored => stored.post.blogId == blogId) := by
    unfold Store.header
    cases store.stored? messageId with
    | none => rfl
    | some stored =>
      by_cases hblog : stored.post.blogId = blogId
      · simp [Option.filter, hblog, tellRow, stored.toHeader_cells]
      · simp [Option.filter, hblog, tellRow]
  rw [hsame]
  exact tells_row Row.toHeader (reads_messageOfBlog blogId messageId)

theorem tells_message (messageId : Bytes) :
    Tells store (store.message messageId) (PostStore.message messageId) := by
  have hsame : store.message messageId
      = tellRow messageId Column.ofMessage Row.toPost (store.stored? messageId) := by
    unfold Store.message
    cases store.stored? messageId with
    | none => rfl
    | some stored => exact stored.toPost_cells.symm
  rw [hsame]
  exact tells_row Row.toPost (reads_message rfl rfl)

theorem tells_text (messageId : Bytes) :
    Tells store ((store.text messageId).map .text) (PostStore.text messageId) := by
  have hsame : (store.text messageId).map Value.text
      = tellRow messageId [.text] (·.cellAt 0) (store.stored? messageId) := by
    unfold Store.text Store.message
    cases store.stored? messageId <;> rfl
  rw [hsame]
  exact tells_row (·.cellAt 0) (reads_message rfl rfl)

theorem tells_posts : Tells store (.ok store.posts) PostStore.posts := by
  refine (reads_messages.bind ?_).transaction
  rw [mapM_map_ok Stored.toPost_cells]
  exact .finish _

theorem tells_count : Tells store (.ok (.int store.count)) PostStore.count := by
  have hrows : Reads store (.ok [[.int store.count]]) (Dialogue.query .countMessages) := by
    apply reads_query rfl
    intro server found h hfinds
    have hfound : (found.map Tuple.cells).Perm ((store.messages.filter fun _ => true).map Stored.cells) :=
      hfinds.perm_map h.messages fun _ => rfl
    have hlength : (found.map Tuple.cells).length = store.count := by
      rw [hfound.length_eq, List.filter_true, List.length_map]
      rfl
    change [[Value.int (found.map Tuple.cells).length]] = _
    rw [hlength]
  exact (hrows.bind ((Reads.finish _).bind (.finish _))).transaction

end

end SignedBlog.Database
