import SignedBlog.Proofs.Ledger
import SignedBlog.Proofs.Mirror

/-!
The store in a database agrees with the store in memory.

What is written to a server that mirrors a store leaves a server that mirrors the store that is left in
memory, and is answered, or refused, as in memory. From tables without rows both give the same answers to
any operations, as long as what is written fits the columns: `PostStore.replies_of_served`.
-/

namespace SignedBlog

set_option autoImplicit false

open Database

/-! ## What fits the columns -/

structure Author.Fits (author : Author) : Prop where
  formatVersion : fitsBits 32 author.formatVersion = true
  name : isStorable author.name = true

structure Post.Fits (post : Post) : Prop where
  author : post.author.Fits
  timestamp : fitsBits 64 post.timestamp = true
  text : isStorable post.text = true

theorem Blog.takes_cells {blog : Blog} (h : blog.author.Fits) : Table.blogs.takes blog.cells = true := by
  change (true && (true && (isStorable blog.author.name && (true &&
    (fitsBits 32 blog.author.formatVersion && true))))) = true
  rw [h.name, h.formatVersion]
  rfl

theorem Stored.takes_cells {stored : Stored} (h : stored.post.Fits)
    (htime : fitsBits 64 stored.timeReceived = true) :
    Table.messages.takes stored.cells = true := by
  have hparent : Column.takes .parentId (Post.optionalBytes stored.post.parentId) = true := by
    cases stored.post.parentId <;> rfl
  change (true && (true && (Column.takes .parentId (Post.optionalBytes stored.post.parentId) && (true &&
    (isStorable stored.post.author.name && (true && (fitsBits 32 stored.post.author.formatVersion &&
      (fitsBits 64 stored.post.timestamp && (fitsBits 64 stored.timeReceived &&
        (isStorable stored.post.text && (true && (true && true)))))))))))) = true
  rw [hparent, h.author.name, h.author.formatVersion, h.timestamp, htime, h.text]
  rfl

end SignedBlog

namespace SignedBlog.Database

/-! ## Writing -/

section

variable {server : Server Unit} {store : Store}

/-- A key is looked for in the rows of a table as in the items that it holds. -/
theorem any_cells {α : Type} {tuples : List Tuple} {items : List α} {cells : α → Cells}
    (hitems : tuples.map Tuple.cells = items.map cells) (holds : Cells → Bool) :
    tuples.any (fun tuple => holds tuple.cells) = items.any fun item => holds (cells item) := by
  have hany := congrArg (List.any · holds) hitems
  rw [List.any_map, List.any_map] at hany
  exact hany

/-- The greatest arrival is that of the message that arrived last. -/
theorem max?_push (hcoherent : store.Coherent) (clock : Int) (post : Post) (isLocal : Bool) :
    ((store.push clock post isLocal).messages.map (·.timeReceived)).max?
      = some (max clock store.latest) := by
  rw [List.max?_eq_some_iff, Store.push, List.map_append, List.map_singleton]
  refine ⟨List.mem_append_right _ List.mem_cons_self, ?_⟩
  intro time htime
  rw [List.mem_append, List.mem_singleton] at htime
  obtain htime | rfl := htime
  · obtain ⟨stored, hstored, rfl⟩ := List.mem_map.mp htime
    have hle := hcoherent.arrival_le_latest stored hstored
    omega
  · exact Int.le_refl _

namespace Opened

theorem knows_blog (h : Opened server store) (blogId : Bytes) :
    (server.visible () .blogs).any (fun tuple => sameBytes (tuple.cells Table.blogs.key) (.bytes blogId))
      = store.containsBlog blogId := by
  rw [h.visible_eq, any_cells h.blogs fun cells => sameBytes (cells Table.blogs.key) (.bytes blogId)]
  exact List.any_map

theorem knows_message (h : Opened server store) (messageId : Bytes) :
    (server.visible () .messages).any
        (fun tuple => sameBytes (tuple.cells Table.messages.key) (.bytes messageId))
      = (store.stored? messageId).isSome := by
  rw [h.visible_eq, any_cells h.messages fun cells => sameBytes (cells Table.messages.key) (.bytes messageId)]
  rw [Bool.eq_iff_iff, List.any_eq_true, Store.stored?, List.find?_isSome]
  rfl

theorem resolves_blog (blog : Blog) : server.resolves () .blogs blog.cells = true := rfl

theorem resolves_message (h : Opened server store) (stored : Stored) :
    server.resolves () .messages stored.cells = store.containsBlog stored.post.blogId := by
  rw [← h.knows_blog]
  exact Bool.and_true _

/-- What is published once a row was written. -/
theorem written (h : Opened server store) {table : Table} {tuple : Tuple} {later : Store}
    (hseq : server.drawn table < tuple.seq) (hcoherent : later.Coherent)
    (hlatest : later.latest = (later.messages.map (·.timeReceived)).max?.getD 0)
    (hnonneg : 0 ≤ later.latest) (hlt : later.latest < Int.pow 2 63)
    (hblogs : later.blogs.map Blog.cells
      = store.blogs.map Blog.cells ++ if .blogs = table then [tuple.cells] else [])
    (hmessages : later.messages.map Stored.cells
      = store.messages.map Stored.cells ++ if .messages = table then [tuple.cells] else []) :
    Mirrors (((server.write () table tuple).publish ()).discard ()) later := by
  have hcommitted : ∀ table', (((server.write () table tuple).publish ()).discard ()).committed table'
      = server.committed table' ++ if table' = table then [tuple] else [] := by
    intro table'
    change server.committed table' ++ ((server.write () table tuple).session ()).pending table' = _
    rw [Server.write, Server.session_setSession]
    by_cases heq : table' = table
    · subst heq
      simp [h.clean]
    · simp [h.clean, heq]
  have hdrawn : ∀ table', (((server.write () table tuple).publish ()).discard ()).drawn table'
      = if table' = table then tuple.seq else server.drawn table' := by
    intro table'
    exact Function.update_apply server.drawn table tuple.seq table'
  refine ⟨hcoherent, hlatest, hnonneg, hlt, ?tables, ?blogs, ?messages, ?numbered⟩
  case tables =>
    change (server.hasTables || _) = true
    rw [h.hasTables, Bool.true_or]
  case blogs =>
    rw [hcommitted, List.map_append, h.blogs, hblogs, apply_ite (List.map Tuple.cells)]
    rfl
  case messages =>
    rw [hcommitted, List.map_append, h.messages, hmessages, apply_ite (List.map Tuple.cells)]
    rfl
  case numbered =>
    intro table'
    rw [hcommitted, hdrawn]
    by_cases heq : table' = table
    · subst heq
      rw [if_pos rfl, if_pos rfl]
      have hlast : ∀ old ∈ server.committed table', old.seq < tuple.seq :=
        fun old hold => Int.lt_of_le_of_lt ((h.numbered table').le_drawn old hold) hseq
      exact (h.numbered table').push hlast (Int.le_refl _) (Int.le_of_lt hseq)
    · rw [if_neg heq, if_neg heq, List.append_nil]
      exact h.numbered table'

theorem written_blog (h : Opened server store) {blog : Blog} (hunknown : blog.id ∉ store.blogIds)
    {seq : Int} (hseq : server.drawn .blogs < seq) :
    Mirrors (((server.write () .blogs ⟨seq, blog.cells⟩).publish ()).discard ())
      (store.addBlog blog) := by
  have hadded := Store.addBlog_of_new hunknown
  refine h.written hseq (h.coherent.addBlog blog) ?_ ?_ ?_ ?_ ?_
  · rw [hadded]
    exact h.latest
  · rw [hadded]
    exact h.latest_nonneg
  · rw [hadded]
    exact h.latest_lt
  · rw [hadded, Store.blogs, List.map_append, List.map_append]
    rfl
  · rw [Store.messages_addBlog]
    exact (List.append_nil _).symm

theorem written_message (h : Opened server store) {clock : Int} {post : Post} (isLocal : Bool)
    (hblog : post.blogId ∈ store.blogIds) (hfresh : post.messageId ∉ store.messageIds)
    (hnonneg : 0 ≤ max clock store.latest) (hlt : max clock store.latest < Int.pow 2 63)
    {seq : Int} (hseq : server.drawn .messages < seq) :
    Mirrors (((server.write () .messages
        ⟨seq, (store.arriving clock post isLocal).cells⟩).publish ()).discard ())
      (store.push clock post isLocal) := by
  refine h.written hseq (h.coherent.push hblog hfresh) ?_ hnonneg hlt ?_ ?_
  · rw [max?_push h.coherent]
    rfl
  · rw [Store.blogs_push]
    exact (List.append_nil _).symm
  · rw [Store.push, List.map_append]
    rfl

end Opened

theorem meets_addBlog (pg : PostStore) {blog : Blog} (hfits : blog.author.Fits)
    (h : Mirrors server store) :
    (pg.addBlog blog).Meets serving
      (fun told next => told = .ok () ∧ Mirrors next (store.addBlog blog)) server := by
  have hopened := h.opened
  apply Dialogue.meets_writing
  apply Dialogue.meets_execute_of_carried hopened.active
  intro reply next hcarried
  have hblog := hopened.knows_blog blog.id
  obtain ⟨hnew, rows, seq, hseq, rfl, rfl⟩ | ⟨hknown, seq, hseq, hskip⟩ :=
    hcarried.of_insert hopened.sees (Blog.takes_cells hfits) (Opened.resolves_blog blog)
  · have hunknown : blog.id ∉ store.blogIds := by
      rw [← Store.containsBlog_iff, ← hblog]
      exact (Bool.eq_false_iff.mp hnew)
    exact ⟨(Server.status_write _ _ _ _).trans hopened.active, rfl, hopened.written_blog hunknown hseq⟩
  · obtain ⟨-, ⟨rows, rfl⟩, rfl⟩ | ⟨hskips, -⟩ := hskip
    · have hsame : store.addBlog blog = store := by
        unfold Store.addBlog
        rw [← hblog]
        exact if_pos hknown
      rw [hsame]
      have hdrawn := hopened.draw hseq
      exact ⟨hdrawn.active, rfl, hdrawn.publish⟩
    · cases hskips

theorem reads_lockMessages : Reads store (.ok ()) (Dialogue.execute .lockMessages) := by
  intro server h
  apply Dialogue.meets_execute_of_carried h.active
  intro reply next hcarried
  obtain ⟨rows, rfl, rfl⟩ := hcarried.of_lock h.sees
  exact ⟨rfl, h.lock .messages⟩

theorem explain_repetition {refusal : Refusal} (messageId : Bytes)
    (h : refusal.code = some repetitionCode) :
    PostStore.explain messageId (.database refusal) = .duplicateMessage messageId := if_pos h

/-- What is told of a message once its transaction has ended. -/
def added (post : Post) : Except Fault Stamp → Except Fault Header
  | .error fault => .error (PostStore.explain post.messageId fault)
  | .ok stamp => stamp.millis.map post.header

section

variable {clock : Int} {post : Post} {isLocal : Bool}

theorem meets_addMessage_iff {pg : PostStore} {goal : Except Fault Header → Server Unit → Prop} :
    (pg.addMessage clock post isLocal).Meets serving goal server ↔
      (pg.writing (PostStore.insertMessage clock post isLocal)).Meets serving
        (fun told => goal (added post told)) server := by
  rw [PostStore.addMessage, Dialogue.meets_andThen]
  refine iff_of_eq (congrArg (fun goal => Dialogue.Meets serving goal _ server) ?_)
  funext told next
  cases told <;> rfl

/-- The row of a message of a known blog is written, or refused as a repetition. -/
theorem meets_insertMessage (hfits : post.Fits) (hclock : clock < Int.pow 2 63)
    (hblog : post.blogId ∈ store.blogIds) (h : Opened server store) :
    (do
      Dialogue.execute (.insertMessage post (.whole (max clock store.latest)) isLocal)
      return Stamp.whole (max clock store.latest)).Meets serving
      (Dialogue.ended fun told next =>
        added post told = (store.addMessage clock post isLocal).map Prod.fst ∧
          Mirrors next (store.apply (.addMessage clock post isLocal))) server := by
  have hlt : max clock store.latest < Int.pow 2 63 := Int.max_lt.mpr ⟨hclock, h.latest_lt⟩
  have hnonneg : 0 ≤ max clock store.latest := Int.le_trans h.latest_nonneg (Int.le_max_right _ _)
  have htakes : Table.messages.takes (store.arriving clock post isLocal).cells = true :=
    Stored.takes_cells hfits (fitsBits_of_nonneg hnonneg hlt)
  have hresolves := (h.resolves_message (store.arriving clock post isLocal)).trans
    ((Store.containsBlog_iff store post.blogId).mpr hblog)
  have hid := h.knows_message post.messageId
  rw [Dialogue.meets_bind]
  apply Dialogue.meets_execute_of_carried h.active
  intro reply next hcarried
  obtain ⟨hnew, rows, seq, hseq, rfl, rfl⟩ | ⟨hrepeats, seq, hseq, hrefused⟩ :=
    hcarried.of_insert h.sees htakes hresolves
  · have hfresh : post.messageId ∉ store.messageIds := by
      rw [← Store.stored?_isSome_iff, ← hid]
      exact Bool.eq_false_iff.mp hnew
    have hpush : store.addMessage clock post isLocal
        = .ok ((store.arriving clock post isLocal).header, store.push clock post isLocal) :=
      Store.addMessage_eq_ok_iff.mpr ⟨hblog, hfresh, rfl, rfl⟩
    rw [Store.apply_addMessage_of_fresh hblog hfresh, hpush]
    exact ⟨(Server.status_write _ _ _ _).trans h.active, rfl,
      h.written_message isLocal hblog hfresh hnonneg hlt hseq⟩
  · obtain ⟨hskips, -⟩ | ⟨-, ⟨refusal, hcode, rfl⟩, rfl⟩ := hrefused
    · cases hskips
    have hstored : post.messageId ∈ store.messageIds := by
      rw [← Store.stored?_isSome_iff, ← hid]
      exact hrepeats
    simp only [Store.apply, Store.addMessage_of_stored hblog hstored]
    refine ⟨?_, ?_, (h.draw hseq).discard⟩
    · rw [Server.status_abort]
      simp
    · exact congrArg Except.error (explain_repetition post.messageId hcode)

theorem meets_addMessage (pg : PostStore) (hfits : post.Fits) (hclock : clock < Int.pow 2 63)
    (h : Mirrors server store) :
    (pg.addMessage clock post isLocal).Meets serving (fun told next =>
      told = (store.addMessage clock post isLocal).map Prod.fst ∧
        Mirrors next (store.apply (.addMessage clock post isLocal))) server := by
  have hrequire : Reads store _ (PostStore.requireBlog post.blogId) := reads_requireBlog post.blogId
  rw [meets_addMessage_iff]
  by_cases hblog : post.blogId ∈ store.blogIds
  · rw [(Store.containsBlog_iff store post.blogId).mpr hblog] at hrequire
    apply Dialogue.meets_writing
    refine reads_lockMessages.meets_bind h.opened fun locked hlocked => ?_
    refine hrequire.meets_bind hlocked fun required hrequired => ?_
    refine reads_latestArrival.meets_bind hrequired fun asked hasked => ?_
    rw [Stamp.later_int]
    exact (Reads.finish _).meets_bind hasked fun _ => meets_insertMessage hfits hclock hblog
  · have hunknown := hblog
    rw [← Store.containsBlog_iff, Bool.not_eq_true] at hunknown
    rw [hunknown] at hrequire
    have hwork : Reads store (.error (.unknownBlog post.blogId))
        (PostStore.insertMessage clock post isLocal) := reads_lockMessages.bind hrequire.bind_fault
    refine (hwork.writing pg server h).mono ?_
    rintro told next ⟨rfl, hnext⟩
    simp only [Store.apply, Store.addMessage_of_unknown hblog]
    exact ⟨rfl, hnext⟩

end

theorem meets_ensureSchema (pg : PostStore) (hblank : ∀ table, server.committed table = []) :
    pg.ensureSchema.Meets serving (fun told next => told = .ok () ∧ Mirrors next .empty) server := by
  apply Dialogue.meets_writing
  apply Dialogue.meets_execute_of_carried
  · rw [Server.discard, Server.session_setSession]
    rfl
  intro reply next hcarried
  cases hcarried with
  | absent _ hcreate => exact absurd rfl hcreate
  | create =>
    have hsession : ((server.discard ()).create ()).session ()
        = { Session.fresh with creates := true } := by
      rw [Server.create, Server.session_setSession, Server.discard, Server.session_setSession]
    have hnone : ∀ table,
        (((server.discard ()).create ()).publish ()).committed table = [] := by
      intro table
      change server.committed table ++ (((server.discard ()).create ()).session ()).pending table = []
      rw [hblank, hsession]
      rfl
    refine ⟨congrArg Session.status hsession, rfl, Store.coherent_empty, rfl, Int.le_refl 0, by decide,
      ?tables, congrArg (List.map Tuple.cells) (hnone .blogs),
      congrArg (List.map Tuple.cells) (hnone .messages), ?numbered⟩
    case tables =>
      change (_ || (((server.discard ()).create ()).session ()).creates) = true
      rw [hsession, Bool.or_true]
    case numbered =>
      intro table
      change Numbered ((((server.discard ()).create ()).publish ()).committed table) _
      rw [hnone]
      exact .nil _

end

/-! ## Operations -/

inductive Operation where
  | addBlog (blog : Blog)
  | addMessage (clock : Int) (post : Post) (isLocal : Bool)
  | query (query : Store.Query)

namespace Operation

def inMemory : Operation → Store.Operation
  | .addBlog blog => .change (.addBlog blog)
  | .addMessage clock post isLocal => .change (.addMessage clock post isLocal)
  | .query asked => .query asked

/-- Whether what is written fits the columns, with the time of the clock. -/
def Fits : Operation → Prop
  | .addBlog blog => blog.author.Fits
  | .addMessage clock post _ => post.Fits ∧ clock < Int.pow 2 63
  | .query _ => True

end Operation

/-- An answer as a database tells it; a text and a count come as cells. -/
inductive Answer where
  | told (answer : Store.Answer)
  | cell (cell : Value)

def Answer.ofStore : Store.Answer → Answer
  | .text text => .cell (.text text)
  | .count count => .cell (.int count)
  | answer => .told answer

namespace PostStore

def ask : Store.Query → Dialogue Answer
  | .blogs => do return .told (.blogs (← blogs))
  | .containsBlog blogId => do return .told (.truth (← containsBlog blogId))
  | .headers blogId => do return .told (.headers (← headers blogId))
  | .header blogId messageId => do return .told (.header (← header blogId messageId))
  | .message messageId => do return .told (.post (← message messageId))
  | .text messageId => do return .cell (← text messageId)
  | .messages => do return .told (.posts (← posts))
  | .count => do return .cell (← count)

def perform (pg : PostStore) : Operation → Dialogue Answer
  | .addBlog blog => do
    pg.addBlog blog
    return .told .done
  | .addMessage clock post isLocal => do return .told (.header (← pg.addMessage clock post isLocal))
  | .query query => ask query

/-- What a database answers to operations one after the other. -/
def replies {σ : Type} (pg : PostStore) (peer : σ → Request → Reply × σ) :
    σ → List Operation → List (Except Fault Answer)
  | _, [] => []
  | s, operation :: operations =>
    ((pg.perform operation).run peer s).1
      :: pg.replies peer ((pg.perform operation).run peer s).2.2 operations

end PostStore

theorem Tells.map {α β : Type} {store : Store} {result : Except Fault α} {dialogue : Dialogue α}
    (f : α → β) (h : Tells store result dialogue) :
    Tells store (result.map f) (do return f (← dialogue)) := by
  intro server hserver
  rw [Dialogue.meets_bind]
  refine (h server hserver).mono ?_
  rintro told next ⟨rfl, hnext⟩
  cases told <;> exact ⟨rfl, hnext⟩

theorem tells_ask {store : Store} (hcoherent : store.Coherent) (query : Store.Query) :
    Tells store ((store.ask query).map .ofStore) (PostStore.ask query) := by
  have hmap {α : Type} (result : Except Fault α) (f : α → Store.Answer) :
      (result.map f).map Answer.ofStore = result.map fun a => .ofStore (f a) := by
    cases result <;> rfl
  cases query with
  | blogs => exact tells_blogs.map fun blogs => Answer.told (.blogs blogs)
  | containsBlog blogId => exact (tells_containsBlog blogId).map fun holds => Answer.told (.truth holds)
  | headers blogId =>
    rw [Store.ask, hmap]
    exact (tells_headers hcoherent blogId).map _
  | header blogId messageId =>
    rw [Store.ask, hmap]
    exact (tells_header blogId messageId).map _
  | message messageId =>
    rw [Store.ask, hmap]
    exact (tells_message messageId).map _
  | text messageId =>
    have hcell : (store.text messageId).map (fun text => Answer.ofStore (.text text))
        = ((store.text messageId).map Value.text).map Answer.cell := by
      cases store.text messageId <;> rfl
    rw [Store.ask, hmap, hcell]
    exact (tells_text messageId).map _
  | messages => exact tells_posts.map fun posts => Answer.told (.posts posts)
  | count => exact tells_count.map Answer.cell

theorem meets_perform (pg : PostStore) {operation : Operation} (hfits : operation.Fits)
    {server : Server Unit} {store : Store} (h : Mirrors server store) :
    (pg.perform operation).Meets serving (fun told next =>
      told = (store.serve operation.inMemory).1.map .ofStore ∧
        Mirrors next (store.serve operation.inMemory).2) server := by
  cases operation with
  | addBlog blog =>
    change Dialogue.Meets _ _ (_ >>= _) _
    rw [Dialogue.meets_bind]
    refine (meets_addBlog pg hfits h).mono ?_
    rintro told next ⟨rfl, hnext⟩
    exact ⟨rfl, hnext⟩
  | addMessage clock post isLocal =>
    change Dialogue.Meets _ _ (_ >>= _) _
    rw [Dialogue.meets_bind]
    refine (meets_addMessage pg hfits.1 hfits.2 h).mono ?_
    rintro told next ⟨rfl, hnext⟩
    have hserve : (store.serve (.change (.addMessage clock post isLocal))).1
        = ((store.addMessage clock post isLocal).map Prod.fst).map .header := rfl
    rw [Operation.inMemory, hserve]
    cases (store.addMessage clock post isLocal).map Prod.fst <;> exact ⟨rfl, hnext⟩
  | query asked => exact tells_ask h.coherent asked server h

namespace PostStore

section

variable {σ : Type} {peer : σ → Request → Reply × σ} {view : σ → Server Unit}

theorem replies_of_mirrors
    (hserved : ∀ s request, Served () (view s) request (peer s request).1 (view (peer s request).2))
    (pg : PostStore) {s : σ} {store : Store} (h : Mirrors (view s) store) {operations : List Operation}
    (hfits : ∀ operation ∈ operations, operation.Fits) :
    pg.replies peer s operations
      = (Store.replies Store.serve store (operations.map Operation.inMemory)).map
          (·.map Answer.ofStore) := by
  induction operations generalizing s store with
  | nil => rfl
  | cons operation operations ih =>
    rw [List.forall_mem_cons] at hfits
    obtain ⟨htold, hnext⟩ :=
      (meets_perform pg hfits.1 h).run fun s request _ => hserved s request
    rw [replies, htold, ih hnext hfits.2]
    rfl

/-- Of a peer it is assumed that it serves every request as a server does, and that its tables have no
rows. The tables are then created, and whatever is done with the store, as long as it fits the columns,
every answer is the one, and every fault is the one, that a store in memory gives. -/
theorem replies_of_served
    (hserved : ∀ s request, Served () (view s) request (peer s request).1 (view (peer s request).2))
    (pg : PostStore) {s : σ} (hblank : ∀ table, (view s).committed table = [])
    {operations : List Operation} (hfits : ∀ operation ∈ operations, operation.Fits) :
    (pg.ensureSchema.run peer s).1 = .ok () ∧
      pg.replies peer (pg.ensureSchema.run peer s).2.2 operations
        = (Store.replies Store.serve .empty (operations.map Operation.inMemory)).map
            (·.map Answer.ofStore) := by
  obtain ⟨htold, hnext⟩ :=
    (meets_ensureSchema pg hblank).run fun s request _ => hserved s request
  exact ⟨htold, replies_of_mirrors hserved pg hnext hfits⟩

end

/-- A post of a blog that is added before, a second time too, with some questions. -/
def annsOperations : List Operation :=
  let author : Author := ⟨1, [1], "ann", [2]⟩
  let post : Post := ⟨[4], [3], none, author, 7, "hello", [5]⟩
  [.addBlog ⟨[3], author⟩, .addMessage 9 post true, .addMessage 8 post false, .query (.headers [3]),
    .query (.text [4]), .query .count]

theorem replies_of_served_anns :
    (∀ (server : Server Unit) request,
      Served () server request (server.respond () request).1 (server.respond () request).2) ∧
    (∀ table, (Server.blank : Server Unit).committed table = []) ∧
    (∀ operation ∈ annsOperations, operation.Fits) ∧
    (Dialogue.run (Server.respond ()) .blank (ensureSchema {})).1 = .ok () ∧
    replies {} (Server.respond ()) (Dialogue.run (Server.respond ()) .blank (ensureSchema {})).2.2
        annsOperations
      = (Store.replies Store.serve .empty (annsOperations.map Operation.inMemory)).map
          (·.map Answer.ofStore) := by
  have hserved : ∀ (server : Server Unit) request,
      Served () server request (server.respond () request).1 (server.respond () request).2 :=
    fun server request => Server.served_respond fun _ _ _ _ _ _ => rfl
  have hblank : ∀ table, (Server.blank : Server Unit).committed table = [] := fun _ => rfl
  have hauthor : Author.Fits ⟨1, [1], "ann", [2]⟩ := ⟨by decide, by decide⟩
  have hpost : Post.Fits ⟨[4], [3], none, ⟨1, [1], "ann", [2]⟩, 7, "hello", [5]⟩ :=
    ⟨hauthor, by decide, by decide⟩
  have hfits : ∀ operation ∈ annsOperations, operation.Fits := by
    simp only [annsOperations, List.forall_mem_cons]
    exact ⟨hauthor, ⟨hpost, by decide⟩, ⟨hpost, by decide⟩, trivial, trivial, trivial,
      List.forall_mem_nil _⟩
  exact ⟨hserved, hblank, hfits,
    @replies_of_served (Server Unit) (Server.respond ()) id hserved {} .blank hblank annsOperations hfits⟩

end PostStore

end SignedBlog.Database
