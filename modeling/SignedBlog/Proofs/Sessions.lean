import SignedBlog.Proofs.Phases
import SignedBlog.Proofs.Server

/-!
Sessions of one database that add messages.

The messages that are published are `Logged` in the order in which they were committed. Each session is in
a `Phase` of its call, and `Follows` tells what is true of it there: from the lock on it is the only one
that can publish, so what it was told of the latest arrival stays true until it commits. A request that
is served is `Confined` to the session it came from, or it commits the message of that session:
`Served.moves` and `follows_publish`.
-/

namespace SignedBlog.Database

set_option autoImplicit false

variable {ι : Type} {server next : Server ι} {messages : List Stored} {i j : ι} {phase : Phase}

/-! ## The log -/

/-- The table of messages holds these messages, in the order in which they were published. In that order
their rows are numbered, and arrival times do not fall; no id is there twice. -/
structure Logged (server : Server ι) (messages : List Stored) : Prop where
  cells : (server.committed .messages).map Tuple.cells = messages.map Stored.cells
  numbered : Numbered (server.committed .messages) (server.drawn .messages)
  arrivals_rise : (messages.map (·.timeReceived)).Pairwise (· ≤ ·)
  messageIds_nodup : (messages.map (·.post.messageId)).Nodup

/-- A message that may stand behind those that are published. -/
structure Extends (server : Server ι) (messages : List Stored) (seq : Int) (stored : Stored) : Prop where
  lt_seq : ∀ tuple ∈ server.committed .messages, tuple.seq < seq
  seq_le : seq ≤ server.drawn .messages
  le_arrival : ∀ old ∈ messages, old.timeReceived ≤ stored.timeReceived
  fresh : stored.post.messageId ∉ messages.map (·.post.messageId)

def Server.pendingMessages (server : Server ι) (i : ι) : List Tuple := (server.session i).pending .messages

theorem Logged.visible (h : Logged server messages) (hpending : server.pendingMessages i = []) :
    (server.visible i .messages).map Tuple.cells = messages.map Stored.cells := by
  have hnone : (server.session i).pending .messages = [] := hpending
  rw [Server.visible, hnone, List.append_nil, h.cells]

/-- A log is kept while nothing is published. -/
theorem Logged.carry (h : Logged server messages)
    (hcommitted : next.committed .messages = server.committed .messages)
    (hdrawn : server.drawn .messages ≤ next.drawn .messages) : Logged next messages where
  cells := by
    rw [hcommitted]
    exact h.cells
  numbered := by
    rw [hcommitted]
    exact h.numbered.mono hdrawn
  arrivals_rise := h.arrivals_rise
  messageIds_nodup := h.messageIds_nodup

theorem Extends.carry {seq : Int} {stored : Stored} (h : Extends server messages seq stored)
    (hcommitted : next.committed .messages = server.committed .messages)
    (hdrawn : server.drawn .messages ≤ next.drawn .messages) : Extends next messages seq stored where
  lt_seq := by
    rw [hcommitted]
    exact h.lt_seq
  seq_le := Int.le_trans h.seq_le hdrawn
  le_arrival := h.le_arrival
  fresh := h.fresh

/-- A log with one more message. -/
theorem Logged.push {seq : Int} {stored : Stored} (h : Logged server messages)
    (hextends : Extends server messages seq stored)
    (hcommitted : next.committed .messages = server.committed .messages ++ [⟨seq, stored.cells⟩])
    (hdrawn : server.drawn .messages ≤ next.drawn .messages) : Logged next (messages ++ [stored]) where
  cells := by
    rw [hcommitted, List.map_append, List.map_append, h.cells]
    rfl
  numbered := by
    rw [hcommitted]
    exact h.numbered.push hextends.lt_seq (Int.le_trans hextends.seq_le hdrawn) hdrawn
  arrivals_rise := by
    rw [List.map_append]
    exact pairwise_concat h.arrivals_rise (List.forall_mem_map.mpr hextends.le_arrival)
  messageIds_nodup := by
    rw [List.map_append, List.map_singleton, ← List.concat_eq_append]
    exact List.Nodup.concat hextends.fresh h.messageIds_nodup

/-! ## A session in a phase -/

/-- A session that is still active has the lock of the messages. -/
def Server.Guards (server : Server ι) (i : ι) : Prop :=
  (server.session i).status = .active → server.holder .messages = some i

/-- No message arrived later, as long as a session is active. -/
def Server.Bounded (server : Server ι) (messages : List Stored) (i : ι) (latest : Int) : Prop :=
  (server.session i).status = .active → ∀ old ∈ messages, old.timeReceived ≤ latest

/-- What is true of a session in each phase of its call. -/
def Follows (server : Server ι) (messages : List Stored) (i : ι) : Phase → Prop
  | .outside => server.pendingMessages i = []
  | .locked => server.pendingMessages i = [] ∧ server.Guards i
  | .asked => server.pendingMessages i = [] ∧ server.Guards i ∧
      ∃ latest, (server.session i).rows = [[.int latest]] ∧ server.Bounded messages i latest
  | .informed latest => server.pendingMessages i = [] ∧ server.Guards i ∧ server.Bounded messages i latest
  | .inserted stored =>
    (server.session i).status = .lost ∧ server.pendingMessages i = [] ∨
      (server.session i).status = .active ∧ server.holder .messages = some i ∧
        ∃ seq, server.pendingMessages i = [⟨seq, stored.cells⟩] ∧ Extends server messages seq stored
  | .published stored => server.pendingMessages i = [] ∧ stored ∈ messages

/-- A session goes on as it was if it is not touched, and nothing is published while it is active and has
the lock. -/
theorem Follows.bystand {later : List Stored} (h : Follows server messages j phase)
    (hsession : next.session j = server.session j) (hgrows : messages ⊆ later)
    (howner : (server.session j).status = .active → server.holder .messages = some j →
      next.holder .messages = some j ∧ later = messages ∧
        ∀ seq stored, Extends server messages seq stored → Extends next messages seq stored) :
    Follows next later j phase := by
  have hpending : next.pendingMessages j = server.pendingMessages j := by
    rw [Server.pendingMessages, hsession, Server.pendingMessages]
  have hguards (hguards : server.Guards j) : next.Guards j := by
    rw [Server.Guards, hsession]
    exact fun hactive => (howner hactive (hguards hactive)).1
  have hbounded {latest : Int} (hguards : server.Guards j)
      (hbounded : server.Bounded messages j latest) : next.Bounded later j latest := by
    rw [Server.Bounded, hsession]
    intro hactive
    rw [(howner hactive (hguards hactive)).2.1]
    exact hbounded hactive
  cases phase with
  | outside => exact hpending.trans h
  | locked => exact ⟨hpending.trans h.1, hguards h.2⟩
  | asked =>
    obtain ⟨hnone, hlock, latest, hrows, hlatest⟩ := h
    exact ⟨hpending.trans hnone, hguards hlock, latest, hsession ▸ hrows, hbounded hlock hlatest⟩
  | informed latest => exact ⟨hpending.trans h.1, hguards h.2.1, hbounded h.2.1 h.2.2⟩
  | inserted stored =>
    obtain ⟨hlost, hnone⟩ | ⟨hactive, hholder, seq, hrow, hextends⟩ := h
    · exact .inl ⟨hsession ▸ hlost, hpending.trans hnone⟩
    · obtain ⟨hkept, rfl, hextension⟩ := howner hactive hholder
      exact .inr ⟨hsession ▸ hactive, hkept, seq, hpending.trans hrow, hextension seq stored hextends⟩
  | published stored => exact ⟨hpending.trans h.1, hgrows h.2⟩

/-! ## What is confined to a session -/

/-- Whatever is done about one session publishes no message and leaves the other sessions, with their
locks of the messages, as they are. -/
structure Confined (i : ι) (server next : Server ι) : Prop where
  committed : next.committed .messages = server.committed .messages
  drawn : server.drawn .messages ≤ next.drawn .messages
  session : ∀ j, j ≠ i → next.session j = server.session j
  holder : ∀ j, j ≠ i → server.holder .messages = some j → next.holder .messages = some j

namespace Confined

theorem refl (i : ι) (server : Server ι) : Confined i server server :=
  ⟨rfl, Int.le_refl _, fun _ _ => rfl, fun _ _ => id⟩

theorem trans {last : Server ι} (h : Confined i server next) (h' : Confined i next last) :
    Confined i server last where
  committed := h'.committed.trans h.committed
  drawn := Int.le_trans h.drawn h'.drawn
  session j hne := (h'.session j hne).trans (h.session j hne)
  holder j hne hholder := h'.holder j hne (h.holder j hne hholder)

theorem follows (h : Confined i server next) (hne : j ≠ i) (hfollows : Follows server messages j phase) :
    Follows next messages j phase :=
  hfollows.bystand (h.session j hne) (List.Subset.refl _) fun _ hholder =>
    ⟨h.holder j hne hholder, rfl, fun _ _ hextends => hextends.carry h.committed h.drawn⟩

theorem draw (i : ι) {table : Table} {seq : Int} (hseq : server.drawn table ≤ seq) :
    Confined i server (server.draw table seq) := by
  refine ⟨rfl, ?_, fun _ _ => rfl, fun _ _ => id⟩
  change _ ≤ Function.update server.drawn table seq .messages
  rw [Function.update_apply]
  split
  case isTrue heq => exact heq ▸ hseq
  case isFalse => exact Int.le_refl _

theorem lock {table : Table} (hfree : ∀ k, server.holder table = some k → k = i) :
    Confined i server (server.lock i table) := by
  refine ⟨rfl, Int.le_refl _, fun _ _ => rfl, ?_⟩
  intro j hne hholder
  change Function.update server.holder table (some i) .messages = some j
  rw [Function.update_apply]
  split
  case isTrue heq => exact absurd (hfree j (heq ▸ hholder)) hne
  case isFalse => exact hholder

section

variable [DecidableEq ι]

theorem setSession (i : ι) (session : Session) : Confined i server (server.setSession i session) :=
  ⟨rfl, Int.le_refl _, fun _ hne => server.session_setSession_of_ne i hne session, fun _ _ => id⟩

theorem free (i : ι) : Confined i server (server.free i) := by
  refine ⟨rfl, Int.le_refl _, fun _ _ => rfl, ?_⟩
  intro j hne hholder
  change (if server.holder .messages = some i then none else server.holder .messages) = some j
  rw [if_neg, hholder]
  rw [hholder]
  exact fun heq => hne (Option.some.inj heq)

theorem discard (i : ι) : Confined i server (server.discard i) := (free i).trans (setSession i _)

theorem lose (i : ι) : Confined i server (server.lose i) := (free i).trans (setSession i _)

theorem write {table : Table} {tuple : Tuple} (hseq : server.drawn table ≤ tuple.seq) :
    Confined i server (server.write i table tuple) := (draw i hseq).trans (setSession i _)

end

end Confined

/-! ## What a request does to the session of its worker -/

theorem le_greatest {times : List Int} {time : Int} (h : time ∈ times) : time ≤ times.max?.getD 0 := by
  cases hmax : times.max? with
  | none =>
    rw [List.max?_eq_none_iff] at hmax
    rw [hmax] at h
    cases h
  | some greatest => exact (List.max?_eq_some_iff.mp hmax).2 time h

theorem follows_lock (h : Follows server messages i .outside) :
    Follows (server.lock i .messages) messages i .locked := by
  refine ⟨h, fun _ => ?_⟩
  change Function.update server.holder .messages (some i) .messages = some i
  rw [Function.update_self]

/-- What a request does that publishes nothing: the session goes on in some phase that the answer
allows, and the others are left as they are. -/
def Moves (server next : Server ι) (messages : List Stored) (i : ι) (phase : Phase) (request : Request)
    (reply : Reply) : Prop :=
  ∃ last, writer.answers phase request reply last ∧ Follows next messages i last ∧
    Confined i server next

section

variable {request : Request} {reply : Reply} {last : Phase}

theorem moves_of_step {rows : List Row} (hstep : phase.Step request rows last)
    (hfollows : Follows next messages i last) (hconfined : Confined i server next) :
    Moves server next messages i phase request (.done rows) := ⟨last, hstep, hfollows, hconfined⟩

theorem moves_of_failed {refusal : Refusal} (hfollows : Follows next messages i last)
    (hconfined : Confined i server next) :
    Moves server next messages i phase request (.failed refusal) := ⟨last, trivial, hfollows, hconfined⟩

end

section

variable [DecidableEq ι] {request : Request} {reply : Reply}

theorem follows_discard : Follows (server.discard i) messages i .outside := by
  change (((server.free i).setSession i .fresh).session i).pending .messages = []
  rw [Server.session_setSession]
  rfl

theorem follows_abort : Follows (server.abort i) messages i .outside := by
  change ((server.setSession i _).session i).pending .messages = []
  rw [Server.session_setSession]
  rfl

theorem follows_closed (h : Follows server messages i phase) :
    Follows (server.discard i) messages i phase.closed := by
  have hnone : Follows (server.discard i) messages i .outside := follows_discard
  cases phase with
  | published stored => exact ⟨hnone, h.2⟩
  | _ => exact hnone

theorem follows_answer (h : Follows server messages i .locked) (rows : List Row) :
    Follows (server.answer i rows) messages i .locked := by
  rw [Follows, Server.pendingMessages, Server.Guards, Server.answer, Server.session_setSession]
  exact h

/-- The latest arrival that is told is not before any message that is published. -/
theorem follows_latest (hlogged : Logged server messages) (h : Follows server messages i .locked)
    {found : List Tuple}
    (hfinds : Search.Finds ⟨.greatest .timeReceived, .messages, [], false⟩ []
      (server.visible i .messages) found) :
    Follows (server.answer i ((Selection.greatest .timeReceived).rows (found.map Tuple.cells)))
      messages i .asked := by
  obtain ⟨hpending, hguards⟩ := follows_answer h _
  refine ⟨hpending, hguards, _, server.rows_answer i _, fun _ => ?_⟩
  intro old hold
  have hfound : (found.map Tuple.cells).Perm ((messages.filter fun _ => true).map Stored.cells) :=
    hfinds.perm_map (hlogged.visible h.1) fun _ => rfl
  have hcells : old.cells ∈ found.map Tuple.cells := by
    rw [List.filter_true] at hfound
    exact hfound.mem_iff.mpr (List.mem_map_of_mem hold)
  exact le_greatest (List.mem_filterMap.mpr ⟨old.cells, hcells, rfl⟩)

/-- A row that is written under the lock may stand behind all that are published. -/
theorem follows_insert (hlogged : Logged server messages) {latest seq : Int} {stored : Stored}
    (h : Follows server messages i (.informed latest)) (hactive : (server.session i).status = .active)
    (hle : latest ≤ stored.timeReceived) (hseq : server.drawn .messages < seq)
    (hnew : server.repeats i .messages stored.cells = false) :
    Follows (server.write i .messages ⟨seq, stored.cells⟩) messages i (.inserted stored) := by
  obtain ⟨hpending, hguards, hbounded⟩ := h
  refine .inr ⟨(server.status_write i _ _).trans hactive, hguards hactive, seq, ?pending, ?extension⟩
  case pending =>
    have hnone : (server.session i).pending .messages = [] := hpending
    rw [Server.pendingMessages, Server.write, Server.session_setSession]
    simp [hnone]
  case extension =>
    refine ⟨?lt, ?le, fun old hold => Int.le_trans (hbounded hactive old hold) hle, ?fresh⟩
    case lt =>
      exact fun tuple htuple => Int.lt_of_le_of_lt (hlogged.numbered.le_drawn tuple htuple) hseq
    case le =>
      change seq ≤ Function.update server.drawn .messages seq .messages
      rw [Function.update_self]
    case fresh =>
      intro hmem
      obtain ⟨old, hold, hid⟩ := List.mem_map.mp hmem
      have hcells : old.cells ∈ (server.visible i .messages).map Tuple.cells := by
        rw [hlogged.visible hpending]
        exact List.mem_map_of_mem hold
      obtain ⟨tuple, htuple, heq⟩ := List.mem_map.mp hcells
      have hsame : sameBytes (tuple.cells .messageId) (stored.cells .messageId) = true := by
        rw [heq]
        exact beq_iff_eq.mpr hid
      have hknown : server.repeats i .messages stored.cells = true :=
        List.any_eq_true.mpr ⟨tuple, htuple, hsame⟩
      rw [hnew] at hknown
      cases hknown

/-- A command that is refused ends its transaction. -/
theorem Carried.moves_of_failed {command : Command} {given : Row} {refusal : Refusal}
    (h : Carried i server command given (.failed refusal) next) :
    Moves server next messages i phase request (.failed refusal) := by
  have hconfined : Confined i server next := by
    cases h with
    | absent => exact .setSession i _
    | repeated _ hseq => exact (Confined.draw i hseq).trans (.setSession i _)
    | invalid _ hseq => exact (Confined.draw i hseq).trans (.setSession i _)
  have hfollows : Follows next messages i .outside := by
    cases h <;> exact follows_abort
  exact Database.moves_of_failed hfollows hconfined

theorem Carried.moves_of_done {statement : Statement} {rows asked : List Row} {last : Phase}
    (hlogged : Logged server messages) (hfollows : Follows server messages i phase)
    (hactive : (server.session i).status = .active)
    (hstep : phase.Step (.execute statement) asked last)
    (h : Carried i server statement.command statement.parameters (.done rows) next) :
    Moves server next messages i phase (.execute statement) (.done rows) := by
  cases hstep with
  | setLockTimeout =>
    cases h
    exact moves_of_step .setLockTimeout hfollows (.refl i server)
  | setStatementTimeout =>
    cases h
    exact moves_of_step .setStatementTimeout hfollows (.refl i server)
  | lock =>
    cases h with
    | lock _ hfree => exact moves_of_step .lock (follows_lock hfollows) (.lock hfree)
  | selectBlog =>
    cases h
    exact moves_of_step .selectBlog (follows_answer hfollows _) (.setSession i _)
  | selectLatest =>
    cases h with
    | select _ hfinds =>
      exact moves_of_step .selectLatest (follows_latest hlogged hfollows hfinds) (.setSession i _)
  | @insert latest time post isLocal _ hle =>
    cases h with
    | insert _ hseq _ _ hnew =>
      have hinserted : Follows _ _ _ (.inserted ⟨post, time, isLocal⟩) :=
        follows_insert hlogged hfollows hactive hle hseq hnew
      exact moves_of_step (.insert hle) hinserted (.write (Int.le_of_lt hseq))

/-- A request that is served publishes nothing, unless it commits the message of its worker. -/
theorem Served.moves (hlogged : Logged server messages) (hfollows : Follows server messages i phase)
    (hadmits : writer.admits phase request) (h : Served i server request reply next) :
    Moves server next messages i phase request reply ∨
      ∃ stored, phase = .inserted stored ∧ writer.answers phase request reply (.published stored) ∧
        (server.session i).status = .active ∧ next = server.publish i := by
  obtain ⟨rows, last, hstep⟩ := hadmits
  cases h with
  | connect => exact .inl (moves_of_step .connect follows_discard (.discard i))
  | openCursor =>
    cases hstep
    exact .inl (moves_of_step .openCursor hfollows (.refl i server))
  | execute hactive hcarried =>
    cases reply with
    | done rows => exact .inl (hcarried.moves_of_done hlogged hfollows hactive hstep)
    | failed refusal => exact .inl hcarried.moves_of_failed
  | refuse => exact .inl (moves_of_failed hfollows (.refl i server))
  | fetch =>
    cases hstep with
    | fetchBlog => exact .inl (moves_of_step .fetchBlog hfollows (.refl i server))
    | fetchLatest =>
      obtain ⟨hpending, hguards, latest, hrows, hbounded⟩ := hfollows
      have hinformed : Follows server messages i (.informed latest) := ⟨hpending, hguards, hbounded⟩
      rw [hrows]
      exact .inl (moves_of_step .fetchLatest hinformed (.refl i server))
  | commit hactive =>
    cases hstep
    exact .inr ⟨_, rfl, .commit, hactive, rfl⟩
  | commitFailed hfailed =>
    cases hstep
    -- where a row was written nothing was refused
    obtain ⟨hlost, -⟩ | ⟨hactive, -⟩ := hfollows
    · rw [hfailed] at hlost
      cases hlost
    · rw [hfailed] at hactive
      cases hactive
  | commitLost => exact .inl (moves_of_failed hfollows (.refl i server))
  | rollback => exact .inl (moves_of_step .rollback follows_discard (.discard i))
  | rollbackLost => exact .inl (moves_of_failed hfollows (.refl i server))
  | closeCursor => exact .inl (moves_of_step .closeCursor hfollows (.refl i server))
  | close => exact .inl (moves_of_step .close (follows_closed hfollows) (.discard i))

/-- What is committed stands behind what was there, and no other session is touched that could commit. -/
theorem follows_publish {stored : Stored} (hlogged : Logged server messages)
    (hfollows : Follows server messages i (.inserted stored))
    (hactive : (server.session i).status = .active) :
    Logged (server.publish i) (messages ++ [stored]) ∧
      server.committed .messages <+: (server.publish i).committed .messages ∧
      Follows (server.publish i) (messages ++ [stored]) i (.published stored) ∧
      ∀ j, j ≠ i → ∀ phase, Follows server messages j phase →
        Follows (server.publish i) (messages ++ [stored]) j phase := by
  obtain ⟨hlost, -⟩ | ⟨-, hholder, seq, hrow, hextends⟩ := hfollows
  · rw [hactive] at hlost
    cases hlost
  have hcommitted : (server.publish i).committed .messages
      = server.committed .messages ++ [⟨seq, stored.cells⟩] := by
    rw [← hrow]
    rfl
  have hnone : Follows (server.discard i) messages i .outside := follows_discard
  refine ⟨hlogged.push hextends hcommitted (Int.le_refl _), ?_, ⟨hnone, ?_⟩, ?_⟩
  · rw [hcommitted]
    exact List.prefix_append _ _
  · exact List.mem_append_right _ (List.mem_singleton_self _)
  intro j hne phase hfollows
  refine hfollows.bystand ((server.free i).session_setSession_of_ne i hne _)
    (List.subset_append_left _ _) fun _ hother => ?_
  -- the lock was with the session that has committed
  rw [hholder] at hother
  exact absurd (Option.some.inj hother).symm hne

end

end SignedBlog.Database
