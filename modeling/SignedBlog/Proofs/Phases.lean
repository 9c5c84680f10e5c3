import SignedBlog.Proofs.Conversation

/-!
The phases of a call that adds a message.

What a worker has learned and done in its transaction is a `Phase`; a request that is carried out leads
from one phase to the next, and in each phase only some requests are made. A row is only written when
the latest arrival was asked for under the lock, with a time that is not before it, and only a
transaction that has written one row is committed. `PostStore.addMessage_meets_writer`: every call keeps
to that, whatever is answered and wherever it fails, and where it ends well its message is published.
-/

namespace SignedBlog.Database

set_option autoImplicit false

inductive Phase where
  /-- Nothing is written, and it is not said that anything is locked. -/
  | outside
  | locked
  | asked
  | informed (latest : Int)
  | inserted (stored : Stored)
  | published (stored : Stored)

namespace Phase

def closed : Phase → Phase
  | published stored => published stored
  | _ => outside

/-- How a request that is carried out leads from a phase to the next. -/
inductive Step : Phase → Request → List Row → Phase → Prop where
  | connect {phase : Phase} {rows : List Row} : Step phase .connect rows outside
  | openCursor {rows : List Row} : Step outside .openCursor rows outside
  | setLockTimeout {millis : Int} {rows : List Row} :
    Step outside (.execute (.setLockTimeout millis)) rows outside
  | setStatementTimeout {millis : Int} {rows : List Row} :
    Step outside (.execute (.setStatementTimeout millis)) rows outside
  | lock {rows : List Row} : Step outside (.execute .lockMessages) rows locked
  | selectBlog {blogId : Bytes} {rows : List Row} :
    Step locked (.execute (.selectBlog blogId)) rows locked
  | fetchBlog {rows : List Row} : Step locked .fetch rows locked
  | selectLatest {rows : List Row} : Step locked (.execute .selectLatestArrival) rows asked
  | fetchLatest {latest : Int} : Step asked .fetch [[.int latest]] (informed latest)
  | insert {latest time : Int} {post : Post} {isLocal : Bool} {rows : List Row} (hle : latest ≤ time) :
    Step (informed latest) (.execute (.insertMessage post (.whole time) isLocal)) rows
      (inserted ⟨post, time, isLocal⟩)
  | commit {stored : Stored} {rows : List Row} : Step (inserted stored) .commit rows (published stored)
  | rollback {phase : Phase} {rows : List Row} : Step phase .rollback rows outside
  | closeCursor {phase : Phase} {rows : List Row} : Step phase .closeCursor rows phase
  | close {phase : Phase} {rows : List Row} : Step phase .close rows phase.closed

end Phase

/-- The other side of a call that keeps to the phases. After a failure nothing is said of the phase. -/
def writer : Partner Phase where
  admits phase request := ∃ rows next, phase.Step request rows next
  answers phase request reply next :=
    match reply with
    | .done rows => phase.Step request rows next
    | .failed _ => True

namespace Dialogue

variable {α β : Type}

/-- A goal that is met wherever there is a fault. -/
def Lenient (goal : Except Fault α → Phase → Prop) : Prop := ∀ fault phase, goal (.error fault) phase

theorem Lenient.before {goal : Except Fault β → Phase → Prop} (h : Lenient goal)
    (next : α → Dialogue β) : Lenient (before writer next goal) := h

section

variable {phase : Phase} {request : Request}

theorem meets_writer_request {goal : Except Fault (List Row) → Phase → Prop} (hlenient : Lenient goal)
    (hadmits : ∃ rows next, phase.Step request rows next)
    (hdone : ∀ rows next, phase.Step request rows next → goal (.ok rows) next) :
    (Dialogue.request request).Meets writer goal phase := by
  rw [meets_request]
  refine ⟨hadmits, ?_⟩
  rintro (rows | refusal) next hreply
  · exact hdone rows next hreply
  · exact hlenient _ next

/-- A request whose rows do not matter, and then the rest. -/
theorem meets_writer_then {goal : Except Fault α → Phase → Prop} {rest : Dialogue α}
    (hlenient : Lenient goal) (hadmits : ∃ rows next, phase.Step request rows next)
    (hdone : ∀ rows next, phase.Step request rows next → rest.Meets writer goal next) :
    (discard (Dialogue.request request) >>= fun _ => rest).Meets writer goal phase := by
  rw [meets_bind, meets_discard]
  exact meets_writer_request (fun _ _ => hlenient _ _) hadmits hdone

theorem meets_writer_release {goal : Except Fault α → Phase → Prop} {result : Except Fault α}
    (hlenient : Lenient goal) (h : goal result phase.closed) :
    (release result).Meets writer goal phase := by
  rw [release, meets_andThen, meets_request]
  refine ⟨⟨[], _, .closeCursor⟩, ?_⟩
  intro cursor next hcursor
  rw [meets_andThen, meets_request]
  refine ⟨⟨[], _, .close⟩, ?_⟩
  intro connection last hconnection
  cases connection with
  | failed => exact hlenient _ last
  | done =>
    cases cursor with
    | failed => exact hlenient _ last
    | done =>
      -- neither failed, so both led on from the phase before
      cases hcursor
      cases hconnection
      exact h

theorem meets_writer_settle {goal : Except Fault α → Phase → Prop} (hlenient : Lenient goal)
    (fault : Fault) :
    (settle (.error fault)).Meets writer (fun result next => (release result).Meets writer goal next)
      phase := by
  rw [settle, meets_andThen, meets_request]
  refine ⟨⟨[], _, .rollback⟩, ?_⟩
  rintro (rows | refusal) next -
  · exact meets_writer_release hlenient (hlenient _ _)
  · exact meets_writer_release hlenient (hlenient _ _)

/-- What has to hold where the work of a transaction ends. -/
def Committable (goal : Except Fault α → Phase → Prop) (told : Except Fault α) (next : Phase) : Prop :=
  ∀ a, told = .ok a → ∃ stored, next = .inserted stored ∧ goal (.ok a) (.published stored)

theorem lenient_committable (goal : Except Fault α → Phase → Prop) : Lenient (Committable goal) := by
  rintro fault phase a hok
  cases hok

theorem meets_writer_transaction {goal : Except Fault α → Phase → Prop} {work : Dialogue α}
    (hlenient : Lenient goal) (h : work.Meets writer (Committable goal) .outside) :
    (transaction work).Meets writer goal phase := by
  refine meets_writer_then hlenient ⟨[], _, .connect⟩ ?_
  rintro rows next hconnect
  cases hconnect
  refine meets_writer_then hlenient ⟨[], _, .openCursor⟩ ?_
  rintro rows next hcursor
  cases hcursor
  rw [meets_andThen, meets_andThen, meets_bind]
  refine h.mono ?_
  rintro (fault | a) next hgoal
  · exact meets_writer_settle hlenient fault
  · obtain ⟨stored, rfl, hpublished⟩ := hgoal a rfl
    change Meets _ _ (_ >>= _) _
    rw [meets_bind, meets_discard, meets_request]
    refine ⟨⟨[], _, .commit⟩, ?_⟩
    rintro (rows | refusal) last hcommit
    · cases hcommit
      exact meets_writer_release hlenient hpublished
    · exact meets_writer_settle hlenient _

theorem meets_writer_writing {goal : Except Fault α → Phase → Prop} {work : Dialogue α}
    (hlenient : Lenient goal) (h : work.Meets writer (Committable goal) .outside) (pg : PostStore) :
    (pg.writing work).Meets writer goal phase := by
  apply meets_writer_transaction hlenient
  refine meets_writer_then (lenient_committable goal) ⟨[], _, .setLockTimeout⟩ ?_
  rintro rows next hset
  cases hset
  refine meets_writer_then (lenient_committable goal) ⟨[], _, .setStatementTimeout⟩ ?_
  rintro rows next hset
  cases hset
  exact h

end

end Dialogue

/-! ## A call -/

namespace PostStore

open Dialogue

variable {clock : Int} {post : Post} {isLocal : Bool} {phase : Phase}

theorem meets_writer_requireBlog {goal : Except Fault Unit → Phase → Prop} (hlenient : Lenient goal)
    (h : goal (.ok ()) .locked) (blogId : Bytes) :
    (requireBlog blogId).Meets writer goal .locked := by
  rw [requireBlog, meets_bind, query]
  refine meets_writer_then (hlenient.before _) ⟨[], _, .selectBlog⟩ ?_
  rintro rows next hselect
  cases hselect
  refine meets_writer_request (hlenient.before _) ⟨[], _, .fetchBlog⟩ ?_
  rintro rows next hfetch
  cases hfetch
  change Meets writer goal (if rows.isEmpty then _ else _) _
  cases rows.isEmpty
  · exact h
  · exact hlenient _ _

theorem meets_writer_latestArrival {goal : Except Fault Value → Phase → Prop} (hlenient : Lenient goal)
    (h : ∀ latest, goal (.ok (.int latest)) (.informed latest)) :
    latestArrival.Meets writer goal .locked := by
  rw [latestArrival, meets_bind, query]
  refine meets_writer_then (hlenient.before _) ⟨[], _, .selectLatest⟩ ?_
  rintro rows next hselect
  cases hselect
  refine meets_writer_request (hlenient.before _) ⟨[[.int 0]], _, .fetchLatest⟩ ?_
  rintro rows next hfetch
  cases hfetch
  exact h _

/-- The row is written under the lock, with a time that is not before any that was told. -/
theorem meets_writer_insertMessage {goal : Except Fault Stamp → Phase → Prop}
    (h : ∀ time, goal (.ok (.whole time)) (.published ⟨post, time, isLocal⟩)) :
    (insertMessage clock post isLocal).Meets writer (Committable goal) .outside := by
  have hlenient := lenient_committable goal
  refine meets_writer_then hlenient ⟨[], _, .lock⟩ ?_
  rintro rows next hlock
  cases hlock
  rw [meets_bind]
  apply meets_writer_requireBlog (hlenient.before _)
  change Meets _ _ (_ >>= _) _
  rw [meets_bind]
  apply meets_writer_latestArrival (hlenient.before _)
  intro latest
  change Meets _ _ (ofExcept (Stamp.later clock (.int latest)) >>= _) _
  rw [Stamp.later_int]
  refine meets_writer_then hlenient ⟨[], _, .insert (Int.le_max_right clock latest)⟩ ?_
  rintro rows next hinsert
  cases hinsert
  rintro stamp ⟨⟩
  exact ⟨_, rfl, h _⟩

/-- Where a call ends well, its message is published with the time that is told. -/
theorem addMessage_meets_writer (pg : PostStore) (clock : Int) (post : Post) (isLocal : Bool)
    (phase : Phase) :
    (pg.addMessage clock post isLocal).Meets writer (fun told next => ∀ header, told = .ok header →
      ∃ time, next = .published ⟨post, time, isLocal⟩ ∧ header = post.header time) phase := by
  rw [addMessage, meets_andThen]
  apply meets_writer_writing
  · rintro fault next header hok
    cases hok
  · apply meets_writer_insertMessage
    rintro time header hok
    cases hok
    exact ⟨time, rfl, rfl⟩

end PostStore

end SignedBlog.Database
