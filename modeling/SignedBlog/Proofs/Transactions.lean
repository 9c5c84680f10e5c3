import SignedBlog.Proofs.Conversation
import SignedBlog.Proofs.Server

/-!
Transactions with a server that serves nobody else.

A transaction begins on a connection of its own, so whatever the session was before does not matter. Its
work ends well or in a fault; either way it is settled, and the session is left with nothing:
`Dialogue.meets_transaction`.
-/

namespace SignedBlog.Database

set_option autoImplicit false

/-- A server that serves one client, and nobody else. -/
def serving : Partner (Server Unit) where
  admits _ _ := True
  answers server request reply next := Served () server request reply next

namespace Dialogue

variable {α : Type} {server : Server Unit}

/-- What has to hold where the work of a transaction ends. -/
def ended (goal : Except Fault α → Server Unit → Prop) :
    Except Fault α → Server Unit → Prop
  | .ok a, s => (s.session ()).status = .active ∧ goal (.ok a) ((s.publish ()).discard ())
  | .error fault, s =>
    (s.session ()).status ≠ .lost ∧ goal (.error fault) ((s.discard ()).discard ())

theorem meets_release {goal : Except Fault α → Server Unit → Prop} {result : Except Fault α}
    (h : goal result (server.discard ())) : (release result).Meets serving goal server := by
  rw [release, meets_andThen, meets_request]
  refine ⟨trivial, ?_⟩
  rintro reply s hreply
  cases hreply
  rw [meets_andThen, meets_request]
  refine ⟨trivial, ?_⟩
  rintro reply s hreply
  cases hreply
  exact h

theorem meets_transaction {work : Dialogue α} {goal : Except Fault α → Server Unit → Prop}
    (h : work.Meets serving (ended goal) (server.discard ())) :
    (transaction work).Meets serving goal server := by
  rw [transaction, meets_bind, meets_discard, meets_request]
  refine ⟨trivial, ?_⟩
  rintro reply s hreply
  cases hreply
  change Meets _ _ (_ >>= _) _
  rw [meets_bind, meets_discard, meets_request]
  refine ⟨trivial, ?_⟩
  rintro reply s hreply
  cases hreply
  change Meets _ _ (andThen _ _) _
  rw [meets_andThen, meets_andThen, meets_bind]
  refine h.mono ?_
  rintro (fault | a) s hgoal
  · change (settle _).Meets _ _ _
    rw [settle, meets_andThen, meets_request]
    refine ⟨trivial, ?_⟩
    rintro reply s' hreply
    cases hreply with
    | rollback => exact meets_release hgoal.2
    | rollbackLost hlost => exact absurd hlost hgoal.1
  · change Meets _ _ (_ >>= _) _
    rw [meets_bind, meets_discard, meets_request]
    refine ⟨trivial, ?_⟩
    rintro reply s' hreply
    cases hreply with
    | commit => exact meets_release hgoal.2
    | commitFailed hfailed => exact absurd (hgoal.1.symm.trans hfailed) (by simp)
    | commitLost hlost => exact absurd (hgoal.1.symm.trans hlost) (by simp)

theorem meets_execute_of_carried {statement : Statement} {goal : Except Fault Unit → Server Unit → Prop}
    (hactive : (server.session ()).status = .active)
    (h : ∀ reply next, Carried () server statement.command statement.parameters reply next →
      goal (reply.outcome.map fun _ => ()) next) : (execute statement).Meets serving goal server := by
  rw [meets_execute]
  refine ⟨trivial, ?_⟩
  intro reply next hreply
  cases hreply with
  | execute _ hcarried => exact h reply next hcarried
  | refuse hended => exact absurd hactive hended

/-- A search is told from what is found. -/
theorem meets_query {statement : Statement} {search : Search}
    (hcommand : statement.command = .select search) {goal : Except Fault (List Row) → Server Unit → Prop}
    (hactive : (server.session ()).status = .active) (hthere : server.sees () = true)
    (h : ∀ found, search.Finds statement.parameters (server.visible () search.table) found →
      goal (.ok (search.selection.rows (found.map Tuple.cells)))
        (server.answer () (search.selection.rows (found.map Tuple.cells)))) :
    (query statement).Meets serving goal server := by
  rw [query, meets_bind]
  apply meets_execute_of_carried hactive
  rw [hcommand]
  intro reply next hcarried
  obtain ⟨rows, found, hfinds, rfl, rfl⟩ := hcarried.of_select hthere
  change (Dialogue.request .fetch).Meets serving goal _
  rw [meets_request]
  refine ⟨trivial, ?_⟩
  intro reply next hreply
  cases hreply
  rw [server.rows_answer]
  exact h found hfinds

theorem meets_set {statement : Statement} {timeout : Text} {millis : Int}
    (hcommand : statement.command = .set timeout millis) {goal : Except Fault Unit → Server Unit → Prop}
    (hactive : (server.session ()).status = .active) (h : goal (.ok ()) server) :
    (execute statement).Meets serving goal server := by
  apply meets_execute_of_carried hactive
  rw [hcommand]
  intro reply next hcarried
  cases hcarried with
  | set => exact h
  | absent _ _ htimeout => exact absurd rfl (htimeout timeout millis)

theorem meets_writing {store : PostStore} {work : Dialogue α} {goal : Except Fault α → Server Unit → Prop}
    (h : work.Meets serving (ended goal) (server.discard ())) :
    (store.writing work).Meets serving goal server := by
  have hactive : ((server.discard ()).session ()).status = .active := by
    rw [Server.discard, Server.session_setSession]
    rfl
  apply meets_transaction
  rw [meets_bind]
  apply meets_set rfl hactive
  change (execute _ >>= fun _ => work).Meets _ _ _
  rw [meets_bind]
  exact meets_set rfl hactive h

end Dialogue

end SignedBlog.Database
