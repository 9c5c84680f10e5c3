import SignedBlog.Proofs.Agreement
import SignedBlog.Proofs.Exchanges

/-!
What an operation of a store does with its connection, whatever the connection does.

Every request may fail, those for a rollback and for closing too. Whatever fails, a transaction of orderly
work is committed or rolled back, and closed if there was a cursor: `Dialogue.meets_noting_transaction`.
Every call on a store is one transaction: `PostStore.disciplined_call`.
-/

namespace SignedBlog.Database

set_option autoImplicit false

/-! ## Transactions -/

/-- Work is asked for neither after a failure nor after a commit or a rollback. -/
def Exchange.MayPrecede (earlier later : Exchange) : Prop :=
  earlier.failed = true ∨ earlier.request = .commit ∨ earlier.request = .rollback → later.isWork = false

/-- What a transaction has done with its connection when it ends. -/
structure Disciplined {α : Type} (exchanges : List Exchange) (result : Except Fault α) : Prop where
  /-- A value is told only after a single commit, which succeeded. -/
  committed : ∀ a, result = .ok a → exchanges.countP (·.request == .commit) = 1 ∧
    exchanges.countP (·.grants .commit) = 1
  /-- Where there was a cursor and no commit succeeded, there was a single rollback, and the end is a
  fault. -/
  rolledBack : exchanges.countP (·.grants .openCursor) = 1 → exchanges.countP (·.grants .commit) = 0 →
    exchanges.countP (·.request == .rollback) = 1 ∧ ∃ fault, result = .error fault
  ordered : exchanges.Pairwise Exchange.MayPrecede
  /-- No failure is passed over. -/
  reported : (∃ exchange ∈ exchanges, exchange.failed = true) → ∃ fault, result = .error fault
  opened : exchanges.countP (·.request == .connect) = 1 ∧ exchanges.countP (·.request == .openCursor) ≤ 1
  /-- The connection is closed if there was a cursor. -/
  closed : exchanges.countP (·.request == .close) = exchanges.countP (·.grants .openCursor)

section

variable {α : Type}

theorem disciplined_noConnection (refusal : Refusal) :
    Disciplined [⟨.connect, .failed refusal⟩] (.error (.database refusal) : Except Fault α) where
  committed := by simp
  rolledBack := by simp [Exchange.grants]
  ordered := by simp
  reported := by simp
  opened := ⟨rfl, by simp⟩
  closed := rfl

theorem disciplined_noCursor (rows : List Row) (refusal : Refusal) :
    Disciplined [⟨.connect, .done rows⟩, ⟨.openCursor, .failed refusal⟩]
      (.error (.database refusal) : Except Fault α) where
  committed := by simp
  rolledBack := by simp [Exchange.grants, Exchange.failed]
  ordered := by simp [Exchange.MayPrecede, Exchange.isWork]
  reported := by simp
  opened := ⟨rfl, by simp⟩
  closed := rfl

/-- What comes between the cursor and the end of a transaction: work, and a commit only if it failed. -/
structure Halted (work : List Exchange) : Prop where
  kinds : ∀ exchange ∈ work,
    exchange.isWork = true ∨ exchange.request = .commit ∧ exchange.failed = true
  ordered : work.Pairwise Exchange.MayPrecede

theorem Exchange.mayPrecede_of_isWork {earlier : Exchange} (hwork : earlier.isWork = true)
    (hfine : earlier.failed = false) (later : Exchange) : earlier.MayPrecede later := by
  obtain ⟨request, reply⟩ := earlier
  rintro (hfailed | rfl | rfl)
  · exact absurd (hfailed.symm.trans hfine) (by simp)
  · cases hwork
  · cases hwork

theorem halted_of_smooth {work : List Exchange} (h : Smooth work) : Halted work where
  kinds := fun exchange hexchange => .inl (h exchange hexchange).1
  ordered := List.pairwise_of_forall_mem_list fun earlier hearlier later _ =>
    Exchange.mayPrecede_of_isWork (h earlier hearlier).1 (h earlier hearlier).2 later

theorem halted_concat {work : List Exchange} {last : Exchange} (h : Smooth work)
    (hlast : last.isWork = true ∨ last.request = .commit ∧ last.failed = true) :
    Halted (work ++ [last]) where
  kinds := by
    rw [List.forall_mem_append, List.forall_mem_singleton]
    exact ⟨(halted_of_smooth h).kinds, hlast⟩
  ordered := by
    rw [List.pairwise_append]
    refine ⟨(halted_of_smooth h).ordered, List.pairwise_singleton _ _, ?_⟩
    intro earlier hearlier later _
    exact Exchange.mayPrecede_of_isWork (h earlier hearlier).1 (h earlier hearlier).2 later

theorem halted_of_steady {work : List Exchange} {result : Except Fault α}
    (h : Dialogue.Steady work result) : Halted work := by
  cases h with
  | smooth h => exact halted_of_smooth h
  | stopped h hwork _ => exact halted_concat h (.inl hwork)

section Halted

variable {work : List Exchange} (h : Halted work)

include h

theorem Halted.countP_grants (request : Request)
    (hother : ∀ reply, Exchange.isWork ⟨request, reply⟩ = false) : work.countP (·.grants request) = 0 := by
  rw [List.countP_eq_zero]
  rintro ⟨asked, reply⟩ hexchange hgrants
  simp only [Exchange.grants, Bool.and_eq_true, beq_iff_eq, Bool.not_eq_true'] at hgrants
  obtain ⟨rfl, hfine⟩ := hgrants
  obtain hwork | ⟨-, hfailed⟩ := h.kinds _ hexchange
  · exact absurd (hwork.symm.trans (hother reply)) (by simp)
  · exact absurd (hfailed.symm.trans hfine) (by simp)

theorem Halted.countP_request (request : Request)
    (hother : ∀ reply, Exchange.isWork ⟨request, reply⟩ = false) (hcommit : request ≠ .commit) :
    work.countP (·.request == request) = 0 := by
  rw [List.countP_eq_zero]
  rintro ⟨asked, reply⟩ hexchange hasked
  rw [beq_iff_eq] at hasked
  subst hasked
  obtain hwork | ⟨hkind, -⟩ := h.kinds _ hexchange
  · exact absurd (hwork.symm.trans (hother reply)) (by simp)
  · exact hcommit hkind

/-- Work comes first, whatever the requests at the end come to. -/
theorem Halted.ordered_session {rows rows' : List Row} {last : List Exchange}
    (hlast : ∀ exchange ∈ last, exchange.isWork = false) :
    (⟨.connect, .done rows⟩ :: ⟨.openCursor, .done rows'⟩ :: (work ++ last)).Pairwise
      Exchange.MayPrecede := by
  have hopening : ∀ later, Exchange.MayPrecede ⟨.connect, .done rows⟩ later ∧
      Exchange.MayPrecede ⟨.openCursor, .done rows'⟩ later := by
    simp [Exchange.MayPrecede, Exchange.failed]
  rw [List.pairwise_cons, List.pairwise_cons, List.pairwise_append]
  refine ⟨fun later _ => (hopening later).1, fun later _ => (hopening later).2, h.ordered, ?_, ?_⟩
  · exact List.pairwise_of_forall_mem_list fun _ _ later hlater _ => hlast later hlater
  · exact fun _ _ later hlater _ => hlast later hlater

section

variable {rows rows' : List Row} {settled : Request} {reply cursor connection : Reply}
  (hsettled : settled = .commit ∨ settled = .rollback)

include hsettled

theorem Halted.opened_session :
    let exchanges := ⟨.connect, .done rows⟩ :: ⟨.openCursor, .done rows'⟩ :: (work ++
      [⟨settled, reply⟩, ⟨.closeCursor, cursor⟩, ⟨.close, connection⟩])
    exchanges.countP (·.request == .connect) = 1 ∧
      exchanges.countP (·.request == .openCursor) ≤ 1 := by
  intro exchanges
  have hconnect := h.countP_request .connect (fun _ => rfl) (by simp)
  have hcursor := h.countP_request .openCursor (fun _ => rfl) (by simp)
  simp only [exchanges, List.countP_cons, List.countP_append, hconnect, hcursor]
  obtain rfl | rfl := hsettled <;> exact ⟨rfl, Nat.le_refl 1⟩

theorem Halted.closed_session :
    let exchanges := ⟨.connect, .done rows⟩ :: ⟨.openCursor, .done rows'⟩ :: (work ++
      [⟨settled, reply⟩, ⟨.closeCursor, cursor⟩, ⟨.close, connection⟩])
    exchanges.countP (·.request == .close) = exchanges.countP (·.grants .openCursor) := by
  intro exchanges
  have hclose := h.countP_request .close (fun _ => rfl) (by simp)
  have hcursor := h.countP_grants .openCursor fun _ => rfl
  simp only [exchanges, List.countP_cons, List.countP_append, hclose, hcursor]
  obtain rfl | rfl := hsettled <;> rfl

end

end Halted

theorem disciplined_rolledBack {work : List Exchange} (h : Halted work) (rows rows' : List Row)
    (rollback cursor connection : Reply) (fault : Fault) :
    Disciplined (⟨.connect, .done rows⟩ :: ⟨.openCursor, .done rows'⟩ :: (work ++
      [⟨.rollback, rollback⟩, ⟨.closeCursor, cursor⟩, ⟨.close, connection⟩]))
      (.error fault : Except Fault α) where
  committed := by simp
  rolledBack := by
    have hnone := h.countP_request .rollback (fun _ => rfl) (by simp)
    intro _ _
    refine ⟨?_, fault, rfl⟩
    simp only [List.countP_cons, List.countP_append, hnone]
    rfl
  ordered := h.ordered_session (by simp [Exchange.isWork])
  reported := fun _ => ⟨fault, rfl⟩
  opened := h.opened_session (.inr rfl)
  closed := h.closed_session (.inr rfl)

theorem disciplined_committed {work : List Exchange} (h : Smooth work) (rows rows' rows'' : List Row)
    (cursor connection : Reply) {result : Except Fault α}
    (hresult : (Exchange.failed ⟨.closeCursor, cursor⟩ = false ∧
      Exchange.failed ⟨.close, connection⟩ = false) ∨ ∃ fault, result = .error fault) :
    Disciplined (⟨.connect, .done rows⟩ :: ⟨.openCursor, .done rows'⟩ :: (work ++
      [⟨.commit, .done rows''⟩, ⟨.closeCursor, cursor⟩, ⟨.close, connection⟩])) result := by
  have hhalted := halted_of_smooth h
  have hgranted := hhalted.countP_grants .commit fun _ => rfl
  refine ⟨?committed, ?rolledBack, hhalted.ordered_session (by simp [Exchange.isWork]), ?reported,
    hhalted.opened_session (.inl rfl), hhalted.closed_session (.inl rfl)⟩
  case committed =>
    intro a _
    have hcommit : work.countP (·.request == .commit) = 0 := by
      rw [List.countP_eq_zero]
      rintro ⟨request, reply⟩ hexchange hrequest
      rw [beq_iff_eq] at hrequest
      subst hrequest
      cases (h _ hexchange).1
    simp only [List.countP_cons, List.countP_append, hcommit, hgranted]
    exact ⟨rfl, rfl⟩
  case rolledBack =>
    intro _ hnone
    simp only [List.countP_cons, List.countP_append, hgranted] at hnone
    cases hnone
  case reported =>
    rintro ⟨exchange, hexchange, hfailed⟩
    obtain ⟨hcursor, hconnection⟩ | hfault := hresult
    · exfalso
      simp only [List.mem_cons, List.mem_append, List.not_mem_nil, or_false] at hexchange
      obtain rfl | rfl | hwork | rfl | rfl | rfl := hexchange
      · cases hfailed
      · cases hfailed
      · exact absurd (hfailed.symm.trans (h exchange hwork).2) (by simp)
      · cases hfailed
      · exact absurd (hfailed.symm.trans hcursor) (by simp)
      · exact absurd (hfailed.symm.trans hconnection) (by simp)
    · exact hfault

namespace Dialogue

theorem meets_noting_release {goal : Except Fault α → List Exchange → Prop} {result : Except Fault α}
    {kept : List Exchange}
    (h : ∀ cursor connection result',
      (Exchange.failed ⟨.closeCursor, cursor⟩ = false ∧ Exchange.failed ⟨.close, connection⟩ = false ∧
        result' = result) ∨ (∃ fault, result' = .error fault) →
      goal result' (kept ++ [⟨.closeCursor, cursor⟩, ⟨.close, connection⟩])) :
    (release result).Meets noting goal kept := by
  rw [release, meets_andThen]
  apply meets_noting_request
  intro cursor
  rw [meets_andThen]
  apply meets_noting_request
  intro connection
  rw [List.append_assoc]
  apply h
  obtain rows | refusal := connection
  · obtain rows | refusal := cursor
    · exact .inl ⟨rfl, rfl, rfl⟩
    · exact .inr ⟨_, rfl⟩
  · exact .inr ⟨_, rfl⟩

/-- A transaction that went wrong is rolled back, whatever becomes of that, and ends in a fault. -/
theorem meets_noting_rollback {goal : Except Fault α → List Exchange → Prop} {fault : Fault}
    {kept : List Exchange}
    (h : ∀ rollback cursor connection fault', goal (.error fault')
      (kept ++ [⟨.rollback, rollback⟩, ⟨.closeCursor, cursor⟩, ⟨.close, connection⟩])) :
    (settle (.error fault : Except Fault α)).Meets noting
      (fun result after => (release result).Meets noting goal after) kept := by
  rw [settle, meets_andThen]
  apply meets_noting_request
  intro rollback
  have hrelease : ∀ other : Fault, (release (.error other)).Meets noting goal
      (kept ++ [⟨.rollback, rollback⟩]) := by
    intro other
    apply meets_noting_release
    rintro cursor connection result (⟨-, -, rfl⟩ | ⟨fault', rfl⟩)
    · rw [List.append_assoc]
      exact h rollback cursor connection other
    · rw [List.append_assoc]
      exact h rollback cursor connection fault'
  cases rollback with
  | done rows => exact hrelease fault
  | failed refusal => exact hrelease (.database refusal)

theorem meets_noting_transaction {work : Dialogue α} (h : Orderly work) :
    (transaction work).Meets noting (fun result exchanges => Disciplined exchanges result) [] := by
  rw [transaction, meets_bind, meets_discard]
  apply meets_noting_request
  rintro (rows | refusal)
  rotate_left
  · exact disciplined_noConnection refusal
  change Meets _ _ (_ >>= _) _
  rw [meets_bind, meets_discard]
  apply meets_noting_request
  rintro (rows' | refusal)
  rotate_left
  · exact disciplined_noCursor rows refusal
  change Meets _ _ (andThen _ _) _
  rw [meets_andThen, meets_andThen, meets_bind]
  -- the work ends in a fault, or in a value that is then committed or not
  refine (h _).mono ?_
  rintro (fault | a) after ⟨more, rfl, hsteady⟩
  · apply meets_noting_rollback
    intro rollback cursor connection fault'
    exact disciplined_rolledBack (halted_of_steady hsteady) rows rows' rollback cursor connection fault'
  · change Meets _ _ (_ >>= _) _
    rw [meets_bind, meets_discard]
    apply meets_noting_request
    rintro (rows'' | refusal)
    · apply meets_noting_release
      intro cursor connection result hresult
      rw [List.append_assoc]
      exact disciplined_committed hsteady.ok rows rows' rows'' cursor connection
        (hresult.imp_left fun hfine => ⟨hfine.1, hfine.2.1⟩)
    · apply meets_noting_rollback
      intro rollback cursor connection fault'
      exact disciplined_rolledBack (halted_concat hsteady.ok (.inr ⟨rfl, rfl⟩)) rows rows' rollback
        cursor connection fault'

end Dialogue

theorem Disciplined.map {β : Type} {exchanges : List Exchange} {result : Except Fault α}
    {result' : Except Fault β} (h : Disciplined exchanges result)
    (hfault : ∀ fault, result = .error fault → ∃ fault', result' = .error fault') :
    Disciplined exchanges result' where
  committed := by
    intro b hb
    cases result with
    | error fault =>
      obtain ⟨fault', hfault'⟩ := hfault fault rfl
      rw [hfault'] at hb
      cases hb
    | ok a => exact h.committed a rfl
  rolledBack := by
    intro hcursor hcommit
    obtain ⟨hrollback, fault, hresult⟩ := h.rolledBack hcursor hcommit
    exact ⟨hrollback, hfault fault hresult⟩
  ordered := h.ordered
  reported := by
    intro hfailed
    obtain ⟨fault, hresult⟩ := h.reported hfailed
    exact hfault fault hresult
  opened := h.opened
  closed := h.closed

end

/-! ## Calls on a store -/

namespace PostStore

open Dialogue

/-- A dialogue that is disciplined with every peer. -/
def IsDisciplined {α : Type} (dialogue : Dialogue α) : Prop :=
  dialogue.Meets noting (fun result exchanges => Disciplined exchanges result) []

/-- What a caller may ask of a store. -/
inductive Call where
  | ensureSchema
  | ping
  | perform (operation : Operation)

def call (store : PostStore) : Call → Dialogue Answer
  | .ensureSchema => do
    store.ensureSchema
    return .told .done
  | .ping => do return .told (.truth (← ping))
  | .perform operation => store.perform operation

section

variable {α β : Type}

theorem isDisciplined_transaction {work : Dialogue α} (h : Orderly work) :
    IsDisciplined (transaction work) :=
  meets_noting_transaction h

theorem isDisciplined_map {dialogue : Dialogue α} (h : IsDisciplined dialogue) (f : α → β) :
    IsDisciplined (do return f (← dialogue)) := by
  unfold IsDisciplined
  rw [meets_bind]
  refine h.mono ?_
  rintro (fault | a) exchanges hdisciplined
  · exact hdisciplined.map fun _ _ => ⟨fault, rfl⟩
  · exact hdisciplined.map fun _ herror => by cases herror

theorem isDisciplined_writing (store : PostStore) {work : Dialogue α} (h : Orderly work) :
    IsDisciplined (store.writing work) :=
  isDisciplined_transaction <| orderly_bind (orderly_execute _) fun _ =>
    orderly_bind (orderly_execute _) fun _ => h

/-- Work whose outcome is read in the end, as it is for all questions. -/
theorem isDisciplined_read {work : Dialogue α} (h : Orderly work) (read : α → Except Fault β) :
    IsDisciplined (transaction do ofExcept (read (← work))) :=
  isDisciplined_transaction <| orderly_bind h fun a => orderly_finish (read a)

end

theorem orderly_requireBlog (blogId : Bytes) : Orderly (requireBlog blogId) := by
  refine orderly_bind (orderly_query _) fun rows => ?_
  split <;> exact orderly_finish _

theorem orderly_messageRow (messageId : Bytes) (statement : Statement) :
    Orderly (messageRow messageId statement) := by
  refine orderly_bind (orderly_query _) fun rows => ?_
  cases rows <;> exact orderly_finish _

theorem orderly_insertMessage (clock : Int) (post : Post) (isLocal : Bool) :
    Orderly (insertMessage clock post isLocal) := by
  have hlatest : Orderly latestArrival :=
    orderly_bind (orderly_query _) fun _ => orderly_bind (orderly_finish _) fun _ => orderly_finish _
  exact orderly_bind (orderly_execute _) fun _ => orderly_bind (orderly_requireBlog _) fun _ =>
    orderly_bind hlatest fun _ => orderly_bind (orderly_finish _) fun _ =>
    orderly_bind (orderly_execute _) fun _ => orderly_finish _

theorem isDisciplined_addMessage (store : PostStore) (clock : Int) (post : Post) (isLocal : Bool) :
    IsDisciplined (store.addMessage clock post isLocal) := by
  unfold IsDisciplined addMessage
  rw [meets_andThen]
  refine (isDisciplined_writing store (orderly_insertMessage clock post isLocal)).mono ?_
  rintro (fault | stamp) exchanges hdisciplined
  · exact hdisciplined.map fun _ _ => ⟨_, rfl⟩
  · exact hdisciplined.map fun _ herror => by cases herror

theorem isDisciplined_count : IsDisciplined count :=
  isDisciplined_transaction <| orderly_bind (orderly_query _) fun _ =>
    orderly_bind (orderly_finish _) fun _ => orderly_finish _

theorem isDisciplined_headers (blogId : Bytes) : IsDisciplined (headers blogId) :=
  isDisciplined_transaction <| orderly_bind (orderly_requireBlog blogId) fun _ =>
    orderly_bind (orderly_query _) fun _ => orderly_finish _

theorem isDisciplined_ask (query : Store.Query) : IsDisciplined (ask query) := by
  cases query with
  | blogs => exact isDisciplined_map (isDisciplined_read (orderly_query _) _) _
  | containsBlog blogId => exact isDisciplined_map (isDisciplined_read (orderly_query _) _) _
  | headers blogId => exact isDisciplined_map (isDisciplined_headers blogId) _
  | header blogId messageId => exact isDisciplined_map (isDisciplined_read (orderly_messageRow _ _) _) _
  | message messageId => exact isDisciplined_map (isDisciplined_read (orderly_messageRow _ _) _) _
  | text messageId => exact isDisciplined_map (isDisciplined_read (orderly_messageRow _ _) _) _
  | messages => exact isDisciplined_map (isDisciplined_read (orderly_query _) _) _
  | count => exact isDisciplined_map isDisciplined_count _

theorem isDisciplined_call (store : PostStore) (call : Call) : IsDisciplined (store.call call) := by
  cases call with
  | ensureSchema => exact isDisciplined_map (isDisciplined_writing store (orderly_execute _)) _
  | ping =>
    have hdiscard : IsDisciplined (discard count) := isDisciplined_map isDisciplined_count fun _ => ()
    exact isDisciplined_map (isDisciplined_map hdiscard fun _ => true) _
  | perform operation =>
    cases operation with
    | addBlog blog => exact isDisciplined_map (isDisciplined_writing store (orderly_execute _)) _
    | addMessage clock post isLocal =>
      exact isDisciplined_map (isDisciplined_addMessage store clock post isLocal) _
    | query query => exact isDisciplined_ask query

/-- Every call on a store is disciplined in what it asks, whatever the connection grants and refuses. -/
theorem disciplined_call {σ : Type} (store : PostStore) (call : Call) (peer : σ → Request → Reply × σ)
    (s : σ) :
    (exchanges peer s (store.call call)).map Exchange.request = (run peer s (store.call call)).2.1 ∧
      Disciplined (exchanges peer s (store.call call)) (run peer s (store.call call)).1 :=
  ⟨exchanges_request peer s _, meets_exchanges (isDisciplined_call store call) peer s⟩

/-- A peer that grants everything but a cursor. -/
def withoutCursor (_ : Unit) (request : Request) : Reply × Unit :=
  (if request = .openCursor then .failed ⟨none, []⟩ else .done [], ())

/-- A connection is not closed if there is no cursor. -/
theorem not_every_connection_closed :
    ¬ ∀ (store : PostStore) (call : Call) (peer : Unit → Request → Reply × Unit),
      (exchanges peer () (store.call call)).countP (·.request == .close)
        = (exchanges peer () (store.call call)).countP (·.grants .connect) := by
  intro hclaim
  exact absurd (hclaim {} (.perform (.query .count)) withoutCursor) (by decide)

end PostStore

end SignedBlog.Database
