import SignedBlog.Proofs.Conversation

/-!
Dialogues with a peer of whom nothing is known.

What is asked and what comes back is a list of exchanges, and a partner that only keeps them stands for
every peer: `Dialogue.meets_exchanges`. The work of a transaction asks for statements and rows only, and for
nothing more after a failure: `Dialogue.Orderly`.
-/

namespace SignedBlog.Database

set_option autoImplicit false

/-! ## Exchanges -/

structure Exchange where
  request : Request
  reply : Reply

namespace Exchange

def failed : Exchange → Bool
  | ⟨_, .failed _⟩ => true
  | ⟨_, .done _⟩ => false

/-- What is asked on behalf of the work of a transaction. -/
def isWork : Exchange → Bool
  | ⟨.execute _, _⟩ | ⟨.fetch, _⟩ => true
  | _ => false

/-- Whether a request was granted. -/
def grants (request : Request) (exchange : Exchange) : Bool :=
  exchange.request == request && !exchange.failed

end Exchange

/-- Work in which nothing fails. -/
def Smooth (work : List Exchange) : Prop :=
  ∀ exchange ∈ work, exchange.isWork = true ∧ exchange.failed = false

theorem smooth_nil : Smooth [] := by
  intro exchange hexchange
  cases hexchange

theorem Smooth.append {first second : List Exchange} (h : Smooth first) (hsecond : Smooth second) :
    Smooth (first ++ second) :=
  List.forall_mem_append.mpr ⟨h, hsecond⟩

namespace Dialogue

variable {α β σ : Type}

/-- What is asked of a peer and what comes back, in order. -/
def exchanges (peer : σ → Request → Reply × σ) : σ → Dialogue α → List Exchange
  | _, .finish _ => []
  | s, .ask request next =>
    ⟨request, (peer s request).1⟩ :: exchanges peer (peer s request).2 (next (peer s request).1)

theorem exchanges_request (peer : σ → Request → Reply × σ) (s : σ) (dialogue : Dialogue α) :
    (exchanges peer s dialogue).map Exchange.request = (run peer s dialogue).2.1 := by
  induction dialogue generalizing s with
  | finish result => rfl
  | ask request next ih => exact congrArg (request :: ·) (ih _ _)

/-- A peer that keeps what was asked of it. -/
def keeping (peer : σ → Request → Reply × σ) (s : σ × List Exchange) (request : Request) :
    Reply × σ × List Exchange :=
  ((peer s.1 request).1, (peer s.1 request).2, s.2 ++ [⟨request, (peer s.1 request).1⟩])

theorem run_keeping (peer : σ → Request → Reply × σ) (s : σ) (kept : List Exchange)
    (dialogue : Dialogue α) :
    (run (keeping peer) (s, kept) dialogue).1 = (run peer s dialogue).1 ∧
      (run (keeping peer) (s, kept) dialogue).2.2.2 = kept ++ exchanges peer s dialogue := by
  -- what was kept before stays in front
  induction dialogue generalizing s kept with
  | finish result => exact ⟨rfl, (List.append_nil kept).symm⟩
  | ask request next ih =>
    obtain ⟨hresult, hkept⟩ := ih (peer s request).1 (peer s request).2
      (kept ++ [⟨request, (peer s request).1⟩])
    refine ⟨hresult, hkept.trans ?_⟩
    rw [List.append_assoc]
    rfl

/-- A partner of whom nothing is known, whose state is what was asked of it. -/
def noting : Partner (List Exchange) where
  admits _ _ := True
  answers kept request reply next := next = kept ++ [⟨request, reply⟩]

/-- What holds with the partner that only keeps the exchanges holds of every peer. -/
theorem meets_exchanges {goal : Except Fault α → List Exchange → Prop} {dialogue : Dialogue α}
    (h : dialogue.Meets noting goal []) (peer : σ → Request → Reply × σ) (s : σ) :
    goal (run peer s dialogue).1 (exchanges peer s dialogue) := by
  obtain ⟨hresult, hkept⟩ := run_keeping peer s [] dialogue
  have hkeeping : ∀ (t : σ × List Exchange) request, noting.admits t.2 request →
      noting.answers t.2 request (keeping peer t request).1 (keeping peer t request).2.2 :=
    fun _ _ _ => rfl
  have hgoal := Meets.run (t := (s, [])) hkeeping h
  rw [hresult, hkept] at hgoal
  exact hgoal

theorem meets_noting_request {request : Request} {kept : List Exchange}
    {goal : Except Fault (List Row) → List Exchange → Prop}
    (h : ∀ reply, goal reply.outcome (kept ++ [⟨request, reply⟩])) :
    (Dialogue.request request).Meets noting goal kept := by
  rw [meets_request]
  refine ⟨trivial, ?_⟩
  rintro reply - rfl
  exact h reply

/-! ## Work -/

/-- The exchanges of some work and what it ends in: after a failure there is nothing, and the end is a
fault. -/
inductive Steady : List Exchange → Except Fault α → Prop where
  | smooth {work : List Exchange} {result : Except Fault α} (h : Smooth work) : Steady work result
  | stopped {work : List Exchange} {last : Exchange} {fault : Fault} (h : Smooth work)
    (hwork : last.isWork = true) (hfailed : last.failed = true) : Steady (work ++ [last]) (.error fault)

/-- Work that goes on as long as nothing fails, whatever came before it. -/
def Orderly (work : Dialogue α) : Prop :=
  ∀ kept, work.Meets noting (fun result after => ∃ more, after = kept ++ more ∧ Steady more result) kept

theorem Steady.ok {work : List Exchange} {a : α} (h : Steady work (.ok a)) : Smooth work := by
  cases h with
  | smooth h => exact h

theorem Steady.cast {work : List Exchange} {fault : Fault}
    (h : Steady work (.error fault : Except Fault α)) : Steady work (.error fault : Except Fault β) := by
  cases h with
  | smooth h => exact .smooth h
  | stopped h hwork hfailed => exact .stopped h hwork hfailed

theorem Steady.append {first second : List Exchange} {result : Except Fault α} (h : Smooth first)
    (hsecond : Steady second result) : Steady (first ++ second) result := by
  cases hsecond with
  | smooth hmore => exact .smooth (h.append hmore)
  | stopped hmore hwork hfailed =>
    rw [← List.append_assoc]
    exact .stopped (h.append hmore) hwork hfailed

theorem orderly_finish (result : Except Fault α) : Orderly (.finish result) := by
  intro kept
  exact ⟨[], (List.append_nil kept).symm, .smooth smooth_nil⟩

theorem orderly_bind {work : Dialogue α} {next : α → Dialogue β} (hwork : Orderly work)
    (hnext : ∀ a, Orderly (next a)) : Orderly (work >>= next) := by
  intro kept
  rw [meets_bind]
  refine (hwork kept).mono ?_
  rintro (fault | a) after ⟨more, rfl, hsteady⟩
  -- nothing follows a fault, and a value comes only of work in which nothing failed
  · exact ⟨more, rfl, hsteady.cast⟩
  · refine (hnext a (kept ++ more)).mono ?_
    rintro result after ⟨rest, rfl, hrest⟩
    exact ⟨more ++ rest, List.append_assoc _ _ _, hrest.append hsteady.ok⟩

theorem orderly_request {request : Request} (hwork : ∀ reply, Exchange.isWork ⟨request, reply⟩ = true) :
    Orderly (Dialogue.request request) := by
  intro kept
  apply meets_noting_request
  rintro (rows | refusal)
  · exact ⟨_, rfl, .smooth (by simp [Smooth, hwork, Exchange.failed])⟩
  · exact ⟨_, rfl, .stopped smooth_nil (hwork _) rfl⟩

theorem orderly_execute (statement : Statement) : Orderly (execute statement) :=
  orderly_bind (orderly_request fun _ => rfl) fun _ => orderly_finish _

theorem orderly_query (statement : Statement) : Orderly (query statement) :=
  orderly_bind (orderly_execute statement) fun _ => orderly_request fun _ => rfl

end Dialogue

end SignedBlog.Database
