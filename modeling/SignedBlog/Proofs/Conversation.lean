import SignedBlog.Database.PostStore

/-!
Dialogues with a partner of whom something is known.

A `Partner` has states, and in each of them there is something it may be asked and something it may
answer. A dialogue `Meets` a goal with such a partner if it asks only what it may, whatever the answers
are, and ends as the goal says. A dialogue is taken apart request by request, and what is proved of all
partners of a kind holds of a peer that answers as one of them: `Dialogue.Meets.run`.
-/

namespace SignedBlog.Database

set_option autoImplicit false

/-- The other side of a dialogue, by what it may be asked and may answer in each of its states. -/
structure Partner (σ : Type) where
  admits : σ → Request → Prop
  answers : σ → Request → Reply → σ → Prop

/-- What a request comes to. -/
def Reply.outcome : Reply → Except Fault (List Row)
  | .done rows => .ok rows
  | .failed refusal => .error (.database refusal)

namespace Dialogue

variable {α β σ τ : Type} {partner : Partner σ} {goal : Except Fault α → σ → Prop} {s : σ}

/-- With any such partner a dialogue asks only what it may, and ends in a result and a state as
wanted. -/
def Meets (partner : Partner σ) (goal : Except Fault α → σ → Prop) : Dialogue α → σ → Prop
  | .finish result, s => goal result s
  | .ask request next, s =>
    partner.admits s request ∧
      ∀ reply s', partner.answers s request reply s' → Meets partner goal (next reply) s'

/-- The goal that is left where a dialogue goes on with a value and ends at a fault. -/
def before (partner : Partner σ) (next : α → Dialogue β) (goal : Except Fault β → σ → Prop) :
    Except Fault α → σ → Prop
  | .ok a, s => (next a).Meets partner goal s
  | .error fault, s => goal (.error fault) s

/-! ## Taking a dialogue apart -/

theorem Meets.mono {other : Except Fault α → σ → Prop} {dialogue : Dialogue α}
    (h : dialogue.Meets partner goal s) (hgoal : ∀ result s', goal result s' → other result s') :
    dialogue.Meets partner other s := by
  induction dialogue generalizing s with
  | finish result => exact hgoal result s h
  | ask request next ih =>
    refine ⟨h.1, ?_⟩
    intro reply s' hreply
    exact ih reply (h.2 reply s' hreply)

theorem meets_andThen {goal : Except Fault β → σ → Prop} {dialogue : Dialogue α}
    {next : Except Fault α → Dialogue β} :
    (dialogue.andThen next).Meets partner goal s ↔
      dialogue.Meets partner (fun result s' => (next result).Meets partner goal s') s := by
  induction dialogue generalizing s with
  | finish result => rfl
  | ask request resume ih =>
    refine and_congr_right fun _ => ?_
    exact forall_congr' fun reply => forall_congr' fun s' => imp_congr_right fun _ => ih reply

theorem meets_bind {goal : Except Fault β → σ → Prop} {dialogue : Dialogue α}
    {next : α → Dialogue β} :
    (dialogue >>= next).Meets partner goal s ↔
      dialogue.Meets partner (before partner next goal) s := by
  change (dialogue.andThen _).Meets partner goal s ↔ _
  rw [meets_andThen]
  refine iff_of_eq (congrArg (fun goal => dialogue.Meets partner goal s) ?_)
  funext result s'
  cases result <;> rfl

theorem meets_request {request : Request} {goal : Except Fault (List Row) → σ → Prop} :
    (Dialogue.request request).Meets partner goal s ↔ partner.admits s request ∧
      ∀ reply s', partner.answers s request reply s' → goal reply.outcome s' := by
  refine and_congr_right fun _ => ?_
  refine forall_congr' fun reply => forall_congr' fun s' => imp_congr_right fun _ => ?_
  cases reply <;> rfl

theorem meets_discard {goal : Except Fault Unit → σ → Prop} {dialogue : Dialogue α} :
    (discard dialogue).Meets partner goal s ↔
      dialogue.Meets partner (fun result => goal (result.map fun _ => ())) s := by
  change (dialogue >>= fun _ => pure ()).Meets partner goal s ↔ _
  rw [meets_bind]
  refine iff_of_eq (congrArg (fun goal => dialogue.Meets partner goal s) ?_)
  funext result s'
  cases result <;> rfl

theorem meets_execute {statement : Statement} {goal : Except Fault Unit → σ → Prop} :
    (execute statement).Meets partner goal s ↔ partner.admits s (.execute statement) ∧
      ∀ reply s', partner.answers s (.execute statement) reply s' →
        goal (reply.outcome.map fun _ => ()) s' := by
  rw [execute, meets_discard, meets_request]

/-! ## Peers -/

/-- What is proved of every partner of a kind holds of a peer that answers as one of them. -/
theorem Meets.run {peer : τ → Request → Reply × τ} {view : τ → σ}
    (hpeer : ∀ t request, partner.admits (view t) request →
      partner.answers (view t) request (peer t request).1 (view (peer t request).2))
    {dialogue : Dialogue α} {t : τ} (h : dialogue.Meets partner goal (view t)) :
    goal (run peer t dialogue).1 (view (run peer t dialogue).2.2) := by
  induction dialogue generalizing t with
  | finish result => exact h
  | ask request next ih => exact ih _ (h.2 _ _ (hpeer t request h.1))

end Dialogue

end SignedBlog.Database
