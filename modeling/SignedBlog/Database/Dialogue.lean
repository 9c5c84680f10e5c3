import SignedBlog.Database.Row
import SignedBlog.Database.Statement

/-!
Dialogues with a database: what is asked of a connection, and how each reply is taken.

A dialogue says nothing of the peer, which may answer as it likes and may fail on every request.
`Dialogue.run` holds a dialogue with a peer that is given as a state machine, and
`Dialogue.transaction` is the frame in which all work with a connection is done.
-/

namespace SignedBlog.Database

set_option autoImplicit false

/-- What is asked of a connection. -/
inductive Request where
  | connect
  /-- A cursor on a connection that does not commit by itself. -/
  | openCursor
  | execute (statement : Statement)
  /-- The rows of the last statement. -/
  | fetch
  | commit
  | rollback
  | closeCursor
  | close
deriving DecidableEq

/-- What comes back: rows, where rows were asked for, or a refusal. -/
inductive Reply where
  | done (rows : List Row)
  | failed (refusal : Refusal)

/-- A dialogue that ends in a result. -/
inductive Dialogue (α : Type) where
  | finish (result : Except Fault α)
  | ask (request : Request) (next : Reply → Dialogue α)

namespace Dialogue

variable {α β : Type}

/-- Goes on with whatever result a dialogue ends in. -/
def andThen : Dialogue α → (Except Fault α → Dialogue β) → Dialogue β
  | .finish result, next => next result
  | .ask request resume, next => .ask request fun reply => (resume reply).andThen next

/-- Goes on with the value that a dialogue ends in; a fault ends both. -/
def bind (dialogue : Dialogue α) (next : α → Dialogue β) : Dialogue β :=
  dialogue.andThen fun
    | .ok a => next a
    | .error fault => .finish (.error fault)

instance : Monad Dialogue where
  pure a := .finish (.ok a)
  bind := bind

/-- Ends a dialogue with a fault. -/
def fail (fault : Fault) : Dialogue α := .finish (.error fault)

/-- Ends a dialogue with a result. -/
def ofExcept (result : Except Fault α) : Dialogue α := .finish result

/-- A single request, whose failure is a fault. -/
def request (request : Request) : Dialogue (List Row) :=
  .ask request fun
    | .done rows => .finish (.ok rows)
    | .failed refusal => .finish (.error (.database refusal))

def execute (statement : Statement) : Dialogue Unit := do
  discard (request (.execute statement))

/-- Sends a statement and takes its rows. -/
def query (statement : Statement) : Dialogue (List Row) := do
  execute statement
  request .fetch

/-! ## Transactions -/

/-- Ends a transaction: one that went wrong is rolled back, and a failure to do so is the fault. -/
def settle : Except Fault α → Dialogue α
  | .ok a => .finish (.ok a)
  | .error fault =>
    (request .rollback).andThen fun
      | .ok _ => .finish (.error fault)
      | .error other => .finish (.error other)

/-- Closes cursor and connection, whatever became of the work; the last failure is the fault. -/
def release (result : Except Fault α) : Dialogue α :=
  (request .closeCursor).andThen fun cursor =>
    (request .close).andThen fun connection =>
      .finish <| match connection, cursor with
        | .error fault, _ => .error fault
        | .ok _, .error fault => .error fault
        | .ok _, .ok _ => result

/-- Work on a connection of its own, committed at its end. Where there is no cursor no work is done. -/
def transaction (work : Dialogue α) : Dialogue α := do
  discard (request .connect)
  discard (request .openCursor)
  let committed : Dialogue α := do
    let a ← work
    discard (request .commit)
    return a
  (committed.andThen settle).andThen release

/-! ## Peers -/

/-- Holds a dialogue with a peer, and gives the result, what was asked, in order, and the peer's last
state. -/
def run {σ : Type} (peer : σ → Request → Reply × σ) :
    σ → Dialogue α → Except Fault α × List Request × σ
  | s, .finish result => (result, [], s)
  | s, .ask request next =>
    let (reply, s) := peer s request
    let (result, asked, s) := run peer s (next reply)
    (result, request :: asked, s)

end Dialogue

end SignedBlog.Database
