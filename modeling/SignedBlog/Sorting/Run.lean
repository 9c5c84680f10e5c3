/-!
Runs of items that rise already, found by comparisons that may fail.

A run at the beginning that rises is kept, and one that falls is reversed; if it is short, the items
behind it are put in their places by halving what is sorted so far.

* `Sorting.nextRun?` takes a run of a least length from the front of a list.
-/

namespace SignedBlog.Sorting

set_option autoImplicit false

variable {α : Type}

/-- The items that go on with a falling or a rising run, and those behind them. -/
def takeRun? (before? : α → α → Option Bool) (falling : Bool) (last : α) :
    List α → Option (List α × List α)
  | [] => some ([], [])
  | item :: items =>
    match before? item last with
    | none => none
    | some falls =>
      if falls = falling then
        (takeRun? before? falling item items).map fun parts => (item :: parts.1, parts.2)
      else some ([], item :: items)

/-- The run at the beginning of a list, so that it rises, and what stands behind it. -/
def leadingRun? (before? : α → α → Option Bool) : List α → Option (List α × List α)
  | [] => some ([], [])
  | [item] => some ([item], [])
  | first :: second :: items =>
    match before? second first with
    | none => none
    | some falling =>
      (takeRun? before? falling second items).map fun parts =>
        let run := first :: second :: parts.1
        (if falling then run.reverse else run, parts.2)

/-- Puts an item among sorted ones, behind those that it does not come before. -/
def insert? (before? : α → α → Option Bool) (item : α) (sorted : List α) : Option (List α) :=
  match _split : sorted.drop (sorted.length / 2) with
  | [] => some (sorted ++ [item])
  | middle :: behind =>
    match before? item middle with
    | none => none
    | some true =>
      (insert? before? item (sorted.take (sorted.length / 2))).map (· ++ middle :: behind)
    | some false =>
      (insert? before? item behind).map (sorted.take (sorted.length / 2) ++ middle :: ·)
termination_by sorted.length
decreasing_by
  all_goals
    have := congrArg List.length _split
    simp at this ⊢
    omega

/-- A rising run at the beginning of a list and what stands behind it. The run has at least the given
length, unless the list ends. -/
def nextRun? (before? : α → α → Option Bool) (least : Nat) (items : List α) :
    Option (List α × List α) :=
  match leadingRun? before? items with
  | none => none
  | some (run, rest) =>
    let missing := least - run.length
    ((rest.take missing).foldlM (fun sorted item => insert? before? item sorted) run).map
      fun run => (run, rest.drop missing)

end SignedBlog.Sorting
