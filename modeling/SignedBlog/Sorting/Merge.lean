/-!
Merging two rising runs by comparisons that may fail.

Items of the two sides are compared one by one. When one side has won many times in a row, its further
winners are counted at once: in growing steps until one loses, and then by halving. How many wins are
many is a threshold that falls while this pays and rises when it does not; it is handed on from merge to
merge. The shorter run decides from which end the runs are merged.

* `Sorting.merge?` merges two runs, or finds two items that do not compare.
-/

namespace SignedBlog.Sorting

set_option autoImplicit false

variable {α : Type}

/-! ## Counting winners -/

/-- Looks ahead in growing steps from a place that is known to win, and gives two places between which
the winners end. -/
def widen? (wins? : α → Option Bool) (items : List α) : (fuel known place : Nat) → Option (Nat × Nat)
  | 0, known, _ => some (known, items.length)
  | fuel + 1, known, place =>
    match items[place]? with
    | none => some (known, items.length)
    | some item =>
      match wins? item with
      | none => none
      | some true => widen? wins? items fuel place (2 * place + 1)
      | some false => some (known, place)

/-- Finds the end of the winners between two places by halving. Of two middle places it takes the one
farther from the front of the run, which is where the list ends if the run is taken from its end. -/
def narrow? (wins? : α → Option Bool) (items : List α) (fromFront : Bool) :
    (fuel low high : Nat) → Option Nat
  | 0, low, _ => some low
  | fuel + 1, low, high =>
    if low < high then
      let half := (high - low) / 2
      let place := if fromFront then low + half else high - 1 - half
      match items[place]? with
      | none => some low
      | some item =>
        match wins? item with
        | none => none
        | some true => narrow? wins? items fromFront fuel (place + 1) high
        | some false => narrow? wins? items fromFront fuel low place
    else some low

/-- How many items at the front of a list win. The list is a run, or a run from its end on. -/
def reach? (wins? : α → Option Bool) (fromFront : Bool) (items : List α) : Option Nat :=
  match items with
  | [] => some 0
  | first :: _ =>
    match wins? first with
    | none => none
    | some false => some 0
    | some true =>
      (widen? wins? items items.length 0 1).bind fun bounds =>
        narrow? wins? items fromFront items.length (bounds.1 + 1) bounds.2

/-! ## Two sides -/

/-- Two runs that are being merged. An item of the challenger goes first only if it overtakes the item
of the holder. -/
structure Merging (α : Type) where
  /-- What is merged, the latest item first. -/
  done : List α
  holder : List α
  challenger : List α

namespace Merging

/-- The merged items and then those that are left. -/
def items (m : Merging α) : List α := m.done.reverse ++ (m.challenger ++ m.holder)

/-- Whether nothing is left that is to be compared. The last item of the holder comes last. -/
def isSettled (m : Merging α) : Bool := m.challenger.isEmpty || m.holder.length ≤ 1

def takeHolder (m : Merging α) (count : Nat) : Merging α :=
  ⟨(m.holder.take count).reverse ++ m.done, m.holder.drop count, m.challenger⟩

def takeChallenger (m : Merging α) (count : Nat) : Merging α :=
  ⟨(m.challenger.take count).reverse ++ m.done, m.holder, m.challenger.drop count⟩

/-- Moves one item, and says whether it was the challenger's. -/
def step? (overtakes? : α → α → Option Bool) (m : Merging α) : Option (Bool × Merging α) :=
  match m.holder, m.challenger with
  | x :: _, y :: _ =>
    (overtakes? y x).map fun wins => (wins, if wins then m.takeChallenger 1 else m.takeHolder 1)
  | _, _ => some (false, m)

/-- Moves the winners of the holder and then one item of the challenger, unless nothing is left to be
compared; with the number of winners. -/
def reachHolder? (overtakes? : α → α → Option Bool) (fromFront : Bool) (m : Merging α) :
    Option (Nat × Merging α) :=
  match m.isSettled, m.challenger with
  | false, y :: _ =>
    (reach? (fun x => (overtakes? y x).map (!·)) fromFront m.holder).map fun count =>
      let moved := m.takeHolder count
      (count, if moved.isSettled then moved else moved.takeChallenger 1)
  | _, _ => some (0, m)

/-- Moves the winners of the challenger and then one item of the holder, unless nothing is left to be
compared; with the number of winners. -/
def reachChallenger? (overtakes? : α → α → Option Bool) (fromFront : Bool) (m : Merging α) :
    Option (Nat × Merging α) :=
  match m.isSettled, m.holder with
  | false, x :: _ =>
    (reach? (fun y => overtakes? y x) fromFront m.challenger).map fun count =>
      let moved := m.takeChallenger count
      (count, if moved.isSettled then moved else moved.takeHolder 1)
  | _, _ => some (0, m)

/-- Moves the winners of both sides; the run that stands first in the order begins. -/
def reachBoth? (overtakes? : α → α → Option Bool) (fromFront : Bool) (m : Merging α) :
    Option (Nat × Nat × Merging α) :=
  let (begin?, end?) :=
    if fromFront then (reachHolder? overtakes? fromFront, reachChallenger? overtakes? fromFront)
    else (reachChallenger? overtakes? fromFront, reachHolder? overtakes? fromFront)
  (begin? m).bind fun first => (end? first.2).map fun second => (first.1, second.1, second.2)

end Merging

/-! ## The pace -/

/-- How many winners at once make counting them worth while. -/
def usualThreshold : Nat := 7

/-- How items are moved. -/
inductive Pace where
  /-- One by one, where the sides have won so many times in a row. -/
  | single (holderWins challengerWins : Nat)
  /-- By counting winners. -/
  | reaching

/-- Moves items once at a pace, and gives the threshold and the pace that follow. -/
def advance? (overtakes? : α → α → Option Bool) (fromFront : Bool) (threshold : Nat) (pace : Pace)
    (m : Merging α) : Option (Nat × Pace × Merging α) :=
  match pace with
  | .single holderWins challengerWins =>
    (m.step? overtakes?).map fun moved =>
      let holderWins := if moved.1 then 0 else holderWins + 1
      let challengerWins := if moved.1 then challengerWins + 1 else 0
      (threshold,
        if threshold ≤ max holderWins challengerWins then .reaching
        else .single holderWins challengerWins,
        moved.2)
  | .reaching =>
    (m.reachBoth? overtakes? fromFront).map fun moved =>
      if usualThreshold ≤ max moved.1 moved.2.1 then (max 1 (threshold - 1), .reaching, moved.2.2)
      else (threshold + 1, .single 0 0, moved.2.2)

/-- Moves items until nothing is left to be compared. -/
def complete? (overtakes? : α → α → Option Bool) (fromFront : Bool) :
    (fuel threshold : Nat) → Pace → Merging α → Option (Nat × Merging α)
  | 0, threshold, _, m => some (threshold, m)
  | fuel + 1, threshold, pace, m =>
    if m.isSettled then some (threshold, m)
    else
      match advance? overtakes? fromFront threshold pace m with
      | none => none
      | some (threshold', pace', m') =>
        if m'.isSettled then some (threshold, m')
        else complete? overtakes? fromFront fuel threshold' pace' m'

/-- Merges two sides of which the challenger's first item is known to go first. -/
def mergeSides? (overtakes? : α → α → Option Bool) (fromFront : Bool) (threshold : Nat)
    (holder challenger : List α) : Option (Nat × List α) :=
  (complete? overtakes? fromFront (holder.length + challenger.length) threshold (.single 0 0)
    ((⟨[], holder, challenger⟩ : Merging α).takeChallenger 1)).map fun result =>
      (result.1, result.2.items)

/-- Merges two runs from the end at which the shorter one is moved. -/
def mergeShorter? (before? : α → α → Option Bool) (threshold : Nat) (first second : List α) :
    Option (Nat × List α) :=
  if first.length ≤ second.length then mergeSides? before? true threshold first second
  else
    (mergeSides? (fun y x => before? x y) false threshold second.reverse first.reverse).map
      fun result => (result.1, result.2.reverse)

/-- Merges two runs that follow each other. What of the first comes before all of the second stays, and
so does what of the second comes behind all of the first. -/
def merge? (before? : α → α → Option Bool) (threshold : Nat) (first second : List α) :
    Option (Nat × List α) :=
  match second with
  | [] => some (threshold, first)
  | y :: _ =>
    (reach? (fun x => (before? y x).map (!·)) true first).bind fun early =>
      match (first.drop early).getLast? with
      | none => some (threshold, first ++ second)
      | some x =>
        (reach? (fun y => (before? y x).map (!·)) false second.reverse).bind fun late =>
          let middle := second.length - late
          if middle = 0 then some (threshold, first ++ second)
          else
            (mergeShorter? before? threshold (first.drop early) (second.take middle)).map
              fun result => (result.1, first.take early ++ (result.2 ++ second.drop middle))

end SignedBlog.Sorting
