import SignedBlog.Sorting.Merge
import SignedBlog.Sorting.Run

/-!
Sorting by comparisons that may fail.

Rising runs are taken from the front, and neighbouring runs are merged so that the merges make a nearly
balanced tree: where two runs meet has a power, the depth at which halving the list would part their
middles, and deeper seams are merged first. Which items meet is thereby settled, so that the outcome is
also settled where some of them have no order.

* `Sorting.sort?` sorts, or finds two items that do not compare.
-/

namespace SignedBlog.Sorting

set_option autoImplicit false

variable {α : Type}

/-! ## Runs and seams -/

/-- A run with its place in the list. -/
structure Run (α : Type) where
  start : Nat
  items : List α
  /-- The power of the seam to the run behind it. -/
  power : Nat

/-- Every item of runs of which the last stands first. -/
def Run.gathered (runs : List (Run α)) : List α := (runs.reverse.map Run.items).flatten

/-- The length up to which items are put in their places one by one: all of a short list, and otherwise
a part between 32 and 64 of which nearly a power of two makes the list. -/
def leastRun (size : Nat) : Nat :=
  if size < 64 then size
  else
    let parts := Nat.pow 2 (size.log2 - 5)
    (size + parts - 1) / parts

/-- The place of the first binary digit in which two fractions of the given denominator differ. -/
def firstDifference (size : Nat) : (fuel low high : Nat) → Nat
  | 0, _, _ => 0
  | fuel + 1, low, high =>
    if size ≤ low then firstDifference size fuel (2 * (low - size)) (2 * (high - size)) + 1
    else if size ≤ high then 1
    else firstDifference size fuel (2 * low) (2 * high) + 1

/-- The power of the seam between a run and one of the given length behind it, in a list of the given
size. The middles of both are counted in halves. -/
def Run.seam (run : Run α) (length size : Nat) : Nat :=
  let middle := 2 * run.start + run.items.length
  firstDifference size (size + 1) middle (middle + run.items.length + length)

/-! ## Merging runs -/

/-- Merges a run with those before it whose seams have a greater power, and notes the power of the seam
behind it. -/
def absorb? (before? : α → α → Option Bool) (power : Nat) :
    (threshold : Nat) → Run α → List (Run α) → Option (Nat × List (Run α))
  | threshold, top, [] => some (threshold, [{ top with power }])
  | threshold, top, run :: runs =>
    if power < run.power then
      (merge? before? threshold run.items top.items).bind fun merged =>
        absorb? before? power merged.1 { run with items := merged.2 } runs
    else some (threshold, { top with power } :: run :: runs)

/-- Takes the runs of a list from its front, and merges what is due. -/
def gather? (before? : α → α → Option Bool) (size : Nat) :
    (fuel threshold : Nat) → List (Run α) → List α → Option (Nat × List (Run α))
  | _, threshold, runs, [] => some (threshold, runs)
  | 0, _, _, _ :: _ => none
  | fuel + 1, threshold, runs, item :: items =>
    match nextRun? before? (leastRun size) (item :: items) with
    | none => none
    | some (next, rest) =>
      match runs with
      | [] => gather? before? size fuel threshold [⟨0, next, 0⟩] rest
      | top :: runs =>
        (absorb? before? (top.seam next.length size) threshold top runs).bind fun merged =>
          gather? before? size fuel merged.1
            (⟨top.start + top.items.length, next, 0⟩ :: merged.2) rest

/-- Merges the last two runs, or those before the last if the first of them is shorter than it. -/
def mergeLast? (before? : α → α → Option Bool) (threshold : Nat) :
    List (Run α) → Option (Nat × List (Run α))
  | last :: middle :: first :: runs =>
    if first.items.length < last.items.length then
      (merge? before? threshold first.items middle.items).map fun merged =>
        (merged.1, last :: { first with items := merged.2 } :: runs)
    else
      (merge? before? threshold middle.items last.items).map fun merged =>
        (merged.1, { middle with items := merged.2 } :: first :: runs)
  | [last, first] =>
    (merge? before? threshold first.items last.items).map fun merged =>
      (merged.1, [{ first with items := merged.2 }])
  | runs => some (threshold, runs)

/-- Merges runs until one is left. -/
def collapse? (before? : α → α → Option Bool) :
    (fuel threshold : Nat) → List (Run α) → Option (List α)
  | 0, _, runs => some (Run.gathered runs)
  | fuel + 1, threshold, runs =>
    (mergeLast? before? threshold runs).bind fun merged =>
      collapse? before? fuel merged.1 merged.2

/-- The items in their order, if all that meet have one. -/
def sort? (before? : α → α → Option Bool) (items : List α) : Option (List α) :=
  (gather? before? items.length items.length usualThreshold [] items).bind fun gathered =>
    collapse? before? gathered.2.length gathered.1 gathered.2

end SignedBlog.Sorting
