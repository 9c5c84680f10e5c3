import SignedBlog.Bytes.Basic
import SignedBlog.Entries
import SignedBlog.Number.Binary64
import SignedBlog.Number.Integer

/-!
Loosely typed values: what callers hand over to be hashed, rendered or logged.

A value says more than JSON can: bytes, sequences of two kinds, sets, and mappings whose keys are
values. A key, and an item of a set, is a value that never changes (`Value.isFixed`).
`Value.mapping` keeps one entry for equal keys; a number equals a number of another type with the
same value.
-/

namespace SignedBlog

set_option autoImplicit false

inductive Value where
  | null
  | bool (b : Bool)
  | int (n : Int)
  | float (x : Binary64)
  | text (t : Text)
  | bytes (bs : Bytes)
  /-- Bytes that their owner may change. -/
  | buffer (bs : Bytes)
  | list (items : List Value)
  | tuple (items : List Value)
  | set (items : List Value)
  | dict (entries : List (Value × Value))

namespace Value

instance : Inhabited Value := ⟨.null⟩

/-- The word for the kind of a value, as messages write it. -/
def kind : Value → Text
  | .null => "NoneType"
  | .bool _ => "bool"
  | .int _ => "int"
  | .float _ => "float"
  | .text _ => "str"
  | .bytes _ => "bytes"
  | .buffer _ => "bytearray"
  | .list _ => "list"
  | .tuple _ => "tuple"
  | .set _ => "set"
  | .dict _ => "dict"

/-- Whether a value says yes: it is not empty, not zero and not `null`. -/
def holds : Value → Bool
  | .null => false
  | .bool b => b
  | .int n => n != 0
  | .float x => x.isNaN || !x.isFinite || x.scaled != 0
  | .text t => !t.isEmpty
  | .bytes bs | .buffer bs => !bs.isEmpty
  | .list items | .tuple items | .set items => !items.isEmpty
  | .dict entries => !entries.isEmpty

/-! ## Keys -/

/-- The place of a number on the scale of the finest floating-point one. Infinities come before and
behind all others, and a value that is no number has no place. -/
def scaled? : Value → Option (Int × Int)
  | .bool b => some (0, if b then Int.pow 2 1075 else 0)
  | .int n => some (0, n * Int.pow 2 1075)
  | .float x =>
    if x.isNaN then none
    else if x.isFinite then some (0, x.scaled)
    else some (if x.isNegative then -1 else 1, 0)
  | _ => none

def isNumber : Value → Bool
  | .bool _ | .int _ | .float _ => true
  | _ => false

/-- Whether two values are equal that are no sequences of values. What is no number at all is not even
equal to itself. -/
def sameScalar (a b : Value) : Bool :=
  match a, b with
  | .null, .null => true
  | .text s, .text t => s == t
  | .bytes s, .bytes t => s == t
  | a, b =>
    match a.scaled?, b.scaled? with
    | some m, some n => m == n
    | _, _ => false

mutual

/-- Whether two keys name the same entry. -/
def sameKey : Value → Value → Bool
  | .tuple as, .tuple bs => sameItems as bs
  | a, b => sameScalar a b

def sameItems : List Value → List Value → Bool
  | [], [] => true
  | a :: as, b :: bs => sameKey a b && sameItems as bs
  | _, _ => false

end

/-- Whether one text comes before another, by code point. -/
def textBefore (s t : Text) : Bool := Text.le s t && s != t

/-- Whether one of two values comes before the other, if they are no sequences of values; values of
different kinds have no order, and what is no number at all comes before none. -/
def scalarBefore? (a b : Value) : Option Bool :=
  match a, b with
  | .text s, .text t => some (textBefore s t)
  | .bytes s, .bytes t => some (decide (s < t))
  | a, b =>
    if a.isNumber && b.isNumber then
      match a.scaled?, b.scaled? with
      | some m, some n => some (m.1 < n.1 || m.1 == n.1 && m.2 < n.2)
      | _, _ => some false
    else none

mutual

/-- Whether one key comes before another, if they have an order. -/
def before? : Value → Value → Option Bool
  | .tuple as, .tuple bs => itemsBefore? as bs
  | a, b => scalarBefore? a b

/-- Two sequences have the order of the first items in which they differ; the shorter of two that agree
comes first. -/
def itemsBefore? : List Value → List Value → Option Bool
  | _, [] => some false
  | [], _ :: _ => some true
  | a :: as, b :: bs => if sameKey a b then itemsBefore? as bs else before? a b

end

mutual

/-- Whether a value never changes, so that it may be a key of a mapping or an item of a set. -/
def isFixed : Value → Bool
  | .buffer _ | .list _ | .set _ | .dict _ => false
  | .tuple items => areFixed items
  | .null | .bool _ | .int _ | .float _ | .text _ | .bytes _ => true

def areFixed : List Value → Bool
  | [] => true
  | item :: items => isFixed item && areFixed items

end

/-- A mapping with the given entries; of equal keys the first is kept, with the last value. -/
def mapping (entries : List (Value × Value)) : Value := .dict (Entries.merge sameKey entries)

/-- A mapping with the given entries, if their keys can be keys. -/
def mapping? (entries : List (Value × Value)) : Option Value :=
  if entries.all fun entry => isFixed entry.1 then some (mapping entries) else none

/-- A set of the given items, if they can lie in one. -/
def set? (items : List Value) : Option Value := if areFixed items then some (.set items) else none

/-- A mapping whose keys are texts. -/
def record (fields : List (Text × Value)) : Value :=
  .dict (fields.map fun field => (.text field.1, field.2))

/-! ## Depth -/

mutual

/-- The levels of sequences and mappings in a value, those in keys included. -/
def depth : Value → Nat
  | .list items => depthItems items + 1
  | .tuple items => depthItems items + 1
  | .set items => depthItems items + 1
  | .dict entries => depthEntries entries + 1
  | _ => 0

def depthItems : List Value → Nat
  | [] => 0
  | item :: items => max (depth item) (depthItems items)

def depthEntries : List (Value × Value) → Nat
  | [] => 0
  | (key, value) :: entries => max (max (depth key) (depth value)) (depthEntries entries)

end

/-! ## Digits -/

mutual

/-- Whether no integer in a value, as a key or otherwise, has more digits than may be written. -/
def fits (digits : Option Nat) : Value → Bool
  | .int n => Integer.fits digits n
  | .list items => fitsItems digits items
  | .tuple items => fitsItems digits items
  | .set items => fitsItems digits items
  | .dict entries => fitsEntries digits entries
  | _ => true

def fitsItems (digits : Option Nat) : List Value → Bool
  | [] => true
  | item :: items => fits digits item && fitsItems digits items

def fitsEntries (digits : Option Nat) : List (Value × Value) → Bool
  | [] => true
  | (key, value) :: entries => fits digits key && fits digits value && fitsEntries digits entries

end

theorem fits_record {digits : Option Nat} {fields : List (Text × Value)} :
    (record fields).fits digits = true ↔ ∀ field ∈ fields, field.2.fits digits = true := by
  change fitsEntries digits (fields.map _) = true ↔ _
  induction fields with
  | nil => simp [fitsEntries]
  | cons field fields ih =>
    have hname : fits digits (.text field.1) = true := rfl
    rw [List.map_cons, fitsEntries, hname, Bool.true_and, Bool.and_eq_true, ih,
      List.forall_mem_cons]

end Value

end SignedBlog
