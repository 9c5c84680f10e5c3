import SignedBlog.Text.Blank
import SignedBlog.Text.Digit

/-!
Integers as text: reading them, and how many digits they may have.

An integer may stand between blanks and behind one sign; single underscores may stand between its
digits, which may be of any script. Neither in reading nor in writing may there be too many digits,
unless the limit on them is lifted.

* `Integer.read` reads an integer.
* `Integer.fits` says whether one may be written.
-/

namespace SignedBlog.Integer

set_option autoImplicit false

/-- The longest run of digits that is read or written, unless another limit is set. -/
def digitLimit : Nat := 4300

/-! ## Writing -/

/-- The limit on digits where none is set. -/
def usualLimit : Option Nat := some digitLimit

/-- Whether an integer has no more digits than may be written; with `none` there is no limit. -/
def fits (limit : Option Nat) (n : Int) : Bool :=
  match limit with
  | none => true
  | some most => decide ((Text.ofNat n.natAbs).length ≤ most)

/-! ## Reading -/

/-- Why a text is no integer. -/
inductive Defect where
  | malformed
  | tooManyDigits (count : Nat)
deriving DecidableEq

/-- Blanks that may surround an integer: all but the separators U+001C to U+001F. -/
def isMargin (c : CodePoint) : Bool := c.isBlank && !(0x1C ≤ c.val && c.val ≤ 0x1F)

/-- The digits of a text, where an underscore may stand between two digits. -/
def digits? : Text → Option (List Nat)
  | [] => none
  | [c] => c.digit?.map fun d => [d]
  | c :: sep :: t =>
    match c.digit? with
    | none => none
    | some d =>
      if sep.val = 0x5F then (digits? t).map (d :: ·) else (digits? (sep :: t)).map (d :: ·)

/-- The number with the given decimal digits. -/
def ofDigits (ds : List Nat) : Nat := ds.foldl (fun n d => n * 10 + d) 0

/-- The sign at the front of a text, as whether it is negative, and what follows. -/
def takeSign : Text → Bool × Text
  | [] => (false, [])
  | c :: t => if c.val = 0x2D then (true, t) else if c.val = 0x2B then (false, t) else (false, c :: t)

/-- Whether a code point may belong to a run of digits. -/
def isRunChar (c : CodePoint) : Bool := c.digit?.isSome || c.val = 0x5F

/-- Reads an integer. A run of digits is measured before what follows it is looked at. -/
def read (t : Text) : Except Defect Int :=
  let (negative, body) := takeSign (t.trim isMargin)
  match digits? (body.takeWhile isRunChar) with
  | none => .error .malformed
  | some ds =>
    if digitLimit < ds.length then .error (.tooManyDigits ds.length)
    else if !(body.dropWhile isRunChar).isEmpty then .error .malformed
    else .ok (if negative then -(ofDigits ds : Int) else ofDigits ds)

end SignedBlog.Integer
