import SignedBlog.Fault
import SignedBlog.Number.Integer

/-!
Integers in a text that a database gives for a number.

Such a text is freer than a numeral, and is made one in steps: blanks around it and a plus sign are
dropped, then zeros and underscores at its front, then a fraction of zeros, then single underscores
within it. A minus sign may stand at the front, or behind the zeros there.

* `Numeral.ofText?` takes these steps, and `Numeral.read` reads what is left of the text.
-/

namespace SignedBlog.Database.Numeral

set_option autoImplicit false

/-- Whether a code point is a digit other than zero. -/
def isLeadingDigit (c : CodePoint) : Bool := c.isAsciiDigit && c.val != 0x30

/-- What begins behind zeros and underscores, of which the last is given. It stays where nothing follows
it, and in front of a point. -/
def behindZeros (last : CodePoint) : Text → Option Text
  | [] => some [last]
  | c :: t =>
    if c.val = 0x30 || c.val = 0x5F then behindZeros c t
    else if c.val = 0x2E then some (last :: c :: t)
    else if isLeadingDigit c || c.val = 0x2D then some (c :: t)
    else none

/-- A text that begins with a digit, without the zeros at its front. -/
def withoutZeros : Text → Option Text
  | [] => none
  | c :: t =>
    if c.val = 0x30 then behindZeros c t else if isLeadingDigit c then some (c :: t) else none

/-- A text without the zeros at its front, where a minus sign before them stays. -/
def withoutSignedZeros : Text → Option Text
  | [] => none
  | c :: t => if c.val = 0x2D then (withoutZeros t).map (c :: ·) else withoutZeros (c :: t)

/-- A text without a fraction of zeros at its end. -/
def withoutFraction (t : Text) : Text :=
  match Text.cutFirst? (· == ('.' : CodePoint)) t with
  | some (whole, fraction) =>
    if !fraction.isEmpty && fraction.all (· == ('0' : CodePoint)) then whole else t
  | none => t

/-- A text without underscores, if they stand one by one and within it. -/
def withoutUnderscores (t : Text) : Text :=
  if Text.startsWith t "_" || Text.endsWith t "_" || Text.occursIn "__" t then t
  else t.filter (· != ('_' : CodePoint))

/-- The numeral in a text, if there may be one. -/
def ofText? (t : Text) : Option Text :=
  let unsigned := match t.trim Integer.isMargin with
    | [] => none
    | c :: t =>
      if c.val != 0x2B then some (c :: t)
      else if Text.startsWith t "-" then none
      else some t
  (unsigned.bind withoutSignedZeros).map fun t => withoutUnderscores (withoutFraction t)

/-- The integer that a numeral stands for: zero, or digits that do not begin with zero, perhaps behind a
minus sign. A run of digits is measured before what follows it is looked at. -/
def integer (numeral : Text) : Except FieldDefect Int :=
  let negative := Text.startsWith numeral "-"
  let body := if negative then numeral.drop 1 else numeral
  let run := body.takeWhile CodePoint.isAsciiDigit
  let rest := body.dropWhile CodePoint.isAsciiDigit
  let digits := run.map fun c => c.val - 0x30
  if digits.isEmpty || (digits.head? = some 0 && 1 < digits.length) then .error .malformedInteger
  else if Integer.digitLimit < digits.length then .error .longInteger
  else if !rest.isEmpty then .error .malformedInteger
  else .ok (if negative then -(Integer.ofDigits digits : Int) else Integer.ofDigits digits)

/-- The integer in a text. -/
def read (t : Text) : Except FieldDefect Int :=
  match ofText? t with
  | none => .error .malformedInteger
  | some numeral => integer numeral

end SignedBlog.Database.Numeral
