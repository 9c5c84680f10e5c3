import SignedBlog.Text.Printable

/-!
Quoted literals: a text or a byte string between quote marks, in printable characters.

A literal stands in single quotes, and in double quotes when it holds single quotes only. The
backslash and the mark in use are escaped; what does not print is written by its number.
-/

namespace SignedBlog.Quoted

set_option autoImplicit false

/-- A backslash, a letter, and the number in so many hexadecimal digits. -/
def numbered (letter : Char) (width n : Nat) : Text :=
  ('\\' : CodePoint) :: (letter : CodePoint) :: Text.hexDigits width n

/-- The quote mark for a content that holds the given marks. -/
def mark (hasSingle hasDouble : Bool) : CodePoint :=
  if hasSingle && !hasDouble then '"' else '\''

/-- The escapes that texts and byte strings share. -/
def escapeCommon? (quote : CodePoint) (n : Nat) : Option Text :=
  if n = quote.val || n = 0x5C then some ['\\', .ofNat n]
  else if n = 0x09 then some "\\t"
  else if n = 0x0A then some "\\n"
  else if n = 0x0D then some "\\r"
  else if n < 0x20 || n = 0x7F then some (numbered 'x' 2 n)
  else none

/-- One code point within quotes. -/
def escapeChar (quote c : CodePoint) : Text :=
  match escapeCommon? quote c.val with
  | some escaped => escaped
  | none =>
    if c.isAscii || c.isPrintable then [c]
    else if c.val < 0x100 then numbered 'x' 2 c.val
    else if c.val < 0x10000 then numbered 'u' 4 c.val
    else numbered 'U' 8 c.val

/-- A text as a quoted literal. -/
def ofText (t : Text) : Text :=
  let quote := mark (t.any (·.val == 0x27)) (t.any (·.val == 0x22))
  quote :: t.flatMap (escapeChar quote) ++ [quote]

/-- One byte within quotes. -/
def escapeByte (quote : CodePoint) (b : UInt8) : Text :=
  match escapeCommon? quote b.toNat with
  | some escaped => escaped
  | none => if b < 0x80 then [.ofByte b] else numbered 'x' 2 b.toNat

/-- A byte string as a quoted literal behind the letter `b`. -/
def ofBytes (bs : List UInt8) : Text :=
  let quote := mark (bs.contains 0x27) (bs.contains 0x22)
  ('b' : CodePoint) :: quote :: bs.flatMap (escapeByte quote) ++ [quote]

/-- A byte string as the literal of a buffer: single quotes are escaped whatever the mark is, and
double quotes never. -/
def ofBuffer (bs : List UInt8) : Text :=
  let quote := mark (bs.contains 0x27) (bs.contains 0x22)
  ("bytearray(b" : Text) ++ quote :: bs.flatMap (escapeByte '\'') ++ [quote, ')']

end SignedBlog.Quoted
