import SignedBlog.Bytes.Basic
import SignedBlog.Text.Digit
import SignedBlog.Text.Utf8

/-!
Percent codec of URLs: a byte that may not stand for itself is written as `%` and two hexadecimal
digits.

* `Percent.encode` writes a text, `Percent.encodeForm` also a blank as `+`.
* `Percent.decodeForm` reads such a text back; escapes that give no UTF-8 become replacement marks,
  and a `%` without two digits stands for itself.
-/

namespace SignedBlog.Percent

set_option autoImplicit false

/-- Letters, digits and `_.-~` always stand for themselves. -/
def isUnreserved (b : UInt8) : Bool :=
  let c := CodePoint.ofByte b
  c.isAsciiLetter || c.isAsciiDigit || b == 0x5F || b == 0x2E || b == 0x2D || b == 0x7E

/-- The upper-case hexadecimal digit of a number below sixteen. -/
def upperDigit (n : Nat) : CodePoint := .ofNat (if n < 10 then 0x30 + n else 0x41 + (n - 10))

/-- The escape of a byte. -/
def escapeByte (b : UInt8) : Text := ['%', upperDigit (b.toNat / 16), upperDigit (b.toNat % 16)]

/-- Bytes of which those in a class stand for themselves. -/
def encodeBytes (safe : UInt8 → Bool) (bs : Bytes) : Text :=
  bs.flatMap fun b => if safe b then [CodePoint.ofByte b] else escapeByte b

/-- A text in which all but the bytes of a class is escaped. -/
def encode (safe : UInt8 → Bool) (t : Text) : Except Utf8.SurrogateRun Text :=
  (Utf8.encode t).map (encodeBytes fun b => isUnreserved b || safe b)

/-- A text as a form writes it: blanks become `+`, and all else that is reserved is escaped. -/
def encodeForm (t : Text) : Except Utf8.SurrogateRun Text :=
  (Utf8.encode t).map fun bs =>
    bs.flatMap fun b =>
      if isUnreserved b then [CodePoint.ofByte b] else if b = 0x20 then ['+'] else escapeByte b

/-- The bytes of ASCII text with its escapes resolved. -/
def resolve : Text → Bytes
  | c :: a :: b :: t =>
    if c.val = 0x25 then
      match a.hexDigit?, b.hexDigit? with
      | some high, some low => UInt8.ofNat (high * 16 + low) :: resolve t
      | _, _ => UInt8.ofNat c.val :: resolve (a :: b :: t)
    else UInt8.ofNat c.val :: resolve (a :: b :: t)
  | c :: t => UInt8.ofNat c.val :: resolve t
  | [] => []

/-- Decodes a text run by run: escapes are resolved within ASCII, and other code points are kept. -/
def decodeFrom : (fuel : Nat) → Text → Text
  | 0, _ => []
  | _ + 1, [] => []
  | fuel + 1, c :: t =>
    if c.isAscii then
      Utf8.decodeLossy (resolve ((c :: t).takeWhile CodePoint.isAscii)) ++
        decodeFrom fuel ((c :: t).dropWhile CodePoint.isAscii)
    else c :: decodeFrom fuel t

def decode (t : Text) : Text := decodeFrom (t.length + 1) t

/-- Reads a text as a form writes it. -/
def decodeForm (t : Text) : Text :=
  decode (t.map fun c => if c.val = 0x2B then (' ' : CodePoint) else c)

/-- The names and values of a query; a part without a value is left out. -/
def queryFields (query : Text) : List (Text × Text) :=
  (Text.pieces '&' query).filterMap fun piece =>
    match Text.cutFirst? (· == ('=' : CodePoint)) piece with
    | some (name, value) => if value.isEmpty then none else some (decodeForm name, decodeForm value)
    | none => none

end SignedBlog.Percent
