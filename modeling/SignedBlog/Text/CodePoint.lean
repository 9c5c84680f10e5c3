/-!
Text as a list of Unicode code points.

A peer may send a lone surrogate in a name or in a text, so a text is not a list of Unicode scalar
values: every number below 0x110000 may stand in it. What cannot be written as UTF-8 is found when
the text is encoded, not when it is read.
-/

namespace SignedBlog

set_option autoImplicit false

/-- One Unicode code point, surrogates included. -/
structure CodePoint where
  val : Nat
  val_lt : val < 0x110000
deriving DecidableEq

namespace CodePoint

/-- Code points are told apart by their numbers. -/
theorem ext_val {a b : CodePoint} (h : a.val = b.val) : a = b := by
  cases a; cases b; simp_all

/-- The code point of a character. -/
def ofChar (c : Char) : CodePoint :=
  ⟨c.toNat, by
    have h : c.val.toNat < 0xD800 ∨ (0xDFFF < c.val.toNat ∧ c.val.toNat < 0x110000) := c.valid
    change c.val.toNat < 0x110000
    omega⟩

instance : Coe Char CodePoint := ⟨ofChar⟩

/-- The code point with a given number, if there is one. -/
def ofNat? (n : Nat) : Option CodePoint :=
  if h : n < 0x110000 then some ⟨n, h⟩ else none

/-- The mark that stands for bytes that are no text. -/
def replacement : CodePoint := ⟨0xFFFD, by decide⟩

/-- The code point of that number, or the replacement mark where there is none. -/
def ofNat (n : Nat) : CodePoint :=
  (ofNat? n).getD replacement

/-- A byte read as the code point of the same number. -/
def ofByte (b : UInt8) : CodePoint :=
  ⟨b.toNat, Nat.lt_trans b.toNat_lt (by decide)⟩

/-- Surrogates are the numbers that UTF-8 has no form for. -/
def isSurrogate (c : CodePoint) : Bool := 0xD800 ≤ c.val && c.val ≤ 0xDFFF

def isAscii (c : CodePoint) : Bool := c.val < 0x80

def isAsciiDigit (c : CodePoint) : Bool := 0x30 ≤ c.val && c.val ≤ 0x39

def isAsciiLetter (c : CodePoint) : Bool :=
  (0x41 ≤ c.val && c.val ≤ 0x5A) || (0x61 ≤ c.val && c.val ≤ 0x7A)

end CodePoint

/-- A sequence of code points. -/
abbrev Text := List CodePoint

namespace Text

/-- A text written out in this library. -/
def ofString (s : String) : Text := s.toList.map CodePoint.ofChar

instance : Coe String Text := ⟨ofString⟩

/-- Latin-1: one code point for each byte. -/
def ofLatin1 (bs : List UInt8) : Text := bs.map CodePoint.ofByte

def isAscii (t : Text) : Bool := t.all CodePoint.isAscii

/-- Order by code point, a shorter text before those that extend it. -/
def le : Text → Text → Bool
  | [], _ => true
  | _ :: _, [] => false
  | a :: s, b :: t => if a.val < b.val then true else if b.val < a.val then false else le s t

/-- The rest of a text after a given beginning. -/
def dropStart? : Text → Text → Option Text
  | [], t => some t
  | _ :: _, [] => none
  | a :: s, b :: t => if a = b then dropStart? s t else none

/-- Whether a text begins with another. -/
def startsWith (t start : Text) : Bool := (dropStart? start t).isSome

/-- Whether a text ends with another. -/
def endsWith (t ending : Text) : Bool := startsWith t.reverse ending.reverse

/-- Whether a text occurs within another. -/
def occursIn (part : Text) : Text → Bool
  | [] => part.isEmpty
  | c :: t => startsWith (c :: t) part || occursIn part t

/-- The parts before and after the first code point that passes a test, if there is one. -/
def cutFirst? (stop : CodePoint → Bool) (t : Text) : Option (Text × Text) :=
  match t.dropWhile (fun c => !stop c) with
  | [] => none
  | _ :: rest => some (t.takeWhile (fun c => !stop c), rest)

/-- The parts before and after the last occurrence of a code point, if there is one. -/
def cutLast? (c : CodePoint) (t : Text) : Option (Text × Text) :=
  (cutFirst? (· == c) t.reverse).map fun parts => (parts.2.reverse, parts.1.reverse)

/-- The pieces between the occurrences of a code point. -/
def pieces (c : CodePoint) (t : Text) : List Text :=
  t.foldr
    (fun d acc =>
      if d = c then [] :: acc
      else match acc with
        | [] => [[d]]
        | piece :: more => (d :: piece) :: more)
    [[]]

/-- Texts one after the other with a separator between them. -/
def join (separator : Text) : List Text → Text
  | [] => []
  | [t] => t
  | t :: more => t ++ separator ++ join separator more

/-- A text brought to a width by blanks at its end. -/
def padEnd (width : Nat) (t : Text) : Text :=
  t ++ List.replicate (width - t.length) (' ' : CodePoint)

/-- Decimal digits of a natural number, without leading zeros. -/
def ofNat (n : Nat) : Text := (Nat.toDigits 10 n).map CodePoint.ofChar

/-- Decimal text of an integer, with a minus sign when it is negative. -/
def ofInt : Int → Text
  | .ofNat n => ofNat n
  | .negSucc n => ('-' : CodePoint) :: ofNat (n + 1)

/-- Exactly so many lower-case hexadecimal digits of a number, the last ones. -/
def hexDigits : Nat → Nat → Text
  | 0, _ => []
  | width + 1, n => hexDigits width (n / 16) ++ [CodePoint.ofChar (Nat.digitChar (n % 16))]

end Text

end SignedBlog
