import SignedBlog.Text.Utf8

/-!
Bytes as text where not all of them are UTF-8.

A byte that belongs to no UTF-8 form is held as an escape, the surrogate U+DC80 to U+DCFF of its number,
so that the text can be written as the same bytes again.

* `Utf8.encodeEscaped` writes a text, and refuses the first surrogate that is no escape.
* `Utf8.decodeEscaped` reads any bytes.
-/

namespace SignedBlog.Utf8

set_option autoImplicit false

/-- The byte that an escape stands for. -/
def escapedByte? (c : CodePoint) : Option UInt8 :=
  if 0xDC80 ≤ c.val && c.val ≤ 0xDCFF then some (UInt8.ofNat (c.val - 0xDC00)) else none

/-- The first surrogate that is no escape, with those behind it, in a text whose first code point has the
given place. -/
def unescapedFrom? (place : Nat) : Text → Option SurrogateRun
  | [] => none
  | c :: t =>
    if c.isSurrogate && (escapedByte? c).isNone then
      some ⟨c, place, place + (t.takeWhile CodePoint.isSurrogate).length⟩
    else unescapedFrom? (place + 1) t

/-- The bytes of a text whose surrogates are escapes. -/
def encodeEscaped (t : Text) : Except SurrogateRun (List UInt8) :=
  match unescapedFrom? 0 t with
  | some run => .error run
  | none =>
    .ok (t.flatMap fun c =>
      match escapedByte? c with
      | some b => [b]
      | none => encodeChar c)

/-- Reads at most `fuel` characters or malformed pieces. -/
def decodeEscapedFrom : (fuel : Nat) → List UInt8 → Text
  | 0, _ => []
  | _ + 1, [] => []
  | fuel + 1, lead :: rest =>
    match front false lead rest with
    | .char c _ more => c :: decodeEscapedFrom fuel more
    | .malformed length _ more =>
      ((lead :: rest).take length).map (fun b => .ofNat (0xDC00 + b.toNat)) ++
        decodeEscapedFrom fuel more

/-- Bytes as text, with an escape for each byte of a malformed piece. -/
def decodeEscaped (bs : List UInt8) : Text := decodeEscapedFrom bs.length bs

end SignedBlog.Utf8
