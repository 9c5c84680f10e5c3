import SignedBlog.Bytes.Basic
import SignedBlog.Text.Utf8

/-!
The encoding of JSON text, told by its first bytes: UTF-8, UTF-16 or UTF-32 in either byte order,
with or without a byte order mark. Surrogates that stand alone are taken in every encoding.
-/

namespace SignedBlog.Json

set_option autoImplicit false

/-- How text is laid out in bytes. -/
inductive Encoding where
  | utf8
  | utf16 (big : Bool)
  | utf32 (big : Bool)
deriving DecidableEq

/-- The encoding of a byte string and the bytes behind its mark, if it has one. -/
def Encoding.detect (bs : Bytes) : Encoding × Bytes :=
  match bs with
  | 0x00 :: 0x00 :: 0xFE :: 0xFF :: rest => (.utf32 true, rest)
  | 0xFF :: 0xFE :: 0x00 :: 0x00 :: rest => (.utf32 false, rest)
  | 0xFE :: 0xFF :: rest => (.utf16 true, rest)
  | 0xFF :: 0xFE :: rest => (.utf16 false, rest)
  | 0xEF :: 0xBB :: 0xBF :: rest => (.utf8, rest)
  | a :: b :: c :: d :: _ =>
    if a = 0 then (if b = 0 then .utf32 true else .utf16 true, bs)
    else if b = 0 then (if c = 0 && d = 0 then .utf32 false else .utf16 false, bs)
    else (.utf8, bs)
  | [a, b] =>
    if a = 0 then (.utf16 true, bs) else if b = 0 then (.utf16 false, bs) else (.utf8, bs)
  | _ => (.utf8, bs)

/-- The numbers that units of so many bytes write, if the last unit is complete. -/
def unitsOf? (size : Nat) (big : Bool) (bs : Bytes) : Option (List Nat) :=
  if bs.length % size = 0 then
    some ((Bytes.chunks size bs).map (if big then Bytes.toNatBig else Bytes.toNatLittle))
  else none

/-- Text from sixteen-bit units, where pairs of surrogates are joined; `done` is what was read,
newest first. -/
def joinUnits (done : Text) : List Nat → Text
  | [] => done.reverse
  | [n] => (CodePoint.ofNat n :: done).reverse
  | m :: n :: units =>
    if 0xD800 ≤ m && m ≤ 0xDBFF && 0xDC00 ≤ n && n ≤ 0xDFFF then
      joinUnits (.ofNat (0x10000 + (m - 0xD800) * 0x400 + (n - 0xDC00)) :: done) units
    else joinUnits (.ofNat m :: done) (n :: units)

/-- The text that bytes hold. -/
def decodeText? (bs : Bytes) : Option Text :=
  match Encoding.detect bs with
  | (.utf8, rest) => Utf8.decodeSurrogates? rest
  | (.utf16 big, rest) => (unitsOf? 2 big rest).map (joinUnits [])
  | (.utf32 big, rest) => (unitsOf? 4 big rest).bind fun units => units.mapM CodePoint.ofNat?

end SignedBlog.Json
