import SignedBlog.Bytes.Basic
import SignedBlog.Text.Digit

/-!
Hexadecimal text of byte strings: two lower-case digits a byte.
-/

namespace SignedBlog.Hex

set_option autoImplicit false

/-- The two digits of a byte. -/
def encodeByte (b : UInt8) : Text := Text.hexDigits 2 b.toNat

/-- The hexadecimal text of a byte string. -/
def encode (bs : Bytes) : Text := bs.flatMap encodeByte

/-- Reads pairs of digits behind the bytes `done`, newest first. -/
def decodeFrom? : (done : Bytes) → Text → Option Bytes
  | done, [] => some done.reverse
  | _, [_] => none
  | done, a :: b :: t =>
    match a.hexDigit?, b.hexDigit? with
    | some high, some low => decodeFrom? (UInt8.ofNat (high * 16 + low) :: done) t
    | _, _ => none

/-- The bytes of a hexadecimal text. -/
def decode? (t : Text) : Option Bytes := decodeFrom? [] t

end SignedBlog.Hex
