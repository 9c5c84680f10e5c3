import SignedBlog.Bytes.Basic

/-!
Base64: three bytes in four characters, the last group filled up with `=`.

* `Base64.encode` writes the standard alphabet with padding, `Base64.encodeUrl` the alphabet that is
  safe in a URL and no padding.
* `Base64.decode?` takes the standard alphabet only. A last group of two or three characters has to
  be filled up to four exactly; its unused low bits do not count.
-/

namespace SignedBlog.Base64

set_option autoImplicit false

/-- The character of a six-bit number, given those of 62 and 63. -/
def digit (char62 char63 : Char) (n : Nat) : CodePoint :=
  if n < 26 then .ofNat (0x41 + n)
  else if n < 52 then .ofNat (0x61 + (n - 26))
  else if n < 62 then .ofNat (0x30 + (n - 52))
  else if n = 62 then char62
  else char63

/-- The six-bit number of a character of the standard alphabet. -/
def value? (c : CodePoint) : Option Nat :=
  if 0x41 ≤ c.val && c.val ≤ 0x5A then some (c.val - 0x41)
  else if 0x61 ≤ c.val && c.val ≤ 0x7A then some (c.val - 0x61 + 26)
  else if 0x30 ≤ c.val && c.val ≤ 0x39 then some (c.val - 0x30 + 52)
  else if c.val = 0x2B then some 62
  else if c.val = 0x2F then some 63
  else none

/-- The six-bit numbers of a byte string: four for three bytes, and fewer for a last group. -/
def groups : Bytes → List Nat
  | [] => []
  | [a] => [a.toNat / 4, a.toNat % 4 * 16]
  | [a, b] => [a.toNat / 4, a.toNat % 4 * 16 + b.toNat / 16, b.toNat % 16 * 4]
  | a :: b :: c :: rest =>
    (a.toNat / 4) :: (a.toNat % 4 * 16 + b.toNat / 16) ::
      (b.toNat % 16 * 4 + c.toNat / 64) :: (c.toNat % 64) :: groups rest

/-- The bytes of six-bit numbers, without the unused bits of a last group. -/
def ungroup : List Nat → Bytes
  | a :: b :: c :: d :: rest =>
    UInt8.ofNat (a * 4 + b / 16) :: UInt8.ofNat (b * 16 + c / 4) :: UInt8.ofNat (c * 64 + d) ::
      ungroup rest
  | [a, b, c] => [UInt8.ofNat (a * 4 + b / 16), UInt8.ofNat (b * 16 + c / 4)]
  | [a, b] => [UInt8.ofNat (a * 4 + b / 16)]
  | _ => []

/-- How many padding characters a byte string of some length gets. -/
def padding (length : Nat) : Nat := (3 - length % 3) % 3

/-- Standard base64 with padding. -/
def encode (bs : Bytes) : Text :=
  (groups bs).map (digit '+' '/') ++ List.replicate (padding bs.length) ('=' : CodePoint)

/-- Base64 in the alphabet that is safe in a URL, without padding. -/
def encodeUrl (bs : Bytes) : Text := (groups bs).map (digit '-' '_')

/-- Whether so much padding may follow so many characters: what fills up the last group; behind
full groups any padding is passed over. -/
def admitsPadding (chars pads : Nat) : Bool :=
  match chars % 4 with
  | 0 => chars != 0 || pads == 0
  | 1 => false
  | left => left + pads == 4

/-- The bytes of a standard base64 text. -/
def decode? (t : Text) : Option Bytes :=
  let digits := t.takeWhile fun c => (value? c).isSome
  let pads := t.dropWhile fun c => (value? c).isSome
  if pads.all (· == ('=' : CodePoint)) && admitsPadding digits.length pads.length then
    some (ungroup (digits.filterMap value?))
  else none

end SignedBlog.Base64
