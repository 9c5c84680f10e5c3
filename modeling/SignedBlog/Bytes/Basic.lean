import SignedBlog.Text.CodePoint

/-!
Byte strings and numbers written in a fixed count of bytes.
-/

namespace SignedBlog

set_option autoImplicit false

/-- A sequence of bytes. -/
abbrev Bytes := List UInt8

namespace Bytes

/-- The last `width` base-256 digits of a number, the most significant first. -/
def bigEndian : (width n : Nat) → Bytes
  | 0, _ => []
  | width + 1, n => bigEndian width (n / 256) ++ [UInt8.ofNat n]

/-- The last `width` base-256 digits of a number, the least significant first. -/
def littleEndian : (width n : Nat) → Bytes
  | 0, _ => []
  | width + 1, n => UInt8.ofNat n :: littleEndian width (n / 256)

/-- The number whose base-256 digits are given, the most significant first. -/
def toNatBig (bs : Bytes) : Nat := bs.foldl (fun n b => n * 256 + b.toNat) 0

/-- The number whose base-256 digits are given, the least significant first. -/
def toNatLittle (bs : Bytes) : Nat := bs.foldr (fun b n => n * 256 + b.toNat) 0

@[simp] theorem length_bigEndian (width n : Nat) : (bigEndian width n).length = width := by
  induction width generalizing n with
  | zero => rfl
  | succ width ih => simp [bigEndian, ih]

@[simp] theorem length_littleEndian (width n : Nat) : (littleEndian width n).length = width := by
  induction width generalizing n with
  | zero => rfl
  | succ width ih => simp [littleEndian, ih]

/-- Pieces of a given size; the last one may be shorter. -/
def chunksFrom (size : Nat) : (fuel : Nat) → (done : List Bytes) → Bytes → List Bytes
  | 0, done, _ => done.reverse
  | _ + 1, done, [] => done.reverse
  | fuel + 1, done, b :: bs => chunksFrom size fuel ((b :: bs).take size :: done) ((b :: bs).drop size)

/-- The pieces of a byte string, each of the given size but the last one, which may be shorter. -/
def chunks (size : Nat) (bs : Bytes) : List Bytes := chunksFrom size bs.length [] bs

end Bytes

/-- Why an integer does not fit into a fixed count of bytes. -/
inductive RangeDefect where
  | tooBig
  | negative
deriving DecidableEq

/-- An integer in exactly `width` bytes, the most significant first. -/
def Bytes.ofInt (width : Nat) : Int → Except RangeDefect Bytes
  | .ofNat n => if n < Nat.pow 256 width then .ok (bigEndian width n) else .error .tooBig
  | .negSucc _ => .error .negative

end SignedBlog
