import SignedBlog.Text.CodePoint

/-!
Double-precision numbers by their bits: reading a decimal number to the nearest one, multiplying by a
whole number, and writing the shortest decimal number that reads back.

* A finite number is `significand · 2 ^ exponent`; all arithmetic on it is exact.
* `Binary64.ofDecimal` rounds to nearest, a tie to the even neighbour.
* `Binary64.toText` writes the fewest digits that read back, positional from 10⁻⁴ up to 10¹⁶.
-/

namespace SignedBlog

set_option autoImplicit false

/-- A double-precision number, given by its 64 bits. -/
structure Binary64 where
  bits : UInt64
deriving DecidableEq

namespace Binary64

/-! ## Parts -/

def isNegative (x : Binary64) : Bool := Nat.pow 2 63 ≤ x.bits.toNat

/-- The eleven bits behind the sign. -/
def exponentBits (x : Binary64) : Nat := x.bits.toNat / Nat.pow 2 52 % Nat.pow 2 11

/-- The last fifty-two bits. -/
def fractionBits (x : Binary64) : Nat := x.bits.toNat % Nat.pow 2 52

def isFinite (x : Binary64) : Bool := x.exponentBits != 2047

def isNaN (x : Binary64) : Bool := x.exponentBits == 2047 && x.fractionBits != 0

/-- The whole number that a power of two multiplies. -/
def significand (x : Binary64) : Nat :=
  if x.exponentBits = 0 then x.fractionBits else Nat.pow 2 52 + x.fractionBits

/-- The power of two, raised by 1075 so that it is not negative. -/
def raisedExponent (x : Binary64) : Nat := max x.exponentBits 1

def ofParts (negative : Bool) (magnitude : Nat) : Binary64 :=
  ⟨UInt64.ofNat ((if negative then Nat.pow 2 63 else 0) + magnitude)⟩

def infinity (negative : Bool) : Binary64 := ofParts negative (2047 * Nat.pow 2 52)

def nan : Binary64 := ofParts false (2047 * Nat.pow 2 52 + Nat.pow 2 51)

/-- A finite number times 2¹⁰⁷⁵, which is a whole number. -/
def scaled (x : Binary64) : Int :=
  let magnitude : Int := (x.significand * Nat.pow 2 x.raisedExponent : Nat)
  if x.isNegative then -magnitude else magnitude

/-! ## Reading -/

/-- A quotient rounded to the nearest whole number, a tie to the even one. -/
def roundDiv (num den : Nat) : Nat :=
  let q := num / den
  let r := num % den
  if 2 * r < den then q else if den < 2 * r then q + 1 else q + q % 2

/-- The power of two under which a quotient has 53 binary digits before the point, but no smaller
one than the smallest numbers have. -/
def scaleOf (num den : Nat) : Int :=
  let e : Int := (num.log2 : Int) - den.log2 - 53
  let fits : Bool :=
    if 0 ≤ e then num / (den * Nat.pow 2 e.toNat) < Nat.pow 2 53
    else num * Nat.pow 2 (-e).toNat / den < Nat.pow 2 53
  max (if fits then e else e + 1) (-1074)

/-- The number nearest to a positive quotient, as bits without a sign. -/
def nearest (num den : Nat) : Nat :=
  let e := scaleOf num den
  let m :=
    if 0 ≤ e then roundDiv num (den * Nat.pow 2 e.toNat)
    else roundDiv (num * Nat.pow 2 (-e).toNat) den
  -- the leading one of a full significand carries into the exponent bits
  min ((e + 1074).toNat * Nat.pow 2 52 + m) (2047 * Nat.pow 2 52)

/-- The number nearest to `digits · 10 ^ exponent`. -/
def ofDecimal (negative : Bool) (digits : Nat) (exponent : Int) : Binary64 :=
  if digits = 0 then ofParts negative 0
  else
    let size : Int := (Nat.toDigits 10 digits).length + exponent
    if 310 < size then infinity negative
    else if size < -330 then ofParts negative 0
    else if 0 ≤ exponent then ofParts negative (nearest (digits * Nat.pow 10 exponent.toNat) 1)
    else ofParts negative (nearest digits (Nat.pow 10 (-exponent).toNat))

/-! ## Arithmetic -/

/-- One times 2¹⁰⁷⁵. -/
def scaledOne : Nat := Nat.pow 2 1075

/-- A finite number without its sign, times 2¹⁰⁷⁵. -/
def magnitude (x : Binary64) : Nat := x.significand * Nat.pow 2 x.raisedExponent

/-- A whole number times a finite number that is not negative. -/
def timesNat (n : Nat) (x : Binary64) : Binary64 := ofParts false (nearest (n * x.magnitude) scaledOne)

/-- The whole part of a finite number that is not negative. -/
def wholePart (x : Binary64) : Nat := x.magnitude / scaledOne

/-! ## Writing -/

/-- A positive number and the ends of the range of reals that round to it, over one denominator. -/
structure RoundingRange where
  low : Nat
  value : Nat
  high : Nat
  den : Nat
  /-- Whether the ends themselves round to the number. -/
  closed : Bool

/-- The range of reals that round to a positive finite number. -/
def roundingRange (x : Binary64) : RoundingRange :=
  let m := x.significand
  let below := if x.fractionBits = 0 && 1 < x.exponentBits then 1 else 2
  let e := x.raisedExponent
  let up := Nat.pow 2 (e - 1077)
  let down := Nat.pow 2 (1077 - e)
  ⟨(4 * m - below) * up, 4 * m * up, (4 * m + 2) * up, down, m % 2 == 0⟩

/-- How often a quotient below one can be multiplied by ten and stays below one. -/
def leadingZeros (den : Nat) : (fuel num : Nat) → Nat
  | 0, _ => 0
  | fuel + 1, num => if den ≤ num * 10 then 0 else leadingZeros den fuel (num * 10) + 1

/-- The count of digits before the decimal point of a positive quotient; for a quotient below one
the zeros after the point count downwards. -/
def decimalPoint (num den : Nat) : Int :=
  if den ≤ num then (Nat.toDigits 10 (num / den)).length else -(leadingZeros den 400 num : Int)

/-- Whether `k · 10 ^ unit` lies in the range. -/
def RoundingRange.contains (s : RoundingRange) (unit : Int) (k : Nat) : Bool :=
  let up := Nat.pow 10 unit.toNat
  let down := Nat.pow 10 (-unit).toNat
  let p := k * up * s.den
  if s.closed then s.low * down ≤ p && p ≤ s.high * down
  else s.low * down < p && p < s.high * down

/-- The multiple of `10 ^ unit` that lies in the range and is nearest to the value, if there
is one. -/
def gridPoint? (s : RoundingRange) (unit : Int) : Option Nat :=
  let up := Nat.pow 10 unit.toNat
  let down := Nat.pow 10 (-unit).toNat
  -- a grid point k is the quotient k * up / down
  let value := s.value * down
  let k := value / (up * s.den)
  let toLower := value - k * up * s.den
  let toUpper := (k + 1) * up * s.den - value
  match s.contains unit k, s.contains unit (k + 1) with
  | true, true =>
    some (if toLower < toUpper then k else if toUpper < toLower then k + 1 else k + k % 2)
  | true, false => some k
  | false, true => some (k + 1)
  | false, false => none

/-- Looks for a grid point in the range on finer and finer grids. -/
def shortestFrom (s : RoundingRange) (point : Int) : (fuel digits : Nat) → Nat × Int
  | 0, _ => (s.value / s.den, 0)
  | fuel + 1, digits =>
    match gridPoint? s (point - digits) with
    | some k => (k, point - digits)
    | none => shortestFrom s point fuel (digits + 1)

/-- The fewest decimal digits that lie in the range, with the unit of the last of them;
seventeen digits are always enough. -/
def shortest (s : RoundingRange) : Nat × Int := shortestFrom s (decimalPoint s.value s.den) 17 1

/-- The digits without zeros at their end, and the place of the decimal point before them. -/
def trimZeros (k : Nat) (unit : Int) : List Char × Int :=
  let digits := Nat.toDigits 10 k
  let kept := (digits.reverse.dropWhile (· == '0')).reverse
  (kept, unit + digits.length)

/-- Digits with the decimal point at a place: positional from 10⁻⁴ up to 10¹⁶, with a power of ten
otherwise. -/
def layOut (digits : List Char) (point : Int) : List Char :=
  if -4 < point && point ≤ 16 then
    if point ≤ 0 then '0' :: '.' :: List.replicate (-point).toNat '0' ++ digits
    else
      let n := point.toNat
      let whole := digits.take n ++ List.replicate (n - digits.length) '0'
      let part := digits.drop n
      whole ++ '.' :: (if part.isEmpty then ['0'] else part)
  else
    let power := point - 1
    let size := Nat.toDigits 10 power.natAbs
    let padded := if size.length < 2 then '0' :: size else size
    digits.take 1 ++ (if digits.length ≤ 1 then [] else '.' :: digits.drop 1) ++
      'e' :: (if power < 0 then '-' else '+') :: padded

/-- The text of a finite number without its sign. -/
def magnitudeChars (x : Binary64) : List Char :=
  if x.significand = 0 then ['0', '.', '0']
  else
    let s := x.roundingRange
    let (k, unit) := shortest s
    let (digits, point) := trimZeros k unit
    layOut digits point

/-- The shortest text that reads back, or `nan`, `inf` and `-inf`. -/
def toText (x : Binary64) : Text :=
  let sign : List Char := if x.isNegative then ['-'] else []
  if x.isNaN then "nan"
  else if x.isFinite then (sign ++ x.magnitudeChars).map CodePoint.ofChar
  else (sign ++ ['i', 'n', 'f']).map CodePoint.ofChar

end Binary64

end SignedBlog
