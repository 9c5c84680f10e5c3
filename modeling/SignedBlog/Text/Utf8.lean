import SignedBlog.Text.CodePoint

/-!
UTF-8, both ways.

* `Utf8.encode` writes a text as bytes and refuses surrogates, naming the first run of them.
* `Utf8.decode` reads bytes and refuses the first malformed piece, saying where and why.
* `Utf8.decodeLossy` puts one replacement mark for each malformed piece.
* `Utf8.decodeSurrogates?` also takes the three-byte form of a surrogate.
-/

namespace SignedBlog.Utf8

set_option autoImplicit false

/-! ## Writing -/

/-- The bytes of one code point; a surrogate gets the three-byte form that its number would have. -/
def encodeChar (c : CodePoint) : List UInt8 :=
  if c.val < 0x80 then [UInt8.ofNat c.val]
  else if c.val < 0x800 then
    [UInt8.ofNat (0xC0 + c.val / 0x40), UInt8.ofNat (0x80 + c.val % 0x40)]
  else if c.val < 0x10000 then
    [UInt8.ofNat (0xE0 + c.val / 0x1000), UInt8.ofNat (0x80 + c.val / 0x40 % 0x40),
      UInt8.ofNat (0x80 + c.val % 0x40)]
  else
    [UInt8.ofNat (0xF0 + c.val / 0x40000), UInt8.ofNat (0x80 + c.val / 0x1000 % 0x40),
      UInt8.ofNat (0x80 + c.val / 0x40 % 0x40), UInt8.ofNat (0x80 + c.val % 0x40)]

/-- Adjacent surrogates in a text: the first of them, its place, and the place of the last. -/
structure SurrogateRun where
  char : CodePoint
  first : Nat
  last : Nat
deriving DecidableEq

/-- The first run of surrogates, in a text whose first code point has the given place. -/
def surrogateRunFrom? (place : Nat) : Text → Option SurrogateRun
  | [] => none
  | c :: t =>
    if c.isSurrogate then some ⟨c, place, place + (t.takeWhile CodePoint.isSurrogate).length⟩
    else surrogateRunFrom? (place + 1) t

/-- The first run of surrogates of a text. -/
def surrogateRun? (t : Text) : Option SurrogateRun := surrogateRunFrom? 0 t

/-- The UTF-8 bytes of a text without surrogates. -/
def encode (t : Text) : Except SurrogateRun (List UInt8) :=
  match surrogateRun? t with
  | some run => .error run
  | none => .ok (t.flatMap encodeChar)

/-- The number of bytes of a text. -/
def size (t : Text) : Nat := (t.flatMap encodeChar).length

/-- As many code points from the front of a text as fit into so many bytes. -/
def takeFitting (room : Nat) : Text → Text
  | [] => []
  | c :: t =>
    let size := (encodeChar c).length
    if size ≤ room then c :: takeFitting (room - size) t else []

/-! ## Reading -/

/-- Why a piece is malformed. -/
inductive Defect where
  | start
  | continuation
  | unexpectedEnd
deriving DecidableEq

/-- What stands at the front of a byte string. -/
inductive Front where
  | char (c : CodePoint) (length : Nat) (rest : List UInt8)
  | malformed (length : Nat) (why : Defect) (rest : List UInt8)

/-- The second bytes that a lead byte admits; with `surrogates` also those of surrogates. -/
def admitsSecond (surrogates : Bool) (lead second : Nat) : Bool :=
  let low := if lead = 0xE0 then 0xA0 else if lead = 0xF0 then 0x90 else 0x80
  let high := if lead = 0xED && !surrogates then 0x9F else if lead = 0xF4 then 0x8F else 0xBF
  low ≤ second && second ≤ high

/-- Continuation bytes lie between 0x80 and 0xBF. -/
def isContinuation (b : UInt8) : Bool := 0x80 ≤ b.toNat && b.toNat ≤ 0xBF

/-- Looks at the front of the byte string that starts with `lead`. -/
def front (surrogates : Bool) (lead : UInt8) (rest : List UInt8) : Front :=
  let a := lead.toNat
  if a < 0x80 then .char (.ofNat a) 1 rest
  else if a < 0xC2 || 0xF4 < a then .malformed 1 .start rest
  else match rest with
    | [] => .malformed 1 .unexpectedEnd rest
    | b :: rest₂ =>
      if !admitsSecond surrogates a b.toNat then .malformed 1 .continuation rest
      else if a < 0xE0 then .char (.ofNat ((a - 0xC0) * 0x40 + (b.toNat - 0x80))) 2 rest₂
      else match rest₂ with
        | [] => .malformed 2 .unexpectedEnd rest₂
        | c :: rest₃ =>
          if !isContinuation c then .malformed 2 .continuation rest₂
          else if a < 0xF0 then
            .char (.ofNat ((a - 0xE0) * 0x1000 + (b.toNat - 0x80) * 0x40 + (c.toNat - 0x80))) 3 rest₃
          else match rest₃ with
            | [] => .malformed 3 .unexpectedEnd rest₃
            | d :: rest₄ =>
              if !isContinuation d then .malformed 3 .continuation rest₃
              else .char (.ofNat ((a - 0xF0) * 0x40000 + (b.toNat - 0x80) * 0x1000
                + (c.toNat - 0x80) * 0x40 + (d.toNat - 0x80))) 4 rest₄

/-- A malformed piece: its first byte, its place, its length and what is wrong with it. -/
structure Malformed where
  lead : UInt8
  place : Nat
  length : Nat
  why : Defect
deriving DecidableEq

/-- Reads at most `fuel` characters in front of which `done` has been read, newest first. -/
def decodeFrom (surrogates : Bool) :
    (fuel place : Nat) → (done : Text) → List UInt8 → Except Malformed Text
  | 0, _, done, _ => .ok done.reverse
  | _ + 1, _, done, [] => .ok done.reverse
  | fuel + 1, place, done, lead :: rest =>
    match front surrogates lead rest with
    | .char c length more => decodeFrom surrogates fuel (place + length) (c :: done) more
    | .malformed length why _ => .error ⟨lead, place, length, why⟩

/-- Reads bytes as text, and refuses the first malformed piece. -/
def decode (bs : List UInt8) : Except Malformed Text := decodeFrom false bs.length 0 [] bs

/-- Reads bytes as text in which surrogates may stand in their three-byte form. -/
def decodeSurrogates? (bs : List UInt8) : Option Text :=
  (decodeFrom true bs.length 0 [] bs).toOption

/-- Reads on with a replacement mark for each malformed piece. -/
def decodeLossyFrom : (fuel : Nat) → (done : Text) → List UInt8 → Text
  | 0, done, _ => done.reverse
  | _ + 1, done, [] => done.reverse
  | fuel + 1, done, lead :: rest =>
    match front false lead rest with
    | .char c _ more => decodeLossyFrom fuel (c :: done) more
    | .malformed _ _ more => decodeLossyFrom fuel (.replacement :: done) more

/-- Reads bytes as text, with one replacement mark for each malformed piece. -/
def decodeLossy (bs : List UInt8) : Text := decodeLossyFrom bs.length [] bs

end SignedBlog.Utf8
