import SignedBlog.Json.Basic
import SignedBlog.Number.Integer

/-!
Reading JSON text.

The reader takes standard JSON and the words `NaN`, `Infinity` and `-Infinity`. Two adjacent escapes
of surrogates that form a pair give one code point; a surrogate that stands alone is kept.
-/

namespace SignedBlog.Json

set_option autoImplicit false

/-- What is wrong with a text. -/
inductive Defect where
  | expectedValue
  | expectedName
  | expectedColon
  | expectedComma
  | unterminatedString
  | controlCharacter
  | invalidEscape
  | invalidUnitEscape
  | extraData
  /-- Nested more deeply than allowed. -/
  | tooDeep
  /-- A whole number with more digits than allowed. -/
  | tooManyDigits
deriving DecidableEq

/-- The wording of a defect. -/
def Defect.message : Defect → Text
  | .expectedValue => "Expecting value"
  | .expectedName => "Expecting property name enclosed in double quotes"
  | .expectedColon => "Expecting ':' delimiter"
  | .expectedComma => "Expecting ',' delimiter"
  | .unterminatedString => "Unterminated string starting at"
  | .controlCharacter => "Invalid control character at"
  | .invalidEscape => "Invalid \\escape"
  | .invalidUnitEscape => "Invalid \\uXXXX escape"
  | .extraData => "Extra data"
  | .tooDeep => "Nesting is too deep"
  | .tooManyDigits => "Number has too many digits"

/-- How much a text may ask of the reader. -/
structure Limits where
  depth : Nat
  digits : Nat

/-- A defect, and the text from the place on where it shows. -/
structure Failure where
  defect : Defect
  rest : Text

/-- Blanks between the parts of a value. -/
def isSpace (c : CodePoint) : Bool := c.val = 0x20 || c.val = 0x09 || c.val = 0x0A || c.val = 0x0D

def skipSpaces (t : Text) : Text := t.dropWhile isSpace

/-! ## Strings -/

/-- A number of four hexadecimal digits, and what follows. -/
def takeUnit? : Text → Option (Nat × Text)
  | a :: b :: c :: d :: t =>
    match a.hexDigit?, b.hexDigit?, c.hexDigit?, d.hexDigit? with
    | some a, some b, some c, some d => some (a * 0x1000 + b * 0x100 + c * 0x10 + d, t)
    | _, _, _, _ => none
  | _ => none

def isHighUnit (n : Nat) : Bool := 0xD800 ≤ n && n ≤ 0xDBFF

def isLowUnit (n : Nat) : Bool := 0xDC00 ≤ n && n ≤ 0xDFFF

/-- The code point that a pair of surrogates stands for. -/
def pairUnits (high low : Nat) : CodePoint :=
  .ofNat (0x10000 + (high - 0xD800) * 0x400 + (low - 0xDC00))

/-- The escape behind a backslash and `u`, with the second half of a pair where one follows. -/
def takeEscapedUnit (t : Text) : Except Failure (CodePoint × Text) :=
  match takeUnit? t with
  | none => .error ⟨.invalidUnitEscape, ('u' : CodePoint) :: t⟩
  | some (n, rest) =>
    match rest with
    | a :: b :: more =>
      if isHighUnit n && a.val = 0x5C && b.val = 0x75 && 4 < more.length then
        match takeUnit? more with
        | none => .error ⟨.invalidUnitEscape, b :: more⟩
        | some (m, rest₂) =>
          if isLowUnit m then .ok (pairUnits n m, rest₂) else .ok (.ofNat n, rest)
      else .ok (.ofNat n, rest)
    | _ => .ok (.ofNat n, rest)

/-- The code point that a letter behind a backslash stands for. -/
def simpleEscape? (c : CodePoint) : Option CodePoint :=
  if c.val = 0x22 || c.val = 0x5C || c.val = 0x2F then some c
  else if c.val = 0x62 then some (.ofNat 0x08)
  else if c.val = 0x66 then some (.ofNat 0x0C)
  else if c.val = 0x6E then some (.ofNat 0x0A)
  else if c.val = 0x72 then some (.ofNat 0x0D)
  else if c.val = 0x74 then some (.ofNat 0x09)
  else none

/-- Reads a string up to its closing mark. `start` is the text from the opening mark on and `done`
what has been read, newest first. -/
def takeString (start : Text) : (fuel : Nat) → (done : Text) → Text → Except Failure (Text × Text)
  | 0, _, _ => .error ⟨.unterminatedString, start⟩
  | _ + 1, _, [] => .error ⟨.unterminatedString, start⟩
  | fuel + 1, done, c :: t =>
    if c.val = 0x22 then .ok (done.reverse, t)
    else if c.val = 0x5C then
      match t with
      | [] => .error ⟨.unterminatedString, start⟩
      | e :: u =>
        if e.val = 0x75 then
          match takeEscapedUnit u with
          | .error failure => .error failure
          | .ok (d, rest) => takeString start fuel (d :: done) rest
        else
          match simpleEscape? e with
          | none => .error ⟨.invalidEscape, c :: t⟩
          | some d => takeString start fuel (d :: done) u
    else if c.val < 0x20 then .error ⟨.controlCharacter, c :: t⟩
    else takeString start fuel (c :: done) t

/-- Reads the string whose opening mark stands before `t`. -/
def takeQuoted (t : Text) : Except Failure (Text × Text) :=
  takeString (('"' : CodePoint) :: t) (t.length + 1) [] t

/-! ## Numbers -/

/-- The digits at the front of a text, and what follows. -/
def takeDigits (t : Text) : Text × Text :=
  (t.takeWhile CodePoint.isAsciiDigit, t.dropWhile CodePoint.isAsciiDigit)

/-- The number that ASCII digits write. -/
def digitsToNat (t : Text) : Nat := Integer.ofDigits (t.map fun c => c.val - 0x30)

/-- The digits of a whole number without needless zeros, and what follows. -/
def takeWhole? : Text → Option (Text × Text)
  | [] => none
  | c :: t =>
    if c.val = 0x30 then some ([c], t)
    else if c.isAsciiDigit then some (takeDigits (c :: t))
    else none

/-- The digits behind a point, if digits follow it. -/
def takeFraction : Text → Text × Text
  | [] => ([], [])
  | c :: t =>
    if c.val = 0x2E && !(takeDigits t).1.isEmpty then takeDigits t else ([], c :: t)

/-- The power of ten behind the letter `e`, if digits follow it. -/
def takeExponent? : Text → Option (Int × Text)
  | [] => none
  | c :: t =>
    if c.val = 0x65 || c.val = 0x45 then
      let (negative, body) := Integer.takeSign t
      let (digits, rest) := takeDigits body
      if digits.isEmpty then none
      else some (if negative then -(digitsToNat digits : Int) else digitsToNat digits, rest)
    else none

/-- Reads a number behind its sign. -/
def takeNumber (limits : Limits) (negative : Bool) (start t : Text) : Except Failure (Json × Text) :=
  match takeWhole? t with
  | none => .error ⟨.expectedValue, start⟩
  | some (whole, afterWhole) =>
    let (fraction, afterFraction) := takeFraction afterWhole
    match takeExponent? afterFraction with
    | some (exponent, rest) =>
      .ok (.float (.ofDecimal negative (digitsToNat (whole ++ fraction))
        (exponent - fraction.length)), rest)
    | none =>
      if fraction.isEmpty then
        if limits.digits < whole.length then .error ⟨.tooManyDigits, start⟩
        else
          let n := digitsToNat whole
          .ok (.int (if negative then -(n : Int) else n), afterFraction)
      else
        .ok (.float (.ofDecimal negative (digitsToNat (whole ++ fraction)) (-fraction.length)),
          afterFraction)

/-! ## Values -/

/-- The words that stand for values. -/
def words : List (Text × Json) :=
  [("null", .null), ("true", .bool true), ("false", .bool false), ("NaN", .float .nan),
   ("Infinity", .float (.infinity false)), ("-Infinity", .float (.infinity true))]

/-- The value of the word at the front of a text, and what follows. -/
def takeWord? (t : Text) : Option (Json × Text) :=
  words.findSome? fun (word, value) => (Text.dropStart? word t).map fun rest => (value, rest)

/-- A value that is neither string, array nor object. -/
def takeScalar (limits : Limits) (t : Text) : Except Failure (Json × Text) :=
  match takeWord? t with
  | some found => .ok found
  | none =>
    match t with
    | [] => .error ⟨.expectedValue, []⟩
    | c :: u => if c.val = 0x2D then takeNumber limits true t u else takeNumber limits false t t

mutual

/-- Reads the value at the front of a text. -/
def takeValue (limits : Limits) : (fuel depth : Nat) → Text → Except Failure (Json × Text)
  | 0, _, t => .error ⟨.expectedValue, t⟩
  | _ + 1, _, [] => .error ⟨.expectedValue, []⟩
  | fuel + 1, depth, c :: t =>
    if c.val = 0x22 then
      match takeQuoted t with
      | .error failure => .error failure
      | .ok (s, rest) => .ok (.text s, rest)
    else if c.val = 0x5B then
      match depth with
      | 0 => .error ⟨.tooDeep, c :: t⟩
      | depth + 1 =>
        match skipSpaces t with
        | [] => .error ⟨.expectedValue, []⟩
        | d :: rest =>
          if d.val = 0x5D then .ok (.array [], rest) else takeItems limits fuel depth [] (d :: rest)
    else if c.val = 0x7B then
      match depth with
      | 0 => .error ⟨.tooDeep, c :: t⟩
      | depth + 1 =>
        match skipSpaces t with
        | [] => .error ⟨.expectedName, []⟩
        | d :: rest =>
          if d.val = 0x7D then .ok (.object [], rest) else takeFields limits fuel depth [] (d :: rest)
    else takeScalar limits (c :: t)

/-- Reads the items of an array up to its end; `done` holds those before, newest first. -/
def takeItems (limits : Limits) :
    (fuel depth : Nat) → (done : List Json) → Text → Except Failure (Json × Text)
  | 0, _, _, t => .error ⟨.expectedValue, t⟩
  | fuel + 1, depth, done, t =>
    match takeValue limits fuel depth t with
    | .error failure => .error failure
    | .ok (item, rest) =>
      match skipSpaces rest with
      | [] => .error ⟨.expectedComma, []⟩
      | d :: more =>
        if d.val = 0x5D then .ok (.array (item :: done).reverse, more)
        else if d.val = 0x2C then takeItems limits fuel depth (item :: done) (skipSpaces more)
        else .error ⟨.expectedComma, d :: more⟩

/-- Reads the fields of an object up to its end; `done` holds those before, newest first. -/
def takeFields (limits : Limits) :
    (fuel depth : Nat) → (done : List (Text × Json)) → Text → Except Failure (Json × Text)
  | 0, _, _, t => .error ⟨.expectedName, t⟩
  | _ + 1, _, _, [] => .error ⟨.expectedName, []⟩
  | fuel + 1, depth, done, c :: t =>
    if c.val = 0x22 then
      match takeQuoted t with
      | .error failure => .error failure
      | .ok (name, rest) =>
        match skipSpaces rest with
        | [] => .error ⟨.expectedColon, []⟩
        | d :: more =>
          if d.val = 0x3A then
            match takeValue limits fuel depth (skipSpaces more) with
            | .error failure => .error failure
            | .ok (value, rest₂) =>
              match skipSpaces rest₂ with
              | [] => .error ⟨.expectedComma, []⟩
              | e :: more₂ =>
                if e.val = 0x7D then .ok (.object ((name, value) :: done).reverse, more₂)
                else if e.val = 0x2C then
                  takeFields limits fuel depth ((name, value) :: done) (skipSpaces more₂)
                else .error ⟨.expectedComma, e :: more₂⟩
          else .error ⟨.expectedColon, d :: more⟩
    else .error ⟨.expectedName, c :: t⟩

end

/-- A defect and its place in the text. -/
structure Misread where
  defect : Defect
  place : Nat
deriving DecidableEq

/-- Reads a text that holds one value and blanks around it. -/
def read (limits : Limits) (t : Text) : Except Misread Json :=
  let locate (failure : Failure) : Misread := ⟨failure.defect, t.length - failure.rest.length⟩
  match takeValue limits (2 * t.length + 2) limits.depth (skipSpaces t) with
  | .error failure => .error (locate failure)
  | .ok (value, rest) =>
    match skipSpaces rest with
    | [] => .ok value
    | extra => .error (locate ⟨.extraData, extra⟩)

end SignedBlog.Json
