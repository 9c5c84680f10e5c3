import SignedBlog.Text.Digit

/-!
Parts of a command line: words, switches, and the mark behind which everything is a word.

A switch may be written with its value behind `=`, and a long one may be cut short as long as it
stays clear which one is meant. Switches of one letter may be written as one part. What begins with
a hyphen is still a word if it is a negative number or has a blank in it.

* `Part.readAll` tells what every part of a command line is, given the switches that are known.
-/

namespace SignedBlog.CommandLine

set_option autoImplicit false

inductive Switch where
  | help
  | name
  | text
deriving DecidableEq

/-- The ways in which a switch is written in full. -/
def Switch.spellings : Switch → List Text
  | .help => ["-h", "--help"]
  | .name => ["--name"]
  | .text => ["--text"]

/-- What stands in one part with a switch. -/
inductive Attached where
  | nothing
  /-- The value behind `=`. -/
  | value (t : Text)
  /-- More letters behind the one of the switch, with or without a `=` between. -/
  | letters (t : Text)
deriving DecidableEq

/-- What a part of a command line is. -/
inductive Part where
  | word (t : Text)
  /-- The mark behind which everything is a word. -/
  | divider
  | switch (switch : Switch) (attached : Attached)
  /-- A switch that is not known. -/
  | unknown
  /-- The beginning of several switches. -/
  | ambiguous
deriving DecidableEq

/-- The mark behind which everything is a word. -/
def dividerMark : Text := "--"

/-! ## Negative numbers -/

/-- Decimal digits of any script, and at least one. -/
def isDigits (t : Text) : Bool := !t.isEmpty && t.all fun c => c.digit?.isSome

/-- Digits, or digits behind a point, with or without digits before it. -/
def isUnsignedNumber (t : Text) : Bool :=
  match Text.cutFirst? (· == ('.' : CodePoint)) t with
  | none => isDigits t
  | some (whole, fraction) => (whole.isEmpty || isDigits whole) && isDigits fraction

/-- Whether a text without its first hyphen is a number; a line break at its end does not count. -/
def isNegativeNumber (rest : Text) : Bool :=
  isUnsignedNumber (if rest.getLast? = some ('\n' : CodePoint) then rest.dropLast else rest)

/-! ## Switches -/

/-- The switch of a full spelling. -/
def spelled? (known : List Switch) (t : Text) : Option Switch :=
  known.find? fun switch => switch.spellings.contains t

/-- The switches of which a text is a beginning. -/
def begunBy (known : List Switch) (t : Text) : List Switch :=
  known.filter fun switch => switch.spellings.any fun spelling => Text.startsWith spelling t

/-- The text before the first `=` and what stands behind it. -/
def cutValue (t : Text) : Text × Attached :=
  match Text.cutFirst? (· == ('=' : CodePoint)) t with
  | none => (t, .nothing)
  | some (switch, value) => (switch, .value value)

/-- A long switch that may be cut short. -/
def shortened? (known : List Switch) (t : Text) : Option Part :=
  let (beginning, attached) := cutValue t
  match begunBy known beginning with
  | [] => none
  | [switch] => some (.switch switch attached)
  | _ => some .ambiguous

/-- A switch of one letter with more letters behind it. -/
def lettered? (known : List Switch) (t : Text) : Option Part :=
  (spelled? known (t.take 2)).map fun switch => .switch switch (.letters (t.drop 2))

/-- What stands behind the `=` of a spelled switch: more letters, if the switch is a single one. -/
def attachedTo (spelling value : Text) : Attached :=
  if spelling.length = 2 && !value.isEmpty then .letters value else .value value

/-- A switch that is not written as it stands in the list of spellings. -/
def inspelled? (known : List Switch) (t : Text) : Option Part :=
  match cutValue t with
  | (beginning, .value value) =>
    match spelled? known beginning with
    | some switch => some (.switch switch (attachedTo beginning value))
    | none => abbreviated? known t
  | _ => abbreviated? known t
where
  /-- A switch cut short, or one of a single letter among others. -/
  abbreviated? (known : List Switch) (t : Text) : Option Part :=
    if Text.startsWith t dividerMark then shortened? known t else lettered? known t

/-- What a part is that begins with a hyphen and goes on. -/
def readHyphened (known : List Switch) (t : Text) : Part :=
  match spelled? known t with
  | some switch => .switch switch .nothing
  | none =>
    match inspelled? known t with
    | some part => part
    | none =>
      if isNegativeNumber (t.drop 1) || t.contains (' ' : CodePoint) then .word t else .unknown

namespace Part

/-- What one part is, given the switches that are known. -/
def read (known : List Switch) (t : Text) : Part :=
  if t = dividerMark then .divider
  else if t.head? = some ('-' : CodePoint) && 1 < t.length then readHyphened known t
  else .word t

/-- What every part is. -/
def readAll (known : List Switch) : List Text → List Part
  | [] => []
  | t :: more =>
    match read known t with
    | .divider => .divider :: more.map .word
    | part => part :: readAll known more

end Part

end SignedBlog.CommandLine
