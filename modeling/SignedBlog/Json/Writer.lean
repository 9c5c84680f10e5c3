import SignedBlog.Json.Basic
import SignedBlog.Number.Integer

/-!
Writing JSON values as text.

One writer serves every format; a `Json.Layout` says which characters are escaped, what stands
between items, and whether each item gets a line of its own. Whether every integer may be written is
for the callers to look at, by `Json.fits`.
-/

namespace SignedBlog.Json

set_option autoImplicit false

/-- The decisions in which written forms differ. -/
structure Layout where
  /-- Whether everything but printable ASCII is escaped. -/
  asciiOnly : Bool
  /-- Stands between two items. -/
  comma : Text
  /-- Stands between a name and its value. -/
  colon : Text
  /-- The count of blanks by which each level is moved in, if items stand on lines of their own. -/
  indent : Option Nat

namespace Layout

/-- No blanks, and ASCII only. -/
def compactAscii : Layout := ⟨true, ",", ":", none⟩

/-- No blanks. -/
def compact : Layout := ⟨false, ",", ":", none⟩

/-- A blank after each comma and colon, and ASCII only. -/
def spacedAscii : Layout := ⟨true, ", ", ": ", none⟩

/-- A line for each item, moved in by two blanks a level. -/
def indented : Layout := ⟨false, ",", ": ", some 2⟩

/-- The line break in front of an item of some depth. -/
def lineBreak (layout : Layout) (depth : Nat) : Text :=
  match layout.indent with
  | none => []
  | some width => ('\n' : CodePoint) :: List.replicate (width * depth) (' ' : CodePoint)

end Layout

/-- The escape of a sixteen-bit number. -/
def escapeUnit (n : Nat) : Text := ('\\' : CodePoint) :: ('u' : CodePoint) :: Text.hexDigits 4 n

/-- One code point within a written string. -/
def escapeChar (asciiOnly : Bool) (c : CodePoint) : Text :=
  if c.val = 0x22 then "\\\""
  else if c.val = 0x5C then "\\\\"
  else if c.val = 0x08 then "\\b"
  else if c.val = 0x09 then "\\t"
  else if c.val = 0x0A then "\\n"
  else if c.val = 0x0C then "\\f"
  else if c.val = 0x0D then "\\r"
  else if c.val < 0x20 then escapeUnit c.val
  else if c.val < 0x7F || !asciiOnly then [c]
  else if c.val < 0x10000 then escapeUnit c.val
  else escapeUnit (0xD800 + (c.val - 0x10000) / 0x400) ++
    escapeUnit (0xDC00 + (c.val - 0x10000) % 0x400)

/-- A text as a JSON string. -/
def quote (asciiOnly : Bool) (t : Text) : Text :=
  ('"' : CodePoint) :: t.flatMap (escapeChar asciiOnly) ++ [('"' : CodePoint)]

/-- A floating-point number; those that are not finite are written as words. -/
def floatText (x : Binary64) : Text :=
  if x.isNaN then "NaN"
  else if x.isFinite then x.toText
  else if x.isNegative then "-Infinity"
  else "Infinity"

/-- Written items between brackets. -/
def enclose (layout : Layout) (depth : Nat) (opening closing : CodePoint) (items : List Text) :
    Text :=
  match items with
  | [] => [opening, closing]
  | _ =>
    opening :: layout.lineBreak (depth + 1)
      ++ Text.join (layout.comma ++ layout.lineBreak (depth + 1)) items
      ++ layout.lineBreak depth ++ [closing]

mutual

/-- A value that stands at some depth. -/
def writeAt (layout : Layout) (depth : Nat) : Json → Text
  | .null => "null"
  | .bool true => "true"
  | .bool false => "false"
  | .int n => Text.ofInt n
  | .float x => floatText x
  | .text t => quote layout.asciiOnly t
  | .array items => enclose layout depth '[' ']' (writeItems layout (depth + 1) items)
  | .object fields => enclose layout depth '\x7b' '\x7d' (writeFields layout (depth + 1) fields)

def writeItems (layout : Layout) (depth : Nat) : List Json → List Text
  | [] => []
  | item :: items => writeAt layout depth item :: writeItems layout depth items

def writeFields (layout : Layout) (depth : Nat) : List (Text × Json) → List Text
  | [] => []
  | (name, value) :: fields =>
    (quote layout.asciiOnly name ++ layout.colon ++ writeAt layout depth value) ::
      writeFields layout depth fields

end

/-- The text of a value. -/
def write (layout : Layout) (value : Json) : Text := writeAt layout 0 value

mutual

/-- The levels of arrays and objects in a value. -/
def depth : Json → Nat
  | .array items => depthItems items + 1
  | .object fields => depthFields fields + 1
  | _ => 0

def depthItems : List Json → Nat
  | [] => 0
  | item :: items => max (depth item) (depthItems items)

def depthFields : List (Text × Json) → Nat
  | [] => 0
  | (_, value) :: fields => max (depth value) (depthFields fields)

end

mutual

/-- Whether every number in a value is finite. -/
def isFinite : Json → Bool
  | .float x => x.isFinite
  | .array items => isFiniteItems items
  | .object fields => isFiniteFields fields
  | _ => true

def isFiniteItems : List Json → Bool
  | [] => true
  | item :: items => isFinite item && isFiniteItems items

def isFiniteFields : List (Text × Json) → Bool
  | [] => true
  | (_, value) :: fields => isFinite value && isFiniteFields fields

end

mutual

/-- Whether no integer in a value has more digits than may be written. -/
def fits (digits : Option Nat) : Json → Bool
  | .int n => Integer.fits digits n
  | .array items => fitsItems digits items
  | .object fields => fitsFields digits fields
  | _ => true

def fitsItems (digits : Option Nat) : List Json → Bool
  | [] => true
  | item :: items => fits digits item && fitsItems digits items

def fitsFields (digits : Option Nat) : List (Text × Json) → Bool
  | [] => true
  | (_, value) :: fields => fits digits value && fitsFields digits fields

end

theorem fits_object {digits : Option Nat} {fields : List (Text × Json)} :
    (Json.object fields).fits digits = true ↔ ∀ field ∈ fields, field.2.fits digits = true := by
  change fitsFields digits fields = true ↔ _
  induction fields with
  | nil => simp [fitsFields]
  | cons field fields ih => rw [fitsFields, Bool.and_eq_true, ih, List.forall_mem_cons]

end SignedBlog.Json
