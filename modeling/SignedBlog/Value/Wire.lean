import SignedBlog.Bytes.Base64
import SignedBlog.Encoding
import SignedBlog.Json.Writer
import SignedBlog.Value.Basic

/-!
Values as JSON.

* `Value.toWire` is for answers to clients: bytes become base64 text and every number has to be
  finite.
* `Value.toPlain` is for logs: bytes are refused and floating-point numbers may be anything.
* `Value.render` gives the body of an answer.

Sequences and mappings are followed down to a depth, and integers may have so many digits; of several
faults the first in the order of the text decides.
-/

namespace SignedBlog.Value

set_option autoImplicit false

/-- What a JSON form admits beyond plain JSON. -/
structure WireRules where
  bytesAsText : Bool
  finiteOnly : Bool
  /-- How many digits an integer may have, if there is a limit. -/
  digits : Option Nat

/-- An integer as JSON, unless it has too many digits. -/
def wireInt (rules : WireRules) (n : Int) : Except Fault Int :=
  (Integer.checkDigits rules.digits n).map fun () => n

theorem wireInt_of_fits {rules : WireRules} {n : Int} (h : Integer.fits rules.digits n = true) :
    wireInt rules n = .ok n := by
  unfold wireInt
  rw [Integer.checkDigits_of_fits h]
  rfl

theorem wireInt_of_long {rules : WireRules} {n : Int} (h : Integer.fits rules.digits n = false) :
    wireInt rules n = .error (.setting .longInteger) := by
  unfold wireInt
  rw [Integer.checkDigits_of_long h]
  rfl

/-- A number as JSON, unless it has to be finite and is not. -/
def wireFloat (rules : WireRules) (x : Binary64) : Except Fault Binary64 :=
  if rules.finiteOnly && !x.isFinite then .error .notFinite else .ok x

/-- The text that stands for a value that JSON has no form for: bytes as base64, and nothing else. -/
def substitute : Value → Except Fault Text
  | .bytes bs => .ok (Base64.encode bs)
  | .buffer bs => .ok (Base64.encode bs)
  | value => .error (.unwritable value.kind)

/-- Bytes as JSON. -/
def wireBytes (rules : WireRules) (value : Value) : Except Fault Json :=
  if rules.bytesAsText then value.substitute.map .text else .error (.unwritable value.kind)

/-- The name under which the entry of a key is written. -/
def wireName (rules : WireRules) : Value → Except Fault Text
  | .text t => .ok t
  | .int n => (wireInt rules n).map Text.ofInt
  | .bool true => .ok "true"
  | .bool false => .ok "false"
  | .null => .ok "null"
  | .float x => (wireFloat rules x).map Json.floatText
  | key => .error (.unwritableKey key.kind)

mutual

/-- A value as JSON; the first part that has no JSON form decides the fault. There is room for so many
sequences and mappings within each other. -/
def wire (rules : WireRules) (room : Nat) : Value → Except Fault Json
  | .null => .ok .null
  | .bool b => .ok (.bool b)
  | .int n => (wireInt rules n).map .int
  | .float x => (wireFloat rules x).map .float
  | .text t => .ok (.text t)
  | .bytes bs => wireBytes rules (.bytes bs)
  | .buffer bs => wireBytes rules (.buffer bs)
  | .list items =>
    match room with
    | 0 => .error .tooDeep
    | room + 1 => (wireItems rules room items).map .array
  | .tuple items =>
    match room with
    | 0 => .error .tooDeep
    | room + 1 => (wireItems rules room items).map .array
  | .set _ => .error (.unwritable "set")
  | .dict entries =>
    match room with
    | 0 => .error .tooDeep
    | room + 1 => (wireEntries rules room entries).map .object

def wireItems (rules : WireRules) (room : Nat) : List Value → Except Fault (List Json)
  | [] => .ok []
  | item :: items =>
    match wire rules room item with
    | .error fault => .error fault
    | .ok first =>
      match wireItems rules room items with
      | .error fault => .error fault
      | .ok rest => .ok (first :: rest)

def wireEntries (rules : WireRules) (room : Nat) :
    List (Value × Value) → Except Fault (List (Text × Json))
  | [] => .ok []
  | (key, value) :: entries =>
    match wireName rules key with
    | .error fault => .error fault
    | .ok name =>
      match wire rules room value with
      | .error fault => .error fault
      | .ok first =>
        match wireEntries rules room entries with
        | .error fault => .error fault
        | .ok rest => .ok ((name, first) :: rest)

end

/-- The most sequences and mappings within each other that are written. -/
def wireDepth : Nat := 990

/-- The JSON of an answer. -/
def toWire (value : Value) (digits : Option Nat := Integer.usualLimit) : Except Fault Json :=
  value.wire ⟨true, true, digits⟩ wireDepth

/-- The JSON of a log field. -/
def toPlain (value : Value) : Except Fault Json :=
  value.wire ⟨false, false, Integer.usualLimit⟩ wireDepth

/-- The body of an answer: compact JSON in UTF-8. -/
def render (value : Value) (digits : Option Nat := Integer.usualLimit) : Except Fault Bytes :=
  match value.toWire digits with
  | .error fault => .error fault
  | .ok json => (json.write .compact).utf8

end SignedBlog.Value
