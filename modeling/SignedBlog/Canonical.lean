import SignedBlog.Bytes.Base64
import SignedBlog.Encoding
import SignedBlog.Json.Writer
import SignedBlog.Sorting.Sort
import SignedBlog.Value.Basic

/-!
The canonical text of a payload, on which identifiers and signatures rest.

The same payload gives the same text on every node: keys are sorted by code point at every level,
entries without a value are left out, bytes are written as base64, and the JSON has no blanks and
only ASCII characters. Floating-point numbers, sequences and sets have no canonical form. The top
level carries a version. Mappings are followed as far as there is room for them, which depends on
where the text is asked for; of several faults the first in the order of the text decides, whether it
is one of kind or of depth. At last the form is written, which fails where an integer has more digits
than may be written.

* `Canonical.fields` is the form of a mapping, and `Canonical.text` its text.
-/

namespace SignedBlog.Canonical

set_option autoImplicit false

/-- The name under which the version is written. -/
def versionName : Text := "__canon_v"

/-- The version of these rules. -/
def version : Int := 1

/-- The path of an entry below another. -/
def entryPath (path : Text) (key : Value) : Text :=
  match key with
  | .text name => if path.isEmpty then name else path ++ ("." : Text) ++ name
  | _ => path

/-- The entries as fields, if every key is a text. -/
def textFields? {α : Type} : List (Value × α) → Option (List (Text × α))
  | [] => some []
  | (.text name, form) :: entries => (textFields? entries).map ((name, form) :: ·)
  | _ :: _ => none

/-- What is wrong with keys of which not all are texts: they have no order, or the first of them is
no text. -/
def keyFault (path : Text) (keys : List Value) : Fault :=
  match Sorting.sort? Value.before? keys with
  | some (key :: _) => .payload (.keyAt path key.kind)
  | _ => .incomparableKeys

/-- Fields in the order of their names. -/
def sortFields {α : Type} (fields : List (Text × α)) : List (Text × α) :=
  fields.mergeSort fun a b => Text.le a.1 b.1

/-- The forms of sorted fields without those that have no value; the first fault decides. -/
def collect : List (Text × Except Fault (Option Json)) → Except Fault (List (Text × Json))
  | [] => .ok []
  | (_, .error fault) :: _ => .error fault
  | (_, .ok none) :: fields => collect fields
  | (name, .ok (some form)) :: fields => (collect fields).map ((name, form) :: ·)

/-- The fields of a mapping whose entries' forms are given. -/
def assemble (path : Text) (forms : List (Value × Except Fault (Option Json))) :
    Except Fault (List (Text × Json)) :=
  match textFields? forms with
  | none => .error (keyFault path (forms.map (·.1)))
  | some fields => collect (sortFields fields)

mutual

/-- The form of the value at a path, or `none` where there is no value. There is room for so many
mappings within each other. -/
def form (room : Nat) (path : Text) : Value → Except Fault (Option Json)
  | .null => .ok none
  | .bool b => .ok (some (.bool b))
  | .int n => .ok (some (.int n))
  | .float _ => .error (.payload (.floatAt path))
  | .text t => .ok (some (.text t))
  | .bytes bs => .ok (some (.text (Base64.encode bs)))
  | .buffer bs => .ok (some (.text (Base64.encode bs)))
  | .dict entries =>
    match room with
    | 0 => .error .tooDeep
    | room + 1 =>
      (assemble path (formEntries room path entries)).map fun fields => some (.object fields)
  | .list _ => .error (.payload (.kindAt "list" path))
  | .tuple _ => .error (.payload (.kindAt "tuple" path))
  | .set _ => .error (.payload (.kindAt "set" path))

def formEntries (room : Nat) (path : Text) :
    List (Value × Value) → List (Value × Except Fault (Option Json))
  | [] => []
  | (key, value) :: entries =>
    (key, form room (entryPath path key) value) :: formEntries room path entries

end

/-- The fields of a payload's form, without the version, where there is room for so many mappings below
the top level. -/
def fields (room : Nat) : Value → Except Fault (List (Text × Json))
  | .dict entries => assemble [] (formEntries room [] entries)
  | value => .error (.payload (.topLevel value.kind))

/-- Fields with the version among them, unless the payload has a field of that name. -/
def withVersion (fields : List (Text × Json)) : List (Text × Json) :=
  if fields.any (·.1 == versionName) then fields
  else sortFields ((versionName, .int version) :: fields)

/-- For how many mappings below the top level there is room where a payload is handed over by itself.
Whoever asks from further inside leaves less room. -/
def usualLevels : Nat := 489

/-- The text of a form, unless an integer in it is too long. -/
def writeForm (digits : Option Nat) (form : Json) : Except Fault Text :=
  if form.fits digits then .ok (form.write .compactAscii) else .error (.setting .longInteger)

/-- The canonical text of a payload, where there is room for so many mappings below the top level and
integers may have so many digits. -/
def text (payload : Value) (levels : Nat := usualLevels)
    (digits : Option Nat := Integer.usualLimit) : Except Fault Text :=
  match fields levels payload with
  | .error fault => .error fault
  | .ok fields => writeForm digits (.object (withVersion fields))

/-- The canonical text in bytes; it is ASCII, so every code point is one byte. -/
def bytes (payload : Value) (levels : Nat := usualLevels)
    (digits : Option Nat := Integer.usualLimit) : Except Fault Bytes :=
  (text payload levels digits).map fun t => t.flatMap Utf8.encodeChar

end SignedBlog.Canonical
