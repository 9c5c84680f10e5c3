import SignedBlog.Fault
import SignedBlog.Value.Literal

/-!
Groups of fields, handed over as one value.

Usually a group is a mapping from names to values. Any other value that is made of items is a group
too: its items are the names, and each is looked up in the value, so that in a sequence the names are
places. A value without items adds nothing.

* `Group.fields` gives the fields of a group, none of which may have a reserved name.
-/

namespace SignedBlog.Log

set_option autoImplicit false

/-- A field of an entry under any name. -/
abbrev Field : Type := Value × Value

/-- What every entry has. -/
def reservedNames : List Text :=
  ["message", "asctime", "name", "msg", "args", "levelname", "levelno", "pathname", "filename",
   "module", "exc_info", "exc_text", "stack_info", "lineno", "funcName", "created", "msecs",
   "relativeCreated", "thread", "threadName", "processName", "process"]

/-- Whether a name is taken by what every entry has. -/
def isReserved : Value → Bool
  | .text name => reservedNames.contains name
  | _ => false

namespace Group

/-- A place in a sequence, from its end if the place is negative. -/
def place? : Value → Option Int
  | .int n => some n
  | .bool b => some (if b then 1 else 0)
  | _ => none

/-- The item at a place of a sequence of some kind. -/
def itemAt (kind : Text) (items : List Value) (name : Value) : Except Fault Value :=
  match place? name with
  | none => .error (.entry .noGroup)
  | some place =>
    let fromFront := if place < 0 then place + items.length else place
    match if fromFront < 0 then none else items[fromFront.toNat]? with
    | none => .error (.beyondEnd kind)
    | some item => .ok item

/-- Items as names, each with the item at that place. -/
def byPlace (kind : Text) (items : List Value) : List (Value × Except Fault Value) :=
  items.map fun name => (name, itemAt kind items name)

/-- Bytes as numbers. -/
def numbers (bs : Bytes) : List Value := bs.map fun b => .int b.toNat

/-- The names that a group gives, with what it holds under them; a value that is not made of items is
no group, and texts and sets hold nothing under their items. -/
def named? (group : Value) : Option (List (Value × Except Fault Value)) :=
  match group with
  | .null => some []
  | .dict entries => some (entries.map fun entry => (entry.1, .ok entry.2))
  | .list items | .tuple items => some (byPlace group.kind items)
  | .bytes bs | .buffer bs => some (byPlace group.kind (numbers bs))
  | .text t => some (t.map fun c => (.text [c], .error (.entry .noGroup)))
  | .set items => some (items.map fun item => (item, .error (.entry .noGroup)))
  | .bool _ | .int _ | .float _ => none

/-- The fault that a name is reserved or taken, or why that cannot be said of it. -/
def nameFault (name : Value) : Fault :=
  match name.writtenLiteral with
  | .error fault => fault
  | .ok literal => .reservedField literal

/-- Fields with further ones behind them; a name may be neither reserved nor taken. -/
def collect : List Field → List (Value × Except Fault Value) → Except Fault (List Field)
  | fields, [] => .ok fields
  | fields, (name, held) :: more =>
    if isReserved name || fields.any fun field => field.1.sameKey name then
      .error (nameFault name)
    else
      match held with
      | .error fault => .error fault
      | .ok value => collect (fields ++ [(name, value)]) more

/-- The fields of a group. -/
def fields (group : Value) : Except Fault (List Field) :=
  match named? group with
  | none => .error (.entry .noGroup)
  | some named => collect [] named

/-- A group with further fields, which only a mapping can take. -/
def extend (group : Value) : List (Text × Value) → Except Fault Value
  | [] => .ok group
  | more =>
    match group with
    | .dict entries =>
      .ok (.dict ((more.map fun field => (Value.text field.1, field.2)).foldl
        (Entries.put Value.sameKey) entries))
    | _ => .error (.entry .noGroup)

end Group

end SignedBlog.Log
