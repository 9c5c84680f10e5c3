import SignedBlog.Database.Numeral
import SignedBlog.Value.Literal

/-!
Cells of an answer, taken for the kind that their column is declared to have.

A database keeps to the declared kinds, but a cell may also come in another form that says the same:
a count of zero bytes, a list of bytes, a number in text, or text in bytes that may change.

* `Cell.toBytes`, `Cell.toText` and `Cell.toInteger` take a cell, or say why it does not fit.
* `Cell.toField` takes it for a field of a record, and shows it where it does not fit.
-/

namespace SignedBlog.Database.Cell

set_option autoImplicit false

/-! ## Bytes -/

/-- The greatest count that is a count at all. -/
def countLimit : Nat := Nat.pow 2 63

/-- The greatest count of bytes that a byte string may have. -/
def lengthLimit : Nat := countLimit - 34

/-- The count of bytes for which there is no room. -/
def roomLimit : Nat := Nat.pow 2 36

/-- So many zero bytes. -/
def zeros (count : Int) : Except Fault Bytes :=
  if countLimit ≤ count || count < -countLimit then .error (.cell .countRange)
  else if count < 0 then .error (.cell .negativeCount)
  else if lengthLimit < count then .error (.cell .tooLong)
  else if roomLimit ≤ count then .error (.cell .noRoom)
  else .ok (List.replicate count.toNat 0)

/-- A number in the range of a byte. -/
def byteOfInt (n : Int) : Except Fault UInt8 :=
  if 0 ≤ n && n < 256 then .ok (UInt8.ofNat n.toNat) else .error (.cell .byteRange)

/-- An item as a byte. -/
def byteOf : Value → Except Fault UInt8
  | .int n => byteOfInt n
  | .bool b => .ok (if b then 1 else 0)
  | _ => .error (.cell .notBytes)

/-- Items as bytes; the first that is none decides. -/
def bytesOf : List Value → Except Fault Bytes
  | [] => .ok []
  | item :: items =>
    match byteOf item with
    | .error fault => .error fault
    | .ok b => (bytesOf items).map (b :: ·)

/-- A cell as bytes: a number counts zeros, and of a mapping the keys count. -/
def toBytes : Value → Except Fault Bytes
  | .bytes bs | .buffer bs => .ok bs
  | .int n => zeros n
  | .bool b => zeros (if b then 1 else 0)
  | .list items | .tuple items | .set items => bytesOf items
  | .dict entries => bytesOf (entries.map (·.1))
  | .null | .float _ | .text _ => .error (.cell .notBytes)

/-- A cell as bytes that may be missing. -/
def toBytes? : Value → Except Fault (Option Bytes)
  | .null => .ok none
  | cell => (toBytes cell).map some

/-! ## Texts and numbers -/

/-- A cell as a text. -/
def toText : Value → Except FieldDefect Text
  | .text t => .ok t
  | .buffer bs => (Utf8.decode bs).mapError fun _ => .malformedText
  | _ => .error .notText

/-- The numbers from which on a floating-point number does not tell an integer. -/
def wholeLimit : Nat := Nat.pow 2 63

/-- A floating-point number as an integer. -/
def integerOfFloat (x : Binary64) : Except FieldDefect Int :=
  if !x.isFinite then .error .notFinite
  else if x.scaled % Int.pow 2 1075 != 0 then .error .fractional
  else if (x.scaled / Int.pow 2 1075).natAbs < wholeLimit then .ok (x.scaled / Int.pow 2 1075)
  else .error .longInteger

/-- A cell as an integer. -/
def toInteger : Value → Except FieldDefect Int
  | .int n => .ok n
  | .bool b => .ok (if b then 1 else 0)
  | .float x => integerOfFloat x
  | .text t => if t.any CodePoint.isSurrogate then .error .malformedText else Numeral.read t
  | _ => .error .notInteger

/-! ## Fields -/

/-- The word for the kind of a cell. Bytes are lent by the database. -/
def kind : Value → Text
  | .bytes _ => "memoryview"
  | cell => cell.kind

/-- A cell as it is shown where it does not fit. -/
def literal : Value → Text
  | .bytes _ => "<memory>"
  | cell =>
    match cell.writtenLiteral with
    | .error _ => ("<unprintable " : Text) ++ cell.kind ++ (" object>" : Text)
    | .ok literal => literal

/-- A cell as a field of a record. -/
def toField {α : Type} (field : Text) (take : Value → Except FieldDefect α) (cell : Value) :
    Except Misfit α :=
  (take cell).mapError fun defect => ⟨field, defect, literal cell, kind cell⟩

end SignedBlog.Database.Cell
