import SignedBlog.Database.Cell
import SignedBlog.Post

/-!
Rows of an answer, and the records that they hold.

The columns of a row stand in the order in which the statement names them; further cells behind them
do not count.
-/

namespace SignedBlog.Database

set_option autoImplicit false

/-- A row of an answer. -/
abbrev Row : Type := List Value

namespace Row

/-- The cell of a column. -/
def cellAt (row : Row) (column : Nat) : Except Fault Value :=
  match row[column]? with
  | some cell => .ok cell
  | none => .error (.beyondEnd "tuple")

/-- Two fields of a record. What is wrong with either of them is told. -/
def fields {α β : Type} (record : Text) (first : Except Misfit α) (second : Except Misfit β) :
    Except Fault (α × β) :=
  match first, second with
  | .ok a, .ok b => .ok (a, b)
  | .error misfit, .ok _ | .ok _, .error misfit => .error (.invalidRecord record [misfit])
  | .error misfit, .error other => .error (.invalidRecord record [misfit, other])

def bytesAt (row : Row) (column : Nat) : Except Fault Bytes := do
  Cell.toBytes (← row.cellAt column)

/-- The author in four columns from the given one on. -/
def authorAt (row : Row) (column : Nat) : Except Fault Author :=
  match (row.drop column).take 4 with
  | [id, name, publicKey, formatVersion] => do
    let id ← Cell.toBytes id
    let publicKey ← Cell.toBytes publicKey
    let (formatVersion, name) ← fields "Author"
      (Cell.toField "format_version" Cell.toInteger formatVersion) (Cell.toField "name" Cell.toText name)
    return { formatVersion, id, name, publicKey }
  | cells => .error (.cell (.tooFew cells.length))

def toBlog (row : Row) : Except Fault Blog := do
  return ⟨← row.bytesAt 0, ← row.authorAt 1⟩

/-- Every cell is there before a time or a text is read. -/
def toPost (row : Row) : Except Fault Post := do
  let messageId ← row.bytesAt 0
  let blogId ← row.bytesAt 1
  let parentId ← Cell.toBytes? (← row.cellAt 2)
  let author ← row.authorAt 3
  let timestamp ← row.cellAt 7
  let text ← row.cellAt 9
  let signature ← row.bytesAt 10
  let (timestamp, text) ← fields "BlogPost"
    (Cell.toField "timestamp" Cell.toInteger timestamp) (Cell.toField "text" Cell.toText text)
  return { messageId, blogId, parentId, author, timestamp, text, signature }

/-- Every cell is there before a time is read. -/
def toHeader (row : Row) : Except Fault Header := do
  let id ← row.bytesAt 0
  let blogId ← row.bytesAt 1
  let parentId ← Cell.toBytes? (← row.cellAt 2)
  let author ← row.authorAt 3
  let timestamp ← row.cellAt 7
  let timeReceived ← row.cellAt 8
  let (timestamp, timeReceived) ← fields "BlogPostHeader"
    (Cell.toField "timestamp" Cell.toInteger timestamp)
    (Cell.toField "time_received" Cell.toInteger timeReceived)
  return { id, blogId, parentId, author, authorStatus := .unknown, timestamp, timeReceived }

/-- The only row that an answer is sure to have. -/
def single (rows : List Row) : Except Fault Row :=
  match rows with
  | [] => .error .missingRow
  | row :: _ => .ok row

end Row

end SignedBlog.Database
