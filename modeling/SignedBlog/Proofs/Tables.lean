import Mathlib.Data.List.Nodup
import SignedBlog.Database.PostStore

/-!
The tables and the commands of a database, as far as statements of the store name them.

A `Command` is a statement as SQL reads it: which tables and columns it names, what it selects, in which
order. Its text is put together from the names of tables and columns, and the text of every statement
is the text of its command: `Statement.text_command`. What a command does is told of `Cells`, where a
cell is found by the name of its column.
-/

namespace SignedBlog.Database

set_option autoImplicit false

/-! ## Columns and tables -/

inductive Kind where
  | bytea
  | text
  | integer
  | bigint
  | boolean
deriving DecidableEq

def Kind.name : Kind → Text
  | .bytea => "BYTEA"
  | .text => "TEXT"
  | .integer => "INTEGER"
  | .bigint => "BIGINT"
  | .boolean => "BOOLEAN"

def fitsBits (bits : Nat) (n : Int) : Bool := -Int.pow 2 (bits - 1) ≤ n && n < Int.pow 2 (bits - 1)

theorem fitsBits_of_nonneg {n : Int} (hnonneg : 0 ≤ n) (hlt : n < Int.pow 2 63) :
    fitsBits 64 n = true := by
  have hpos : -Int.pow 2 63 ≤ 0 := by decide
  change (decide (-Int.pow 2 63 ≤ n) && decide (n < Int.pow 2 63)) = true
  rw [decide_eq_true (Int.le_trans hpos hnonneg), decide_eq_true hlt]
  rfl

/-- A text that a database can hold: without surrogates, and without the code point zero. -/
def isStorable (t : Text) : Bool := t.all fun c => !c.isSurrogate && c.val != 0

/-- Whether a value goes into a column of a kind as it is. -/
def Kind.takes : Kind → Value → Bool
  | .bytea, .bytes _ => true
  | .text, .text t => isStorable t
  | .integer, .int n => fitsBits 32 n
  | .bigint, .int n => fitsBits 64 n
  | .boolean, .bool _ => true
  | _, _ => false

/-- The columns of both tables, without the number of the row. -/
inductive Column where
  | blogId
  | messageId
  | parentId
  | authorId
  | authorName
  | authorPublicKey
  | authorFormatVersion
  | timestamp
  | timeReceived
  | text
  | signature
  | isLocal
deriving DecidableEq

namespace Column

def name : Column → Text
  | .blogId => "blog_id"
  | .messageId => "message_id"
  | .parentId => "parent_id"
  | .authorId => "author_id"
  | .authorName => "author_name"
  | .authorPublicKey => "author_public_key"
  | .authorFormatVersion => "author_format_version"
  | .timestamp => "timestamp"
  | .timeReceived => "time_received"
  | .text => "text"
  | .signature => "signature"
  | .isLocal => "is_local"

def kind : Column → Kind
  | .blogId | .messageId | .parentId | .authorId | .authorPublicKey | .signature => .bytea
  | .authorName | .text => .text
  | .authorFormatVersion => .integer
  | .timestamp | .timeReceived => .bigint
  | .isLocal => .boolean

def isOptional (column : Column) : Bool := column = .parentId

def takes (column : Column) : Value → Bool
  | .null => column.isOptional
  | cell => column.kind.takes cell

def ofAuthor : List Column := [.authorId, .authorName, .authorPublicKey, .authorFormatVersion]

end Column

inductive Table where
  | blogs
  | messages
deriving DecidableEq

namespace Table

def name : Table → Text
  | .blogs => "blogs"
  | .messages => "blog_messages"

def columns : Table → List Column
  | .blogs => .blogId :: Column.ofAuthor
  | .messages =>
    [.messageId, .blogId, .parentId] ++ Column.ofAuthor
      ++ [.timestamp, .timeReceived, .text, .signature, .isLocal]

def key : Table → Column
  | .blogs => .blogId
  | .messages => .messageId

/-- Whether a column holds a key of the table of blogs. -/
def refers (table : Table) (column : Column) : Bool := table = .messages && column = .blogId

def declaration (table : Table) (column : Column) : Text :=
  column.name ++ (" " : Text) ++ column.kind.name
    ++ (if column = table.key then (" PRIMARY KEY" : Text)
      else if column.isOptional then [] else (" NOT NULL" : Text))
    ++ if table.refers column then (" REFERENCES blogs (blog_id)" : Text) else []

def create (table : Table) : Text :=
  ("CREATE TABLE IF NOT EXISTS " : Text) ++ table.name ++ (" ( seq BIGSERIAL, " : Text)
    ++ Text.join ", " (table.columns.map table.declaration) ++ (" );" : Text)

end Table

/-! ## Commands -/

/-- What is told of the rows that are found. -/
inductive Selection where
  | cells (columns : List Column)
  | presence
  /-- The greatest number in a column, or zero. -/
  | greatest (column : Column)
  | count
deriving DecidableEq

def Selection.text : Selection → Text
  | .cells columns => Text.join ", " (columns.map Column.name)
  | .presence => "1"
  | .greatest column => ("COALESCE(MAX(" : Text) ++ column.name ++ ("), 0)" : Text)
  | .count => "COUNT(*)"

/-- A search for the rows of a table that have given cells, in any order or in that of their
numbers. -/
structure Search where
  selection : Selection
  table : Table
  given : List Column
  isOrdered : Bool
deriving DecidableEq

def Search.condition (search : Search) : Text :=
  (if search.given.isEmpty then [] else (" WHERE " : Text)
      ++ Text.join " AND " (search.given.map fun column => column.name ++ (" = %s" : Text)))
    ++ if search.isOrdered then (" ORDER BY seq" : Text) else []

def Search.text (search : Search) : Text :=
  ("SELECT " : Text) ++ search.selection.text ++ (" FROM " : Text) ++ search.table.name
    ++ search.condition

inductive Command where
  | set (timeout : Text) (millis : Int)
  | create
  | lock (table : Table)
  /-- A row of which the named cells are given. One whose key is there may be skipped. -/
  | insert (table : Table) (columns : List Column) (skips : Bool)
  | select (search : Search)
deriving DecidableEq

def Command.text : Command → Text
  | .set timeout millis => Statement.setTimeout timeout millis
  | .create =>
    Table.blogs.create ++ (" " : Text) ++ Table.messages.create
      ++ (" CREATE INDEX IF NOT EXISTS ix_blog_messages_blog_seq ON blog_messages (blog_id, seq);" : Text)
  | .lock table => ("LOCK TABLE " : Text) ++ table.name ++ (" IN SHARE ROW EXCLUSIVE MODE" : Text)
  | .insert table columns skips =>
    ("INSERT INTO " : Text) ++ table.name ++ (" ( " : Text) ++ Text.join ", " (columns.map Column.name)
      ++ (" ) VALUES (" : Text) ++ Text.join ", " (columns.map fun _ => ("%s" : Text)) ++ (")" : Text)
      ++ if skips then (" ON CONFLICT (" : Text) ++ table.key.name ++ (") DO NOTHING" : Text) else []
  | .select search => search.text

def Column.ofMessage : List Column :=
  [.messageId, .blogId, .parentId] ++ ofAuthor ++ [.timestamp, .timeReceived, .text, .signature]

def Statement.command : Statement → Command
  | .setLockTimeout millis => .set "lock_timeout" millis
  | .setStatementTimeout millis => .set "statement_timeout" millis
  | .createTables => .create
  | .lockMessages => .lock .messages
  | .insertBlog _ => .insert .blogs Table.blogs.columns true
  | .selectBlogs => .select ⟨.cells Table.blogs.columns, .blogs, [], true⟩
  | .selectBlog _ => .select ⟨.presence, .blogs, [.blogId], false⟩
  | .selectLatestArrival => .select ⟨.greatest .timeReceived, .messages, [], false⟩
  | .insertMessage .. => .insert .messages Table.messages.columns false
  | .selectMessagesOfBlog _ => .select ⟨.cells Column.ofMessage, .messages, [.blogId], true⟩
  | .selectMessageOfBlog .. =>
    .select ⟨.cells Column.ofMessage, .messages, [.blogId, .messageId], false⟩
  | .selectText _ => .select ⟨.cells [.text], .messages, [.messageId], false⟩
  | .selectMessage _ => .select ⟨.cells Column.ofMessage, .messages, [.messageId], false⟩
  | .selectMessages => .select ⟨.cells Column.ofMessage, .messages, [], true⟩
  | .countMessages => .select ⟨.count, .messages, [], false⟩

theorem eq_ofString {t : Text} {s : String} {chars : List Char} (hs : s = String.ofList chars)
    (ht : t = chars.map CodePoint.ofChar) : t = Text.ofString s := by
  rw [ht, hs, Text.ofString, String.toList_ofList]

set_option maxRecDepth 20000 in
theorem Search.text_messages (given : List Column) (isOrdered : Bool) :
    Search.text ⟨.cells Column.ofMessage, .messages, given, isOrdered⟩
      = Statement.messagesWhere (condition ⟨.cells Column.ofMessage, .messages, given, isOrdered⟩) := by
  refine congrArg (· ++ condition ⟨_, _, given, isOrdered⟩) (eq_ofString rfl ?_)
  dsimp only
  decide +kernel

set_option maxRecDepth 20000 in
/-- The text of a statement is the text of what it asks for. -/
theorem Statement.text_command (statement : Statement) : statement.command.text = statement.sql := by
  cases statement with
  | setLockTimeout millis => rfl
  | setStatementTimeout millis => rfl
  | selectMessagesOfBlog | selectMessageOfBlog | selectMessage | selectMessages =>
    refine (Search.text_messages _ _).trans (congrArg messagesWhere (eq_ofString rfl ?_))
    decide +kernel
  | _ =>
    refine eq_ofString rfl ?_
    simp only [command]
    decide +kernel

/-! ## Rows -/

/-- The cells of a row, by the names of their columns. -/
abbrev Cells : Type := Column → Value

/-- Cells that are given for some columns; the others are missing. -/
def Cells.ofRow (columns : List Column) (row : Row) : Cells := fun column =>
  ((columns.zip row).lookup column).getD .null

def Table.takes (table : Table) (cells : Cells) : Bool :=
  table.columns.all fun column => column.takes (cells column)

/-- Whether two cells are the same bytes; only bytes are ever compared. -/
def sameBytes : Value → Value → Bool
  | .bytes a, .bytes b => a == b
  | _, _ => false

def Cells.agree (columns : List Column) (given : Row) (cells : Cells) : Bool :=
  (columns.zip given).all fun pair => sameBytes (cells pair.1) pair.2

structure Tuple where
  seq : Int
  cells : Cells

/-- Rows stand in the order of their numbers, none of which is greater than the last that was drawn. -/
structure Numbered (tuples : List Tuple) (drawn : Int) : Prop where
  rise : tuples.Pairwise fun a b => a.seq < b.seq
  le_drawn : ∀ tuple ∈ tuples, tuple.seq ≤ drawn

theorem pairwise_concat {α : Type} {rel : α → α → Prop} {items : List α} {item : α}
    (h : items.Pairwise rel) (hlast : ∀ old ∈ items, rel old item) :
    (items ++ [item]).Pairwise rel := by
  rw [List.pairwise_append]
  refine ⟨h, List.pairwise_singleton _ _, ?_⟩
  intro old hold last hmem
  rw [List.mem_singleton] at hmem
  rw [hmem]
  exact hlast old hold

namespace Numbered

variable {tuples : List Tuple} {tuple : Tuple} {drawn later : Int}

theorem nil (drawn : Int) : Numbered [] drawn where
  rise := .nil
  le_drawn := List.forall_mem_nil _

theorem mono (h : Numbered tuples drawn) (hle : drawn ≤ later) : Numbered tuples later :=
  ⟨h.rise, fun tuple htuple => Int.le_trans (h.le_drawn tuple htuple) hle⟩

theorem push (h : Numbered tuples drawn) (hlast : ∀ old ∈ tuples, old.seq < tuple.seq)
    (hseq : tuple.seq ≤ later) (hle : drawn ≤ later) : Numbered (tuples ++ [tuple]) later where
  rise := pairwise_concat h.rise hlast
  le_drawn := by
    rw [List.forall_mem_append, List.forall_mem_singleton]
    exact ⟨(h.mono hle).le_drawn, hseq⟩

end Numbered

/-- A search finds the rows that are as given, in the order that it asks for. -/
structure Search.Finds (search : Search) (given : Row) (tuples found : List Tuple) : Prop where
  perm : found.Perm (tuples.filter fun tuple => tuple.cells.agree search.given given)
  ordered : search.isOrdered = true → found.Pairwise fun a b => a.seq ≤ b.seq

def integer? : Value → Option Int
  | .int n => some n
  | _ => none

/-- What is told of rows that are found, in their order. -/
def Selection.rows (found : List Cells) : Selection → List Row
  | .cells columns => found.map fun cells => columns.map cells
  | .presence => found.map fun _ => [.int 1]
  | .greatest column => [[.int ((found.filterMap fun cells => integer? (cells column)).max?.getD 0)]]
  | .count => [[.int found.length]]

namespace Search.Finds

variable {search : Search} {given : Row} {tuples found : List Tuple} {α : Type} {items : List α}
  {cells : α → Cells} {holds : α → Bool}

/-- Where a table holds a list of items, a search finds those that are as given. -/
theorem perm_map (h : search.Finds given tuples found) (hitems : tuples.map Tuple.cells = items.map cells)
    (hgiven : ∀ item, (cells item).agree search.given given = holds item) :
    (found.map Tuple.cells).Perm ((items.filter holds).map cells) := by
  have hfound := h.perm.map Tuple.cells
  have hfilter : (tuples.filter fun tuple => tuple.cells.agree search.given given).map Tuple.cells
      = (tuples.map Tuple.cells).filter (Cells.agree search.given given) := by
    rw [List.filter_map]
    rfl
  have hsame : (Cells.agree search.given given ∘ cells) = holds := funext hgiven
  rw [hfilter, hitems, List.filter_map, hsame] at hfound
  exact hfound

/-- They are found in the order of the list if an order is asked for and the numbers of the rows rise. -/
theorem eq_map (h : search.Finds given tuples found) (hitems : tuples.map Tuple.cells = items.map cells)
    (hgiven : ∀ item, (cells item).agree search.given given = holds item)
    (hordered : search.isOrdered = true) (hrise : tuples.Pairwise fun a b => a.seq < b.seq) :
    found.map Tuple.cells = (items.filter holds).map cells := by
  have hfilter := hrise.filter fun tuple => tuple.cells.agree search.given given
  -- a row is told by its number
  have hsame : found = tuples.filter fun tuple => tuple.cells.agree search.given given := by
    refine h.perm.eq_of_pairwise ?_ (h.ordered hordered) (hfilter.imp fun hlt => Int.le_of_lt hlt)
    have hseqs : ((tuples.filter fun tuple => tuple.cells.agree search.given given).map
        Tuple.seq).Nodup := by
      rw [List.Nodup, List.pairwise_map]
      exact hfilter.imp fun hlt => Int.ne_of_lt hlt
    intro a b ha hb hab hba
    exact List.inj_on_of_nodup_map hseqs (h.perm.mem_iff.mp ha) hb (Int.le_antisymm hab hba)
  have hgiven' : (Cells.agree search.given given ∘ cells) = holds := funext hgiven
  have hcells : found.map Tuple.cells
      = (tuples.map Tuple.cells).filter (Cells.agree search.given given) := by
    rw [List.filter_map, hsame]
    rfl
  rw [hcells, hitems, List.filter_map, hgiven']

/-- At most one item is found the same in any order. -/
theorem eq_of_option (h : search.Finds given tuples found)
    (hitems : tuples.map Tuple.cells = items.map cells)
    (hgiven : ∀ item, (cells item).agree search.given given = holds item) {item? : Option α}
    (hone : items.filter holds = item?.toList) : found.map Tuple.cells = (item?.map cells).toList := by
  have hperm := h.perm_map hitems hgiven
  rw [hone] at hperm
  cases item? with
  | none => exact hperm.eq_nil
  | some item => exact List.perm_singleton.mp hperm

end Search.Finds

end SignedBlog.Database

namespace SignedBlog

open Database

def Blog.cells (blog : Blog) : Cells :=
  .ofRow Table.blogs.columns (Statement.insertBlog blog).parameters

def Stored.cells (stored : Stored) : Cells :=
  .ofRow Table.messages.columns
    (Statement.insertMessage stored.post (.whole stored.timeReceived) stored.isLocal).parameters

theorem Blog.toBlog_cells (blog : Blog) :
    Row.toBlog (Table.blogs.columns.map blog.cells) = .ok blog := rfl

theorem Stored.toPost_cells (stored : Stored) :
    Row.toPost (Column.ofMessage.map stored.cells) = .ok stored.post := by
  obtain ⟨⟨messageId, blogId, parentId, author, timestamp, text, signature⟩, time, isLocal⟩ := stored
  cases parentId <;> rfl

theorem Stored.toHeader_cells (stored : Stored) :
    Row.toHeader (Column.ofMessage.map stored.cells) = .ok stored.header := by
  obtain ⟨⟨messageId, blogId, parentId, author, timestamp, text, signature⟩, time, isLocal⟩ := stored
  cases parentId <;> rfl

end SignedBlog
