import SignedBlog.Database.Dialogue
import SignedBlog.Store

/-!
The store of a node in a PostgreSQL database.

Every operation is a transaction on a connection of its own. Adding a message locks the table of
messages, so that arrival times never fall even when several nodes write.
-/

namespace SignedBlog.Database

set_option autoImplicit false

/-- How long a writing transaction waits, in milliseconds. -/
structure PostStore where
  lockTimeout : Int := 2000
  statementTimeout : Int := 10000

namespace PostStore

open Dialogue

/-- A transaction that writes, with its timeouts. -/
def writing {α : Type} (store : PostStore) (work : Dialogue α) : Dialogue α :=
  transaction do
    execute (.setLockTimeout store.lockTimeout)
    execute (.setStatementTimeout store.statementTimeout)
    work

/-- Creates the tables where there are none. -/
def ensureSchema (store : PostStore) : Dialogue Unit := store.writing (execute .createTables)

/-- A store with the usual timeouts, whose tables are there. -/
def opened : Dialogue PostStore := do
  let store : PostStore := {}
  store.ensureSchema
  return store

/-! ## Blogs -/

def addBlog (store : PostStore) (blog : Blog) : Dialogue Unit :=
  store.writing (execute (.insertBlog blog))

/-- Every blog, in the order they were added. -/
def blogs : Dialogue (List Blog) :=
  transaction do
    let rows ← query .selectBlogs
    ofExcept (rows.mapM Row.toBlog)

def containsBlog (blogId : Bytes) : Dialogue Bool :=
  transaction do
    let rows ← query (.selectBlog blogId)
    return !rows.isEmpty

/-! ## Messages -/

/-- Goes on if a blog is known. -/
def requireBlog (blogId : Bytes) : Dialogue Unit := do
  let rows ← query (.selectBlog blogId)
  if rows.isEmpty then fail (.unknownBlog blogId) else return ()

/-- What a failure means to somebody who adds a message. -/
def explain (messageId : Bytes) : Fault → Fault
  | .database refusal =>
    if refusal.code = some ("23505" : Text) then .duplicateMessage messageId
    else if refusal.code = some ("55P03" : Text) || refusal.code = some ("57014" : Text) then
      .storeBusy
    else .database refusal
  | fault => fault

/-- The latest arrival, in whatever form the database has it. -/
def latestArrival : Dialogue Value := do
  let rows ← query .selectLatestArrival
  let row ← ofExcept (Row.single rows)
  ofExcept (row.cellAt 0)

/-- Adds a post to a known blog and gives the time of its arrival. -/
def insertMessage (clock : Int) (post : Post) (isLocal : Bool) : Dialogue Stamp := do
  execute .lockMessages
  requireBlog post.blogId
  let latest ← latestArrival
  let stamp ← ofExcept (Stamp.later clock latest)
  execute (.insertMessage post stamp isLocal)
  return stamp

/-- Adds a post to a known blog. It arrives at the time of the clock, or with the latest message if
the clock is behind. -/
def addMessage (store : PostStore) (clock : Int) (post : Post) (isLocal : Bool) : Dialogue Header :=
  (store.writing (insertMessage clock post isLocal)).andThen fun
    | .error fault => .finish (.error (explain post.messageId fault))
    | .ok stamp => .finish (stamp.millis.map post.header)

/-- The headers of a blog, in the order its messages arrived. -/
def headers (blogId : Bytes) : Dialogue (List Header) :=
  transaction do
    requireBlog blogId
    let rows ← query (.selectMessagesOfBlog blogId)
    ofExcept (rows.mapM Row.toHeader)

/-- The first row of an answer about a message. -/
def messageRow (messageId : Bytes) (statement : Statement) : Dialogue Row := do
  match ← query statement with
  | [] => fail (.unknownMessage messageId)
  | row :: _ => return row

def header (blogId messageId : Bytes) : Dialogue Header :=
  transaction do
    let row ← messageRow messageId (.selectMessageOfBlog blogId messageId)
    ofExcept row.toHeader

/-- The text of a message, in whatever form the database has it. -/
def text (messageId : Bytes) : Dialogue Value :=
  transaction do
    let row ← messageRow messageId (.selectText messageId)
    ofExcept (row.cellAt 0)

def message (messageId : Bytes) : Dialogue Post :=
  transaction do
    let row ← messageRow messageId (.selectMessage messageId)
    ofExcept row.toPost

/-- Every post, in the order they arrived. -/
def posts : Dialogue (List Post) :=
  transaction do
    let rows ← query .selectMessages
    ofExcept (rows.mapM Row.toPost)

/-- The count of messages, in whatever form the database has it. -/
def count : Dialogue Value :=
  transaction do
    let rows ← query .countMessages
    let row ← ofExcept (Row.single rows)
    ofExcept (row.cellAt 0)

/-- Whether the store answers. -/
def ping : Dialogue Bool := do
  discard count
  return true

end PostStore

end SignedBlog.Database
