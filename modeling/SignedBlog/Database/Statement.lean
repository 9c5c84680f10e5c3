import SignedBlog.Database.Stamp
import SignedBlog.Post

/-!
The statements that the store sends to its database, with their texts and parameters.
-/

namespace SignedBlog.Database

set_option autoImplicit false

inductive Statement where
  | setLockTimeout (millis : Int)
  | setStatementTimeout (millis : Int)
  | createTables
  | lockMessages
  | insertBlog (blog : Blog)
  | selectBlogs
  | selectBlog (blogId : Bytes)
  | selectLatestArrival
  | insertMessage (post : Post) (timeReceived : Stamp) (isLocal : Bool)
  | selectMessagesOfBlog (blogId : Bytes)
  | selectMessageOfBlog (blogId messageId : Bytes)
  | selectText (messageId : Bytes)
  | selectMessage (messageId : Bytes)
  | selectMessages
  | countMessages
deriving DecidableEq

namespace Statement

/-- The tables: a row each for a blog and a message, numbered in the order of insertion. -/
def schema : Text :=
  "CREATE TABLE IF NOT EXISTS blogs ( seq BIGSERIAL, blog_id BYTEA PRIMARY KEY, author_id BYTEA NOT NULL, author_name TEXT NOT NULL, author_public_key BYTEA NOT NULL, author_format_version INTEGER NOT NULL ); CREATE TABLE IF NOT EXISTS blog_messages ( seq BIGSERIAL, message_id BYTEA PRIMARY KEY, blog_id BYTEA NOT NULL REFERENCES blogs (blog_id), parent_id BYTEA, author_id BYTEA NOT NULL, author_name TEXT NOT NULL, author_public_key BYTEA NOT NULL, author_format_version INTEGER NOT NULL, timestamp BIGINT NOT NULL, time_received BIGINT NOT NULL, text TEXT NOT NULL, signature BYTEA NOT NULL, is_local BOOLEAN NOT NULL ); CREATE INDEX IF NOT EXISTS ix_blog_messages_blog_seq ON blog_messages (blog_id, seq);"

/-- A selection of whole messages. -/
def messagesWhere (condition : Text) : Text :=
  ("SELECT message_id, blog_id, parent_id, author_id, author_name, author_public_key, author_format_version, timestamp, time_received, text, signature FROM blog_messages" : Text)
    ++ condition

/-- A statement that sets a timeout for the transaction. -/
def setTimeout (name : Text) (millis : Int) : Text :=
  ("SET LOCAL " : Text) ++ name ++ (" = '" : Text) ++ Text.ofInt millis ++ ("ms'" : Text)

/-- The text of a statement. -/
def sql : Statement → Text
  | .setLockTimeout millis => setTimeout "lock_timeout" millis
  | .setStatementTimeout millis => setTimeout "statement_timeout" millis
  | .createTables => schema
  | .lockMessages => "LOCK TABLE blog_messages IN SHARE ROW EXCLUSIVE MODE"
  | .insertBlog _ =>
    "INSERT INTO blogs ( blog_id, author_id, author_name, author_public_key, author_format_version ) VALUES (%s, %s, %s, %s, %s) ON CONFLICT (blog_id) DO NOTHING"
  | .selectBlogs =>
    "SELECT blog_id, author_id, author_name, author_public_key, author_format_version FROM blogs ORDER BY seq"
  | .selectBlog _ => "SELECT 1 FROM blogs WHERE blog_id = %s"
  | .selectLatestArrival => "SELECT COALESCE(MAX(time_received), 0) FROM blog_messages"
  | .insertMessage .. =>
    "INSERT INTO blog_messages ( message_id, blog_id, parent_id, author_id, author_name, author_public_key, author_format_version, timestamp, time_received, text, signature, is_local ) VALUES (%s, %s, %s, %s, %s, %s, %s, %s, %s, %s, %s, %s)"
  | .selectMessagesOfBlog _ => messagesWhere " WHERE blog_id = %s ORDER BY seq"
  | .selectMessageOfBlog .. => messagesWhere " WHERE blog_id = %s AND message_id = %s"
  | .selectText _ => "SELECT text FROM blog_messages WHERE message_id = %s"
  | .selectMessage _ => messagesWhere " WHERE message_id = %s"
  | .selectMessages => messagesWhere " ORDER BY seq"
  | .countMessages => "SELECT COUNT(*) FROM blog_messages"

/-- The cells of an author. -/
def authorCells (author : Author) : List Value :=
  [.bytes author.id, .text author.name, .bytes author.publicKey, .int author.formatVersion]

/-- The parameters of a statement. -/
def parameters : Statement → List Value
  | .insertBlog blog => .bytes blog.id :: authorCells blog.author
  | .selectBlog blogId => [.bytes blogId]
  | .insertMessage post timeReceived isLocal =>
    [.bytes post.messageId, .bytes post.blogId, Post.optionalBytes post.parentId]
      ++ authorCells post.author
      ++ [.int post.timestamp, timeReceived.toCell, .text post.text, .bytes post.signature,
        .bool isLocal]
  | .selectMessagesOfBlog blogId => [.bytes blogId]
  | .selectMessageOfBlog blogId messageId => [.bytes blogId, .bytes messageId]
  | .selectText messageId => [.bytes messageId]
  | .selectMessage messageId => [.bytes messageId]
  | _ => []

end Statement

end SignedBlog.Database
