import SignedBlog.Post

/-!
The store of a node in memory: blogs, and posts in the order they arrived.

Each blog has a shelf that lists the ids of its messages, oldest first; the messages themselves lie
in one list. Every message gets an arrival time that is at least the one before, whatever the clock
says.
-/

namespace SignedBlog

set_option autoImplicit false

/-- A stored post with its arrival time. -/
structure Stored where
  post : Post
  timeReceived : Int
  /-- Whether the post was made on this node. -/
  isLocal : Bool
deriving DecidableEq

/-- A blog and the ids of its messages, oldest first. -/
structure Shelf where
  blog : Blog
  ids : List Bytes
deriving DecidableEq

structure Store where
  shelves : List Shelf
  messages : List Stored
  /-- The latest arrival time. -/
  latest : Int
deriving DecidableEq

/-- The header of a post that arrived at some time; the store knows nothing of its author. -/
def Post.header (post : Post) (timeReceived : Int) : Header where
  id := post.messageId
  blogId := post.blogId
  parentId := post.parentId
  author := post.author
  authorStatus := .unknown
  timestamp := post.timestamp
  timeReceived := timeReceived

def Stored.header (stored : Stored) : Header := stored.post.header stored.timeReceived

namespace Store

def empty : Store := ⟨[], [], 0⟩

/-- Every blog, in the order they were added. -/
def blogs (store : Store) : List Blog := store.shelves.map (·.blog)

def containsBlog (store : Store) (blogId : Bytes) : Bool :=
  store.shelves.any fun shelf => shelf.blog.id == blogId

def shelf? (store : Store) (blogId : Bytes) : Option Shelf :=
  store.shelves.find? fun shelf => shelf.blog.id == blogId

def stored? (store : Store) (messageId : Bytes) : Option Stored :=
  store.messages.find? fun stored => stored.post.messageId == messageId

/-- Adds a blog at the end; one that is known stays as it is. -/
def addBlog (store : Store) (blog : Blog) : Store :=
  if store.containsBlog blog.id then store
  else { store with shelves := store.shelves ++ [⟨blog, []⟩] }

/-- Adds a post to a known blog, unless its id is stored already. It arrives at the time of the
clock, or with the latest message if the clock is behind. -/
def addMessage (store : Store) (clock : Int) (post : Post) (isLocal : Bool) :
    Except Fault (Header × Store) :=
  if !store.containsBlog post.blogId then .error (.unknownBlog post.blogId)
  else if (store.stored? post.messageId).isSome then .error (.duplicateMessage post.messageId)
  else
    let stored : Stored := ⟨post, max clock store.latest, isLocal⟩
    .ok (stored.header, {
      shelves := store.shelves.map fun shelf =>
        if shelf.blog.id = post.blogId then { shelf with ids := shelf.ids ++ [post.messageId] }
        else shelf
      messages := store.messages ++ [stored]
      latest := stored.timeReceived })

/-- The headers of a blog, in the order its messages arrived. -/
def headers (store : Store) (blogId : Bytes) : Except Fault (List Header) :=
  match store.shelf? blogId with
  | none => .error (.unknownBlog blogId)
  | some shelf => .ok (shelf.ids.filterMap fun id => (store.stored? id).map Stored.header)

/-- The header of a message of a blog. -/
def header (store : Store) (blogId messageId : Bytes) : Except Fault Header :=
  match store.stored? messageId with
  | none => .error (.unknownMessage messageId)
  | some stored =>
    if stored.post.blogId = blogId then .ok stored.header else .error (.unknownMessage messageId)

/-- The post of a message id. -/
def message (store : Store) (messageId : Bytes) : Except Fault Post :=
  match store.stored? messageId with
  | none => .error (.unknownMessage messageId)
  | some stored => .ok stored.post

def text (store : Store) (messageId : Bytes) : Except Fault Text :=
  (store.message messageId).map (·.text)

/-- Every post, in the order they arrived. -/
def posts (store : Store) : List Post := store.messages.map (·.post)

def count (store : Store) : Nat := store.messages.length

@[simp] theorem blogs_empty : empty.blogs = [] := rfl

@[simp] theorem posts_empty : empty.posts = [] := rfl

theorem length_posts (store : Store) : store.posts.length = store.count := by
  simp [posts, count]

end Store

end SignedBlog
