import SignedBlog.Node.Basic

/-!
Blogs and posts of a node, its own and those of peers.

A post made here is stored as it is; one that a peer delivers is verified first, and counted when it
does not pass.
-/

namespace SignedBlog.Node

set_option autoImplicit false

/-! ## Blogs -/

/-- Makes the personal blog of an author known. -/
def addPersonalBlog (author : Author) (node : Node) : Blog × Node :=
  let blog := Blog.personal author
  (blog, { node with store := node.store.addBlog blog })

/-- Makes a peer's blog known if its id belongs to its author. -/
def addBlog (blog : Blog) (node : Node) : Outcome Unit :=
  if blog.id = Identifier.blog blog.author.id then
    (.ok (), { node with store := node.store.addBlog blog })
  else (.error (.invalidPost .foreignBlogId), node)

/-! ## Reading -/

/-- The headers of a blog with what the node knows of their authors. -/
def headers (node : Node) (blogId : Bytes) : Except Fault (List Header) :=
  (node.store.headers blogId).map fun headers => headers.map node.identity.withStatus

def header (node : Node) (blogId messageId : Bytes) : Except Fault Header :=
  (node.store.header blogId messageId).map node.identity.withStatus

/-! ## Writing -/

/-- Stores a post that was made on this node. -/
def addLocalPost (post : Post) (node : Node) : Outcome Unit :=
  match node.storePost post true with
  | (.error fault, node) => (.error fault, node)
  | (.ok _, node) => (.ok (), node)

/-- Counts a peer's post that was found invalid. -/
def countRejectedRemote (node : Node) : Node :=
  { node with metrics :=
      { node.metrics with remotePostsRejected := node.metrics.remotePostsRejected + 1 } }

/-- Stores a post that a peer delivered, once it is verified. -/
def addRemotePost (post : Post) (node : Node) : Outcome Unit :=
  match post.verify with
  | .error (.invalidPost defect) => (.error (.invalidPost defect), node.countRejectedRemote)
  | .error fault => (.error fault, node)
  | .ok () =>
    match node.storePost post false with
    | (.error fault, node) => (.error fault, node)
    | (.ok _, node) => (.ok (), node)

end SignedBlog.Node
