import SignedBlog.Node.Blogs

/-!
The feed of a node and publishing to it.

* `Node.listPosts` gives every known post, oldest arrival first.
* `Node.createPost` publishes a text to the local author's blog.
-/

namespace SignedBlog.Node

set_option autoImplicit false

/-! ## Listing -/

/-- The headers of several blogs, one blog after the other. -/
def collectHeaders (node : Node) : List Blog → Except Fault (List Header)
  | [] => .ok []
  | blog :: blogs =>
    match node.headers blog.id with
    | .error fault => .error fault
    | .ok found => (node.collectHeaders blogs).map (found ++ ·)

/-- Headers by arrival; those that arrived at one time keep their order. -/
def sortByArrival (headers : List Header) : List Header :=
  headers.mergeSort fun a b => decide (a.timeReceived ≤ b.timeReceived)

/-- Joins headers with their texts, which are read in order; `done` holds the records so far, newest
first. -/
def joinTexts : (done : List Record) → List Header → Node → Outcome (List Record)
  | done, [], node => (.ok done.reverse, node)
  | done, header :: headers, node =>
    match node.readText header.id with
    | (.error fault, node) => (.error fault, node)
    | (.ok text, node) => joinTexts (⟨header, text⟩ :: done) headers node

def countListing (node : Node) : Node :=
  { node with metrics := { node.metrics with listingsServed := node.metrics.listingsServed + 1 } }

/-- Every known post, oldest arrival first. A text that cannot be read ends the listing. -/
def listPosts (node : Node) : Outcome (List Record) :=
  match node.collectHeaders node.store.blogs with
  | .error fault => (.error fault, node)
  | .ok headers =>
    match joinTexts [] (sortByArrival headers) node with
    | (.error fault, node) => (.error fault, node)
    | (.ok records, node) => (.ok records, node.countListing)

/-! ## Publishing -/

/-- The length of a text in UTF-8 bytes exceeds a limit. -/
def exceeds (text : Text) (limit : Int) : Except Utf8.SurrogateRun Bool :=
  (Utf8.encode text).map fun bytes => decide (limit < (bytes.length : Int))

/-- Whether a text may be published under a limit. -/
def admitText (text : Text) (limit : Int) : Except TextDefect Unit :=
  match exceeds text limit with
  | .error _ => .error .notUtf8
  | .ok true => .error .tooLong
  | .ok false => .ok ()

/-- Counts a text that was not accepted. -/
def countRejected (node : Node) : Node :=
  { node with metrics := { node.metrics with postsRejected := node.metrics.postsRejected + 1 } }

def countCreated (node : Node) : Node :=
  { node with metrics := { node.metrics with postsCreated := node.metrics.postsCreated + 1 } }

/-- Signs a text as a post of the local author's blog, at the time of the clock. -/
def draft (text : Text) (node : Node) : Except Fault Post := do
  let author ← node.identity.localAuthor
  Post.compose (Identifier.blog author.id) node.clock none author text

/-- Publishes a text: it is checked before anything else, then signed, stored and read back. -/
def createPost (text : Text) (node : Node) : Outcome Record :=
  match admitText text node.textLimit with
  | .error defect => (.error (.invalidText defect), node.countRejected)
  | .ok () =>
    match node.draft text with
    | .error fault => (.error fault, node)
    | .ok post =>
      match node.addLocalPost post with
      | (.error fault, node) => (.error fault, node)
      | (.ok (), node) =>
        match node.header post.blogId post.messageId with
        | .error fault => (.error fault, node)
        | .ok header => (.ok ⟨header, text⟩, node.countCreated)

end SignedBlog.Node
