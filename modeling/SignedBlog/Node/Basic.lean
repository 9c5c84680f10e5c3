import SignedBlog.Identity
import SignedBlog.Metrics
import SignedBlog.Record
import SignedBlog.Store

/-!
A running node: store, identity, clock, counters and the limit on texts it publishes.

Every operation takes the node and gives its answer together with the node as it is afterwards,
also when it was refused. While a post is published the clock is read twice, for the time that the
post states and for that of its arrival, and may read differently.
-/

namespace SignedBlog

set_option autoImplicit false

/-- How far the store answers. -/
structure Availability where
  /-- How many texts can still be read, if there is a limit. -/
  readsLeft : Option Nat := none
  /-- Why the store cannot be reached, if it cannot. -/
  unreachable : Option Text := none

structure Node where
  store : Store
  identity : Identity
  /-- What the clock reads when a post is made. -/
  clock : Int
  metrics : Metrics
  textLimit : Int
  availability : Availability
  /-- How a text fails to be read once no more can be. -/
  readFault : Fault := .messageGone
  /-- What the clock reads when the store takes a post. -/
  arrivalClock : Int := clock

/-- The outcome of an operation on a node. -/
abbrev Outcome (α : Type) : Type := Except Fault α × Node

namespace Node

/-- A limit on texts may be lower than that of posts, but not higher. -/
def checkLimit : Option Int → Except Fault Int
  | none => .ok maxTextLength
  | some limit =>
    if (maxTextLength : Int) < limit then .error (.setting (.textLimit limit)) else .ok limit

/-- A node without a local author. -/
def anonymous (store : Store) (clock : Int) (metrics : Metrics) (limit : Option Int)
    (availability : Availability) (readFault : Fault := .messageGone) : Except Fault Node :=
  (checkLimit limit).map fun textLimit =>
    { store, identity := ⟨none⟩, clock, metrics, textLimit, availability, readFault }

/-- Wires a node of a local author on a store: the author's blog is made known first, then the
limit is checked. The store as it is afterwards comes with either result. -/
def build (store : Store) (author : LocalAuthor) (clock : Int) (metrics : Metrics)
    (limit : Option Int) (availability : Availability) (readFault : Fault := .messageGone) :
    Except Fault Node × Store :=
  let store := store.addBlog (Blog.personal author.toAuthor)
  ((checkLimit limit).map fun textLimit =>
    { store, identity := ⟨some author⟩, clock, metrics, textLimit, availability, readFault },
    store)

/-! ## Clock and identity -/

def setClock (node : Node) (time : Int) : Node := { node with clock := time, arrivalClock := time }

def advanceClock (node : Node) (millis : Int) : Node :=
  { node with clock := node.clock + millis, arrivalClock := node.arrivalClock + millis }

/-- Lets the clock read another time when the store takes a post. -/
def setArrivalClock (node : Node) (time : Int) : Node := { node with arrivalClock := time }

def registerLocalAuthor (author : LocalAuthor) (node : Node) : Outcome Unit :=
  match node.identity.register author with
  | .error fault => (.error fault, node)
  | .ok identity => (.ok (), { node with identity })

/-! ## The store as others see it -/

/-- Reads the text of a message; every call counts, whether the message is known or not. -/
def readText (messageId : Bytes) (node : Node) : Outcome Text :=
  match node.availability.readsLeft with
  | none => (node.store.text messageId, node)
  | some 0 => (.error node.readFault, node)
  | some (left + 1) =>
    (node.store.text messageId,
      { node with availability := { node.availability with readsLeft := some left } })

/-- Whether the store can be reached. -/
def pingStore (node : Node) : Except Fault Unit :=
  match node.availability.unreachable with
  | none => .ok ()
  | some reason => .error (.storeUnreachable reason)

/-- Adds a post to the store, which reads the clock anew. -/
def storePost (post : Post) (isLocal : Bool) (node : Node) : Outcome Header :=
  match node.store.addMessage node.arrivalClock post isLocal with
  | .error fault => (.error fault, node)
  | .ok (header, store) => (.ok header, { node with store })

end Node

end SignedBlog
