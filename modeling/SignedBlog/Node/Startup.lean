import SignedBlog.Database.PostStore
import SignedBlog.Database.Settings
import SignedBlog.Node.Basic

/-!
Starting a node from its surroundings: settings, time and randomness.

With posts in memory the node is ready at once; with posts in a database there is a dialogue to be
held first.
-/

namespace SignedBlog

set_option autoImplicit false

/-- What a node finds when it starts. -/
structure Surroundings where
  env : Environment
  /-- The time, in milliseconds. -/
  now : Int
  /-- The seed of an identity that has to be made. -/
  fresh : Ed25519.Seed

/-- The identity that the settings describe. -/
def Surroundings.identity (around : Surroundings) : LoadedIdentity :=
  .ofEnvironment around.env around.fresh

namespace Node

/-- A node on a store in memory. -/
def startOn (around : Surroundings) (store : Store) : Except Fault Node := do
  let author ← around.identity.result
  (build store author around.now {} none {}).1

/-- What has to be said to a database before a node can work on it; the answer is how many messages
it holds. -/
def prepareDatabase (around : Surroundings) : Database.Dialogue Value := do
  let store ← Database.PostStore.opened
  let author ← Database.Dialogue.ofExcept around.identity.result
  store.addBlog (Blog.personal author.toAuthor)
  Database.PostStore.count

end Node

/-- A node that is ready, or the database that it needs. -/
inductive Launch where
  | ready (node : Node)
  | onDatabase (settings : Database.Settings)

/-- Starts a node on the kind of store that the settings choose. -/
def Launch.start (around : Surroundings) : Except Fault Launch := do
  match ← Database.Backing.ofEnvironment around.env with
  | .memory => return .ready (← Node.startOn around .empty)
  | .database settings => return .onDatabase settings

end SignedBlog
