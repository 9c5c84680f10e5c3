import SignedBlog.Node.Basic

/-!
Health of a node: whether it has an identity and whether its store answers.
-/

namespace SignedBlog

set_option autoImplicit false

/-- One thing that was looked at: its name, whether it is well, and what else is to be said. -/
structure HealthCheck where
  subject : Text
  healthy : Bool
  details : List (Text × Value)

structure Health where
  checks : List HealthCheck

namespace Health

/-- The word for a state of health. -/
def word (healthy : Bool) : Value := .text (if healthy then "healthy" else "unhealthy")

/-- A node is well if everything that was looked at is. -/
def healthy (health : Health) : Bool := health.checks.all (·.healthy)

/-- The checks by name. -/
def toValue (health : Health) : Value :=
  .record (health.checks.map fun check =>
    (check.subject, .record (("status", word check.healthy) :: check.details)))

end Health

namespace Node

def checkIdentity (node : Node) : HealthCheck :=
  match node.identity.author? with
  | some author => ⟨"identity", true, [("author_name", .text author.name)]⟩
  | none => ⟨"identity", false, [("error", .text "No local identity")]⟩

def checkStore (node : Node) : HealthCheck :=
  match node.pingStore with
  | .error fault => ⟨"blog_store", false, [("error", .text fault.message)]⟩
  | .ok () =>
    ⟨"blog_store", true, [("post_count", .int node.store.count),
      ("blog_count", .int node.store.blogs.length)]⟩

/-- Looks at a node that is alive, and at its identity and its store where asked to. -/
def health (node : Node) (withIdentity withStore : Bool) : Health where
  checks :=
    ⟨"liveness", true, []⟩ ::
      (if withIdentity then [node.checkIdentity] else []) ++
      (if withStore then [node.checkStore] else [])

end Node

end SignedBlog
