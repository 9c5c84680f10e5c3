import SignedBlog.Entries
import SignedBlog.Number.Binary64

/-!
JSON values. Whole numbers are unbounded and told apart from floating-point ones; an object keeps
its fields in the order they were written.
-/

namespace SignedBlog

set_option autoImplicit false

inductive Json where
  | null
  | bool (b : Bool)
  | int (n : Int)
  | float (x : Binary64)
  | text (t : Text)
  | array (items : List Json)
  | object (fields : List (Text × Json))

namespace Json

instance : Inhabited Json := ⟨.null⟩

/-- The value of the last field of a name. -/
def lastField? (name : Text) (fields : List (Text × Json)) : Option Json :=
  fields.foldl (fun found field => if field.1 = name then some field.2 else found) none

/-- Fields of which each name keeps the place of its first occurrence and the value of its last. -/
def mergeFields (fields : List (Text × Json)) : List (Text × Json) :=
  Entries.merge (· == ·) fields

end Json

end SignedBlog
