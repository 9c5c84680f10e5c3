import SignedBlog.Text.CodePoint

/-!
Sets of code points given by a table of ranges.
-/

namespace SignedBlog.CodePoint

set_option autoImplicit false

/-- Whether a code point lies in one of the ranges of a table, both ends included. -/
def isWithin (ranges : List (Nat × Nat)) (c : CodePoint) : Bool :=
  ranges.any fun range => range.1 ≤ c.val && c.val ≤ range.2

end SignedBlog.CodePoint
