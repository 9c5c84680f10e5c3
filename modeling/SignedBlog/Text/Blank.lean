import SignedBlog.Text.Range

/-!
Blank characters, and texts without the blanks around them.
-/

namespace SignedBlog

set_option autoImplicit false

/-- White space in the wide sense: Unicode's spaces and line ends and the four separators
U+001C to U+001F. -/
def CodePoint.blankRanges : List (Nat × Nat) :=
  [(0x9, 0xD), (0x1C, 0x20), (0x85, 0x85), (0xA0, 0xA0), (0x1680, 0x1680), (0x2000, 0x200A),
    (0x2028, 0x2029), (0x202F, 0x202F), (0x205F, 0x205F), (0x3000, 0x3000)]

def CodePoint.isBlank (c : CodePoint) : Bool := c.isWithin blankRanges

/-- A text without the code points of one class at its front. -/
def Text.trimStart (drop : CodePoint → Bool) (t : Text) : Text := t.dropWhile drop

/-- A text without the code points of one class at its end. -/
def Text.trimEnd (drop : CodePoint → Bool) (t : Text) : Text := (t.reverse.dropWhile drop).reverse

/-- A text without the code points of one class at either end. -/
def Text.trim (drop : CodePoint → Bool) (t : Text) : Text := (t.trimStart drop).trimEnd drop

/-- A text without the blanks around it. -/
def Text.strip (t : Text) : Text := t.trim CodePoint.isBlank

end SignedBlog
