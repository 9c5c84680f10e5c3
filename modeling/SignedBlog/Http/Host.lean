import SignedBlog.Http.Message
import SignedBlog.Number.Integer
import SignedBlog.Text.Address

/-!
The host that a request names.

A host is a name, or an address between brackets; a colon and a port may follow. What is no host is
passed over, as if the request named none.

* `isHost` tells a host, and `Request.host` gives the one of a request.
-/

namespace SignedBlog.Http

set_option autoImplicit false

/-- The name by which a node is known, unless a request names it otherwise. -/
def usualHost : Text := "node"

/-- Code points besides letters and digits that stand for themselves in a host. -/
def hostMarks : Text := "-._~!$&'()*+,;="

def isHostChar (c : CodePoint) : Bool :=
  c.isAsciiLetter || c.isAsciiDigit || hostMarks.contains c

/-- Code points of a name. A percent sign may stand in it, whatever follows. -/
def isNameChar (c : CodePoint) : Bool := isHostChar c || c == ('%' : CodePoint)

/-- Code points of an address of a later version. -/
def isLaterChar (c : CodePoint) : Bool := isHostChar c || c == (':' : CodePoint)

/-- Whether a text is an address as it stands between brackets: groups without a zone, or one of a
later version. -/
def isBracketed (t : Text) : Bool :=
  Address.isGroups t ||
    ((Address.laterPart? t).map fun rest => !rest.isEmpty && rest.all isLaterChar).getD false

/-- The greatest port. -/
def maxPort : Nat := 65535

/-- Whether a text is the number of a port; zeros may stand before it. -/
def isPort (t : Text) : Bool :=
  !t.isEmpty && t.all CodePoint.isAsciiDigit && t.length ≤ Integer.digitLimit &&
    Integer.ofDigits (t.map fun d => d.val - 0x30) ≤ maxPort

/-- Whether a text is empty, or a colon and a port. -/
def isPortPart : Text → Bool
  | [] => true
  | c :: port => c == (':' : CodePoint) && isPort port

/-- Whether a text names a host: a name or an address in brackets, and perhaps a port. -/
def isHost : Text → Bool
  | [] => false
  | c :: t =>
    if c == ('[' : CodePoint) then
      match Text.cutFirst? (· == (']' : CodePoint)) t with
      | some (address, port) => isBracketed address && isPortPart port
      | none => false
    else isNameChar c && isPortPart (t.dropWhile isNameChar)

/-- The host that a request names, if it does. -/
def Request.host (request : Request) : Text :=
  match request.header? "host" with
  | some host => if isHost host then host else usualHost
  | none => usualHost

end SignedBlog.Http
