import SignedBlog.Fault
import SignedBlog.Text.Case
import SignedBlog.Text.Escaped

/-!
Settings from the environment: names with texts.

The environment holds bytes, so a text is set as bytes and read from them again. Not every text can be
set: it has no NUL, and a name is neither empty nor has an equals sign.
-/

namespace SignedBlog

set_option autoImplicit false

/-- Variables and their values. -/
structure Environment where
  entries : List (Text × Text)

namespace Environment

/-! ## Setting -/

/-- A variable as the environment holds it, if it can. -/
def hold (name value : Text) : Except Fault (Text × Text) := do
  let name ← (Utf8.encodeEscaped name).mapError .unencodable
  let value ← (Utf8.encodeEscaped value).mapError .unencodable
  if name.contains 0 || value.contains 0 then throw (.unsettable .holdsNul)
  if name.contains 0x3D then throw (.unsettable .equalsInName)
  if name.isEmpty then throw (.unsettable .noName)
  return (Utf8.decodeEscaped name, Utf8.decodeEscaped value)

/-- The environment with the given variables; the first that cannot be set decides. -/
def ofVariables (given : List (Text × Text)) : Except Fault Environment :=
  (given.mapM fun entry => hold entry.1 entry.2).map Environment.mk

/-! ## Reading -/

def lookup? (env : Environment) (name : Text) : Option Text :=
  (env.entries.find? fun entry => entry.1 == name).map (·.2)

/-- The value of a variable, or a default where it is not set. -/
def lookup (env : Environment) (name default : Text) : Text := (env.lookup? name).getD default

/-- Whether the node runs in production. -/
def isProduction (env : Environment) : Bool :=
  let value := (env.lookup "NODEBLOG_PRODUCTION" []).lower
  [("1" : Text), ("true" : Text), ("yes" : Text)].contains value

end Environment

end SignedBlog
