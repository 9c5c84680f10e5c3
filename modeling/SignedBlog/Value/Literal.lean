import SignedBlog.Fault
import SignedBlog.Text.Quoted
import SignedBlog.Value.Basic

/-!
Values as readable literals, the form in which a log shows what JSON cannot say.

* `Value.literal` is the literal, and `Value.literalFault?` says whether it can be written.
* `Value.display` shows a value.
-/

namespace SignedBlog.Value

set_option autoImplicit false

/-- Items between brackets, with a comma and a blank between them. -/
def bracketed (opening closing : Text) (items : List Text) : Text :=
  opening ++ Text.join ", " items ++ closing

mutual

/-- The literal of a value. -/
def literal : Value → Text
  | .null => "None"
  | .bool true => "True"
  | .bool false => "False"
  | .int n => Text.ofInt n
  | .float x => x.toText
  | .text t => Quoted.ofText t
  | .bytes bs => Quoted.ofBytes bs
  | .buffer bs => Quoted.ofBuffer bs
  | .list items => bracketed "[" "]" (literalItems items)
  | .tuple [item] => bracketed "(" ",)" [literal item]
  | .tuple items => bracketed "(" ")" (literalItems items)
  | .set [] => "set()"
  | .set items => bracketed "\x7b" "\x7d" (literalItems items)
  | .dict entries => bracketed "\x7b" "\x7d" (literalEntries entries)

def literalItems : List Value → List Text
  | [] => []
  | item :: items => literal item :: literalItems items

def literalEntries : List (Value × Value) → List Text
  | [] => []
  | (key, value) :: entries =>
    (literal key ++ (": " : Text) ++ literal value) :: literalEntries entries

end

/-- The deepest nesting of which a literal is written. -/
def literalDepth : Nat := 990

mutual

/-- Why the literal of a value cannot be written, if it cannot: it is nested too deep, or an integer has
too many digits. The first such part decides. There is room for so many sequences and mappings within
each other. -/
def literalFault? (room : Nat) : Value → Option Fault
  | .int n => if Integer.fits Integer.usualLimit n then none else some (.setting .longInteger)
  | .list items | .tuple items | .set items =>
    match room with
    | 0 => some .tooDeep
    | room + 1 => itemsFault? room items
  | .dict entries =>
    match room with
    | 0 => some .tooDeep
    | room + 1 => entriesFault? room entries
  | _ => none

def itemsFault? (room : Nat) : List Value → Option Fault
  | [] => none
  | item :: items => (literalFault? room item).or (itemsFault? room items)

def entriesFault? (room : Nat) : List (Value × Value) → Option Fault
  | [] => none
  | (key, value) :: entries =>
    ((literalFault? room key).or (literalFault? room value)).or (entriesFault? room entries)

end

/-- The literal of a value, if it can be written. -/
def writtenLiteral (value : Value) : Except Fault Text :=
  match literalFault? literalDepth value with
  | some fault => .error fault
  | none => .ok value.literal

/-- A text as it is, and any other value as its literal. -/
def display : Value → Except Fault Text
  | .text t => .ok t
  | value => value.writtenLiteral

end SignedBlog.Value
