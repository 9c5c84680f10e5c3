import SignedBlog.CommandLine.Part

/-!
Commands, as they are read from a command line.

The first word names the command and everything behind it belongs to the command. The line is read
from left to right, and the first demand for help or the first misuse ends the reading; words and
switches that nobody knows are misuse only at the end.

* `Reading.ofArguments` reads a command line.
-/

namespace SignedBlog.CommandLine

set_option autoImplicit false

inductive Command where
  | generateIdentity (name : Text)
  | listPosts
  /-- The text is missing if what was given for it counts as nothing. -/
  | createPost (text : Option Text)
  | verifyPosts
deriving DecidableEq

/-- What comes of reading a command line. -/
inductive Reading where
  | run (command : Command)
  /-- The line asks for help. -/
  | help
  | misuse
  /-- The line is empty. -/
  | nothing
deriving DecidableEq

/-- A command before its switches are read. -/
inductive Verb where
  | generateIdentity
  | listPosts
  | createPost
  | verifyPosts
deriving DecidableEq

namespace Verb

def name : Verb → Text
  | .generateIdentity => "generate-identity"
  | .listPosts => "list-posts"
  | .createPost => "create-post"
  | .verifyPosts => "verify-posts"

def all : List Verb := [.generateIdentity, .listPosts, .createPost, .verifyPosts]

def ofName? (t : Text) : Option Verb := all.find? fun verb => verb.name == t

theorem ofName?_name (verb : Verb) : ofName? verb.name = some verb := by
  cases verb <;> decide

/-- The switches of a command. -/
def switches : Verb → List Switch
  | .generateIdentity => [.help, .name]
  | .createPost => [.help, .text]
  | .listPosts | .verifyPosts => [.help]

/-- The command, given the value of its switch; a post needs the switch for its text. -/
def complete? : Verb → Option (Option Text) → Option Command
  | .generateIdentity, none => some (.generateIdentity "node")
  | .generateIdentity, some name => some (.generateIdentity (name.getD []))
  | .listPosts, _ => some .listPosts
  | .createPost, value => value.map .createPost
  | .verifyPosts, _ => some .verifyPosts

end Verb

/-! ## Switches of a command -/

/-- Why reading ends before the end of the line. -/
inductive Stop where
  | help
  | misuse
deriving DecidableEq

/-- What the switch for help comes to: it takes no value, and the letters behind it have to be the same
switch again. -/
def Stop.ofHelp : Attached → Stop
  | .nothing => .help
  | .value _ => .misuse
  | .letters t => if t.all (· == ('h' : CodePoint)) then .help else .misuse

/-- What was found behind a command. -/
structure Given where
  /-- The last value of its switch, if the switch is there. -/
  value : Option (Option Text) := none
  /-- Whether something is there that nobody knows. -/
  stray : Bool := false
deriving DecidableEq

/-- The value of a switch; the mark behind which everything is a word counts as nothing. -/
def valueGiven (t : Text) : Option Text := if t = dividerMark then none else some t

/-- Reads the parts behind a command. -/
def readParts (given : Given) : List Part → Except Stop Given
  | [] => .ok given
  | .ambiguous :: _ => .error .misuse
  | .switch .help attached :: _ => .error (.ofHelp attached)
  | .switch _ (.value value) :: parts =>
    readParts { given with value := some (valueGiven value) } parts
  | .switch _ .nothing :: .word value :: parts =>
    readParts { given with value := some (valueGiven value) } parts
  | .switch .. :: _ => .error .misuse
  | _ :: parts => readParts { given with stray := true } parts

/-- Reads what stands behind a command; a switch that may be one of several is seen first. -/
def Verb.readGiven (verb : Verb) (arguments : List Text) : Except Stop Given :=
  let parts := Part.readAll verb.switches arguments
  if parts.contains .ambiguous then .error .misuse else readParts {} parts

/-! ## The whole line -/

def Reading.ofStop : Stop → Reading
  | .help => .help
  | .misuse => .misuse

/-- Reads a command with what stands behind it; `stray` says whether something unknown came before. -/
def Verb.read (verb : Verb) (stray : Bool) (arguments : List Text) : Reading :=
  match verb.readGiven arguments with
  | .error stop => .ofStop stop
  | .ok given =>
    match verb.complete? given.value with
    | none => .misuse
    | some command => if stray || given.stray then .misuse else .run command

/-- Reads a line up to its command; `stray` says whether something unknown came before. -/
def Reading.ofRest (stray : Bool) : List Text → Reading
  | [] => if stray then .misuse else .nothing
  | t :: more =>
    match Part.read [.help] t with
    | .word name =>
      match Verb.ofName? name with
      | none => .misuse
      | some verb => verb.read stray more
    | .switch _ attached => .ofStop (.ofHelp attached)
    | .unknown => ofRest true more
    | .divider | .ambiguous => .misuse

/-- Reads a command line. -/
def Reading.ofArguments (arguments : List Text) : Reading := .ofRest false arguments

end SignedBlog.CommandLine
