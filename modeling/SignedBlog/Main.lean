import SignedBlog.CommandLine.Run
import Std.Time.DateTime.Timestamp

/-!
The command line of a node: reads its surroundings, runs a command and writes what it reports.

Posts are kept in memory; settings that ask for a database are refused.
-/

namespace SignedBlog.CommandLine

set_option autoImplicit false

/-- What is shown to somebody who asks for help. -/
def usage : Text :=
  lines [
    "usage: signedblog [-h] COMMAND [OPTION]",
    "",
    "commands:",
    "  generate-identity [--name NAME]   make an identity and show its settings",
    "  list-posts                        print the feed as JSON",
    "  create-post --text TEXT           publish a post",
    "  verify-posts                      verify every stored post anew"]

/-- A text as the terminal gets it; what has no UTF-8 form is replaced. -/
def shown (t : Text) : String :=
  String.ofList (t.map fun c => if c.isSurrogate then '\uFFFD' else Char.ofNat c.val)

/-- The variables that settings are read from. -/
def variableNames : List String :=
  ["NODEBLOG_PRODUCTION", "NODEBLOG_AUTHOR_NAME", "NODEBLOG_PRIVATE_KEY", "DATABASE_URL",
   "DATABASE_HOST", "DATABASE_PORT", "DATABASE_NAME", "DATABASE_USER", "DATABASE_PASSWORD",
   "DATABASE_SSL_MODE", "BLOGSTORE_DRIVER"]

def readEnvironment : IO Environment := do
  let found ← variableNames.filterMapM fun name => do
    return (← IO.getEnv name).map fun value => (Text.ofString name, Text.ofString value)
  return ⟨found⟩

def readSurroundings : IO Surroundings := do
  let env ← readEnvironment
  let now ← Std.Time.Timestamp.now
  let random ← IO.getRandomBytes 32
  match Ed25519.Seed.ofBytes? random.toList with
  | none => throw (IO.userError "too few random bytes")
  | some fresh => return ⟨env, now.toMillisecondsSinceUnixEpoch.val, fresh⟩

/-- Starts a node with its posts in memory. -/
def startNode (around : Surroundings) : IO (Except Fault Node) := do
  match Launch.start around with
  | .error fault => return .error fault
  | .ok (.ready node) => return .ok node
  | .ok (.onDatabase settings) =>
    match settings.connection with
    | .error fault => return .error fault
    | .ok _ => throw (IO.userError s!"no driver for {shown settings.toPublicUrl}")

/-- Writes a report and gives the status of the program. -/
def Report.write (report : Report) : IO UInt32 := do
  IO.print (shown report.output)
  IO.eprint (shown report.errors)
  match report.ending with
  | .ok status => return UInt32.ofNat status
  | .error fault =>
    IO.eprintln (shown fault.message)
    return 1

/-- Whether a command needs a node. -/
def Command.needsNode : Command → Bool
  | .generateIdentity _ => false
  | _ => true

def runCommand (command : Command) : IO UInt32 := do
  let around ← readSurroundings
  let node ← if command.needsNode then startNode around else pure (.error .noLocalIdentity)
  if command.needsNode then
    for warning in around.identity.warnings do
      IO.eprintln (shown warning)
  (command.run around.fresh node).write

end SignedBlog.CommandLine

open SignedBlog.CommandLine in
def main (arguments : List String) : IO UInt32 := do
  match Reading.ofArguments (arguments.map SignedBlog.Text.ofString) with
  | .run command => runCommand command
  | .help =>
    IO.print (shown usage)
    return 0
  | .nothing =>
    IO.print (shown usage)
    return 1
  | .misuse =>
    IO.eprint (shown usage)
    return 2
