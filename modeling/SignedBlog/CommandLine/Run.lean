import SignedBlog.CommandLine.Command
import SignedBlog.Json.Writer
import SignedBlog.Node.Feed
import SignedBlog.Node.Startup

/-!
Running commands on a node.

A run writes to two streams and ends with a status, or with the fault that stopped it.
-/

namespace SignedBlog.CommandLine

set_option autoImplicit false

/-- What a run wrote and how it ended. -/
structure Report where
  output : Text
  errors : Text
  ending : Except Fault Nat

namespace Report

/-- A run that went well. -/
def success (output : Text) : Report := ⟨output, [], .ok 0⟩

/-- A run that a fault stopped before it wrote anything. -/
def stopped (fault : Fault) : Report := ⟨[], [], .error fault⟩

end Report

/-- Lines of text, each with a line break at its end. -/
def lines (texts : List Text) : Text := texts.flatMap (· ++ [('\n' : CodePoint)])

/-- A value as indented JSON. -/
def printed (value : Value) : Except Fault Text :=
  value.toWire.map fun json => lines [json.write .indented]

/-- The report of a run that prints a value. -/
def Report.ofPrinted (value : Value) : Report :=
  match printed value with
  | .error fault => .stopped fault
  | .ok output => .success output

/-! ## Commands -/

/-- What is said of a new identity. -/
def identityLines (author : LocalAuthor) : List Text :=
  let publicKey := Base64.encode author.publicKey
  let privateKey := Base64.encode author.seed.bytes
  ["[OK] Identity generated",
   ("  Author ID: " : Text) ++ Hex.encode author.id,
   ("  Name: " : Text) ++ author.name,
   "",
   ("  Public key: " : Text) ++ publicKey,
   "",
   "  Set these environment variables (KEEP THE KEY SECRET!):",
   ("  NODEBLOG_AUTHOR_NAME=" : Text) ++ author.name,
   ("  NODEBLOG_PRIVATE_KEY=" : Text) ++ privateKey]

/-- Makes an identity and says what its settings are. -/
def Report.ofNewIdentity (fresh : Ed25519.Seed) (name : Text) : Report :=
  match LocalAuthor.create name fresh.bytes with
  | .error fault => .stopped fault
  | .ok author => .success (lines (identityLines author))

/-- Prints the feed. -/
def Report.ofListing (node : Node) : Report :=
  match node.listPosts.1 with
  | .error fault => .stopped fault
  | .ok records => .ofPrinted (Record.listToValue records)

/-- Publishes a text and prints the record of the post. -/
def Report.ofPublishing (text : Option Text) (node : Node) : Report :=
  match text with
  | none => .stopped .noText
  | some text =>
    match (node.createPost text).1 with
    | .error (.invalidText defect) => ⟨[], lines [("Error: " : Text) ++ defect.message], .ok 1⟩
    | .error fault => .stopped fault
    | .ok record => .ofPrinted record.toValue

/-! ## Verification of stored posts -/

/-- The line for a post that is not valid. -/
def failureLine (post : Post) (defect : PostDefect) : Text :=
  ("[FAIL] " : Text) ++ (Hex.encode post.messageId).take 16 ++ ("... " : Text) ++ defect.message

/-- The lines for posts that are not valid, and the fault that ended the verification, if any. -/
def failureLines : List Post → List Text × Option Fault
  | [] => ([], none)
  | post :: posts =>
    match post.verify with
    | .ok () => failureLines posts
    | .error (.invalidPost defect) =>
      let (texts, fault) := failureLines posts
      (failureLine post defect :: texts, fault)
    | .error fault => ([], some fault)

/-- The last line of a verification. -/
def verdictLine (failures total : Nat) : Text :=
  if failures = 0 then "[OK] All posts verified"
  else ("[FAIL] " : Text) ++ Text.ofNat failures ++ (" of " : Text) ++ Text.ofNat total ++
    (" posts failed verification" : Text)

/-- Verifies every post anew. -/
def Report.ofVerification (posts : List Post) : Report :=
  let first := ("Verifying " : Text) ++ Text.ofNat posts.length ++ (" posts..." : Text)
  match failureLines posts with
  | (failures, some fault) => ⟨lines (first :: failures), [], .error fault⟩
  | (failures, none) =>
    ⟨lines (first :: failures ++ [verdictLine failures.length posts.length]), [],
      .ok (if failures.isEmpty then 0 else 1)⟩

/-! ## Runs -/

/-- Goes on with a node, if there is one. -/
def onNode (node : Except Fault Node) (next : Node → Report) : Report :=
  match node with
  | .error fault => .stopped fault
  | .ok node => next node

/-- Runs a command; `fresh` is the seed of a new identity. -/
def Command.run (fresh : Ed25519.Seed) (node : Except Fault Node) : Command → Report
  | .generateIdentity name => .ofNewIdentity fresh name
  | .listPosts => onNode node .ofListing
  | .createPost text => onNode node (.ofPublishing text)
  | .verifyPosts => onNode node fun node => .ofVerification node.store.posts

end SignedBlog.CommandLine
