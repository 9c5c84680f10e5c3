import SignedBlog.Log.Group
import SignedBlog.Log.Settings
import SignedBlog.Value.Wire

/-!
Log entries and the lines they are written as.

An entry has fields of its own, whose names must not be those of what every entry has. As JSON each
field is written as its value, or as its literal where it has no JSON form; in plain text fields are
left out.

* `Log.line` gives the line of an entry, if its level is high enough.
-/

namespace SignedBlog.Log

set_option autoImplicit false

/-- When an entry was made, in the two forms that lines use. -/
structure Moment where
  iso : Text
  plain : Text

/-- An exception that an entry reports. -/
structure Incident where
  kind : Text
  message : Text

/-- The wording of an incident. -/
def Incident.text (incident : Incident) : Text :=
  if incident.message.isEmpty then incident.kind
  else incident.kind ++ (": " : Text) ++ incident.message

structure Entry where
  logger : Text
  level : Level
  message : Text
  /-- A group of fields, which stands in the place of a field `extra`. -/
  extra : Option (List (Text × Value))
  /-- What is given one by one; some of it directs how the entry is made. -/
  fields : List (Text × Value)
  /-- The request that is served; empty if there is none. -/
  requestId : Text
  incident : Option Incident

namespace Entry

/-- What is given with an entry itself, so that no field may have its name. -/
def givenNames : List Text := ["self", "level", "msg"]

/-- What directs the making of an entry where it is given on its own; it is no field then. -/
def directiveNames : List Text := ["extra", "exc_info", "stack_info", "stacklevel"]

/-- What is given one by one; of equal names the last value counts. -/
def given (entry : Entry) : List (Text × Value) := Entries.merge (· == ·) entry.fields

/-- The group of an entry. -/
def group (entry : Entry) : Value :=
  match entry.extra with
  | some fields => .mapping (fields.map fun field => (.text field.1, field.2))
  | none => (entry.given.lookup ("extra" : Text)).getD (.dict [])

/-- The fields given one by one. -/
def ownFields (entry : Entry) : List (Text × Value) :=
  entry.given.filter fun field => !directiveNames.contains field.1

/-- The depth at which the caller of an entry is looked for has to be a number. -/
def checkDepth (entry : Entry) : Except Fault Unit :=
  if ((entry.given.lookup ("stacklevel" : Text)).map Value.isNumber).getD true then .ok ()
  else .error (.entry .depthNotNumber)

/-- The level of an entry has to have a name, or a number that can be written. -/
def checkLevel (entry : Entry) : Except Fault Unit :=
  Integer.checkDigits Integer.usualLimit entry.level.severity

/-- The fields of an entry: the group, then those given one by one. -/
def allFields (entry : Entry) : Except Fault (List Field) :=
  match Group.extend entry.group entry.ownFields with
  | .error fault => .error fault
  | .ok group =>
    match entry.checkDepth with
    | .error fault => .error fault
    | .ok () =>
      match entry.checkLevel with
      | .error fault => .error fault
      | .ok () => Group.fields group

/-- What is reported where an exception is asked for and there is none. -/
def nothingToReport : Text := "NoneType: None"

/-- What is reported for a value given in the place of an exception. A sequence is taken for the kind
of an exception, the exception itself and its origin. -/
def reportedFor : Value → Except Fault (Option Text)
  | .tuple [] => .ok none
  | .tuple (_ :: .null :: .null :: _) => .ok (some nothingToReport)
  | .tuple (_ :: _ :: _ :: _) => .error (.entry .noException)
  | .tuple _ => .error (.beyondEnd "tuple")
  | value => .ok (if value.holds then some nothingToReport else none)

/-- What an entry reports, if it reports anything. -/
def reported (entry : Entry) : Except Fault (Option Text) :=
  match entry.incident, entry.given.lookup ("exc_info" : Text) with
  | some incident, _ => .ok (some incident.text)
  | none, some value => reportedFor value
  | none, none => .ok none

end Entry

/-- Whether a field is written: one that begins with an underscore is not. -/
def isShown (name : Text) : Bool := !(Text.startsWith name "_" || name == ("taskName" : Text))

/-- The value of a field as it is written. -/
def fieldJson (value : Value) : Except Fault Json :=
  match value.toPlain with
  | .ok json => .ok json
  | .error .tooDeep => .error .tooDeep
  | .error _ => value.display.map .text

/-- The fields of a line that are shown; every name has to be a text. -/
def shownFields : List Field → Except Fault (List (Text × Json))
  | [] => .ok []
  | (.text name, value) :: fields =>
    if isShown name then
      match fieldJson value with
      | .error fault => .error fault
      | .ok json => (shownFields fields).map ((name, json) :: ·)
    else shownFields fields
  | (name, _) :: _ => .error (.entry (.nameNotText name.kind))

/-- The field of the request, if there is one. -/
def requestField (requestId : Text) : List (Text × Json) :=
  if requestId.isEmpty then [] else [("request_id", .text requestId)]

/-- The field of what is reported, if there is anything. -/
def reportField : Option Text → List (Text × Json)
  | none => []
  | some report => [("exception", .text report)]

/-- What a line says before the fields of the entry. -/
def headFields (moment : Moment) (entry : Entry) (report : Option Text) : List (Text × Json) :=
  ("timestamp", .text moment.iso) :: ("level", .text entry.level.name) ::
    ("logger", .text entry.logger) :: ("message", .text entry.message) ::
    (requestField entry.requestId ++ reportField report)

/-- The columns of a line: what it says before the fields of the entry, and those that are shown. A
field with the name of a column before it takes its place. -/
def columns (moment : Moment) (entry : Entry) (report : Option Text) (shown : List (Text × Json)) :
    List (Text × Json) :=
  Json.mergeFields (headFields moment entry report ++ shown)

/-- The text of an object, in which the values stand one level deeper than on their own. -/
def writtenObject (fields : List (Text × Json)) : Except Fault Text :=
  if Value.wireDepth < (Json.object fields).depth then .error .tooDeep
  else .ok ((Json.object fields).write .spacedAscii)

/-- An entry as a line of JSON. -/
def jsonLine (moment : Moment) (entry : Entry) (report : Option Text) (fields : List Field) :
    Except Fault Text :=
  match shownFields fields with
  | .error fault => .error fault
  | .ok shown => writtenObject (columns moment entry report shown)

/-- The mark of the request in a plain line. -/
def requestMark (requestId : Text) : Text :=
  if requestId.isEmpty then [] else ("[" : Text) ++ requestId.take 8 ++ ("] " : Text)

/-- An entry as a plain line, with what it reports below. -/
def textLine (moment : Moment) (entry : Entry) (report : Option Text) : Text :=
  moment.plain ++ (" " : Text) ++ Text.padEnd 8 entry.level.name ++ (" " : Text)
    ++ requestMark entry.requestId ++ entry.logger ++ (": " : Text) ++ entry.message
    ++ (match report with
      | none => []
      | some report => ('\n' : CodePoint) :: report)

/-- The line of an entry that is written. -/
def writtenLine (format : Format) (moment : Moment) (entry : Entry) : Except Fault Text :=
  match entry.allFields with
  | .error fault => .error fault
  | .ok fields =>
    match entry.reported with
    | .error fault => .error fault
    | .ok report =>
      match format with
      | .json => jsonLine moment entry report fields
      | .text => .ok (textLine moment entry report)

/-- The line of an entry, if its level reaches the threshold. -/
def line (format : Format) (threshold : Level) (moment : Moment) (entry : Entry) :
    Except Fault (Option Text) :=
  match entry.fields.find? fun field => Entry.givenNames.contains field.1 with
  | some field => .error (.repeatedField field.1)
  | none =>
    if entry.level.reaches threshold then (writtenLine format moment entry).map some else .ok none

end SignedBlog.Log
