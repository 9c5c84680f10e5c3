import SignedBlog.Bytes.Hex
import SignedBlog.Number.Integer
import SignedBlog.Text.Quoted
import SignedBlog.Text.Utf8

/-!
Everything that can go wrong, by cause, and the wording of each cause.
-/

namespace SignedBlog

set_option autoImplicit false

/-- Why a payload has no canonical form. -/
inductive PayloadDefect where
  | floatAt (path : Text)
  | kindAt (kind path : Text)
  | keyAt (path kind : Text)
  | topLevel (kind : Text)
  | negativeTimestamp (timestamp : Int)
deriving DecidableEq

/-- Why there is no such author, or no such local author. -/
inductive IdentityDefect where
  | emptyName
  | longName
  | publicKeySize (length : Nat)
  | seedLength
  | keyNotBase64
  | keyMissing
  | otherRegistered
deriving DecidableEq

/-- Why a post is invalid. -/
inductive PostDefect where
  | textNotUtf8
  | textTooLong
  | foreignAuthorId
  | foreignBlog
  | foreignBlogId
  | badSignature
  | wrongMessageId
deriving DecidableEq

/-- Why a text is not accepted for publishing. -/
inductive TextDefect where
  | notUtf8
  | tooLong
deriving DecidableEq

/-- Why a database URL cannot be taken apart. -/
inductive UrlDefect where
  | unmatchedBracket
  | futureAddress
  | notAnAddress (host : Text)
  | bracketedIpv4
  | confusableHost (host : Text)
  | portNotNumeric (port : Text)
  | portOutOfRange
deriving DecidableEq

/-- Why a variable cannot be set in an environment. -/
inductive VariableDefect where
  | holdsNul
  | equalsInName
  | noName
deriving DecidableEq

/-- Why a setting cannot be used, or does not allow something. -/
inductive SettingDefect where
  | url (defect : UrlDefect)
  | notAnInteger (text : Text)
  | tooManyDigits (count : Nat)
  | unknownDriver (name : Text)
  | noDatabase
  | textLimit (limit : Int)
  /-- An integer is to be written that has more digits than are set for integers. -/
  | longInteger
deriving DecidableEq

/-- Why a log entry cannot be made of what was given for it. -/
inductive EntryDefect where
  /-- A value that holds no fields was given for a group of them. -/
  | noGroup
  /-- The depth at which the caller is looked for is no number. -/
  | depthNotNumber
  /-- The name of a field is of this kind and not a text. -/
  | nameNotText (kind : Text)
  /-- What was given for an exception is none. -/
  | noException
deriving DecidableEq

/-- Why a cell of a database does not fit. -/
inductive CellDefect where
  /-- It cannot be taken for bytes. -/
  | notBytes
  /-- It counts fewer than no bytes. -/
  | negativeCount
  /-- It counts more bytes than can be counted. -/
  | countRange
  /-- It counts more bytes than a byte string may have. -/
  | tooLong
  /-- It counts more bytes than there is room for. -/
  | noRoom
  /-- One of its items is no byte. -/
  | byteRange
  /-- It is no time that could be compared with a clock. -/
  | notOrdered
  /-- So many cells are there, where there should be the four of an author. -/
  | tooFew (count : Nat)
deriving DecidableEq

/-- Why a value does not fit a field of a record. -/
inductive FieldDefect where
  | notInteger
  /-- A text from which no integer can be read. -/
  | malformedInteger
  /-- An integer that is too long to be read, or too great for a floating-point number to tell it. -/
  | longInteger
  | fractional
  | notFinite
  | notText
  /-- Bytes or code points that are no Unicode text. -/
  | malformedText
deriving DecidableEq

/-- A value that does not fit a field of a record. -/
structure Misfit where
  field : Text
  defect : FieldDefect
  /-- The value as a literal. -/
  literal : Text
  /-- The kind of the value. -/
  kind : Text
deriving DecidableEq

/-- How a database refuses a request. -/
structure Refusal where
  /-- The code of the failure, if it has one. -/
  code : Option Text
  reason : Text
deriving DecidableEq

/-- Why an operation was refused or failed. -/
inductive Fault where
  /-- A text with surrogates has no UTF-8 form. -/
  | unencodable (run : Utf8.SurrogateRun)
  /-- Bytes are no UTF-8 text. -/
  | undecodable (piece : Utf8.Malformed)
  | range (defect : RangeDefect)
  | seedLength
  /-- A number that is not finite has no JSON form. -/
  | notFinite
  /-- A variable cannot be set. -/
  | unsettable (defect : VariableDefect)
  | setting (defect : SettingDefect)
  | payload (defect : PayloadDefect)
  /-- The keys of a mapping have no common order. -/
  | incomparableKeys
  /-- A key of this kind has no JSON form. -/
  | unwritableKey (kind : Text)
  /-- A value of this kind has no JSON form. -/
  | unwritable (kind : Text)
  | tooDeep
  | identity (defect : IdentityDefect)
  | noLocalIdentity
  | invalidPost (defect : PostDefect)
  | invalidText (defect : TextDefect)
  /-- There is nothing to publish. -/
  | noText
  | unknownBlog (id : Bytes)
  | unknownMessage (id : Bytes)
  | duplicateMessage (id : Bytes)
  /-- A text that was there before can no longer be read. -/
  | messageGone
  | storeBusy
  | storeUnreachable (reason : Text)
  /-- The database refused a request. -/
  | database (refusal : Refusal)
  /-- The database answered without the row that was asked for. -/
  | missingRow
  | cell (defect : CellDefect)
  /-- A record of this name cannot be made of the given values. -/
  | invalidRecord (record : Text) (misfits : List Misfit)
  | tokenNotAscii
  | unknownStatus (literal : Text)
  /-- A log field has the name of something that every entry has, or of another field. -/
  | reservedField (literal : Text)
  /-- A log field has the name of something that is given with the entry itself. -/
  | repeatedField (name : Text)
  | entry (defect : EntryDefect)
  /-- A sequence of this kind has no item at a place. -/
  | beyondEnd (kind : Text)
deriving DecidableEq

/-- The longest name of an author, in UTF-8 bytes. -/
def maxNameLength : Nat := 50

/-- The length of a public key in bytes. -/
def publicKeyLength : Nat := 32

/-- The longest text of a post, in UTF-8 bytes: a message body of 32 KiB less room for the author,
the signature and the framing. -/
def maxTextLength : Nat := 32 * 1024 - 1024

namespace PayloadDefect

def message : PayloadDefect → Text
  | .floatAt path =>
    ("Cannot serialize float at " : Text) ++ path ++
      (". Floats are banned in canonical payloads. Use integer milliseconds or a string." : Text)
  | .kindAt kind path =>
    ("Cannot serialize " : Text) ++ kind ++ (" at " : Text) ++ path ++
      (". Only strings, integers, bytes and objects are allowed." : Text)
  | .keyAt path kind =>
    ("Dictionary key at " : Text) ++ path ++ (" must be string, got " : Text) ++ kind
  | .topLevel kind =>
    ("Top-level canonicalization requires a dict/object, got " : Text) ++ kind ++ ("." : Text)
  | .negativeTimestamp timestamp =>
    ("Timestamp must be non-negative, got " : Text) ++ Text.ofInt timestamp

end PayloadDefect

/-- The wording for a seed of the wrong length. -/
def seedLengthMessage : Text := "The seed must be exactly 32 bytes long"

def IdentityDefect.message : IdentityDefect → Text
  | .emptyName => "Author name must not be empty"
  | .longName => ("Author name exceeds " : Text) ++ Text.ofNat maxNameLength ++ (" bytes" : Text)
  | .publicKeySize length =>
    ("Public key must be " : Text) ++ Text.ofNat publicKeyLength ++ (" bytes, got " : Text) ++
      Text.ofNat length
  | .seedLength => ("Invalid private key: " : Text) ++ seedLengthMessage
  | .keyNotBase64 => "NODEBLOG_PRIVATE_KEY is not valid base64"
  | .keyMissing =>
    "NODEBLOG_PRIVATE_KEY must be set in production. Generate with:\npython -m tools.manage generate-identity"
  | .otherRegistered => "A local author is already registered"

def PostDefect.message : PostDefect → Text
  | .textNotUtf8 => "Blog post text is not valid UTF-8"
  | .textTooLong => "Blog post text is too long"
  | .foreignAuthorId => "Author id does not match public key"
  | .foreignBlog => "Post author does not own the blog"
  | .foreignBlogId => "Blog id does not match its author"
  | .badSignature => "Invalid post signature"
  | .wrongMessageId => "Message id does not match content"

def TextDefect.message : TextDefect → Text
  | .notUtf8 => "Blog post text is not valid UTF-8"
  | .tooLong => "Blog post text is too long"

def UrlDefect.message : UrlDefect → Text
  | .unmatchedBracket => "Invalid IPv6 URL"
  | .futureAddress => "IPvFuture address is invalid"
  | .notAnAddress host =>
    Quoted.ofText host ++ (" does not appear to be an IPv4 or IPv6 address" : Text)
  | .bracketedIpv4 => "An IPv4 address cannot be in brackets"
  | .confusableHost host =>
    ("netloc '" : Text) ++ host ++
      ("' contains invalid characters under NFKC normalization" : Text)
  | .portNotNumeric port =>
    ("Port could not be cast to integer value as " : Text) ++ Quoted.ofText port
  | .portOutOfRange => "Port out of range 0-65535"

def VariableDefect.message : VariableDefect → Text
  | .holdsNul => "embedded null byte"
  | .equalsInName => "illegal environment variable name"
  | .noName => "[Errno 22] Invalid argument"

/-- The most that a message about an integer shows of a quoted text. -/
def quotedLimit : Nat := 200

/-- The wording for an integer that is too long to be written. -/
def longIntegerMessage : Text :=
  "Exceeds the limit (4300 digits) for integer string conversion; use sys.set_int_max_str_digits() to increase the limit"

def SettingDefect.message : SettingDefect → Text
  | .url defect => defect.message
  | .notAnInteger text =>
    ("invalid literal for int() with base 10: " : Text) ++ (Quoted.ofText text).take quotedLimit
  | .tooManyDigits count =>
    ("Exceeds the limit (4300 digits) for integer string conversion: value has " : Text) ++
      Text.ofNat count ++
      (" digits; use sys.set_int_max_str_digits() to increase the limit" : Text)
  | .unknownDriver name =>
    ("Unknown BLOGSTORE_DRIVER: " : Text) ++ name ++ (". Valid values: memory, psycopg2" : Text)
  | .noDatabase => "BLOGSTORE_DRIVER is psycopg2 but no database is configured"
  | .textLimit limit =>
    if Integer.fits Integer.usualLimit limit then
      ("max_text_length " : Text) ++ Text.ofInt limit ++ (" exceeds the post limit of " : Text) ++
        Text.ofNat maxTextLength ++ (" bytes" : Text)
    else longIntegerMessage
  | .longInteger => longIntegerMessage

/-- The wording for a run of surrogates. -/
def Utf8.SurrogateRun.message (run : Utf8.SurrogateRun) : Text :=
  if run.first = run.last then
    ("'utf-8' codec can't encode character '\\u" : Text) ++ Text.hexDigits 4 run.char.val ++
      ("' in position " : Text) ++ Text.ofNat run.first ++ (": surrogates not allowed" : Text)
  else
    ("'utf-8' codec can't encode characters in position " : Text) ++ Text.ofNat run.first ++
      ("-" : Text) ++ Text.ofNat run.last ++ (": surrogates not allowed" : Text)

def Utf8.Defect.message : Utf8.Defect → Text
  | .start => "invalid start byte"
  | .continuation => "invalid continuation byte"
  | .unexpectedEnd => "unexpected end of data"

/-- The wording for a malformed piece. -/
def Utf8.Malformed.message (piece : Utf8.Malformed) : Text :=
  if piece.length = 1 then
    ("'utf-8' codec can't decode byte 0x" : Text) ++ Text.hexDigits 2 piece.lead.toNat ++
      (" in position " : Text) ++ Text.ofNat piece.place ++ (": " : Text) ++ piece.why.message
  else
    ("'utf-8' codec can't decode bytes in position " : Text) ++ Text.ofNat piece.place ++
      ("-" : Text) ++ Text.ofNat (piece.place + piece.length - 1) ++ (": " : Text) ++
      piece.why.message

def RangeDefect.message : RangeDefect → Text
  | .tooBig => "int too big to convert"
  | .negative => "can't convert negative int to unsigned"

def EntryDefect.message : EntryDefect → Text
  | .noGroup => "a group of fields is a mapping"
  | .depthNotNumber => "a depth is a number"
  | .nameNotText kind => ("a field cannot be named by a value of kind " : Text) ++ kind
  | .noException => "only an exception can be reported"

def CellDefect.message : CellDefect → Text
  | .notBytes => "the cell holds no bytes"
  | .negativeCount => "negative count"
  | .countRange => "cannot fit 'int' into an index-sized integer"
  | .tooLong => "byte string is too large"
  | .noRoom => "there is no room for so many bytes"
  | .byteRange => "bytes must be in range(0, 256)"
  | .notOrdered => "the cell holds no time"
  | .tooFew count =>
    ("not enough values to unpack (expected 4, got " : Text) ++ Text.ofNat count ++ (")" : Text)

namespace FieldDefect

/-- The word by which a defect is known. -/
def code : FieldDefect → Text
  | .notInteger => "int_type"
  | .malformedInteger => "int_parsing"
  | .longInteger => "int_parsing_size"
  | .fractional => "int_from_float"
  | .notFinite => "finite_number"
  | .notText => "string_type"
  | .malformedText => "string_unicode"

def message : FieldDefect → Text
  | .notInteger => "Input should be a valid integer"
  | .malformedInteger => "Input should be a valid integer, unable to parse string as an integer"
  | .longInteger => "Unable to parse input string as an integer, exceeded maximum size"
  | .fractional => "Input should be a valid integer, got a number with a fractional part"
  | .notFinite => "Input should be a finite number"
  | .notText => "Input should be a valid string"
  | .malformedText =>
    "Input should be a valid string, unable to parse raw data as a unicode string"

/-- The host whose pages explain defects. -/
def helpHost : Text := "errors.pydantic.dev"

/-- The edition of these pages. -/
def helpEdition : Text := "2.14"

/-- The address of the page that explains a defect. -/
def helpPage (defect : FieldDefect) : Text :=
  ("https://" : Text) ++ helpHost ++ ("/" : Text) ++ helpEdition ++ ("/v/" : Text) ++ defect.code

end FieldDefect

namespace Misfit

/-- The longest literal that is shown in full, in UTF-8 bytes. -/
def literalLimit : Nat := 50

/-- A literal, or the beginning and the end of a long one. -/
def shorten (literal : Text) : Text :=
  if Utf8.size literal ≤ literalLimit then literal
  else
    Utf8.takeFitting 25 literal ++ ("..." : Text) ++ (Utf8.takeFitting 24 literal.reverse).reverse

def message (misfit : Misfit) : Text :=
  misfit.field ++ ("\n  " : Text) ++ misfit.defect.message ++ (" [type=" : Text) ++
    misfit.defect.code ++ (", input_value=" : Text) ++ shorten misfit.literal ++
    (", input_type=" : Text) ++ misfit.kind ++ ("]\n    For further information visit " : Text) ++
    misfit.defect.helpPage

/-- The wording for a record that cannot be made: how many fields are at fault, and why each is. -/
def reportFor (record : Text) (misfits : List Misfit) : Text :=
  let noun : Text := if misfits.length = 1 then " validation error for " else " validation errors for "
  Text.ofNat misfits.length ++ noun ++ record ++
    misfits.flatMap fun misfit => ("\n" : Text) ++ misfit.message

end Misfit

/-- The wording of a fault. -/
def Fault.message : Fault → Text
  | .unencodable run => run.message
  | .undecodable piece => piece.message
  | .range defect => defect.message
  | .seedLength => seedLengthMessage
  | .notFinite => "Out of range float values are not JSON compliant"
  | .unsettable defect => defect.message
  | .setting defect => defect.message
  | .payload defect => defect.message
  | .incomparableKeys => "keys of different kinds cannot be ordered"
  | .unwritableKey kind =>
    ("keys must be str, int, float, bool or None, not " : Text) ++ kind
  | .unwritable kind =>
    ("Type <class '" : Text) ++ kind ++ ("'> not serializable" : Text)
  | .tooDeep => "maximum recursion depth exceeded"
  | .identity defect => defect.message
  | .noLocalIdentity => "No local identity configured"
  | .invalidPost defect => defect.message
  | .invalidText defect => defect.message
  | .noText => "there is no text"
  | .unknownBlog id => ("Unknown blog " : Text) ++ Hex.encode id
  | .unknownMessage id => ("Unknown message " : Text) ++ Hex.encode id
  | .duplicateMessage id => ("Message " : Text) ++ Hex.encode id ++ (" already stored" : Text)
  | .messageGone => "gone"
  | .storeBusy => "Blog store busy - could not acquire lock. Try again."
  | .storeUnreachable reason => reason
  | .database refusal => refusal.reason
  | .missingRow => "the answer has no such row"
  | .cell defect => defect.message
  | .invalidRecord record misfits => Misfit.reportFor record misfits
  | .tokenNotAscii => "comparing strings with non-ASCII characters is not supported"
  | .unknownStatus literal =>
    ("Expected code to be unreachable, but got: " : Text) ++ literal
  | .reservedField literal =>
    Quoted.ofText (("Attempt to overwrite " : Text) ++ literal ++ (" in LogRecord" : Text))
  | .repeatedField name => ("got multiple values for argument " : Text) ++ Quoted.ofText name
  | .entry defect => defect.message
  | .beyondEnd kind =>
    if kind = ("bytes" : Text) then "index out of range"
    else kind ++ (" index out of range" : Text)

end SignedBlog
