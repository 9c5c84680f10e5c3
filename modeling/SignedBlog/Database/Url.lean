import SignedBlog.Fault
import SignedBlog.Number.Integer
import SignedBlog.Text.Address
import SignedBlog.Text.Blank
import SignedBlog.Text.Case

/-!
Taking a URL apart: scheme, authority, path and query. What the parts hold is not decoded.

* `Database.Url.split` gives the parts; the fragment is dropped.
* `Url.user`, `Url.password`, `Url.host` and `Url.port` look into the authority.
-/

namespace SignedBlog.Database

set_option autoImplicit false

/-- The parts of a URL. -/
structure Url where
  scheme : Text
  authority : Text
  path : Text
  query : Text

namespace Url

/-- Control characters and the blank, which are dropped in front of a URL. -/
def isLeading (c : CodePoint) : Bool := c.val ≤ 0x20

/-- Tabs and line ends, which are dropped wherever they stand. -/
def isDropped (c : CodePoint) : Bool := c.val = 0x09 || c.val = 0x0A || c.val = 0x0D

def isSchemeChar (c : CodePoint) : Bool :=
  c.isAsciiLetter || c.isAsciiDigit || c.val = 0x2B || c.val = 0x2D || c.val = 0x2E

/-- The scheme in front of the first colon, if it starts with a letter, and what follows. -/
def takeScheme (t : Text) : Text × Text :=
  match Text.cutFirst? (· == (':' : CodePoint)) t with
  | none => ([], t)
  | some (scheme, rest) =>
    match scheme with
    | [] => ([], t)
    | c :: _ => if c.isAsciiLetter && scheme.all isSchemeChar then (Text.lower scheme, rest) else ([], t)

/-- Ends the authority. -/
def endsAuthority (c : CodePoint) : Bool := c.val = 0x2F || c.val = 0x3F || c.val = 0x23

/-- The authority behind two slashes, and what follows. -/
def takeAuthority (t : Text) : Text × Text :=
  match Text.dropStart? "//" t with
  | none => ([], t)
  | some rest => (rest.takeWhile fun c => !endsAuthority c, rest.dropWhile fun c => !endsAuthority c)

/-- What stands before the first occurrence of a code point, and what stands behind it. -/
def cutAt (c : CodePoint) (t : Text) : Text × Text := (Text.cutFirst? (· == c) t).getD (t, [])

/-- What stands behind the last occurrence of a code point; all of a text without it. -/
def behindLast (c : CodePoint) (t : Text) : Text := ((Text.cutLast? c t).map (·.2)).getD t

/-! ## Checks of the authority -/

/-- What stands between brackets has to be an address, and not one of four octets. -/
def checkBracketed (host : Text) : Except UrlDefect Unit :=
  if Text.startsWith host "v" then
    if ((Address.laterPart? host).map fun rest => !rest.isEmpty).getD false then .ok ()
    else .error .futureAddress
  else if Address.isIpv4 host then .error .bracketedIpv4
  else if Address.isIpv6 host then .ok ()
  else .error (.notAnAddress host)

/-- Characters that stand for a delimiter under compatibility normalization. -/
def confusables : List Nat :=
  [0x2047, 0x2048, 0x2049, 0x2100, 0x2101, 0x2105, 0x2106, 0x2A74, 0xFE13, 0xFE16, 0xFE55, 0xFE56,
   0xFE5F, 0xFE6B, 0xFF03, 0xFF0F, 0xFF1A, 0xFF1F, 0xFF20]

/-- Where an authority has brackets its host is an address between them, with nothing in front and at
most a port behind; a host without brackets has to be such an address too. -/
def checkBracketedHost (authority : Text) : Except UrlDefect Unit :=
  let info := behindLast '@' authority
  match Text.cutFirst? (· == ('[' : CodePoint)) info with
  | none => checkBracketed (cutAt ':' info).1
  | some (front, bracketed) =>
    let (host, rest) := cutAt ']' bracketed
    if !front.isEmpty || !(rest.isEmpty || Text.startsWith rest ":") then .error .unmatchedBracket
    else checkBracketed host

/-- Brackets come in pairs around an address. -/
def checkBrackets (authority : Text) : Except UrlDefect Unit :=
  let opens := authority.contains ('[' : CodePoint)
  let closes := authority.contains (']' : CodePoint)
  if opens != closes then .error .unmatchedBracket
  else if opens then checkBracketedHost authority
  else .ok ()

def checkConfusables (authority : Text) : Except UrlDefect Unit :=
  if authority.any fun c => confusables.contains c.val then .error (.confusableHost authority)
  else .ok ()

/-! ## Splitting -/

/-- Schemes whose paths may end in parameters behind a semicolon. -/
def schemesWithParameters : List Text :=
  ["", "ftp", "hdl", "prospero", "http", "imap", "https", "shttp", "rtsp", "rtspu", "sip",
   "sips", "mms", "sftp", "tel"]

/-- A path without the parameters of its last segment. -/
def dropParameters (path : Text) : Text :=
  let last := behindLast '/' path
  path.take (path.length - last.length) ++ (cutAt ';' last).1

/-- Takes a URL apart. -/
def split (t : Text) : Except UrlDefect Url := do
  let cleaned := (t.dropWhile isLeading).filter fun c => !isDropped c
  let (scheme, afterScheme) := takeScheme cleaned
  let (authority, rest) := takeAuthority afterScheme
  checkBrackets authority
  let (path, query) := cutAt '?' (cutAt '#' rest).1
  checkConfusables authority
  return {
    scheme
    authority
    path := if schemesWithParameters.contains scheme then dropParameters path else path
    query }

/-! ## The authority -/

/-- User and password in front of the last `@`. -/
def userInfo (url : Url) : Text := ((Text.cutLast? '@' url.authority).map (·.1)).getD []

def user (url : Url) : Text := (cutAt ':' url.userInfo).1

/-- The password behind the first colon; empty if there is none. -/
def password (url : Url) : Text := (cutAt ':' url.userInfo).2

/-- Host and port behind the last `@`. -/
def hostInfo (url : Url) : Text × Text :=
  let info := behindLast '@' url.authority
  match Text.cutFirst? (· == ('[' : CodePoint)) info with
  | some (_, bracketed) =>
    let (host, rest) := cutAt ']' bracketed
    (host, (cutAt ':' rest).2)
  | none => cutAt ':' info

/-- The host in lower case, but for the zone of an address. -/
def host (url : Url) : Text :=
  match Text.cutFirst? (· == ('%' : CodePoint)) url.hostInfo.1 with
  | some (host, zone) => Text.lower host ++ ('%' : CodePoint) :: zone
  | none => Text.lower url.hostInfo.1

/-- The port, if one is written. -/
def port (url : Url) : Except SettingDefect (Option Nat) :=
  let digits := url.hostInfo.2
  if digits.isEmpty then .ok none
  else if !digits.all CodePoint.isAsciiDigit then .error (.url (.portNotNumeric digits))
  else if Integer.digitLimit < digits.length then .error (.tooManyDigits digits.length)
  else
    let port := Integer.ofDigits (digits.map fun c => c.val - 0x30)
    if 65535 < port then .error (.url .portOutOfRange) else .ok (some port)

end Url

end SignedBlog.Database
