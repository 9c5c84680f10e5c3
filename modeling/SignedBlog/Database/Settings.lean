import SignedBlog.Database.Url
import SignedBlog.Encoding
import SignedBlog.Environment
import SignedBlog.Text.Percent

/-!
Where the database is: read from a URL or from variables, and written as a URL or as the settings of
a connection.

* `Settings.ofUrl` and `Settings.ofEnvironment` read, `Settings.toUrl` and `Settings.connection` write.
* `Backing.ofEnvironment` says whether a node keeps its posts in memory or in a database.
-/

namespace SignedBlog.Database

set_option autoImplicit false

structure Settings where
  host : Text
  port : Int
  database : Text
  user : Text
  password : Text
  sslMode : Text
deriving DecidableEq

namespace Settings

/-- A text, or a default in place of the empty one. -/
def orDefault (t default : Text) : Text := if t.isEmpty then default else t

def defaultPort : Nat := 5432

/-- The settings that a URL gives. -/
def ofUrl (t : Text) : Except SettingDefect Settings := do
  let url ← (Url.split t).mapError SettingDefect.url
  let port ← url.port
  return {
    host := orDefault url.host "localhost"
    port := match port with
      | none | some 0 => defaultPort
      | some port => port
    database := orDefault (url.path.dropWhile (· == ('/' : CodePoint))) "nodeblog"
    user := orDefault url.user "postgres"
    password := url.password
    sslMode := ((Percent.queryFields url.query).lookup ("sslmode" : Text)).getD "prefer" }

/-- An integer in a setting. -/
def readInteger (t : Text) : Except SettingDefect Int :=
  (Integer.read t).mapError fun
    | .malformed => .notAnInteger t
    | .tooManyDigits count => .tooManyDigits count

/-- The settings that separate variables give. -/
def ofEnvironment (env : Environment) : Except SettingDefect Settings := do
  let port ← readInteger (env.lookup "DATABASE_PORT" "5432")
  return {
    host := env.lookup "DATABASE_HOST" "localhost"
    port
    database := env.lookup "DATABASE_NAME" "nodeblog"
    user := env.lookup "DATABASE_USER" "postgres"
    password := env.lookup "DATABASE_PASSWORD" []
    sslMode := env.lookup "DATABASE_SSL_MODE" "prefer" }

/-- The settings as a URL around a password that is already in its written form. -/
def urlWith (settings : Settings) (password : Text) : Text :=
  let secret : Text := if password.isEmpty then [] else (':' : CodePoint) :: password
  ("postgresql://" : Text) ++ settings.user ++ secret ++ ("@" : Text) ++ settings.host ++
    (":" : Text) ++ Text.ofInt settings.port ++ ("/" : Text) ++ settings.database ++
    ("?sslmode=" : Text) ++ settings.sslMode

/-- The settings as a URL. The password is written in escapes; nothing else is. -/
def toUrl (settings : Settings) : Except Fault Text :=
  match Percent.encodeForm settings.password with
  | .error run => .error (.unencodable run)
  | .ok password =>
    (Integer.checkDigits Integer.usualLimit settings.port).map fun () => settings.urlWith password

/-- The settings as a URL without the password, for logs. -/
def toPublicUrl (settings : Settings) : Text := settings.urlWith []

/-- How settings are laid out as keywords and values of a connection. -/
def toDsn (settings : Settings) : Text :=
  ("host=" : Text) ++ settings.host ++ (" port=" : Text) ++ Text.ofInt settings.port ++
    (" dbname=" : Text) ++ settings.database ++ (" user=" : Text) ++ settings.user ++
    (" password=" : Text) ++ settings.password ++ (" sslmode=" : Text) ++ settings.sslMode

/-- The settings as keywords and values of a connection, if the port can be written. -/
def connection (settings : Settings) : Except Fault Text :=
  (Integer.checkDigits Integer.usualLimit settings.port).map fun () => settings.toDsn

end Settings

/-! ## The choice of a store -/

/-- The URL of the database that the environment names, if it names one. -/
def urlOfEnvironment (env : Environment) : Except Fault (Option Text) :=
  let url := env.lookup "DATABASE_URL" []
  if !url.isEmpty then .ok (some url)
  else if (env.lookup "DATABASE_HOST" []).isEmpty then .ok none
  else match Settings.ofEnvironment env with
    | .error defect => .error (.setting defect)
    | .ok settings => settings.toUrl.map some

/-- What kind of store a node uses. -/
inductive Driver where
  | memory
  | postgres
deriving DecidableEq

/-- The name of a driver in settings. -/
def Driver.name : Driver → Text
  | .memory => "memory"
  | .postgres => "psycopg2"

/-- The driver that the environment names; otherwise a database is used if there is one. -/
def Driver.ofEnvironment (env : Environment) : Except Fault Driver :=
  let named := (env.lookup "BLOGSTORE_DRIVER" []).lower
  if named.isEmpty then
    (urlOfEnvironment env).map fun url => if url.isSome then .postgres else .memory
  else if named = Driver.memory.name then .ok .memory
  else if named = Driver.postgres.name then .ok .postgres
  else .error (.setting (.unknownDriver named))

/-- Where a node keeps its posts. -/
inductive Backing where
  | memory
  | database (settings : Settings)

/-- Where the environment wants posts to be kept. A database URL is taken apart if it looks like one;
otherwise the separate variables count. -/
def Backing.ofEnvironment (env : Environment) : Except Fault Backing := do
  match ← Driver.ofEnvironment env with
  | .memory => return .memory
  | .postgres =>
    match ← urlOfEnvironment env with
    | none => throw (.setting .noDatabase)
    | some url =>
      let settings := if Text.occursIn "://" url then Settings.ofUrl url else Settings.ofEnvironment env
      (settings.map Backing.database).mapError .setting

end SignedBlog.Database
