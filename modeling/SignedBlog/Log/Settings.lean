import SignedBlog.Environment
import SignedBlog.Log.Level

/-!
Settings of the log: from which level on entries are written, and in which format.
-/

namespace SignedBlog.Log

set_option autoImplicit false

inductive Format where
  | json
  | text
deriving DecidableEq

structure Settings where
  level : Level
  format : Format
  /-- The level for each request that is served. -/
  accessLevel : Level
  /-- The level for each request to others. -/
  clientLevel : Level

/-- The level of the environment; a name that is none gives the usual level. -/
def levelOfEnvironment (env : Environment) : Level :=
  (Level.ofName? (env.lookup "NODEBLOG_LOG_LEVEL" "INFO")).getD .info

/-- The format of the environment; without one JSON is written in production. -/
def formatOfEnvironment (env : Environment) : Format :=
  let named := (env.lookup "NODEBLOG_LOG_FORMAT" []).lower
  if named = ("json" : Text) then .json
  else if named = ("text" : Text) then .text
  else if env.isProduction then .json
  else .text

def Settings.ofEnvironment (env : Environment) : Settings where
  level := levelOfEnvironment env
  format := formatOfEnvironment env
  accessLevel := .warning
  clientLevel := .warning

end SignedBlog.Log
