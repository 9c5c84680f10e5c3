import SignedBlog.Text.CodePoint

/-!
Levels of log entries.

A level is a number, and some numbers have a name.
-/

namespace SignedBlog.Log

set_option autoImplicit false

structure Level where
  /-- A greater number is more severe. -/
  severity : Int
deriving DecidableEq

namespace Level

/-- What has no level at all; nothing is written at it. -/
def unset : Level := ⟨0⟩

def debug : Level := ⟨10⟩

def info : Level := ⟨20⟩

def warning : Level := ⟨30⟩

def error : Level := ⟨40⟩

def critical : Level := ⟨50⟩

/-- The levels that settings may ask for. -/
def all : List Level := [debug, info, warning, error, critical]

/-- The name of a level; one without a name of its own is named by its number. -/
def name (level : Level) : Text :=
  if level = debug then "DEBUG"
  else if level = info then "INFO"
  else if level = warning then "WARNING"
  else if level = error then "ERROR"
  else if level = critical then "CRITICAL"
  else if level = unset then "NOTSET"
  else ("Level " : Text) ++ Text.ofInt level.severity

/-- Whether an entry of a level is written where only those from a threshold on are. -/
def reaches (level threshold : Level) : Bool :=
  decide (0 < level.severity) && decide (threshold.severity ≤ level.severity)

/-- The capital of a code point as far as it is an ASCII letter; the dotless i has one too. -/
def capital (c : CodePoint) : CodePoint :=
  if 0x61 ≤ c.val && c.val ≤ 0x7A then .ofNat (c.val - 0x20)
  else if c.val = 0x131 then .ofNat 0x49
  else c

/-- The level of a name, in any case. -/
def ofName? (t : Text) : Option Level :=
  let capitals := t.map capital
  all.find? fun level => level.name == capitals

theorem ofName?_name : ∀ level ∈ all, ofName? level.name = some level := by
  decide

end Level

end SignedBlog.Log
