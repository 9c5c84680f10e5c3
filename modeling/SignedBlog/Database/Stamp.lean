import SignedBlog.Database.Cell

/-!
Times of arrival, as they are written to a database.

A new message arrives at the time of the clock, or with the latest message if the clock is behind. The
latest time is taken from the database as it is, in whatever form of number.
-/

namespace SignedBlog.Database

set_option autoImplicit false

/-- A time in one of the forms of a number. -/
inductive Stamp where
  | whole (n : Int)
  | flag (b : Bool)
  | fractional (x : Binary64)
deriving DecidableEq

namespace Stamp

/-- A cell as a time; only numbers are. -/
def ofCell? : Value → Option Stamp
  | .int n => some (.whole n)
  | .bool b => some (.flag b)
  | .float x => some (.fractional x)
  | _ => none

def toCell : Stamp → Value
  | .whole n => .int n
  | .flag b => .bool b
  | .fractional x => .float x

/-- The later of a clock's time and the latest time in a cell. -/
def later (clock : Int) (latest : Value) : Except Fault Stamp :=
  match ofCell? latest with
  | none => .error (.cell .notOrdered)
  | some stamp => .ok (if Value.before? (.int clock) latest = some true then stamp else .whole clock)

/-- The time of a stamp in milliseconds, as a header tells it, which has to be whole. -/
def millis (stamp : Stamp) : Except Fault Int :=
  (Cell.toField "time_received" Cell.toInteger stamp.toCell).mapError fun misfit =>
    .invalidRecord "BlogPostHeader" [misfit]

@[simp] theorem ofCell?_toCell (stamp : Stamp) : ofCell? stamp.toCell = some stamp := by
  cases stamp <;> rfl

@[simp] theorem millis_whole (n : Int) : (whole n).millis = .ok n := rfl

theorem later_int (clock latest : Int) :
    later clock (.int latest) = .ok (.whole (max clock latest)) := by
  have hscale : 0 < Int.pow 2 1075 := Int.pow_pos (by decide)
  have hbefore : Value.before? (.int clock) (.int latest) = some (decide (clock < latest)) := by
    change some (decide (clock * Int.pow 2 1075 < latest * Int.pow 2 1075)) = _
    rw [decide_eq_decide.mpr (Int.mul_lt_mul_right hscale)]
  rw [later, hbefore]
  by_cases hlt : clock < latest
  · simp [ofCell?, hlt, Int.max_eq_right (Int.le_of_lt hlt)]
  · simp [ofCell?, hlt, Int.max_eq_left (Int.not_lt.mp hlt)]

end Stamp

end SignedBlog.Database
