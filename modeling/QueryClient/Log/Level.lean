import QueryClient.Text.Upper
import QueryClient.Value

/-!
# Levels

A message for the log has a **level**, a whole number that says how grave it
is; five of them have names. What is asked for when the log is set up is a
**threshold**: a number, or a truth value counted as 0 or 1, or one of the
five names in any case of its letters. Anything else is no level.
-/

namespace QueryClient

/-- The five named **levels**. -/
inductive Severity where
  /-- For those who look for a fault. -/
  | debug
  /-- For those who follow what happens. -/
  | info
  /-- Something may be wrong. -/
  | warning
  /-- Something has failed. -/
  | error
  /-- Nothing can go on. -/
  | critical
deriving DecidableEq, Repr

namespace Severity

/-- The levels from the least grave to the gravest. -/
def all : List Severity :=
  [debug, info, warning, error, critical]

/-- The level as a number. -/
def number : Severity → Int
  | debug => 10
  | info => 20
  | warning => 30
  | error => 40
  | critical => 50

/-- The name of a level. -/
def name : Severity → Text
  | debug => "DEBUG".toList
  | info => "INFO".toList
  | warning => "WARNING".toList
  | error => "ERROR".toList
  | critical => "CRITICAL".toList

/-- The level of a name in capitals. -/
def ofName? (t : Text) : Option Severity :=
  all.find? (·.name == t)

/-- **Levels go by their names.** -/
theorem ofName?_eq_some_iff {t : Text} {s : Severity} :
    ofName? t = some s ↔ t = s.name := by
  constructor
  · intro h
    have hname := List.find?_some h
    exact (beq_iff_eq.mp hname).symm
  · rintro rfl
    cases s <;> decide

/-- The level that a text names in any case of its letters. -/
def ofText? (t : Text) : Option Severity :=
  ofName? (Text.upper t)

end Severity

/-- How a level is called: by its name if it has one. -/
def levelName (n : Int) : Text :=
  match Severity.all.find? (·.number == n) with
  | some s => s.name
  | none => if n = 0 then "NOTSET".toList else "Level ".toList ++ Text.ofInt n

/-- A **threshold** for the log. -/
inductive Threshold where
  /-- A number. -/
  | number (n : Int)
  /-- A truth value. -/
  | flag (b : Bool)
deriving DecidableEq, Repr

namespace Threshold

/-- The threshold as a number. -/
def value : Threshold → Int
  | .number n => n
  | .flag b => if b then 1 else 0

/-- The threshold that a value asks for, if it is one. -/
def ofValue? : Value → Option Threshold
  | .int n => some (.number n)
  | .bool b => some (.flag b)
  | .text t => (Severity.ofText? t).map fun s => .number s.number
  | _ => none

end Threshold

/-- The message about a value that is no level. -/
def badLevelMessage (v : Value) : Text :=
  "Invalid log level: ".toList ++ v.shown

end QueryClient
