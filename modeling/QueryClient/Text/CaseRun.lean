import QueryClient.Text.Basic

/-!
# Runs of letters with case

The letters of a script and their other case mostly stand at one distance
from each other. A **case run** holds such a stretch: the first and last
letter, the step between neighbours (2 where capitals and small letters
alternate), and the distance to the other case.
-/

namespace QueryClient

/-- A **case run**: evenly spaced letters at one distance from their other
case. -/
structure CaseRun where
  /-- The first letter of the run. -/
  first : Nat
  /-- The last letter of the run. -/
  last : Nat
  /-- How far neighbouring letters of the run are apart. -/
  step : Nat
  /-- How far the other case lies from the letter. -/
  shift : Int

namespace CaseRun

/-- Whether the run holds the code point. -/
def holds (r : CaseRun) (n : Nat) : Bool :=
  r.first ≤ n && n ≤ r.last && (n - r.first) % r.step == 0

/-- The other case of a character by the first run that holds it; without
such a run the character itself. -/
def apply (runs : List CaseRun) (c : Char) : Char :=
  match runs.find? (·.holds c.toNat) with
  | some r => Char.ofNat (c.toNat + r.shift).toNat
  | none => c

end CaseRun
end QueryClient
