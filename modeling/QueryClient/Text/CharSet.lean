import QueryClient.Text.Basic

/-!
# Sets of characters

A property of characters that a standard fixes by listing code points is
held as a **character set**: the increasing list of the code points where
membership changes. A character belongs to the set when an odd number of
these boundaries lies at or below it, so the boundaries read in pairs are
the half-open ranges of the set.
-/

namespace QueryClient

/-- A **character set**, by the code points where membership changes. -/
structure CharSet where
  /-- The increasing code points at which membership changes, beginning
  from outside the set. -/
  boundaries : List Nat

namespace CharSet

/-- Whether the character lies between a boundary that opens a range and the
one that closes it. -/
def contains (s : CharSet) (c : Char) : Bool :=
  (s.boundaries.takeWhile (· ≤ c.toNat)).length % 2 == 1

end CharSet
end QueryClient
