import QueryClient.Binary64.Basic

/-!
# Shortest decimals

Every finite binary number is the nearest one to all decimals of some
interval around it. Its **shortest decimal** has the fewest digits among
these, and of several with as few digits it is the nearest.

On the grid of decimals with a given number of digits, only the two
neighbours of the number have to be looked at: if any point of the grid lies
in the interval, one of them does. Seventeen digits always suffice.
-/

namespace QueryClient.Binary64

/-- A **decimal**: whole digits times a power of ten. -/
structure Decimal where
  /-- The digits as one whole number. -/
  digits : Nat
  /-- The power of ten of the last digit. -/
  exponent : Int
deriving DecidableEq, Repr

/-- The power of ten of the first digit of the quotient `num / den`. -/
def leadingExponent (num den : Nat) : Int :=
  if den ≤ num then ((Nat.toDigits 10 (num / den)).length : Int) - 1
  else
    let size := (Nat.toDigits 10 (den / num)).length
    if num * Nat.pow 10 (size - 1) = den then 1 - (size : Int) else -(size : Int)

/-- The quotient `num / den` over the unit `10 ^ e`, as a pair of whole
numbers. -/
def perUnit (num den : Nat) (e : Int) : Nat × Nat :=
  match e with
  | .ofNat k => (num, den * Nat.pow 10 k)
  | .negSucc k => (num * Nat.pow 10 (k + 1), den)

/-- The interval of quotients that round to `m · 2 ^ q`, in quarters of
`2 ^ q`: the number itself, the lower end, the upper end. Below a power of
two the numbers lie twice as close. -/
def quarters (m : Nat) (q : Int) : Nat × Nat × Nat :=
  let gap := if m = Nat.pow 2 52 ∧ -1074 < q then 1 else 2
  (4 * m, 4 * m - gap, 4 * m + 2)

/-- Whether `digits` units, of which a quarter of `2 ^ q` is `num / den`, lie
in the interval around `m · 2 ^ q`. The ends belong to it when `m` is
even. -/
def readsBack (m : Nat) (q : Int) (num den digits : Nat) : Bool :=
  let (_, low, high) := quarters m q
  if m % 2 = 0 then low * num ≤ digits * den && digits * den ≤ high * num
  else low * num < digits * den && digits * den < high * num

/-- The neighbour on the grid of unit `10 ^ e` that reads back; of two the
nearer, of two as near the even one. -/
def onGrid? (m : Nat) (q e : Int) : Option Nat :=
  let quarter : Nat × Nat := scale 1 4 (-q)
  let (num, den) := perUnit quarter.1 quarter.2 e
  let below := 4 * m * num / den
  let rest := 4 * m * num % den
  let fits := readsBack m q num den
  match fits below, fits (below + 1) with
  | true, true =>
    some (if 2 * rest < den ∨ (2 * rest = den ∧ below % 2 = 0) then below
      else below + 1)
  | true, false => some below
  | false, true => some (below + 1)
  | false, false => none

/-- The digits without the zeros at their end, at most `fuel` of which are
taken away. -/
def Decimal.dropZeros : Nat → Decimal → Decimal
  | 0, d => d
  | fuel + 1, d =>
    if d.digits % 10 = 0 ∧ d.digits ≠ 0 then
      dropZeros fuel ⟨d.digits / 10, d.exponent + 1⟩
    else d

/-- The decimal of the first grid that reads back, from `17 - left` digits
on. -/
def searchShortest (m : Nat) (q lead : Int) : Nat → Decimal
  | 0 => ⟨0, 0⟩
  | left + 1 =>
    let e := lead - (16 - (left : Int))
    match onGrid? m q e with
    | some digits => ⟨digits, e⟩
    | none => searchShortest m q lead left

/-- The **shortest decimal** of `m · 2 ^ q`. -/
def shortest (m : Nat) (q : Int) : Decimal :=
  let value : Nat × Nat := scale m 1 (-q)
  (searchShortest m q (leadingExponent value.1 value.2) 17).dropZeros 20

end QueryClient.Binary64
