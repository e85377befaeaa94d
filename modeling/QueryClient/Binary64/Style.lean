import QueryClient.Binary64.Shortest
import QueryClient.Text.Basic

/-!
# How numbers are shown

A number is shown by its shortest decimal, either **positionally** or with
an **exponent**. Which of the two is a question of where the point falls,
and is decided together with the other choices of appearance by one value,
`shownStyle`.
-/

namespace QueryClient.Binary64

/-- The **style** numbers are shown in. -/
structure Style where
  /-- The least place of the point that is shown positionally. -/
  firstPlace : Int
  /-- The greatest such place. -/
  lastPlace : Int
  /-- The fewest digits of an exponent. -/
  exponentDigits : Nat

/-- Positional with the point from three zeros after it to sixteen digits
before it; otherwise an exponent of at least two digits. -/
def shownStyle : Style :=
  { firstPlace := -3, lastPlace := 16, exponentDigits := 2 }

/-- Digits with the point before the digit at `place`, filled with zeros as
needed and with at least one digit on either side. -/
def positional (digits : Text) (place : Int) : Text :=
  if place ≤ 0 then
    ['0', '.'] ++ List.replicate (-place).toNat '0' ++ digits
  else
    let whole := digits.take place.toNat
    let fraction := digits.drop place.toNat
    whole ++ List.replicate (place.toNat - whole.length) '0' ++ ['.']
      ++ (if fraction.isEmpty then ['0'] else fraction)

/-- Digits with the point after the first and an exponent. -/
def scientific (style : Style) (digits : Text) (e : Int) : Text :=
  digits.take 1
    ++ (if digits.length = 1 then [] else '.' :: digits.drop 1)
    ++ ['e', if e < 0 then '-' else '+']
    ++ Text.padded 10 style.exponentDigits e.natAbs

/-- A decimal in the style. -/
def Style.show (style : Style) (d : Decimal) : Text :=
  let digits := Text.ofNat d.digits
  let place := (digits.length : Int) + d.exponent
  if style.firstPlace ≤ place ∧ place ≤ style.lastPlace then
    positional digits place
  else scientific style digits (place - 1)

/-- The text of a number. -/
def shown (x : Binary64) : Text :=
  if x.isNaN then "nan".toList
  else
    (if x.negative then ['-'] else [])
      ++ if x.magnitude = infinity then "inf".toList
        else if x.magnitude = 0 then "0.0".toList
        else shownStyle.show (shortest x.mantissa x.exponent)

end QueryClient.Binary64
