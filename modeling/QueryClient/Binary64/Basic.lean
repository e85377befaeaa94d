/-!
# Binary floating point

A **binary64** number has a sign and a magnitude of 63 bits. Read as a
number, the magnitude counts the representable absolute values upwards from
zero, so it orders them: the largest finite one is followed by infinity, and
whatever lies beyond infinity is no number.

A finite magnitude stands for `mantissa · 2 ^ exponent` with a mantissa
below `2 ^ 53`. `round` goes the other way, from a quotient of whole numbers
to the nearest representable one, the even one of two equally near.
-/

namespace QueryClient

/-- A **binary64** number: a sign and a magnitude of 63 bits. -/
structure Binary64 where
  /-- Whether the sign bit is set. -/
  negative : Bool
  /-- The other 63 bits. -/
  magnitude : Nat
  /-- There are no more than 63. -/
  magnitude_lt : magnitude < Nat.pow 2 63
deriving DecidableEq

namespace Binary64

/-- The magnitude of infinity. -/
def infinity : Nat := 0x7FF * Nat.pow 2 52

/-- The number of the sign and magnitude; a magnitude of more than 63 bits
counts as infinity. -/
def ofMagnitude (negative : Bool) (magnitude : Nat) : Binary64 :=
  if h : magnitude < Nat.pow 2 63 then ⟨negative, magnitude, h⟩
  else ⟨negative, infinity, by decide⟩

/-- The 64 bits as one number. -/
def toBits (x : Binary64) : Nat :=
  (if x.negative then Nat.pow 2 63 else 0) + x.magnitude

/-- Whether it is no number. -/
def isNaN (x : Binary64) : Bool :=
  infinity < x.magnitude

/-- The mantissa of a finite number. -/
def mantissa (x : Binary64) : Nat :=
  x.magnitude % Nat.pow 2 52 +
    if x.magnitude < Nat.pow 2 52 then 0 else Nat.pow 2 52

/-- The exponent of a finite number. -/
def exponent (x : Binary64) : Int :=
  (max 1 (x.magnitude / Nat.pow 2 52) : Nat) - 1075

/-- Whether the number is zero or below; what is no number is neither. -/
def isAtMostZero (x : Binary64) : Bool :=
  !x.isNaN && (x.negative || x.magnitude == 0)

/-- Whether two numbers are equal **as numbers**: the two zeros are, and
what is no number equals nothing. -/
def sameNumber (x y : Binary64) : Bool :=
  !x.isNaN && !y.isNaN &&
    (x == y || (x.magnitude == 0 && y.magnitude == 0))

/-- The whole number nearest to `num / den`, the even one of two. -/
def nearestEven (num den : Nat) : Nat :=
  let m := num / den
  let r := num % den
  if den < 2 * r ∨ (2 * r = den ∧ m % 2 = 1) then m + 1 else m

/-- The quotient `num / (den · 2 ^ q)`, as a pair of whole numbers. -/
def scale (num den : Nat) (q : Int) : Nat × Nat :=
  match q with
  | .ofNat k => (num, den * Nat.pow 2 k)
  | .negSucc k => (num * Nat.pow 2 (k + 1), den)

/-- The **nearest magnitude** to the quotient `num / den`. The exponent is
the least that leaves a mantissa below `2 ^ 53`; a mantissa that rounds up to
that bound carries into the exponent by itself. -/
def roundMagnitude (num den : Nat) : Nat :=
  let guess : Int := max ((num.log2 : Int) - den.log2 - 53) (-1074)
  let first := scale num den guess
  let q := if first.1 / first.2 < Nat.pow 2 53 then guess else guess + 1
  let final := scale num den q
  min infinity ((q + 1074).toNat * Nat.pow 2 52 + nearestEven final.1 final.2)

/-- The nearest number to the quotient `num / den` with the sign. -/
def round (negative : Bool) (num den : Nat) : Binary64 :=
  ofMagnitude negative (roundMagnitude num den)

/-- The nearest number to `digits · 10 ^ exponent`. Exponents far outside
the range are settled by the size of the decimal alone. -/
def ofDecimal (negative : Bool) (digits : Nat) (exponent : Int) : Binary64 :=
  let size : Int := (Nat.toDigits 10 digits).length + exponent
  if digits = 0 ∨ size < -400 then ofMagnitude negative 0
  else if 400 < size then ofMagnitude negative infinity
  else match exponent with
    | .ofNat k => round negative (digits * Nat.pow 10 k) 1
    | .negSucc k => round negative digits (Nat.pow 10 (k + 1))

end Binary64
end QueryClient
