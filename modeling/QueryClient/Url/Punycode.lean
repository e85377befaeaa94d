import QueryClient.Text.Basic

/-!
# Punycode

A label with characters beyond ASCII is written in ASCII by **Punycode**:
first its ASCII characters in order, then, as a sequence of numbers, where
the others are to be inserted. The characters beyond ASCII are inserted from
the least code point upwards, and each number says how many possible
insertions are passed over before the next one.

A number is written with digits of varying weight, which adapt to the
numbers seen so far.
-/

namespace QueryClient.Url.Punycode

/-- The digit of a value below 36. -/
def digit (n : Nat) : Char :=
  if n < 26 then Char.ofNat (97 + n) else Char.ofNat (22 + n)

/-- The threshold of the digit at place `k`, a multiple of 36. -/
def threshold (bias k : Nat) : Nat :=
  min 26 (max 1 (k - bias))

/-- The digits of a number from place `k` on. At each place the value
shrinks at least by a factor of ten. -/
def number (bias k q : Nat) : Text :=
  let t := threshold bias k
  if h : q < t then [digit q]
  else digit (t + (q - t) % (36 - t)) :: number bias (k + 36) ((q - t) / (36 - t))
termination_by q
decreasing_by
  have h1 : 1 ≤ threshold bias k := by unfold threshold; omega
  have h2 : threshold bias k ≤ 26 := by unfold threshold; omega
  have h3 : q - threshold bias k < q := by omega
  exact Nat.lt_of_le_of_lt (Nat.div_le_self _ _) h3

/-- How often a value above 455 is to be divided by 35, counted in places,
and what remains. -/
def settle (places delta : Nat) : Nat × Nat :=
  if h : 455 < delta then settle (places + 36) (delta / 35) else (places, delta)
termination_by delta
decreasing_by omega

/-- The bias after a number `delta`, the first of all or not, with `points`
characters in place. -/
def adapt (first : Bool) (delta points : Nat) : Nat :=
  let scaled := if first then delta / 700 else delta / 2
  let (places, rest) := settle 0 (scaled + scaled / points)
  places + 36 * rest / (rest + 38)

/-- The state of writing: how many characters are in place, the number under
way, the bias, and the digits so far. -/
structure Writing where
  /-- How many characters are in place. -/
  placed : Nat
  /-- The number under way. -/
  delta : Nat
  /-- The bias of the next number. -/
  bias : Nat
  /-- Whether no number has been written. -/
  fresh : Bool
  /-- The digits so far. -/
  digits : Text

/-- Passes over one character of the label while the character of code point
`n` is inserted. -/
def Writing.pass (n : Nat) (w : Writing) (c : Char) : Writing :=
  if c.toNat < n then { w with delta := w.delta + 1 }
  else if c.toNat = n then
    { placed := w.placed + 1
      delta := 0
      bias := adapt w.fresh w.delta (w.placed + 1)
      fresh := false
      digits := w.digits ++ number w.bias 36 w.delta }
  else w

/-- Inserts the characters of the given increasing code points into the
label, the least not yet passed being `next`. -/
def Writing.insert (label : Text) (next : Nat) (w : Writing) :
    List Nat → Writing
  | [] => w
  | n :: rest =>
    let ready := { w with delta := w.delta + (n - next) * (w.placed + 1) }
    let done := label.foldl (pass n) ready
    insert label (n + 1) { done with delta := done.delta + 1 } rest

/-- The code points beyond ASCII of a label, increasing and each once. -/
def extended (label : Text) : List Nat :=
  ((label.map Char.toNat).filter (128 ≤ ·)).mergeSort.eraseDups

/-- The label in **Punycode**. -/
def encode (label : Text) : Text :=
  let basic := label.filter (·.toNat < 128)
  let written :=
    Writing.insert label 128 ⟨basic.length, 0, 72, true, []⟩ (extended label)
  (if basic.isEmpty then [] else basic ++ ['-']) ++ written.digits

end QueryClient.Url.Punycode
