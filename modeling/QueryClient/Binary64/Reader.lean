import QueryClient.Binary64.Basic
import QueryClient.Text.Blank
import QueryClient.Text.DecimalDigit

/-!
# Reading numbers

A **numeral** may have a sign, a fraction and an exponent, or be one of the
words for infinity and for no number. Around it blanks may stand, its digits
may be of any script, and single underscores may part its digits.

Reading goes in three steps. `simplify` turns every script's digits and
blanks into ASCII ones; `withoutUnderscores` takes the underscores away and
refuses those that do not stand between two digits; `numeral?` reads what is
left.
-/

namespace QueryClient.Binary64

/-- A character with a digit of any script as an ASCII digit, and a blank
beyond ASCII as a space. Other characters beyond ASCII have no place in a
numeral. -/
def simplifyChar? (c : Char) : Option Char :=
  if c.toNat < 127 then some c
  else if Text.isBlank c then some ' '
  else (Text.decimalDigit? c).map fun d => Char.ofNat (48 + d)

/-- The text in ASCII. A text that is ASCII already stays as it is. -/
def simplify? (t : Text) : Option Text :=
  if Text.isAscii t then some t else t.mapM simplifyChar?

/-- Whether the character is one of the six ASCII blanks. -/
def isSpace (c : Char) : Bool :=
  c == ' ' || (9 ≤ c.toNat && c.toNat ≤ 13)

/-- The text without the ASCII blanks at either end. -/
def trimSpaces (t : Text) : Text :=
  ((t.dropWhile isSpace).reverse.dropWhile isSpace).reverse

/-- Whether every underscore stands between two digits, `before` being the
character in front. -/
def underscoresPart (before : Char) : Text → Bool
  | [] => before != '_'
  | c :: rest =>
    (if c == '_' then before.isDigit else before != '_' || c.isDigit)
      && underscoresPart c rest

/-- The text without its underscores, if each stands between two digits. -/
def withoutUnderscores? (t : Text) : Option Text :=
  if underscoresPart ' ' t then some (t.filter (· != '_')) else none

/-- The sign in front of a numeral, and what follows it. -/
def sign : Text → Bool × Text
  | '-' :: rest => (true, rest)
  | '+' :: rest => (false, rest)
  | t => (false, t)

/-- The number that a word names: infinity or no number, in any case of its
letters. -/
def word? (negative : Bool) (t : Text) : Option Binary64 :=
  let small := String.ofList (Text.lowerAscii t)
  if small = "inf" ∨ small = "infinity" then
    some (ofMagnitude negative infinity)
  else if small = "nan" then
    some (ofMagnitude negative (infinity + Nat.pow 2 51))
  else none

/-- The exponent that follows the digits: nothing, or a mark, a sign and
digits. -/
def exponent? : Text → Option Int
  | [] => some 0
  | c :: rest =>
    let (negative, digits) := sign rest
    if (c == 'e' || c == 'E') && Text.isNumeral digits then
      some (if negative then -(Text.digitsValue digits : Int)
        else Text.digitsValue digits)
    else none

/-- The number that digits with a fraction and an exponent write. -/
def decimal? (negative : Bool) (t : Text) : Option Binary64 :=
  let whole := t.takeWhile Char.isDigit
  let (fraction, rest) := match t.dropWhile Char.isDigit with
    | '.' :: more => (more.takeWhile Char.isDigit, more.dropWhile Char.isDigit)
    | other => ([], other)
  if whole.isEmpty && fraction.isEmpty then none
  else (exponent? rest).map fun e =>
    ofDecimal negative (Text.digitsValue (whole ++ fraction))
      (e - fraction.length)

/-- The number of a **numeral** in ASCII without blanks or underscores. -/
def numeral? (t : Text) : Option Binary64 :=
  let (negative, rest) := sign t
  (word? negative rest).or (decimal? negative rest)

/-- The number that a text writes, if it writes one. -/
def ofText? (t : Text) : Option Binary64 := do
  numeral? (← withoutUnderscores? (trimSpaces (← simplify? t)))

end QueryClient.Binary64
