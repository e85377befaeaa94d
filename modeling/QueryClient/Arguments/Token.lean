import QueryClient.Arguments.Fault
import QueryClient.Text.DecimalDigit

/-!
# Tokens of a command line

Before any argument is acted on, all are sorted into **tokens**: a flag,
perhaps with a value attached to it; a value; something that looks like a
flag and is none; or the separator `--`, after which everything is a value.
A flag may be spelled in full, cut short, or, if it is a short one, run
together with what follows.

A negative number, or a text with a space in it, is a value although it
begins with a hyphen, unless it can be read as a flag.
-/

namespace QueryClient.Arguments

/-- A **token** of the command line. -/
inductive Token where
  /-- A value. -/
  | value (t : Text)
  /-- A flag in a spelling, with the value attached to it. -/
  | flag (f : Flag) (spelling : Text) (attached : Option Text)
  /-- Something like a flag that is none. -/
  | unknown (t : Text)
  /-- The separator. -/
  | separator
deriving DecidableEq, Repr

namespace Token

/-- The separator as it is written. -/
def separatorText : Text := "--".toList

/-- The flags that a text beginning with two hyphens may be cut short
from. -/
def longCandidates (t : Text) : List Token :=
  let (front, attached) := Text.cut '=' t
  (Flag.table.filter fun entry => front.isPrefixOf entry.1).map
    fun (spelling, f) => flag f spelling attached

/-- The flags that a text beginning with one hyphen may be: the short one of
its first letter with the rest attached, and those it may be cut short
from. -/
def shortCandidates (t : Text) : List Token :=
  Flag.table.filterMap fun (spelling, f) =>
    if spelling == t.take 2 then some (flag f spelling (some (t.drop 2)))
    else if t.isPrefixOf spelling then some (flag f spelling none)
    else none

/-- The flags that a text may be, if it is not one in full. -/
def candidates (t : Text) : List Token :=
  if Flag.isLong t then longCandidates t else shortCandidates t

/-- The spelling of a flag; other tokens have none. -/
def spelling : Token → Text
  | flag _ s _ => s
  | _ => []

/-- Whether the text is a run of decimal digits of any script. -/
def isDigits (t : Text) : Bool :=
  !t.isEmpty && t.all Text.isDecimalDigit

/-- Whether the text is a **negative number**: a hyphen and digits, perhaps
with a point and digits after them. One line end may follow. -/
def isNegativeNumber (t : Text) : Bool :=
  let line := if t.getLast? = some '\n' then t.dropLast else t
  match line with
  | '-' :: rest =>
    isDigits rest || match Text.cut '.' rest with
      | (whole, some fraction) =>
        whole.all Text.isDecimalDigit && isDigits fraction
      | _ => false
  | _ => false

/-- A flag spelled in full, perhaps with a value after `=`. -/
def inFull? (t : Text) : Option Token :=
  match Flag.ofSpelling? t with
  | some f => some (flag f t none)
  | none =>
    match Text.cut '=' t with
    | (front, some attached) =>
      (Flag.ofSpelling? front).map fun f => flag f front (some attached)
    | _ => none

/-- The **token** of one argument. -/
def ofText (t : Text) : Except Fault Token :=
  if t.head? ≠ some '-' ∨ t.length = 1 then .ok (value t)
  else match inFull? t with
    | some token => .ok token
    | none =>
      match candidates t with
      | [token] => .ok token
      | [] =>
        .ok (if isNegativeNumber t || t.contains ' ' then value t
          else unknown t)
      | several => .error (.ambiguous t (several.map spelling))

/-- The **tokens** of the arguments. -/
def ofArguments : List Text → Except Fault (List Token)
  | [] => .ok []
  | t :: rest =>
    if t = separatorText then .ok (separator :: rest.map value)
    else do return (← ofText t) :: (← ofArguments rest)

end Token
end QueryClient.Arguments
