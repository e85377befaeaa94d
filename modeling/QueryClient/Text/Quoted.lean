import QueryClient.Text.Printable

/-!
# Quoted text

Messages show a piece of text **quoted**, so that its ends and its
invisible characters can be seen. Single quotes stand around it, or double
quotes when it holds a single quote and no double one. Inside, a backslash
announces what could not stand for itself: the quote and the backslash, the
three common controls `\t`, `\n` and `\r`, and by its code point every other
character that is not printable.
-/

namespace QueryClient.Text

/-- The apostrophe. -/
def apostrophe : Char := '\x27'

/-- The double quotation mark. -/
def quotationMark : Char := '\x22'

/-- The mark that stands around the quoted form of the text. -/
def quoteMark (t : Text) : Char :=
  if t.contains apostrophe && !t.contains quotationMark then quotationMark
  else apostrophe

/-- A character by its code point, in two, four or eight hexadecimal
digits. -/
def codePoint (c : Char) : Text :=
  if c.toNat < 0x100 then ['\\', 'x'] ++ padded 16 2 c.toNat
  else if c.toNat < 0x10000 then ['\\', 'u'] ++ padded 16 4 c.toNat
  else ['\\', 'U'] ++ padded 16 8 c.toNat

/-- A character as it stands between the marks `mark`. -/
def quoteChar (mark c : Char) : Text :=
  if c = mark ∨ c = '\\' then ['\\', c]
  else if c = '\t' then ['\\', 't']
  else if c = '\n' then ['\\', 'n']
  else if c = '\r' then ['\\', 'r']
  else if isPrintable c then [c]
  else codePoint c

/-- The **quoted** form of a text. -/
def quoted (t : Text) : Text :=
  quoteMark t :: t.flatMap (quoteChar (quoteMark t)) ++ [quoteMark t]

end QueryClient.Text
