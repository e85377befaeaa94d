import QueryClient.Text.CharSet

/-!
# Blank characters

The **blank** characters are those of Unicode's white-space class together
with the four information separators U+001C to U+001F. They may stand
around a number and in front of an address.
-/

namespace QueryClient.Text

/-- The ranges of the **blank** characters. -/
def blanks : CharSet :=
  ⟨[0x09, 0x0E, 0x1C, 0x21, 0x85, 0x86, 0xA0, 0xA1, 0x1680, 0x1681, 0x2000,
    0x200B, 0x2028, 0x202A, 0x202F, 0x2030, 0x205F, 0x2060, 0x3000, 0x3001]⟩

/-- Whether the character is blank. -/
def isBlank (c : Char) : Bool :=
  blanks.contains c

/-- The text without the blanks in front. -/
def trimBlankStart (t : Text) : Text :=
  t.dropWhile isBlank

/-- The text without the blanks at either end. -/
def trimBlanks (t : Text) : Text :=
  ((trimBlankStart t).reverse.dropWhile isBlank).reverse

end QueryClient.Text
