import QueryClient.Exchange.Carrier
import QueryClient.Octets.Gzip
import QueryClient.Url.PlainNames

/-!
# A plain carrier

One carrier there is. Names travel plainly, and a length is a row of digits. Octets are
decoded in the encodings that need no library of their own. No reply is refused, and
one can wait for any time above zero.
-/

namespace QueryClient

/-- A length as it is written: digits, blanks around them aside. -/
def digitLength? (t : Text) : Option Int :=
  let trimmed := Text.trimBlanks t
  if Text.isNumeral trimmed then some (Text.digitsValue trimmed) else none

/-- **The plain carrier.** -/
@[reducible] def Carrier.plain : Carrier where
  toNames := .plain
  length? := digitLength?
  decode := Encoding.decode
  refusal? _ := none
  waitFault? _ := none

end QueryClient
