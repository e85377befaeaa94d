import QueryClient.Text.Alphanumeric
import QueryClient.Text.DecimalDigit
import QueryClient.Url.Escape

/-!
# Requoting

An address that may or may not be escaped already is **requoted**: escapes
of unreserved characters are read, since they say nothing, and whatever may
not stand in an address is escaped. What is punctuation of addresses stays,
escaped or not.

A percent sign before two letters or numerals that are no hexadecimal number
shows that the text was never escaped. Then no escape is read, and the
percent signs themselves are escaped.
-/

namespace QueryClient.Url

/-- The value of a hexadecimal digit, or of a decimal digit of any
script. -/
def digitValue? (c : Char) : Option Nat :=
  (Text.hexValue? c).or (Text.decimalDigit? c)

/-- The text with the escapes of unreserved characters read, unless a
percent sign is misused. -/
def readUnreserved? : Text → Option Text
  | '%' :: high :: low :: rest =>
    if Text.isAlphanumeric high && Text.isAlphanumeric low then
      match digitValue? high, digitValue? low with
      | some h, some l =>
        let c := Char.ofNat (h * 16 + l)
        (readUnreserved? rest).map
          ((if isUnreserved c then [c] else ['%', high, low]) ++ ·)
      | _, _ => none
    else (readUnreserved? (high :: low :: rest)).map ('%' :: ·)
  | c :: rest => (readUnreserved? rest).map (c :: ·)
  | [] => some []

/-- The punctuation of addresses. -/
def isPunctuation (c : Char) : Bool :=
  "!#$&'()*+,/:;=?@[]".toList.contains c

/-- Whether the character may stand in an address as it is, percent signs
aside. -/
def isPlain (c : Char) : Bool :=
  isUnreserved c || isPunctuation c

/-- The address **requoted**. -/
def requote (t : Text) : Text :=
  match readUnreserved? t with
  | some read => escape (fun c => isPlain c || c == '%') read
  | none => escape isPlain t

end QueryClient.Url
