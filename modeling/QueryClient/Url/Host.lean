import QueryClient.Text.Quoted
import QueryClient.Url.Component
import QueryClient.Url.Ip
import QueryClient.Url.Names

/-!
# Hosts

A **host** is an IPv6 address in brackets, an IPv4 address, or a name. Each
has one normal form, so that the same host is always contacted under the
same text: letters in lower case, escapes of ordinary characters read, other
escapes in capitals, labels beyond ASCII in Punycode.

Controls and spaces are refused in every host, and escapes of controls in
every host that is normalised.
-/

namespace QueryClient.Url

/-- Why a host is refused, or the port beside it. -/
inductive HostFault where
  /-- The host holds a control or a space. -/
  | invalidCharacter (host : Text) (c : Char)
  /-- The host holds the escape of a control. -/
  | controlEscape (host written : Text)
  /-- A label beyond ASCII is not well formed. -/
  | badLabel (label : Text)
  /-- The text is neither a host nor a host with a port. -/
  | notHostAndPort (t : Text)
  /-- The port of the address is beyond the last. -/
  | portOutOfRange (address : Text)
deriving DecidableEq, Repr

/-- The message of a fault. -/
def HostFault.message (f : HostFault) : Text :=
  "Failed to parse: ".toList ++ match f with
    | .invalidCharacter host c =>
      "Host ".toList ++ Text.quoted host
        ++ " contains invalid character ".toList ++ Text.quoted [c]
    | .controlEscape host written =>
      "Host ".toList ++ Text.quoted host
        ++ " contains invalid percent-encoded control character ".toList
        ++ Text.quoted written
    | .badLabel label =>
      "Name \x27".toList ++ label ++ "\x27 is not a valid IDNA label".toList
    | .notHostAndPort t =>
      Text.quoted t ++ " is not a valid host or port".toList
    | .portOutOfRange address => address

/-- Whether the character is a control or the space. -/
def isControlOrSpace (c : Char) : Bool :=
  c.toNat ≤ 0x20 || c.toNat == 0x7F

/-- Refuses controls and spaces, the first of which is reported. -/
def checkCharacters (t : Text) : Except HostFault Unit :=
  match t.find? isControlOrSpace with
  | some c => .error (.invalidCharacter t c)
  | none => .ok ()

/-- The first escape of a control, as it is written. -/
def controlEscape? : Text → Option Text
  | '%' :: high :: low :: rest =>
    match octet? high low with
    | some o =>
      if o.toNat < 0x20 ∨ o.toNat = 0x7F then some ['%', high, low]
      else controlEscape? rest
    | none => controlEscape? (high :: low :: rest)
  | _ :: rest => controlEscape? rest
  | [] => none

/-- The name with the escapes of unreserved characters read and the others
in capitals. -/
def readEscapes : Text → Text
  | '%' :: high :: low :: rest =>
    match octet? high low with
    | some o =>
      let c := Char.ofNat o.toNat
      (if isUnreserved c then [c] else ['%', high.toUpper, low.toUpper])
        ++ readEscapes rest
    | none => '%' :: readEscapes (high :: low :: rest)
  | c :: rest => c :: readEscapes rest
  | [] => []

/-- A label in its normal form. -/
def normalLabel [Names] (label : Text) : Except HostFault Text :=
  if Text.isAscii label then .ok (upperEscapes (Text.lowerAscii label))
  else (Names.label? label).elim (.error (.badLabel label)) .ok

/-- A numeral of an IPv4 address in any notation: decimal, or hexadecimal
after `0x`. -/
def isIpv4Number (t : Text) : Bool :=
  Text.isNumeral t || match t with
    | '0' :: x :: digits =>
      x.toLower == 'x' && !digits.isEmpty && digits.all Text.isHexDigit
    | _ => false

/-- Whether the name looks like an IPv4 address: one to four numerals. -/
def looksLikeIpv4 (t : Text) : Bool :=
  (Text.fields '.' t).length ≤ 4 && (Text.fields '.' t).all isIpv4Number

/-- A zone of letters, digits, marks and escapes. -/
def isZone : Text → Bool
  | [] => true
  | '%' :: high :: low :: rest => (octet? high low).isSome && isZone rest
  | c :: rest => isUnreserved c && isZone rest

/-- What the brackets of a host enclose, if they enclose an IPv6 address,
perhaps with a zone: the address, and what follows its first percent
sign. -/
def bracketed? (host : Text) : Option (Text × Option Text) :=
  match host with
  | '[' :: rest =>
    let (inner, after) := Text.cut ']' rest
    let (address, zone) := Text.cut '%' inner
    if after == some [] && isGrouped (isDotted isShortNumeral) address
        && zone.all (fun z => !z.isEmpty && isZone z) then
      some (address, zone)
    else none
  | _ => none

/-- The zone in its normal form; the `25` of an escaped percent sign in
front of it goes. -/
def normalZone (zone : Text) : Text :=
  encodeComponent isUnreserved (match zone with
    | '2' :: '5' :: c :: rest => c :: rest
    | other => other)

/-- The host in its **normal form**. -/
def normalHost [Names] (host : Text) : Except HostFault Text := do
  match bracketed? host with
  | some (address, zone) =>
    if let some written := zone.bind controlEscape? then
      throw (.controlEscape host written)
    return ['['] ++ Text.lowerAscii address
      ++ (zone.elim [] fun z => '%' :: normalZone z) ++ [']']
  | none =>
    if looksLikeIpv4 host then return host
    if let some written := controlEscape? host then
      throw (.controlEscape host written)
    let labels ← (Text.fields '.' (readEscapes host)).mapM normalLabel
    return Text.joinFields ['.'] labels

/-- The host of an address: without controls and spaces, and in its normal
form where the scheme `normalizes`. -/
def checkedHost [Names] (normalizes : Bool) (host : Text) : Except HostFault Text := do
  checkCharacters host
  if normalizes && !host.isEmpty then normalHost host else return host

end QueryClient.Url
