import QueryClient.Text.Quoted
import QueryClient.Url.Ip

/-!
# The authority of an address

Between `//` and the path stands the **authority**: perhaps a user with a
password, then the host, perhaps a port. It is kept as the text it is, and
its parts are read off when they are wanted, so an authority with a bad port
is still an authority.

`Authority.check` refuses those that could be misread: brackets that do not
enclose an IPv6 address, and characters that another reader would take for
the end of the authority.
-/

namespace QueryClient.Url

/-- Why an authority is refused, or its port. -/
inductive AuthorityFault where
  /-- Brackets are unbalanced or do not enclose the whole host. -/
  | brackets
  /-- The bracketed host announces a future kind of address and has not its
  form. -/
  | futureAddress
  /-- The bracketed host is no address. -/
  | notAddress (host : Text)
  /-- The bracketed host is an IPv4 address. -/
  | bracketedIpv4
  /-- A character is equivalent to one that ends or divides authorities. -/
  | deceptive (authority : Text)
  /-- The port is no numeral. -/
  | portNotNumeral (port : Text)
  /-- The port is a number beyond the last. -/
  | portOutOfRange
deriving DecidableEq, Repr

/-- The message of a fault. -/
def AuthorityFault.message : AuthorityFault → Text
  | .brackets => "Invalid IPv6 URL".toList
  | .futureAddress => "IPvFuture address is invalid".toList
  | .notAddress host =>
    Text.quoted host
      ++ " does not appear to be an IPv4 or IPv6 address".toList
  | .bracketedIpv4 => "An IPv4 address cannot be in brackets".toList
  | .deceptive authority =>
    "netloc \x27".toList ++ authority
      ++ "\x27 contains invalid characters under NFKC normalization".toList
  | .portNotNumeral port =>
    "Port could not be cast to integer value as ".toList ++ Text.quoted port
  | .portOutOfRange => "Port out of range 0-65535".toList

namespace Authority

/-- The characters beyond ASCII that are equivalent to a text with one of
`/`, `?`, `#`, `@` and `:` in it. -/
def deceptives : List Nat :=
  [0x2047, 0x2048, 0x2049, 0x2100, 0x2101, 0x2105, 0x2106, 0x2A74, 0xFE13,
    0xFE16, 0xFE55, 0xFE56, 0xFE5F, 0xFE6B, 0xFF03, 0xFF0F, 0xFF1A, 0xFF1F,
    0xFF20]

/-- What stands in front of the last `@`, if there is one. -/
def userInfo? (authority : Text) : Option Text :=
  (Text.cutLast '@' authority).1

/-- What follows the last `@`. -/
def hostAndPort (authority : Text) : Text :=
  (Text.cutLast '@' authority).2

/-- The user, when there is a user part at all. -/
def user? (authority : Text) : Option Text :=
  (userInfo? authority).map fun info => (Text.cut ':' info).1

/-- The password, when a colon follows the user. -/
def password? (authority : Text) : Option Text :=
  (userInfo? authority).bind fun info => (Text.cut ':' info).2

/-- The host and the port as they are written. In brackets colons belong to
the host. -/
def split (authority : Text) : Text × Option Text :=
  match Text.cut '[' (hostAndPort authority) with
  | (_, some bracketed) =>
    let (host, rest) := Text.cut ']' bracketed
    (host, (Text.cut ':' (rest.getD [])).2)
  | (_, none) => Text.cut ':' (hostAndPort authority)

/-- The **host** in lower case, if it is not empty. The zone of an address
keeps its case. -/
def host? (authority : Text) : Option Text :=
  let host := (split authority).1
  if host.isEmpty then none
  else some (Text.lowerAscii (host.takeWhile (· != '%'))
    ++ host.dropWhile (· != '%'))

/-- The **port**, if one is written. -/
def port? (authority : Text) : Except AuthorityFault (Option Nat) :=
  match (split authority).2 with
  | none | some [] => .ok none
  | some port =>
    if !Text.isNumeral port then .error (.portNotNumeral port)
    else if 65535 < Text.digitsValue port then .error .portOutOfRange
    else .ok (some (Text.digitsValue port))

/-- Whether the host has the form of a future kind of address: `v`, digits,
a point, and something. -/
def isFutureAddress (host : Text) : Bool :=
  match host with
  | 'v' :: rest =>
    let (version, address) := Text.cut '.' rest
    !version.isEmpty && version.all Text.isHexDigit
      && address.any (!·.isEmpty)
  | _ => false

/-- Checks what brackets enclose. -/
def checkBracketed (host : Text) : Except AuthorityFault Unit :=
  if host.head? = some 'v' then
    if isFutureAddress host then .ok () else .error .futureAddress
  else if isIpv4 host then .error .bracketedIpv4
  else if isIpv6 host then .ok ()
  else .error (.notAddress host)

/-- Checks that brackets, once there are any, enclose the whole host. -/
def checkBrackets (authority : Text) : Except AuthorityFault Unit :=
  match Text.cut '[' (hostAndPort authority) with
  | (before, some bracketed) =>
    let (host, rest) := Text.cut ']' bracketed
    if !before.isEmpty then .error .brackets
    else if (rest.getD []).head?.any (· != ':') then .error .brackets
    else checkBracketed host
  | (_, none) => checkBracketed (split authority).1

/-- Refuses an authority that could be misread. -/
def check (authority : Text) : Except AuthorityFault Unit := do
  let opened := authority.contains '['
  let closed := authority.contains ']'
  if opened != closed then throw .brackets
  if opened then checkBrackets authority
  if authority.any fun c => deceptives.contains c.toNat then
    throw (.deceptive authority)

end Authority
end QueryClient.Url
