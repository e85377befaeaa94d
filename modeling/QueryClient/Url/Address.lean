import QueryClient.Url.Host
import QueryClient.Url.Path

/-!
# Addresses

An **address** is what a text says when it is read strictly: its host has to
be a host and its port a port. For `http`, `https` and addresses without a
scheme all components come out in their normal form; with other schemes they
stay as they are written. A part that is not there is empty, and a missing
port is `none`.
-/

namespace QueryClient.Url

/-- An **address** in its parts. -/
structure Address where
  /-- The scheme, in lower case. -/
  scheme : Text
  /-- The user part. -/
  user : Text
  /-- The host. -/
  host : Text
  /-- The port. -/
  port : Option Nat
  /-- The path; it begins with a slash or is empty. -/
  path : Text
  /-- The query. -/
  query : Text
  /-- The fragment. -/
  fragment : Text
deriving DecidableEq, Repr

namespace Address

/-- Whether the text begins with a scheme of letters, digits, `+` and `-`,
or with a slash. -/
def announcesItself (t : Text) : Bool :=
  match t with
  | '/' :: _ => true
  | c :: _ =>
    let (name, after) := Text.cut ':' t
    c.isAlpha && after.isSome
      && name.all fun c => c.isAlphanum || c == '+' || c == '-'
  | [] => false

/-- The scheme in front, if there is one, and the rest. -/
def cutScheme (t : Text) : Text × Text :=
  match Text.cut ':' t with
  | (c :: rest, some after) =>
    if c.isAlpha && rest.all fun c => c.isAlphanum || "+.-".toList.contains c
    then (c :: rest, after)
    else ([], t)
  | _ => ([], t)

/-- Whether the character ends an authority; a backslash does too. -/
def endsAuthority (c : Char) : Bool :=
  c == '/' || c == '?' || c == '#' || c == '\\'

/-- The authority in front, if there is one, and the rest. -/
def cutAuthority : Text → Text × Text
  | '/' :: '/' :: rest =>
    (rest.takeWhile (!endsAuthority ·), rest.dropWhile (!endsAuthority ·))
  | t => ([], t)

/-- Whether the components of addresses of this scheme are normalised. -/
def normalizes (scheme : Text) : Bool :=
  scheme.isEmpty || scheme == "http".toList || scheme == "https".toList

/-- Whether the text is a name: any characters but punctuation of
authorities, and escapes. -/
def isName : Text → Bool
  | [] => true
  | '%' :: high :: low :: rest => (octet? high low).isSome && isName rest
  | c :: rest => !("[]%:/?#".toList.contains c) && isName rest

/-- A port as it is written: at most five digits, zeros in front aside. -/
def isPort (t : Text) : Bool :=
  t.all Char.isDigit && (t.dropWhile (· == '0')).length ≤ 5

/-- The host and the port as they are written, if they are ones. -/
def cutPort? (t : Text) : Option (Text × Option Text) :=
  if t.head? = some '[' then
    let (inner, after) := Text.cut ']' t
    let host := inner ++ [']']
    match after with
    | some [] => if (bracketed? host).isSome then some (host, none) else none
    | some (':' :: port) =>
      if (bracketed? host).isSome && isPort port then some (host, some port)
      else none
    | _ => none
  else
    let (host, port) := Text.cut ':' t
    if isName host && port.all isPort then some (host, port) else none

/-- The host and the port of an address, checked. -/
def hostAndPort (address t : Text) : Except HostFault (Text × Option Nat) :=
  match cutPort? t with
  | none => do
    checkCharacters t
    throw (.notHostAndPort t)
  | some (host, port) =>
    match port.filter (!·.isEmpty) with
    | none => .ok (host, none)
    | some digits =>
      if 65535 < Text.digitsValue digits then .error (.portOutOfRange address)
      else .ok (host, some (Text.digitsValue digits))

/-- The path with a slash in front, unless it is empty. -/
def rootedPath (path : Text) : Text :=
  if path.isEmpty || path.head? = some '/' then path else '/' :: path

/-- The text with `//` in front, unless it announces itself. -/
def announced (t : Text) : Text :=
  if announcesItself t then t else '/' :: '/' :: t

/-- The **scheme** that a text begins with, in lower case. -/
def schemeOf (t : Text) : Text :=
  Text.lowerAscii (cutScheme t).1

/-- The **authority** behind the scheme, as it is written. -/
def authorityOf (t : Text) : Text :=
  (cutAuthority (cutScheme t).2).1

/-- What follows the authority. -/
def behindAuthority (t : Text) : Text :=
  (cutAuthority (cutScheme t).2).2

/-- A component in its normal form, if components of addresses of this
scheme have one. -/
def component (scheme : Text) (allowed : Char → Bool) (part : Text) : Text :=
  if normalizes scheme then encodeComponent allowed part else part

/-- The path of an address in its normal form, as far as it has one. -/
def normalPath (scheme path : Text) : Text :=
  rootedPath (component scheme isPathChar
    (if normalizes scheme then removeDots path else path))

/-- The **address** that the text writes. A text that begins neither with a
scheme nor with a slash begins with the authority. -/
def parse [Names] (t : Text) : Except HostFault Address := do
  let whole := announced t
  let scheme := schemeOf whole
  let (beforeFragment, fragment) := Text.cut '#' (behindAuthority whole)
  let (path, query) := Text.cut '?' beforeFragment
  let (user, hostPort) := Text.cutLast '@' (authorityOf whole)
  let (host, port) ← hostAndPort whole hostPort
  let host ← checkedHost (normalizes scheme) host
  return {
    scheme, host, port
    user := component scheme isUserChar (user.getD [])
    path := normalPath scheme path
    query := component scheme isQueryChar (query.getD [])
    fragment := component scheme isQueryChar (fragment.getD []) }

end Address
end QueryClient.Url
