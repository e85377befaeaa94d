import QueryClient.Config
import QueryClient.Octets.Base64
import QueryClient.Octets.Latin1
import QueryClient.Text.Blank
import QueryClient.Url.Address
import QueryClient.Url.Form
import QueryClient.Url.Reference
import QueryClient.Url.Requote

/-!
# Requests

A **request** is a job made ready to be sent: a method, one address with the
named values in its query, and the credentials that the address carries. It
has no body. Nothing is sent while a request is prepared.

A text with a colon that does not begin with `http` is an address of some
other kind; it is taken as it is and gets no named values. Any other text
has to be an address with a scheme and a host.
-/

namespace QueryClient

open Url

/-- A **request** ready to be sent. -/
structure Request where
  /-- The method. -/
  method : Text
  /-- The address. -/
  url : Text
  /-- The credentials, as they go out. -/
  authorization : Option Text
  /-- The body, if there is one. -/
  body : Option (List UInt8)
deriving DecidableEq, Repr

/-- Why a request cannot be prepared. -/
inductive RequestFault where
  /-- The host or the port of the address is none. -/
  | host (f : HostFault)
  /-- The address has no scheme. -/
  | noScheme (url : Text)
  /-- The address has no host. -/
  | noHost (url : Text)
  /-- The host begins with a label that no host has. -/
  | badLabel
  /-- A named value is no text. -/
  | value (f : LooseText.Fault)
  /-- The authority of the address cannot be read. -/
  | authority (f : AuthorityFault)
  /-- The credentials have no octets. -/
  | credentials (f : Latin1.Fault)
deriving DecidableEq, Repr

/-- Whether the failure is among those a client **expects**: the address is
none. Named values that are no text, and credentials that cannot be read from an
address or cannot go out, are not. -/
def RequestFault.isExpected : RequestFault → Bool
  | .host _ | .noScheme _ | .noHost _ | .badLabel => true
  | .value _ | .authority _ | .credentials _ => false

/-- The message of a fault. -/
def RequestFault.message : RequestFault → Text
  | .host f => f.message
  | .noScheme url =>
    "Invalid URL ".toList ++ Text.quoted url
      ++ ": No scheme supplied. Perhaps you meant https://".toList
      ++ url ++ ['?']
  | .noHost url =>
    "Invalid URL ".toList ++ Text.quoted url ++ ": No host supplied".toList
  | .badLabel => "URL has an invalid label.".toList
  | .value f => f.message
  | .authority f => f.message
  | .credentials f => f.message

namespace Request

/-- The method that asks for what is at an address. -/
def getMethod : Text := "GET".toList

/-- Whether the text is an address of a kind that is taken as it is. -/
def isForeign (t : Text) : Bool :=
  t.contains ':' && !"http".toList.isPrefixOf (Text.lowerAscii t)

/-- The host as it goes into the address. -/
def writtenHost [Names] (host : Text) : Except RequestFault Text :=
  if !Text.isAscii host then (Names.name? host).elim (.error .badLabel) .ok
  else if host.head? = some '*' ∨ host.head? = some '.' then .error .badLabel
  else .ok host

/-- The authority of the address, with the host as it goes in. A port of
zero says nothing. -/
def writtenAuthority (a : Address) (host : Text) : Text :=
  (if a.user.isEmpty then [] else a.user ++ ['@']) ++ host
    ++ match a.port with
      | none | some 0 => []
      | some n => ':' :: Text.ofNat n

/-- The path of the address, at least a slash. -/
def writtenPath (a : Address) : Text :=
  if a.path.isEmpty then ['/'] else a.path

/-- The query with the named values behind what it says already. -/
def writtenQuery (query params : Text) : Text :=
  if params.isEmpty then query
  else if query.isEmpty then params
  else query ++ '&' :: params

/-- The address put together from its parts and the named values. -/
def assemble (a : Address) (host params : Text) : Text :=
  requote (Reference.print {
    scheme := a.scheme
    authority := writtenAuthority a host
    path := writtenPath a
    params := []
    query := writtenQuery a.query params
    fragment := a.fragment })

/-- The address that a text writes, and its host as it goes in, if there is
all that a request needs. -/
def usable [Names] (t : Text) : Except RequestFault (Address × Text) := do
  let a ← (Address.parse t).mapError .host
  if a.scheme.isEmpty then throw (.noScheme t)
  if a.host.isEmpty then throw (.noHost t)
  return (a, ← writtenHost a.host)

/-- The **address** with the named values in its query. The values are looked at
when the address is known to be usable. -/
def prepareUrl [Names] (url : Text) (params : List (Text × LooseText)) :
    Except RequestFault Text :=
  let t := Text.trimBlankStart url
  if isForeign t then .ok t
  else do
    let (a, host) ← usable t
    let pairs ← (readPairs params).mapError .value
    return assemble a host (Form.encode pairs)

/-- The user and the password in the authority, with escapes read. There
are none unless both are there, and one of them says something. -/
def credentials? (authority : Text) : Option (Text × Text) := do
  let user := unescapeText (← Authority.user? authority)
  let password := unescapeText (← Authority.password? authority)
  if user.isEmpty && password.isEmpty then none else some (user, password)

/-- Credentials as they go out. -/
def basic (user password : Text) : Except Latin1.Fault Text := do
  let first ← Latin1.encode user
  let second ← Latin1.encode password
  return "Basic ".toList ++ Base64.encode (first ++ 0x3A :: second)

/-- The credentials that the address carries, as they go out. -/
def authorizationOf (url : Text) : Except RequestFault (Option Text) := do
  let r ← (Reference.parse [] url).mapError .authority
  match credentials? r.authority with
  | none => return none
  | some (user, password) =>
    return some (← (basic user password).mapError .credentials)

/-- The **request** that gets an address with named values. -/
def prepare [Names] (url : Text) (params : List (Text × LooseText)) :
    Except RequestFault Request := do
  let full ← prepareUrl url params
  return {
    method := getMethod
    url := full
    authorization := ← authorizationOf full
    body := none }

end Request

/-- The request of a job. -/
def Job.request [Names] (j : Job) : Except RequestFault Request :=
  Request.prepare j.url j.params

end QueryClient
