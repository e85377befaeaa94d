import QueryClient.Exchange.Reply
import QueryClient.Octets.Latin1
import QueryClient.Octets.Utf8
import QueryClient.Request
import QueryClient.Url.Join
import QueryClient.Url.Requote

/-!
# Going elsewhere

A reply may ask to go elsewhere. The next **hop** is worked out from the
present one and the `Location` of the reply: the new address, meant from the
present one, and whether the credentials go along. They do only when the new
address is of the same host and its port and scheme agree, or when a plain
connection becomes a secure one on the usual ports. Once they are dropped
they stay dropped.

The method and the body go along where the reply asks for the same request
elsewhere. Other replies ask for what is found there, without a body.

A fragment that an address does not have is inherited from the last one
seen.
-/

namespace QueryClient

open Url

/-- A **hop**: the request that goes out, and the last fragment seen. -/
structure Hop extends Request where
  /-- The last fragment seen. -/
  fragment : Text
deriving DecidableEq, Repr

/-- Why the next hop cannot be worked out. -/
inductive RedirectFault where
  /-- The location has characters that no header can have. -/
  | characters (f : Latin1.Fault)
  /-- The octets of the location are no text. -/
  | octets (f : Utf8.Fault)
  /-- The authority of an address, or its port, cannot be read. -/
  | authority (f : AuthorityFault)
deriving DecidableEq, Repr

/-- The message of a fault. -/
def RedirectFault.message : RedirectFault → Text
  | .characters f => f.message
  | .octets f => f.message
  | .authority f => f.message

namespace Redirect

/-- The text of a location, whose characters stand for octets. -/
def readLocation (t : Text) : Except RedirectFault Text := do
  let octets ← (Latin1.encode t).mapError .characters
  (Utf8.decode octets).mapError .octets

/-- Whether the two ports agree, a missing one being the usual port of the
scheme. -/
def portsAgree (scheme : Text) (p q : Option Nat) : Bool :=
  let usual (port : Option Nat) : Bool :=
    port == none
      || (scheme == "http".toList && port == some 80)
      || (scheme == "https".toList && port == some 443)
  p == q || (usual p && usual q)

/-- Whether credentials for the address `old` go along to `new`. The port
is not looked at when the host differs. -/
def keepsCredentials (old new : Reference) : Except AuthorityFault Bool := do
  if Authority.host? old.authority != Authority.host? new.authority then
    return false
  let p ← Authority.port? old.authority
  let q ← Authority.port? new.authority
  let plain := old.scheme == "http".toList && (p == none || p == some 80)
  let secure := new.scheme == "https".toList && (q == none || q == some 443)
  return (plain && secure)
    || (old.scheme == new.scheme && portsAgree old.scheme p q)

/-- The location with the scheme of the present address, where it begins
with its authority. -/
def withScheme (current location : Text) : Except AuthorityFault Text :=
  if ['/', '/'].isPrefixOf location then
    (Reference.split [] current).map fun r => r.scheme ++ ':' :: location
  else .ok location

/-- The new address and the last fragment seen. -/
def nextUrl (current fragment location : Text) :
    Except AuthorityFault (Text × Text) := do
  let r ← Reference.parse [] (← withScheme current location)
  let seen := if r.fragment.isEmpty then fragment else r.fragment
  let written := requote { r with fragment := seen }.print
  let url ← if r.authority.isEmpty then join current written else .ok written
  return (url, seen)

/-- The credentials that go along from one address to the next. -/
def nextAuthorization (current next : Text) (authorization : Option Text) :
    Except AuthorityFault (Option Text) := do
  let new ← Reference.split [] next
  if authorization.isNone then return none
  let old ← Reference.split [] current
  return if ← keepsCredentials old new then authorization else none

/-- The method that a reply of the status asks for after `method`. -/
def nextMethod (status : Nat) (method : Text) : Text :=
  if (status == 302 || status == 303) && method != "HEAD".toList then
    Request.getMethod
  else if status == 301 && method == "POST".toList then Request.getMethod
  else method

/-- The body that goes along after a reply of the status. -/
def nextBody (status : Nat) (body : Option (List UInt8)) :
    Option (List UInt8) :=
  if status == 307 || status == 308 then body else none

end Redirect

namespace Hop

/-- The first hop of a request. -/
def first (r : Request) : Hop where
  toRequest := r
  fragment := match Reference.split [] r.url with
    | .ok parts => parts.fragment
    | .error _ => []

/-- The hop to a location, after a reply of the status. -/
def follow (h : Hop) (status : Nat) (location : Text) :
    Except AuthorityFault Hop := do
  let (url, fragment) ← Redirect.nextUrl h.url h.fragment location
  let authorization ← Redirect.nextAuthorization h.url url h.authorization
  return {
    method := Redirect.nextMethod status h.method
    url, authorization
    body := Redirect.nextBody status h.body
    fragment }

/-- The **next hop** that a reply asks for, if it asks for one. An empty
location asks for nothing. -/
def next? (h : Hop) (r : Reply) : Except RedirectFault (Option Hop) :=
  match r.location? with
  | none => .ok none
  | some written => do
    let location ← Redirect.readLocation written
    if location.isEmpty then return none
    return some (← (h.follow r.status location).mapError .authority)

end Hop
end QueryClient
