import QueryClient.Config
import QueryClient.Url.Host
import QueryClient.Url.Reference

/-!
# Destinations

A request goes to a **destination**: a host, a port, and a target on it. The
destination is read off the address just before the request is sent, and
not every address has one: it takes a scheme that can be spoken, a host, and
a port that is one.
-/

namespace QueryClient

open Url

/-- The **destination** of a request. -/
structure Destination where
  /-- Whether the connection is a secure one. -/
  secure : Bool
  /-- The host, an IPv6 address without its brackets. -/
  host : Text
  /-- The port. -/
  port : Nat
  /-- The path and the query. -/
  target : Text
deriving DecidableEq, Repr

/-- Why an address has no destination. -/
inductive DestinationFault where
  /-- The scheme cannot be spoken. -/
  | unspoken (url : Text)
  /-- The authority cannot be read. -/
  | authority (f : AuthorityFault)
  /-- The port is none. -/
  | port (f : AuthorityFault)
  /-- There is no host. -/
  | noHost
  /-- The host is none. -/
  | host (f : HostFault)
deriving DecidableEq, Repr

/-- The message of a fault. -/
def DestinationFault.message : DestinationFault → Text
  | .unspoken url =>
    "No connection adapters were found for ".toList ++ Text.quoted url
  | .authority f | .port f => f.message
  | .noHost => "No host specified.".toList
  | .host f => f.message

namespace Destination

/-- The scheme of the connection. -/
def scheme (d : Destination) : Text :=
  if d.secure then "https".toList else "http".toList

/-- The port of a connection when the address names none. -/
def defaultPort (secure : Bool) : Nat :=
  if secure then 443 else 80

/-- Whether the address begins with the scheme and `//`. -/
def speaks (scheme : String) (url : Text) : Bool :=
  (scheme.toList ++ "://".toList).isPrefixOf (Text.lowerAscii url)

/-- The target of an address: its path, at least a slash, and its query. -/
def targetOf (r : Reference) : Text :=
  (if r.path.isEmpty then ['/'] else r.path) ++ Reference.marked '?' r.query

/-- The **destination** of an address. -/
def ofUrl [Names] (url : Text) : Except DestinationFault Destination := do
  let secure := speaks "https" url
  if !secure && !speaks "http" url then throw (.unspoken url)
  let r ← (Reference.split [] url).mapError .authority
  let port ← (Authority.port? r.authority).mapError .port
  match Authority.host? r.authority with
  | none => throw .noHost
  | some written =>
    let host ← (checkedHost true written).mapError .host
    return {
      secure, host
      port := (port.filter (· != 0)).getD (defaultPort secure)
      target := targetOf r }

/-- A destination as messages name it, `what` being what is named. -/
def named (d : Destination) (what : String) : Text :=
  (if d.secure then "HTTPS" else "HTTP").toList ++ what.toList
    ++ "(host=".toList ++ Text.quoted d.host ++ ", port=".toList
    ++ Text.ofNat d.port ++ [')']

/-- The pool of connections to the destination. -/
def pool (d : Destination) : Text :=
  d.named "ConnectionPool"

/-- The connection to the destination. -/
def connection (d : Destination) : Text :=
  d.named "Connection"

end Destination
end QueryClient
