import QueryClient.Binary64.Basic
import QueryClient.Url.Names

/-!
# The carrier

Requests are carried, and replies taken in, by a library that is not part of the
client. Much of it does not matter: what passes over the wire is given as a list of
events. But some of what it does with a reply, or refuses to do, differs from one
edition of it to the next, and from one system to the next. This is the **carrier**.

Nothing is assumed of it, beyond what is assumed of names. So what is said of
exchanges holds for every carrier.
-/

namespace QueryClient

/-- A **carrier** of requests. -/
class Carrier extends Url.Names where
  /-- The number that a text writes, where a length is announced, if it writes
  one. -/
  length? : Text → Option Int
  /-- What a body stands for when it comes in an encoding, or why it cannot be
  decoded. -/
  decode : Text → List UInt8 → Except Text (List UInt8)
  /-- Why a reply with such headers cannot be taken in, if it cannot. This is a
  failure that nobody expects. -/
  refusal? : List (Text × Text) → Option Text
  /-- Why one cannot wait for so long, if one cannot. -/
  waitFault? : Binary64 → Option Text

end QueryClient
