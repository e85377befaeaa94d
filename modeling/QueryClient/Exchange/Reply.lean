import QueryClient.Exchange.Carrier
import QueryClient.Text.Blank

/-!
# Replies

A **reply** is what comes back for one request: a status with its reason,
headers, and a body. Its **content** is what the body stands for, once it is there
as a whole. Headers decide how a reply is taken. `Content-Length` announces the
length of the body, and a body of any other length is not whole.
`Content-Encoding` says how the content is encoded in the body. `Location` says
where to go next.
-/

namespace QueryClient

/-- A **reply** to one request. -/
structure Reply where
  /-- The status. -/
  status : Nat
  /-- The reason given beside the status. -/
  reason : Option Text
  /-- The headers in their order. -/
  headers : List (Text × Text)
  /-- The body. -/
  body : List UInt8
deriving DecidableEq, Repr

namespace Reply

/-- The value of a header, whose name is given in lower case. Several
headers of one name are one header with the values joined. -/
def header? (r : Reply) (name : String) : Option Text :=
  let values := r.headers.filterMap fun (n, v) =>
    if Text.lowerAscii n == name.toList then some v else none
  if values.isEmpty then none else some (Text.joinFields ", ".toList values)

/-- Whether a reply of this status has a body. -/
def hasBody (r : Reply) : Bool :=
  !(r.status == 204 || r.status == 304 || (100 ≤ r.status && r.status < 200))

/-- What a reply **announces** about the length of its body. -/
inductive Announced where
  /-- Nothing that could be relied on. -/
  | nothing
  /-- So many octets. -/
  | length (n : Nat)
  /-- Lengths that contradict each other. -/
  | contradiction (header : Text)
deriving DecidableEq, Repr

/-- Whether the body comes in chunks that say their own length. -/
def isChunked (r : Reply) : Bool :=
  match r.header? "transfer-encoding" with
  | none => false
  | some v =>
    (Text.fields ',' v).any fun part =>
      Text.lowerAscii (Text.trimBlanks part) == "chunked".toList

/-- Whether a length is announced for a body that says its own. It is not looked
at then. -/
def overrules (r : Reply) : Bool :=
  (r.header? "content-length").isSome && r.isChunked

/-- The **announced** length. A list of equal lengths is one length, and a number
below zero is none. -/
def announced [Carrier] (r : Reply) : Announced :=
  match r.header? "content-length" with
  | none => .nothing
  | some value =>
    if r.isChunked then .nothing
    else match (Text.fields ',' value).mapM Carrier.length? with
      | none | some [] => .nothing
      | some (n :: rest) =>
        if !rest.all (· == n) then .contradiction value
        else if n < 0 then .nothing
        else .length n.toNat

/-- How many octets of a body are **expected**, if that can be said. None are where
the status has no body. -/
def expected? [Carrier] (r : Reply) : Option Nat :=
  if r.overrules then none
  else if r.hasBody then
    match r.announced with
    | .length n => some n
    | .nothing | .contradiction _ => none
  else some 0

/-- How many octets of the body are **missing**. Where there are too many, the
number is below zero. -/
def missing [Carrier] (r : Reply) : Int :=
  r.expected?.elim 0 fun n => n - r.body.length

/-- What the body stands for, or why it cannot be decoded. -/
def decoded [Carrier] (r : Reply) : Except Text (List UInt8) :=
  match r.header? "content-encoding" with
  | none => .ok r.body
  | some encoding => Carrier.decode encoding r.body

/-- Whether the status asks to go elsewhere. -/
def isRedirect (r : Reply) : Bool :=
  [301, 302, 303, 307, 308].contains r.status

/-- Where the reply asks to go, if it does. -/
def location? (r : Reply) : Option Text :=
  if r.isRedirect then r.header? "location" else none

end Reply

/-- A **response**: a reply with its content. A status of zero has none, whatever
the body is. -/
structure Response extends Reply where
  /-- The content, if there is any. -/
  content : Option (List UInt8)
deriving DecidableEq, Repr

end QueryClient
