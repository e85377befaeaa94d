import QueryClient.Exchange.Basic
import QueryClient.Log.Root
import QueryClient.Outlet
import QueryClient.Request

/-!
# Invocations

An **invocation** does one job: it prepares the request, sends it, and
copies the content of the last reply to its outlet. It notes what it does for
the log. A failure that a client expects is noted and ends it with status 1;
any other failure goes up to whoever called. Nothing goes to the outlet
before the whole reply is there.

The carrier may have something to note as well. It **remarks** on replies that
announce a length although their body says its own.

Requests are sent over the wire, or handed to a **deputy** that answers in
the place of the wire.
-/

namespace QueryClient

/-- A failure **raised** by a deputy: its name, whether it is among those a
client expects, whether two arguments mean a number and its text, and the
arguments. -/
structure Raised where
  /-- The name. -/
  name : Text
  /-- Whether it is expected. -/
  isExpected : Bool
  /-- Whether two arguments mean an error number and its text. -/
  isNumbered : Bool
  /-- The arguments. -/
  arguments : List Value

/-- The message of a failure raised. -/
def Raised.message (r : Raised) : Text :=
  match r.arguments with
  | [] => []
  | [v] => v.shown
  | several =>
    match r.isNumbered, several with
    | true, number :: text :: more =>
      "[Errno ".toList ++ number.shown ++ "] ".toList ++ text.shown
        ++ match more with
          | [] => []
          | file :: _ => ": ".toList ++ file.quoted
    | _, _ =>
      '(' :: Text.joinFields ", ".toList (Value.quotedItems several) ++ [')']

/-- Who **sends** the request. -/
inductive Sender where
  /-- The wire, on which the events come back. -/
  | wire (events : List Event)
  /-- A deputy, with its answer. -/
  | deputy (answer : Except Raised Response)

/-- A request handed to a deputy. -/
structure Call where
  /-- The request. -/
  request : Request
  /-- How long to wait. -/
  timeout : Timeout
deriving DecidableEq

/-- A failure that goes up to whoever called, unless it is expected. -/
inductive Failure where
  /-- The request cannot be prepared. -/
  | request (f : RequestFault)
  /-- Sending over the wire fails. -/
  | send (f : SendFault)
  /-- The deputy fails. -/
  | deputy (r : Raised)
  /-- The reply has no content. -/
  | noContent
  /-- The outlet does not take the content. -/
  | outlet (f : OutletFault)
  /-- The value is no level for the log. -/
  | level (v : Value)
  /-- No address is left after its value was dropped. -/
  | noUrl

/-- Whether the failure is among those a client **expects**. -/
def Failure.isExpected : Failure → Bool
  | .request f => f.isExpected
  | .send f => f.isExpected
  | .deputy r => r.isExpected
  | .noContent | .outlet _ | .level _ | .noUrl => false

/-- The message of a failure. -/
def Failure.message : Failure → Text
  | .request f => f.message
  | .send f => f.message
  | .deputy r => r.message
  | .noContent =>
    "a bytes-like object is required, not \x27NoneType\x27".toList
  | .outlet f => f.message
  | .level v => badLevelMessage v
  | .noUrl => "\x27list\x27 object has no attribute \x27rstrip\x27".toList

/-- What the carrier **remarks** when it takes in a reply whose length is announced
although the body says its own. -/
def remark : Note :=
  ⟨"urllib3.response".toList, Severity.warning.number,
    ("Received response with both Content-Length and Transfer-Encoding set. "
      ++ "This is expressly forbidden by RFC 7230 sec 3.3.2. Ignoring "
      ++ "Content-Length and attempting to process response as "
      ++ "Transfer-Encoding: chunked.").toList⟩

/-- Its remark on what came back for one request, if it makes one. -/
def Event.remark? : Event → Option Note
  | .reply r => if r.overrules then some remark else none
  | .trouble _ => none

/-- What sending a request comes to: the requests on the wire, the calls of
the deputy, the remarks of the carrier, and the reply or the failure. -/
structure Sending where
  /-- The requests on the wire. -/
  sent : List Sent
  /-- The calls of the deputy. -/
  calls : List Call
  /-- What the carrier remarks. -/
  remarks : List Note
  /-- The last reply with its content, or the failure. -/
  result : Except Failure Response

/-- **Sends** a request. There are remarks on the events that it takes. -/
def Sender.send [Carrier] (s : Sender) (r : Request) (timeout : Timeout) :
    Sending :=
  match s with
  | .wire events =>
    let x := Exchange.run timeout hopLimit (.first r) events
    { sent := x.sent
      calls := []
      remarks := (events.take x.sent.length).filterMap Event.remark?
      result := x.result.mapError .send }
  | .deputy answer => ⟨[], [⟨r, timeout⟩], [], answer.mapError .deputy⟩

/-- What an **invocation** comes to. -/
structure Invocation where
  /-- The exit status, or the failure that goes up. -/
  ending : Except Failure Nat
  /-- The requests on the wire. -/
  sent : List Sent
  /-- The calls of the deputy. -/
  calls : List Call
  /-- The notes made for the log. -/
  notes : List Note
  /-- What the outlet took. -/
  written : List UInt8
  /-- How often the outlet was flushed. -/
  flushes : Nat
  /-- The channel that is left. -/
  left : Channel

namespace Invocation

/-- The logger that notes are made under. -/
def logger : Text := "influx_query.invoker".toList

/-- A note at a level. -/
def note (s : Severity) (text : Text) : Note :=
  ⟨logger, s.number, text⟩

/-- The note about the request. -/
def requestNote (r : Request) : Note :=
  note .debug ("GET ".toList ++ r.url)

/-- The note about a failure that is expected. -/
def failureNote (j : Job) (message : Text) : Note :=
  note .error ("Query to ".toList ++ j.url ++ " failed: ".toList ++ message)

/-- The notes about a reply: its status, and a warning if that is one of
failure. -/
def replyNotes (j : Job) (r : Reply) : List Note :=
  note .info ("HTTP ".toList ++ Text.ofNat r.status ++ " from ".toList ++ j.url)
    :: if 400 ≤ r.status then
        [note .warning ("Server answered ".toList ++ Text.ofNat r.status
          ++ ' ' :: r.reason.getD "None".toList)]
      else []

/-- The invocation once the reply is there. -/
def deliver (c : Channel) (x : Sending) (notes : List Note) (r : Response) :
    Invocation :=
  match r.content with
  | none => ⟨.error .noContent, x.sent, x.calls, notes, [], 0, c⟩
  | some content =>
    match c.deliver content with
    | .ok _ w => ⟨.ok 0, x.sent, x.calls, notes, w.taken, 1, w.toChannel⟩
    | .error f w =>
      ⟨.error (.outlet f), x.sent, x.calls, notes, w.taken, 0, w.toChannel⟩

/-- The invocation once sending has failed. -/
def fail (j : Job) (c : Channel) (x : Sending) (notes : List Note)
    (f : Failure) : Invocation :=
  if f.isExpected then
    ⟨.ok 1, x.sent, x.calls, notes ++ [failureNote j f.message], [], 0, c⟩
  else ⟨.error f, x.sent, x.calls, notes, [], 0, c⟩

end Invocation

/-- **Invokes** a job, perhaps with octets that wait in front of the outlet. -/
def Job.invoke [Carrier] (j : Job) (sender : Sender) (outlet : Outlet)
    (waiting : List UInt8 := []) : Invocation :=
  let c : Channel := ⟨outlet, waiting⟩
  match j.request with
  | .error f => ⟨.error (.request f), [], [], [], [], 0, c⟩
  | .ok request =>
    let x := sender.send request j.timeout
    let notes := Invocation.requestNote request :: x.remarks
    match x.result with
    | .error f => Invocation.fail j c x notes f
    | .ok r => Invocation.deliver c x (notes ++ Invocation.replyNotes j r.toReply) r

end QueryClient
