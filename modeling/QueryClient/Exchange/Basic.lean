import QueryClient.Binary64.Style
import QueryClient.Exchange.Redirect
import QueryClient.Exchange.Trouble
import QueryClient.Text.Lower

/-!
# Exchanges

An **exchange** is all that passes over the wire for one request: the
request itself, and one more for every reply that asks to go elsewhere, up
to thirty times. What comes back is given as a list of events, of which
each request sent takes the next. The exchange ends with the first reply
that asks for nothing more, or with the first failure. Only of the reply at the
end the content is taken.

Which failures are **expected** is a property of the failure alone. The
network, the server, and an address that leads nowhere are expected to
fail; a waiting time that is none, a location that cannot be read, or a reply that
the carrier refuses, is not.
-/

namespace QueryClient

/-- A request as it was **sent**. -/
structure Sent where
  /-- Where it went. -/
  destination : Destination
  /-- The method. -/
  method : Text
  /-- The credentials that went along. -/
  authorization : Option Text
  /-- The body, if there was one. -/
  body : Option (List UInt8)
  /-- How long to wait for the connection. -/
  connectTimeout : Option Binary64
  /-- How long to wait for an answer. -/
  readTimeout : Option Binary64
deriving DecidableEq

/-- Why a waiting time is refused. -/
inductive TimeoutFault where
  /-- It is no number. -/
  | void
  /-- It is not above zero. -/
  | notPositive (x : Binary64)
  /-- The carrier cannot wait for so long. -/
  | unwaitable (text : Text)
deriving DecidableEq

/-- The message of a fault. -/
def TimeoutFault.message : TimeoutFault → Text
  | .void =>
    ("Timeout value connect was [], but it must be an int, float or "
      ++ "None.").toList
  | .notPositive x =>
    "Attempted to set connect timeout to ".toList ++ x.shown
      ++ (", but the timeout cannot be set to a value less than or equal "
        ++ "to 0.").toList
  | .unwaitable text => text

/-- The number of seconds to wait: above zero, or no number at all, and such that
the carrier can wait for so long. -/
def Timeout.check [Carrier] : Timeout → Except TimeoutFault (Option Binary64)
  | .unlimited => .ok none
  | .void => .error .void
  | .seconds x =>
    if x.isAtMostZero then .error (.notPositive x)
    else (Carrier.waitFault? x).elim (.ok (some x)) (.error ∘ .unwaitable)

/-- Why an exchange **fails**. -/
inductive SendFault where
  /-- The address has no destination. -/
  | destination (f : DestinationFault)
  /-- The waiting time is refused. -/
  | timeout (f : TimeoutFault)
  /-- There was trouble on the way to the destination. -/
  | trouble (t : Trouble) (d : Destination)
  /-- There are no more events. -/
  | exhausted
  /-- The lengths that a reply announces contradict each other. -/
  | contradiction (header : Text)
  /-- The carrier refuses the reply. -/
  | refused (text : Text)
  /-- The body cannot be decoded. -/
  | undecodable (encoding cause : Text)
  /-- The body has not the length that is expected. -/
  | cutOff (read : Nat) (missing : Int)
  /-- There were too many hops. -/
  | tooMany
  /-- The next hop cannot be worked out. -/
  | redirect (f : RedirectFault)
deriving DecidableEq

/-- The greatest number of hops after the first. -/
def hopLimit : Nat := 30

namespace SendFault

/-- How a body that has not the length expected is described. -/
def incomplete (read : Nat) (missing : Int) : Text :=
  "IncompleteRead(".toList ++ Text.ofNat read ++ " bytes read, ".toList
    ++ Text.ofInt missing ++ " more expected)".toList

/-- What is said of such a body. If none was expected at all, only this is
said. -/
def broken (read : Nat) (missing : Int) : Text :=
  if missing = -read then "Response may not contain content.".toList
  else "Connection broken: ".toList ++ incomplete read missing

/-- The message of a fault. -/
def message : SendFault → Text
  | .destination f => f.message
  | .timeout f => f.message
  | .trouble t d => t.message d
  | .exhausted => "transport script exhausted".toList
  | .contradiction header =>
    "Content-Length contained multiple unmatching values (".toList
      ++ header ++ [')']
  | .refused text => text
  | .undecodable encoding cause =>
    "(".toList ++ Text.quoted ("Received response with content-encoding: ".toList
        ++ encoding ++ ", but failed to decode it.".toList)
      ++ ", ".toList ++ cause ++ [')']
  | .cutOff read missing =>
    '(' :: Text.quoted (broken read missing) ++ ", ".toList
      ++ incomplete read missing ++ [')']
  | .tooMany =>
    "Exceeded ".toList ++ Text.ofNat hopLimit ++ " redirects.".toList
  | .redirect f => f.message

/-- Whether the failure is among those a client **expects**. -/
def isExpected : SendFault → Bool
  | .destination (.authority _) => false
  | .destination _ => true
  | .timeout _ => false
  | .trouble t _ => t.kind.isExpected
  | .exhausted => false
  | .contradiction _ => true
  | .refused _ => false
  | .undecodable _ _ => true
  | .cutOff _ _ => true
  | .tooMany => true
  | .redirect _ => false

end SendFault

/-- An **exchange**: the requests sent, in order, and how it ended. -/
structure Exchange where
  /-- The requests sent. -/
  sent : List Sent
  /-- The last reply with its content, or why there is none. -/
  result : Except SendFault Response

namespace Exchange

/-- The request of a hop as it is sent. The one waiting time is for the
connection and for the answer. -/
def ready [Carrier] (timeout : Timeout) (h : Hop) : Except SendFault Sent := do
  let destination ← (Destination.ofUrl h.url).mapError .destination
  let limit ← timeout.check.mapError .timeout
  return {
    destination
    method := h.method
    authorization := h.authorization
    body := h.body
    connectTimeout := limit
    readTimeout := limit }

/-- The reply, if the carrier takes it in. -/
def taken [Carrier] (r : Reply) : Except SendFault Reply :=
  match r.announced, Carrier.refusal? r.headers with
  | .contradiction header, _ => .error (.contradiction header)
  | _, some text => .error (.refused text)
  | _, none => .ok r

/-- The reply that the next event brings. -/
def received [Carrier] (d : Destination) : List Event → Except SendFault Reply
  | [] => .error .exhausted
  | .trouble t :: _ => .error (.trouble t d)
  | .reply r :: _ => taken r

/-- The reply with its content. What is there of the body is decoded first; then it
has to be whole. -/
def response [Carrier] (r : Reply) : Except SendFault Response :=
  if r.status = 0 then .ok { r with content := none }
  else do
    let encoding := Text.lower ((r.header? "content-encoding").getD [])
    let content ← r.decoded.mapError (.undecodable encoding)
    if r.missing ≠ 0 then throw (.cutOff r.body.length r.missing)
    return { r with content := some content }

/-- What one hop **comes to**. -/
inductive Outcome where
  /-- Nothing is sent. -/
  | unsent (f : SendFault)
  /-- A request is sent, and that is the last one. -/
  | final (s : Sent) (result : Except SendFault Response)
  /-- A request is sent, and its reply asks for another hop. -/
  | onward (s : Sent) (next : Hop)

/-- What a reply comes to: the end, or another hop. -/
def outcomeOf [Carrier] (h : Hop) (s : Sent) (r : Reply) : Outcome :=
  match h.next? r with
  | .error f => .final s (.error (.redirect f))
  | .ok none => .final s (response r)
  | .ok (some next) => .onward s next

/-- What a hop **comes to**, given the events still to come. -/
def outcome [Carrier] (timeout : Timeout) (h : Hop) (events : List Event) : Outcome :=
  match ready timeout h with
  | .error f => .unsent f
  | .ok s =>
    match received s.destination events with
    | .error f => .final s (.error f)
    | .ok r => outcomeOf h s r

/-- The exchange with one more request in front. -/
def after (s : Sent) (x : Exchange) : Exchange :=
  ⟨s :: x.sent, x.result⟩

@[simp] theorem sent_after (s : Sent) (x : Exchange) :
    (after s x).sent = s :: x.sent := rfl

/-- The **exchange** that begins with a hop, with so many hops left after
it. The next hop is worked out even when none is left. -/
def run [Carrier] (timeout : Timeout) (left : Nat) (h : Hop) (events : List Event) :
    Exchange :=
  match outcome timeout h events with
  | .unsent f => ⟨[], .error f⟩
  | .final s result => ⟨[s], result⟩
  | .onward s next =>
    match left with
    | 0 => ⟨[s], .error .tooMany⟩
    | left + 1 => after s (run timeout left next events.tail)

/-- Where nothing is sent, the exchange is over. -/
theorem run_of_unsent [Carrier] {timeout : Timeout} {h : Hop} {events : List Event}
    {f : SendFault} (hf : outcome timeout h events = .unsent f) (left : Nat) :
    run timeout left h events = ⟨[], .error f⟩ := by
  rw [run.eq_def, hf]

/-- After the last request the exchange is over. -/
theorem run_of_final [Carrier] {timeout : Timeout} {h : Hop} {events : List Event}
    {s : Sent} {result : Except SendFault Response}
    (hf : outcome timeout h events = .final s result) (left : Nat) :
    run timeout left h events = ⟨[s], result⟩ := by
  rw [run.eq_def, hf]

/-- Without a hop left, being asked for one is a failure. -/
theorem run_zero_of_onward [Carrier] {timeout : Timeout} {h next : Hop}
    {events : List Event} {s : Sent}
    (hf : outcome timeout h events = .onward s next) :
    run timeout 0 h events = ⟨[s], .error .tooMany⟩ := by
  rw [run.eq_def, hf]

/-- With a hop left, the exchange goes on with the events that are left. -/
theorem run_succ_of_onward [Carrier] {timeout : Timeout} {h next : Hop}
    {events : List Event} {s : Sent}
    (hf : outcome timeout h events = .onward s next) (left : Nat) :
    run timeout (left + 1) h events
      = after s (run timeout left next events.tail) := by
  rw [run.eq_def, hf]

/-- **An exchange is bounded**: it sends at most one request more than there
are hops left. -/
theorem length_sent_run_le [Carrier] (timeout : Timeout) (left : Nat) (h : Hop)
    (events : List Event) :
    (run timeout left h events).sent.length ≤ left + 1 := by
  induction left generalizing h events with
  | zero =>
    cases hf : outcome timeout h events with
    | unsent f =>
      rw [run_of_unsent hf]
      exact Nat.zero_le 1
    | final s result =>
      rw [run_of_final hf]
      exact Nat.le_refl 1
    | onward s next =>
      rw [run_zero_of_onward hf]
      exact Nat.le_refl 1
  | succ left ih =>
    cases hf : outcome timeout h events with
    | unsent f =>
      rw [run_of_unsent hf]
      exact Nat.zero_le _
    | final s result =>
      rw [run_of_final hf]
      exact Nat.le_add_left 1 _
    | onward s next =>
      rw [run_succ_of_onward hf, sent_after, List.length_cons]
      exact Nat.succ_le_succ (ih next events.tail)

end Exchange
end QueryClient
