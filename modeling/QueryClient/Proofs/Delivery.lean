import QueryClient.Exchange.PlainCarrier
import QueryClient.Proofs.BufferedOutlet
import QueryClient.Proofs.InvocationCourse

/-!
# Delivery is all or nothing

However many hops a request takes and however they end, the outlet sees
either the whole content of the reply that came last, in one piece, or nothing
at all. Bodies that come in on the way are dropped. The result that
everything rests on is `Exchange.events_of_result_run`: an exchange that ends
with a reply ends with the last one that came in.

It is the content that the outlet sees, and not the body as it came. Without a
`Content-Encoding` the two are the same. With one they are not, though the client
says of itself that it copies the raw body
(`invoke_all_or_nothing_encoded`).

The log has no part in this. It is not among the arguments of `Job.invoke`,
so whatever its state, the outlet sees the same.
-/

namespace QueryClient

/-- The reply that an event is, if it is one. -/
def Event.reply? : Event → Option Reply
  | .reply r => some r
  | .trouble _ => none

/-- Whether the outlet is in **working order**. -/
def Outlet.isWorking : Outlet → Bool
  | .buffer | .output | .nullDevice => true
  | .closedOutput | .fullOutput => false

/-- Whether the sender **goes on** from a reply by itself. A deputy never
does. -/
def Sender.goesOn (s : Sender) (r : Reply) : Bool :=
  match s with
  | .wire _ => r.asksOnward
  | .deputy _ => false

/-- The replies **received** during an invocation: from the wire those among
the events used, one event for each request sent; from a deputy its answer,
if it was called. -/
def Invocation.received (i : Invocation) : Sender → List Reply
  | .wire events => (events.take i.sent.length).filterMap Event.reply?
  | .deputy answer =>
    if i.calls.isEmpty then [] else (answer.toOption.map (·.toReply)).toList

/-- What a reply **gives** the client for its octets. A deputy says itself what
the content is. -/
def Sender.Gives [Carrier] (s : Sender) (r : Reply) (octets : List UInt8) : Prop :=
  match s with
  | .wire _ => r.Conveys octets
  | .deputy answer => answer.toOption.bind (·.content) = some octets

/-- An outlet in working order takes everything. -/
theorem Outlet.take_of_isWorking {o : Outlet} (ho : o.isWorking = true)
    (octets : List UInt8) : o.take octets = .ok octets := by
  cases o with
  | buffer | output | nullDevice => rfl
  | closedOutput | fullOutput => cases ho

/-- **With an outlet in working order**, an invocation whose request is prepared
ends as sending the request does. -/
theorem Job.invoke_of_isWorking [Carrier] {j : Job} {s : Sender} {o : Outlet}
    {q : Request} (ho : o.isWorking = true) (hq : j.request = .ok q) :
    (∃ f, (s.send q j.timeout).result = .error f
        ∧ (j.invoke s o).ending = (if f.isExpected then .ok 1 else .error f)
        ∧ (j.invoke s o).written = [])
      ∨ (∃ x, (s.send q j.timeout).result = .ok x ∧ x.content = none
        ∧ (j.invoke s o).ending = .error .noContent
        ∧ (j.invoke s o).written = [])
      ∨ ∃ x octets, (s.send q j.timeout).result = .ok x
        ∧ x.content = some octets ∧ (j.invoke s o).ending = .ok 0
        ∧ (j.invoke s o).written = octets := by
  have hc := j.course_invoke s o []
  generalize j.invoke s o = i at hc
  cases hc with
  | unprepared hq' => cases hq.symm.trans hq'
  | failed hq' hf he =>
    cases hq.symm.trans hq'
    exact .inl ⟨_, hf, (if_pos he).symm, rfl⟩
  | escaped hq' hf he =>
    cases hq.symm.trans hq'
    exact .inl ⟨_, hf, (if_neg (by rw [he]; decide)).symm, rfl⟩
  | withoutContent hq' hx hnone =>
    cases hq.symm.trans hq'
    exact .inr (.inl ⟨_, hx, hnone, rfl, rfl⟩)
  | delivered hq' hx hsome hd =>
    cases hq.symm.trans hq'
    rw [Outlet.take_of_isWorking ho, List.nil_append] at hd
    cases hd
    exact .inr (.inr ⟨_, _, hx, hsome, rfl, rfl⟩)
  | undelivered hq' hx hsome hd =>
    rw [Outlet.take_of_isWorking ho] at hd
    cases hd

/-- **Sending that ends with a reply ends with the one received last**, and
went on from all the others. The content is what the reply gives. -/
theorem Sender.received_of_result_send [Carrier] {s : Sender} {q : Request}
    {timeout : Timeout} {x : Response} {i : Invocation}
    (hx : (s.send q timeout).result = .ok x)
    (hs : i.sent = (s.send q timeout).sent)
    (hc : i.calls = (s.send q timeout).calls) :
    ∃ passed, i.received s = passed ++ [x.toReply]
      ∧ (∀ p ∈ passed, s.goesOn p = true) ∧ s.goesOn x.toReply = false
      ∧ ∀ octets, x.content = some octets ↔ s.Gives x.toReply octets := by
  cases s with
  | deputy answer =>
    rw [send_deputy] at hx hc
    rw [mapError_eq_ok_iff] at hx
    subst hx
    refine ⟨[], ?_, by simp, rfl, fun octets => Iff.rfl⟩
    unfold Invocation.received
    rw [hc]
    rfl
  | wire events =>
    rw [send_wire] at hx hs
    rw [mapError_eq_ok_iff] at hx
    obtain ⟨passed, rest, he, hlen, hall, hlast, htaken, hresponse⟩ :=
      Exchange.events_of_result_run hx
    -- one event was used for each request sent
    have htake : events.take i.sent.length
        = (passed ++ [x.toReply]).map .reply := by
      rw [hs, show _ = passed.length + 1 from hlen, he, List.append_cons,
        List.take_left' (by simp)]
      simp
    refine ⟨passed, ?_, hall, hlast,
      fun octets => Exchange.content_eq_some_iff htaken hresponse⟩
    show (events.take i.sent.length).filterMap Event.reply?
      = passed ++ [x.toReply]
    rw [htake, List.filterMap_map]
    exact List.filterMap_some

/-- **Delivery is all or nothing.** With an outlet in working order an
invocation ends with status 0, with status 1, or with a failure that goes
up. Status 0 means that sending ended with a reply that has some content; that is the
last of the replies received, one that the sender does not go on from, as it did
from all before; its content is what the outlet took, whole and flushed once. From
the wire, that is its body exactly if the body stands for itself, as it does
without an encoding. Without status 0 the outlet took nothing and was not flushed.
Status 1 means that sending failed in a way that is expected. -/
theorem invoke_all_or_nothing [Carrier] (c : Config) (s : Sender) {o : Outlet}
    (ho : o.isWorking = true) :
    let i := c.job.invoke s o
    (i.ending = .ok 0 ∨ i.ending = .ok 1 ∨ ∃ f, i.ending = .error f)
      ∧ (i.ending = .ok 0 ↔ ∃ q x octets, c.job.request = .ok q
        ∧ (s.send q c.job.timeout).result = .ok x ∧ x.content = some octets)
      ∧ (i.ending = .ok 0 → ∃ passed r, i.received s = passed ++ [r]
        ∧ (∀ p ∈ passed, s.goesOn p = true) ∧ s.goesOn r = false
        ∧ s.Gives r i.written ∧ i.flushes = 1
        ∧ ∀ events, s = .wire events →
          (i.written = r.body ↔ r.decoded = .ok r.body)
            ∧ (r.header? "content-encoding" = none → i.written = r.body))
      ∧ (i.ending ≠ .ok 0 → i.written = [] ∧ i.flushes = 0)
      ∧ (i.ending = .ok 1 ↔ ∃ q f, c.job.request = .ok q
        ∧ (s.send q c.job.timeout).result = .error f
        ∧ f.isExpected = true) := by
  intro i
  have hc : c.job.Course s o [] i := c.job.course_invoke s o []
  clear_value i
  cases hc with
  | unprepared hq => simp [hq]
  | failed hq hf he => simp [hq, hf, he]
  | escaped hq hf he => simp [hq, hf, he]
  | withoutContent hq hx hn => simp [hq, hx, hn]
  | @delivered q x content taken hq hx hsome hd =>
    obtain ⟨passed, hp, hall, hlast, hgives⟩ :=
      Sender.received_of_result_send (i := ⟨_, _, _, _, _, _, _⟩) hx rfl rfl
    rw [Outlet.take_of_isWorking ho, List.nil_append] at hd
    cases hd
    have hg : s.Gives x.toReply content := (hgives content).mp hsome
    refine ⟨.inl rfl, ?_, fun _ => ⟨passed, _, hp, hall, hlast, hg, rfl, ?_⟩,
      ?_, ?_⟩
    · simp [hq, hx, hsome]
    · rintro events rfl
      have hconveys : x.toReply.Conveys content := hg
      refine ⟨?_, hconveys.eq_body⟩
      rw [hconveys.decoded, Except.ok.injEq]
    · simp
    · simp [hq, hx]
  | undelivered hq hx hsome hd =>
    rw [Outlet.take_of_isWorking ho] at hd
    cases hd

section Plain
attribute [local instance] Carrier.plain

/-- A reply that sends elsewhere, with a body of its own. -/
def movedReply : Reply :=
  ⟨302, none, [("Location".toList, "/elsewhere".toList)], [0x61]⟩

/-- A reply that reports a failure of the server. -/
def failureReply : Reply :=
  ⟨500, none, [], [0x62, 0x63]⟩

/-- After a redirect, the body of the reply at the new place is delivered,
though its status reports a failure. -/
theorem invoke_all_or_nothing_redirected :
    let s : Sender := .wire [.reply movedReply, .reply failureReply]
    let i := ({} : Config).job.invoke s .buffer
    Outlet.isWorking .buffer = true
      ∧ i.ending = .ok 0
      ∧ (∃ passed r, i.received s = passed ++ [r]
        ∧ (∀ p ∈ passed, p.asksOnward = true) ∧ r.asksOnward = false
        ∧ r.Conveys i.written ∧ i.flushes = 1)
      ∧ i.written = [0x62, 0x63] := by
  intro s i
  have hi : i.ending.toOption = some 0 ∧ i.written = [0x62, 0x63] := by
    decide +kernel
  have he : i.ending = .ok 0 := eq_ok_of_toOption hi.1
  obtain ⟨passed, r, hp, hall, hlast, hgives, hflushes, -⟩ :=
    (invoke_all_or_nothing {} s rfl).2.2.1 he
  exact ⟨rfl, he, ⟨passed, r, hp, hall, hlast, hgives, hflushes⟩, hi.2⟩

/-- A reply whose body is a `gzip` of two octets. -/
def zippedReply : Reply :=
  ⟨200, some "OK".toList, [("Content-Encoding".toList, "gzip".toList)],
    [0x1F, 0x8B, 0x08, 0x00, 0x00, 0x00, 0x00, 0x00, 0x00, 0x03,
      0x01, 0x02, 0x00, 0xFD, 0xFF, 0x68, 0x69,
      0xAC, 0x2A, 0x93, 0xD8, 0x02, 0x00, 0x00, 0x00]⟩

/-- **The body that came is not what is delivered**, if it came encoded. -/
theorem invoke_all_or_nothing_encoded :
    let i := ({} : Config).job.invoke (.wire [.reply zippedReply]) .buffer
    i.ending = .ok 0 ∧ i.received (.wire [.reply zippedReply]) = [zippedReply]
      ∧ i.written = [0x68, 0x69] ∧ i.written ≠ zippedReply.body := by
  intro i
  have hi : i.ending.toOption = some 0
      ∧ i.received (.wire [.reply zippedReply]) = [zippedReply]
      ∧ i.written = [0x68, 0x69] ∧ i.written ≠ zippedReply.body := by
    decide +kernel
  exact ⟨eq_ok_of_toOption hi.1, hi.2⟩

end Plain

end QueryClient
