import QueryClient.Invocation
import QueryClient.Proofs.BufferedOutlet
import QueryClient.Proofs.HopOutcomes

/-!
# The course of an invocation

An invocation takes one of six courses. `Job.Course` lists them, each with
what has to be the case for it and all that comes of it, and
`Job.course_invoke` says that there is no seventh. What is true of every
invocation is then a matter of six cases, none of which looks into the
sending of requests.
-/

namespace QueryClient

open Invocation

/-- The **courses** that the invocation of a job can take, with a sender, an outlet
and octets that wait in front of it: what has to be the case, and what comes of
it. -/
inductive Job.Course [Carrier] (j : Job) (s : Sender) (o : Outlet)
    (waiting : List UInt8) : Invocation → Prop
  /-- The request cannot be prepared; nothing is sent. -/
  | unprepared {f : RequestFault} (hq : j.request = .error f) :
    Course j s o waiting
      ⟨.error (.request f), [], [], [], [], 0, ⟨o, waiting⟩⟩
  /-- Sending fails in a way that is expected, and the failure is noted. -/
  | failed {q : Request} {f : Failure} (hq : j.request = .ok q)
    (hf : (s.send q j.timeout).result = .error f)
    (he : f.isExpected = true) :
    Course j s o waiting
      ⟨.ok 1, (s.send q j.timeout).sent, (s.send q j.timeout).calls,
        requestNote q :: (s.send q j.timeout).remarks
          ++ [failureNote j f.message], [], 0, ⟨o, waiting⟩⟩
  /-- Sending fails in another way, and the failure goes up. -/
  | escaped {q : Request} {f : Failure} (hq : j.request = .ok q)
    (hf : (s.send q j.timeout).result = .error f)
    (he : f.isExpected = false) :
    Course j s o waiting
      ⟨.error f, (s.send q j.timeout).sent, (s.send q j.timeout).calls,
        requestNote q :: (s.send q j.timeout).remarks, [], 0, ⟨o, waiting⟩⟩
  /-- The reply is there, but it has no content. -/
  | withoutContent {q : Request} {r : Response} (hq : j.request = .ok q)
    (hr : (s.send q j.timeout).result = .ok r) (hc : r.content = none) :
    Course j s o waiting
      ⟨.error .noContent, (s.send q j.timeout).sent,
        (s.send q j.timeout).calls,
        requestNote q :: (s.send q j.timeout).remarks
          ++ replyNotes j r.toReply, [], 0, ⟨o, waiting⟩⟩
  /-- The reply is there, and the outlet takes its content. -/
  | delivered {q : Request} {r : Response} {content taken : List UInt8}
    (hq : j.request = .ok q) (hr : (s.send q j.timeout).result = .ok r)
    (hc : r.content = some content)
    (hd : o.take (waiting ++ content) = .ok taken) :
    Course j s o waiting
      ⟨.ok 0, (s.send q j.timeout).sent, (s.send q j.timeout).calls,
        requestNote q :: (s.send q j.timeout).remarks
          ++ replyNotes j r.toReply, taken, 1, ⟨o, []⟩⟩
  /-- The reply is there, and the outlet does not take its content. -/
  | undelivered {q : Request} {r : Response} {content : List UInt8}
    {f : OutletFault} (hq : j.request = .ok q)
    (hr : (s.send q j.timeout).result = .ok r)
    (hc : r.content = some content)
    (hd : o.take (waiting ++ content) = .error f) :
    Course j s o waiting
      ⟨.error (.outlet f), (s.send q j.timeout).sent,
        (s.send q j.timeout).calls,
        requestNote q :: (s.send q j.timeout).remarks
          ++ replyNotes j r.toReply, [], 0,
        Channel.holding ⟨o, waiting⟩ content⟩

/-- **Every invocation takes one of the courses.** -/
theorem Job.course_invoke [Carrier] (j : Job) (s : Sender) (o : Outlet)
    (waiting : List UInt8) :
    j.Course s o waiting (j.invoke s o waiting) := by
  unfold Job.invoke
  cases hq : j.request with
  | error f => exact .unprepared hq
  | ok q =>
    dsimp only
    cases hr : (s.send q j.timeout).result with
    | error f =>
      dsimp only [fail]
      split
      · rename_i he
        exact .failed hq hr he
      · rename_i he
        exact .escaped hq hr (Bool.not_eq_true _ ▸ he)
    | ok r =>
      dsimp only [deliver]
      cases hc : r.content with
      | none => exact .withoutContent hq hr hc
      | some content =>
        dsimp only
        cases hd : o.take (waiting ++ content) with
        | ok taken =>
          rw [Channel.deliver_of_take (c := ⟨o, waiting⟩) hd]
          exact .delivered hq hr hc hd
        | error f =>
          obtain ⟨w, hw, htaken, hleft⟩ :=
            Channel.deliver_of_take_error (c := ⟨o, waiting⟩) hd
          rw [hw]
          dsimp only
          rw [htaken, hleft]
          exact .undelivered hq hr hc hd

/-- Where sending fails, the invocation is over. -/
theorem Job.invoke_eq_fail [Carrier] {j : Job} {s : Sender} {o : Outlet}
    {waiting : List UInt8} {q : Request} {f : Failure} (hq : j.request = .ok q)
    (hf : (s.send q j.timeout).result = .error f) :
    j.invoke s o waiting = fail j ⟨o, waiting⟩ (s.send q j.timeout)
      (requestNote q :: (s.send q j.timeout).remarks) f := by
  unfold Job.invoke
  rw [hq]
  dsimp only
  rw [hf]

/-- Then nothing is delivered, whatever the failure. -/
theorem Invocation.delivery_fail (j : Job) (c : Channel) (x : Sending)
    (notes : List Note) (f : Failure) :
    (fail j c x notes f).written = [] ∧ (fail j c x notes f).flushes = 0 := by
  unfold fail
  split
  · exact ⟨rfl, rfl⟩
  · exact ⟨rfl, rfl⟩

/-- Where sending ends with a reply, the invocation is that of its delivery. -/
theorem Job.invoke_eq_deliver [Carrier] {j : Job} {s : Sender} {o : Outlet}
    {waiting : List UInt8} {q : Request} {r : Response} (hq : j.request = .ok q)
    (hr : (s.send q j.timeout).result = .ok r) :
    j.invoke s o waiting = deliver ⟨o, waiting⟩ (s.send q j.timeout)
      (requestNote q :: (s.send q j.timeout).remarks
        ++ replyNotes j r.toReply) r := by
  unfold Job.invoke
  rw [hq]
  dsimp only
  rw [hr]

/-- **Status 0 comes of a reply** that sending ends with and whose content the outlet
takes. -/
theorem Job.of_ending_eq_zero [Carrier] {j : Job} {s : Sender} {o : Outlet}
    {waiting : List UInt8} (h : (j.invoke s o waiting).ending = .ok 0) :
    ∃ q r content, j.request = .ok q ∧ (s.send q j.timeout).result = .ok r
      ∧ r.content = some content
      ∧ o.take (waiting ++ content) = .ok (j.invoke s o waiting).written
      ∧ (j.invoke s o waiting).sent = (s.send q j.timeout).sent := by
  have hc := j.course_invoke s o waiting
  generalize j.invoke s o waiting = i at hc h
  cases hc with
  | unprepared | failed | escaped | withoutContent | undelivered => cases h
  | delivered hq hr hc hd => exact ⟨_, _, _, hq, hr, hc, hd, rfl⟩

namespace Sender

/-- From the wire, sending comes to what the exchange comes to. -/
theorem send_wire [Carrier] (events : List Event) (q : Request)
    (timeout : Timeout) :
    send (.wire events) q timeout
      = ⟨(Exchange.run timeout hopLimit (.first q) events).sent, [],
        (events.take (Exchange.run timeout hopLimit (.first q)
          events).sent.length).filterMap Event.remark?,
        (Exchange.run timeout hopLimit (.first q) events).result.mapError
          .send⟩ := rfl

/-- So it ends with the response that the exchange ends with. -/
theorem result_send_wire_eq_ok_iff [Carrier] {events : List Event}
    {q : Request} {timeout : Timeout} {r : Response} :
    (send (.wire events) q timeout).result = .ok r
      ↔ (Exchange.run timeout hopLimit (.first q) events).result = .ok r := by
  rw [send_wire, mapError_eq_ok_iff]

/-- Or it fails as the exchange does. -/
theorem result_send_wire_of_error [Carrier] {events : List Event}
    {q : Request} {timeout : Timeout} {f : SendFault}
    (h : (Exchange.run timeout hopLimit (.first q) events).result = .error f) :
    (send (.wire events) q timeout).result = .error (.send f) := by
  rw [send_wire, h]
  rfl

/-- The carrier has one remark only. -/
theorem eq_remark_of_mem [Carrier] {s : Sender} {q : Request} {timeout : Timeout}
    {n : Note} (hn : n ∈ (s.send q timeout).remarks) : n = remark := by
  cases s with
  | deputy answer => cases hn
  | wire events =>
    rw [send_wire] at hn
    obtain ⟨e, -, he⟩ := List.mem_filterMap.mp hn
    unfold Event.remark? at he
    split at he
    · split at he
      · exact (Option.some.inj he).symm
      · cases he
    · cases he

/-- A deputy is called once and answers. -/
theorem send_deputy [Carrier] (answer : Except Raised Response) (q : Request)
    (timeout : Timeout) :
    send (.deputy answer) q timeout
      = ⟨[], [⟨q, timeout⟩], [], answer.mapError .deputy⟩ := rfl

end Sender
end QueryClient
