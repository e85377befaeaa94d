import QueryClient.Proofs.BoundedExchange
import QueryClient.Proofs.Delivery
import QueryClient.Proofs.RunCourse

/-!
# What an exit status promises

A run that ends with status 0 has put out the whole content of the last reply,
flushed: it is not enough that the content found room to wait
(`Writer.run_deliver`). What the output does not take shows in the status. If
nobody is at the other end the run ends quietly with status 1, and if there is no
space left the failure goes up; both only if there is something to put out.

The content is the body as it came, unless it came encoded. Then it is something
else that is put out, and whether there is something to put out does not depend on
whether there is a body (`start_delivers_encoded`). A status of zero has no content
whatever, and that goes up.

A broken pipe may also be met with on the wire. The two are of one kind and come
to the same status, but they are not taken for each other. Trouble on the wire
ends the sending (`Exchange.result_run_of_trouble`), the failure is noted as an
error, and nothing is said about the output.
-/

namespace QueryClient

open Invocation

/-- Accepted arguments **obtain** a response from the events: they describe a job and
a level for the log, and sending the request of that job ends with it. -/
structure Arguments.Obtains [Carrier] (a : Arguments) (events : List Event)
    (j : Job) (q : Request) (x : Response) : Prop where
  /-- The log can be set up. -/
  level : (Threshold.ofValue? a.levelValue).isSome = true
  /-- The job. -/
  job : a.job? = some j
  /-- The request. -/
  request : j.request = .ok q
  /-- The response. -/
  response : ((Sender.wire events).send q j.timeout).result = .ok x

/-- A content that is obtained is what the reply conveys. -/
theorem Arguments.Obtains.conveys [Carrier] {a : Arguments} {events : List Event}
    {j : Job} {q : Request} {x : Response} (h : a.Obtains events j q x)
    {octets : List UInt8} (hx : x.content = some octets) :
    x.toReply.Conveys octets := by
  obtain ⟨-, -, -, -, -, -, htaken, hresponse⟩ := Exchange.events_of_result_run
    (Sender.result_send_wire_eq_ok_iff.mp h.response)
  exact (Exchange.content_eq_some_iff htaken hresponse).mp hx

namespace Run

/-- The notes of a run that has obtained a content and finds nobody at the other end
of the output. With nothing to put out it does not find out. -/
def closedNotes (logger : Text) (remarks : List Note) (j : Job) (q : Request)
    (r : Reply) (octets : List UInt8) : List Note :=
  requestNote q :: remarks ++ replyNotes j r
    ++ if octets = [] then [] else [closedNote logger]

/-- **None of them reports an error**, if none of the remarks does. -/
theorem level_of_mem_closedNotes {logger : Text} {remarks : List Note} {j : Job}
    {q : Request} {r : Reply} {octets : List UInt8}
    (hremarks : ∀ n ∈ remarks, n = remark) {n : Note}
    (hn : n ∈ closedNotes logger remarks j q r octets) :
    n.level < Severity.error.number := by
  have hdebug : Severity.debug.number < Severity.error.number := by decide
  have hinfo : Severity.info.number < Severity.error.number := by decide
  have hwarning : Severity.warning.number < Severity.error.number := by decide
  unfold closedNotes replyNotes at hn
  simp only [List.cons_append, List.mem_cons, List.mem_append] at hn
  obtain rfl | (hn | rfl | hn) | hn := hn
  · exact hdebug
  · rw [hremarks n hn]
    exact hwarning
  · exact hinfo
  · split at hn
    · rw [List.mem_singleton.mp hn]
      exact hwarning
    · cases hn
  · split at hn
    · cases hn
    · rw [List.mem_singleton.mp hn]
      exact hdebug

/-- Where sending fails, no note is the one that nobody is at the other end of the
output, whoever makes that. -/
theorem closedNote_not_mem (logger : Text) {remarks : List Note}
    (hremarks : ∀ n ∈ remarks, n = remark) (j : Job) (q : Request)
    (message : Text) :
    closedNote logger
      ∉ requestNote q :: remarks ++ [failureNote j message] := by
  have hrequest : closedNote logger ≠ requestNote q := by
    -- the texts differ in their first character
    intro h
    have hfirst : some 's' = some 'G' := congrArg (List.head? ∘ Note.text) h
    exact absurd hfirst (by decide)
  have hremark : closedNote logger ≠ remark := by
    intro h
    have hlevel : Severity.debug.number = Severity.warning.number :=
      congrArg Note.level h
    exact absurd hlevel (by decide)
  have hfailure : closedNote logger ≠ failureNote j message := by
    intro h
    have hlevel : Severity.debug.number = Severity.error.number :=
      congrArg Note.level h
    exact absurd hlevel (by decide)
  rw [List.cons_append, List.mem_cons, List.mem_append, List.mem_singleton]
  rintro (h | h | h)
  · exact hrequest h
  · exact hremark (hremarks _ h)
  · exact hfailure h

variable {logger : Text} {root : Root} {now : Nat} {arguments : List Text}
  {a : Arguments} {outlet : Outlet} {events : List Event}

/-- **The run of a response that is obtained** is the invocation of its delivery. -/
theorem start_of_obtains [Carrier] (logger : Text) (root : Root) (now : Nat)
    (outlet : Outlet) (ha : Arguments.read arguments = .ok a) {j : Job}
    {q : Request} {x : Response} (h : a.Obtains events j q x) :
    ∃ configured, start logger root now arguments outlet events
      = ofInvocation logger configured now
          (deliver ⟨outlet, []⟩ ((Sender.wire events).send q j.timeout)
            (requestNote q :: ((Sender.wire events).send q j.timeout).remarks
              ++ replyNotes j x.toReply) x) := by
  obtain ⟨configured, hl⟩ : ∃ configured,
      root.configure a.levelValue .errors = some configured := by
    rw [← Option.isSome_iff_exists, Root.isSome_configure]
    exact h.level
  exact ⟨configured, by
    rw [start_of_job ha hl h.job, Job.invoke_eq_deliver h.request h.response]⟩

/-- **Status 0 comes of a response that was obtained**, with its content taken. -/
theorem obtains_of_ending [Carrier] (ha : Arguments.read arguments = .ok a)
    (h : (start logger root now arguments outlet events).ending = .returned 0) :
    ∃ j q x octets, a.Obtains events j q x ∧ x.content = some octets
      ∧ outlet.take octets
        = .ok (start logger root now arguments outlet events).output
      ∧ (start logger root now arguments outlet events).sent
        = ((Sender.wire events).send q j.timeout).sent := by
  have hc := course_start logger root now arguments outlet events []
  generalize start logger root now arguments outlet events = run at hc h
  cases hc with
  | stopped hs => cases h
  | noLevel ha' hl => cases h
  | noAddress ha' hl hj => cases h
  | @invoked a' configured job ha' hl hj =>
    rw [ha] at ha'
    cases ha'
    rw [ending_ofInvocation_eq_returned_zero_iff] at h
    obtain ⟨q, x, octets, hq, hx, hsome, hd, hsent⟩ := Job.of_ending_eq_zero h
    have hlevel := Root.isSome_configure root a.levelValue .errors
    rw [hl] at hlevel
    exact ⟨job, q, x, octets, ⟨hlevel.symm, hj, hq, hx⟩, hsome, hd, hsent⟩

/-- A content that is obtained ends with status 0, with nothing taken, if it is
empty; otherwise with status 1 where nobody is at the other end of the output. -/
theorem start_closedOutput [Carrier] (ha : Arguments.read arguments = .ok a)
    {j : Job} {q : Request} {x : Response} (h : a.Obtains events j q x)
    {octets : List UInt8} (hx : x.content = some octets) :
    let run := start logger root now arguments .closedOutput events
    run.ending = .returned (if octets = [] then 0 else 1) ∧ run.output = []
      ∧ run.streams = run.root.emitAll now (closedNotes logger
        ((Sender.wire events).send q j.timeout).remarks j q x.toReply octets) := by
  intro run
  obtain ⟨configured, hrun⟩ : ∃ configured, run = ofInvocation logger
      configured now _ :=
    start_of_obtains logger root now .closedOutput ha h
  rw [hrun, deliver, hx, closedNotes]
  dsimp only
  cases octets with
  | nil =>
    have htaken : Channel.deliver ⟨.closedOutput, []⟩ [] = .ok () _ :=
      Channel.deliver_of_take rfl
    rw [htaken]
    exact ⟨rfl, rfl, rfl⟩
  | cons b rest =>
    obtain ⟨w, hw, htaken, -⟩ : ∃ w,
        Channel.deliver ⟨.closedOutput, []⟩ (b :: rest) = .error .closed w ∧ _ :=
      Channel.deliver_of_take_error rfl
    rw [hw]
    exact ⟨rfl, htaken, rfl⟩

/-- Where there is no space left, it ends with that failure, unless there is nothing
to put out. -/
theorem start_fullOutput [Carrier] (ha : Arguments.read arguments = .ok a)
    {j : Job} {q : Request} {x : Response} (h : a.Obtains events j q x)
    {octets : List UInt8} (hx : x.content = some octets) (hne : octets ≠ []) :
    (start logger root now arguments .fullOutput events).ending
      = .raised (.outlet .full) := by
  obtain ⟨configured, hrun⟩ :=
    start_of_obtains logger root now .fullOutput ha h
  obtain ⟨b, rest, rfl⟩ := List.exists_cons_of_ne_nil hne
  obtain ⟨w, hw, -⟩ : ∃ w,
      Channel.deliver ⟨.fullOutput, []⟩ (b :: rest) = .error .full w ∧ _ :=
    Channel.deliver_of_take_error rfl
  rw [hrun, deliver, hx]
  dsimp only
  rw [hw]
  rfl

/-- Where there is no content, that goes up, whatever the output is. -/
theorem start_withoutContent [Carrier] (ha : Arguments.read arguments = .ok a)
    {j : Job} {q : Request} {x : Response} (h : a.Obtains events j q x)
    (hx : x.content = none) :
    (start logger root now arguments outlet events).ending
      = .raised .noContent := by
  obtain ⟨configured, hrun⟩ := start_of_obtains logger root now outlet ha h
  rw [hrun, deliver, hx]
  rfl

/-- **Trouble at any hop** that is part of what a client has to expect ends the run
with status 1 and is noted as an error. -/
theorem start_of_trouble [Carrier] (ha : Arguments.read arguments = .ok a) {n : Nat}
    {t : Trouble} {s : Sent} (he : events[n]? = some (.trouble t))
    (hs : (start logger root now arguments outlet events).sent[n]? = some s)
    (ht : t.kind.isExpected = true) :
    let run := start logger root now arguments outlet events
    run.ending = .returned 1 ∧ run.output = [] ∧ run.sent.length = n + 1
      ∧ ∃ j q, a.job? = some j ∧ j.request = .ok q
        ∧ run.streams = run.root.emitAll now
          (requestNote q :: ((Sender.wire events).send q j.timeout).remarks
            ++ [failureNote j (t.message s.destination)]) := by
  intro run
  have hc : Course logger root now arguments outlet events [] run :=
    course_start logger root now arguments outlet events []
  change run.sent[n]? = some s at hs
  clear_value run
  cases hc with
  | stopped | noLevel | noAddress => cases hs
  | @invoked a' configured job ha' hl hj =>
    rw [ha] at ha'
    cases ha'
    change (job.invoke (.wire events) outlet).sent[n]? = some s at hs
    cases hq : job.request with
    | error f =>
      rw [Job.sent_invoke_of_fault hq] at hs
      cases hs
    | ok q =>
      rw [Job.sent_invoke_wire hq] at hs
      obtain ⟨hresult, hlen⟩ := Exchange.result_run_of_trouble he hs
      have hf := Sender.result_send_wire_of_error hresult
      have hexpected : (Failure.send (.trouble t s.destination)).isExpected
          = true := ht
      rw [Job.invoke_eq_fail hq hf, fail, if_pos hexpected]
      exact ⟨rfl, rfl, hlen, job, q, hj, hq, streams_ofInvocation nofun⟩

/-- **Status 0 means delivered.** A run that ends with it has put out the whole
content of the reply that came last, whatever room there is for it to wait. That is
the body exactly if the body stands for itself, as it does without an encoding.

With nobody at the other end of the output, a content that is obtained never makes
the run raise: the status is 1, or 0 if it is empty, and no error is noted. With no
space left, the failure goes up, unless it is empty. Where there is no content, that
goes up.

Trouble on the wire, an error of the system and a broken pipe among them, is not
taken for trouble with the output, at whatever hop it comes. The run ends with
status 1, notes one error, and does not note that nobody is at the other end. -/
theorem start_delivers [Carrier] (logger : Text) (root : Root) (now : Nat)
    {arguments : List Text} {a : Arguments}
    (ha : Arguments.read arguments = .ok a) (outlet : Outlet)
    (events : List Event) :
    let run := start logger root now arguments outlet events
    (run.ending = .returned 0 →
      ∃ (passed : List Reply) (r : Reply) (rest : List Event),
        events = passed.map .reply ++ .reply r :: rest
        ∧ run.sent.length = passed.length + 1
        ∧ r.asksOnward = false ∧ r.Conveys run.output
        ∧ (run.output = r.body ↔ r.decoded = .ok r.body)
        ∧ (r.header? "content-encoding" = none → run.output = r.body)
        ∧ ∀ room, (Writer.deliver run.output).run { outlet, room }
          = .ok () { outlet, room, taken := run.output })
      ∧ (∀ j q x, a.Obtains events j q x → ∀ octets, x.content = some octets →
        x.toReply.Conveys octets
          ∧ (x.header? "content-encoding" = none → octets = x.body)
          ∧ (outlet = .closedOutput →
            run.ending = .returned (if octets = [] then 0 else 1)
              ∧ run.output = []
              ∧ ∃ remarks, run.streams = run.root.emitAll now
                  (closedNotes logger remarks j q x.toReply octets)
                ∧ (∀ n ∈ closedNotes logger remarks j q x.toReply octets,
                  n.level < Severity.error.number)
                ∧ ∀ room, (octets ≠ [] →
                    (Writer.deliver octets).run { outlet, room }
                      = .error .closed (.holding { outlet, room } octets))
                  ∧ ((∃ w, (Writer.write octets).run { outlet, room }
                    = .error .closed w) ↔ room < octets.length))
          ∧ (outlet = .fullOutput → octets ≠ [] →
            run.ending = .raised (.outlet .full)
              ∧ ∀ room, (Writer.deliver octets).run { outlet, room }
                = .error .full (.holding { outlet, room } octets)))
      ∧ (∀ j q x, a.Obtains events j q x → x.content = none →
        run.ending = .raised .noContent)
      ∧ ∀ n t s, events[n]? = some (.trouble t) → run.sent[n]? = some s →
        t.kind.isExpected = true →
        run.ending = .returned 1 ∧ run.output = [] ∧ run.sent.length = n + 1
          ∧ ∃ j q remarks, a.job? = some j ∧ j.request = .ok q
            ∧ (∀ note ∈ remarks, note = remark)
            ∧ run.streams = run.root.emitAll now (requestNote q :: remarks
              ++ [failureNote j (t.message s.destination)])
            ∧ closedNote logger ∉ requestNote q :: remarks
              ++ [failureNote j (t.message s.destination)] := by
  intro run
  refine ⟨fun hending => ?_, fun j q x hobtains octets hx => ?_, ?_, ?_⟩
  · obtain ⟨j, q, x, octets, hobtains, hx, htake, hsent⟩ :=
      obtains_of_ending ha hending
    obtain ⟨passed, rest, he, hlen, -, hlast, -⟩ :=
      Exchange.events_of_result_run
        (Sender.result_send_wire_eq_ok_iff.mp hobtains.response)
    have houtput : run.output = octets := Outlet.eq_of_take htake
    have hconveys := hobtains.conveys hx
    rw [houtput]
    refine ⟨passed, x.toReply, rest, he, ?_, hlast, hconveys, ?_,
      hconveys.eq_body, fun room => ?_⟩
    · show run.sent.length = _
      rw [hsent, Sender.send_wire]
      exact hlen
    · rw [hconveys.decoded, Except.ok.injEq]
    · have htake' : outlet.take ([] ++ octets) = .ok octets := houtput ▸ htake
      rw [Writer.run_deliver, htake']
      rfl
  · have hconveys := hobtains.conveys hx
    refine ⟨hconveys, hconveys.eq_body, ?_, ?_⟩
    · rintro rfl
      obtain ⟨hending, houtput, hstreams⟩ := start_closedOutput ha hobtains hx
      refine ⟨hending, houtput, _, hstreams, fun n => level_of_mem_closedNotes
        fun _ hn => Sender.eq_remark_of_mem hn, fun room => ⟨fun hne => ?_, ?_⟩⟩
      · rw [Writer.run_deliver, List.nil_append, Outlet.take,
          if_neg (by simpa using hne)]
      · simp only [Writer.run_write_eq_error_iff, List.nil_append, Outlet.take,
          Writer.hasRoom]
        cases octets with
        | nil => simp
        | cons b rest => simp
    · rintro rfl hne
      refine ⟨start_fullOutput ha hobtains hx hne, fun room => ?_⟩
      rw [Writer.run_deliver, List.nil_append, Outlet.take,
        if_neg (by simpa using hne)]
  · exact fun j q x hobtains hx => start_withoutContent ha hobtains hx
  · intro n t s he hs ht
    obtain ⟨hending, houtput, hlen, j, q, hj, hq, hstreams⟩ :=
      start_of_trouble ha he hs ht
    have hremarks : ∀ note ∈ ((Sender.wire events).send q j.timeout).remarks,
        note = remark := fun _ hn => Sender.eq_remark_of_mem hn
    exact ⟨hending, houtput, hlen, j, q, _, hj, hq, hremarks, hstreams,
      closedNote_not_mem logger hremarks j _ _⟩

section Plain
attribute [local instance] Carrier.plain

/-- Trouble that the pipe to the server is broken. -/
def brokenPipe : Trouble :=
  ⟨.brokenPipe, "Broken pipe".toList⟩

/-- The same reply is put out, is lost with status 1, or makes the run raise, as
the output is; a pipe that breaks on the wire, after the request was sent
elsewhere, leaves status 1 as well, but with a message. -/
theorem start_delivers_brokenPipe :
    let run := start Run.logger {} 0 ["--url=http://h".toList]
    let redirected := [Event.reply movedReply, .reply failureReply]
    let broken := [Event.reply movedReply, .trouble brokenPipe]
    (run .output redirected).output = [0x62, 0x63]
      ∧ (run .closedOutput redirected).ending = .returned 1
      ∧ (run .closedOutput redirected).streams.length = 1
      ∧ (run .fullOutput redirected).ending = .raised (.outlet .full)
      ∧ (run .output broken).ending = .returned 1
      ∧ (run .output broken).sent.length = 2
      ∧ (run .output broken).streams.length = 1 := by
  intro run redirected broken
  have ha : Arguments.read ["--url=http://h".toList]
      = .ok { url := some "http://h".toList } := rfl
  let a : Arguments := { url := some "http://h".toList }
  let j : Job := ⟨"http://h/query".toList, a.params, a.timeout⟩
  have hj : a.job? = some j := by decide +kernel
  -- the reply of the second hop is the one that is obtained
  let x : Response := { failureReply with content := some [0x62, 0x63] }
  obtain ⟨q, hq, hx⟩ : ∃ q, j.request.toOption = some q
      ∧ ((Sender.wire redirected).send q j.timeout).result.toOption
        = some x := by
    rw [← Option.bind_eq_some_iff]
    decide +kernel
  have hobtains : a.Obtains redirected j q x :=
    ⟨by decide +kernel, hj, eq_ok_of_toOption hq, eq_ok_of_toOption hx⟩
  obtain ⟨-, hcontent, -⟩ :=
    start_delivers Run.logger {} 0 ha .closedOutput redirected
  obtain ⟨-, -, hclosed, -⟩ := hcontent j q x hobtains _ rfl
  obtain ⟨-, hcontent, -⟩ :=
    start_delivers Run.logger {} 0 ha .fullOutput redirected
  obtain ⟨-, -, -, hfull⟩ := hcontent j q x hobtains _ rfl
  obtain ⟨-, -, -, htrouble⟩ :=
    start_delivers Run.logger {} 0 ha .output broken
  obtain ⟨s, hs⟩ : ∃ s, (run .output broken).sent[1]? = some s :=
    Option.isSome_iff_exists.mp (by decide +kernel)
  obtain ⟨hbroken, -, hlen, -⟩ := htrouble 1 brokenPipe s rfl hs rfl
  exact ⟨by decide +kernel, (hclosed rfl).1, by decide +kernel,
    (hfull rfl (by decide)).1, hbroken, hlen, by decide +kernel⟩

/-- **A body that comes encoded is not what is put out**, though the status is 0. -/
theorem start_delivers_encoded :
    let run := start Run.logger {} 0 ["--url=http://h".toList] .output
      [.reply zippedReply]
    run.ending = .returned 0 ∧ run.output = [0x68, 0x69]
      ∧ run.output ≠ zippedReply.body := by
  intro run
  have hrun : run.ending.status? = some 0 ∧ run.output = [0x68, 0x69]
      ∧ run.output ≠ zippedReply.body := by
    decide +kernel
  exact ⟨Ending.eq_returned_of_status? hrun.1, hrun.2⟩

end Plain

end Run
end QueryClient
