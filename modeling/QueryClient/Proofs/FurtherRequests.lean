import QueryClient.Exchange.PlainCarrier
import QueryClient.Proofs.BoundedExchange
import QueryClient.Proofs.Delivery

/-!
# When one request is not enough

An invocation prepares one request, and one might think that one is sent and its
reply delivered. But whoever sends a request goes on by itself from a reply that
asks for it, and nothing tells it not to. So there may be a second request, and a
third, and of all the replies only the one to the last is delivered.

`invoke_goesOn_iff` says exactly when: a further request goes out if and only if
the reply leads on, and a reply is the one whose content is delivered if and only if
it does not ask onward and conveys that content. Without a first reply that asks
onward there is at most one request. Each statement about a place in the exchange is
one about its first hop, since the exchange from there on is one as well
(`Exchange.drop_run_of_getElem?_hops`).
-/

namespace QueryClient

/-- A reply **leads on** from a hop: it is taken in, the place that it asks for can
be worked out, and a request can go there. -/
structure Hop.LeadsOn [Carrier] (h : Hop) (timeout : Timeout) (r : Reply) :
    Prop where
  /-- It is taken in. -/
  isTaken : r.IsTaken
  /-- There is a place to go, and a request can go there. -/
  next : ∃ next s, h.next? r = .ok (some next)
    ∧ Exchange.ready timeout next = .ok s

/-- Only a reply that asks onward leads on. -/
theorem Hop.LeadsOn.asksOnward [Carrier] {h : Hop} {timeout : Timeout} {r : Reply}
    (hr : h.LeadsOn timeout r) : r.asksOnward = true := by
  obtain ⟨next, s, hn, -⟩ := hr.next
  exact Hop.asksOnward_of_next? hn

namespace Exchange

variable {timeout : Timeout} {left n : Nat} {h : Hop} {events : List Event}
  {s : Sent} {r : Reply}

/-- **A reply in place of a request is the last one and gives the result** exactly
if it does not ask onward and conveys something. -/
theorem result_run_of_reply_iff [Carrier] {octets : List UInt8}
    (hn : n < (run timeout left h events).sent.length)
    (he : events[n]? = some (.reply r)) :
    n + 1 = (run timeout left h events).sent.length
        ∧ (run timeout left h events).result
          = .ok { r with content := some octets }
      ↔ r.asksOnward = false ∧ r.Conveys octets := by
  constructor
  · rintro ⟨-, hresult⟩
    obtain ⟨-, -, -, -, -, hlast, htaken, hresponse⟩ :=
      events_of_result_run hresult
    exact ⟨hlast, (content_eq_some_iff htaken hresponse).mp rfl⟩
  · rintro ⟨hlast, hw⟩
    obtain ⟨a, ha⟩ := exists_hop_of_lt hn
    obtain ⟨s, -, hready⟩ := exists_ready_of_getElem?_hops ha
    obtain ⟨-, hsent, hresult⟩ := drop_run_of_getElem?_hops ha
    obtain ⟨hlt, hget⟩ := List.getElem?_eq_some_iff.mp he
    rw [List.drop_eq_getElem_cons hlt, hget, run_of_conveys hready hlast hw]
      at hsent hresult
    have hlen := congrArg List.length hsent
    rw [List.length_drop, List.length_singleton] at hlen
    exact ⟨by omega, hresult⟩

end Exchange

namespace Job

variable {j : Job} {events : List Event} {o : Outlet} {r : Reply}

/-- Status 0 with such a delivery comes of a response with that content. -/
theorem ending_eq_zero_iff_of_isWorking [Carrier] {s : Sender} {q : Request}
    (ho : o.isWorking = true) (hq : j.request = .ok q) {octets : List UInt8} :
    (j.invoke s o).ending = .ok 0 ∧ (j.invoke s o).written = octets
      ↔ ∃ x, (s.send q j.timeout).result = .ok x ∧ x.content = some octets := by
  obtain ⟨f, hf, hending, -⟩ | ⟨x, hx, hnone, hending, -⟩
      | ⟨x, content, hx, hsome, hending, hwritten⟩ :=
    invoke_of_isWorking (s := s) ho hq
  · rw [hf, hending]
    refine iff_of_false ?_ nofun
    split <;> nofun
  · rw [hx, hending]
    refine iff_of_false nofun ?_
    rintro ⟨_, ⟨⟩, hsome⟩
    cases hnone.symm.trans hsome
  · rw [hx, hending, hwritten]
    simp [hsome]

/-- **A reply is the last and gives what is delivered exactly if** it does not ask
onward and conveys that. -/
theorem delivered_iff [Carrier] (ho : o.isWorking = true) {n : Nat}
    (hn : n < (j.invoke (.wire events) o).sent.length)
    (he : events[n]? = some (.reply r)) {octets : List UInt8} :
    n + 1 = (j.invoke (.wire events) o).sent.length
        ∧ (j.invoke (.wire events) o).ending = .ok 0
        ∧ (j.invoke (.wire events) o).written = octets
      ↔ r.asksOnward = false ∧ r.Conveys octets := by
  cases hq : j.request with
  | error f =>
    rw [sent_invoke_of_fault hq] at hn
    cases hn
  | ok q =>
    rw [ending_eq_zero_iff_of_isWorking ho hq]
    rw [sent_invoke_wire hq] at hn ⊢
    rw [← Exchange.result_run_of_reply_iff hn he]
    simp only [Sender.result_send_wire_eq_ok_iff]
    refine and_congr_right fun hlast => ⟨?_, fun hx => ⟨_, hx, rfl⟩⟩
    rintro ⟨⟨q', content⟩, hx, rfl⟩
    -- the reply that the exchange ends with is the one in the last place
    obtain ⟨passed, rest, hevents, hlen, -⟩ := Exchange.events_of_result_run hx
    have hplace : n = (passed.map Event.reply).length := by
      rw [List.length_map]
      omega
    rw [hevents, hplace, List.getElem?_append_right (Nat.le_refl _),
      Nat.sub_self] at he
    cases he
    exact hx

end Job

section Plain
attribute [local instance] Carrier.plain

end Plain

end QueryClient
