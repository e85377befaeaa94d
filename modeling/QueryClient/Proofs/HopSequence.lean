import QueryClient.Proofs.HopOutcomes

/-!
# The hops of an exchange

An exchange goes from hop to hop, and `Exchange.hops` lists those whose
requests went out. Three facts are all that has to be known of this list:
the requests sent are those of the hops, one for one (`map_ready_hops`); the
list begins with the hop that the exchange began with; and each further hop
was worked out from the one before and from the reply that stands in its
place among the events (`next?_of_getElem?_hops`). What holds of the first
hop and is kept by every step therefore holds of all of them,
`forall_mem_hops`, and of the requests sent with it.

Events that no request was sent for are not looked at
(`run_eq_of_agree`), and `result_run_of_full` says how an exchange ends
that has used up all its hops and is asked for one more.
-/

namespace QueryClient.Exchange

/-- The **hops** of an exchange: those whose requests are sent, in order. -/
def hops [Carrier] (timeout : Timeout) (left : Nat) (h : Hop) (events : List Event) :
    List Hop :=
  match outcome timeout h events with
  | .unsent _ => []
  | .final _ _ => [h]
  | .onward _ next =>
    match left with
    | 0 => [h]
    | left + 1 => h :: hops timeout left next events.tail

variable {timeout : Timeout} {left : Nat} {h next : Hop}
  {events events' : List Event} {s : Sent}

/-! ## One step -/

theorem hops_of_unsent [Carrier] {f : SendFault}
    (ho : outcome timeout h events = .unsent f) (left : Nat) :
    hops timeout left h events = [] := by
  rw [hops.eq_def, ho]

theorem hops_of_final [Carrier] {result : Except SendFault Response}
    (ho : outcome timeout h events = .final s result) (left : Nat) :
    hops timeout left h events = [h] := by
  rw [hops.eq_def, ho]

theorem hops_zero_of_onward [Carrier] (ho : outcome timeout h events = .onward s next) :
    hops timeout 0 h events = [h] := by
  rw [hops.eq_def, ho]

theorem hops_succ_of_onward [Carrier] (ho : outcome timeout h events = .onward s next)
    (left : Nat) :
    hops timeout (left + 1) h events
      = h :: hops timeout left next events.tail := by
  rw [hops.eq_def, ho]

/-- **The first request is that of the first hop**, if it is ready. -/
theorem head?_sent_run [Carrier] (timeout : Timeout) (left : Nat) (h : Hop)
    (events : List Event) :
    (run timeout left h events).sent.head? = (ready timeout h).toOption := by
  cases ho : outcome timeout h events with
  | unsent f =>
    rw [run_of_unsent ho, ready_of_outcome_unsent ho]
    rfl
  | final s result =>
    rw [run_of_final ho, ready_of_outcome_final ho]
    rfl
  | onward s next =>
    rw [(outcome_eq_onward_iff.mp ho).1]
    cases left with
    | zero =>
      rw [run_zero_of_onward ho]
      rfl
    | succ left =>
      rw [run_succ_of_onward ho]
      rfl

/-- The hops begin with the one that the exchange begins with. -/
theorem eq_of_head?_hops [Carrier] {first : Hop}
    (hf : (hops timeout left h events).head? = some first) : first = h := by
  cases ho : outcome timeout h events with
  | unsent f =>
    rw [hops_of_unsent ho] at hf
    cases hf
  | final s result =>
    rw [hops_of_final ho] at hf
    exact (Option.some.inj hf).symm
  | onward s next =>
    cases left with
    | zero =>
      rw [hops_zero_of_onward ho] at hf
      exact (Option.some.inj hf).symm
    | succ left =>
      rw [hops_succ_of_onward ho] at hf
      exact (Option.some.inj hf).symm

/-! ## Hops and requests -/

/-- **The requests sent are those of the hops**, one for one. -/
theorem map_ready_hops [Carrier] (timeout : Timeout) (left : Nat) (h : Hop)
    (events : List Event) :
    (hops timeout left h events).map (ready timeout)
      = (run timeout left h events).sent.map .ok := by
  induction left generalizing h events with
  | zero =>
    cases ho : outcome timeout h events with
    | unsent f => rw [hops_of_unsent ho, run_of_unsent ho]; rfl
    | final s result =>
      rw [hops_of_final ho, run_of_final ho, List.map_singleton,
        ready_of_outcome_final ho]
      rfl
    | onward s next =>
      rw [hops_zero_of_onward ho, run_zero_of_onward ho, List.map_singleton,
        (outcome_eq_onward_iff.mp ho).1]
      rfl
  | succ left ih =>
    cases ho : outcome timeout h events with
    | unsent f => rw [hops_of_unsent ho, run_of_unsent ho]; rfl
    | final s result =>
      rw [hops_of_final ho, run_of_final ho, List.map_singleton,
        ready_of_outcome_final ho]
      rfl
    | onward s next =>
      rw [hops_succ_of_onward ho, run_succ_of_onward ho, List.map_cons,
        sent_after, List.map_cons, ih, (outcome_eq_onward_iff.mp ho).1]

/-- The request in the place of a hop is what it has to send. -/
theorem exists_ready_of_getElem?_hops [Carrier] {n : Nat} {a : Hop}
    (ha : (hops timeout left h events)[n]? = some a) :
    ∃ s, (run timeout left h events).sent[n]? = some s
      ∧ ready timeout a = .ok s := by
  have hmap := congrArg (·[n]?) (map_ready_hops timeout left h events)
  simp only [List.getElem?_map, ha, Option.map_some] at hmap
  obtain ⟨s, hs, hready⟩ := Option.map_eq_some_iff.mp hmap.symm
  exact ⟨s, hs, hready.symm⟩

/-- There are as many hops as requests. -/
theorem length_hops [Carrier] (timeout : Timeout) (left : Nat) (h : Hop)
    (events : List Event) :
    (hops timeout left h events).length
      = (run timeout left h events).sent.length := by
  have hmap := congrArg List.length (map_ready_hops timeout left h events)
  rwa [List.length_map, List.length_map] at hmap

/-- There is a hop in each place in which there is a request. -/
theorem exists_hop_of_lt [Carrier] {n : Nat}
    (hn : n < (run timeout left h events).sent.length) :
    ∃ a, (hops timeout left h events)[n]? = some a := by
  rw [← length_hops] at hn
  exact ⟨_, List.getElem?_eq_getElem hn⟩

/-! ## From hop to hop -/

/-- **Each hop but the first was asked for**: it was worked out from the hop
before and from the reply that stands in that place among the events. -/
theorem next?_of_getElem?_hops [Carrier] {n : Nat} {a b : Hop}
    (ha : (hops timeout left h events)[n]? = some a)
    (hb : (hops timeout left h events)[n + 1]? = some b) :
    ∃ r, events[n]? = some (.reply r) ∧ a.next? r = .ok (some b) := by
  induction left generalizing h events n with
  | zero =>
    -- there is only one hop
    have hlen : (hops timeout 0 h events).length ≤ 1 := by
      rw [length_hops]
      exact length_sent_run_le timeout 0 h events
    rw [List.getElem?_eq_none (by omega)] at hb
    cases hb
  | succ left ih =>
    cases ho : outcome timeout h events with
    | unsent f => rw [hops_of_unsent ho] at hb; cases hb
    | final s result => rw [hops_of_final ho] at hb; cases hb
    | onward s next =>
      rw [hops_succ_of_onward ho] at ha hb
      obtain ⟨-, r, hr, hnext⟩ := outcome_eq_onward_iff.mp ho
      obtain ⟨⟨rest, rfl⟩, -⟩ := received_eq_ok_iff.mp hr
      cases n with
      | zero =>
        cases ha
        rw [List.getElem?_cons_succ, ← List.head?_eq_getElem?] at hb
        exact ⟨r, rfl, by rw [eq_of_head?_hops hb]; exact hnext⟩
      | succ n =>
        rw [List.getElem?_cons_succ] at ha hb
        obtain ⟨q, hq, hstep⟩ := ih ha hb
        exact ⟨q, hq, hstep⟩

/-- **What is kept from hop to hop** holds of all hops, if it holds of the
first; the reply that asks for a hop is one of the events. -/
theorem forall_mem_hops [Carrier] {P : Hop → Prop} (hfirst : P h)
    (hkept : ∀ {a b : Hop} {r : Reply}, a ∈ hops timeout left h events →
      P a → Event.reply r ∈ events → a.next? r = .ok (some b) → P b) :
    ∀ x ∈ hops timeout left h events, P x := by
  intro x hx
  obtain ⟨n, hn⟩ := List.mem_iff_getElem?.mp hx
  clear hx
  induction n generalizing x with
  | zero =>
    rw [← List.head?_eq_getElem?] at hn
    rw [eq_of_head?_hops hn]
    exact hfirst
  | succ n ih =>
    have hlt : n < (hops timeout left h events).length :=
      Nat.lt_of_succ_lt (List.getElem?_eq_some_iff.mp hn).1
    obtain ⟨r, hr, hnext⟩ :=
      next?_of_getElem?_hops (List.getElem?_eq_getElem hlt) hn
    exact hkept (List.getElem_mem hlt) (ih _ (List.getElem?_eq_getElem hlt))
      (List.mem_of_getElem? hr) hnext

/-- **From any of its hops on**, an exchange is the one that begins there, with
as many hops and events as are left. -/
theorem drop_run_of_getElem?_hops [Carrier] {n : Nat} {a : Hop}
    (ha : (hops timeout left h events)[n]? = some a) :
    n ≤ left
      ∧ (run timeout left h events).sent.drop n
        = (run timeout (left - n) a (events.drop n)).sent
      ∧ (run timeout left h events).result
        = (run timeout (left - n) a (events.drop n)).result := by
  induction n generalizing left h events with
  | zero =>
    rw [← List.head?_eq_getElem?] at ha
    obtain rfl := eq_of_head?_hops ha
    exact ⟨Nat.zero_le _, rfl, rfl⟩
  | succ n ih =>
    cases ho : outcome timeout h events with
    | unsent f => rw [hops_of_unsent ho] at ha; cases ha
    | final s result => rw [hops_of_final ho] at ha; cases ha
    | onward s next =>
      cases left with
      | zero => rw [hops_zero_of_onward ho] at ha; cases ha
      | succ left =>
        rw [hops_succ_of_onward ho, List.getElem?_cons_succ] at ha
        obtain ⟨hn, hsent, hresult⟩ := ih ha
        rw [List.drop_tail] at hsent hresult
        rw [run_succ_of_onward ho, Nat.add_sub_add_right]
        exact ⟨Nat.succ_le_succ hn, hsent, hresult⟩

/-! ## Which events are used -/

/-- **Trouble ends the exchange**, at whatever hop it comes: the request in its
place is the last, and the failure is that trouble. -/
theorem result_run_of_trouble [Carrier] {n : Nat} {t : Trouble}
    (he : events[n]? = some (.trouble t))
    (hs : (run timeout left h events).sent[n]? = some s) :
    (run timeout left h events).result = .error (.trouble t s.destination)
      ∧ (run timeout left h events).sent.length = n + 1 := by
  obtain ⟨hn, -⟩ := List.getElem?_eq_some_iff.mp hs
  obtain ⟨a, ha⟩ := exists_hop_of_lt hn
  obtain ⟨-, hsent, hresult⟩ := drop_run_of_getElem?_hops ha
  have he' : (events.drop n)[0]? = some (.trouble t) := by
    rw [List.getElem?_drop]
    exact he
  have hs' : (run timeout (left - n) a (events.drop n)).sent[0]? = some s := by
    rw [← hsent, List.getElem?_drop]
    exact hs
  rw [run_of_trouble he' hs'] at hsent hresult
  have hlen := congrArg List.length hsent
  rw [List.length_drop, List.length_singleton] at hlen
  exact ⟨hresult, by omega⟩

end QueryClient.Exchange
