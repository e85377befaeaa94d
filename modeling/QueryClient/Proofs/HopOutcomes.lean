import QueryClient.Exchange.Basic
import QueryClient.Proofs.Attempt

/-!
# What a hop comes to

A hop sends at most one request and uses at most one event. This module says
once, for each way in which a hop can end, what must have gone before:
`Exchange.outcome_eq_onward_iff` for a hop that leads to another, and
`Exchange.of_outcome_final` for one that ends the exchange with a response.
Which of the two it is depends on the reply alone (`Reply.asksOnward`), so a
whole exchange that ends with a response has used replies that ask onward, one
for each hop, and then one that does not: `Exchange.events_of_result_run`. What it
ends with is what that reply **conveys**.
-/

namespace QueryClient

/-- Whether the reply **asks onward**: its status sends elsewhere, and its
location says something. -/
def Reply.asksOnward (r : Reply) : Bool :=
  r.location?.any (!·.isEmpty)

/-- A reply is **taken in** if the lengths it announces agree, and the carrier does
not refuse it. -/
structure Reply.IsTaken [Carrier] (r : Reply) : Prop where
  /-- The announced lengths do not contradict each other. -/
  agrees : ∀ header, r.announced ≠ .contradiction header
  /-- The carrier does not refuse it. -/
  accepted : Carrier.refusal? r.headers = none

/-- A reply **conveys** octets if it is taken in, its status is one, the body is whole,
and the octets are what it stands for. -/
structure Reply.Conveys [Carrier] (r : Reply) (octets : List UInt8) : Prop where
  /-- It is taken in. -/
  isTaken : r.IsTaken
  /-- Its status is one. -/
  status : r.status ≠ 0
  /-- Nothing is missing of the body, and nothing is too much. -/
  missing : r.missing = 0
  /-- The body stands for the octets. -/
  decoded : r.decoded = .ok octets

/-- Without an encoding, a reply conveys its body or nothing. -/
theorem Reply.Conveys.eq_body [Carrier] {r : Reply} {octets : List UInt8}
    (h : r.Conveys octets) (hr : r.header? "content-encoding" = none) :
    octets = r.body := by
  have hd := h.decoded
  unfold Reply.decoded at hd
  rw [hr] at hd
  exact (Except.ok.inj hd).symm

namespace Utf8

/-- A character begun comes to at least one piece. -/
theorem scanFrom_some_ne_nil (b : Begun) (octets : List UInt8) :
    scanFrom (some b) octets ≠ [] := by
  induction octets generalizing b with
  | nil => simp [scanFrom]
  | cons o rest ih =>
    rw [scanFrom_cons, step, Option.elim]
    unfold proceed
    split
    · cases b.further with
      | zero => simp
      | succ k =>
        rw [List.nil_append]
        exact ih _
    · simp

/-- So does any first octet. -/
theorem scan_cons_ne_nil (o : UInt8) (rest : List UInt8) :
    scan (o :: rest) ≠ [] := by
  rw [scan, scanFrom_cons, step, Option.elim]
  unfold start
  cases lead o with
  | whole c => simp
  | none => simp
  | begun b =>
    rw [List.nil_append]
    exact scanFrom_some_ne_nil b rest

/-- **Only no octets are the empty text.** -/
theorem decode_eq_ok_nil_iff {octets : List UInt8} :
    decode octets = .ok [] ↔ octets = [] := by
  refine ⟨fun h => ?_, fun h => by rw [h]; rfl⟩
  cases octets with
  | nil => rfl
  | cons o rest =>
    obtain ⟨piece, more, hs⟩ := List.exists_cons_of_ne_nil (scan_cons_ne_nil o rest)
    rw [decode, hs] at h
    cases piece with
    | broken why octets => simp [gather] at h
    | char c =>
      rw [gather] at h
      cases hg : gather (0 + (encodeChar c).length) more with
      | error f => rw [hg] at h; simp [Except.map] at h
      | ok t => rw [hg] at h; simp [Except.map] at h

end Utf8

namespace Redirect

/-- A location reads as the text that its octets stand for. -/
theorem readLocation_eq_ok_iff {t location : Text} :
    readLocation t = .ok location
      ↔ ∃ octets, Latin1.encode t = .ok octets
        ∧ Utf8.decode octets = .ok location := by
  rw [readLocation, bind_eq_ok_iff]
  simp only [mapError_eq_ok_iff]

/-- It reads as nothing only if nothing is written there. -/
theorem readLocation_eq_ok_nil_iff {t : Text} :
    readLocation t = .ok [] ↔ t = [] := by
  refine ⟨fun h => ?_, fun h => by rw [h]; rfl⟩
  obtain ⟨octets, ho, h⟩ := readLocation_eq_ok_iff.mp h
  rw [Utf8.decode_eq_ok_nil_iff] at h
  unfold Latin1.encode at ho
  split at ho
  · cases ho
    exact List.map_eq_nil_iff.mp h
  · cases ho

end Redirect

namespace Hop

/-- **A hop is the last exactly if the reply does not ask onward.** -/
theorem next?_eq_ok_none_iff {h : Hop} {r : Reply} :
    h.next? r = .ok none ↔ r.asksOnward = false := by
  unfold next? Reply.asksOnward
  cases r.location? with
  | none => simp
  | some written =>
    cases written with
    | nil => simp [Redirect.readLocation_eq_ok_nil_iff.mpr rfl]
    | cons c rest =>
      -- something is written, so the text read from it says something too
      refine iff_of_false (fun hn => ?_) (by simp)
      obtain ⟨location, hl, hn⟩ := bind_eq_ok_iff.mp hn
      cases location with
      | nil =>
        exact List.cons_ne_nil c rest (Redirect.readLocation_eq_ok_nil_iff.mp hl)
      | cons d more =>
        obtain ⟨next, _, hn⟩ := bind_eq_ok_iff.mp hn
        cases hn

/-- **The next hop** follows the text of a location that says something. -/
theorem of_next?_eq_some {h next : Hop} {r : Reply}
    (hn : h.next? r = .ok (some next)) :
    ∃ written location, r.location? = some written
      ∧ Redirect.readLocation written = .ok location ∧ location ≠ []
      ∧ h.follow r.status location = .ok next := by
  unfold next? at hn
  split at hn
  · cases hn
  · rename_i written hw
    obtain ⟨location, hl, hn⟩ := bind_eq_ok_iff.mp hn
    split at hn
    · cases hn
    · rename_i hne
      obtain ⟨found, hf, hn⟩ := bind_eq_ok_iff.mp hn
      cases hn
      rw [mapError_eq_ok_iff] at hf
      exact ⟨written, location, hw, hl, fun e => hne (by rw [e]; rfl), hf⟩

/-- What is in the hop to a location: the method and the body as the status
asks for, the address, and the credentials that go along to it. -/
theorem of_follow_eq_ok {h next : Hop} {status : Nat} {location : Text}
    (hf : h.follow status location = .ok next) :
    next.method = Redirect.nextMethod status h.method
      ∧ next.body = Redirect.nextBody status h.body
      ∧ Redirect.nextUrl h.url h.fragment location
        = .ok (next.url, next.fragment)
      ∧ Redirect.nextAuthorization h.url next.url h.authorization
        = .ok next.authorization := by
  unfold follow at hf
  obtain ⟨⟨url, fragment⟩, hu, hf⟩ := bind_eq_ok_iff.mp hf
  obtain ⟨authorization, ha, hf⟩ := bind_eq_ok_iff.mp hf
  cases hf
  exact ⟨rfl, rfl, hu, ha⟩

/-- Where there is another hop, the reply asks onward. -/
theorem asksOnward_of_next? {h next : Hop} {r : Reply}
    (hn : h.next? r = .ok (some next)) : r.asksOnward = true := by
  cases hr : r.asksOnward with
  | true => rfl
  | false =>
    rw [next?_eq_ok_none_iff.mpr hr] at hn
    cases hn

end Hop

namespace Exchange

variable {timeout : Timeout} {h : Hop} {events : List Event} {s : Sent}

/-- **What is sent** of a hop: the destination of its address, and the
waiting time for both parts of the way. -/
theorem of_ready_eq_ok [Carrier] (hs : ready timeout h = .ok s) :
    ∃ d limit, Destination.ofUrl h.url = .ok d ∧ timeout.check = .ok limit
      ∧ s = ⟨d, h.method, h.authorization, h.body, limit, limit⟩ := by
  unfold ready at hs
  obtain ⟨d, hd, hs⟩ := bind_eq_ok_iff.mp hs
  obtain ⟨limit, hl, hs⟩ := bind_eq_ok_iff.mp hs
  rw [mapError_eq_ok_iff] at hd hl
  cases hs
  exact ⟨d, limit, hd, hl, rfl⟩

/-- The carrier takes in what is taken in. -/
theorem taken_eq_ok_iff [Carrier] {q r : Reply} :
    taken q = .ok r ↔ q = r ∧ q.IsTaken := by
  unfold taken
  constructor
  · intro h
    split at h
    · cases h
    · cases h
    · rename_i hr ha
      cases h
      exact ⟨rfl, ⟨ha, hr⟩⟩
  · rintro ⟨rfl, ht⟩
    rw [ht.accepted]
    split
    · rename_i ha
      exact absurd ha (ht.agrees _)
    · rename_i hr _
      cases hr
    · rfl

/-- Whatever it does not take in has lengths that contradict each other, or else is
refused. -/
theorem of_taken_eq_error [Carrier] {r : Reply} {f : SendFault}
    (h : taken r = .error f) :
    (∃ header, r.announced = .contradiction header
        ∧ f = .contradiction header)
      ∨ (∀ header, r.announced ≠ .contradiction header)
        ∧ ∃ text, Carrier.refusal? r.headers = some text
          ∧ f = .refused text := by
  unfold taken at h
  split at h
  · rename_i header ha
    cases h
    exact .inl ⟨header, ha, rfl⟩
  · rename_i text hr ha
    cases h
    exact .inr ⟨ha, text, hr, rfl⟩
  · cases h

/-- The next event brings a reply exactly if it is one, and is taken in. -/
theorem received_eq_ok_iff [Carrier] {d : Destination} {r : Reply} :
    received d events = .ok r
      ↔ (∃ rest, events = .reply r :: rest) ∧ r.IsTaken := by
  unfold received
  cases events with
  | nil => simp
  | cons e rest =>
    cases e with
    | trouble t => simp
    | reply q =>
      dsimp only
      rw [taken_eq_ok_iff]
      constructor
      · rintro ⟨rfl, ht⟩
        exact ⟨⟨rest, rfl⟩, ht⟩
      · rintro ⟨⟨_, he⟩, ht⟩
        cases he
        exact ⟨rfl, ht⟩

/-- **The response of a reply** has its content, or none if the status is zero. -/
theorem response_eq_ok_iff [Carrier] {r : Reply} {x : Response} :
    response r = .ok x
      ↔ x.toReply = r ∧ (r.status = 0 ∧ x.content = none
        ∨ r.status ≠ 0 ∧ r.missing = 0
          ∧ ∃ octets, r.decoded = .ok octets ∧ x.content = some octets) := by
  obtain ⟨q, content⟩ := x
  unfold response
  by_cases hs : r.status = 0
  · rw [if_pos hs]
    simp [hs, eq_comm]
  rw [if_neg hs]
  cases hd : r.decoded with
  | error what => simp [hs]
  | ok octets =>
    by_cases hm : r.missing = 0
    · simp [hs, hm, eq_comm]
    · simp [hs, hm]

/-- A content that cannot be had is among what is expected. -/
theorem isExpected_of_response [Carrier] {r : Reply} {f : SendFault}
    (h : response r = .error f) : f.isExpected = true := by
  unfold response at h
  split at h
  · cases h
  obtain h | ⟨octets, -, h⟩ := bind_eq_error_iff.mp h
  · obtain ⟨what, -, rfl⟩ := mapError_eq_error_iff.mp h
    rfl
  · split at h
    · cases h
      rfl
    · cases h

/-- The response of a reply has some content exactly if the reply conveys it. -/
theorem content_eq_some_iff [Carrier] {r : Reply} {x : Response}
    (hr : r.IsTaken) (hx : response r = .ok x) {octets : List UInt8} :
    x.content = some octets ↔ r.Conveys octets := by
  obtain ⟨-, ⟨hs, hc⟩ | ⟨hs, hm, found, hd, hc⟩⟩ := response_eq_ok_iff.mp hx
  · rw [hc]
    exact iff_of_false nofun fun h => h.status hs
  · rw [hc]
    constructor
    · rintro ⟨⟩
      exact ⟨hr, hs, hm, hd⟩
    · intro h
      rw [← Except.ok.inj (hd.symm.trans h.decoded)]

/-- A reply that conveys octets has the response with them. -/
theorem response_of_conveys [Carrier] {r : Reply} {octets : List UInt8}
    (h : r.Conveys octets) :
    response r = .ok { r with content := some octets } :=
  response_eq_ok_iff.mpr
    ⟨rfl, .inr ⟨h.status, h.missing, octets, h.decoded, rfl⟩⟩

/-- The reply leads to another hop exactly if one can be worked out. -/
theorem outcomeOf_eq_onward_iff [Carrier] {t : Sent} {r : Reply} {next : Hop} :
    outcomeOf h s r = .onward t next
      ↔ s = t ∧ h.next? r = .ok (some next) := by
  unfold outcomeOf
  cases h.next? r with
  | error f => simp
  | ok n =>
    cases n with
    | none => simp
    | some hop => simp

/-- The reply ends the exchange well exactly if it does not ask onward, and its
content can be had. -/
theorem outcomeOf_eq_final_ok_iff [Carrier] {t : Sent} {r : Reply}
    {x : Response} :
    outcomeOf h s r = .final t (.ok x)
      ↔ s = t ∧ response r = .ok x ∧ r.asksOnward = false := by
  rw [← Hop.next?_eq_ok_none_iff (h := h)]
  unfold outcomeOf
  cases h.next? r with
  | error f => simp
  | ok n =>
    cases n with
    | none => simp
    | some hop => simp

/-- **What a hop can come to**: no request can go out, or the event after
the request is no reply that is taken in, or it is one, and all depends on
that. -/
theorem outcome_cases [Carrier] (timeout : Timeout) (h : Hop) (events : List Event) :
    (∃ f, ready timeout h = .error f ∧ outcome timeout h events = .unsent f)
      ∨ (∃ s f, ready timeout h = .ok s
        ∧ received s.destination events = .error f
        ∧ outcome timeout h events = .final s (.error f))
      ∨ ∃ s r, ready timeout h = .ok s
        ∧ received s.destination events = .ok r
        ∧ outcome timeout h events = outcomeOf h s r := by
  unfold outcome
  cases ready timeout h with
  | error f => exact .inl ⟨f, rfl, rfl⟩
  | ok s =>
    dsimp only
    cases hr : received s.destination events with
    | error f => exact .inr (.inl ⟨s, f, rfl, hr, rfl⟩)
    | ok r => exact .inr (.inr ⟨s, r, rfl, hr, rfl⟩)

/-- With a request that can go out and a reply that is taken in, all depends on
the reply. -/
theorem outcome_of_reply [Carrier] {r : Reply} (hs : ready timeout h = .ok s)
    (ha : r.IsTaken) (rest : List Event) :
    outcome timeout h (.reply r :: rest) = outcomeOf h s r := by
  have hr : received s.destination (.reply r :: rest) = .ok r :=
    received_eq_ok_iff.mpr ⟨⟨rest, rfl⟩, ha⟩
  unfold outcome
  rw [hs]
  dsimp only
  rw [hr]

/-- **A hop leads to another exactly if** its request can go out, there is a
reply that is taken in, and the next hop can be worked out from that. -/
theorem outcome_eq_onward_iff [Carrier] {next : Hop} :
    outcome timeout h events = .onward s next
      ↔ ready timeout h = .ok s ∧ ∃ r, received s.destination events = .ok r
        ∧ h.next? r = .ok (some next) := by
  obtain ⟨f, hs, ho⟩ | ⟨t, f, hs, hr, ho⟩ | ⟨t, r, hs, hr, ho⟩ :=
    outcome_cases timeout h events
  · simp [ho, hs]
  · rw [ho, hs]
    refine iff_of_false (by simp) ?_
    rintro ⟨hst, r, hr', -⟩
    cases hst
    rw [hr] at hr'
    cases hr'
  · rw [ho, hs, outcomeOf_eq_onward_iff, Except.ok.injEq]
    refine and_congr_right ?_
    rintro rfl
    simp [hr]

/-- The request of a hop that sends nothing was not ready. -/
theorem ready_of_outcome_unsent [Carrier] {f : SendFault}
    (ho : outcome timeout h events = .unsent f) :
    ready timeout h = .error f := by
  obtain ⟨g, hs, hg⟩ | ⟨t, g, -, -, hg⟩ | ⟨t, r, -, -, hg⟩ :=
    outcome_cases timeout h events
  · rw [hg] at ho
    cases ho
    exact hs
  · rw [hg] at ho
    cases ho
  · rw [hg] at ho
    unfold outcomeOf at ho
    split at ho <;> cases ho

/-- The request of a hop that ends the exchange was ready. -/
theorem ready_of_outcome_final [Carrier] {result : Except SendFault Response}
    (ho : outcome timeout h events = .final s result) :
    ready timeout h = .ok s := by
  obtain ⟨f, -, hf⟩ | ⟨t, f, hs, -, hf⟩ | ⟨t, r, hs, -, hf⟩ :=
    outcome_cases timeout h events
  · rw [hf] at ho
    cases ho
  · rw [hf] at ho
    cases ho
    exact hs
  · rw [hf] at ho
    unfold outcomeOf at ho
    split at ho <;> cases ho <;> exact hs

/-- A hop that leads to another has used a reply that asks onward. -/
theorem asksOnward_of_outcome [Carrier] {next : Hop}
    (ho : outcome timeout h events = .onward s next) :
    ∃ r rest, events = .reply r :: rest ∧ r.asksOnward = true := by
  obtain ⟨-, r, hr, hnext⟩ := outcome_eq_onward_iff.mp ho
  obtain ⟨⟨rest, he⟩, -⟩ := received_eq_ok_iff.mp hr
  exact ⟨r, rest, he, Hop.asksOnward_of_next? hnext⟩

/-- A hop that ends the exchange with a response has used its reply, which is taken
in and does not ask onward. -/
theorem of_outcome_final [Carrier] {x : Response}
    (ho : outcome timeout h events = .final s (.ok x)) :
    (∃ rest, events = .reply x.toReply :: rest) ∧ x.toReply.IsTaken
      ∧ response x.toReply = .ok x ∧ x.asksOnward = false := by
  obtain ⟨f, -, hf⟩ | ⟨t, f, -, -, hf⟩ | ⟨t, q, -, hq, hf⟩ :=
    outcome_cases timeout h events
  · rw [hf] at ho
    cases ho
  · rw [hf] at ho
    cases ho
  · rw [hf, outcomeOf_eq_final_ok_iff] at ho
    obtain ⟨-, hx, hn⟩ := ho
    obtain ⟨he, ht⟩ := received_eq_ok_iff.mp hq
    obtain ⟨rfl, -⟩ := response_eq_ok_iff.mp hx
    exact ⟨he, ht, hx, hn⟩

/-- **What an exchange that ends with a response has used**: for each request
but the last a reply that asks onward, and for the last one the reply of that
response, taken in and not asking onward. -/
theorem events_of_result_run [Carrier] {left : Nat} {x : Response}
    (hr : (run timeout left h events).result = .ok x) :
    ∃ (passed : List Reply) (rest : List Event),
      events = passed.map .reply ++ .reply x.toReply :: rest
      ∧ (run timeout left h events).sent.length = passed.length + 1
      ∧ (∀ q ∈ passed, q.asksOnward = true)
      ∧ x.asksOnward = false ∧ x.toReply.IsTaken
      ∧ response x.toReply = .ok x := by
  -- along the hops: each one but the last adds the reply it went on from
  induction left generalizing h events with
  | zero =>
    cases ho : outcome timeout h events with
    | unsent f => rw [run_of_unsent ho] at hr; cases hr
    | onward s next => rw [run_zero_of_onward ho] at hr; cases hr
    | final s result =>
      rw [run_of_final ho] at hr ⊢
      cases hr
      obtain ⟨⟨rest, he⟩, ht, hx, hn⟩ := of_outcome_final ho
      exact ⟨[], rest, he, rfl, by simp, hn, ht, hx⟩
  | succ left ih =>
    cases ho : outcome timeout h events with
    | unsent f => rw [run_of_unsent ho] at hr; cases hr
    | final s result =>
      rw [run_of_final ho] at hr ⊢
      cases hr
      obtain ⟨⟨rest, he⟩, ht, hx, hn⟩ := of_outcome_final ho
      exact ⟨[], rest, he, rfl, by simp, hn, ht, hx⟩
    | onward s next =>
      rw [run_succ_of_onward ho] at hr ⊢
      obtain ⟨q, more, he, hq⟩ := asksOnward_of_outcome ho
      obtain ⟨passed, rest, ht, hlen, hall, hlast, hw⟩ := ih hr
      refine ⟨q :: passed, rest, ?_, ?_, ?_, hlast, hw⟩
      · rw [he, List.tail_cons] at ht
        rw [he, ht]
        rfl
      · rw [sent_after, List.length_cons, hlen, List.length_cons]
      · exact List.forall_mem_cons.mpr ⟨hq, hall⟩

/-- **A reply that does not ask onward is the last**, however it is taken. -/
theorem exists_outcome_of_last [Carrier] {r : Reply} (hs : ready timeout h = .ok s)
    (hr : r.asksOnward = false) (rest : List Event) :
    ∃ result, outcome timeout h (.reply r :: rest) = .final s result := by
  cases ho : outcome timeout h (.reply r :: rest) with
  | unsent f => cases hs.symm.trans (ready_of_outcome_unsent ho)
  | onward t next =>
    obtain ⟨q, more, ⟨⟩, hq⟩ := asksOnward_of_outcome ho
    rw [hr] at hq
    cases hq
  | final t result =>
    cases hs.symm.trans (ready_of_outcome_final ho)
    exact ⟨result, rfl⟩

/-- **A reply that conveys octets and does not ask onward ends the exchange** with
them. -/
theorem run_of_conveys [Carrier] {r : Reply} {octets : List UInt8}
    (hs : ready timeout h = .ok s) (hr : r.asksOnward = false)
    (hw : r.Conveys octets) (left : Nat) (rest : List Event) :
    run timeout left h (.reply r :: rest)
      = ⟨[s], .ok { r with content := some octets }⟩ := by
  have hfinal : outcome timeout h (.reply r :: rest)
      = .final s (.ok { r with content := some octets }) := by
    rw [outcome_of_reply hs hw.isTaken]
    exact outcomeOf_eq_final_ok_iff.mpr ⟨rfl, response_of_conveys hw, hr⟩
  exact run_of_final hfinal left

/-- A hop that meets with trouble is the last. -/
theorem outcome_of_trouble [Carrier] {t : Trouble} (hs : ready timeout h = .ok s)
    (rest : List Event) :
    outcome timeout h (.trouble t :: rest)
      = .final s (.error (.trouble t s.destination)) := by
  unfold outcome
  rw [hs]
  rfl

/-- Where the first event is trouble, a request that goes out meets with it. -/
theorem run_of_trouble [Carrier] {left : Nat} {t : Trouble}
    (he : events[0]? = some (.trouble t))
    (hs : (run timeout left h events).sent[0]? = some s) :
    run timeout left h events
      = ⟨[s], .error (.trouble t s.destination)⟩ := by
  obtain ⟨rest, rfl⟩ : ∃ rest, events = .trouble t :: rest := by
    cases events with
    | nil => cases he
    | cons e rest =>
      cases he
      exact ⟨rest, rfl⟩
  cases hready : ready timeout h with
  | error f =>
    have ho : outcome timeout h (.trouble t :: rest) = .unsent f := by
      unfold outcome
      rw [hready]
    rw [run_of_unsent ho] at hs
    cases hs
  | ok s' =>
    rw [run_of_final (outcome_of_trouble hready rest)] at hs ⊢
    cases hs
    rfl

end Exchange
end QueryClient
