import QueryClient.Exchange.PlainCarrier
import QueryClient.Proofs.BoundedExchange
import QueryClient.Proofs.DoubledTargets
import QueryClient.Proofs.WrittenAddress

/-!
# Targets on the wire

The target of a request is the one text from a config, or from a reply, that
goes into the first line of what is sent. If a space or a line end could get
into it, the server would read something else than was meant.

It cannot. The first address of an exchange is requoted, or it is taken as it
is; in the second case it has no scheme that can be spoken, and nothing is
sent (`Destination.ofUrl_of_isForeign`). Being written is kept from hop to
hop, so every address that something is sent to is written, and its target is
what stands behind the authority and in front of the fragment:
`invoke_target_written`.

A target may begin with two slashes. The path of an address is sent as it
is, so it does as soon as the path does (`invoke_target_doubled`). But this
comes from the texts alone: where no path in the config or in a location has
two slashes in a row, no target begins with them
(`Job.isDoubled_of_mem_hops`).
-/

namespace QueryClient

open Url

/-- A reply is **doubling** if the location that it sends to has two slashes
in a row in its path. -/
def Reply.IsDoubling (r : Reply) : Prop :=
  ∃ written location, r.location? = some written
    ∧ Redirect.readLocation written = .ok location
    ∧ IsDoubled (Reference.pathOf location)

/-- Whether the character may stand in a target. -/
def isTargetChar (c : Char) : Bool :=
  c.isAlphanum || "-._~!$%&'()*+,/:;=?@[]".toList.contains c

/-- The characters of targets are those of addresses, the hash aside. -/
theorem isTargetChar_of_isPlain {c : Char} (h : isPlain c = true ∨ c = '%')
    (hne : c ≠ '#') : isTargetChar c = true := by
  obtain h | rfl := h
  · exact Text.ascii_cases
      (P := fun c => isPlain c = true → c ≠ '#' → isTargetChar c = true)
      (by decide +kernel) (toNat_lt_of_isPlain h) h hne
  · decide

namespace Destination

/-- **The target of a written address** is rooted, and consists of
characters of targets. -/
theorem target_of_isWritten [Names] {url : Text} {d : Destination}
    (hw : IsWritten url) (h : ofUrl url = .ok d) :
    d.target.head? = some '/' ∧ ∀ c ∈ d.target, isTargetChar c = true := by
  obtain ⟨⟨name, rest, rfl, hname⟩, r, hr, -, -, hin⟩ := of_ofUrl_eq_ok h
  have hparts := Reference.isWithin_of_split isClosed_isPlain .nil hw hr
  have hroot := Reference.head?_path_of_split (.of_lowerAscii hname)
    (hw.clean) hr
  obtain ⟨-, -, hends, -, hquery⟩ := Reference.of_split_eq_ok hr
  have hpath : '#' ∉ r.path := fun hm => absurd (hends _ hm) (by decide)
  rw [hin.target, targetOf]
  refine ⟨?_, fun c hc => ?_⟩
  · cases hp : r.path with
    | nil => rfl
    | cons c path =>
      rw [hp] at hroot
      exact congrArg some (hroot c rfl)
  · obtain hc | hc := List.mem_append.mp hc
    · split at hc
      · rw [List.mem_singleton.mp hc]
        decide
      · exact isTargetChar_of_isPlain (hparts.path c hc)
          fun e => hpath (e ▸ hc)
    · unfold Reference.marked at hc
      split at hc
      · cases hc
      · obtain rfl | hc := List.mem_cons.mp hc
        · decide
        · exact isTargetChar_of_isPlain (hparts.query c hc)
            fun e => hquery (e ▸ hc)

end Destination

namespace Job

variable {j : Job} {events : List Event}

/-- **Where a target begins with two slashes**, two stand in a row in the path
of the address of the job, or in the path of a location. -/
theorem isDoubled_of_mem_hops [Carrier]
    (hf : Request.isForeign (Text.trimBlankStart j.url) = false) :
    ∀ x ∈ j.hops events, ∀ d, Destination.ofUrl x.url = .ok d →
      ['/', '/'] <+: d.target →
      IsDoubled (Address.pathOf (Text.trimBlankStart j.url))
        ∨ ∃ r, Event.reply r ∈ events ∧ r.IsDoubling := by
  refine forall_mem_hops (fun q hq d hd hp => .inl ?_)
    fun {a b r} hmem ha hr hn d hd hp => ?_
  · exact Request.isDoubled_of_prepare hq hf hd hp
  · obtain ⟨s, hready⟩ := exists_ready_of_mem_hops hmem
    obtain ⟨before, -, hbefore, -⟩ := Exchange.of_ready_eq_ok hready
    obtain ⟨written, location, hw, hl, -, hfollow⟩ := Hop.of_next?_eq_some hn
    obtain ⟨-, -, hurl, -⟩ := Hop.of_follow_eq_ok hfollow
    obtain hfront | hdoubled := Redirect.prefix_of_nextUrl
      (isWritten_of_mem_hops hmem) hbefore hurl hd hp
    · exact ha before hbefore hfront
    · exact .inr ⟨r, hr, written, location, hw, hl, hdoubled⟩

/-- **To an address that is taken as it is, nothing is sent.** -/
theorem sent_invoke_of_isForeign [Carrier]
    (hf : Request.isForeign (Text.trimBlankStart j.url) = true)
    (events : List Event) (o : Outlet) :
    (j.invoke (.wire events) o).sent = [] := by
  cases hq : j.request with
  | error f => exact sent_invoke_of_fault hq _ o
  | ok q =>
    have hurl : q.url = Text.trimBlankStart j.url := by
      obtain ⟨-, hurl⟩ | ⟨hforeign, -⟩ := Request.url_of_prepare hq
      · exact hurl
      · rw [hf] at hforeign
        cases hforeign
    rw [← List.head?_eq_none_iff, head?_sent_invoke_wire hq]
    cases hready : Exchange.ready j.timeout (.first q) with
    | error f => rfl
    | ok s =>
      obtain ⟨d, -, hd, -⟩ := Exchange.of_ready_eq_ok hready
      exact absurd hd (Destination.ofUrl_of_isForeign (hurl ▸ hf) d)

end Job

/-- **Nothing gets into the request line.** Every target that is sent is
rooted and consists of characters of targets, whatever the config says and
whatever the locations in the replies. It begins with two slashes only where
two stand in a row in the path of the config's address or of a location. To
an address that is taken as it is, nothing is sent at all. -/
theorem invoke_target_written [Carrier] (c : Config) (events : List Event)
    (o : Outlet) :
    let i := c.job.invoke (.wire events) o
    (Request.isForeign (Text.trimBlankStart c.url) = true → i.sent = [])
      ∧ ∀ s ∈ i.sent, s.destination.target.head? = some '/'
        ∧ (∀ x ∈ s.destination.target, isTargetChar x = true)
        ∧ (['/', '/'] <+: s.destination.target →
          IsDoubled (Address.pathOf (Text.trimBlankStart c.url))
            ∨ ∃ r, Event.reply r ∈ events ∧ r.IsDoubling) := by
  intro i
  have hforeign : Request.isForeign (Text.trimBlankStart c.url) = true →
      i.sent = [] := fun hf => Job.sent_invoke_of_isForeign hf events o
  refine ⟨hforeign, fun s hs => ?_⟩
  have hf : Request.isForeign (Text.trimBlankStart c.job.url) = false :=
    Bool.eq_false_iff.mpr fun h => by
      rw [hforeign h] at hs
      cases hs
  obtain ⟨x, hx, hready⟩ := Job.exists_hop_of_mem_sent hs
  obtain ⟨d, -, hd, -, rfl⟩ := Exchange.of_ready_eq_ok hready
  obtain ⟨hroot, hchars⟩ :=
    Destination.target_of_isWritten (Job.isWritten_of_mem_hops hx) hd
  exact ⟨hroot, hchars, Job.isDoubled_of_mem_hops hf x hx d hd⟩

section Plain

attribute [local instance] Carrier.plain

/-- A config whose path has a line end in it. -/
def brokenConfig : Config :=
  { shortConfig with path := "/a\r\nb".toList }

/-- A reply that sends to a place with a space in it. -/
def spacedReply : Reply :=
  ⟨302, none, [("Location".toList, "/c d".toList)], []⟩

/-- A reply that sends to a path with two slashes in front. -/
def doubledReply : Reply :=
  ⟨302, none, [("Location".toList, "//h//d".toList)], []⟩

/-- A config whose address is of another kind. -/
def foreignConfig : Config :=
  { shortConfig with baseUrl := "ftp://h".toList }

/-- The line end and the space go out as escapes; the two slashes go out as
they are in the location; to the address of another kind nothing goes out. -/
theorem invoke_target_written_escaped :
    let events := [Event.reply spacedReply, .reply doubledReply]
    let i := brokenConfig.job.invoke (.wire events) .buffer
    (∃ s t u, i.sent = [s, t, u]
        ∧ s.destination.target = "/a%0D%0Ab?pretty=true&db=&q=".toList
        ∧ (∀ x ∈ s.destination.target, isTargetChar x = true)
        ∧ t.destination.target = "/c%20d".toList
        ∧ (∀ x ∈ t.destination.target, isTargetChar x = true)
        ∧ u.destination.target = "//d".toList
        ∧ (IsDoubled (Address.pathOf (Text.trimBlankStart brokenConfig.url))
          ∨ ∃ r, Event.reply r ∈ events ∧ r.IsDoubling))
      ∧ Request.isForeign (Text.trimBlankStart foreignConfig.url) = true
      ∧ (foreignConfig.job.invoke (.wire events) .buffer).sent = [] := by
  intro events i
  obtain ⟨-, hwritten⟩ := invoke_target_written brokenConfig events .buffer
  have htargets : i.sent.map (·.destination.target)
      = ["/a%0D%0Ab?pretty=true&db=&q=".toList, "/c%20d".toList,
        "//d".toList] := by
    decide +kernel
  have hforeign :
      Request.isForeign (Text.trimBlankStart foreignConfig.url) = true := by
    decide +kernel
  obtain ⟨hnone, -⟩ := invoke_target_written foreignConfig events .buffer
  refine ⟨?_, hforeign, hnone hforeign⟩
  obtain ⟨s, rest, hs, hsfirst, hrest⟩ := List.map_eq_cons_iff.mp htargets
  obtain ⟨t, rest, rfl, htarget, hrest⟩ := List.map_eq_cons_iff.mp hrest
  obtain ⟨u, rest, rfl, hulast, hrest⟩ := List.map_eq_cons_iff.mp hrest
  rw [List.map_eq_nil_iff.mp hrest] at hs
  rw [show (brokenConfig.job.invoke _ _).sent = [s, t, u] from hs,
    List.forall_mem_cons, List.forall_mem_cons, List.forall_mem_singleton]
    at hwritten
  obtain ⟨⟨-, hschars, -⟩, ⟨-, htchars, -⟩, -, -, hdoubled⟩ := hwritten
  refine ⟨s, t, u, hs, hsfirst, hschars, htarget, htchars, hulast,
    hdoubled ?_⟩
  rw [hulast]
  exact List.prefix_append ['/', '/'] ['d']

/-- **A target may begin with two slashes**: the path of the address is sent
as it is. -/
theorem invoke_target_doubled :
    let c := { shortConfig with path := "//x".toList }
    let i := c.job.invoke (.wire []) .buffer
    i.sent.map (·.destination.target.take 3) = ["//x".toList] := by
  decide +kernel

end Plain

end QueryClient
