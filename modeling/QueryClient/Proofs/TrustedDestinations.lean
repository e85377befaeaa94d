import Mathlib.Data.List.Chain
import QueryClient.Exchange.PlainCarrier
import QueryClient.Proofs.BoundedExchange
import QueryClient.Proofs.WrittenUser

/-!
# Credentials stay where they belong

A server may send a request anywhere, and the credentials of the request must not
go everywhere. From one hop to the next they go along only to the same host, and
there to the same port under the same scheme, or from the usual port of a plain
connection to the usual one of a secure connection
(`Redirect.covers_of_nextAuthorization`). Each hop is compared with the one before
it and never with the first. But what is allowed from hop to hop is allowed all
along: `Destination.Covers` is transitive, so a destination that the credentials
have come to is one that the first destination covers.

Nothing puts credentials in on the way. A location may have a user part of its
own, but nobody looks at it; so once they are left behind they do not come back,
and where the first request had none, none has. All of this is
`invoke_credentials`, together with what the credentials are.
-/

namespace QueryClient

open Url

/-- The two schemes of the web are told apart. -/
theorem Url.eq_of_webScheme {a b : Bool} (h : webScheme a = webScheme b) :
    a = b := by
  revert a b
  decide

/-- One destination **covers** another if credentials for it may go to the other
as well: the host is the same, and the way there is the same, or the usual plain
one has become the usual secure one. -/
structure Destination.Covers (d e : Destination) : Prop where
  /-- The host is the same. -/
  host : e.host = d.host
  /-- So is the way there, unless it has become the usual secure one. -/
  way : e.secure = d.secure ∧ e.port = d.port
    ∨ (d.secure = false ∧ d.port = 80) ∧ e.secure = true ∧ e.port = 443

namespace Destination.Covers

variable {d e f : Destination}

/-- A destination covers itself. -/
theorem refl (d : Destination) : d.Covers d :=
  ⟨rfl, .inl ⟨rfl, rfl⟩⟩

/-- **What is covered by a covered destination is covered.** The way becomes a
secure one at most once. -/
theorem trans (h : d.Covers e) (h' : e.Covers f) : d.Covers f := by
  refine ⟨h'.host.trans h.host, ?_⟩
  obtain ⟨hs, hp⟩ | ⟨hd, hs, hp⟩ := h.way
  · rw [← hs, ← hp]
    exact h'.way
  · obtain ⟨hs', hp'⟩ | ⟨⟨hplain, -⟩, -⟩ := h'.way
    · exact .inr ⟨hd, hs'.trans hs, hp'.trans hp⟩
    · rw [hs] at hplain
      cases hplain

end Destination.Covers

namespace Redirect

/-- Ports that agree under a scheme of the web come to the same port, once the
usual one is filled in. -/
theorem getD_eq_of_portsAgree {secure : Bool} {p q : Option Nat}
    (h : portsAgree (webScheme secure) p q = true) :
    (p.filter (· != 0)).getD (Destination.defaultPort secure)
      = (q.filter (· != 0)).getD (Destination.defaultPort secure) := by
  -- a port that is usual is the one filled in
  have husual : ∀ port : Option Nat,
      (port == none || (webScheme secure == "http".toList && port == some 80)
        || (webScheme secure == "https".toList && port == some 443)) = true →
      (port.filter (· != 0)).getD (Destination.defaultPort secure)
        = Destination.defaultPort secure := by
    intro port hport
    cases secure <;> simp [webScheme] at hport <;>
      obtain rfl | rfl := hport <;> rfl
  unfold portsAgree at h
  dsimp only at h
  rw [Bool.or_eq_true, Bool.and_eq_true, beq_iff_eq] at h
  obtain rfl | ⟨hp, hq⟩ := h
  · rfl
  · rw [husual p hp, husual q hq]

/-- **When credentials go along** from one address to another: the host is the
same, and a plain way with nothing unusual becomes a secure one with nothing
unusual, or scheme and port agree. -/
theorem of_keepsCredentials_eq_ok {old new : Reference}
    (h : keepsCredentials old new = .ok true) :
    Authority.host? old.authority = Authority.host? new.authority
      ∧ ∃ p q, Authority.port? old.authority = .ok p
        ∧ Authority.port? new.authority = .ok q
        ∧ ((old.scheme = "http".toList ∧ (p = none ∨ p = some 80))
            ∧ new.scheme = "https".toList ∧ (q = none ∨ q = some 443)
          ∨ old.scheme = new.scheme ∧ portsAgree old.scheme p q = true) := by
  unfold keepsCredentials at h
  split at h
  · cases h
  rename_i hsame
  obtain ⟨p, hp, h⟩ := bind_eq_ok_iff.mp h
  obtain ⟨q, hq, h⟩ := bind_eq_ok_iff.mp h
  refine ⟨by simpa using hsame, p, q, hp, hq, ?_⟩
  simpa only [Bool.or_eq_true, Bool.and_eq_true, beq_iff_eq] using
    Except.ok.inj h

/-- So they go to a destination that is covered. -/
theorem covers_of_keepsCredentials [Names] {old new : Reference} {d e : Destination}
    (hd : d.IsIn old) (hds : old.scheme = webScheme d.secure) (he : e.IsIn new)
    (hes : new.scheme = webScheme e.secure)
    (h : keepsCredentials old new = .ok true) : d.Covers e := by
  obtain ⟨hsame, p, q, hp, hq, h⟩ := of_keepsCredentials_eq_ok h
  obtain ⟨written, hwritten, hhost⟩ := hd.host
  obtain ⟨written', hwritten', hhost'⟩ := he.host
  obtain ⟨p', hp', hdport⟩ := hd.port
  obtain ⟨q', hq', heport⟩ := he.port
  obtain rfl : p = p' := Except.ok.inj (hp.symm.trans hp')
  obtain rfl : q = q' := Except.ok.inj (hq.symm.trans hq')
  obtain rfl : written = written' :=
    Option.some.inj ((hwritten.symm.trans hsame).trans hwritten')
  refine ⟨Except.ok.inj (hhost'.symm.trans hhost), ?_⟩
  rw [hds, hes] at h
  obtain ⟨⟨hplain, hp⟩, hsecure, hq⟩ | ⟨hscheme, hports⟩ := h
  · right
    have hd : d.secure = false := eq_of_webScheme (b := false) hplain
    have he : e.secure = true := eq_of_webScheme (b := true) hsecure
    rw [hdport, heport, hd, he]
    refine ⟨⟨rfl, ?_⟩, rfl, ?_⟩
    · obtain rfl | rfl := hp <;> rfl
    · obtain rfl | rfl := hq <;> rfl
  · left
    have hsecure : d.secure = e.secure := eq_of_webScheme hscheme
    rw [hdport, heport, ← hsecure]
    exact ⟨rfl, (getD_eq_of_portsAgree hports).symm⟩

/-- **One hop**: credentials that go along are those there were, and they go to
a destination that is covered. -/
theorem covers_of_nextAuthorization [Carrier] {current next : Text} {d e : Destination}
    {authorization : Option Text} {v : Text}
    (hd : Destination.ofUrl current = .ok d) (he : Destination.ofUrl next = .ok e)
    (h : nextAuthorization current next authorization = .ok (some v)) :
    authorization = some v ∧ d.Covers e := by
  obtain ⟨-, old, hold, hds, -, hdin⟩ := Destination.of_ofUrl_eq_ok hd
  obtain ⟨-, new, hnew, hes, -, hein⟩ := Destination.of_ofUrl_eq_ok he
  unfold nextAuthorization at h
  rw [hold, hnew] at h
  obtain ⟨_, ⟨⟩, h⟩ := bind_eq_ok_iff.mp h
  split at h
  · cases h
  obtain ⟨_, ⟨⟩, h⟩ := bind_eq_ok_iff.mp h
  obtain ⟨kept, hkept, h⟩ := bind_eq_ok_iff.mp h
  cases kept with
  | false => cases h
  | true =>
    exact ⟨Except.ok.inj h, covers_of_keepsCredentials hdin hds hein hes hkept⟩

end Redirect

namespace Job

variable {j : Job} {events : List Event} {o : Outlet}

/-- **What holds from one request to the next**, for any two hops of which one
was worked out from the other, holds all along the requests of an
invocation. -/
theorem isChain_sent [Carrier] {R : Sent → Sent → Prop}
    (hstep : ∀ {a b : Hop} {r : Reply} {s t : Sent}, a.next? r = .ok (some b) →
      Exchange.ready j.timeout a = .ok s → Exchange.ready j.timeout b = .ok t →
      R s t) :
    (j.invoke (.wire events) o).sent.IsChain R := by
  have hhops : (j.hops events).IsChain
      fun a b => ∃ r, a.next? r = .ok (some b) := by
    refine List.isChain_iff_getElem.mpr fun n hn => ?_
    obtain ⟨r, -, hnext⟩ := next?_of_getElem?_hops
      (List.getElem?_eq_getElem (Nat.lt_of_succ_lt hn)) (List.getElem?_eq_getElem hn)
    exact ⟨r, hnext⟩
  -- the same chain, seen through what is ready to be sent
  have hready : ((j.hops events).map (Exchange.ready j.timeout)).IsChain
      fun x y => ∀ s t, x = .ok s → y = .ok t → R s t :=
    (List.isChain_map _).mpr (hhops.imp fun _ _ ⟨_, hn⟩ _ _ => hstep hn)
  rw [map_ready_hops j events o, List.isChain_map] at hready
  exact hready.imp fun s t h => h s t rfl rfl

end Job

/-- Credentials **pass** from one request to another: those of the second are
those of the first, and go to a destination that is covered. -/
def Sent.PassesTo (s t : Sent) : Prop :=
  ∀ v, t.authorization = some v →
    s.authorization = some v ∧ s.destination.Covers t.destination

/-- Credentials that pass twice pass. -/
instance Sent.trans_passesTo : Trans PassesTo PassesTo PassesTo where
  trans hst htu v hv :=
    have ⟨ht, hcovers'⟩ := htu v hv
    have ⟨hs, hcovers⟩ := hst v ht
    ⟨hs, hcovers.trans hcovers'⟩

/-- **Credentials pass along all requests** of an invocation, from each to every
later one. -/
theorem Job.pairwise_sent [Carrier] (j : Job) (events : List Event) (o : Outlet) :
    (j.invoke (.wire events) o).sent.Pairwise Sent.PassesTo := by
  refine (Job.isChain_sent fun {a b r s t} hn hs ht v hv => ?_).pairwise
  obtain ⟨d, _, hd, -, rfl⟩ := Exchange.of_ready_eq_ok hs
  obtain ⟨e, _, he, -, rfl⟩ := Exchange.of_ready_eq_ok ht
  obtain ⟨_, _, -, -, -, hfollow⟩ := Hop.of_next?_eq_some hn
  obtain ⟨-, -, -, hnext⟩ := Hop.of_follow_eq_ok hfollow
  change b.authorization = some v at hv
  rw [hv] at hnext
  exact Redirect.covers_of_nextAuthorization hd he hnext

/-- **Where credentials come from**: those of any request are those of the first,
whose destination covers the one they go to. -/
theorem Job.exists_first_of_authorization [Carrier] {j : Job} {events : List Event}
    {o : Outlet} {t : Sent} {v : Text}
    (ht : t ∈ (j.invoke (.wire events) o).sent) (hv : t.authorization = some v) :
    ∃ s, (j.invoke (.wire events) o).sent.head? = some s
      ∧ s.authorization = some v ∧ s.destination.Covers t.destination := by
  have hpasses := j.pairwise_sent events o
  cases hsent : (j.invoke (.wire events) o).sent with
  | nil =>
    rw [hsent] at ht
    cases ht
  | cons s rest =>
    rw [hsent] at ht hpasses
    obtain rfl | ht := List.mem_cons.mp ht
    · exact ⟨t, rfl, hv, .refl _⟩
    · exact ⟨s, rfl, (List.pairwise_cons.mp hpasses).1 t ht v hv⟩

/-- The credentials of the first request are those that the address of the job is
written with. -/
theorem Job.authorization_of_head?_sent [Carrier] {j : Job} {events : List Event}
    {o : Outlet} {s : Sent}
    (hs : (j.invoke (.wire events) o).sent.head? = some s) :
    (s.authorization = none ↔ Request.writtenCredentials? j.url = none)
      ∧ ∀ v, s.authorization = some v → ∃ user password,
        Request.writtenCredentials? j.url = some (user, password)
          ∧ Request.basic user password = .ok v := by
  cases hq : j.request with
  | error f =>
    rw [Job.sent_invoke_of_fault hq] at hs
    cases hs
  | ok q =>
    rw [Job.head?_sent_invoke_wire hq] at hs
    obtain ⟨d, _, hd, -, rfl⟩ := Exchange.of_ready_eq_ok (eq_ok_of_toOption hs)
    exact Request.authorization_of_prepare hq hd

/-- An address without a user part is written with no credentials. -/
theorem Request.writtenCredentials?_of_userOf [Names] {url : Text}
    (h : Address.userOf (Text.trimBlankStart url) = []) :
    writtenCredentials? url = none := by
  unfold writtenCredentials?
  dsimp only
  rw [h]
  cases (usable (Text.trimBlankStart url)).toOption <;> rfl

/-- **Credentials stay where they belong.** Whatever the replies say and wherever
they send, the first request goes out with credentials exactly if the address of
the config is written with some. A request that goes out with any has those of the
first, and goes to a destination that the first one covers; they are the user and
the password of the config's address. After a request without credentials there
are none. A config whose address has no user part sends none. -/
theorem invoke_credentials [Carrier] (c : Config) (events : List Event) (o : Outlet) :
    let i := c.job.invoke (.wire events) o
    (∀ s ∈ i.sent.head?,
        s.authorization = none ↔ Request.writtenCredentials? c.url = none)
      ∧ (∀ t ∈ i.sent, ∀ v, t.authorization = some v →
        (∃ s, i.sent.head? = some s ∧ s.authorization = some v
          ∧ s.destination.Covers t.destination)
        ∧ ∃ user password,
          Request.writtenCredentials? c.url = some (user, password)
            ∧ Request.basic user password = .ok v)
      ∧ i.sent.Pairwise
        (fun s t => s.authorization = none → t.authorization = none)
      ∧ (Address.userOf (Text.trimBlankStart c.url) = [] →
        ∀ t ∈ i.sent, t.authorization = none) := by
  intro i
  have hwritten : ∀ t ∈ i.sent, ∀ v, t.authorization = some v →
      (∃ s, i.sent.head? = some s ∧ s.authorization = some v
        ∧ s.destination.Covers t.destination)
      ∧ ∃ user password,
        Request.writtenCredentials? c.url = some (user, password)
          ∧ Request.basic user password = .ok v := by
    intro t ht v hv
    obtain ⟨s, hs, hsv, hcovers⟩ := Job.exists_first_of_authorization ht hv
    exact ⟨⟨s, hs, hsv, hcovers⟩, (Job.authorization_of_head?_sent hs).2 v hsv⟩
  refine ⟨fun s hs => (Job.authorization_of_head?_sent hs).1, hwritten, ?_, ?_⟩
  · refine (c.job.pairwise_sent events o).imp fun {s t} hpasses hnone => ?_
    refine Option.eq_none_iff_forall_ne_some.mpr fun v hv => ?_
    obtain ⟨hs, -⟩ := hpasses v hv
    rw [hnone] at hs
    cases hs
  · intro huser t ht
    refine Option.eq_none_iff_forall_ne_some.mpr fun v hv => ?_
    obtain ⟨-, user, password, hfound, -⟩ := hwritten t ht v hv
    rw [Request.writtenCredentials?_of_userOf huser] at hfound
    cases hfound

section Plain

attribute [local instance] Carrier.plain

/-- A config whose address has a user and a password, with an escape. -/
def userConfig : Config :=
  { shortConfig with baseUrl := "http://u%41:p@h".toList }

/-- A reply that sends to an address. -/
def sendingReply (location : String) : Reply :=
  ⟨302, none, [("Location".toList, location.toList)], []⟩

/-- The credentials go along to the secure server of the same name, which the
first destination covers, but not to another server; nor do they come back on the
way back, whatever user parts the locations have. Without a user part in the
config's address nothing is sent that has any. -/
theorem invoke_credentials_elsewhere :
    let events := [Event.reply (sendingReply "https://H/x"),
      .reply (sendingReply "//v:w@other/"), .reply (sendingReply "http://h/")]
    let v := "Basic dUE6cA==".toList
    let i := userConfig.job.invoke (.wire events) .buffer
    i.sent.map (·.authorization) = [some v, some v, none, none]
      ∧ (∃ s t, i.sent.head? = some s ∧ i.sent[1]? = some t
        ∧ s.destination.Covers t.destination)
      ∧ (∃ user password,
        Request.writtenCredentials? userConfig.url = some (user, password)
          ∧ Request.basic user password = .ok v)
      ∧ Address.userOf (Text.trimBlankStart shortConfig.url) = []
      ∧ ∀ t ∈ (shortConfig.job.invoke (.wire events) .buffer).sent,
        t.authorization = none := by
  intro events v i
  have hsent : i.sent.map (·.authorization) = [some v, some v, none, none] := by
    decide +kernel
  obtain ⟨-, hwritten, -⟩ := invoke_credentials userConfig events .buffer
  obtain ⟨t, ht, hv⟩ : ∃ t, i.sent[1]? = some t ∧ t.authorization = some v := by
    have hsecond := congrArg (·[1]?) hsent
    rw [List.getElem?_map] at hsecond
    exact Option.map_eq_some_iff.mp hsecond
  obtain ⟨⟨s, hs, -, hcovers⟩, hfound⟩ :=
    hwritten t (List.mem_of_getElem? ht) v hv
  have huser : Address.userOf (Text.trimBlankStart shortConfig.url) = [] := by
    decide +kernel
  obtain ⟨-, -, -, hnone⟩ := invoke_credentials shortConfig events .buffer
  exact ⟨hsent, ⟨s, t, hs, ht, hcovers⟩, hfound, huser, hnone huser⟩

end Plain

end QueryClient
