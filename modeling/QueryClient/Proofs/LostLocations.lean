import QueryClient.Proofs.DoubledTargets
import QueryClient.Proofs.HopOutcomes

/-!
# Locations that lead nowhere

A reply may ask for a place that cannot be worked out. There are few ways for that to
happen, and all of them can be seen from what is written: the location is not in
Latin-1, or the octets that it stands for are not in UTF-8, or an authority is
refused. It may be that of the location itself, or that of the address which is
written for the location: requoted, with the last fragment behind it, where an
escape may have become a character, and where an authority may be found that was
not one before. Credentials add one way more. Whether they go along is decided by
the port, and that may be none.

`Reply.Misleads` says this of a reply and of the hop that it answers, and
`Hop.next?_eq_error_iff` that it is the whole of it, once something was sent to the
hop. In particular the address that is joined from two never fails to be divided
again (`Url.exists_split_of_join`).
-/

namespace QueryClient

open Url

namespace Url

namespace Reference

variable {fallback t : Text} {r : Reference} {g : AuthorityFault}

/-- The **authority** in a text that is divided into parts, as it is written. -/
def authorityOf (t : Text) : Text :=
  (cutAuthority (cutScheme [] (clean t)).2).1

/-- **An address has parts unless its authority is refused.** -/
theorem split_eq_error_iff :
    split fallback t = .error g
      ↔ Authority.check (authorityOf t) = .error g := by
  unfold split authorityOf
  dsimp only
  rw [snd_cutScheme]
  cases Authority.check (cutAuthority (cutScheme [] (clean t)).2).1 with
  | error f => simp
  | ok u => simp

/-- However it is divided. -/
theorem parse_eq_error_iff :
    parse fallback t = .error g
      ↔ Authority.check (authorityOf t) = .error g := by
  have hsplit : split fallback t = .error g ↔ _ := split_eq_error_iff
  rw [← hsplit, parse]
  cases split fallback t <;> simp

theorem exists_split_of_check (h : Authority.check (authorityOf t) = .ok ()) :
    ∃ r, split fallback t = .ok r := by
  cases hs : split fallback t with
  | ok r => exact ⟨r, rfl⟩
  | error g =>
    rw [split_eq_error_iff.mp hs] at h
    cases h

/-- The authority of an address that has parts was checked. -/
theorem check_of_split (h : split fallback t = .ok r) :
    Authority.check r.authority = .ok () := by
  unfold split at h
  dsimp only at h
  obtain ⟨_, hcheck, h⟩ := bind_eq_ok_iff.mp h
  cases h
  exact hcheck

/-- An address that was put together from an authority that was checked has
parts. -/
theorem exists_split_print (hs : IsScheme r.scheme) (ha : r.authority ≠ [])
    (hauthority : ∀ c ∈ r.authority, endsAuthority c = false)
    (hpath : ∀ c ∈ r.fullPath, endsPath c = false)
    (hw : IsWritten r.print) (hc : Authority.check r.authority = .ok ()) :
    ∃ s, split fallback r.print = .ok s := by
  rw [print_of_authority hs.ne_nil ha] at hw ⊢
  have hrooted : ∀ c ∈ (Address.rootedPath r.fullPath).head?,
      endsAuthority c = true := by
    intro c hc
    rw [Address.head?_rootedPath _ c hc]
    rfl
  rw [split_append fallback hs hauthority hrooted
    (Address.endsPath_of_mem_rootedPath hpath)
    (endsPath_of_head?_marked r.query r.fragment)
    fun c hc => hw.lt_toNat c (by simp [hc]), hc]
  exact ⟨_, rfl⟩

end Reference

/-! ## Addresses meant from others -/

variable {base t url : Text} {g : AuthorityFault}

/-- **What an address means from another cannot be said exactly if** its own
authority is refused, once the other has parts. -/
theorem join_eq_error_iff {b : Reference} (hne : base ≠ [])
    (hb : Reference.parse [] base = .ok b) :
    join base t = .error g
      ↔ Authority.check (Reference.authorityOf t) = .error g := by
  have hbase : base.isEmpty = false := List.isEmpty_eq_false_iff.mpr hne
  unfold join
  rw [hbase, if_neg Bool.false_ne_true]
  by_cases ht : t = []
  · subst ht
    exact iff_of_false nofun nofun
  have hparse : Reference.parse b.scheme t = .error g ↔ _ :=
    Reference.parse_eq_error_iff
  rw [if_neg (by simpa using ht), hb, ok_bind, ← hparse]
  cases Reference.parse b.scheme t with
  | error f => simp
  | ok r =>
    rw [ok_bind]
    refine iff_of_false ?_ nofun
    repeat' split
    all_goals exact nofun

/-- **An address that is meant from one of the web has parts**, if it is there at
all. -/
theorem exists_split_of_join {secure : Bool} {c : Reference}
    (hw : IsWritten base) (hc : Reference.split [] base = .ok c)
    (hcs : c.scheme = webScheme secure) (hca : c.authority ≠ [])
    (ht : IsWritten t) (h : join base t = .ok url) :
    ∃ s, Reference.split [] url = .ok s := by
  have hurl := IsWithin.join isClosed_isPlain hw ht h
  obtain ⟨parts, hparts⟩ : ∃ parts, Reference.parse [] base = .ok parts := by
    rw [Reference.parse, hc]
    exact ⟨_, rfl⟩
  have hne : base ≠ [] := by
    rintro rfl
    cases hc
    exact hca rfl
  obtain rfl | rfl | ⟨b, r, hb, hr, hrb, h⟩ := of_join_eq_ok h
  · -- it is said as it is meant, and was looked at for that
    refine Reference.exists_split_of_check ?_
    cases hcheck : Authority.check (Reference.authorityOf url) with
    | ok u => rfl
    | error f =>
      rw [(join_eq_error_iff hne hparts).mpr hcheck] at h
      cases h
  · exact ⟨c, hc⟩
  obtain ⟨c', hc', hbs, hba, hbpath⟩ := Reference.of_parse_eq_ok hb
  obtain rfl : c = c' := Except.ok.inj (hc.symm.trans hc')
  obtain ⟨w, hsplit, -, hwa, hrpath⟩ := Reference.of_parse_eq_ok hr
  obtain ⟨-, hauthority, hcpath, -, -⟩ := Reference.of_split_eq_ok hc
  obtain ⟨-, hwauthority, hwpath, -, -⟩ := Reference.of_split_eq_ok hsplit
  have hrs : r.scheme = webScheme secure := (hrb.trans hbs.symm).trans hcs
  have hscheme : IsScheme r.scheme := hrs ▸ (isScheme_webScheme secure).1
  have hmeant : b.meantAuthority r = c.authority := by
    rw [Reference.meantAuthority, hrs, hasAuthority_webScheme, if_pos rfl, hba]
  rw [hmeant] at h
  have hcheck : Authority.check c.authority = .ok () := Reference.check_of_split hc
  have hbwithin : ∀ d ∈ b.fullPath, endsPath d = false := fun d hd =>
    hcpath d (hbpath.subset hd)
  have hrwithin : ∀ d ∈ r.fullPath, endsPath d = false := fun d hd =>
    hwpath d (hrpath.subset hd)
  obtain ⟨hra, rfl⟩ | rfl | rfl := h
  · exact Reference.exists_split_print hscheme hra (hwa ▸ hwauthority) hrwithin
      hurl (hwa ▸ Reference.check_of_split hsplit)
  · exact Reference.exists_split_print (r := { r with
      authority := c.authority, path := b.path, params := b.params, query := _ })
      hscheme hca hauthority hbwithin hurl hcheck
  · exact Reference.exists_split_print (r := { r with
      authority := c.authority, path := joinPath b.path r.path })
      hscheme hca hauthority (endsPath_of_mem_joined hbwithin hrwithin) hurl
      hcheck

end Url

/-! ## Locations -/

/-- The address that is **written** for a location with such parts: requoted, and
with the last fragment seen if it has none itself. -/
def Redirect.written (fragment : Text) (r : Reference) : Text :=
  requote { r with
    fragment := if r.fragment.isEmpty then fragment else r.fragment }.print

/-- A hop **loses** a location for one of three reasons. -/
inductive Hop.Loses (h : Hop) (location : Text) : AuthorityFault → Prop
  /-- The authority of the location is refused. -/
  | stated {whole : Text} {g : AuthorityFault}
    (hwhole : Redirect.withScheme h.url location = .ok whole)
    (hg : Authority.check (Reference.authorityOf whole) = .error g) :
    Loses h location g
  /-- It is not, but that of the address that is written for the location is. -/
  | written {whole : Text} {r : Reference} {g : AuthorityFault}
    (hwhole : Redirect.withScheme h.url location = .ok whole)
    (hr : Reference.parse [] whole = .ok r)
    (hg : Authority.check
      (Reference.authorityOf (Redirect.written h.fragment r)) = .error g) :
    Loses h location g
  /-- There are credentials, the address is one of the same host, and its port is
  none. -/
  | port {url seen : Text} {old new : Reference} {g : AuthorityFault}
    (hurl : Redirect.nextUrl h.url h.fragment location = .ok (url, seen))
    (hsome : h.authorization ≠ none)
    (hold : Reference.split [] h.url = .ok old)
    (hnew : Reference.split [] url = .ok new)
    (hhost : Authority.host? old.authority = Authority.host? new.authority)
    (hg : Authority.port? new.authority = .error g) :
    Loses h location g

/-- A reply **misleads** a hop if it has a location, and that is no text, or is
lost. -/
inductive Reply.Misleads (r : Reply) (h : Hop) : RedirectFault → Prop
  /-- The location has a character that no header has. -/
  | characters {stated : Text} {f : Latin1.Fault}
    (hl : r.location? = some stated)
    (hf : Latin1.encode stated = .error f) :
    Misleads r h (.characters f)
  /-- The octets of the location are no text. -/
  | octets {stated : Text} {octets : List UInt8} {f : Utf8.Fault}
    (hl : r.location? = some stated)
    (ho : Latin1.encode stated = .ok octets)
    (hf : Utf8.decode octets = .error f) :
    Misleads r h (.octets f)
  /-- They are, but the text is a location that is lost. -/
  | lost {stated location : Text} {octets : List UInt8} {g : AuthorityFault}
    (hl : r.location? = some stated)
    (ho : Latin1.encode stated = .ok octets)
    (ht : Utf8.decode octets = .ok location) (hne : location ≠ [])
    (hg : h.Loses location g) :
    Misleads r h (.authority g)

namespace Redirect

variable {current fragment location whole url seen : Text} {c : Reference}
  {g : AuthorityFault}

/-- A location cannot be read if it has no octets, or they stand for no text. -/
theorem readLocation_eq_error_iff {stated : Text} {f : RedirectFault} :
    readLocation stated = .error f
      ↔ (∃ g, Latin1.encode stated = .error g ∧ .characters g = f)
        ∨ ∃ octets, Latin1.encode stated = .ok octets
          ∧ ∃ g, Utf8.decode octets = .error g ∧ .octets g = f := by
  rw [readLocation, bind_eq_error_iff]
  simp only [mapError_eq_ok_iff, mapError_eq_error_iff]

/-- A location can be given the scheme of an address that has parts. -/
theorem exists_withScheme_of_split (hc : Reference.split [] current = .ok c)
    (location : Text) : ∃ whole, withScheme current location = .ok whole := by
  unfold withScheme
  rw [hc]
  split
  · exact ⟨_, rfl⟩
  · exact ⟨_, rfl⟩

/-- A location with an authority means the address that is written for it. -/
theorem nextUrl_of_authority {r : Reference}
    (hwhole : withScheme current location = .ok whole)
    (hr : Reference.parse [] whole = .ok r) (ha : r.authority ≠ []) :
    nextUrl current fragment location
      = .ok (written fragment r,
        if r.fragment.isEmpty then fragment else r.fragment) := by
  unfold nextUrl
  rw [hwhole, ok_bind, hr, ok_bind]
  dsimp only
  rw [if_neg (by simpa using ha)]
  rfl

/-- **The new address is not there exactly if** an authority is refused: that of
the location, or, where that has none, that of the address that is written for it. -/
theorem nextUrl_eq_error_iff (hc : Reference.split [] current = .ok c)
    (hca : c.authority ≠ [])
    (hwhole : withScheme current location = .ok whole) :
    nextUrl current fragment location = .error g
      ↔ Authority.check (Reference.authorityOf whole) = .error g
        ∨ ∃ r, Reference.parse [] whole = .ok r ∧ r.authority = []
          ∧ Authority.check (Reference.authorityOf (written fragment r))
            = .error g := by
  obtain ⟨parts, hparts⟩ : ∃ parts, Reference.parse [] current = .ok parts := by
    rw [Reference.parse, hc]
    exact ⟨_, rfl⟩
  have hne : current ≠ [] := by
    rintro rfl
    cases hc
    exact hca rfl
  have hparse : Reference.parse [] whole = .error g ↔ _ :=
    Reference.parse_eq_error_iff
  rw [nextUrl, hwhole, ok_bind, ← hparse, bind_eq_error_iff]
  refine or_congr_right (exists_congr fun r => and_congr_right fun hr => ?_)
  dsimp only
  by_cases ha : r.authority = []
  · rw [if_pos (by simpa using ha), bind_eq_error_iff,
      join_eq_error_iff hne hparts]
    simp [written, ha]
  · rw [if_neg (by simpa using ha)]
    simp [ha]

/-- **The new address has no parts exactly if** it is the one that is written for
the location, and its authority is refused. -/
theorem split_nextUrl_eq_error_iff {secure : Bool} (hw : IsWritten current)
    (hc : Reference.split [] current = .ok c)
    (hcs : c.scheme = webScheme secure) (hca : c.authority ≠ [])
    (hwhole : withScheme current location = .ok whole)
    (hurl : nextUrl current fragment location = .ok (url, seen)) :
    Reference.split [] url = .error g
      ↔ ∃ r, Reference.parse [] whole = .ok r ∧ r.authority ≠ []
        ∧ Authority.check (Reference.authorityOf (written fragment r))
          = .error g := by
  have hnext := hurl
  unfold nextUrl at hnext
  rw [hwhole, ok_bind] at hnext
  obtain ⟨r, hr, hnext⟩ := bind_eq_ok_iff.mp hnext
  simp only [hr, Except.ok.injEq, exists_eq_left']
  by_cases ha : r.authority = []
  · dsimp only at hnext
    rw [ha, List.isEmpty_nil, if_pos rfl] at hnext
    obtain ⟨joined, hjoin, hnext⟩ := bind_eq_ok_iff.mp hnext
    cases hnext
    obtain ⟨s, hs⟩ := exists_split_of_join hw hc hcs hca (.requote _) hjoin
    rw [hs]
    exact iff_of_false nofun fun h => h.1 ha
  · cases hurl.symm.trans (nextUrl_of_authority hwhole hr ha)
    rw [Reference.split_eq_error_iff]
    exact (and_iff_right ha).symm

/-- **Whether credentials go along cannot be said exactly if** the hosts are the
same, and the new port is none. -/
theorem keepsCredentials_eq_error_iff {old new : Reference} {port : Option Nat}
    (hport : Authority.port? old.authority = .ok port) :
    keepsCredentials old new = .error g
      ↔ Authority.host? old.authority = Authority.host? new.authority
        ∧ Authority.port? new.authority = .error g := by
  unfold keepsCredentials
  by_cases hh : Authority.host? old.authority = Authority.host? new.authority
  · rw [if_neg (by simpa using hh), hport]
    cases Authority.port? new.authority with
    | error f => simp [hh]
    | ok q => simp
  · rw [if_pos (by simpa using hh)]
    exact iff_of_false nofun fun h => hh h.1

/-- **Which credentials go along cannot be said exactly if** the new address has no
parts; or if there are any, the hosts are the same, and the new port is none. -/
theorem nextAuthorization_eq_error_iff {old : Reference} {port : Option Nat}
    {authorization : Option Text}
    (hold : Reference.split [] current = .ok old)
    (hport : Authority.port? old.authority = .ok port) :
    nextAuthorization current url authorization = .error g
      ↔ Reference.split [] url = .error g
        ∨ authorization ≠ none ∧ ∃ new, Reference.split [] url = .ok new
          ∧ Authority.host? old.authority = Authority.host? new.authority
          ∧ Authority.port? new.authority = .error g := by
  unfold nextAuthorization
  rw [bind_eq_error_iff]
  refine or_congr_right ?_
  cases authorization with
  | none =>
    refine iff_of_false ?_ fun h => h.1 rfl
    rintro ⟨new, -, ⟨⟩⟩
  | some credentials =>
    refine Iff.trans (exists_congr fun new => and_congr_right fun _ => ?_)
      (and_iff_right (Option.some_ne_none credentials)).symm
    rw [Option.isNone_some, if_neg Bool.false_ne_true, hold, ok_bind,
      bind_eq_error_iff, ← keepsCredentials_eq_error_iff hport]
    refine or_iff_left ?_
    rintro ⟨kept, -, hk⟩
    split at hk <;> cases hk

end Redirect

namespace Hop

variable {h : Hop} {r : Reply} {location : Text} {d : Destination}

/-- **A location cannot be followed exactly if the hop loses it**, once something
was sent to the hop. -/
theorem follow_eq_error_iff [Names] (hw : IsWritten h.url)
    (hd : Destination.ofUrl h.url = .ok d) {status : Nat} {g : AuthorityFault} :
    h.follow status location = .error g ↔ h.Loses location g := by
  obtain ⟨-, c, hc, hcs, hca, hin⟩ := Destination.of_ofUrl_eq_ok hd
  obtain ⟨port, hport, -⟩ := hin.port
  obtain ⟨whole, hwhole⟩ := Redirect.exists_withScheme_of_split hc location
  unfold follow
  rw [bind_eq_error_iff]
  constructor
  · rintro (hn | ⟨⟨url, seen⟩, hurl, hn⟩)
    · obtain hg | ⟨r, hr, -, hg⟩ :=
        (Redirect.nextUrl_eq_error_iff hc hca hwhole).mp hn
      · exact .stated hwhole hg
      · exact .written hwhole hr hg
    obtain hn | ⟨authorization, -, ⟨⟩⟩ := bind_eq_error_iff.mp hn
    obtain hs | ⟨hsome, new, hnew, hhost, hg⟩ :=
      (Redirect.nextAuthorization_eq_error_iff hc hport).mp hn
    · obtain ⟨r, hr, -, hg⟩ := (Redirect.split_nextUrl_eq_error_iff hw hc hcs
        hca hwhole hurl).mp hs
      exact .written hwhole hr hg
    · exact .port hurl hsome hc hnew hhost hg
  · intro hl
    cases hl with
    | stated hwhole' hg =>
      cases hwhole.symm.trans hwhole'
      exact .inl ((Redirect.nextUrl_eq_error_iff hc hca hwhole).mpr (.inl hg))
    | @written _ r _ hwhole' hr hg =>
      cases hwhole.symm.trans hwhole'
      by_cases ha : r.authority = []
      · exact .inl ((Redirect.nextUrl_eq_error_iff hc hca hwhole).mpr
          (.inr ⟨r, hr, ha, hg⟩))
      have hs : Reference.split [] (Redirect.written h.fragment r) = .error g :=
        Reference.split_eq_error_iff.mpr hg
      exact .inr ⟨_, Redirect.nextUrl_of_authority hwhole hr ha,
        bind_eq_error_iff.mpr (.inl
          ((Redirect.nextAuthorization_eq_error_iff hc hport).mpr (.inl hs)))⟩
    | @port url seen old new _ hurl hsome hold hnew hhost hg =>
      cases hc.symm.trans hold
      exact .inr ⟨(url, seen), hurl, bind_eq_error_iff.mpr (.inl
        ((Redirect.nextAuthorization_eq_error_iff hc hport).mpr
          (.inr ⟨hsome, new, hnew, hhost, hg⟩)))⟩

/-- **The next hop cannot be worked out exactly if the reply misleads**, once
something was sent to the present one. -/
theorem next?_eq_error_iff [Names] (hw : IsWritten h.url)
    (hd : Destination.ofUrl h.url = .ok d) {f : RedirectFault} :
    h.next? r = .error f ↔ r.Misleads h f := by
  unfold next?
  cases hl : r.location? with
  | none =>
    refine iff_of_false nofun fun hm => ?_
    cases hm with
    | characters hl' | octets hl' | lost hl' => cases hl.symm.trans hl'
  | some stated =>
    dsimp only
    rw [bind_eq_error_iff]
    constructor
    · rintro (hn | ⟨location, hread, hn⟩)
      · obtain ⟨f, hf, rfl⟩ | ⟨octets, ho, f, hf, rfl⟩ :=
          Redirect.readLocation_eq_error_iff.mp hn
        · exact .characters hl hf
        · exact .octets hl ho hf
      · obtain ⟨octets, ho, ht⟩ := Redirect.readLocation_eq_ok_iff.mp hread
        split at hn
        · cases hn
        rename_i hne
        obtain hn | ⟨next, -, ⟨⟩⟩ := bind_eq_error_iff.mp hn
        obtain ⟨g, hg, rfl⟩ := mapError_eq_error_iff.mp hn
        exact .lost hl ho ht (by simpa using hne)
          ((follow_eq_error_iff hw hd).mp hg)
    · intro hm
      cases hm with
      | characters hl' hf =>
        cases hl.symm.trans hl'
        exact .inl (Redirect.readLocation_eq_error_iff.mpr
          (.inl ⟨_, hf, rfl⟩))
      | octets hl' ho hf =>
        cases hl.symm.trans hl'
        exact .inl (Redirect.readLocation_eq_error_iff.mpr
          (.inr ⟨_, ho, _, hf, rfl⟩))
      | @lost _ location _ _ hl' ho ht hne hg =>
        cases hl.symm.trans hl'
        refine .inr ⟨location,
          Redirect.readLocation_eq_ok_iff.mpr ⟨_, ho, ht⟩, ?_⟩
        rw [if_neg (by simpa using hne), (follow_eq_error_iff hw hd).mpr hg]
        rfl

end Hop
end QueryClient
