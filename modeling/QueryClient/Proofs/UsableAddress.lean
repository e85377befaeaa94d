import QueryClient.Proofs.LooseValues
import QueryClient.Proofs.WebAddress

/-!
# Usable addresses

What a text says is put into a request only if it is a usable address. Such
an address may be of any scheme that begins like one of the web, and its
parts need not be in a normal form: a host may have a zone, and a user and a
path may be as somebody wrote them. What can be relied on all the same is
`Request.IsUsable`. The parts are where a reader will look for them: nothing
in the authority ends it, nothing in the path ends that, and nothing in the
query begins a fragment.
-/

namespace QueryClient

namespace Url

/-- An authority is ended by a slash or by what ends a path. -/
theorem Reference.endsAuthority_iff {c : Char} :
    endsAuthority c = true ↔ c = '/' ∨ endsPath c = true := by
  rw [endsAuthority, Bool.or_assoc, Bool.or_eq_true, beq_iff_eq]
  rfl

/-- Unreserved characters end no authority. -/
theorem Reference.endsAuthority_of_isUnreserved {c : Char}
    (h : isUnreserved c = true) : endsAuthority c = false := by
  refine Bool.eq_false_iff.mpr fun he => ?_
  obtain rfl | he := endsAuthority_iff.mp he
  · exact absurd h (by decide)
  · rw [endsPath_of_isUnreserved h] at he
    cases he

/-- What does not end an authority does not end a path. -/
theorem Reference.endsPath_of_endsAuthority {c : Char}
    (h : endsAuthority c = false) : endsPath c = false :=
  Bool.eq_false_iff.mpr fun he => by
    rw [endsAuthority_iff.mpr (.inr he)] at h
    cases h

/-! ## Hosts -/

/-- A label in its normal form has unreserved characters that the label had
not, and no others. -/
theorem mem_normalLabel [Names] {label out : Text} (h : normalLabel label = .ok out)
    {c : Char} (hc : c ∈ out) : c ∈ label ∨ isUnreserved c = true := by
  unfold normalLabel at h
  split at h
  · cases h
    obtain hc | hc := mem_upperEscapes hc
    · exact mem_lowerAscii hc
    · exact .inr hc
  · cases he : Names.label? label with
    | none =>
      rw [he] at h
      cases h
    | some e =>
      rw [he] at h
      cases h
      exact .inr ((Names.travels_label he).unreserved c hc)

/-- **What a host in its normal form has that the host had not**: unreserved
characters, percent signs and brackets. -/
theorem mem_normalHost [Names] {host out : Text} (h : normalHost host = .ok out)
    {c : Char} (hc : c ∈ out) :
    c ∈ host ∨ isUnreserved c = true ∨ c ∈ ['%', '[', ']'] := by
  unfold normalHost at h
  split at h
  · rename_i address zone hb
    dsimp only at h
    split at h
    · cases h
    cases h
    rw [List.mem_append, List.mem_append, List.mem_append,
      List.mem_singleton, List.mem_singleton] at hc
    obtain ((rfl | hc) | hc) | rfl := hc
    · exact .inr (.inr (by decide))
    · exact (mem_lowerAscii hc).imp ((of_bracketed?_eq_some hb).2 c) .inl
    · cases zone with
      | none => cases hc
      | some zone =>
        obtain rfl | hc := List.mem_cons.mp hc
        · exact .inr (.inr (by decide))
        obtain rfl | hc := mem_encodeComponent (fun _ hu => hu) hc
        · exact .inr (.inr (by decide))
        · exact .inr (.inl hc)
    · exact .inr (.inr (by decide))
  · split at h
    · cases h
      exact .inl hc
    split at h
    · cases h
    obtain ⟨labels, hlabels, h⟩ := bind_eq_ok_iff.mp h
    cases h
    obtain hc | ⟨part, hp, hc⟩ := Text.mem_joinFields hc
    · rw [List.mem_singleton.mp hc]
      exact .inr (.inl (by decide))
    obtain ⟨label, hl, hpart⟩ := exists_of_mem_of_mapM hlabels hp
    obtain hc | hc := mem_normalLabel hpart hc
    · exact (mem_readEscapes (Text.mem_of_mem_fields hl hc)).imp_right .inl
    · exact .inr (.inl hc)

namespace Address

/-- **What a checked host has that the text had not** that it was cut off from:
unreserved characters, percent signs and brackets. -/
theorem mem_checkedHost [Names] {t host out : Text} {port : Option Text} {normal : Bool}
    (hcut : cutPort? t = some (host, port))
    (h : checkedHost normal host = .ok out) {c : Char} (hc : c ∈ out) :
    c ∈ t ∨ isUnreserved c = true ∨ c ∈ ['%', '[', ']'] := by
  have hhost : ∀ c ∈ host, c ∈ t ∨ isUnreserved c = true ∨ c ∈ ['%', '[', ']'] :=
    fun c hc => ((of_cutPort?_eq_some hcut).2 c hc).imp_right fun he => by simp [he]
  unfold checkedHost at h
  obtain ⟨-, -, h⟩ := bind_eq_ok_iff.mp h
  split at h
  · obtain hc | hc := mem_normalHost h hc
    · exact hhost c hc
    · exact .inr hc
  · cases h
    exact hhost c hc

/-- So nothing in it ends an authority, if nothing in that text does. -/
theorem endsAuthority_of_mem_checkedHost [Names] {t host out : Text}
    {port : Option Text} {normal : Bool} (hcut : cutPort? t = some (host, port))
    (hwithin : ∀ c ∈ t, Reference.endsAuthority c = false)
    (h : checkedHost normal host = .ok out) :
    ∀ c ∈ out, Reference.endsAuthority c = false := by
  intro c hc
  obtain hc | hc | hc := mem_checkedHost hcut h hc
  · exact hwithin c hc
  · exact Reference.endsAuthority_of_isUnreserved hc
  · have hall : ['%', '[', ']'].all (!Reference.endsAuthority ·) = true := by
      decide
    rw [← Bool.not_eq_true']
    exact List.all_eq_true.mp hall c hc

/-! ## Parts -/

/-- A scheme that is cut off is one. -/
theorem isScheme_cutScheme {t : Text} :
    (cutScheme t).1 ≠ [] → IsScheme (cutScheme t).1 := by
  unfold cutScheme
  split
  · rename_i c rest after hcut
    split
    · rename_i hletters
      rw [Bool.and_eq_true, List.all_eq_true] at hletters
      obtain ⟨hc, hrest⟩ := hletters
      refine fun _ => ⟨⟨c, rest, rfl, hc⟩, fun d hd => ?_⟩
      rw [isSchemeChar, Bool.or_eq_true]
      obtain rfl | hd := List.mem_cons.mp hd
      · refine .inl ?_
        show (d.isAlpha || d.isDigit) = true
        rw [hc, Bool.true_or]
      · refine (Bool.or_eq_true _ _ ▸ hrest d hd).imp_right fun hmark => ?_
        have hall : "+.-".toList.all ("+-.".toList.contains ·) = true := by
          decide
        exact List.all_eq_true.mp hall d (List.contains_iff_mem.mp hmark)
    · exact fun hne => absurd rfl hne
  · exact fun hne => absurd rfl hne

/-- So is the scheme of an address, and it is in lower case. -/
theorem isScheme_schemeOf {t : Text} (h : schemeOf t ≠ []) :
    IsScheme (schemeOf t)
      ∧ Text.lowerAscii (schemeOf t) = schemeOf t := by
  refine ⟨(isScheme_cutScheme fun hnil => h ?_).lowerAscii,
    Text.lowerAscii_lowerAscii _⟩
  rw [schemeOf, hnil]
  rfl

theorem isQueryChar_of_isUnreserved {c : Char} (h : isUnreserved c = true) :
    isQueryChar c = true := by
  rw [isQueryChar, isPathChar_of_isUserChar (isUserChar_of_isUnreserved h),
    Bool.true_or]

/-- A component in its normal form has characters that it allows, percent
signs, and what it had before. -/
theorem mem_component {scheme part : Text} {allowed : Char → Bool}
    (hu : ∀ c, isUnreserved c = true → allowed c = true) {c : Char}
    (h : c ∈ component scheme allowed part) :
    c ∈ part ∨ c = '%' ∨ allowed c = true := by
  unfold component at h
  split at h
  · exact .inr (mem_encodeComponent hu h)
  · exact .inl h

/-- Nothing in a rooted path ends it, if nothing in the path did. -/
theorem endsPath_of_mem_rootedPath {path : Text}
    (hpath : ∀ c ∈ path, endsPath c = false) :
    ∀ c ∈ rootedPath path, endsPath c = false := by
  obtain ⟨he, -⟩ | he := rootedPath_cases path
  · rwa [he]
  · rw [he]
    exact List.forall_mem_cons.mpr ⟨rfl, hpath⟩

/-- Nor does anything in a path in its normal form. -/
theorem endsPath_of_mem_normalPath {scheme path : Text}
    (hpath : ∀ c ∈ path, endsPath c = false) :
    ∀ c ∈ normalPath scheme path, endsPath c = false := by
  refine endsPath_of_mem_rootedPath ?_
  unfold component
  split
  · intro c hc
    obtain rfl | hc := mem_encodeComponent
      (fun d hd => isPathChar_of_isUserChar (isUserChar_of_isUnreserved hd)) hc
    · rfl
    · exact endsPath_of_isPathChar hc
  · exact hpath

/-- Nothing in an authority that is cut off ends one. -/
theorem endsAuthority_of_mem_authorityOf {t : Text} :
    ∀ c ∈ authorityOf t, Reference.endsAuthority c = false := by
  intro c hc
  unfold authorityOf cutAuthority at hc
  split at hc
  · have hkeep := List.all_eq_true.mp List.all_takeWhile c hc
    rw [Bool.not_eq_true'] at hkeep
    exact (Bool.or_eq_false_iff.mp hkeep).1
  · cases hc

/-- **What an address that is read can be relied on for**: its scheme is one,
nothing in its user and its host ends an authority, nothing in its path ends
that, nothing in its query begins a fragment, and its path is empty or
rooted. -/
theorem of_parse_eq_ok [Names] {t : Text} {a : Address} (h : parse t = .ok a) :
    (a.scheme ≠ [] → IsScheme a.scheme
        ∧ Text.lowerAscii a.scheme = a.scheme)
      ∧ (∀ c ∈ a.user ++ a.host, Reference.endsAuthority c = false)
      ∧ (∀ c ∈ a.path, endsPath c = false)
      ∧ '#' ∉ a.query ∧ ∀ c ∈ a.path.head?, c = '/' := by
  unfold parse at h
  generalize announced t = whole at h
  dsimp only at h
  obtain ⟨⟨host, port⟩, hhost, h⟩ := bind_eq_ok_iff.mp h
  obtain ⟨out, hout, h⟩ := bind_eq_ok_iff.mp h
  cases h
  obtain ⟨written, hcut⟩ := cutPort?_of_hostAndPort hhost
  have hauthority := @endsAuthority_of_mem_authorityOf whole
  have hhash : '#' ∉ (Text.cut '#' (behindAuthority whole)).1 :=
    Text.notMem_cut _ _
  generalize (Text.cut '#' (behindAuthority whole)).1 = front at hhash
  have hpath : ∀ c ∈ (Text.cut '?' front).1, endsPath c = false := by
    intro c hc
    refine Bool.eq_false_iff.mpr fun he => ?_
    obtain rfl | rfl := endsPath_iff.mp he
    · exact Text.notMem_cut _ _ hc
    · exact hhash (Text.mem_of_mem_cut hc)
  refine ⟨isScheme_schemeOf, List.forall_mem_append.mpr ⟨fun c hc => ?_, ?_⟩,
    endsPath_of_mem_normalPath hpath, fun hq => ?_, head?_rootedPath _⟩
  · obtain hc | rfl | hc := mem_component (fun c => isUserChar_of_isUnreserved) hc
    · exact hauthority c (Text.mem_of_mem_getD_cutLast hc)
    · rfl
    · refine Bool.eq_false_iff.mpr fun he => ?_
      obtain rfl | he := Reference.endsAuthority_iff.mp he
      · exact absurd hc (by decide)
      · rw [endsPath_of_isPathChar (isPathChar_of_isUserChar hc)] at he
        cases he
  · exact endsAuthority_of_mem_checkedHost hcut
      (fun c hc => hauthority c (Text.mem_of_mem_cutLast hc)) hout
  · obtain hq | he | hq := mem_component
      (fun c hc => isQueryChar_of_isUnreserved hc) hq
    · exact hhash (Text.mem_of_mem_getD_cut hq)
    · exact absurd he (by decide)
    · exact absurd hq (by decide)

end Address
end Url

open Url

namespace Request

/-- **What can be relied on** of an address that a request is made of, and
of its host as it goes in. -/
structure IsUsable (a : Address) (host : Text) : Prop where
  /-- There is a scheme. -/
  scheme : IsScheme a.scheme
  /-- It is in lower case. -/
  lower : Text.lowerAscii a.scheme = a.scheme
  /-- There is an authority. -/
  authority : writtenAuthority a host ≠ []
  /-- Nothing in the authority ends it. -/
  undivided : ∀ c ∈ writtenAuthority a host, Reference.endsAuthority c = false
  /-- Nothing in the path ends it. -/
  within : ∀ c ∈ writtenPath a, endsPath c = false
  /-- The path is rooted. -/
  rooted : (writtenPath a).head? = some '/'
  /-- Nothing in the query begins a fragment. -/
  query : '#' ∉ a.query

/-- Nothing in the authority and the path ends a path. -/
theorem IsUsable.endsPath_of_mem {a : Address} {host : Text}
    (h : IsUsable a host) :
    ∀ c ∈ writtenAuthority a host ++ writtenPath a, endsPath c = false :=
  List.forall_mem_append.mpr ⟨fun c hc =>
    Reference.endsPath_of_endsAuthority (h.undivided c hc), h.within⟩

/-- Nothing in the authority of the address ends it, if nothing in the user
and the host does. -/
theorem endsAuthority_of_mem_writtenAuthority {a : Address} {host : Text}
    (huser : ∀ c ∈ a.user, Reference.endsAuthority c = false)
    (hhost : ∀ c ∈ host, Reference.endsAuthority c = false) :
    ∀ c ∈ writtenAuthority a host, Reference.endsAuthority c = false := by
  unfold writtenAuthority
  rw [List.forall_mem_append, List.forall_mem_append]
  refine ⟨⟨?_, hhost⟩, ?_⟩
  · split
    · exact List.forall_mem_nil _
    · rw [List.forall_mem_append, List.forall_mem_singleton]
      exact ⟨huser, rfl⟩
  · split
    · exact List.forall_mem_nil _
    · exact List.forall_mem_nil _
    · refine List.forall_mem_cons.mpr ⟨rfl, fun c hc => ?_⟩
      have hdigit : c.isDigit = true :=
        Nat.isDigit_of_mem_toDigits (by decide) (by decide) hc
      exact Reference.endsAuthority_of_isUnreserved
        (isUnreserved_of_isAlphanum (Text.isAlphanum_of_isDigit hdigit))

/-- What a usable address is made of. -/
theorem of_usable_eq_ok [Names] {t : Text} {a : Address} {host : Text}
    (h : usable t = .ok (a, host)) :
    Address.parse t = .ok a ∧ a.scheme ≠ [] ∧ a.host ≠ []
      ∧ writtenHost a.host = .ok host := by
  unfold usable at h
  obtain ⟨parsed, hparse, h⟩ := bind_eq_ok_iff.mp h
  rw [mapError_eq_ok_iff] at hparse
  dsimp only at h
  split at h
  · cases h
  rename_i hscheme
  split at h
  · cases h
  rename_i hhost
  obtain ⟨out, hout, h⟩ := bind_eq_ok_iff.mp h
  cases h
  exact ⟨hparse, fun hnil => hscheme (by rw [hnil]; rfl),
    fun hnil => hhost (by rw [hnil]; rfl), hout⟩

/-- **A usable address can be relied on.** -/
theorem isUsable_of_usable [Names] {t : Text} {a : Address} {host : Text}
    (h : usable t = .ok (a, host)) : IsUsable a host := by
  obtain ⟨hparse, hscheme, hhost, hout⟩ := of_usable_eq_ok h
  have hne : host ≠ [] := ne_nil_of_writtenHost hout hhost
  obtain ⟨hs, hfront, hpath, hquery, hroot⟩ := Address.of_parse_eq_ok hparse
  obtain ⟨hs, hlower⟩ := hs hscheme
  obtain ⟨huser, hahost⟩ := List.forall_mem_append.mp hfront
  have hwritten : ∀ c ∈ host, Reference.endsAuthority c = false := by
    obtain he | rfl := of_writtenHost_eq_ok hout
    · exact fun c hc => Reference.endsAuthority_of_isUnreserved
        ((Names.travels_name he).unreserved c hc)
    · exact hahost
  refine ⟨hs, hlower, by simp [writtenAuthority, hne],
    endsAuthority_of_mem_writtenAuthority huser hwritten, ?_, ?_, hquery⟩
  · unfold writtenPath
    split
    · exact List.forall_mem_singleton.mpr rfl
    · exact hpath
  · unfold writtenPath
    cases hp : a.path with
    | nil => rfl
    | cons c rest =>
      rw [hp] at hroot
      exact congrArg some (hroot c rfl)

/-- **The address of a request**: taken as it is, or put together from a
usable one. -/
theorem url_of_prepare [Names] {url : Text} {params : List (Text × LooseText)}
    {q : Request} (h : prepare url params = .ok q) :
    (isForeign (Text.trimBlankStart url) = true
        ∧ q.url = Text.trimBlankStart url)
      ∨ (isForeign (Text.trimBlankStart url) = false
        ∧ ∃ a host pairs, usable (Text.trimBlankStart url) = .ok (a, host)
          ∧ params = loosePairs pairs
          ∧ q.url = assemble a host (Form.encode pairs)) := by
  unfold prepare at h
  obtain ⟨full, hfull, h⟩ := bind_eq_ok_iff.mp h
  obtain ⟨authorization, -, h⟩ := bind_eq_ok_iff.mp h
  cases h
  exact prepareUrl_eq_ok_iff.mp hfull

end Request
end QueryClient
