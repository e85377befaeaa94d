import QueryClient.Exchange.Redirect
import QueryClient.Proofs.PrintedPath

/-!
# Targets that begin with two slashes

A target begins with the path of an address, and where two slashes stand in
front of it a server may take what follows them for a host. An address comes
from a config or is worked out from a location, and neither puts two slashes
in front by itself. If a first target begins with two, two slashes stand in a
row in the path of the config's address (`Request.isDoubled_of_prepare`); if
a later one does, then the one before did already, or two stand in a row in
the path of the location (`Redirect.prefix_of_nextUrl`).
-/

namespace QueryClient

open Url

namespace Destination

/-- A target begins with two slashes exactly if the path does. -/
theorem prefix_targetOf_iff {r : Reference} :
    ['/', '/'] <+: targetOf r ↔ ['/', '/'] <+: r.path := by
  unfold targetOf
  constructor
  · intro h
    have h := Reference.prefix_of_prefix_append
      (fun c hc => Reference.eq_of_head?_marked '?' r.query c hc ▸ by decide) h
    split at h
    · exact absurd h (by decide)
    · exact h
  · intro h
    have hne : ¬r.path.isEmpty := by
      rintro he
      rw [List.isEmpty_iff.mp he] at h
      exact absurd h (by decide)
    rw [if_neg hne]
    exact h.trans (List.prefix_append ..)

end Destination

namespace Request

/-- **Where a first target begins with two slashes**, two stand in a row in
the path of the address that the request is made of. -/
theorem isDoubled_of_prepare [Names] {url : Text} {params : List (Text × LooseText)}
    {q : Request} {d : Destination} (h : prepare url params = .ok q)
    (hf : isForeign (Text.trimBlankStart url) = false)
    (hd : Destination.ofUrl q.url = .ok d) (hp : ['/', '/'] <+: d.target) :
    IsDoubled (Address.pathOf (Text.trimBlankStart url)) := by
  obtain ⟨hforeign, -⟩ | ⟨-, a, host, pairs, husable, -, hurl⟩ :=
    url_of_prepare h
  · rw [hf] at hforeign
    cases hforeign
  have hu := isUsable_of_usable husable
  obtain ⟨-, s, hs, -, -, hin⟩ := Destination.of_ofUrl_eq_ok hd
  rw [hin.target, Destination.prefix_targetOf_iff] at hp
  rw [hurl] at hs
  have hp := Reference.prefix_of_split_requote_print hu.scheme hu.authority
    hu.undivided (fun c hc => by
      rw [Reference.fullPath_of_params rfl] at hc
      exact hu.within c hc) hs hp
  rw [Reference.fullPath_of_params rfl] at hp
  obtain ⟨scheme, hpath⟩ :=
    Address.path_of_parse (of_usable_eq_ok husable).1
  dsimp only at hp
  unfold writtenPath at hp
  split at hp
  · exact absurd hp (by decide)
  · rw [hpath] at hp
    exact Address.isDoubled_of_normalPath hp

end Request

/-! ## Addresses of the web -/

namespace Url

/-- The schemes of the web may have an authority. -/
theorem hasAuthority_webScheme (secure : Bool) :
    hasAuthority (webScheme secure) = true := by
  cases secure <;> decide

namespace Reference

/-- What begins with two slashes has no scheme, and its path does not change
when one of the web is put in front. -/
theorem pathOf_webScheme (secure : Bool) (rest : Text) :
    pathOf (webScheme secure ++ ':' :: '/' :: '/' :: rest)
      = pathOf ('/' :: '/' :: rest) := by
  obtain ⟨behind, hclean⟩ : ∃ behind,
      clean ('/' :: '/' :: rest) = '/' :: '/' :: behind := ⟨_, rfl⟩
  have hwhole : clean (webScheme secure ++ ':' :: '/' :: '/' :: rest)
      = webScheme secure ++ ':' :: clean ('/' :: '/' :: rest) := by
    cases secure <;> rfl
  have hnone : cutScheme [] ('/' :: '/' :: behind)
      = ([], '/' :: '/' :: behind) := by
    unfold cutScheme
    rw [Text.cut_cons_of_ne (by decide)]
    cases (Text.cut ':' ('/' :: behind)).2 <;> rfl
  unfold pathOf
  rw [hwhole, cutScheme_webScheme, hclean, hnone]

end Reference

/-! ## Addresses meant from others -/

/-- Nothing in the path that is meant ends it, if nothing in the two paths
did. -/
theorem endsPath_of_mem_joined {b r : Reference}
    (hb : ∀ c ∈ b.fullPath, endsPath c = false)
    (hr : ∀ c ∈ r.fullPath, endsPath c = false) :
    ∀ c ∈ joinPath b.path r.path ++ Reference.marked ';' r.params,
      endsPath c = false := by
  intro c hc
  obtain hc | hc := List.mem_append.mp hc
  · obtain rfl | hc | hc := mem_joinPath hc
    · rfl
    · exact hb c (List.mem_append_left _ hc)
    · exact hr c (List.mem_append_left _ hc)
  · exact hr c (List.mem_append_right _ hc)

/-- **An address that is meant from another**: its path begins with two
slashes only if that of the other does, when what is said of it is flat. -/
theorem prefix_of_join {current written url : Text} {secure : Bool}
    {c s : Reference} (hcw : IsWritten current)
    (hc : Reference.split [] current = .ok c)
    (hcs : c.scheme = webScheme secure) (hca : c.authority ≠ [])
    (hw : IsWritten written) (hflat : IsFlat written)
    (h : join current written = .ok url)
    (hs : Reference.split [] url = .ok s) (hsa : s.authority ≠ [])
    (hp : ['/', '/'] <+: s.path) : ['/', '/'] <+: c.path := by
  have hurl := IsWithin.join isClosed_isPlain hcw hw h
  obtain rfl | rfl | ⟨b, r, hb, hr, hrb, h⟩ := of_join_eq_ok h
  · exact absurd (hflat [] s hs).1 hsa
  · rw [hc] at hs
    cases hs
    exact hp
  obtain ⟨c', hc', hbs, hba, hbpath⟩ := Reference.of_parse_eq_ok hb
  obtain rfl : c = c' := by
    rw [hc] at hc'
    cases hc'
    rfl
  obtain ⟨w, hsplit, -, hwa, hrpath⟩ := Reference.of_parse_eq_ok hr
  obtain ⟨hnone, hwd⟩ := hflat _ w hsplit
  obtain ⟨-, hauthority, hcpath, -, -⟩ := Reference.of_split_eq_ok hc
  obtain ⟨-, -, hwpath, -, -⟩ := Reference.of_split_eq_ok hsplit
  -- the authority is that of the other address, so the path is found again
  have hrs : r.scheme = webScheme secure := (hrb.trans hbs.symm).trans hcs
  have hscheme : IsScheme r.scheme := hrs ▸ (isScheme_webScheme secure).1
  have hmeant : b.meantAuthority r = c.authority := by
    rw [Reference.meantAuthority, hrs, hasAuthority_webScheme, if_pos rfl, hba]
  rw [hmeant] at h
  have hbwithin : ∀ d ∈ b.fullPath, endsPath d = false := fun d hd =>
    hcpath d (hbpath.subset hd)
  have hrwithin : ∀ d ∈ r.fullPath, endsPath d = false := fun d hd =>
    hwpath d (hrpath.subset hd)
  obtain ⟨hra, -⟩ | rfl | rfl := h
  · exact absurd (hwa.symm.trans hnone) hra
  · exact (Reference.prefix_of_split_print (r := { r with
      authority := c.authority, path := b.path, params := b.params, query := _ })
      hscheme hca hauthority hbwithin hurl hs hp).trans hbpath
  · have hfront := Reference.prefix_of_prefix_append
      (fun d hd => Reference.eq_of_head?_marked ';' r.params d hd ▸ by decide)
      (Reference.prefix_of_split_print (r := { r with
        authority := c.authority, path := joinPath b.path r.path })
        hscheme hca hauthority (endsPath_of_mem_joined hbwithin hrwithin) hurl
        hs hp)
    refine absurd hfront (not_prefix_joinPath (fun hd => hwd ?_) b.path)
    exact hd.trans ((List.prefix_append ..).trans hrpath).isInfix

end Url

namespace Redirect

/-- Where a location begins with its authority, the scheme goes in front; the
path stays. -/
theorem pathOf_of_withScheme {current location whole : Text} {secure : Bool}
    {c : Reference} (hc : Reference.split [] current = .ok c)
    (hcs : c.scheme = webScheme secure)
    (h : withScheme current location = .ok whole) :
    Reference.pathOf whole = Reference.pathOf location := by
  unfold withScheme at h
  split at h
  · rename_i hslashes
    obtain ⟨rest, rfl⟩ := List.isPrefixOf_iff_prefix.mp hslashes
    obtain ⟨r, hr, rfl⟩ := map_eq_ok_iff.mp h
    rw [hc] at hr
    cases hr
    rw [hcs]
    exact Reference.pathOf_webScheme secure rest
  · cases h
    rfl

/-- **Where a later target begins with two slashes**, the one before does, or
two stand in a row in the path of the location. -/
theorem prefix_of_nextUrl [Names] {current fragment location url seen : Text}
    {d d' : Destination} (hcw : IsWritten current)
    (hd : Destination.ofUrl current = .ok d)
    (h : nextUrl current fragment location = .ok (url, seen))
    (hd' : Destination.ofUrl url = .ok d')
    (hp : ['/', '/'] <+: d'.target) :
    ['/', '/'] <+: d.target ∨ IsDoubled (Reference.pathOf location) := by
  refine Classical.or_iff_not_imp_right.mpr fun hloc => ?_
  obtain ⟨-, c, hc, hcs, hca, hin⟩ := Destination.of_ofUrl_eq_ok hd
  obtain ⟨⟨name', rest', hfront, hname'⟩, s, hs, -, hsa, hin'⟩ :=
    Destination.of_ofUrl_eq_ok hd'
  rw [hin'.target, Destination.prefix_targetOf_iff] at hp
  rw [hin.target, Destination.prefix_targetOf_iff]
  -- the path that the location says is its own, and has no slashes in a row
  obtain ⟨whole, r, hwhole, hr, h⟩ := of_nextUrl_eq_ok h
  obtain ⟨w, hw, hws, hwa, hrpath⟩ := Reference.of_parse_eq_ok hr
  obtain ⟨hscheme, hauthority, hends, -, -⟩ := Reference.of_split_eq_ok hw
  rw [hws] at hscheme
  rw [hwa] at hauthority
  have hwithin : ∀ c ∈ r.fullPath, endsPath c = false := fun c hc =>
    hends c (hrpath.subset hc)
  have hflat : ¬IsDoubled r.fullPath := by
    rw [Reference.path_of_split hw, pathOf_of_withScheme hc hcs hwhole]
      at hrpath
    exact fun h => hloc (h.trans hrpath.isInfix)
  obtain ⟨hra, hjoin⟩ | ⟨hra, rfl⟩ := h
  · exact prefix_of_join hcw hc hcs hca (.requote _)
      (Reference.isFlat_requote_print (r := { r with fragment := seen }) hra
        hscheme hwithin hflat) hjoin hs hsa hp
  · have hscheme : IsScheme r.scheme := Reference.isScheme_of_requote_print
      (r := { r with fragment := seen }) hscheme hra (.of_lowerAscii hname') hfront
    exact absurd (Reference.prefix_of_split_requote_print
      (r := { r with fragment := seen }) hscheme hra hauthority hwithin hs hp)
      fun h => hflat (.of_isPrefix h)

end Redirect
end QueryClient
