import QueryClient.Exchange.Destination
import QueryClient.Proofs.WebAddress

/-!
# Addresses with a destination

A request is sent to an address only if the address has a destination: a
scheme that can be spoken, and a host. `Destination.of_ofUrl_eq_ok` is what
the text of such an address looks like, and `Reference.of_split_eq_ok` is
what can be relied on for the parts it is divided into. An address of another
kind, which is taken as it is, has no destination
(`Destination.ofUrl_of_isForeign`).
-/

namespace QueryClient

open Url

/-- A scheme of the web is one in letters of either case. -/
theorem Url.IsScheme.of_lowerAscii {name : Text} {secure : Bool}
    (h : Text.lowerAscii name = webScheme secure) : IsScheme name := by
  have hletters : ∀ c ∈ name, c.isAlphanum = true := fun c hc =>
    Address.isAlphanum_of_mem_name h hc
  refine ⟨?_, fun c hc => by rw [isSchemeChar, hletters c hc, Bool.true_or]⟩
  cases name with
  | nil => cases secure <;> cases h
  | cons c more =>
    have hlower : c.toLower = 'h' := by
      cases secure <;> exact (List.cons.inj h).1
    have hc := hletters c (List.mem_cons_self ..)
    exact ⟨c, more, rfl, Text.ascii_cases
      (P := fun c => c.toLower = 'h' → c.isAlpha = true) (by decide)
      (Text.toNat_lt_of_isAlphanum hc) hlower⟩

namespace Url.Reference

/-- A scheme that is cut off is one. -/
theorem isScheme_cutScheme (fallback t : Text) :
    (cutScheme fallback t).1 = fallback ∨ IsScheme (cutScheme fallback t).1 := by
  unfold cutScheme
  split
  · rename_i c rest after hcut
    split
    · rename_i hletters
      rw [Bool.and_eq_true, List.all_eq_true] at hletters
      obtain ⟨hc, hrest⟩ := hletters
      refine .inr (IsScheme.lowerAscii ⟨⟨c, rest, rfl, hc⟩, ?_⟩)
      refine List.forall_mem_cons.mpr ⟨?_, hrest⟩
      rw [isSchemeChar, Char.isAlphanum, hc, Bool.true_or, Bool.true_or]
    · exact .inl rfl
  · exact .inl rfl

/-- **What the parts of an address can be relied on for**: the scheme is the
one to fall back on or one that may stand in front, and nothing in a part
ends it. -/
theorem of_split_eq_ok {fallback t : Text} {r : Reference}
    (h : split fallback t = .ok r) :
    (r.scheme = fallback ∨ IsScheme r.scheme)
      ∧ (∀ c ∈ r.authority, endsAuthority c = false)
      ∧ (∀ c ∈ r.path, endsPath c = false) ∧ r.params = []
      ∧ '#' ∉ r.query := by
  unfold split at h
  dsimp only at h
  obtain ⟨-, -, h⟩ := bind_eq_ok_iff.mp h
  cases h
  generalize hbehind : cutAuthority (cutScheme fallback (clean t)).2 = found
  have hfront : '#' ∉ (Text.cut '#' found.2).1 := Text.notMem_cut '#' _
  refine ⟨isScheme_cutScheme fallback _, fun c hc => ?_, fun c hc => ?_,
    rfl, fun hm => hfront (Text.mem_of_mem_getD_cut hm)⟩
  · rw [← hbehind] at hc
    unfold cutAuthority at hc
    split at hc
    · have hkeep := List.all_eq_true.mp List.all_takeWhile c hc
      rwa [Bool.not_eq_true'] at hkeep
    · cases hc
  · refine Bool.eq_false_iff.mpr fun he => ?_
    obtain rfl | rfl := endsPath_iff.mp he
    · exact Text.notMem_cut '?' _ hc
    · exact hfront (Text.mem_of_mem_cut hc)

/-- A scheme in front of an address is clean, whatever follows it. -/
theorem clean_append {name : Text} (hname : IsScheme name) (rest : Text) :
    ∃ behind, clean (name ++ ':' :: rest) = name ++ ':' :: behind := by
  have hclean := clean_of_forall fun c hc =>
    lt_toNat_of_isPlain (hname.isPlain c hc)
  obtain ⟨c, more, rfl, -⟩ := hname.head
  have hc : ¬c.toNat ≤ 32 :=
    Nat.not_le.mpr (lt_toNat_of_isPlain (hname.isPlain c (List.mem_cons_self ..)))
  have hdrop (t : Text) : (c :: t).dropWhile (·.toNat ≤ 32) = c :: t :=
    List.dropWhile_cons_of_neg (by simpa using hc)
  unfold clean at hclean ⊢
  rw [hdrop] at hclean
  rw [List.cons_append, hdrop, ← List.cons_append, List.filter_append, hclean]
  exact ⟨_, rfl⟩

/-- The scheme in front of an address is found, in lower case. -/
theorem scheme_of_split {fallback name rest : Text} {r : Reference}
    (hname : IsScheme name) (h : split fallback (name ++ ':' :: rest) = .ok r) :
    r.scheme = Text.lowerAscii name := by
  obtain ⟨behind, hclean⟩ := clean_append hname rest
  unfold split at h
  rw [hclean, cutScheme_append fallback hname] at h
  obtain ⟨-, -, h⟩ := bind_eq_ok_iff.mp h
  cases h
  rfl

/-- **The path behind an authority is empty or rooted**: what follows the
authority begins with what ends one. -/
theorem head?_path_of_split {fallback name rest : Text} {r : Reference}
    (hname : IsScheme name)
    (hclean : clean (name ++ ':' :: '/' :: '/' :: rest)
      = name ++ ':' :: '/' :: '/' :: rest)
    (h : split fallback (name ++ ':' :: '/' :: '/' :: rest) = .ok r) :
    ∀ c ∈ r.path.head?, c = '/' := by
  unfold split at h
  rw [hclean, cutScheme_append fallback hname] at h
  dsimp only [cutAuthority] at h
  obtain ⟨-, -, h⟩ := bind_eq_ok_iff.mp h
  cases h
  intro c hc
  change c ∈ (Text.cut '?'
    (Text.cut '#' (rest.dropWhile (!endsAuthority ·))).1).1.head? at hc
  have hstop := List.head?_dropWhile_not (!endsAuthority ·) rest
  generalize rest.dropWhile (!endsAuthority ·) = behind at hc hstop
  have hmem := List.mem_of_mem_head? hc
  have hmark : c ≠ '?' := fun e => Text.notMem_cut '?' _ (e ▸ hmem)
  have hhash : c ≠ '#' := by
    rintro rfl
    exact Text.notMem_cut '#' behind (Text.mem_of_mem_cut hmem)
  -- the first character of the path is the first behind the authority
  have hfirst : behind.head? = some c := by
    unfold Text.cut at hc
    rw [List.head?_takeWhile, List.head?_takeWhile] at hc
    exact (Option.filter_eq_some_iff.mp (Option.filter_eq_some_iff.mp hc).1).1
  rw [hfirst] at hstop
  have hends : endsAuthority c = true := by simpa using hstop
  unfold endsAuthority at hends
  simpa [hmark, hhash] using hends

end Url.Reference

namespace Destination

/-- A destination is **in** the parts of an address if its host, its port and
its target are read off them. -/
structure IsIn [Names] (d : Destination) (r : Reference) : Prop where
  /-- The host is the one written, in its normal form. -/
  host : ∃ written, Authority.host? r.authority = some written
    ∧ checkedHost true written = .ok d.host
  /-- The port is the one written, or the one that goes without saying. -/
  port : ∃ port, Authority.port? r.authority = .ok port
    ∧ d.port = (port.filter (· != 0)).getD (defaultPort d.secure)
  /-- The target is made of the path and the query. -/
  target : d.target = targetOf r

/-- An address that speaks a scheme has it in front, in letters of either
case. -/
theorem of_speaks (secure : Bool) {url : Text} {scheme : String}
    (hscheme : scheme.toList = webScheme secure)
    (h : speaks scheme url = true) :
    ∃ name rest, url = name ++ ':' :: '/' :: '/' :: rest
      ∧ Text.lowerAscii name = webScheme secure := by
  unfold speaks at h
  rw [List.isPrefixOf_iff_prefix, hscheme] at h
  obtain ⟨more, h⟩ := h
  obtain ⟨front, rest, rfl, hfront, -⟩ := List.map_eq_append_iff.mp h.symm
  obtain ⟨name, marks, rfl, hname, hmarks⟩ := List.map_eq_append_iff.mp hfront
  have hsame : ∀ c : Char, c.toLower.isAlphanum = false → c.toLower = c := by
    intro c hc
    obtain he | ⟨-, hletter⟩ := Text.toLower_eq_or c
    · exact he
    · rw [hc] at hletter
      cases hletter
  have hkept : marks.map Char.toLower = marks := by
    refine (List.map_congr_left fun c hc => hsame c ?_).trans (List.map_id' _)
    have hm : c.toLower ∈ "://".toList := hmarks ▸ List.mem_map_of_mem hc
    have hall : "://".toList.all (!·.isAlphanum) = true := by decide
    simpa using List.all_eq_true.mp hall _ hm
  rw [hkept] at hmarks
  refine ⟨name, rest, ?_, hname⟩
  rw [hmarks, List.append_assoc]
  rfl

/-- **What an address with a destination is like**: it has a scheme that can
be spoken, it has an authority, and the target is that of its parts. -/
theorem of_ofUrl_eq_ok [Names] {url : Text} {d : Destination}
    (h : ofUrl url = .ok d) :
    (∃ name rest, url = name ++ ':' :: '/' :: '/' :: rest
        ∧ Text.lowerAscii name = webScheme d.secure)
      ∧ ∃ r, Reference.split [] url = .ok r ∧ r.scheme = webScheme d.secure
        ∧ r.authority ≠ [] ∧ d.IsIn r := by
  unfold ofUrl at h
  dsimp only at h
  split at h
  · cases h
  rename_i hspoken
  obtain ⟨-, -, h⟩ := bind_eq_ok_iff.mp h
  obtain ⟨r, hr, h⟩ := bind_eq_ok_iff.mp h
  rw [mapError_eq_ok_iff] at hr
  obtain ⟨port, hport, h⟩ := bind_eq_ok_iff.mp h
  rw [mapError_eq_ok_iff] at hport
  split at h
  · cases h
  rename_i written hwritten
  obtain ⟨host, hhost, h⟩ := bind_eq_ok_iff.mp h
  rw [mapError_eq_ok_iff] at hhost
  cases h
  have hauthority : r.authority ≠ [] := by
    intro hnil
    rw [hnil] at hwritten
    cases hwritten
  have hfront : ∃ name rest, url = name ++ ':' :: '/' :: '/' :: rest
      ∧ Text.lowerAscii name = webScheme (speaks "https" url) := by
    cases hs : speaks "https" url with
    | true => exact of_speaks true rfl hs
    | false =>
      rw [hs, Bool.not_false, Bool.true_and, Bool.not_eq_true',
        Bool.not_eq_false] at hspoken
      exact of_speaks false rfl hspoken
  refine ⟨hfront, r, hr, ?_, hauthority, ⟨written, hwritten, hhost⟩,
    ⟨port, hport, rfl⟩, rfl⟩
  obtain ⟨name, rest, rfl, hname⟩ := hfront
  rw [← hname]
  exact Reference.scheme_of_split (.of_lowerAscii hname) hr

/-- **An address that is taken as it is has no destination.** -/
theorem ofUrl_of_isForeign [Names] {url : Text}
    (h : Request.isForeign url = true) (d : Destination) :
    ofUrl url ≠ .ok d := by
  intro hd
  obtain ⟨⟨name, rest, rfl, hname⟩, -⟩ := of_ofUrl_eq_ok hd
  rw [Request.isForeign, Bool.and_eq_true, Bool.not_eq_true'] at h
  have hfront : "http".toList.isPrefixOf
      (Text.lowerAscii (name ++ ':' :: '/' :: '/' :: rest)) = true := by
    rw [Text.lowerAscii, List.map_append, ← Text.lowerAscii, hname,
      List.isPrefixOf_iff_prefix]
    refine List.IsPrefix.trans ?_ (List.prefix_append ..)
    cases d.secure
    · exact List.prefix_refl _
    · exact ⟨['s'], rfl⟩
  rw [hfront] at h
  cases h.2

end Destination
end QueryClient
