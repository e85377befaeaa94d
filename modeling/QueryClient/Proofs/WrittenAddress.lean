import QueryClient.Exchange.Redirect
import QueryClient.Proofs.DividedAddress

/-!
# Written addresses

An address may be divided, its parts put together again, one address meant from
another: characters are taken out and moved around, and all that comes in is
punctuation and the small letters of a scheme. So a text stays **within** a class
of characters that has these (`IsClosed`), whatever is done to it in this way.

A text is **written** when every character in it may stand in an address: letters,
digits, punctuation, and percent signs. Requoting makes a text written whatever it
was before (`IsWritten.requote`), and from there on it cannot be spoiled: the
address that a redirect leads to is written if the present one is
(`IsWritten.nextUrl`), and nothing has to be known of the location.
-/

namespace QueryClient.Url

/-! ## Classes of characters -/

/-- A text is **within** a class of characters if every character in it is of
the class. -/
def IsWithin (P : Char → Prop) (t : Text) : Prop :=
  ∀ c ∈ t, P c

/-- A class of characters is **closed** if all that comes in when addresses are
worked on is of it: unreserved characters, and the marks between the parts. -/
structure IsClosed (P : Char → Prop) : Prop where
  /-- The unreserved characters are of it. -/
  unreserved : ∀ {c : Char}, isUnreserved c = true → P c
  /-- The marks are. -/
  mark : ∀ c ∈ ":/;?#".toList, P c

variable {P : Char → Prop}

namespace IsWithin

variable {s t : Text}

theorem nil : IsWithin P [] := fun _ hc => nomatch hc

theorem append (hs : IsWithin P s) (ht : IsWithin P t) : IsWithin P (s ++ t) :=
  fun c hc => (List.mem_append.mp hc).elim (hs c) (ht c)

/-- A character of the class may stand in front. -/
theorem cons {c : Char} (hc : P c) (ht : IsWithin P t) : IsWithin P (c :: t) :=
  List.forall_mem_cons.mpr ⟨hc, ht⟩

/-- What is taken from a text stays in the class. -/
theorem subset (ht : IsWithin P t) (h : s ⊆ t) : IsWithin P s :=
  fun c hc => ht c (h hc)

/-- So do the two sides of a cut. -/
theorem cut (ht : IsWithin P t) (sep : Char) :
    IsWithin P (Text.cut sep t).1
      ∧ IsWithin P ((Text.cut sep t).2.getD []) :=
  ⟨ht.subset (List.takeWhile_subset _),
    ht.subset fun _ => Text.mem_of_mem_getD_cut⟩

theorem lowerAscii (hP : IsClosed P) (ht : IsWithin P t) :
    IsWithin P (Text.lowerAscii t) := by
  intro c hc
  obtain hc | hc := mem_lowerAscii hc
  · exact ht c hc
  · exact hP.unreserved hc

end IsWithin

/-! ## Parts of an address -/

/-- A reference is **within** a class of characters if its parts are. -/
structure Reference.IsWithin (P : Char → Prop) (r : Reference) : Prop where
  /-- Its scheme is. -/
  scheme : Url.IsWithin P r.scheme
  /-- Its authority is. -/
  authority : Url.IsWithin P r.authority
  /-- Its path is. -/
  path : Url.IsWithin P r.path
  /-- Its parameters are. -/
  params : Url.IsWithin P r.params
  /-- Its query is. -/
  query : Url.IsWithin P r.query
  /-- Its fragment is. -/
  fragment : Url.IsWithin P r.fragment

namespace Reference

variable {fallback t : Text} {r : Reference}

/-- Nothing comes in when an address is cleaned. -/
theorem clean_subset (t : Text) : clean t ⊆ t := fun _ hc =>
  List.dropWhile_subset _ (List.mem_filter.mp hc).1

theorem isWithin_cutScheme (hP : IsClosed P) (hf : Url.IsWithin P fallback)
    (ht : Url.IsWithin P t) :
    Url.IsWithin P (cutScheme fallback t).1
      ∧ Url.IsWithin P (cutScheme fallback t).2 := by
  unfold cutScheme
  split
  · rename_i hcut
    split
    · have hparts := ht.cut ':'
      rw [hcut] at hparts
      exact ⟨hparts.1.lowerAscii hP, hparts.2⟩
    · exact ⟨hf, ht⟩
  · exact ⟨hf, ht⟩

theorem isWithin_cutAuthority (ht : Url.IsWithin P t) :
    Url.IsWithin P (cutAuthority t).1 ∧ Url.IsWithin P (cutAuthority t).2 := by
  unfold cutAuthority
  split
  · rename_i rest
    have hrest : Url.IsWithin P rest :=
      ht.subset fun c hc => List.mem_cons_of_mem _ (List.mem_cons_of_mem _ hc)
    exact ⟨hrest.subset (List.takeWhile_subset _),
      hrest.subset (List.dropWhile_subset _)⟩
  · exact ⟨.nil, ht⟩

theorem isWithin_cutParams (ht : Url.IsWithin P t) :
    Url.IsWithin P (cutParams t).1 ∧ Url.IsWithin P (cutParams t).2 := by
  have hlast : Url.IsWithin P (Text.cutLast '/' t).2 :=
    ht.subset fun _ => Text.mem_of_mem_cutLast
  unfold cutParams
  dsimp only
  split
  · rename_i hcut
    have hparts := hlast.cut ';'
    rw [hcut] at hparts
    exact ⟨(ht.subset (List.take_subset _ _)).append hparts.1, hparts.2⟩
  · exact ⟨ht, .nil⟩

/-- **The parts of an address stay in the class**, if the scheme that it falls
back on is in it. -/
theorem isWithin_of_split (hP : IsClosed P) (hf : Url.IsWithin P fallback)
    (ht : Url.IsWithin P t) (h : split fallback t = .ok r) : r.IsWithin P := by
  unfold split at h
  obtain ⟨hscheme, hafter⟩ :=
    isWithin_cutScheme hP hf (ht.subset (clean_subset t))
  obtain ⟨hauthority, hbehind⟩ := isWithin_cutAuthority hafter
  obtain ⟨hfront, hfragment⟩ := hbehind.cut '#'
  obtain ⟨hpath, hquery⟩ := hfront.cut '?'
  dsimp only at h
  obtain ⟨-, -, h⟩ := bind_eq_ok_iff.mp h
  cases h
  exact ⟨hscheme, hauthority, hpath, .nil, hquery, hfragment⟩

theorem isWithin_of_parse (hP : IsClosed P) (hf : Url.IsWithin P fallback)
    (ht : Url.IsWithin P t) (h : parse fallback t = .ok r) : r.IsWithin P := by
  obtain ⟨found, hfound, rfl⟩ := map_eq_ok_iff.mp h
  have hr := isWithin_of_split hP hf ht hfound
  split
  · obtain ⟨hpath, hparams⟩ := isWithin_cutParams hr.path
    exact { hr with path := hpath, params := hparams }
  · exact hr

theorem isWithin_marked {mark : Char} (hm : P mark) (ht : Url.IsWithin P t) :
    Url.IsWithin P (marked mark t) := by
  unfold marked
  split
  · exact .nil
  · exact .cons hm ht

/-- **An address stays in the class of its parts.** -/
theorem IsWithin.print (hP : IsClosed P) (hr : r.IsWithin P) :
    Url.IsWithin P r.print := by
  have hpath : Url.IsWithin P (r.path ++ marked ';' r.params) :=
    hr.path.append (isWithin_marked (hP.mark _ (by decide)) hr.params)
  have hslash : P '/' := hP.mark _ (by decide)
  refine ((Url.IsWithin.append ?_ ?_).append
    (isWithin_marked (hP.mark _ (by decide)) hr.query)).append
    (isWithin_marked (hP.mark _ (by decide)) hr.fragment)
  · split
    · exact .nil
    · exact hr.scheme.append (.cons (hP.mark _ (by decide)) .nil)
  · unfold printPath
    dsimp only
    split
    · refine (Url.IsWithin.append ?_ hr.authority).append ?_
      · exact .cons hslash (.cons hslash .nil)
      · split
        · exact hpath
        · exact .cons hslash hpath
    · exact hpath

end Reference

/-! ## Addresses meant from others -/

/-- **Resolving dots takes segments away**, and changes nothing else. -/
theorem resolveDots_sublist (taken segments : List Text) :
    (resolveDots taken segments).Sublist (taken.reverse ++ segments) := by
  fun_induction resolveDots taken segments with
  | case1 taken => exact List.sublist_append_left ..
  | case2 taken rest ih =>
    refine ih.trans (List.Sublist.append ?_ (List.sublist_cons_self ..))
    exact List.reverse_sublist.mpr (List.tail_sublist _)
  | case3 taken rest _ ih =>
    exact ih.trans (List.Sublist.append (.refl _) (List.sublist_cons_self ..))
  | case4 taken segment rest _ _ ih =>
    rwa [List.reverse_cons, List.append_assoc, List.singleton_append] at ih

theorem mem_dropEmptyInside {segments : List Text} {segment : Text}
    (h : segment ∈ dropEmptyInside segments) : segment ∈ segments := by
  unfold dropEmptyInside at h
  split at h
  · exact h
  · rw [List.mem_cons, List.mem_append] at h
    obtain rfl | h | h := h
    · exact List.mem_cons_self ..
    · exact List.mem_cons_of_mem _
        (List.dropLast_subset _ (List.mem_filter.mp h).1)
    · exact List.mem_cons_of_mem _ (List.mem_of_mem_drop h)

/-- The segments of the path that is meant are segments of the two paths. -/
theorem mem_joinSegments {base path segment : Text}
    (h : segment ∈ joinSegments base path) :
    segment ∈ Text.fields '/' base ∨ segment ∈ Text.fields '/' path := by
  unfold joinSegments at h
  split at h
  · exact .inr h
  · dsimp only at h
    refine (List.mem_append.mp (mem_dropEmptyInside h)).imp_left fun h => ?_
    split at h
    · exact h
    · exact List.dropLast_subset _ h

/-- The path that is meant is made of the two paths and of slashes. -/
theorem mem_joinPath {base path : Text} {c : Char}
    (h : c ∈ joinPath base path) : c = '/' ∨ c ∈ base ∨ c ∈ path := by
  unfold joinPath at h
  dsimp only at h
  generalize hback : (if (joinSegments base path).getLast?.any isDotSegment
    = true then [([] : Text)] else []) = back at h
  split at h
  · exact .inl (List.mem_singleton.mp h)
  obtain h | ⟨part, hpart, hc⟩ := Text.mem_joinFields h
  · exact .inl (List.mem_singleton.mp h)
  obtain hpart | hpart := List.mem_append.mp hpart
  · exact .inr ((mem_joinSegments ((resolveDots_sublist [] _).subset hpart)).imp
      (fun h => Text.mem_of_mem_fields h hc)
      fun h => Text.mem_of_mem_fields h hc)
  · rw [← hback] at hpart
    split at hpart
    · rw [List.mem_singleton.mp hpart] at hc
      cases hc
    · cases hpart

theorem IsWithin.joinPath (hP : IsClosed P) {base path : Text}
    (hb : IsWithin P base) (hp : IsWithin P path) :
    IsWithin P (joinPath base path) := by
  intro c hc
  obtain rfl | hc | hc := mem_joinPath hc
  · exact hP.mark _ (by decide)
  · exact hb c hc
  · exact hp c hc

/-- The authority that is meant, where `r` has none. -/
def Reference.meantAuthority (b r : Reference) : Text :=
  if hasAuthority r.scheme then b.authority else r.authority

/-- **What an address that is meant from another comes to**: what is said of
it, the other address, or parts of both put together. -/
theorem of_join_eq_ok {base t url : Text} (h : join base t = .ok url) :
    url = t ∨ url = base
      ∨ ∃ b r, Reference.parse [] base = .ok b
        ∧ Reference.parse b.scheme t = .ok r ∧ r.scheme = b.scheme
        ∧ (r.authority ≠ [] ∧ url = r.print
          ∨ url = { r with
              authority := b.meantAuthority r
              path := b.path
              params := b.params
              query := if r.query.isEmpty then b.query else r.query }.print
          ∨ url = { r with
              authority := b.meantAuthority r
              path := joinPath b.path r.path }.print) := by
  unfold join at h
  split at h
  · cases h
    exact .inl rfl
  split at h
  · cases h
    exact .inr (.inl rfl)
  obtain ⟨b, hb, h⟩ := bind_eq_ok_iff.mp h
  obtain ⟨r, hr, h⟩ := bind_eq_ok_iff.mp h
  split at h
  · cases h
    exact .inl rfl
  rename_i hsame
  rw [Bool.or_eq_true, not_or, Bool.not_eq_true, bne_eq_false_iff_eq] at hsame
  refine .inr (.inr ⟨b, r, hb, hr, hsame.1, ?_⟩)
  split at h
  · rename_i hauthority
    rw [Bool.and_eq_true, Bool.not_eq_true'] at hauthority
    cases h
    exact .inl ⟨List.isEmpty_eq_false_iff.mp hauthority.2, rfl⟩
  dsimp only at h
  split at h
  · cases h
    exact .inr (.inl rfl)
  · cases h
    exact .inr (.inr rfl)

/-- **An address meant from another stays in their class.** -/
theorem IsWithin.join (hP : IsClosed P) {base t url : Text}
    (hb : IsWithin P base) (ht : IsWithin P t) (h : join base t = .ok url) :
    IsWithin P url := by
  obtain rfl | rfl | ⟨b, r, hparseb, hparse, -, h⟩ := of_join_eq_ok h
  · exact ht
  · exact hb
  have hbase := Reference.isWithin_of_parse hP .nil hb hparseb
  have hr := Reference.isWithin_of_parse hP hbase.scheme ht hparse
  have hauthority : IsWithin P (b.meantAuthority r) :=
    iteInduction (fun _ => hbase.authority) fun _ => hr.authority
  obtain ⟨-, rfl⟩ | rfl | rfl := h
  · exact hr.print hP
  · refine Reference.IsWithin.print hP ⟨hr.scheme, hauthority, hbase.path,
      hbase.params, ?_, hr.fragment⟩
    exact iteInduction (fun _ => hbase.query) fun _ => hr.query
  · exact Reference.IsWithin.print hP { hr with
      authority := hauthority, path := hbase.path.joinPath hP hr.path }

/-! ## Redirects -/

/-- **What a redirect leads to**: what the location says, requoted and with
the last fragment seen, or what that means from the present address. -/
theorem of_nextUrl_eq_ok {current fragment location url seen : Text}
    (h : Redirect.nextUrl current fragment location = .ok (url, seen)) :
    ∃ whole r, Redirect.withScheme current location = .ok whole
      ∧ Reference.parse [] whole = .ok r
      ∧ ((r.authority = []
          ∧ join current (requote { r with fragment := seen }.print) = .ok url)
        ∨ (r.authority ≠ []
          ∧ url = requote { r with fragment := seen }.print)) := by
  unfold Redirect.nextUrl at h
  obtain ⟨whole, hwhole, h⟩ := bind_eq_ok_iff.mp h
  obtain ⟨r, hr, h⟩ := bind_eq_ok_iff.mp h
  refine ⟨whole, r, hwhole, hr, ?_⟩
  dsimp only at h
  split at h
  · rename_i hempty
    obtain ⟨next, hnext, h⟩ := bind_eq_ok_iff.mp h
    cases h
    exact .inl ⟨List.isEmpty_iff.mp hempty, hnext⟩
  · rename_i hempty
    cases h
    exact .inr ⟨fun hnil => hempty (List.isEmpty_iff.mpr hnil), rfl⟩

/-! ## Written addresses -/

/-- A text is **written** if every character in it may stand in an
address. -/
def IsWritten (t : Text) : Prop :=
  IsWithin (fun c => isPlain c = true ∨ c = '%') t

/-- Nothing comes in that may not stand in an address. -/
theorem isClosed_isPlain : IsClosed fun c => isPlain c = true ∨ c = '%' where
  unreserved hc := .inl (isPlain_of_isUnreserved hc)
  mark := by
    have hall : ":/;?#".toList.all isPlain = true := by decide
    exact fun c hc => .inl (List.all_eq_true.mp hall c hc)

namespace IsWritten

variable {t : Text}

/-- **What is requoted is written.** -/
theorem requote (t : Text) : IsWritten (requote t) :=
  fun _ hc => (isPlain_of_mem_requote hc).symm

/-- No control and no space is written. -/
theorem lt_toNat (ht : IsWritten t) : ∀ c ∈ t, 32 < c.toNat := by
  intro c hc
  obtain hc | rfl := ht c hc
  · exact lt_toNat_of_isPlain hc
  · decide

/-- So a written text is clean. -/
theorem clean (ht : IsWritten t) : Reference.clean t = t :=
  Reference.clean_of_forall ht.lt_toNat

/-- **A redirect from a written address leads to a written one**, whatever
the location says. -/
theorem nextUrl {current fragment location url seen : Text}
    (hc : IsWritten current)
    (h : Redirect.nextUrl current fragment location = .ok (url, seen)) :
    IsWritten url := by
  obtain ⟨_, _, -, -, ⟨-, hjoin⟩ | ⟨-, rfl⟩⟩ := of_nextUrl_eq_ok h
  · exact IsWithin.join isClosed_isPlain hc (requote _) hjoin
  · exact .requote _

end IsWritten
end QueryClient.Url
