import QueryClient.Proofs.DoubledSlashes
import QueryClient.Proofs.SpokenAddress
import QueryClient.Proofs.UsableAddress

/-!
# Paths of printed addresses

An address is printed, perhaps requoted, and divided again by whoever sends
something to it. If it has a scheme and an authority, its path is found where
it was put: as it was (`Reference.path_of_split_print`), or requoted
(`Reference.prefix_of_split_requote_print`).

Without an authority it is another matter. A path that begins with two
slashes is taken for an authority, and one with a colon for a scheme with
something behind it. Without slashes in a row, a path is at least **flat**:
whatever is found in it, there is no authority
(`Reference.isFlat_requote_print`).
-/

namespace QueryClient.Url

/-- The **path** of the address that a text writes, as it is written. -/
def Address.pathOf (t : Text) : Text :=
  (Text.cut '?' (Text.cut '#' (behindAuthority (announced t))).1).1

/-- The path of the address that is read is the one that is written, in its
normal form. -/
theorem Address.path_of_parse [Names] {t : Text} {a : Address}
    (h : parse t = .ok a) : ∃ scheme, a.path = normalPath scheme (pathOf t) := by
  unfold parse at h
  dsimp only at h
  obtain ⟨found, -, h⟩ := bind_eq_ok_iff.mp h
  obtain ⟨host, -, h⟩ := bind_eq_ok_iff.mp h
  cases h
  exact ⟨_, rfl⟩

namespace Reference

/-- The **path** in a text that is divided into parts, with the
parameters. -/
def pathOf (t : Text) : Text :=
  (Text.cut '?' (Text.cut '#'
    (cutAuthority (cutScheme [] (clean t)).2).2).1).1

/-- The path of a reference with its parameters. -/
def fullPath (r : Reference) : Text :=
  r.path ++ marked ';' r.params

variable {fallback t : Text} {r : Reference}

/-- What is behind the scheme does not depend on the one to fall back on. -/
theorem snd_cutScheme (fallback t : Text) :
    (cutScheme fallback t).2 = (cutScheme [] t).2 := by
  unfold cutScheme
  split
  · split <;> rfl
  · rfl

/-- So the path does not, either. -/
theorem path_of_split (h : split fallback t = .ok r) : r.path = pathOf t := by
  unfold split at h
  dsimp only at h
  obtain ⟨-, -, h⟩ := bind_eq_ok_iff.mp h
  cases h
  unfold pathOf
  rw [snd_cutScheme]

/-- Without parameters there is the path alone. -/
theorem fullPath_of_params (h : r.params = []) : r.fullPath = r.path := by
  rw [fullPath, h]
  exact List.append_nil r.path

/-- What is not a slash does not stand in front of one. -/
theorem prefix_of_prefix_append {path rest : Text}
    (hrest : ∀ c ∈ rest.head?, c ≠ '/') (h : ['/', '/'] <+: path ++ rest) :
    ['/', '/'] <+: path := by
  obtain ⟨more, hmore⟩ := h
  obtain _ | ⟨a, _ | ⟨b, path⟩⟩ := path
  · rw [List.nil_append] at hmore
    exact absurd rfl (hrest '/' (by rw [← hmore]; rfl))
  · have hback : '/' :: more = rest := (List.cons.inj hmore).2
    exact absurd rfl (hrest '/' (by rw [← hback]; rfl))
  · obtain ⟨rfl, hback⟩ := List.cons.inj hmore
    obtain ⟨rfl, -⟩ := List.cons.inj hback
    exact List.prefix_append ['/', '/'] path

/-- Parameters that are cut off a path were part of it. -/
theorem cutParams_isPrefix (path : Text) :
    (cutParams path).1 ++ marked ';' (cutParams path).2 <+: path := by
  unfold cutParams
  dsimp only
  obtain ⟨front, hfront⟩ := Text.suffix_cutLast '/' path
  generalize (Text.cutLast '/' path).2 = last at hfront
  rw [← hfront, List.length_append, Nat.add_sub_cancel, List.take_left]
  split
  · rename_i before params hcut
    obtain ⟨hlast, -⟩ := Text.eq_append_of_cut hcut
    unfold marked
    rw [hlast, List.append_assoc]
    refine (List.prefix_append_right_inj front).mpr
      ((List.prefix_append_right_inj before).mpr ?_)
    split
    · exact List.nil_prefix
    · exact List.prefix_refl _
  · exact (List.append_nil (front ++ last)).symm ▸ List.prefix_refl _

/-- **What is read was divided**, and the path with its parameters was the
path, or the front of it. -/
theorem of_parse_eq_ok (h : parse fallback t = .ok r) :
    ∃ s, split fallback t = .ok s ∧ s.scheme = r.scheme
      ∧ s.authority = r.authority ∧ r.fullPath <+: s.path := by
  obtain ⟨s, hs, rfl⟩ := map_eq_ok_iff.mp h
  refine ⟨s, hs, ?_⟩
  split
  · exact ⟨rfl, rfl, cutParams_isPrefix s.path⟩
  · refine ⟨rfl, rfl, ?_⟩
    obtain ⟨-, -, -, hparams, -⟩ := of_split_eq_ok hs
    exact fullPath_of_params hparams ▸ List.prefix_refl _

/-- An authority is printed in front of the path. -/
theorem printPath_of_authority (ha : r.authority ≠ []) :
    r.printPath
      = '/' :: '/' :: (r.authority ++ Address.rootedPath r.fullPath) := by
  have ha' : r.authority.isEmpty = false := List.isEmpty_eq_false_iff.mpr ha
  unfold printPath
  dsimp only
  rw [ha', Bool.not_false, Bool.true_or, if_pos rfl]
  rfl

/-- **An address with an authority is printed as one would write it.** -/
theorem print_of_authority (hs : r.scheme ≠ []) (ha : r.authority ≠ []) :
    r.print = r.scheme ++ ':' :: '/' :: '/' :: (r.authority
      ++ (Address.rootedPath r.fullPath
        ++ (marked '?' r.query ++ marked '#' r.fragment))) := by
  have hs' : r.scheme.isEmpty = false := List.isEmpty_eq_false_iff.mpr hs
  unfold print
  rw [hs', if_neg Bool.false_ne_true, printPath_of_authority ha]
  simp only [List.append_assoc, List.cons_append, List.nil_append]

/-- Without a scheme it begins with a slash. -/
theorem print_of_scheme_eq_nil (hs : r.scheme = []) (ha : r.authority ≠ []) :
    ∃ rest, r.print = '/' :: rest := by
  unfold print
  rw [hs, printPath_of_authority ha]
  exact ⟨_, rfl⟩

/-- The query and the fragment begin with what ends a path. -/
theorem endsPath_of_head?_marked (query fragment : Text) :
    ∀ c ∈ (marked '?' query ++ marked '#' fragment).head?,
      endsPath c = true := by
  intro c hc
  rw [List.head?_append] at hc
  obtain hc | ⟨-, hc⟩ := Option.or_eq_some_iff.mp hc
  · rw [eq_of_head?_marked '?' query c hc]
    rfl
  · rw [eq_of_head?_marked '#' fragment c hc]
    rfl

end Reference

/-! ## Requoted in parts -/

/-- What ends a path may stand in an address. -/
theorem isPlain_of_endsPath {c : Char} (h : endsPath c = true) :
    isPlain c = true := by
  obtain rfl | rfl := endsPath_iff.mp h
  · rfl
  · rfl

/-- It is neither a letter nor a numeral. -/
theorem isAlphanumeric_of_endsPath {c : Char} (h : endsPath c = true) :
    Text.isAlphanumeric c = false := by
  obtain rfl | rfl := endsPath_iff.mp h
  · rfl
  · rfl

/-- A percent sign is misused in an address if it is in one of the parts. -/
theorem isMisused_joined {path rest : Text} (authority : Text)
    (hhead : ∀ c ∈ path.head?, c = '/')
    (hrest : ∀ c ∈ rest.head?, endsPath c = true) :
    IsParted authority (path ++ rest) ∧ IsParted path rest
      ∧ isMisused (authority ++ (path ++ rest))
        = (isMisused authority || (isMisused path || isMisused rest)) := by
  have hback : ∀ c ∈ rest.head?, Text.isAlphanumeric c = false :=
    fun c hc => isAlphanumeric_of_endsPath (hrest c hc)
  have hbehind : ∀ c ∈ (path ++ rest).head?, Text.isAlphanumeric c = false := by
    cases path with
    | nil => exact hback
    | cons d path =>
      intro c hc
      rw [hhead c hc]
      rfl
  have hfront := IsParted.of_head (s := authority) hbehind
  have hparted := IsParted.of_head (s := path) hback
  refine ⟨hfront, hparted, ?_⟩
  rw [isMisused_append hfront, isMisused_append hparted]

/-- **An address is requoted in its parts**: the scheme stays, and the
others are requoted by themselves. -/
theorem requote_parts {name path rest : Text} (hname : IsScheme name)
    (authority : Text) (hhead : ∀ c ∈ path.head?, c = '/')
    (hrest : ∀ c ∈ rest.head?, endsPath c = true) {m : Bool}
    (hm : (isMisused authority || (isMisused path || isMisused rest)) = m) :
    requote (name ++ ':' :: '/' :: '/' :: (authority ++ (path ++ rest)))
      = name ++ ':' :: '/' :: '/' :: (requoteAs m authority
        ++ (requoteAs m path ++ requoteAs m rest)) := by
  obtain ⟨hfront, hparted, hmisused⟩ := isMisused_joined authority hhead hrest
  rw [hm] at hmisused
  have hpr : isMisused (path ++ rest) = true → m = true := by
    intro he
    rw [← hm, ← isMisused_append hparted, he, Bool.or_true]
  rw [hname.requote_front, requote_eq_requoteAs, hmisused,
    requoteAs_append hfront (hmisused ▸ id), requoteAs_append hparted hpr]

/-- Requoting brings in nothing that ends an authority. -/
theorem endsAuthority_of_mem_requoteAs {misused : Bool} {t : Text}
    (ht : ∀ c ∈ t, Reference.endsAuthority c = false) {d : Char}
    (hd : d ∈ requoteAs misused t) : Reference.endsAuthority d = false := by
  refine Bool.eq_false_iff.mpr fun he => ?_
  unfold Reference.endsAuthority at he
  simp only [Bool.or_eq_true, beq_iff_eq] at he
  obtain (rfl | rfl) | rfl := he
  all_goals
    have hmem := mem_of_mem_requoteAs hd (by decide) (by decide)
    exact absurd (ht _ hmem) (by decide)

namespace Reference

variable {fallback : Text} {r s : Reference}

/-- **The path of an address that was put together** is found again. -/
theorem path_of_split_print (hs : IsScheme r.scheme) (ha : r.authority ≠ [])
    (hauthority : ∀ c ∈ r.authority, endsAuthority c = false)
    (hpath : ∀ c ∈ r.fullPath, endsPath c = false)
    (hw : Url.IsWritten r.print) (h : split fallback r.print = .ok s) :
    s.path = Address.rootedPath r.fullPath := by
  rw [print_of_authority hs.ne_nil ha] at h hw
  have hrooted : ∀ c ∈ (Address.rootedPath r.fullPath).head?,
      endsAuthority c = true := by
    intro c hc
    rw [Address.head?_rootedPath _ c hc]
    rfl
  rw [split_append fallback hs hauthority hrooted
    (Address.endsPath_of_mem_rootedPath hpath)
    (endsPath_of_head?_marked r.query r.fragment)
    fun c hc => hw.lt_toNat c (by simp [hc])] at h
  obtain ⟨u, -, rfl⟩ := map_eq_ok_iff.mp h
  rfl

/-- **So two slashes in front of the path** that is found were there
before. -/
theorem prefix_of_split_print (hs : IsScheme r.scheme) (ha : r.authority ≠ [])
    (hauthority : ∀ c ∈ r.authority, endsAuthority c = false)
    (hpath : ∀ c ∈ r.fullPath, endsPath c = false)
    (hw : Url.IsWritten r.print) (h : split fallback r.print = .ok s)
    (hp : ['/', '/'] <+: s.path) : ['/', '/'] <+: r.fullPath := by
  rw [path_of_split_print hs ha hauthority hpath hw h] at hp
  exact Address.prefix_of_prefix_rootedPath hp

/-- An address with a scheme in front was printed with one. -/
theorem isScheme_of_requote_print {name rest : Text}
    (hs : r.scheme = [] ∨ IsScheme r.scheme) (ha : r.authority ≠ [])
    (hname : IsScheme name) (h : requote r.print = name ++ rest) :
    IsScheme r.scheme := by
  refine hs.resolve_left fun hnone => ?_
  obtain ⟨more, hprint⟩ := print_of_scheme_eq_nil hnone ha
  obtain ⟨c, letters, rfl, hletter⟩ := hname.head
  rw [hprint, ← List.singleton_append, requote_append_of_isPlain
    (List.forall_mem_singleton.mpr rfl)] at h
  obtain rfl : '/' = c := (List.cons.inj h).1
  exact absurd hletter (by decide)

/-- **A requoted address is divided where it was joined**, and the authority
and the path are requoted. -/
theorem of_split_requote {name authority path rest : Text} {m : Bool}
    (hname : IsScheme name) (hauthority : ∀ c ∈ authority, endsAuthority c = false)
    (hhead : ∀ c ∈ path.head?, c = '/')
    (hpath : ∀ c ∈ path, endsPath c = false)
    (hrest : ∀ c ∈ rest.head?, endsPath c = true)
    (hm : (isMisused authority || (isMisused path || isMisused rest)) = m)
    (h : split fallback (requote
      (name ++ ':' :: '/' :: '/' :: (authority ++ (path ++ rest)))) = .ok s) :
    s.scheme = Text.lowerAscii name ∧ s.authority = requoteAs m authority
      ∧ s.path = requoteAs m path := by
  have hw := IsWritten.requote
    (name ++ ':' :: '/' :: '/' :: (authority ++ (path ++ rest)))
  rw [requote_parts hname authority hhead hrest hm] at h hw
  have hrooted : ∀ c ∈ (requoteAs m path).head?, endsAuthority c = true := by
    intro c hc
    rw [head?_requoteAs (fun _ he => by rw [he]; rfl) hhead
      (fun he => by rw [← hm, he, Bool.true_or, Bool.or_true]) c hc]
    rfl
  have hback : ∀ c ∈ (requoteAs m rest).head?, endsPath c = true :=
    head?_requoteAs (fun _ => isPlain_of_endsPath) hrest
      fun he => by rw [← hm, he, Bool.or_true, Bool.or_true]
  rw [split_append fallback hname
    (fun c => endsAuthority_of_mem_requoteAs hauthority) hrooted
    (fun c => endsPath_of_mem_requoteAs hpath) hback
    fun c hc => hw.lt_toNat c (by simp [hc])] at h
  obtain ⟨u, -, rfl⟩ := map_eq_ok_iff.mp h
  exact ⟨rfl, rfl, rfl⟩

/-- **Two slashes in front of the path of a requoted address** were there
before, too. -/
theorem prefix_of_split_requote_print (hs : IsScheme r.scheme)
    (ha : r.authority ≠ [])
    (hauthority : ∀ c ∈ r.authority, endsAuthority c = false)
    (hpath : ∀ c ∈ r.fullPath, endsPath c = false)
    (h : split fallback (requote r.print) = .ok s)
    (hp : ['/', '/'] <+: s.path) : ['/', '/'] <+: r.fullPath := by
  rw [print_of_authority hs.ne_nil ha] at h
  obtain ⟨-, -, hsp⟩ := of_split_requote hs hauthority
    (Address.head?_rootedPath r.fullPath)
    (Address.endsPath_of_mem_rootedPath hpath)
    (endsPath_of_head?_marked r.query r.fragment) rfl h
  rw [hsp] at hp
  exact Address.prefix_of_prefix_rootedPath
    ((keepsSlashes_requoteAs _).prefix_of_written (fun he => by simp [he]) hp)

end Reference

/-! ## Texts without an authority -/

/-- A text is **flat** if whoever divides it finds no authority in it, and a
path without slashes in a row. -/
def IsFlat (t : Text) : Prop :=
  ∀ fallback s, Reference.split fallback t = .ok s →
    s.authority = [] ∧ ¬IsDoubled s.path

namespace Reference

/-- Where no two slashes stand in front, there is no authority. -/
theorem cutAuthority_of_not_isPrefix {t : Text} (h : ¬['/', '/'] <+: t) :
    cutAuthority t = ([], t) := by
  unfold cutAuthority
  split
  · rename_i rest
    exact absurd (List.prefix_append ['/', '/'] rest) h
  · rfl

/-- What is behind a scheme in a path, or what looks like one, is the back
of the path. -/
theorem exists_suffix_of_cutScheme (fallback path : Text) {rest : Text}
    (hrest : ∀ c ∈ rest.head?, endsPath c = true) :
    ∃ back, back <:+ path
      ∧ (cutScheme fallback (path ++ rest)).2 = back ++ rest := by
  unfold cutScheme
  split
  · rename_i c name after hcut
    split
    · rename_i hletters
      rw [Bool.and_eq_true, List.all_eq_true] at hletters
      obtain ⟨hfront, -⟩ := Text.eq_append_of_cut hcut
      have hends : endsPath ':' = false := rfl
      obtain ⟨more, hname, hback⟩ | ⟨more, hpath, hback⟩ :=
        List.append_eq_append_iff.mp hfront
      · -- what ends the path would have to stand in the scheme
        refine absurd hrest fun hrest => ?_
        cases more with
        | nil =>
          rw [List.nil_append] at hback
          rw [hrest ':' (by rw [hback]; rfl)] at hends
          cases hends
        | cons d more =>
          have hd := hrest d (by rw [hback]; rfl)
          have hmem : d ∈ c :: name := by
            rw [hname]
            exact List.mem_append_right _ (List.mem_cons_self ..)
          have hscheme : isSchemeChar d = true := by
            obtain rfl | hmem := List.mem_cons.mp hmem
            · rw [isSchemeChar, Char.isAlphanum, hletters.1, Bool.true_or,
                Bool.true_or]
            · exact hletters.2 d hmem
          obtain rfl | rfl := endsPath_iff.mp hd
          · exact absurd hscheme (by decide)
          · exact absurd hscheme (by decide)
      · cases more with
        | nil =>
          rw [List.nil_append] at hback
          rw [hrest ':' (by rw [← hback]; rfl)] at hends
          cases hends
        | cons d more =>
          obtain ⟨rfl, hafter⟩ := List.cons.inj hback
          refine ⟨more, ?_, hafter⟩
          rw [hpath]
          exact (List.suffix_cons ':' more).trans (List.suffix_append ..)
    · exact ⟨path, List.suffix_refl path, rfl⟩
  · exact ⟨path, List.suffix_refl path, rfl⟩

end Reference

namespace IsFlat

variable {path rest : Text}

/-- **A path without slashes in a row is flat**, with what follows it: even
if there is a scheme in it, no authority is behind that. -/
theorem of_append (hpath : ∀ c ∈ path, endsPath c = false)
    (hd : ¬IsDoubled path) (hrest : ∀ c ∈ rest.head?, endsPath c = true)
    (hw : IsWritten (path ++ rest)) : IsFlat (path ++ rest) := by
  intro fallback s hs
  obtain ⟨back, hback, hcut⟩ :=
    Reference.exists_suffix_of_cutScheme fallback path hrest
  have hdback : ¬IsDoubled back := fun h => hd (h.trans hback.isInfix)
  have hslash : ∀ c ∈ rest.head?, c ≠ '/' := by
    rintro c hc rfl
    exact absurd (hrest '/' hc) (by decide)
  have hnone : ¬['/', '/'] <+: back ++ rest := fun h =>
    hdback (.of_isPrefix (Reference.prefix_of_prefix_append hslash h))
  obtain ⟨hfragment, hquery⟩ := Reference.cut_path
    (fun c hc => hpath c (hback.subset hc)) hrest
  unfold Reference.split at hs
  rw [hw.clean] at hs
  dsimp only at hs
  rw [hcut, Reference.cutAuthority_of_not_isPrefix hnone] at hs
  dsimp only at hs
  rw [hfragment] at hs
  dsimp only at hs
  rw [hquery] at hs
  obtain ⟨-, -, hs⟩ := bind_eq_ok_iff.mp hs
  cases hs
  exact ⟨rfl, hdback⟩

/-- So it is when it is requoted. -/
theorem requote_append (hpath : ∀ c ∈ path, endsPath c = false)
    (hd : ¬IsDoubled path) (hrest : ∀ c ∈ rest.head?, endsPath c = true) :
    IsFlat (requote (path ++ rest)) := by
  have hparted : IsParted path rest := .of_head fun c hc =>
    isAlphanumeric_of_endsPath (hrest c hc)
  have hw := IsWritten.requote (path ++ rest)
  rw [requote_eq_requoteAs] at hw ⊢
  generalize hm : isMisused (path ++ rest) = m at hw ⊢
  have hparts := hm
  rw [isMisused_append hparted] at hparts
  rw [requoteAs_append hparted fun h => hm ▸ h] at hw ⊢
  refine .of_append (fun c => endsPath_of_mem_requoteAs hpath)
    (fun h => hd ((keepsSlashes_requoteAs m).isDoubled (fun he => ?_) h))
    (head?_requoteAs (fun _ => isPlain_of_endsPath) hrest fun he => ?_) hw
  · rw [← hparts, he, Bool.true_or]
  · rw [← hparts, he, Bool.or_true]

/-- So is an address with an empty authority. -/
theorem requote_joined {name : Text} (hname : IsScheme name)
    (hhead : ∀ c ∈ path.head?, c = '/')
    (hpath : ∀ c ∈ path, endsPath c = false) (hd : ¬IsDoubled path)
    (hrest : ∀ c ∈ rest.head?, endsPath c = true) :
    IsFlat (requote (name ++ ':' :: '/' :: '/' :: ([] ++ (path ++ rest)))) := by
  intro fallback s hs
  obtain ⟨-, ha, hsp⟩ := Reference.of_split_requote hname
    (List.forall_mem_nil _) hhead hpath hrest rfl hs
  refine ⟨ha.trans (requoteAs_of_isPlain (List.forall_mem_nil _) _), ?_⟩
  rw [hsp]
  exact fun h => hd ((keepsSlashes_requoteAs _).isDoubled
    (fun he => by simp [he]) h)

end IsFlat

namespace Reference

variable {r : Reference}

/-- Without an authority, the path is printed by itself or behind an empty
authority. -/
theorem printPath_of_authority_eq_nil (ha : r.authority = []) :
    r.printPath = r.fullPath
      ∨ r.scheme ≠ []
        ∧ r.printPath = '/' :: '/' :: Address.rootedPath r.fullPath := by
  unfold printPath
  dsimp only
  split
  · rename_i hempty
    rw [ha, List.isEmpty_nil, Bool.not_true, Bool.false_or, Bool.and_eq_true,
      Bool.and_eq_true, Bool.not_eq_true'] at hempty
    obtain ⟨⟨hs, -⟩, -⟩ := hempty
    refine .inr ⟨List.isEmpty_eq_false_iff.mp hs, ?_⟩
    rw [ha]
    rfl
  · exact .inl rfl

/-- **So it is flat when it is requoted**, if its path has no slashes in a
row. -/
theorem isFlat_requote_print (ha : r.authority = [])
    (hs : r.scheme = [] ∨ IsScheme r.scheme)
    (hpath : ∀ c ∈ r.fullPath, endsPath c = false)
    (hd : ¬IsDoubled r.fullPath) : IsFlat (requote r.print) := by
  have hmarked := endsPath_of_head?_marked r.query r.fragment
  unfold print
  rw [List.append_assoc]
  obtain hp | ⟨hne, hp⟩ := printPath_of_authority_eq_nil ha
  · -- the scheme, if there is one, has no slashes and ends no path
    have hfront : ∀ c ∈ (if r.scheme.isEmpty then [] else r.scheme ++ [':']),
        endsPath c = false ∧ c ≠ '/' := by
      intro c hc
      split at hc
      · cases hc
      rename_i hempty
      obtain hc | hc := List.mem_append.mp hc
      · have hs := hs.resolve_left fun h => hempty (List.isEmpty_iff.mpr h)
        have hc := hs.chars c hc
        refine ⟨endsPath_of_kind (by decide) (by decide) hc, ?_⟩
        rintro rfl
        exact absurd hc (by decide)
      · rw [List.mem_singleton.mp hc]
        exact ⟨rfl, by decide⟩
    rw [hp]
    exact .requote_append
      (List.forall_mem_append.mpr ⟨fun c hc => (hfront c hc).1, hpath⟩)
      (fun h => hd (h.of_append fun hm => (hfront '/' hm).2 rfl)) hmarked
  · have hjoin : ∀ path back : Text,
        r.scheme ++ [':'] ++ '/' :: '/' :: path ++ back
          = r.scheme ++ ':' :: '/' :: '/' :: ([] ++ (path ++ back)) := by simp
    rw [hp, if_neg fun h => hne (List.isEmpty_iff.mp h), hjoin]
    exact .requote_joined (hs.resolve_left hne)
      (Address.head?_rootedPath r.fullPath)
      (Address.endsPath_of_mem_rootedPath hpath)
      (fun h => hd (Address.isDoubled_of_rootedPath h)) hmarked

end Reference
end QueryClient.Url
