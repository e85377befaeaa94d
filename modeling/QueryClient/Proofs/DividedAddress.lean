import QueryClient.Proofs.Attempt
import QueryClient.Proofs.RequotedText
import QueryClient.Proofs.WrittenHost

/-!
# Addresses divided again

An address that was put together is divided again, by readers that know
nothing of how it was made. `Reference.split_append` is what they find: where
a scheme stands in front, nothing in the authority ends one, and nothing in
the path ends that, each part is where it was put. Only the authority can
still be refused. It need not even be known where the authority ends:
`Reference.split_joined` says so of all that stands in front of the query.

Reading the address may move the parameters of a path aside and never looks
at the authority or the query again, so both readers agree on these.
-/

namespace QueryClient

namespace Url

/-- The **scheme** of the web, secure or not. -/
def webScheme (secure : Bool) : Text :=
  if secure then "https".toList else "http".toList

/-- What may stand in an address is neither a control nor the space. -/
theorem lt_toNat_of_isPlain {c : Char} (h : isPlain c = true) :
    32 < c.toNat :=
  Text.ascii_cases (P := fun c => isPlain c = true → 32 < c.toNat)
    (by decide +kernel) (toNat_lt_of_isPlain h) h

/-- What is requoted holds neither. -/
theorem lt_toNat_of_mem_requote {t : Text} {c : Char} (h : c ∈ requote t) :
    32 < c.toNat := by
  obtain rfl | h := isPlain_of_mem_requote h
  · decide
  · exact lt_toNat_of_isPlain h

/-- Form text holds neither. -/
theorem lt_toNat_of_mem_encode {pairs : List (Text × Text)} {c : Char}
    (h : c ∈ Form.encode pairs) : 32 < c.toNat := by
  obtain h | rfl := Form.isPlain_of_mem_encode h
  · exact lt_toNat_of_isPlain h
  · decide

/-- Nothing in form text begins a fragment. -/
theorem hash_notMem_encode {pairs : List (Text × Text)} :
    '#' ∉ Form.encode pairs := by
  intro h
  obtain h | h | h := Form.mem_encode h
  · exact absurd h (by decide)
  · exact absurd h (by decide)
  · exact absurd h (by decide)

/-- Requoting brings in nothing that ends a path. -/
theorem endsPath_of_mem_requoteAs {misused : Bool} {t : Text}
    (ht : ∀ c ∈ t, endsPath c = false) {d : Char}
    (hd : d ∈ requoteAs misused t) : endsPath d = false := by
  by_cases hp : d = '%'
  · rw [hp]
    rfl
  by_cases hu : isUnreserved d = true
  · exact endsPath_of_isUnreserved hu
  · exact ht d (mem_of_mem_requoteAs hd hp (Bool.eq_false_iff.mpr hu))

theorem endsPath_of_mem_requote {t : Text}
    (ht : ∀ c ∈ t, endsPath c = false) {d : Char} (hd : d ∈ requote t) :
    endsPath d = false :=
  endsPath_of_mem_requoteAs ht (requote_eq_requoteAs t ▸ hd)

/-- A scheme of the web is made of letters. -/
theorem isAlphanum_of_mem_webScheme {secure : Bool} {c : Char}
    (h : c ∈ webScheme secure) : c.isAlphanum = true := by
  have hall : (webScheme secure).all Char.isAlphanum = true := by
    cases secure <;> decide
  exact List.all_eq_true.mp hall c h

/-- A text is a **scheme**, in letters of either case, if it may stand as
one in front of an address. -/
structure IsScheme (t : Text) : Prop where
  /-- It begins with a letter. -/
  head : ∃ c rest, t = c :: rest ∧ c.isAlpha = true
  /-- It consists of characters of schemes. -/
  chars : ∀ c ∈ t, isSchemeChar c = true

/-- The characters of schemes are of the ASCII range. -/
theorem toNat_lt_of_isSchemeChar {c : Char} (h : isSchemeChar c = true) :
    c.toNat < 128 := by
  unfold isSchemeChar at h
  obtain h | h := Bool.or_eq_true _ _ ▸ h
  · exact Text.toNat_lt_of_isAlphanum h
  · have hm : c ∈ "+-.".toList := List.contains_iff_mem.mp h
    have hall : Text.isAscii "+-.".toList = true := by decide
    exact of_decide_eq_true (List.all_eq_true.mp hall c hm)

namespace IsScheme

variable {t : Text}

/-- A scheme may stand in an address. -/
theorem isPlain (h : IsScheme t) : ∀ c ∈ t, isPlain c = true := by
  intro c hc
  have hs := h.chars c hc
  exact Text.ascii_cases
    (P := fun c => isSchemeChar c = true → Url.isPlain c = true)
    (by decide +kernel) (toNat_lt_of_isSchemeChar hs) hs

/-- Requoting lets it alone, and what parts it from the rest. -/
theorem requote_front (h : IsScheme t) (rest : Text) :
    requote (t ++ ':' :: '/' :: '/' :: rest)
      = t ++ ':' :: '/' :: '/' :: requote rest := by
  have hplain : ∀ c ∈ t ++ [':', '/', '/'], Url.isPlain c = true := by
    refine List.forall_mem_append.mpr ⟨h.isPlain, ?_⟩
    have hall : [':', '/', '/'].all Url.isPlain = true := by decide
    exact List.all_eq_true.mp hall
  have hjoin (s : Text) : t ++ ':' :: '/' :: '/' :: s
      = (t ++ [':', '/', '/']) ++ s := by simp
  rw [hjoin rest, hjoin (requote rest), requote_append_of_isPlain hplain]

/-- A scheme is something. -/
theorem ne_nil (h : IsScheme t) : t ≠ [] := by
  obtain ⟨c, rest, rfl, -⟩ := h.head
  exact List.cons_ne_nil c rest

/-- A scheme in lower case is one. -/
theorem lowerAscii (h : IsScheme t) : IsScheme (Text.lowerAscii t) := by
  obtain ⟨c, rest, rfl, hc⟩ := h.head
  have hlower : ∀ d : Char, isSchemeChar d = true →
      isSchemeChar d.toLower = true
        ∧ (d.isAlpha = true → d.toLower.isAlpha = true) := fun d hd =>
    Text.ascii_cases (P := fun d => isSchemeChar d = true →
        isSchemeChar d.toLower = true
          ∧ (d.isAlpha = true → d.toLower.isAlpha = true))
      (by decide +kernel) (toNat_lt_of_isSchemeChar hd) hd
  refine ⟨⟨c.toLower, Text.lowerAscii rest, rfl, ?_⟩, fun d hd => ?_⟩
  · exact (hlower c (h.chars c (List.mem_cons_self ..))).2 hc
  · obtain ⟨e, he, rfl⟩ := List.mem_map.mp hd
    exact (hlower e (h.chars e he)).1

end IsScheme

/-- The schemes of the web are schemes, in lower case. -/
theorem isScheme_webScheme (secure : Bool) :
    IsScheme (webScheme secure)
      ∧ Text.lowerAscii (webScheme secure) = webScheme secure := by
  refine ⟨⟨?_, fun c hc => ?_⟩, by cases secure <;> rfl⟩
  · cases secure <;> exact ⟨_, _, rfl, rfl⟩
  · rw [isSchemeChar, isAlphanum_of_mem_webScheme hc, Bool.true_or]

namespace Reference

/-- A text without controls and spaces is clean. -/
theorem clean_of_forall {t : Text} (h : ∀ c ∈ t, 32 < c.toNat) :
    clean t = t := by
  have hdrop : t.dropWhile (·.toNat ≤ 32) = t := by
    cases t with
    | nil => rfl
    | cons c t =>
      have hc := h c (List.mem_cons_self ..)
      rw [List.dropWhile_cons_of_neg]
      rw [decide_eq_true_eq, Nat.not_le]
      exact hc
  unfold clean
  rw [hdrop, List.filter_eq_self]
  intro c hc
  have hc := h c hc
  have hne : ∀ d : Char, d.toNat ≤ 32 → (c != d) = true := by
    intro d hd
    rw [bne_iff_ne]
    rintro rfl
    omega
  rw [hne _ (by decide), hne _ (by decide), hne _ (by decide)]
  rfl

/-- **A scheme is cut off**, and read in lower case. -/
theorem cutScheme_append (fallback : Text) {name : Text} (h : IsScheme name)
    (rest : Text) :
    cutScheme fallback (name ++ ':' :: rest) = (Text.lowerAscii name, rest) := by
  obtain ⟨c, more, rfl, hc⟩ := h.head
  have hcolon : ':' ∉ c :: more := fun hm => absurd (h.chars _ hm) (by decide)
  have hmore : more.all isSchemeChar = true :=
    List.all_eq_true.mpr fun d hd => h.chars d (List.mem_cons_of_mem _ hd)
  unfold cutScheme
  rw [Text.cut_append_cons hcolon]
  dsimp only
  rw [hc, hmore]
  rfl

/-- The scheme of the web is cut off. -/
theorem cutScheme_webScheme (fallback : Text) (secure : Bool) (rest : Text) :
    cutScheme fallback (webScheme secure ++ ':' :: rest)
      = (webScheme secure, rest) := by
  obtain ⟨hscheme, hlower⟩ := isScheme_webScheme secure
  rw [cutScheme_append fallback hscheme, hlower]

/-- The authority is cut off, if nothing in it ends one and what follows
begins with something that does. -/
theorem cutAuthority_append {authority rest : Text}
    (ha : ∀ c ∈ authority, endsAuthority c = false)
    (hr : ∀ c ∈ rest.head?, endsAuthority c = true) :
    cutAuthority ('/' :: '/' :: (authority ++ rest)) = (authority, rest) := by
  obtain ⟨hfront, hback⟩ := Text.span_append ha hr
  show ((authority ++ rest).takeWhile _, (authority ++ rest).dropWhile _) = _
  rw [hfront, hback]

/-- A path is cut off in front of what ends it. -/
theorem cut_path {path rest : Text} (hp : ∀ c ∈ path, endsPath c = false)
    (hrest : ∀ c ∈ rest.head?, endsPath c = true) :
    Text.cut '#' (path ++ rest)
        = (path ++ (Text.cut '#' rest).1, (Text.cut '#' rest).2)
      ∧ Text.cut '?' (path ++ (Text.cut '#' rest).1)
        = (path, (Text.cut '?' (Text.cut '#' rest).1).2) := by
  have hhash : '#' ∉ path := fun h => absurd (hp _ h) (by decide)
  have hmark : '?' ∉ path := fun h => absurd (hp _ h) (by decide)
  have hnone : (Text.cut '?' (Text.cut '#' rest).1).1 = [] := by
    cases rest with
    | nil => rfl
    | cons c rest =>
      obtain rfl | rfl := endsPath_iff.mp (hrest c rfl)
      · rw [Text.cut_cons_of_ne (by decide), Text.cut_cons_self]
      · rw [Text.cut_cons_self]
        rfl
  refine ⟨Text.cut_append hhash _, ?_⟩
  rw [Text.cut_append hmark, hnone, List.append_nil]

/-- A part with its punctuation in front begins with that, or there is
none. -/
theorem eq_of_head?_marked (mark : Char) (part : Text) :
    ∀ c ∈ (marked mark part).head?, c = mark := by
  unfold marked
  split
  · exact fun c hc => nomatch hc
  · exact fun c hc => (Option.some.inj hc).symm

/-- **An address is printed as one would write it**, if it has a scheme and
an authority and its path is rooted. -/
theorem print_joined {scheme authority path query fragment : Text}
    (hs : scheme ≠ []) (ha : authority ≠ []) (hp : path.head? = some '/') :
    print ⟨scheme, authority, path, [], query, fragment⟩
      = scheme ++ ':' :: '/' :: '/' :: (authority ++ path
        ++ marked '?' query ++ marked '#' fragment) := by
  have hs' : scheme.isEmpty = false := List.isEmpty_eq_false_iff.mpr hs
  have ha' : authority.isEmpty = false := List.isEmpty_eq_false_iff.mpr ha
  have hnone : marked ';' [] = [] := rfl
  unfold print printPath
  simp only [hs', ha', hp, hnone, Bool.not_false, Bool.true_or, Bool.or_true,
    decide_true, if_true, if_false, List.append_nil, Bool.false_eq_true,
    List.append_assoc]
  rfl

/-- **An address is divided where it was joined**: behind the scheme, behind
the authority, and behind the path. -/
theorem split_append (fallback : Text) {name authority path rest : Text}
    (hname : IsScheme name) (ha : ∀ c ∈ authority, endsAuthority c = false)
    (hhead : ∀ c ∈ path.head?, endsAuthority c = true)
    (hp : ∀ c ∈ path, endsPath c = false)
    (hrest : ∀ c ∈ rest.head?, endsPath c = true)
    (hvisible : ∀ c ∈ authority ++ (path ++ rest), 32 < c.toNat) :
    split fallback
        (name ++ ':' :: '/' :: '/' :: (authority ++ (path ++ rest)))
      = (Authority.check authority).map fun _ =>
        { scheme := Text.lowerAscii name, authority, path
          params := []
          query := (Text.cut '?' (Text.cut '#' rest).1).2.getD []
          fragment := (Text.cut '#' rest).2.getD [] } := by
  have hbehind : ∀ c ∈ (path ++ rest).head?, endsAuthority c = true := by
    intro c hc
    cases path with
    | nil =>
      -- what ends a path ends an authority
      have hends := hrest c hc
      unfold endsPath at hends
      unfold endsAuthority
      rw [Bool.or_assoc, hends, Bool.or_true]
    | cons d path => exact hhead c hc
  have hclean : clean (name ++ ':' :: '/' :: '/'
      :: (authority ++ (path ++ rest)))
      = name ++ ':' :: '/' :: '/' :: (authority ++ (path ++ rest)) := by
    refine clean_of_forall fun c hc => ?_
    obtain hc | hc := List.mem_append.mp hc
    · exact lt_toNat_of_isPlain (hname.isPlain c hc)
    obtain rfl | hc := List.mem_cons.mp hc
    · decide
    obtain rfl | hc := List.mem_cons.mp hc
    · decide
    obtain rfl | hc := List.mem_cons.mp hc
    · decide
    · exact hvisible c hc
  obtain ⟨hfragment, hquery⟩ := cut_path hp hrest
  -- each cut is made where the parts were joined
  unfold split
  rw [hclean, cutScheme_append fallback hname]
  dsimp only
  rw [cutAuthority_append ha hbehind]
  dsimp only
  rw [hfragment]
  dsimp only
  rw [hquery]
  cases Authority.check authority with
  | error f => rfl
  | ok u => rfl

/-- Where the authority ends need not be known. -/
theorem split_joined (fallback : Text) {name front rest : Text}
    (hname : IsScheme name) (hwithin : ∀ c ∈ front, endsPath c = false)
    (hrest : ∀ c ∈ rest.head?, endsPath c = true)
    (hvisible : ∀ c ∈ front ++ rest, 32 < c.toNat) :
    split fallback (name ++ ':' :: '/' :: '/' :: (front ++ rest))
      = (Authority.check (front.takeWhile (!endsAuthority ·))).map fun _ =>
        { scheme := Text.lowerAscii name
          authority := front.takeWhile (!endsAuthority ·)
          path := front.dropWhile (!endsAuthority ·)
          params := []
          query := (Text.cut '?' (Text.cut '#' rest).1).2.getD []
          fragment := (Text.cut '#' rest).2.getD [] } := by
  have hjoin : front.takeWhile (!endsAuthority ·)
      ++ (front.dropWhile (!endsAuthority ·) ++ rest) = front ++ rest := by
    rw [← List.append_assoc, List.takeWhile_append_dropWhile]
  rw [← hjoin] at hvisible ⊢
  refine split_append fallback hname (fun c hc => ?_) (fun c hc => ?_)
    (fun c hc => hwithin c (List.dropWhile_subset _ hc)) hrest hvisible
  · have hkeep := List.all_eq_true.mp List.all_takeWhile c hc
    rwa [Bool.not_eq_true'] at hkeep
  · have hstop := List.head?_dropWhile_not (!endsAuthority ·) front
    rw [hc] at hstop
    simpa using hstop

/-- A query and what follows it are found behind the mark. -/
theorem cut_query {query : Text} (back : Text) (hq : '#' ∉ query)
    (hback : ∀ c ∈ back.head?, c = '#') :
    (Text.cut '?' (Text.cut '#' ('?' :: (query ++ back))).1).2.getD [] = query
      ∧ (Text.cut '#' ('?' :: (query ++ back))).2.getD [] = back.tail := by
  rw [Text.cut_cons_of_ne (by decide), Text.cut_append hq]
  dsimp only
  rw [Text.cut_cons_self]
  cases back with
  | nil => exact ⟨List.append_nil query, rfl⟩
  | cons c back =>
    rw [hback c rfl, Text.cut_cons_self]
    exact ⟨List.append_nil query, rfl⟩

/-- An address of the web is divided in front of its query, wherever the
authority ends. -/
theorem split_of_within (secure : Bool) {front query : Text}
    (hwithin : ∀ c ∈ front, endsPath c = false) (hq : '#' ∉ query)
    (hvisible : ∀ c ∈ front ++ query, 32 < c.toNat) :
    split [] (webScheme secure ++ ':' :: '/' :: '/' :: (front ++ '?' :: query))
      = (Authority.check (front.takeWhile (!endsAuthority ·))).map fun _ =>
        ⟨webScheme secure, front.takeWhile (!endsAuthority ·),
          front.dropWhile (!endsAuthority ·), [], query, []⟩ := by
  obtain ⟨hscheme, hlower⟩ := isScheme_webScheme secure
  obtain ⟨hquery, hfragment⟩ := cut_query [] hq fun c hc => nomatch hc
  rw [List.append_nil] at hquery hfragment
  rw [split_joined [] hscheme hwithin (fun c hc => ?_) fun c hc => ?_, hlower,
    hquery, hfragment]
  · rfl
  · cases hc
    rfl
  · rw [List.mem_append, List.mem_cons, or_left_comm] at hc
    obtain rfl | hc := hc
    · decide
    · exact hvisible c (List.mem_append.mpr hc)

/-- What is read was divided, with the same authority and query. -/
theorem split_of_parse {fallback t : Text} {r : Reference}
    (h : parse fallback t = .ok r) :
    ∃ r', split fallback t = .ok r' ∧ r'.authority = r.authority
      ∧ r'.query = r.query := by
  obtain ⟨r', hr', rfl⟩ := map_eq_ok_iff.mp h
  refine ⟨r', hr', ?_⟩
  split
  · exact ⟨rfl, rfl⟩
  · exact ⟨rfl, rfl⟩

end Reference
end Url
end QueryClient
