import QueryClient.Proofs.DividedAddress

/-!
# Addresses of the web

A text whose scheme is `http` or `https` is never taken as it is: it is read,
and its parts are put into their normal form. What comes out of that is
tidy, part by part, whatever the text says, with the one exception of an
IPv6 address with a zone. `Address.parse_webAddress` collects this; it is all
that has to be known of how addresses are read in order to see where the
query ends up.
-/

namespace QueryClient

namespace Url

namespace Address

/-- Whether the host in the text is an IPv6 address with a **zone**. -/
def isZoned (t : Text) : Bool :=
  ((cutPort? (Text.cutLast '@' (authorityOf t)).2).bind (bracketed? ·.1)).any
    (·.2.isSome)

/-! ## The scheme -/

/-- A scheme of the web in front is that, in letters of either case, and a
colon behind it. -/
theorem of_schemeOf_eq_webScheme {t : Text} {secure : Bool}
    (h : schemeOf t = webScheme secure) :
    ∃ name after, t = name ++ ':' :: after ∧ ':' ∉ name
      ∧ Text.lowerAscii name = webScheme secure
      ∧ ∃ c rest, name = c :: rest ∧ c.isAlpha = true := by
  unfold schemeOf cutScheme at h
  split at h
  · rename_i c rest after hcut
    split at h
    · rename_i hletters
      obtain ⟨ht, hnot⟩ := Text.eq_append_of_cut hcut
      rw [Bool.and_eq_true] at hletters
      exact ⟨c :: rest, after, ht, hnot, h, c, rest, rfl, hletters.1⟩
    · cases secure <;> cases h
  · cases secure <;> cases h

/-- The letters of a scheme of the web. -/
theorem isAlphanum_of_mem_name {name : Text} {secure : Bool}
    (h : Text.lowerAscii name = webScheme secure) {c : Char} (hc : c ∈ name) :
    c.isAlphanum = true := by
  obtain he | ⟨hletter, -⟩ := Text.toLower_eq_or c
  · have hmem : c.toLower ∈ webScheme secure := by
      rw [← h]
      exact List.mem_map_of_mem hc
    rw [he] at hmem
    exact isAlphanum_of_mem_webScheme hmem
  · exact hletter

/-- A text with a scheme of the web announces itself. -/
theorem announced_of_schemeOf {t : Text} {secure : Bool}
    (h : schemeOf t = webScheme secure) : announced t = t := by
  obtain ⟨name, after, rfl, hnot, hname, c, rest, rfl, hc⟩ :=
    of_schemeOf_eq_webScheme h
  have hletters : (c :: rest).all (fun d =>
      d.isAlphanum || d == '+' || d == '-') = true := by
    rw [List.all_eq_true]
    intro d hd
    rw [isAlphanum_of_mem_name hname hd, Bool.true_or, Bool.true_or]
  have hself : announcesItself (c :: rest ++ ':' :: after) = true := by
    unfold announcesItself
    rw [List.cons_append]
    split
    · rfl
    · rename_i heq
      cases heq
      rw [← List.cons_append, Text.cut_append_cons hnot, hc]
      exact hletters
    · rename_i heq
      cases heq
  rw [announced, if_pos hself]

/-- It is not taken as it is. -/
theorem isForeign_of_schemeOf {t : Text} {secure : Bool}
    (h : schemeOf t = webScheme secure) : Request.isForeign t = false := by
  obtain ⟨name, after, rfl, -, hname, -⟩ := of_schemeOf_eq_webScheme h
  have hfront : "http".toList.isPrefixOf
      (Text.lowerAscii (name ++ ':' :: after)) = true := by
    rw [Text.lowerAscii, List.map_append, ← Text.lowerAscii, hname,
      List.isPrefixOf_iff_prefix]
    refine List.IsPrefix.trans ?_ (List.prefix_append ..)
    cases secure
    · exact List.prefix_refl _
    · exact ⟨['s'], rfl⟩
  rw [Request.isForeign, hfront]
  exact Bool.and_false _

theorem normalizes_webScheme (secure : Bool) :
    normalizes (webScheme secure) = true := by
  cases secure <;> rfl

/-! ## The authority -/

/-- What follows the scheme is part of the text. -/
theorem mem_of_mem_cutScheme {t : Text} {c : Char} (h : c ∈ (cutScheme t).2) :
    c ∈ t := by
  unfold cutScheme at h
  split at h
  · rename_i hcut
    split at h
    · rw [(Text.eq_append_of_cut hcut).1]
      exact List.mem_append_right _ (List.mem_cons_of_mem _ h)
    · exact h
  · exact h

/-- The authority and what follows it are parts of the text. -/
theorem mem_of_mem_cutAuthority {t : Text} {c : Char}
    (h : c ∈ (cutAuthority t).1 ∨ c ∈ (cutAuthority t).2) : c ∈ t := by
  unfold cutAuthority at h
  split at h
  · refine List.mem_cons_of_mem _ (List.mem_cons_of_mem _ ?_)
    obtain h | h := h
    · exact List.takeWhile_subset _ h
    · exact List.dropWhile_subset _ h
  · obtain h | h := h
    · cases h
    · exact h

/-- The host that is there with a port was cut off. -/
theorem cutPort?_of_hostAndPort {address t host : Text} {port : Option Nat}
    (h : hostAndPort address t = .ok (host, port)) :
    ∃ written, cutPort? t = some (host, written) := by
  unfold hostAndPort at h
  split at h
  · obtain ⟨-, -, h⟩ := bind_eq_ok_iff.mp h
    cases h
  · rename_i found written hcut
    split at h
    · cases h
      exact ⟨written, hcut⟩
    · split at h
      · cases h
      · cases h
        exact ⟨written, hcut⟩

/-- A name is escaped. -/
theorem isEscaped_of_isName {t : Text} (h : isName t = true) :
    isEscaped t = true := by
  fun_induction isName t with
  | case1 => rfl
  | case2 high low rest ih =>
    rw [Bool.and_eq_true] at h
    rw [isEscaped_escape_cons, h.1, ih h.2]
    rfl
  | case3 c rest _ ih =>
    rw [Bool.and_eq_true, Bool.not_eq_true'] at h
    have hc : c ≠ '%' := fun e => by
      rw [e] at h
      exact absurd h.1 (by decide)
    rw [isEscaped_cons_of_ne hc, ih h.2]

/-- The host as it is written: in brackets, or escaped. -/
theorem of_cutPort?_eq_some {t host : Text} {port : Option Text}
    (h : cutPort? t = some (host, port)) :
    (bracketed? host = none → isEscaped host = true)
      ∧ ∀ c ∈ host, c ∈ t ∨ c = ']' := by
  unfold cutPort? at h
  dsimp only at h
  split at h
  · have hbracket : host = (Text.cut ']' t).1 ++ [']']
        ∧ (bracketed? host).isSome = true := by
      split at h
      · split at h
        · rename_i hb
          cases h
          exact ⟨rfl, hb⟩
        · cases h
      · split at h
        · rename_i hb
          rw [Bool.and_eq_true] at hb
          cases h
          exact ⟨rfl, hb.1⟩
        · cases h
      · cases h
    refine ⟨fun hnone => ?_, fun c hc => ?_⟩
    · rw [hnone] at hbracket
      cases hbracket.2
    · rw [hbracket.1, List.mem_append, List.mem_singleton] at hc
      exact hc.imp_left Text.mem_of_mem_cut
  · split at h
    · rename_i hname
      rw [Bool.and_eq_true] at hname
      cases h
      exact ⟨fun _ => isEscaped_of_isName hname.1, fun c hc =>
        .inl (Text.mem_of_mem_cut hc)⟩
    · cases h

/-- **The host is tidy** unless it has a zone. -/
theorem isTidy_of_checkedHost [Names] {t host out : Text} {port : Option Text}
    (hcut : cutPort? t = some (host, port))
    (hzone : (bracketed? host).all (·.2.isNone) = true)
    (hwithin : ∀ c ∈ t, endsPath c = false)
    (h : checkedHost true host = .ok out) : IsTidy out := by
  obtain ⟨hname, hmem⟩ := of_cutPort?_eq_some hcut
  have hhost : ∀ c ∈ host, endsPath c = false := by
    intro c hc
    obtain hc | rfl := hmem c hc
    · exact hwithin c hc
    · rfl
  unfold checkedHost at h
  obtain ⟨-, -, h⟩ := bind_eq_ok_iff.mp h
  split at h
  · exact isTidy_of_normalHost h hzone hname hhost
  · rename_i hempty
    cases h
    have hnil : host = [] := by simpa using hempty
    rw [hnil]
    exact .nil

/-! ## The whole address -/

/-- A component that is not there stays away. -/
theorem component_nil (scheme : Text) (allowed : Char → Bool) :
    component scheme allowed [] = [] := by
  unfold component
  split
  · rfl
  · rfl

/-- The components that are put into their normal form are tidy. -/
theorem isTidy_component {secure : Bool} {allowed : Char → Bool}
    (hp : allowed '%' = false)
    (hu : ∀ c, isUnreserved c = true → allowed c = true)
    (he : ∀ c, allowed c = true → endsPath c = false) (part : Text) :
    IsTidy (component (webScheme secure) allowed part) := by
  rw [component, if_pos (normalizes_webScheme secure)]
  exact .encodeComponent hp hu he part

/-- The characters of users and paths end no path. -/
theorem endsPath_of_isPathChar {c : Char} (h : isPathChar c = true) :
    endsPath c = false :=
  endsPath_of_kind (by decide) (by decide) h

theorem isUserChar_of_isUnreserved {c : Char} (h : isUnreserved c = true) :
    isUserChar c = true := by
  rw [isUserChar, h, Bool.true_or]

theorem isPathChar_of_isUserChar {c : Char} (h : isUserChar c = true) :
    isPathChar c = true := by
  rw [isPathChar, h, Bool.true_or, Bool.true_or]

/-- A rooted path is as it was, empty or with a slash in front, or gets
one. -/
theorem rootedPath_cases (path : Text) :
    (rootedPath path = path ∧ ∀ c ∈ path.head?, c = '/')
      ∨ rootedPath path = '/' :: path := by
  unfold rootedPath
  split
  · rename_i hfront
    refine .inl ⟨rfl, fun c hc => ?_⟩
    rw [Bool.or_eq_true, List.isEmpty_iff, decide_eq_true_eq] at hfront
    obtain rfl | hfront := hfront
    · cases hc
    · rw [hfront] at hc
      exact (Option.some.inj hc).symm
  · exact .inr rfl

/-- So it is empty or begins with a slash. -/
theorem head?_rootedPath (path : Text) :
    ∀ c ∈ (rootedPath path).head?, c = '/' := by
  obtain ⟨he, hroot⟩ | he := rootedPath_cases path
  · rwa [he]
  · rw [he]
    exact fun c hc => (Option.some.inj hc).symm

/-- The path of an address of the web is tidy, and empty or rooted. -/
theorem isTidy_normalPath (secure : Bool) (path : Text) :
    IsTidy (normalPath (webScheme secure) path)
      ∧ ∀ c ∈ (normalPath (webScheme secure) path).head?, c = '/' := by
  refine ⟨?_, head?_rootedPath _⟩
  unfold normalPath
  generalize hpart : component (webScheme secure) isPathChar _ = part
  have htidy : IsTidy part := by
    rw [← hpart]
    exact isTidy_component (by decide)
      (fun c hc => isPathChar_of_isUserChar (isUserChar_of_isUnreserved hc))
      (fun c hc => endsPath_of_isPathChar hc) _
  obtain ⟨he, -⟩ | he := rootedPath_cases part
  · rwa [he]
  · rw [he]
    exact .cons (by decide) rfl htidy

/-- **An address of the web without marks**: nothing follows its path, and
its parts are tidy, unless its host has a zone. -/
theorem parse_webAddress [Names] {t : Text} {secure : Bool} {a : Address}
    (hs : schemeOf t = webScheme secure)
    (hwithin : ∀ c ∈ t, endsPath c = false) (hz : isZoned t = false)
    (h : parse t = .ok a) :
    a.scheme = webScheme secure ∧ a.query = [] ∧ a.fragment = []
      ∧ IsTidy a.user ∧ IsTidy a.host ∧ IsTidy a.path
      ∧ ∀ c ∈ a.path.head?, c = '/' := by
  unfold parse at h
  rw [announced_of_schemeOf hs] at h
  dsimp only at h
  rw [hs] at h
  have hafter : ∀ c ∈ (cutScheme t).2, endsPath c = false := fun c hc =>
    hwithin c (mem_of_mem_cutScheme hc)
  have hbehind : ∀ c ∈ behindAuthority t, endsPath c = false := fun c hc =>
    hafter c (mem_of_mem_cutAuthority (.inr hc))
  have hauthority : ∀ c ∈ authorityOf t, endsPath c = false := fun c hc =>
    hafter c (mem_of_mem_cutAuthority (.inl hc))
  -- without marks, nothing is cut off for a fragment or a query
  have hhash : '#' ∉ behindAuthority t := fun hm =>
    absurd (hbehind _ hm) (by decide)
  have hmark : '?' ∉ behindAuthority t := fun hm =>
    absurd (hbehind _ hm) (by decide)
  rw [Text.cut_of_notMem hhash] at h
  dsimp only at h
  rw [Text.cut_of_notMem hmark, normalizes_webScheme] at h
  dsimp only at h
  obtain ⟨⟨host, port⟩, hhost, h⟩ := bind_eq_ok_iff.mp h
  obtain ⟨out, hout, h⟩ := bind_eq_ok_iff.mp h
  obtain ⟨written, hcut⟩ := cutPort?_of_hostAndPort hhost
  -- the host that was read is the one that `isZoned` looks at
  have hzone : (bracketed? host).all (·.2.isNone) = true := by
    rw [isZoned, hcut, Option.bind_some] at hz
    cases hb : bracketed? host with
    | none => rfl
    | some found =>
      rw [hb, Option.any_some] at hz
      rw [Option.all_some, ← Option.not_isSome, hz]
      rfl
  cases h
  refine ⟨rfl, component_nil _ _, component_nil _ _, ?_, ?_,
    isTidy_normalPath secure _⟩
  · exact isTidy_component (by decide) (fun c => isUserChar_of_isUnreserved)
      (fun c hc => endsPath_of_isPathChar (isPathChar_of_isUserChar hc)) _
  · exact isTidy_of_checkedHost hcut hzone
      (fun c hc => hauthority c (Text.mem_of_mem_cutLast hc)) hout

end Address
end Url
end QueryClient
