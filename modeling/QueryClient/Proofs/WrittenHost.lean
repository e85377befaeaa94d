import QueryClient.Proofs.Attempt
import QueryClient.Proofs.EscapedText
import QueryClient.Request

/-!
# Hosts as they go into an address

A text is **tidy** if it is escaped and holds no character that ends a path.
Tidy texts make up what stands in front of the query: whoever divides the
address again finds its query where it was put.

Hosts need the longest argument. The escapes of a host are read, its labels
are put in lower case or in Punycode, and a host that is still not ASCII is
written in Punycode as a whole. Nothing of this untidies it. The exception is
an IPv6 address with a zone: the percent sign in front of the zone is one
that begins no escape.
-/

namespace QueryClient

namespace Url

/-- Whether the character ends a path. -/
def endsPath (c : Char) : Bool :=
  c == '?' || c == '#'

/-- A path is ended by a query or a fragment. -/
theorem endsPath_iff {c : Char} : endsPath c = true ↔ c = '?' ∨ c = '#' := by
  rw [endsPath, Bool.or_eq_true, beq_iff_eq, beq_iff_eq]

/-- A text is **tidy** if it is escaped and no character in it ends a
path. -/
structure IsTidy (t : Text) : Prop where
  /-- It is escaped. -/
  escaped : isEscaped t = true
  /-- No character in it ends a path. -/
  within : ∀ c ∈ t, endsPath c = false

/-- A kind of character without the question mark and the hash ends no
path. -/
theorem endsPath_of_kind {p : Char → Bool} (hmark : p '?' = false)
    (hhash : p '#' = false) {c : Char} (h : p c = true) :
    endsPath c = false := by
  refine Bool.eq_false_iff.mpr fun he => ?_
  obtain rfl | rfl := endsPath_iff.mp he
  · rw [hmark] at h
    cases h
  · rw [hhash] at h
    cases h

/-- Unreserved characters end no path. -/
theorem endsPath_of_isUnreserved {c : Char} (h : isUnreserved c = true) :
    endsPath c = false :=
  endsPath_of_kind (by decide) (by decide) h

namespace IsTidy

theorem nil : IsTidy [] := ⟨rfl, by simp⟩

theorem append {s t : Text} (hs : IsTidy s) (ht : IsTidy t) :
    IsTidy (s ++ t) := by
  refine ⟨isEscaped_append hs.escaped ht.escaped, fun c hc => ?_⟩
  obtain hc | hc := List.mem_append.mp hc
  · exact hs.within c hc
  · exact ht.within c hc

/-- A character that is no percent sign may stand in front. -/
theorem cons {c : Char} (hc : c ≠ '%') (he : endsPath c = false) {t : Text}
    (ht : IsTidy t) : IsTidy (c :: t) := by
  refine ⟨by rw [isEscaped_cons_of_ne hc, ht.escaped], ?_⟩
  rw [List.forall_mem_cons]
  exact ⟨he, ht.within⟩

/-- Unreserved characters are tidy. -/
theorem of_isUnreserved {t : Text} (h : ∀ c ∈ t, isUnreserved c = true) :
    IsTidy t := by
  refine ⟨isEscaped_of_notMem fun hp => ?_, fun c hc =>
    endsPath_of_isUnreserved (h c hc)⟩
  exact absurd (h '%' hp) (by decide)

/-- Lower case exchanges letters only. -/
theorem lowerAscii {t : Text} (ht : IsTidy t) : IsTidy (Text.lowerAscii t) := by
  refine ⟨isEscaped_lowerAscii ht.escaped, fun c hc => ?_⟩
  obtain hc | hc := mem_lowerAscii hc
  · exact ht.within c hc
  · exact endsPath_of_isUnreserved hc

theorem joinFields {sep : Char} (hsep : sep ≠ '%')
    (he : endsPath sep = false) {parts : List Text}
    (h : ∀ part ∈ parts, IsTidy part) : IsTidy (Text.joinFields [sep] parts) := by
  refine ⟨isEscaped_joinFields hsep fun part hp => (h part hp).escaped, ?_⟩
  intro c hc
  obtain hc | ⟨part, hp, hc⟩ := Text.mem_joinFields hc
  · rw [List.mem_singleton.mp hc, he]
  · exact (h part hp).within c hc

/-- **A component is tidy**, if no character it allows ends a path. -/
theorem encodeComponent {allowed : Char → Bool} (hp : allowed '%' = false)
    (hu : ∀ c, isUnreserved c = true → allowed c = true)
    (he : ∀ c, allowed c = true → endsPath c = false) (t : Text) :
    IsTidy (encodeComponent allowed t) := by
  refine ⟨isEscaped_encodeComponent hp hu t, fun c hc => ?_⟩
  obtain rfl | hc := mem_encodeComponent hu hc
  · rfl
  · exact he c hc

end IsTidy

/-! ## Labels -/

/-- **A label in its normal form is tidy** if it was. -/
theorem isTidy_of_normalLabel [Names] {label out : Text}
    (h : normalLabel label = .ok out) (hl : IsTidy label) : IsTidy out := by
  unfold normalLabel at h
  split at h
  · cases h
    have hlower := hl.lowerAscii
    refine ⟨isEscaped_upperEscapes hlower.escaped, fun c hc => ?_⟩
    obtain hc | hc := mem_upperEscapes hc
    · exact hlower.within c hc
    · exact endsPath_of_isUnreserved hc
  · cases he : Names.label? label with
    | none =>
      rw [he] at h
      cases h
    | some e =>
      rw [he] at h
      cases h
      exact .of_isUnreserved (Names.travels_label he).unreserved

/-! ## Hosts -/

/-- The fields of an escaped text are escaped, whichever character but the
percent sign and the digits divides them. -/
theorem isEscaped_of_mem_fields {sep : Char} (hx : Text.isHexDigit sep = false)
    (hsep : sep ≠ '%') {t : Text} (ht : isEscaped t = true) :
    ∀ part ∈ Text.fields sep t, isEscaped part = true := by
  fun_induction isEscaped t with
  | case1 high low rest ih =>
    rw [Bool.and_eq_true] at ht
    obtain ⟨hhigh, hlow⟩ := isSome_octet?_iff.mp ht.1
    have nhigh : high ≠ sep := fun e => by
      rw [e, hx] at hhigh
      cases hhigh
    have nlow : low ≠ sep := fun e => by
      rw [e, hx] at hlow
      cases hlow
    have ih := ih ht.2
    obtain ⟨first, more, hf⟩ :=
      List.exists_cons_of_ne_nil (Text.fields_ne_nil sep rest)
    rw [hf, List.forall_mem_cons] at ih
    rw [Text.fields_cons, Text.fields_cons, Text.fields_cons, hf,
      Text.pushField, Text.pushField, Text.pushField, if_neg nlow,
      if_neg nhigh, if_neg (Ne.symm hsep)]
    show ∀ part ∈ ('%' :: high :: low :: first) :: more, _
    rw [List.forall_mem_cons, isEscaped_escape_cons, ht.1, ih.1]
    exact ⟨rfl, ih.2⟩
  | case2 c rest _ ih =>
    rw [Bool.and_eq_true, bne_iff_ne] at ht
    have ih := ih ht.2
    obtain ⟨first, more, hf⟩ :=
      List.exists_cons_of_ne_nil (Text.fields_ne_nil sep rest)
    rw [hf] at ih
    rw [Text.fields_cons, hf, Text.pushField]
    split
    · rw [List.forall_mem_cons]
      exact ⟨rfl, ih⟩
    · rw [List.forall_mem_cons] at ih
      show ∀ part ∈ (c :: first) :: more, _
      rw [List.forall_mem_cons, isEscaped_cons_of_ne ht.1]
      exact ih
  | case3 =>
    rw [Text.fields_nil, List.forall_mem_singleton]
    rfl

/-- Reading the escapes of a host leaves it escaped. -/
theorem isEscaped_readEscapes {t : Text} (ht : isEscaped t = true) :
    isEscaped (readEscapes t) = true := by
  fun_induction isEscaped t with
  | case1 high low rest ih =>
    rw [Bool.and_eq_true, Option.isSome_iff_exists] at ht
    obtain ⟨⟨o, ho⟩, hrest⟩ := ht
    rw [readEscapes, ho]
    refine isEscaped_append ?_ (ih hrest)
    split
    · rename_i hc
      refine isEscaped_of_notMem fun hm => ?_
      rw [← List.mem_singleton.mp hm] at hc
      exact absurd hc (by decide)
    · obtain ⟨hhigh, hlow⟩ := isSome_octet?_iff.mp (by rw [ho]; rfl)
      rw [isEscaped_escape_cons, isSome_octet?_iff.mpr
        ⟨Text.isHexDigit_toUpper hhigh, Text.isHexDigit_toUpper hlow⟩]
      rfl
  | case2 c rest hne ih =>
    rw [Bool.and_eq_true, bne_iff_ne] at ht
    rw [readEscapes]
    · rw [isEscaped_cons_of_ne ht.1, ih ht.2]
    · exact hne
  | case3 => rfl

/-- It brings in unreserved characters only. -/
theorem mem_readEscapes {t : Text} {d : Char} (h : d ∈ readEscapes t) :
    d ∈ t ∨ isUnreserved d = true := by
  fun_induction readEscapes t with
  | case1 high low rest o ho c ih =>
    rw [List.mem_append] at h
    obtain h | h := h
    · obtain ⟨hhigh, hlow⟩ := isSome_octet?_iff.mp (by rw [ho]; rfl)
      split at h
      · rename_i hc
        rw [List.mem_singleton.mp h]
        exact .inr hc
      · rw [List.mem_cons, List.mem_cons, List.mem_singleton] at h
        obtain rfl | rfl | rfl := h
        · exact .inl (List.mem_cons_self ..)
        · exact .inr (isUnreserved_of_isHexDigit (Text.isHexDigit_toUpper hhigh))
        · exact .inr (isUnreserved_of_isHexDigit (Text.isHexDigit_toUpper hlow))
    · exact (ih h).imp_left fun hm => by simp [hm]
  | case2 high low rest ho ih =>
    obtain rfl | h := List.mem_cons.mp h
    · exact .inl (List.mem_cons_self ..)
    · exact (ih h).imp_left (List.mem_cons_of_mem _)
  | case3 c rest _ ih =>
    obtain rfl | h := List.mem_cons.mp h
    · exact .inl (List.mem_cons_self ..)
    · exact (ih h).imp_left (List.mem_cons_of_mem _)
  | case4 => cases h

/-- The address in brackets is part of the host, and without percent
signs. -/
theorem of_bracketed?_eq_some {host address : Text} {zone : Option Text}
    (h : bracketed? host = some (address, zone)) :
    '%' ∉ address ∧ ∀ c ∈ address, c ∈ host := by
  unfold bracketed? at h
  split at h
  · rename_i rest
    dsimp only at h
    split at h
    · cases h
      refine ⟨Text.notMem_cut _ _, fun c hc => List.mem_cons_of_mem _ ?_⟩
      exact Text.mem_of_mem_cut (Text.mem_of_mem_cut hc)
    · cases h
  · cases h

/-- **A host in its normal form is tidy**, if it has no zone and, unless it
stands in brackets, was tidy. -/
theorem isTidy_of_normalHost [Names] {host out : Text}
    (h : normalHost host = .ok out)
    (hzone : (bracketed? host).all (·.2.isNone) = true)
    (hname : bracketed? host = none → isEscaped host = true)
    (hwithin : ∀ c ∈ host, endsPath c = false) : IsTidy out := by
  unfold normalHost at h
  split at h
  · rename_i address zone hb
    rw [hb, Option.all_some, Option.isNone_iff_eq_none] at hzone
    subst hzone
    cases h
    obtain ⟨hnot, hmem⟩ := of_bracketed?_eq_some hb
    have haddress : IsTidy address :=
      ⟨isEscaped_of_notMem hnot, fun c hc => hwithin c (hmem c hc)⟩
    show IsTidy ('[' :: (Text.lowerAscii address ++ [] ++ [']']))
    rw [List.append_nil]
    refine .cons (by decide) rfl (haddress.lowerAscii.append ?_)
    exact .cons (by decide) rfl .nil
  · rename_i hb
    have hescaped := hname hb
    split at h
    · cases h
      exact ⟨hescaped, hwithin⟩
    split at h
    · cases h
    obtain ⟨labels, hlabels, h⟩ := bind_eq_ok_iff.mp h
    cases h
    refine .joinFields (by decide) rfl fun part hp => ?_
    obtain ⟨label, hl, hpart⟩ := exists_of_mem_of_mapM hlabels hp
    refine isTidy_of_normalLabel hpart ⟨?_, fun c hc => ?_⟩
    · exact isEscaped_of_mem_fields (by decide) (by decide)
        (isEscaped_readEscapes hescaped) label hl
    · obtain hc | hc := mem_readEscapes (Text.mem_of_mem_fields hl hc)
      · exact hwithin c hc
      · exact endsPath_of_isUnreserved hc

/-- A host goes into an address as it is, or in the form in which it
travels. -/
theorem of_writtenHost_eq_ok [Names] {host out : Text}
    (h : Request.writtenHost host = .ok out) :
    Names.name? host = some out ∨ out = host := by
  unfold Request.writtenHost at h
  split at h
  · cases he : Names.name? host with
    | none =>
      rw [he] at h
      cases h
    | some e =>
      rw [he] at h
      cases h
      exact .inl rfl
  split at h
  · cases h
  · cases h
    exact .inr rfl

/-- **A host as it goes into an address is tidy** if it was. -/
theorem isTidy_of_writtenHost [Names] {host out : Text}
    (h : Request.writtenHost host = .ok out) (hh : IsTidy host) :
    IsTidy out := by
  obtain he | rfl := of_writtenHost_eq_ok h
  · exact .of_isUnreserved (Names.travels_name he).unreserved
  · exact hh

/-- And it is not empty, if it was not. -/
theorem ne_nil_of_writtenHost [Names] {host out : Text}
    (h : Request.writtenHost host = .ok out) (hh : host ≠ []) : out ≠ [] := by
  obtain he | rfl := of_writtenHost_eq_ok h
  · exact (Names.travels_name he).ne_nil
  · exact hh

end Url
end QueryClient
