import QueryClient.Proofs.EscapedText
import QueryClient.Url.Form

/-!
# What requoting leaves alone

Requoting looks at the whole address before it does anything: one misused
percent sign, wherever it stands, and no escape is read at all. So what
becomes of a part depends on the others, and the laws here say of which
parts it does not.

A text is **settled** when reading the escapes of unreserved characters
leaves it as it is, whatever follows. Form text is settled, since it never
escapes an unreserved character (`Form.isSettled_encode`). An escaped text in
front of a settled one cannot trip up the reading, and then the settled text
comes out unchanged: `requote_append_of_isSettled`.
-/

namespace QueryClient.Url

/-- A text is **settled** if reading the escapes of unreserved characters
leaves it as it is, whatever follows. -/
def IsSettled (t : Text) : Prop :=
  ∀ rest, readUnreserved? (t ++ rest) = (readUnreserved? rest).map (t ++ ·)

/-! ## Reading escapes -/

/-- The value of a hexadecimal digit is that digit's in the wider sense. -/
theorem digitValue?_of_isHexDigit {c : Char} (h : Text.isHexDigit c = true) :
    digitValue? c = Text.hexValue? c := by
  unfold digitValue?
  unfold Text.isHexDigit at h
  rw [Option.isSome_iff_exists] at h
  obtain ⟨n, hn⟩ := h
  rw [hn]
  rfl

/-- The value of a hexadecimal digit is below sixteen. -/
theorem lt_of_hexValue? {c : Char} {n : Nat} (h : Text.hexValue? c = some n) :
    n < 16 := by
  have hc : c.toNat < 128 :=
    Text.toNat_lt_of_isHexDigit (by rw [Text.isHexDigit, h]; rfl)
  have hall : ∀ k ∈ Text.hexValue? c, k < 16 :=
    Text.ascii_cases (P := fun c => ∀ k ∈ Text.hexValue? c, k < 16)
      (by decide) hc
  exact hall n h

/-- An escape is read, or left if it is not that of an unreserved
character. -/
theorem readUnreserved?_escape {high low : Char} {o : UInt8}
    (h : octet? high low = some o) (t : Text) :
    readUnreserved? ('%' :: high :: low :: t)
      = (readUnreserved? t).map
        ((if isUnreserved (Char.ofNat o.toNat) then [Char.ofNat o.toNat]
          else ['%', high, low]) ++ ·) := by
  obtain ⟨hhigh, hlow⟩ := isSome_octet?_iff.mp (by rw [h]; rfl)
  have ahigh := Text.isAlphanumeric_of_isAlphanum
    (Text.isAlphanum_of_isHexDigit hhigh)
  have alow := Text.isAlphanumeric_of_isAlphanum
    (Text.isAlphanum_of_isHexDigit hlow)
  rw [readUnreserved?, ahigh, alow, digitValue?_of_isHexDigit hhigh,
    digitValue?_of_isHexDigit hlow]
  obtain ⟨m, hm⟩ := Option.isSome_iff_exists.mp hhigh
  obtain ⟨n, hn⟩ := Option.isSome_iff_exists.mp hlow
  have hm16 := lt_of_hexValue? hm
  have hn16 := lt_of_hexValue? hn
  have ho : o.toNat = m * 16 + n := by
    rw [octet?, hm, hn] at h
    have ho : UInt8.ofNat (m * 16 + n) = o := Option.some.inj h
    rw [← ho]
    exact Utf8.toNat_octet (by omega)
  rw [hm, hn, ho]
  rfl

/-- A character that is no percent sign is passed over. -/
theorem readUnreserved?_cons_of_ne {c : Char} (h : c ≠ '%') (t : Text) :
    readUnreserved? (c :: t) = (readUnreserved? t).map (c :: ·) := by
  rw [readUnreserved?]
  intro _ _ _ hc
  exact absurd hc h

/-- **Escaped text does not trip up the reading**: what follows is read by
itself. -/
theorem readUnreserved?_append {s : Text} (hs : isEscaped s = true)
    (t : Text) :
    ∃ read, readUnreserved? s = some read
      ∧ readUnreserved? (s ++ t) = (readUnreserved? t).map (read ++ ·) := by
  -- escape by escape, as the reading goes
  fun_induction isEscaped s with
  | case1 high low rest ih =>
    rw [Bool.and_eq_true, Option.isSome_iff_exists] at hs
    obtain ⟨⟨o, ho⟩, hrest⟩ := hs
    obtain ⟨read, hread, happ⟩ := ih hrest
    refine ⟨_, by rw [readUnreserved?_escape ho, hread]; rfl, ?_⟩
    show readUnreserved? ('%' :: high :: low :: (rest ++ t)) = _
    rw [readUnreserved?_escape ho, happ, Option.map_map]
    simp only [Function.comp_def, List.append_assoc]
  | case2 c rest _ ih =>
    rw [Bool.and_eq_true, bne_iff_ne] at hs
    obtain ⟨read, hread, happ⟩ := ih hs.2
    refine ⟨c :: read, by rw [readUnreserved?_cons_of_ne hs.1, hread]; rfl, ?_⟩
    rw [List.cons_append, readUnreserved?_cons_of_ne hs.1, happ,
      Option.map_map]
    rfl
  | case3 =>
    refine ⟨[], rfl, ?_⟩
    rw [List.nil_append]
    exact Option.map_id'.symm

/-- Reading brings in unreserved characters only. -/
theorem mem_readUnreserved? {t read : Text}
    (h : readUnreserved? t = some read) {d : Char} (hd : d ∈ read) :
    d ∈ t ∨ isUnreserved d = true := by
  fun_induction readUnreserved? t generalizing read with
  | case1 high low rest =>
    rename_i ih
    obtain ⟨more, hmore, rfl⟩ := Option.map_eq_some_iff.mp h
    rw [List.mem_append] at hd
    obtain hd | hd := hd
    · split at hd
      · rename_i hc
        rw [List.mem_singleton] at hd
        exact .inr (hd ▸ hc)
      · simp only [List.mem_cons, List.not_mem_nil, or_false] at hd
        obtain rfl | rfl | rfl := hd
        all_goals exact .inl (by simp)
    · exact (ih hmore hd).imp_left fun hm => by simp [hm]
  | case2 => cases h
  | case3 high low rest _ ih =>
    obtain ⟨more, hmore, rfl⟩ := Option.map_eq_some_iff.mp h
    obtain rfl | hd := List.mem_cons.mp hd
    · exact .inl (List.mem_cons_self ..)
    · exact (ih hmore hd).imp_left (List.mem_cons_of_mem _)
  | case4 c rest _ ih =>
    obtain ⟨more, hmore, rfl⟩ := Option.map_eq_some_iff.mp h
    obtain rfl | hd := List.mem_cons.mp hd
    · exact .inl (List.mem_cons_self ..)
    · exact (ih hmore hd).imp_left (List.mem_cons_of_mem _)
  | case5 =>
    cases h
    cases hd

/-! ## Settled text -/

/-- So it leaves it as it is by itself. -/
theorem readUnreserved?_of_isSettled {t : Text} (h : IsSettled t) :
    readUnreserved? t = some t := by
  have h := h []
  rwa [List.append_nil, readUnreserved?, Option.map_some, List.append_nil] at h

namespace IsSettled

theorem nil : IsSettled [] := fun _ => Option.map_id'.symm

theorem append {s t : Text} (hs : IsSettled s) (ht : IsSettled t) :
    IsSettled (s ++ t) := by
  intro rest
  rw [List.append_assoc, hs, ht, Option.map_map]
  simp only [Function.comp_def, List.append_assoc]

theorem flatMap {α : Type} {l : List α} {f : α → Text}
    (h : ∀ a ∈ l, IsSettled (f a)) : IsSettled (l.flatMap f) := by
  induction l with
  | nil => exact nil
  | cons a l ih =>
    rw [List.forall_mem_cons] at h
    rw [List.flatMap_cons]
    exact h.1.append (ih h.2)

theorem joinFields {sep : Text} (hsep : IsSettled sep) {parts : List Text}
    (h : ∀ part ∈ parts, IsSettled part) :
    IsSettled (Text.joinFields sep parts) := by
  induction parts with
  | nil => exact nil
  | cons a parts ih =>
    rw [List.forall_mem_cons] at h
    cases parts with
    | nil => rw [Text.joinFields_singleton]; exact h.1
    | cons b rest =>
      rw [Text.joinFields_cons_cons]
      exact (h.1.append hsep).append (ih h.2)

/-- A character that is no percent sign is settled. -/
theorem singleton {c : Char} (h : c ≠ '%') : IsSettled [c] :=
  fun rest => readUnreserved?_cons_of_ne h rest

/-- The escape of an octet is settled unless the octet is an unreserved
character. -/
theorem escapeOctet {o : UInt8}
    (h : isUnreserved (Char.ofNat o.toNat) = false) :
    IsSettled (escapeOctet o) := by
  intro rest
  show readUnreserved? ('%' :: _ :: _ :: rest) = _
  rw [readUnreserved?_escape (octet_hexDigits o), h]
  rfl

/-- A text without percent signs is settled. -/
theorem of_notMem {t : Text} (h : '%' ∉ t) : IsSettled t := by
  induction t with
  | nil => exact nil
  | cons c t ih =>
    rw [List.mem_cons, not_or] at h
    exact (singleton (Ne.symm h.1)).append (ih h.2)

end IsSettled

/-- The character of an octet has its number. -/
theorem toNat_ofNat_octet (o : UInt8) : (Char.ofNat o.toNat).toNat = o.toNat := by
  have h : o.toNat.isValidChar := .inl (Nat.lt_trans o.toNat_lt (by decide))
  rw [Char.ofNat, dif_pos h]
  rfl

/-- The octets of a character that is not unreserved are no unreserved
characters. -/
theorem isUnreserved_of_mem_encodeChar {c : Char}
    (hc : isUnreserved c = false) {o : UInt8} (ho : o ∈ Utf8.encodeChar c) :
    isUnreserved (Char.ofNat o.toNat) = false := by
  by_cases h : c.toNat < 0x80
  · rw [Utf8.encodeChar, if_pos h, List.mem_singleton] at ho
    rw [ho, Utf8.toNat_octet (by omega), Char.ofNat_toNat, hc]
  · -- beyond the ASCII range no octet is a character of it
    have ho80 : 0x80 ≤ o.toNat := Utf8.le_toNat_of_mem_encodeChar h ho
    have hlt := o.toNat_lt
    refine Bool.eq_false_iff.mpr fun hu => ?_
    have hn := toNat_lt_of_isUnreserved hu
    rw [toNat_ofNat_octet] at hn
    omega

/-- So their escapes are settled. -/
theorem isSettled_escapeChar {c : Char} (hc : isUnreserved c = false) :
    IsSettled (escapeChar c) :=
  .flatMap fun _ ho => .escapeOctet (isUnreserved_of_mem_encodeChar hc ho)

namespace Form

/-- **A written name or value is settled.** -/
theorem isSettled_encodeText (t : Text) : IsSettled (encodeText t) := by
  refine .flatMap fun c _ => ?_
  unfold encodeChar
  split
  · exact .singleton (by decide)
  split
  · rename_i hu
    refine .singleton fun he => ?_
    rw [he] at hu
    exact absurd hu (by decide)
  · rename_i hu
    exact isSettled_escapeChar (Bool.not_eq_true _ ▸ hu)

/-- **Form text is settled.** -/
theorem isSettled_encode (pairs : List (Text × Text)) :
    IsSettled (encode pairs) := by
  refine .joinFields (.singleton (by decide)) fun part hp => ?_
  obtain ⟨pair, _, rfl⟩ := List.mem_map.mp hp
  exact (isSettled_encodeText _).append
    ((IsSettled.singleton (c := '=') (by decide)).append
      (isSettled_encodeText _))

/-- Form text of something is something. -/
theorem encode_ne_nil {pairs : List (Text × Text)} (h : pairs ≠ []) :
    encode pairs ≠ [] := by
  obtain ⟨p, rest, rfl⟩ := List.exists_cons_of_ne_nil h
  refine Text.joinFields_ne_nil (encodePair p) ?_ ?_
  · exact List.mem_cons_self ..
  · exact List.append_ne_nil_of_right_ne_nil _ (List.cons_ne_nil _ _)

/-- The characters of form text: those of names and values, and the two
that join. -/
theorem mem_encode {pairs : List (Text × Text)} {d : Char}
    (h : d ∈ encode pairs) : isFormChar d = true ∨ d = '=' ∨ d = '&' := by
  obtain hd | ⟨part, hp, hd⟩ := Text.mem_joinFields h
  · exact .inr (.inr (List.mem_singleton.mp hd))
  · obtain ⟨pair, _, rfl⟩ := List.mem_map.mp hp
    rw [encodePair, List.mem_append, List.mem_cons] at hd
    obtain hd | hd | hd := hd
    · exact .inl (isFormChar_of_mem_encodeText hd)
    · exact .inr (.inl hd)
    · exact .inl (isFormChar_of_mem_encodeText hd)

/-- Form text may stand in an address. -/
theorem isPlain_of_mem_encode {pairs : List (Text × Text)} {d : Char}
    (h : d ∈ encode pairs) : isPlain d = true ∨ d = '%' := by
  obtain hd | rfl | rfl := mem_encode h
  · unfold isFormChar at hd
    rw [Bool.or_eq_true, Bool.or_eq_true, beq_iff_eq, beq_iff_eq] at hd
    obtain (hd | rfl) | hd := hd
    · exact .inl (isPlain_of_isUnreserved hd)
    · exact .inl (by decide)
    · exact .inr hd
  · exact .inl (by decide)
  · exact .inl (by decide)

end Form

/-! ## Requoting -/

/-- Escaping leaves a text of characters to keep alone. -/
theorem escape_of_forall {keep : Char → Bool} {t : Text}
    (h : ∀ c ∈ t, keep c = true) : escape keep t = t := by
  induction t with
  | nil => rfl
  | cons c t ih =>
    rw [List.forall_mem_cons] at h
    rw [escape_cons, if_pos h.1, ih h.2]
    rfl

/-- **Requoting lets settled text behind escaped text alone.** -/
theorem requote_append_of_isSettled {s t : Text} (hs : isEscaped s = true)
    (ht : IsSettled t) (hp : ∀ c ∈ t, isPlain c = true ∨ c = '%') :
    requote (s ++ t) = requote s ++ t := by
  obtain ⟨read, hread, happ⟩ := readUnreserved?_append hs t
  -- so it cannot be the settled text that trips up the reading
  have hself := readUnreserved?_of_isSettled ht
  unfold requote
  rw [happ, hself, hread]
  show escape _ (read ++ t) = escape _ read ++ t
  rw [escape_append, escape_of_forall (t := t)]
  intro c hc
  rw [Bool.or_eq_true, beq_iff_eq]
  exact hp c hc

/-- Requoting lets a text of characters that may stand in an address alone,
whatever follows, if there is no percent sign in it. -/
theorem requote_append_of_isPlain {s : Text}
    (hs : ∀ c ∈ s, isPlain c = true) (t : Text) :
    requote (s ++ t) = s ++ requote t := by
  have hset : IsSettled s := .of_notMem fun h => by
    have := hs '%' h
    exact absurd this (by decide)
  unfold requote
  rw [hset t]
  cases readUnreserved? t with
  | none =>
    -- a stray percent sign in what follows: no escape is read here either
    show escape _ (s ++ t) = s ++ escape _ t
    rw [escape_append, escape_of_forall hs]
  | some read =>
    show escape _ (s ++ read) = s ++ escape _ read
    rw [escape_append, escape_of_forall fun c hc => by rw [hs c hc, Bool.true_or]]

/-- Whether a percent sign in the text is **misused**: two letters or
numerals follow it that are no hexadecimal number. -/
def isMisused (t : Text) : Bool :=
  (readUnreserved? t).isNone

/-- The text requoted, when it is known whether a percent sign is
misused. -/
def requoteAs (misused : Bool) (t : Text) : Text :=
  if misused then escape isPlain t
  else escape (fun c => isPlain c || c == '%') ((readUnreserved? t).getD [])

/-- A text is requoted as what it is. -/
theorem requote_eq_requoteAs (t : Text) :
    requote t = requoteAs (isMisused t) t := by
  unfold requote requoteAs isMisused
  cases readUnreserved? t with
  | none => rfl
  | some read => rfl

/-- What is requoted holds percent signs and characters that may stand in an
address. -/
theorem isPlain_of_mem_requoteAs {misused : Bool} {t : Text} {d : Char}
    (h : d ∈ requoteAs misused t) : d = '%' ∨ isPlain d = true := by
  unfold requoteAs at h
  split at h
  · obtain ⟨-, hd⟩ | rfl | hd := mem_escape h
    · exact .inr hd
    · exact .inl rfl
    · exact .inr (isPlain_of_isUnreserved hd)
  · obtain ⟨-, hd⟩ | rfl | hd := mem_escape h
    · rw [Bool.or_eq_true, beq_iff_eq] at hd
      exact hd.symm
    · exact .inl rfl
    · exact .inr (isPlain_of_isUnreserved hd)

theorem isPlain_of_mem_requote {t : Text} {d : Char} (h : d ∈ requote t) :
    d = '%' ∨ isPlain d = true :=
  isPlain_of_mem_requoteAs (requote_eq_requoteAs t ▸ h)

/-- **Requoting brings in no punctuation**: what is not unreserved, and no
percent sign, was there before. -/
theorem mem_of_mem_requoteAs {misused : Bool} {t : Text} {d : Char}
    (h : d ∈ requoteAs misused t) (hp : d ≠ '%')
    (hu : isUnreserved d = false) : d ∈ t := by
  unfold requoteAs at h
  split at h
  · obtain ⟨hd, -⟩ | hd | hd := mem_escape h
    · exact hd
    · exact absurd hd hp
    · rw [hu] at hd
      cases hd
  · obtain ⟨hd, -⟩ | hd | hd := mem_escape h
    · cases hread : readUnreserved? t with
      | none =>
        rw [hread] at hd
        cases hd
      | some read =>
        rw [hread] at hd
        obtain hd | hd := mem_readUnreserved? hread hd
        · exact hd
        · rw [hu] at hd
          cases hd
    · exact absurd hd hp
    · rw [hu] at hd
      cases hd

end QueryClient.Url
