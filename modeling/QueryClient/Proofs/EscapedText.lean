import QueryClient.Proofs.AsciiCharacters
import QueryClient.Proofs.DividedText
import QueryClient.Url.Component

/-!
# Escaped text

A text is **escaped** when every percent sign in it begins an escape. Such
texts can be put side by side, and they stay escaped through all that is
done to the parts of an address: escapes in capitals, letters in lower case,
other characters escaped. A component is escaped whatever it was before
(`isEscaped_encodeComponent`), because a text that is not gets its percent
signs escaped too.

Beside it goes a second question, which characters such an operation can
bring in. The answer is always the same: percent signs and unreserved
characters, and never punctuation of addresses.
-/

namespace QueryClient

/-- Beyond the ASCII range all octets have their first bit set. -/
theorem Utf8.le_toNat_of_mem_encodeChar {c : Char} (hc : ¬c.toNat < 0x80)
    {o : UInt8} (ho : o ∈ encodeChar c) : 0x80 ≤ o.toNat := by
  have hv : c.toNat < 0x110000 := by
    have h : c.toNat < 0xD800 ∨ 0xDFFF < c.toNat ∧ c.toNat < 0x110000 := c.valid
    omega
  unfold encodeChar at ho
  generalize c.toNat = n at hc hv ho
  dsimp only at ho
  rw [if_neg hc] at ho
  split at ho
  · simp only [List.mem_cons, List.not_mem_nil, or_false] at ho
    obtain rfl | rfl := ho <;> rw [toNat_octet (by omega)] <;> omega
  split at ho
  · simp only [List.mem_cons, List.not_mem_nil, or_false] at ho
    obtain rfl | rfl | rfl := ho <;> rw [toNat_octet (by omega)] <;> omega
  · simp only [List.mem_cons, List.not_mem_nil, or_false] at ho
    obtain rfl | rfl | rfl | rfl := ho <;> rw [toNat_octet (by omega)] <;> omega

namespace Url

/-! ## What is escaped -/

@[simp] theorem isEscaped_nil : isEscaped [] = true := rfl

/-- An escape is passed over. -/
theorem isEscaped_escape_cons (high low : Char) (t : Text) :
    isEscaped ('%' :: high :: low :: t)
      = ((octet? high low).isSome && isEscaped t) := rfl

/-- So is any character that is no percent sign. -/
theorem isEscaped_cons_of_ne {c : Char} (h : c ≠ '%') (t : Text) :
    isEscaped (c :: t) = isEscaped t := by
  rw [isEscaped]
  · simp [h]
  · intro _ _ _ hc
    exact absurd hc h

/-- A text without percent signs is escaped. -/
theorem isEscaped_of_notMem {t : Text} (h : '%' ∉ t) :
    isEscaped t = true := by
  induction t with
  | nil => rfl
  | cons c t ih =>
    rw [List.mem_cons, not_or] at h
    rw [isEscaped_cons_of_ne (Ne.symm h.1), ih h.2]

/-- **What is escaped and what is escaped make a text that is.** -/
theorem isEscaped_append {s t : Text} (hs : isEscaped s = true)
    (ht : isEscaped t = true) : isEscaped (s ++ t) = true := by
  fun_induction isEscaped s with
  | case1 high low rest ih =>
    rw [Bool.and_eq_true] at hs
    show isEscaped ('%' :: high :: low :: (rest ++ t)) = true
    rw [isEscaped_escape_cons, hs.1, ih hs.2]
    rfl
  | case2 c rest _ ih =>
    rw [Bool.and_eq_true, bne_iff_ne] at hs
    rw [List.cons_append, isEscaped_cons_of_ne hs.1, ih hs.2]
  | case3 => exact ht

/-- Pieces that are escaped make a text that is. -/
theorem isEscaped_flatMap {α : Type} {l : List α} {f : α → Text}
    (h : ∀ a ∈ l, isEscaped (f a) = true) :
    isEscaped (l.flatMap f) = true := by
  induction l with
  | nil => rfl
  | cons a l ih =>
    rw [List.forall_mem_cons] at h
    rw [List.flatMap_cons]
    exact isEscaped_append h.1 (ih h.2)

/-- So do fields, with a separator between them that is no percent sign. -/
theorem isEscaped_joinFields {sep : Char} (hsep : sep ≠ '%')
    {parts : List Text} (h : ∀ part ∈ parts, isEscaped part = true) :
    isEscaped (Text.joinFields [sep] parts) = true := by
  induction parts with
  | nil => rfl
  | cons a parts ih =>
    rw [List.forall_mem_cons] at h
    cases parts with
    | nil => rw [Text.joinFields_singleton, h.1]
    | cons b rest =>
      rw [Text.joinFields_cons_cons]
      refine isEscaped_append (isEscaped_append h.1 ?_) (ih h.2)
      rw [isEscaped_cons_of_ne hsep, isEscaped_nil]

/-- The escape of an octet is escaped. -/
theorem isEscaped_escapeOctet (o : UInt8) :
    isEscaped (escapeOctet o) = true := by
  rw [escapeOctet, isEscaped_escape_cons, octet_hexDigits]
  rfl

/-- So are the escapes of a character. -/
theorem isEscaped_escapeChar (c : Char) : isEscaped (escapeChar c) = true :=
  isEscaped_flatMap fun o _ => isEscaped_escapeOctet o

/-- A text is escaped once its percent signs are escaped with the rest. -/
theorem isEscaped_escape {keep : Char → Bool} (h : keep '%' = false)
    (t : Text) : isEscaped (escape keep t) = true := by
  refine isEscaped_flatMap fun c _ => ?_
  split
  · rename_i hc
    rw [isEscaped_cons_of_ne fun e => by rw [e, h] at hc; cases hc]
    rfl
  · exact isEscaped_escapeChar c

/-- A text that is escaped stays so when percent signs are kept, provided
that the digits behind them are kept too. -/
theorem isEscaped_escape_of_isEscaped {keep : Char → Bool}
    (h : keep '%' = true)
    (hu : ∀ c, isUnreserved c = true → keep c = true)
    {t : Text} (ht : isEscaped t = true) :
    isEscaped (escape keep t) = true := by
  fun_induction isEscaped t with
  | case1 high low rest ih =>
    rw [Bool.and_eq_true] at ht
    obtain ⟨hhigh, hlow⟩ := isSome_octet?_iff.mp ht.1
    rw [escape_cons, escape_cons, escape_cons, if_pos h,
      if_pos (hu high (isUnreserved_of_isHexDigit hhigh)),
      if_pos (hu low (isUnreserved_of_isHexDigit hlow))]
    show isEscaped ('%' :: high :: low :: escape keep rest) = true
    rw [isEscaped_escape_cons, ht.1, ih ht.2]
    rfl
  | case2 c rest _ ih =>
    rw [Bool.and_eq_true, bne_iff_ne] at ht
    rw [escape_cons]
    refine isEscaped_append ?_ (ih ht.2)
    split
    · rw [isEscaped_cons_of_ne ht.1, isEscaped_nil]
    · exact isEscaped_escapeChar c
  | case3 => rfl

/-- Escapes in capitals are escapes. -/
theorem isEscaped_upperEscapes {t : Text} (h : isEscaped t = true) :
    isEscaped (upperEscapes t) = true := by
  fun_induction isEscaped t with
  | case1 high low rest ih =>
    rw [Bool.and_eq_true] at h
    obtain ⟨hhigh, hlow⟩ := isSome_octet?_iff.mp h.1
    rw [upperEscapes, if_pos h.1, isEscaped_escape_cons, ih h.2,
      isSome_octet?_iff.mpr
        ⟨Text.isHexDigit_toUpper hhigh, Text.isHexDigit_toUpper hlow⟩]
    rfl
  | case2 c rest hne ih =>
    rw [Bool.and_eq_true, bne_iff_ne] at h
    rw [upperEscapes]
    · rw [isEscaped_cons_of_ne h.1, ih h.2]
    · exact hne
  | case3 => rfl

/-- Escapes in lower case are escapes. -/
theorem isEscaped_lowerAscii {t : Text} (h : isEscaped t = true) :
    isEscaped (Text.lowerAscii t) = true := by
  fun_induction isEscaped t with
  | case1 high low rest ih =>
    rw [Bool.and_eq_true] at h
    obtain ⟨hhigh, hlow⟩ := isSome_octet?_iff.mp h.1
    show isEscaped ('%' :: high.toLower :: low.toLower :: Text.lowerAscii rest)
      = true
    rw [isEscaped_escape_cons, ih h.2,
      isSome_octet?_iff.mpr
        ⟨Text.isHexDigit_toLower hhigh, Text.isHexDigit_toLower hlow⟩]
    rfl
  | case2 c rest _ ih =>
    rw [Bool.and_eq_true, bne_iff_ne] at h
    show isEscaped (c.toLower :: Text.lowerAscii rest) = true
    rw [isEscaped_cons_of_ne, ih h.2]
    intro he
    obtain hc | hc := Text.toLower_eq_or c
    · exact h.1 (hc ▸ he)
    · rw [he] at hc
      exact absurd hc.2 (by decide)
  | case3 => rfl

/-- **A component is escaped**, whether it was or not. -/
theorem isEscaped_encodeComponent {allowed : Char → Bool}
    (h : allowed '%' = false)
    (hu : ∀ c, isUnreserved c = true → allowed c = true) (t : Text) :
    isEscaped (encodeComponent allowed t) = true := by
  unfold encodeComponent
  split
  · rename_i ht
    refine isEscaped_escape_of_isEscaped (by simp) (fun c hc => ?_)
      (isEscaped_upperEscapes ht)
    rw [hu c hc, Bool.true_or]
  · exact isEscaped_escape h _

/-! ## Escapes in parts -/

/-- What is no hexadecimal digit is in no escape. -/
theorem octet?_eq_none {high low : Char}
    (h : Text.isHexDigit high = false ∨ Text.isHexDigit low = false) :
    octet? high low = none := by
  cases ho : octet? high low with
  | none => rfl
  | some o =>
    obtain ⟨hhigh, hlow⟩ := isSome_octet?_iff.mp (Option.isSome_of_eq_some ho)
    rw [hhigh, hlow] at h
    simp at h

/-- **A text is escaped in front of such a character and behind it, or not at
all.** -/
theorem isEscaped_append_cons {d : Char} (hd : Text.isHexDigit d = false)
    (hp : d ≠ '%') (s t : Text) :
    isEscaped (s ++ d :: t) = (isEscaped s && isEscaped t) := by
  fun_induction isEscaped s with
  | case1 high low rest ih =>
    show isEscaped ('%' :: high :: low :: (rest ++ d :: t)) = _
    rw [isEscaped_escape_cons, ih, Bool.and_assoc]
  | case2 c rest hshort ih =>
    rw [List.cons_append]
    by_cases hc : c = '%'
    · subst hc
      obtain _ | ⟨high, _ | ⟨low, rest⟩⟩ := rest
      · cases t with
        | nil => rfl
        | cons low t =>
          have ho : octet? d low = none := octet?_eq_none (.inl hd)
          rw [List.nil_append, isEscaped_escape_cons, ho]
          rfl
      · have ho : octet? high d = none := octet?_eq_none (.inr hd)
        rw [List.singleton_append, isEscaped_escape_cons, ho]
        rfl
      · exact absurd rfl (hshort high low rest rfl)
    · have hne : (c != '%') = true := bne_iff_ne.mpr hc
      rw [isEscaped_cons_of_ne hc, ih, hne, Bool.true_and]
  | case3 => simp [isEscaped_cons_of_ne hp]

/-- A character that begins no escape stays. -/
theorem upperEscapes_cons {c : Char} {t : Text}
    (h : ∀ high low rest, c = '%' → t = high :: low :: rest →
      octet? high low = none) :
    upperEscapes (c :: t) = c :: upperEscapes t := by
  by_cases hc : c = '%'
  · obtain _ | ⟨high, _ | ⟨low, rest⟩⟩ := t
    · rw [hc]
      rfl
    · rw [hc]
      rfl
    · rw [hc, upperEscapes, h high low rest hc rfl]
      rfl
  · rw [upperEscapes]
    exact fun _ _ _ he => absurd he hc

/-- No escape reaches across a character that is no hexadecimal digit. -/
theorem upperEscapes_append_cons {d : Char} (hd : Text.isHexDigit d = false)
    (hp : d ≠ '%') (s t : Text) :
    upperEscapes (s ++ d :: t) = upperEscapes s ++ d :: upperEscapes t := by
  -- escape by escape; at the end a percent sign meets the character
  fun_induction upperEscapes s with
  | case1 high low rest ho ih =>
    show upperEscapes ('%' :: high :: low :: (rest ++ d :: t)) = _
    rw [upperEscapes, if_pos ho, ih]
    rfl
  | case2 high low rest ho ih =>
    show upperEscapes ('%' :: high :: low :: (rest ++ d :: t)) = _
    rw [upperEscapes, if_neg ho]
    exact congrArg ('%' :: ·) ih
  | case3 c rest hshort ih =>
    have hnone : ∀ high low more, c = '%' →
        rest ++ d :: t = high :: low :: more → octet? high low = none := by
      intro high low more hc he
      obtain _ | ⟨high', _ | ⟨low', rest'⟩⟩ := rest
      · cases he
        exact octet?_eq_none (.inl hd)
      · cases he
        exact octet?_eq_none (.inr hd)
      · exact absurd rfl (hshort high' low' rest' hc)
    rw [List.cons_append, upperEscapes_cons hnone, ih]
    rfl
  | case4 => exact upperEscapes_cons fun _ _ _ hc => absurd hc hp

/-- Only of nothing nothing is left in capitals. -/
theorem eq_nil_of_upperEscapes {t : Text} (h : upperEscapes t = []) :
    t = [] := by
  fun_cases upperEscapes t with
  | case1 high low rest ho => rw [upperEscapes, if_pos ho] at h; cases h
  | case2 high low rest ho => rw [upperEscapes, if_neg ho] at h; cases h
  | case3 c rest hshort =>
    rw [upperEscapes] at h
    · cases h
    · exact hshort
  | case4 => rfl

/-- A character is escaped to something. -/
theorem escapeChar_ne_nil (c : Char) : escapeChar c ≠ [] := by
  have hoctets : Utf8.encodeChar c ≠ [] := by
    unfold Utf8.encodeChar
    dsimp only
    split
    · exact List.cons_ne_nil _ _
    split
    · exact List.cons_ne_nil _ _
    split
    · exact List.cons_ne_nil _ _
    · exact List.cons_ne_nil _ _
  obtain ⟨o, rest, ho⟩ := List.exists_cons_of_ne_nil hoctets
  rw [escapeChar, ho, List.flatMap_cons]
  exact List.cons_ne_nil _ _

/-- Only of nothing is nothing escaped. -/
theorem eq_nil_of_escape {keep : Char → Bool} {t : Text}
    (h : escape keep t = []) : t = [] := by
  cases t with
  | nil => rfl
  | cons c t =>
    rw [escape_cons, List.append_eq_nil_iff] at h
    split at h
    · cases h.1
    · exact absurd h.1 (escapeChar_ne_nil c)

/-! ## What comes in -/

/-- The escapes of a character hold percent signs and unreserved characters
only. -/
theorem mem_escapeChar {c d : Char} (h : d ∈ escapeChar c) :
    d = '%' ∨ isUnreserved d = true := by
  obtain ⟨o, _, ho⟩ := List.mem_flatMap.mp h
  have hlt := o.toNat_lt
  rw [escapeOctet, List.mem_cons, List.mem_cons, List.mem_singleton] at ho
  obtain rfl | rfl | rfl := ho
  · exact .inl rfl
  · exact .inr (isUnreserved_of_isHexDigit (isHexDigit_hexDigit (by omega)))
  · exact .inr (isUnreserved_of_isHexDigit (isHexDigit_hexDigit (by omega)))

/-- Escaping keeps characters and brings in percent signs and unreserved
characters. -/
theorem mem_escape {keep : Char → Bool} {t : Text} {d : Char}
    (h : d ∈ escape keep t) :
    (d ∈ t ∧ keep d = true) ∨ d = '%' ∨ isUnreserved d = true := by
  obtain ⟨c, hc, hd⟩ := List.mem_flatMap.mp h
  split at hd
  · rename_i hk
    rw [List.mem_singleton] at hd
    exact .inl ⟨hd ▸ hc, hd ▸ hk⟩
  · exact .inr (mem_escapeChar hd)

/-- Escapes in capitals bring in unreserved characters only. -/
theorem mem_upperEscapes {t : Text} {d : Char} (h : d ∈ upperEscapes t) :
    d ∈ t ∨ isUnreserved d = true := by
  fun_induction upperEscapes t with
  | case1 high low rest ho ih =>
    obtain ⟨hhigh, hlow⟩ := isSome_octet?_iff.mp ho
    rw [List.mem_cons, List.mem_cons, List.mem_cons] at h
    obtain rfl | rfl | rfl | h := h
    · exact .inl (List.mem_cons_self ..)
    · exact .inr (isUnreserved_of_isHexDigit (Text.isHexDigit_toUpper hhigh))
    · exact .inr (isUnreserved_of_isHexDigit (Text.isHexDigit_toUpper hlow))
    · exact (ih h).imp_left fun hm => by simp [hm]
  | case2 high low rest _ ih =>
    obtain rfl | h := List.mem_cons.mp h
    · exact .inl (List.mem_cons_self ..)
    · exact (ih h).imp_left (List.mem_cons_of_mem _)
  | case3 c rest _ ih =>
    obtain rfl | h := List.mem_cons.mp h
    · exact .inl (List.mem_cons_self ..)
    · exact (ih h).imp_left (List.mem_cons_of_mem _)
  | case4 => cases h

/-- So does lower case. -/
theorem mem_lowerAscii {t : Text} {d : Char} (h : d ∈ Text.lowerAscii t) :
    d ∈ t ∨ isUnreserved d = true := by
  obtain ⟨c, hc, rfl⟩ := List.mem_map.mp h
  obtain he | ⟨-, hd⟩ := Text.toLower_eq_or c
  · exact .inl (he.symm ▸ hc)
  · exact .inr (isUnreserved_of_isAlphanum hd)

/-- **A component holds percent signs and allowed characters only.** -/
theorem mem_encodeComponent {allowed : Char → Bool}
    (hu : ∀ c, isUnreserved c = true → allowed c = true) {t : Text} {d : Char}
    (h : d ∈ encodeComponent allowed t) : d = '%' ∨ allowed d = true := by
  unfold encodeComponent at h
  split at h
  · obtain ⟨-, hd⟩ | rfl | hd := mem_escape h
    · obtain hd | hd := Bool.or_eq_true _ _ ▸ hd
      · exact .inr hd
      · exact .inl (beq_iff_eq.mp hd)
    · exact .inl rfl
    · exact .inr (hu d hd)
  · obtain ⟨-, hd⟩ | rfl | hd := mem_escape h
    · exact .inr hd
    · exact .inl rfl
    · exact .inr (hu d hd)

end Url
end QueryClient
