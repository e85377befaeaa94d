import QueryClient.Proofs.RequotedParts

/-!
# What an escaped text means

On its way into an address a component is rewritten several times: its escapes
are put in capitals, characters that may not stand there are escaped, and escapes
that say nothing are read. All of this changes how the component is written, and
none of it what it means: the text that is read from it in the end
(`unescapeText_requoteAs`, `unescapeText_encodeAs`).

Two readings do not follow the letter. In a component that is not escaped
throughout, no percent sign begins an escape, and in an address with a misused
percent sign none does either. There what is read in the end is what was
written, escapes in capitals.
-/

namespace QueryClient.Url

/-! ## Reading escapes -/

/-- A hexadecimal digit has its value in capitals, too. -/
theorem hexValue?_toUpper {c : Char} (h : Text.isHexDigit c = true) :
    Text.hexValue? c.toUpper = Text.hexValue? c :=
  Text.ascii_cases (P := fun c => Text.hexValue? c.toUpper = Text.hexValue? c)
    (by decide) (Text.toNat_lt_of_isHexDigit h)

/-- An escape is read as its octet. -/
theorem unescape_escape_cons {high low : Char} {o : UInt8}
    (h : octet? high low = some o) (t : Text) :
    unescape ('%' :: high :: low :: t) = o :: unescape t := by
  rw [unescape, h]

/-- **Capitals do not change what escapes mean.** -/
theorem unescape_upperEscapes {t : Text} (h : isEscaped t = true) :
    unescape (upperEscapes t) = unescape t := by
  fun_induction isEscaped t with
  | case1 high low rest ih =>
    rw [Bool.and_eq_true] at h
    obtain ⟨hhigh, hlow⟩ := isSome_octet?_iff.mp h.1
    obtain ⟨o, ho⟩ := Option.isSome_iff_exists.mp h.1
    have hupper : octet? high.toUpper low.toUpper = some o := by
      rw [← ho, octet?, octet?, hexValue?_toUpper hhigh, hexValue?_toUpper hlow]
    rw [upperEscapes, if_pos h.1, unescape_escape_cons hupper,
      unescape_escape_cons ho, ih h.2]
  | case2 c rest hshort ih =>
    rw [Bool.and_eq_true, bne_iff_ne] at h
    rw [upperEscapes_cons fun _ _ _ he => absurd he h.1,
      unescape_cons_of_ne h.1, unescape_cons_of_ne h.1, ih h.2]
  | case3 => rfl

/-- **Nor do more escapes**, as long as those that are there stay. -/
theorem unescape_escape_of_isEscaped {keep : Char → Bool}
    (hp : keep '%' = true) (hu : ∀ c, isUnreserved c = true → keep c = true)
    {t : Text} (h : isEscaped t = true) :
    unescape (escape keep t) = unescape t := by
  fun_induction isEscaped t with
  | case1 high low rest ih =>
    rw [Bool.and_eq_true] at h
    obtain ⟨hhigh, hlow⟩ := isSome_octet?_iff.mp h.1
    obtain ⟨o, ho⟩ := Option.isSome_iff_exists.mp h.1
    rw [escape_cons, escape_cons, escape_cons, if_pos hp,
      if_pos (hu high (isUnreserved_of_isHexDigit hhigh)),
      if_pos (hu low (isUnreserved_of_isHexDigit hlow))]
    show unescape ('%' :: high :: low :: escape keep rest) = _
    rw [unescape_escape_cons ho, unescape_escape_cons ho, ih h.2]
  | case2 c rest hshort ih =>
    rw [Bool.and_eq_true, bne_iff_ne] at h
    rw [escape_cons, unescape_cons_of_ne h.1, ← ih h.2]
    split
    · exact unescape_cons_of_ne h.1 _
    · exact unescape_flatMap_escapeOctet _ _
  | case3 => rfl

/-- **Nor does reading the escapes of unreserved characters.** -/
theorem unescape_of_readUnreserved? {t read : Text} (h : isEscaped t = true)
    (hread : readUnreserved? t = some read) :
    isEscaped read = true ∧ unescape read = unescape t := by
  fun_induction isEscaped t generalizing read with
  | case1 high low rest ih =>
    rw [Bool.and_eq_true] at h
    obtain ⟨o, ho⟩ := Option.isSome_iff_exists.mp h.1
    rw [readUnreserved?_escape ho] at hread
    obtain ⟨more, hmore, rfl⟩ := Option.map_eq_some_iff.mp hread
    obtain ⟨hescaped, hsame⟩ := ih h.2 hmore
    rw [unescape_escape_cons ho, ← hsame]
    by_cases hu : isUnreserved (Char.ofNat o.toNat) = true
    · have hne : Char.ofNat o.toNat ≠ '%' := fun he => by
        rw [he] at hu
        exact absurd hu (by decide)
      have hascii : (Char.ofNat o.toNat).toNat < 0x80 := toNat_lt_of_isUnreserved hu
      have hchar : Utf8.encodeChar (Char.ofNat o.toNat) = [o] := by
        rw [Utf8.encodeChar, if_pos hascii, toNat_ofNat_octet, UInt8.ofNat_toNat]
      rw [if_pos hu, List.singleton_append, isEscaped_cons_of_ne hne,
        unescape_cons_of_ne hne, hchar]
      exact ⟨hescaped, rfl⟩
    · rw [if_neg hu]
      show isEscaped ('%' :: high :: low :: more) = true
        ∧ unescape ('%' :: high :: low :: more) = _
      rw [isEscaped_escape_cons, h.1, unescape_escape_cons ho]
      exact ⟨hescaped, rfl⟩
  | case2 c rest hshort ih =>
    rw [Bool.and_eq_true, bne_iff_ne] at h
    rw [readUnreserved?_cons_of_ne h.1] at hread
    obtain ⟨more, hmore, rfl⟩ := Option.map_eq_some_iff.mp hread
    obtain ⟨hescaped, hsame⟩ := ih h.2 hmore
    rw [isEscaped_cons_of_ne h.1, unescape_cons_of_ne h.1,
      unescape_cons_of_ne h.1, hsame]
    exact ⟨hescaped, rfl⟩
  | case3 =>
    cases hread
    exact ⟨rfl, rfl⟩

/-! ## Requoted text -/

/-- In escaped text no percent sign is misused. -/
theorem isMisused_of_isEscaped {t : Text} (h : isEscaped t = true) :
    isMisused t = false := by
  obtain ⟨read, hread, -⟩ := readUnreserved?_append h []
  rw [isMisused, hread]
  rfl

/-- Text whose percent signs are escaped too reads back as it was. -/
theorem unescapeText_escape {keep : Char → Bool} (hp : keep '%' = false)
    (t : Text) : unescapeText (escape keep t) = t := by
  have hoctets := unescape_escape hp t []
  rw [List.append_nil, unescape, List.append_nil] at hoctets
  rw [unescapeText, hoctets, Utf8.decodeLossy_encode]

/-- **What requoted text means**: what it meant before, or, where a percent sign
is misused, what was written. -/
theorem unescapeText_requoteAs (misused : Bool) {t : Text}
    (h : isEscaped t = true) :
    unescapeText (requoteAs misused t)
      = if misused then t else unescapeText t := by
  cases misused with
  | true => exact unescapeText_escape (by decide) t
  | false =>
    obtain ⟨read, hread, -⟩ := readUnreserved?_append h []
    obtain ⟨hescaped, hsame⟩ := unescape_of_readUnreserved? h hread
    have hkeep : ∀ c, isUnreserved c = true → (isPlain c || c == '%') = true :=
      fun c hc => by rw [isPlain_of_isUnreserved hc, Bool.true_or]
    rw [requoteAs, hread, Option.getD_some]
    show Utf8.decodeLossy (unescape (escape _ read)) = Utf8.decodeLossy _
    rw [unescape_escape_of_isEscaped (by decide) hkeep hescaped, hsame]

/-- **Requoted text is cut where the text was cut**, at a mark of addresses. -/
theorem cut_requoteAs {c : Char} (hc : Text.isAlphanumeric c = false)
    (hplain : isPlain c = true) (hu : isUnreserved c = false) (misused : Bool)
    {t : Text} (h : isEscaped t = true) :
    Text.cut c (requoteAs misused t)
      = (requoteAs misused (Text.cut c t).1,
        (Text.cut c t).2.map (requoteAs misused)) := by
  have hp : c ≠ '%' := fun he => by
    rw [he] at hplain
    exact absurd hplain (by decide)
  have hmem {s : Text} (hs : c ∉ s) : c ∉ requoteAs misused s := fun hm =>
    hs (mem_of_mem_requoteAs hm hp hu)
  by_cases hm : c ∈ t
  · obtain ⟨s, u, rfl, hs⟩ := List.eq_append_cons_of_mem hm
    have hread : isMisused (s ++ c :: u) = true → misused = true := fun he => by
      rw [isMisused_of_isEscaped h] at he
      cases he
    rw [requoteAs_append_cons hc hplain hread, Text.cut_append_cons hs,
      Text.cut_append_cons (hmem hs)]
    rfl
  · rw [Text.cut_of_notMem hm, Text.cut_of_notMem (hmem hm)]
    rfl

/-! ## Components -/

section Components

variable {allowed : Char → Bool}

/-- A text encoded, when it is known whether the component it belongs to is
escaped throughout. -/
def encodeAs (allowed : Char → Bool) (escaped : Bool) (t : Text) : Text :=
  escape (fun c => allowed c || (escaped && c == '%')) (upperEscapes t)

/-- A component is encoded as what it is. -/
theorem encodeComponent_eq_encodeAs (t : Text) :
    encodeComponent allowed t = encodeAs allowed (isEscaped t) t := by
  unfold encodeComponent encodeAs
  cases isEscaped t with
  | true => simp
  | false => simp

/-- **An encoded text is cut where the text was cut**, at a mark that is
allowed. -/
theorem cut_encodeAs {c : Char} (hd : Text.isHexDigit c = false)
    (hp : c ≠ '%') (hallowed : allowed c = true) (hu : isUnreserved c = false)
    (escaped : Bool) (t : Text) :
    Text.cut c (encodeAs allowed escaped t)
      = (encodeAs allowed escaped (Text.cut c t).1,
        (Text.cut c t).2.map (encodeAs allowed escaped)) := by
  have hmem {s : Text} (hs : c ∉ s) : c ∉ encodeAs allowed escaped s := by
    intro hm
    obtain ⟨hm, -⟩ | he | he := mem_escape hm
    · obtain hm | he := mem_upperEscapes hm
      · exact hs hm
      · rw [hu] at he
        cases he
    · exact hp he
    · rw [hu] at he
      cases he
  by_cases hm : c ∈ t
  · obtain ⟨s, u, rfl, hs⟩ := List.eq_append_cons_of_mem hm
    have hsplit : encodeAs allowed escaped (s ++ c :: u)
        = encodeAs allowed escaped s ++ c :: encodeAs allowed escaped u := by
      unfold encodeAs
      rw [upperEscapes_append_cons hd hp, escape_append, escape_cons]
      simp [hallowed]
    rw [hsplit, Text.cut_append_cons hs, Text.cut_append_cons (hmem hs)]
    rfl
  · rw [Text.cut_of_notMem hm, Text.cut_of_notMem (hmem hm)]
    rfl

variable (hp : allowed '%' = false)
  (hu : ∀ c, isUnreserved c = true → allowed c = true)

include hp hu

/-- An encoded text is escaped. -/
theorem isEscaped_encodeAs {escaped : Bool} {t : Text}
    (h : escaped = true → isEscaped t = true) :
    isEscaped (encodeAs allowed escaped t) = true := by
  unfold encodeAs
  cases escaped with
  | true =>
    exact isEscaped_escape_of_isEscaped (by simp)
      (fun c hc => by rw [hu c hc, Bool.true_or])
      (isEscaped_upperEscapes (h rfl))
  | false => exact isEscaped_escape (by simp [hp]) _

/-- **What an encoded text means**: what it meant before, or, where the component
is not escaped throughout, what was written, escapes in capitals. -/
theorem unescapeText_encodeAs {escaped : Bool} {t : Text}
    (h : escaped = true → isEscaped t = true) :
    unescapeText (encodeAs allowed escaped t)
      = if escaped then unescapeText t else upperEscapes t := by
  unfold encodeAs
  cases escaped with
  | true =>
    show Utf8.decodeLossy (unescape (escape _ _)) = Utf8.decodeLossy _
    rw [unescape_escape_of_isEscaped (by simp)
      (fun c hc => by rw [hu c hc, Bool.true_or])
      (isEscaped_upperEscapes (h rfl)), unescape_upperEscapes (h rfl)]
  | false => exact unescapeText_escape (by simp [hp]) _

end Components

end QueryClient.Url
