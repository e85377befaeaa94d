import QueryClient.Proofs.WrittenHost

/-!
# Server names

A **server name** is the plain case of a host: unreserved characters that do
not begin with a point. Such a name goes through everything that is done to
hosts and comes out as itself or in lower case; which of the two depends on
whether it looks like an IPv4 address, where letters can stand only in
hexadecimal numerals. In lower case it stays a server name, so a name that is
checked twice comes out in lower case in the end.

A port is written in decimal, and reads back.
-/

namespace QueryClient

open Url

/-- A **server name**: unreserved characters, not beginning with a point. -/
structure IsServerName (host : Text) : Prop where
  /-- There is something. -/
  ne_nil : host ≠ []
  /-- It is made of unreserved characters. -/
  chars : ∀ c ∈ host, isUnreserved c = true
  /-- It does not begin with a point. -/
  head : host.head? ≠ some '.'

/-! ## Ports -/

namespace Text

/-- The digits of a number are digits. -/
theorem isDigit_of_mem_ofNat {n : Nat} {c : Char} (h : c ∈ ofNat n) :
    c.isDigit = true :=
  Nat.isDigit_of_mem_toDigits (by decide) (by decide) h

/-- A number reads back. -/
theorem digitsValue_ofNat (n : Nat) : digitsValue (ofNat n) = n := by
  have hread : ∀ (t : Text) (m : Nat),
      t.foldl (fun n c => n * 10 + (c.toNat - 48)) m = Nat.ofDigitChars 10 t m := by
    intro t
    induction t with
    | nil => exact fun m => rfl
    | cons c t ih =>
      intro m
      rw [List.foldl_cons, ih, Nat.ofDigitChars_cons, Nat.mul_comm]
      rfl
  unfold digitsValue
  rw [hread]
  exact Nat.ofDigitChars_ten_toDigits

/-- A number is a numeral. -/
theorem isNumeral_ofNat (n : Nat) : isNumeral (ofNat n) = true := by
  have hne : (ofNat n).isEmpty = false :=
    List.isEmpty_eq_false_iff.mpr Nat.toDigits_ne_nil
  rw [isNumeral, hne, Bool.not_false, Bool.true_and, List.all_eq_true]
  exact fun c hc => isDigit_of_mem_ofNat hc

end Text

/-- A port is written as one. -/
theorem Url.Address.isPort_ofNat {n : Nat} (h : n ≤ 65535) :
    isPort (Text.ofNat n) = true := by
  have hlen : (Text.ofNat n).length ≤ 5 :=
    (Nat.length_toDigits_le_iff (by decide) (by decide)).mpr
      (Nat.lt_of_le_of_lt h (by decide))
  have hshort : ((Text.ofNat n).dropWhile (· == '0')).length ≤ 5 :=
    Nat.le_trans (List.dropWhile_sublist _).length_le hlen
  unfold isPort
  rw [Bool.and_eq_true, List.all_eq_true, decide_eq_true_eq]
  exact ⟨fun c hc => Text.isDigit_of_mem_ofNat hc, hshort⟩

/-! ## Names -/

namespace IsServerName

variable {host : Text}

/-- What is not unreserved does not stand in a server name. -/
theorem notMem (h : IsServerName host) {c : Char}
    (hc : isUnreserved c = false) : c ∉ host := by
  intro hm
  rw [h.chars c hm] at hc
  cases hc

/-- A server name in lower case is one. -/
theorem lowerAscii (h : IsServerName host) :
    IsServerName (Text.lowerAscii host) := by
  refine ⟨fun hnil => h.ne_nil (List.map_eq_nil_iff.mp hnil), fun c hc => ?_, ?_⟩
  · obtain hc | hc := mem_lowerAscii hc
    · exact h.chars c hc
    · exact hc
  · intro hhead
    rw [Text.lowerAscii, List.head?_map] at hhead
    obtain ⟨c, hc, he⟩ := Option.map_eq_some_iff.mp hhead
    obtain hsame | hletter := Text.toLower_eq_or c
    · rw [hsame] at he
      exact h.head (he ▸ hc)
    · rw [he] at hletter
      exact absurd hletter.2 (by decide)

/-- Whether a host has such labels can be computed. -/
theorem labels_of_all (h : (Text.fields '.' host).all (fun label =>
      !label.isEmpty && label.all fun c => c.isAlphanum || c == '-') = true) :
    ∀ label ∈ Text.fields '.' host,
      label ≠ [] ∧ ∀ c ∈ label, c.isAlphanum = true ∨ c = '-' := by
  simpa using h

/-- **Labels of letters, digits and hyphens make a server name.** -/
theorem of_labels (h : ∀ label ∈ Text.fields '.' host,
    label ≠ [] ∧ ∀ c ∈ label, c.isAlphanum = true ∨ c = '-') :
    IsServerName host := by
  refine ⟨?_, fun c hc => ?_, fun hhead => ?_⟩
  · rintro rfl
    exact (h [] (List.mem_cons_self ..)).1 rfl
  · rw [← Text.joinFields_fields '.' host] at hc
    obtain hc | ⟨label, hl, hc⟩ := Text.mem_joinFields hc
    · rw [List.mem_singleton.mp hc]
      decide
    · obtain hc | rfl := (h label hl).2 c hc
      · exact isUnreserved_of_isAlphanum hc
      · decide
  · cases host with
    | nil => cases hhead
    | cons c rest =>
      rw [Text.fields_cons, Text.pushField, if_pos (Option.some.inj hhead)] at h
      exact (h [] (List.mem_cons_self ..)).1 rfl

end IsServerName

namespace Url

/-! ## The normal form -/

/-- Without percent signs there is no escape of a control. -/
theorem controlEscape?_of_notMem {t : Text} (h : '%' ∉ t) :
    controlEscape? t = none := by
  induction t with
  | nil => rfl
  | cons c t ih =>
    rw [List.mem_cons, not_or] at h
    rw [controlEscape?, ih h.2]
    intro _ _ _ hc
    exact absurd hc.symm h.1

/-- Nor is there an escape to read. -/
theorem readEscapes_of_notMem {t : Text} (h : '%' ∉ t) :
    readEscapes t = t := by
  induction t with
  | nil => rfl
  | cons c t ih =>
    rw [List.mem_cons, not_or] at h
    rw [readEscapes, ih h.2]
    intro _ _ _ hc
    exact absurd hc.symm h.1

/-- Nor one to put in capitals. -/
theorem upperEscapes_of_notMem {t : Text} (h : '%' ∉ t) :
    upperEscapes t = t := by
  induction t with
  | nil => rfl
  | cons c t ih =>
    rw [List.mem_cons, not_or] at h
    rw [upperEscapes, ih h.2]
    intro _ _ _ hc
    exact absurd hc.symm h.1

/-- Unreserved characters are a name. -/
theorem isName_of_isUnreserved {t : Text}
    (h : ∀ c ∈ t, isUnreserved c = true) : Address.isName t = true := by
  induction t with
  | nil => rfl
  | cons c t ih =>
    rw [List.forall_mem_cons] at h
    have hc : "[]%:/?#".toList.contains c = false := by
      refine Bool.eq_false_iff.mpr fun hm => ?_
      have hall : "[]%:/?#".toList.all (!isUnreserved ·) = true := by decide
      have hnot := List.all_eq_true.mp hall c (List.contains_iff_mem.mp hm)
      rw [h.1] at hnot
      cases hnot
    rw [Address.isName, hc, ih h.2]
    · rfl
    · rintro _ _ _ rfl
      exact absurd h.1 (by decide)

end Url

namespace IsServerName

variable {host : Text}

/-- A server name is not in brackets. -/
theorem bracketed? (h : IsServerName host) : Url.bracketed? host = none := by
  unfold Url.bracketed?
  split
  · exact absurd (List.mem_cons_self ..) (h.notMem (c := '[') (by decide))
  · rfl

/-- Its characters are no controls. -/
theorem checkCharacters (h : IsServerName host) :
    Url.checkCharacters host = .ok () := by
  have hnone : host.find? isControlOrSpace = none := by
    rw [List.find?_eq_none]
    intro c hc hcontrol
    have hall := Text.ascii_cases
      (P := fun c => isUnreserved c = true → isControlOrSpace c = false)
      (by decide +kernel) (toNat_lt_of_isUnreserved (h.chars c hc))
      (h.chars c hc)
    rw [hall] at hcontrol
    cases hcontrol
  unfold Url.checkCharacters
  rw [hnone]

/-- A label of a server name comes out in lower case. -/
theorem normalLabel [Names] (h : IsServerName host) {label : Text}
    (hl : label ∈ Text.fields '.' host) :
    Url.normalLabel label = .ok (Text.lowerAscii label) := by
  have hchars : ∀ c ∈ label, isUnreserved c = true := fun c hc =>
    h.chars c (Text.mem_of_mem_fields hl hc)
  have hnot : '%' ∉ Text.lowerAscii label := by
    intro hm
    obtain hm | hm := mem_lowerAscii hm
    · exact absurd (hchars _ hm) (by decide)
    · exact absurd hm (by decide)
  unfold Url.normalLabel
  rw [if_pos (isAscii_of_isUnreserved hchars), upperEscapes_of_notMem hnot]

/-- **A server name in its normal form** is itself, or itself in lower
case. -/
theorem normalHost [Names] (h : IsServerName host) :
    Url.normalHost host = .ok host
      ∨ Url.normalHost host = .ok (Text.lowerAscii host) := by
  have hnot : '%' ∉ host := h.notMem (by decide)
  unfold Url.normalHost
  rw [h.bracketed?]
  dsimp only
  split
  · exact .inl rfl
  right
  rw [controlEscape?_of_notMem hnot, readEscapes_of_notMem hnot,
    mapM_eq_ok_map fun label hl => h.normalLabel hl,
    ok_bind, Text.joinFields_map_lowerAscii (by decide),
    Text.joinFields_fields]
  rfl

/-- So is one that is checked. -/
theorem checkedHost [Names] (h : IsServerName host) :
    Url.checkedHost true host = .ok host
      ∨ Url.checkedHost true host = .ok (Text.lowerAscii host) := by
  have hempty : host.isEmpty = false := List.isEmpty_eq_false_iff.mpr h.ne_nil
  have hchecked : Url.checkedHost true host = Url.normalHost host := by
    unfold Url.checkedHost
    rw [h.checkCharacters, hempty]
    rfl
  rw [hchecked]
  exact h.normalHost

/-- What comes out of the check is a server name, the same but for case. -/
theorem exists_checkedHost [Names] (h : IsServerName host) :
    ∃ out, IsServerName out ∧ Text.lowerAscii out = Text.lowerAscii host
      ∧ Url.checkedHost true host = .ok out := by
  obtain hc | hc := h.checkedHost
  · exact ⟨host, h, rfl, hc⟩
  · exact ⟨_, h.lowerAscii, Text.lowerAscii_lowerAscii host, hc⟩

/-- In lower case nothing is left to change. -/
theorem checkedHost_lowerAscii [Names] (h : IsServerName host) :
    Url.checkedHost true (Text.lowerAscii host)
      = .ok (Text.lowerAscii host) := by
  obtain hc | hc := h.lowerAscii.checkedHost
  · exact hc
  · rwa [Text.lowerAscii_lowerAscii] at hc

end IsServerName

end QueryClient
