import QueryClient.Url.Requote

/-!
# Characters of the ASCII range

Whatever has a meaning in an address is a character of the ASCII range, so
most facts about such characters can be looked up: `Text.ascii_cases` turns
a statement about all of them into 128 cases. The lemmas here are the few
facts that are needed of characters elsewhere, and all go that way.
-/

namespace QueryClient

namespace Text

/-- **What holds of all code points below 128 holds of every character of
the ASCII range.** -/
theorem ascii_cases {P : Char → Prop} (h : ∀ n : Fin 128, P (Char.ofNat n))
    {c : Char} (hc : c.toNat < 128) : P c := by
  have hn : P (Char.ofNat c.toNat) := h ⟨c.toNat, hc⟩
  rwa [Char.ofNat_toNat] at hn

/-- Letters and digits are of the ASCII range. -/
theorem toNat_lt_of_isAlphanum {c : Char} (h : c.isAlphanum = true) :
    c.toNat < 128 := by
  have below : ∀ top : Char, top.toNat < 128 → c.val ≤ top.val →
      c.toNat < 128 := fun top ht hle =>
    Nat.lt_of_le_of_lt (UInt32.le_iff_toNat_le.mp hle) ht
  have hor : ((c.isUpper || c.isLower) || c.isDigit) = true := h
  rw [Bool.or_eq_true, Bool.or_eq_true] at hor
  obtain (hu | hl) | hd := hor
  · exact below 'Z' (by decide) (of_decide_eq_true hu).2
  · exact below 'z' (by decide)
      (of_decide_eq_true ((Bool.and_eq_true ..).mp hl).2)
  · exact below '9' (by decide)
      (of_decide_eq_true ((Bool.and_eq_true ..).mp hd).2)

/-- Digits are of the letters and digits. -/
theorem isAlphanum_of_isDigit {c : Char} (h : c.isDigit = true) :
    c.isAlphanum = true := by
  show (c.isAlpha || c.isDigit) = true
  rw [h, Bool.or_true]

/-- Small letters are of the letters and digits. -/
theorem isAlphanum_of_isLower {c : Char} (h : c.isLower = true) :
    c.isAlphanum = true := by
  show ((c.isUpper || c.isLower) || c.isDigit) = true
  rw [h, Bool.or_true, Bool.true_or]

/-- Beyond the ASCII range lower case changes nothing. -/
theorem toLower_of_le {c : Char} (hc : 128 ≤ c.toNat) : c.toLower = c := by
  unfold Char.toLower
  refine dif_neg fun h => ?_
  have hz : c.val.toNat ≤ 'Z'.val.toNat := UInt32.le_iff_toNat_le.mp h.2
  exact absurd (Nat.le_trans hc hz) (by decide)

/-- **Lower case exchanges letters only.** -/
theorem toLower_eq_or (c : Char) :
    c.toLower = c ∨ (c.isAlphanum = true ∧ c.toLower.isAlphanum = true) := by
  by_cases hc : c.toNat < 128
  · exact ascii_cases (P := fun c => c.toLower = c
      ∨ (c.isAlphanum = true ∧ c.toLower.isAlphanum = true)) (by decide) hc
  · exact .inl (toLower_of_le (Nat.le_of_not_lt hc))

/-- Lower case is there to stay. -/
theorem lowerAscii_lowerAscii (t : Text) :
    lowerAscii (lowerAscii t) = lowerAscii t := by
  unfold lowerAscii
  rw [List.map_map]
  refine List.map_congr_left fun c _ => ?_
  by_cases hc : c.toNat < 128
  · exact ascii_cases (P := fun c => c.toLower.toLower = c.toLower)
      (by decide) hc
  · show c.toLower.toLower = c.toLower
    rw [toLower_of_le (Nat.le_of_not_lt hc), toLower_of_le (Nat.le_of_not_lt hc)]

/-- The value of a hexadecimal digit shows that it is of the ASCII range. -/
theorem toNat_lt_of_isHexDigit {c : Char} (h : isHexDigit c = true) :
    c.toNat < 128 := by
  unfold isHexDigit hexValue? at h
  split at h
  · rename_i hd
    exact toNat_lt_of_isAlphanum (isAlphanum_of_isDigit hd)
  split at h
  · rename_i hr
    exact Nat.lt_of_le_of_lt (Char.le_def.mp hr.2) (by decide)
  split at h
  · rename_i hr
    exact Nat.lt_of_le_of_lt (Char.le_def.mp hr.2) (by decide)
  · cases h

/-- A hexadecimal digit is a letter or a digit. -/
theorem isAlphanum_of_isHexDigit {c : Char} (h : isHexDigit c = true) :
    c.isAlphanum = true := by
  have hc := toNat_lt_of_isHexDigit h
  revert h
  exact ascii_cases (P := fun c => isHexDigit c = true → c.isAlphanum = true)
    (by decide) hc

/-- It stays one in capitals. -/
theorem isHexDigit_toUpper {c : Char} (h : isHexDigit c = true) :
    isHexDigit c.toUpper = true := by
  have hc := toNat_lt_of_isHexDigit h
  revert h
  exact ascii_cases
    (P := fun c => isHexDigit c = true → isHexDigit c.toUpper = true)
    (by decide) hc

/-- It stays one in lower case. -/
theorem isHexDigit_toLower {c : Char} (h : isHexDigit c = true) :
    isHexDigit c.toLower = true := by
  have hc := toNat_lt_of_isHexDigit h
  revert h
  exact ascii_cases
    (P := fun c => isHexDigit c = true → isHexDigit c.toLower = true)
    (by decide) hc

/-- Letters and digits are alphanumeric in the wider sense. -/
theorem isAlphanumeric_of_isAlphanum {c : Char} (h : c.isAlphanum = true) :
    isAlphanumeric c = true := by
  rw [isAlphanumeric, if_pos (toNat_lt_of_isAlphanum h), h]

end Text

namespace Url

/-- Unreserved characters are of the ASCII range. -/
theorem toNat_lt_of_isUnreserved {c : Char} (h : isUnreserved c = true) :
    c.toNat < 128 := by
  unfold isUnreserved at h
  obtain h | h := Bool.or_eq_true _ _ ▸ h
  · exact Text.toNat_lt_of_isAlphanum h
  · have hm : c ∈ "-._~".toList := List.contains_iff_mem.mp h
    have hall : Text.isAscii "-._~".toList = true := by decide
    exact of_decide_eq_true (List.all_eq_true.mp hall c hm)

theorem isAscii_of_isUnreserved {t : Text}
    (h : ∀ c ∈ t, isUnreserved c = true) : Text.isAscii t = true :=
  List.all_eq_true.mpr fun c hc =>
    decide_eq_true (toNat_lt_of_isUnreserved (h c hc))

/-- So is whatever may stand in an address. -/
theorem toNat_lt_of_isPlain {c : Char} (h : isPlain c = true) :
    c.toNat < 128 := by
  unfold isPlain isPunctuation at h
  obtain h | h := Bool.or_eq_true _ _ ▸ h
  · exact toNat_lt_of_isUnreserved h
  · have hm : c ∈ "!#$&'()*+,/:;=?@[]".toList := List.contains_iff_mem.mp h
    have hall : Text.isAscii "!#$&'()*+,/:;=?@[]".toList = true := by decide
    exact of_decide_eq_true (List.all_eq_true.mp hall c hm)

theorem isUnreserved_of_isAlphanum {c : Char} (h : c.isAlphanum = true) :
    isUnreserved c = true := by
  rw [isUnreserved, h, Bool.true_or]

theorem isPlain_of_isUnreserved {c : Char} (h : isUnreserved c = true) :
    isPlain c = true := by
  rw [isPlain, h, Bool.true_or]

/-- A hexadecimal digit is unreserved. -/
theorem isUnreserved_of_isHexDigit {c : Char}
    (h : Text.isHexDigit c = true) : isUnreserved c = true :=
  isUnreserved_of_isAlphanum (Text.isAlphanum_of_isHexDigit h)

/-- The digits that are written are hexadecimal ones. -/
theorem isHexDigit_hexDigit {n : Nat} (h : n < 16) :
    Text.isHexDigit (hexDigit n) = true := by
  rw [Text.isHexDigit, hexValue_hexDigit h]
  rfl

/-- Two characters write an octet exactly if both are hexadecimal digits. -/
theorem isSome_octet?_iff {high low : Char} :
    (octet? high low).isSome = true
      ↔ Text.isHexDigit high = true ∧ Text.isHexDigit low = true := by
  unfold octet? Text.isHexDigit
  cases Text.hexValue? high with
  | none => simp
  | some m =>
    cases Text.hexValue? low with
    | none => simp
    | some n => simp

end Url
end QueryClient
