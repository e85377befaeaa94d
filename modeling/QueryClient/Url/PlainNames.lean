import QueryClient.Proofs.AsciiCharacters
import QueryClient.Proofs.Attempt
import QueryClient.Proofs.DividedText
import QueryClient.Url.Label
import QueryClient.Url.Names

/-!
# Plain names

Labels in Punycode, under the plainest of the rules that are in use, are one way for
names to travel. The letters are those of one edition of Unicode; what stands between
letters, and in which direction a label runs, is not looked at.
-/

namespace QueryClient.Url

/-! ## Punycode -/

namespace Punycode

/-- The digits of Punycode are letters and digits. -/
theorem isAlphanum_digit {n : Nat} (h : n < 36) :
    (digit n).isAlphanum = true := by
  have hall : ∀ k : Fin 36, (digit k).isAlphanum = true := by decide
  exact hall ⟨n, h⟩

/-- So is all that a number is written with. -/
theorem isAlphanum_of_mem_number {bias k q : Nat} {c : Char}
    (h : c ∈ number bias k q) : c.isAlphanum = true := by
  fun_induction number bias k q with
  | case1 k q t hq =>
    have ht : threshold bias k ≤ 26 := Nat.min_le_left ..
    rw [List.mem_singleton] at h
    rw [h]
    exact isAlphanum_digit (by omega)
  | case2 k q t hq ih =>
    have ht : t ≤ 26 := Nat.min_le_left ..
    have hmod := Nat.mod_lt (q - t) (show 0 < 36 - t by omega)
    obtain rfl | h := List.mem_cons.mp h
    · exact isAlphanum_digit (by omega)
    · exact ih h

/-- Passing over a character writes letters and digits only. -/
theorem isAlphanum_pass {n : Nat} {w : Writing} {c : Char}
    (hw : ∀ d ∈ w.digits, d.isAlphanum = true) :
    ∀ d ∈ (w.pass n c).digits, d.isAlphanum = true := by
  intro d hd
  unfold Writing.pass at hd
  split at hd
  · exact hw d hd
  split at hd
  · obtain hd | hd := List.mem_append.mp hd
    · exact hw d hd
    · exact isAlphanum_of_mem_number hd
  · exact hw d hd

/-- So does passing over a label. -/
theorem isAlphanum_foldl_pass {n : Nat} (label : Text) {w : Writing}
    (hw : ∀ d ∈ w.digits, d.isAlphanum = true) :
    ∀ d ∈ (label.foldl (Writing.pass n) w).digits, d.isAlphanum = true := by
  induction label generalizing w with
  | nil => exact hw
  | cons c label ih =>
    rw [List.foldl_cons]
    exact ih (isAlphanum_pass hw)

/-- So does inserting all characters. -/
theorem isAlphanum_insert (label : Text) {codes : List Nat} {next : Nat}
    {w : Writing} (hw : ∀ d ∈ w.digits, d.isAlphanum = true) :
    ∀ d ∈ (Writing.insert label next w codes).digits,
      d.isAlphanum = true := by
  induction codes generalizing next w with
  | nil => exact hw
  | cons n codes ih =>
    rw [Writing.insert]
    exact ih (isAlphanum_foldl_pass label hw)

/-- **Punycode is made of letters, digits and hyphens**, if the ASCII
characters of the label are. -/
theorem isUnreserved_of_mem_encode {label : Text}
    (h : ∀ c ∈ label, c.toNat < 128 → isUnreserved c = true) {d : Char}
    (hd : d ∈ encode label) : isUnreserved d = true := by
  unfold encode at hd
  obtain hd | hd := List.mem_append.mp hd
  · split at hd
    · cases hd
    · obtain hd | hd := List.mem_append.mp hd
      · rw [List.mem_filter, decide_eq_true_eq] at hd
        exact h d hd.1 hd.2
      · rw [List.mem_singleton.mp hd]
        decide
  · exact isUnreserved_of_isAlphanum
      (isAlphanum_insert label (by simp) d hd)

end Punycode

/-! ## Labels and names -/

/-- The host letters in ASCII are unreserved. -/
theorem isUnreserved_of_isHostLetter {c : Char} (hc : c.toNat < 128)
    (h : isHostLetter c = true) : isUnreserved c = true := by
  unfold isHostLetter at h
  rw [if_pos hc, Bool.or_eq_true, Bool.or_eq_true, beq_iff_eq] at h
  obtain (h | h) | rfl := h
  · exact isUnreserved_of_isAlphanum (Text.isAlphanum_of_isDigit h)
  · exact isUnreserved_of_isAlphanum (Text.isAlphanum_of_isLower h)
  · decide

/-- The ASCII characters of a host label are unreserved. -/
theorem isUnreserved_of_isHostLabel {label : Text}
    (h : isHostLabel label = true) :
    ∀ c ∈ label, c.toNat < 128 → isUnreserved c = true := by
  unfold isHostLabel at h
  simp only [Bool.and_eq_true] at h
  obtain ⟨⟨⟨⟨-, hall⟩, -⟩, -⟩, -⟩ := h
  intro c hc hlt
  exact isUnreserved_of_isHostLetter hlt (List.all_eq_true.mp hall c hc)

/-- What a label is encoded to may travel. -/
theorem travels_of_encodeLabel? {label out : Text}
    (h : encodeLabel? label = some out) : Travels out := by
  unfold encodeLabel? at h
  dsimp only at h
  split at h
  · rename_i hlabel
    split at h
    · cases h
      refine ⟨List.cons_ne_nil _ _, fun d hd => ?_⟩
      obtain hd | hd := List.mem_append.mp hd
      · have hall : "xn--".toList.all isUnreserved = true := by decide
        exact List.all_eq_true.mp hall d hd
      · exact Punycode.isUnreserved_of_mem_encode
          (isUnreserved_of_isHostLabel hlabel) hd
    · cases h
  · cases h

/-- So may a label of a name, which is left as it is if it is in ASCII. -/
theorem travels_of_label {label out : Text}
    (h : (if Text.isAscii label then
        if isHostLabel label then some label else none
      else encodeLabel? label) = some out) : Travels out := by
  split at h
  · rename_i hascii
    split at h
    · rename_i hlabel
      cases h
      refine ⟨?_, fun d hd => ?_⟩
      · rintro rfl
        exact absurd hlabel (by decide)
      · have hlt := List.all_eq_true.mp hascii d hd
        exact isUnreserved_of_isHostLabel hlabel d hd (of_decide_eq_true hlt)
    · cases h
  · exact travels_of_encodeLabel? h

/-- **What a name is encoded to may travel.** -/
theorem travels_of_encodeName? {name out : Text}
    (h : encodeName? name = some out) : Travels out := by
  obtain ⟨encoded, hencoded, rfl⟩ := Option.map_eq_some_iff.mp h
  refine ⟨?_, fun d hd => ?_⟩
  · -- a last field that is dropped is not the only one
    have hlabels : encoded ≠ [] := by
      refine mapM_option_ne_nil hencoded ?_
      split
      · rename_i hrooted
        rw [Bool.and_eq_true, decide_eq_true_eq] at hrooted
        intro hnil
        have hlen := congrArg List.length hnil
        rw [List.length_dropLast, List.length_nil] at hlen
        omega
      · exact Text.fields_ne_nil _ _
    obtain ⟨first, rest, rfl⟩ := List.exists_cons_of_ne_nil hlabels
    obtain ⟨label, -, hl⟩ :=
      exists_of_mem_of_mapM_option hencoded (List.mem_cons_self ..)
    exact Text.joinFields_ne_nil first (by simp) (travels_of_label hl).ne_nil
  · obtain hd | ⟨part, hp, hd⟩ := Text.mem_joinFields hd
    · rw [List.mem_singleton.mp hd]
      decide
    obtain hp | hp := List.mem_append.mp hp
    · obtain ⟨label, -, hl⟩ := exists_of_mem_of_mapM_option hencoded hp
      exact (travels_of_label hl).unreserved d hd
    · -- the field behind a last point is empty
      split at hp
      · rw [List.mem_singleton.mp hp] at hd
        cases hd
      · cases hp

/-- **Plain names.** -/
@[reducible] def Names.plain : Names where
  label? := encodeLabel?
  name? := encodeName?
  travels_label := travels_of_encodeLabel?
  travels_name := travels_of_encodeName?

end QueryClient.Url
