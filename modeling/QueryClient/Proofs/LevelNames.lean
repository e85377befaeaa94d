import Mathlib.Data.List.Forall2
import QueryClient.Log.Level
import QueryClient.Proofs.AsciiCharacters

/-!
# Names of levels in any case

A text names a level if its upper case is the name. Upper case is taken of
characters of any script, and one character may become two or three, so it is
not plain from this which texts those are. They are the ones that come to mind,
and a few more: `Severity.upper_eq_name_iff` says that letter for letter there
must be the capital or the small letter, or, for `I`, the small letter that has
no dot. Only `S` has yet another character that becomes it, and no name has an
`S`; and what a longer capital form consists of stands in no name either.
-/

namespace QueryClient

namespace Text

/-- Whether a character is a **form** of a capital letter: the letter itself, the
small one, or, of `I`, the small one without a dot. -/
def IsFormOf (c l : Char) : Prop :=
  c = l ∨ c = l.toLower ∨ (l = 'I' ∧ c = '\u0131')

instance : DecidableRel IsFormOf :=
  fun _ _ => inferInstanceAs (Decidable (_ ∨ _ ∨ _))

/-- Whether a letter is a **plain capital**: one of the ASCII range other
than `S`. -/
def IsPlainCapital (l : Char) : Prop :=
  l.isUpper = true ∧ l ≠ 'S'

instance : DecidablePred IsPlainCapital :=
  fun _ => inferInstanceAs (Decidable (_ ∧ _))

/-- Capitals lie between the controls and the end of the ASCII range. -/
theorem IsPlainCapital.toNat_pos_and_lt {l : Char} (hl : IsPlainCapital l) :
    0 < l.toNat ∧ l.toNat < 128 := by
  obtain ⟨hA, hZ⟩ := of_decide_eq_true hl.1
  rw [ge_iff_le, UInt32.le_iff_toNat_le] at hA
  rw [UInt32.le_iff_toNat_le] at hZ
  exact ⟨Nat.lt_of_lt_of_le (by decide) hA,
    Nat.lt_of_le_of_lt hZ (by decide)⟩

/-- Within the ASCII range the forms of a capital are those that become it. -/
theorem toUpper_eq_iff {c l : Char} (hc : c.toNat < 128)
    (hl : IsPlainCapital l) : c.toUpper = l ↔ IsFormOf c l := by
  constructor
  · rintro rfl
    have hback : c = c.toUpper ∨ c = c.toUpper.toLower :=
      ascii_cases (P := fun c => c = c.toUpper ∨ c = c.toUpper.toLower)
        (by decide) hc
    exact hback.imp_right .inl
  · have hboth : l.isUpper = true → l.toUpper = l ∧ l.toLower.toUpper = l :=
      ascii_cases (P := fun l => l.isUpper = true →
        l.toUpper = l ∧ l.toLower.toUpper = l) (by decide) hl.toNat_pos_and_lt.2
    rintro (rfl | rfl | ⟨-, rfl⟩)
    · exact (hboth hl.1).1
    · exact (hboth hl.1).2
    · exact absurd hc (by decide)

/-- Beyond it only the letter without a dot is a form of one. -/
theorem isFormOf_iff_of_le {c l : Char} (hl : IsPlainCapital l)
    (hc : 128 ≤ c.toNat) : IsFormOf c l ↔ l = 'I' ∧ c = '\u0131' := by
  have hlt := hl.toNat_pos_and_lt.2
  refine ⟨?_, fun h => .inr (.inr h)⟩
  rintro (rfl | rfl | h)
  · omega
  · have hlow : l.toLower.toNat < 128 :=
      ascii_cases (P := fun l => l.toLower.toNat < 128) (by decide) hlt
    omega
  · exact h

/-- A character that is made from a number has that code point, unless there is
no such character. -/
theorem toNat_ofNat_eq_or (n : Nat) :
    (Char.ofNat n).toNat = n ∨ (Char.ofNat n).toNat = 0 := by
  by_cases h : n.isValidChar
  · left
    rw [Char.ofNat, dif_pos h]
    rfl
  · right
    rw [Char.ofNat, dif_neg h]
    rfl

/-- **Only two runs lead into the ASCII range** from outside: that of the letter
without a dot, and that of the long `s`. -/
theorem cases_of_mem_upperRuns : ∀ r ∈ upperRuns,
    r.last < 128 ∨ 128 ≤ r.first + r.shift
      ∨ (r.first = 0x131 ∧ r.last = 0x131)
      ∨ (r.first = 0x17F ∧ r.last = 0x17F ∧ r.shift = -300) := by
  decide +kernel

/-- So no other character from there becomes a plain capital. -/
theorem apply_upperRuns_ne {c l : Char} (hl : IsPlainCapital l)
    (hc : 128 ≤ c.toNat) (hdot : c ≠ '\u0131') :
    CaseRun.apply upperRuns c ≠ l := by
  obtain ⟨hpos, hlt⟩ := hl.toNat_pos_and_lt
  intro h
  unfold CaseRun.apply at h
  split at h
  · rename_i r hr
    have hholds := List.find?_some hr
    simp only [CaseRun.holds, Bool.and_eq_true, decide_eq_true_eq] at hholds
    obtain ⟨⟨hfirst, hlast⟩, -⟩ := hholds
    obtain hrun | hrun | ⟨h1, h2⟩ | ⟨h1, h2, hshift⟩ :=
      cases_of_mem_upperRuns r (List.mem_of_find?_eq_some hr)
    · omega
    · -- the capital lies beyond the ASCII range, if there is one
      have hn := toNat_ofNat_eq_or (c.toNat + r.shift).toNat
      rw [h] at hn
      omega
    · have hn : c.toNat = 0x131 := by omega
      apply hdot
      rw [← Char.ofNat_toNat c, hn]
    · have hn : c.toNat = 0x17F := by omega
      rw [hn, hshift] at h
      exact hl.2 h.symm
  · subst h
    omega

end Text

namespace Severity

open Text

/-- The names are of plain capitals. -/
theorem isPlainCapital_of_mem_name {s : Severity} {l : Char}
    (h : l ∈ s.name) : IsPlainCapital l := by
  have hall : ∀ s ∈ all, s.name.all (IsPlainCapital ·) = true := by
    decide
  have hname := hall s (by cases s <;> decide)
  exact of_decide_eq_true (List.all_eq_true.mp hname l h)

/-- What a longer capital form consists of stands in no name. The characters
that have one lie beyond the ASCII range, and the letter without a dot is not
among them. -/
theorem of_mem_longUppers {entry : Nat × List Nat} (h : entry ∈ longUppers) :
    (∀ s : Severity, ¬entry.2.map Char.ofNat <:+: s.name)
      ∧ 128 ≤ entry.1 ∧ entry.1 ≠ 0x131 := by
  have hall : ∀ entry ∈ longUppers,
      (∀ s ∈ all, ¬entry.2.map Char.ofNat <:+: s.name)
        ∧ 128 ≤ entry.1 ∧ entry.1 ≠ 0x131 := by
    decide +kernel
  exact ⟨fun s => (hall entry h).1 s (by cases s <;> decide), (hall entry h).2⟩

/-- **The capital form of a character**, seen from a name: it is one character,
and a letter of the name just if the character is a form of that letter; or it
stands nowhere in the name, and the character is a form of none of its
letters. -/
theorem upperOf_cases (s : Severity) (c : Char) :
    (∃ d, upperOf c = [d] ∧ ∀ l ∈ s.name, d = l ↔ IsFormOf c l)
      ∨ (¬upperOf c <:+: s.name ∧ ∀ l ∈ s.name, ¬IsFormOf c l) := by
  unfold upperOf
  split
  · rename_i hc
    exact .inl ⟨c.toUpper, rfl, fun l hl =>
      toUpper_eq_iff hc (isPlainCapital_of_mem_name hl)⟩
  · rename_i hc
    rw [Nat.not_lt] at hc
    split
    · rename_i n codes hfind
      obtain ⟨hcodes, -, hne⟩ :=
        of_mem_longUppers (List.mem_of_find?_eq_some hfind)
      have hn : n = c.toNat := by simpa using List.find?_some hfind
      refine .inr ⟨hcodes s, fun l hl hform => ?_⟩
      obtain ⟨-, rfl⟩ :=
        (isFormOf_iff_of_le (isPlainCapital_of_mem_name hl) hc).mp hform
      exact hne hn
    · refine .inl ⟨_, rfl, fun l hl => ?_⟩
      have hcapital := isPlainCapital_of_mem_name hl
      rw [isFormOf_iff_of_le hcapital hc]
      by_cases hdot : c = '\u0131'
      · have happly : CaseRun.apply upperRuns '\u0131' = 'I' := by decide +kernel
        rw [hdot, happly, and_iff_left rfl, eq_comm]
      · exact iff_of_false (apply_upperRuns_ne hcapital hc hdot)
          fun h => hdot h.2

/-- **The texts that name a level** are those with a form of each letter of the
name in its place. -/
theorem upper_eq_name_iff {s : Severity} {t : Text} :
    Text.upper t = s.name ↔ List.Forall₂ IsFormOf t s.name := by
  -- by induction on the text, for whatever is left of the name
  have hleft : ∀ n, n <:+ s.name →
      (Text.upper t = n ↔ List.Forall₂ IsFormOf t n) := by
    induction t with
    | nil =>
      intro n _
      rw [List.forall₂_nil_left_iff]
      exact eq_comm
    | cons c t ih =>
      intro n hn
      rw [show Text.upper (c :: t) = upperOf c ++ Text.upper t from rfl]
      obtain ⟨d, hd, hform⟩ | ⟨hnone, hform⟩ := upperOf_cases s c
      · rw [hd]
        cases n with
        | nil => simp
        | cons l n =>
          have hl : l ∈ s.name := hn.subset (List.mem_cons_self ..)
          have hrest : n <:+ s.name := (List.suffix_cons l n).trans hn
          rw [List.singleton_append, List.cons.injEq, List.forall₂_cons,
            hform l hl, ih n hrest]
      · refine iff_of_false ?_ ?_
        · rintro rfl
          exact hnone ((List.prefix_append ..).isInfix.trans hn.isInfix)
        · rintro (_ | ⟨h, -⟩)
          exact hform _ (hn.subset (List.mem_cons_self ..)) h
  exact hleft s.name (List.suffix_refl _)

end Severity
end QueryClient
