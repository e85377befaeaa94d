import Mathlib.Data.List.Infix
import QueryClient.Proofs.CommandLine

/-!
# Spellings of flags

A flag is **spelled** in full, or by a long spelling that is cut short anywhere
behind its hyphens and one letter: no two flags begin with the same letter. Both
are sorted alike (`Token.exists_ofText_of_spells`), with a value behind `=` and
without one.
-/

namespace QueryClient.Arguments

/-! ## Full and cut short -/

/-- Whether the text **spells** the flag: in full, or cut short behind the first
letter of a long spelling. -/
def Flag.Spells (f : Flag) (t : Text) : Prop :=
  t ∈ f.spellings ∨ ∃ s ∈ f.spellings, t <+: s ∧ 2 < t.length

instance (f : Flag) (t : Text) : Decidable (f.Spells t) :=
  inferInstanceAs (Decidable (_ ∨ _))

/-- **The flag of a spelling** is the one that has it. -/
theorem Flag.ofSpelling?_eq_some_iff {f : Flag} {t : Text} :
    ofSpelling? t = some f ↔ t ∈ f.spellings := by
  constructor
  · intro h
    have hall : ∀ entry ∈ table, entry.1 ∈ entry.2.spellings := by
      decide
    obtain ⟨entry, hfind, rfl⟩ := Option.map_eq_some_iff.mp h
    have hentry := List.find?_some hfind
    rw [← beq_iff_eq.mp hentry]
    exact hall entry (List.mem_of_find?_eq_some hfind)
  · have hall : ∀ t ∈ f.spellings, ofSpelling? t = some f := by
      cases f <;> decide
    exact hall t

/-- Spellings that are longer than two characters begin with two hyphens. -/
theorem Flag.isLong_of_mem_spellings {f : Flag} {t : Text} (h : t ∈ f.spellings)
    (hlen : 2 < t.length) : isLong t = true := by
  have hall : ∀ t ∈ f.spellings, 2 < t.length → isLong t = true := by
    cases f <;> decide
  exact hall t h hlen

namespace Token

/-- What is no **flag in full** has no spelling, and none in front of an
equality sign. -/
theorem inFull?_eq_none_iff {t : Text} :
    inFull? t = none
      ↔ (∀ f : Flag, t ∉ f.spellings)
        ∧ ∀ front back, t = front ++ '=' :: back →
          ∀ f : Flag, front ∉ f.spellings := by
  simp only [← Flag.ofSpelling?_eq_some_iff]
  constructor
  · intro h
    refine ⟨fun f hf => ?_, ?_⟩
    · rw [inFull?, hf] at h
      cases h
    · rintro front back rfl f hf
      rw [inFull?_attached hf] at h
      cases h
  · rintro ⟨hspelled, hfront⟩
    have hnone {t : Text} (h : ∀ f, Flag.ofSpelling? t ≠ some f) :
        Flag.ofSpelling? t = none :=
      Option.eq_none_iff_forall_ne_some.mpr h
    rw [inFull?, hnone hspelled]
    dsimp only
    split
    · rename_i front back hcut
      rw [hnone (hfront front back (Text.eq_append_of_cut hcut).1)]
      rfl
    · rfl

/-- What begins with a hyphen and is no flag in full is sorted by the flags that it
may be. -/
theorem ofText_of_inFull?_eq_none {t : Text} (hhead : t.head? = some '-')
    (hlen : 1 < t.length) (hfull : inFull? t = none) :
    ofText t = match candidates t with
      | [token] => .ok token
      | [] =>
        .ok (if isNegativeNumber t || t.contains ' ' then value t
          else unknown t)
      | several => .error (.ambiguous t (several.map spelling)) := by
  have hsorted : ofText t = _ := if_neg (not_outright hhead hlen)
  rw [hfull] at hsorted
  exact hsorted

/-- With two hyphens in front it may be any flag that it is cut short from. -/
theorem candidates_of_isLong {t : Text} (hlong : Flag.isLong t = true) :
    candidates t
      = (Flag.table.filter ((Text.cut '=' t).1.isPrefixOf ·.1)).map
          fun entry => .flag entry.2 entry.1 (Text.cut '=' t).2 :=
  if_pos hlong

/-- **A value can be attached** to whatever is sorted as a flag by its two
hyphens. -/
theorem ofText_append_value {t spelling : Text} {f : Flag}
    (hlong : Flag.isLong t = true) (hnot : '=' ∉ t)
    (h : ofText t = .ok (.flag f spelling none)) (value : Text) :
    ofText (t ++ '=' :: value) = .ok (.flag f spelling (some value)) := by
  cases hfull : Flag.ofSpelling? t with
  | some g =>
    rw [ofText_of_ofSpelling? hfull] at h
    cases h
    exact ofText_attached hfull value
  | none =>
    have hcut : Text.cut '=' t = (t, none) := Text.cut_of_notMem hnot
    have hcut' : Text.cut '=' (t ++ '=' :: value) = (t, some value) :=
      Text.cut_append_cons hnot value
    have hpre : ['-', '-'] <+: t := List.isPrefixOf_iff_prefix.mp hlong
    have hlong' : Flag.isLong (t ++ '=' :: value) = true :=
      List.isPrefixOf_iff_prefix.mpr (hpre.trans (List.prefix_append ..))
    obtain ⟨rest, rfl⟩ := hpre
    have hin : inFull? (['-', '-'] ++ rest) = none := by
      simp only [inFull?, hfull, hcut]
    have hin' : inFull? (['-', '-'] ++ rest ++ '=' :: value) = none := by
      simp only [inFull?, Flag.ofSpelling?_of_mem
        (List.mem_append_right _ (List.mem_cons_self ..)), hcut', hfull,
        Option.map_none]
    rw [ofText_of_inFull?_eq_none rfl (by simp) hin, candidates_of_isLong hlong,
      hcut] at h
    rw [ofText_of_inFull?_eq_none rfl (by simp) hin', candidates_of_isLong hlong',
      hcut']
    -- both are cut short from the same flags
    generalize Flag.table.filter _ = entries at h ⊢
    match entries, h with
    | [entry], h =>
      cases h
      rfl
    | [], h =>
      have h := Except.ok.inj h
      split at h <;> cases h

/-- **A text that spells a flag is that flag**, and the value attached to it is
the value. -/
theorem exists_ofText_of_spells {f : Flag} {t : Text} (h : f.Spells t) :
    ∃ spelling, ofText t = .ok (.flag f spelling none)
      ∧ ∀ value, ofText (t ++ '=' :: value)
        = .ok (.flag f spelling (some value)) := by
  rcases h with hmem | ⟨s, hs, hpre, hlen⟩
  · have hfull := Flag.ofSpelling?_eq_some_iff.mpr hmem
    exact ⟨t, ofText_of_ofSpelling? hfull, ofText_attached hfull⟩
  · have hcutShort : ∀ s ∈ f.spellings, ∀ k ≤ s.length, 2 < k →
        Flag.isLong (s.take k) = true ∧ '=' ∉ s.take k
          ∧ (ofText (s.take k)).toOption = some (.flag f s none) := by
      cases f <;> decide +kernel
    have htake : t = s.take t.length := List.prefix_iff_eq_take.mp hpre
    obtain ⟨hlong, hnot, hflag⟩ :=
      hcutShort s hs t.length hpre.length_le hlen
    rw [← htake] at hlong hnot hflag
    have hflag := eq_ok_of_toOption hflag
    exact ⟨s, hflag, ofText_append_value hlong hnot hflag⟩

/-! ## Short flags and values -/

/-- **What is run together with the short flag of the query** is its value. -/
theorem ofText_joined {value : Text} (hne : value ≠ [])
    (heq : value.head? ≠ some '=') :
    ofText ("-q".toList ++ value)
      = .ok (.flag .query "-q".toList (some value)) := by
  obtain ⟨c, rest, rfl⟩ := List.exists_cons_of_ne_nil hne
  have hin : inFull? ("-q".toList ++ c :: rest) = none := by
    refine inFull?_eq_none_iff.mpr ⟨fun f h => ?_, fun front back h f hf => ?_⟩
    · exact absurd (Flag.isLong_of_mem_spellings h (by simp)) nofun
    · -- such a front goes on behind the letter, but not with a second hyphen
      match front, h with
      | [_], h => exact absurd (List.cons.inj (List.cons.inj h).2).1 (by decide)
      | [_, _], h =>
        cases h
        exact heq rfl
      | a :: b :: d :: front, h =>
        cases h
        exact absurd (Flag.isLong_of_mem_spellings hf (by simp)) nofun
  rw [ofText_of_inFull?_eq_none rfl (by simp) hin]
  rfl

/-- **What does not begin with a hyphen is a value**, and so is a hyphen
alone. -/
theorem ofText_of_head?_ne {t : Text} (h : t = ['-'] ∨ t.head? ≠ some '-') :
    ofText t = .ok (.value t) := by
  refine if_pos (h.symm.imp_right ?_)
  rintro rfl
  rfl

end Token
end QueryClient.Arguments
