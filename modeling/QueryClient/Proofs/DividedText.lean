import QueryClient.Text.Basic

/-!
# Text divided and joined

What a text is cut into is part of it, and what it is joined from is all
there is. These are the facts about the operations of `QueryClient.Text`
that are used whenever some part of an address, a host or an argument is to
be found again, or is to be shown free of a character.

`Text.span_append` is the form that serves readers who stop at one of several
characters, where `cut` stops at one.
-/

namespace QueryClient.Text

/-! ## Cutting -/

/-- What stands before the first separator is part of the text. -/
theorem mem_of_mem_cut {sep d : Char} {t : Text}
    (h : d ∈ (cut sep t).1) : d ∈ t :=
  List.takeWhile_subset _ h

/-- The separator itself does not. -/
theorem notMem_cut (sep : Char) (t : Text) : sep ∉ (cut sep t).1 := by
  intro h
  have hne := List.all_eq_true.mp (List.all_takeWhile (l := t)) sep h
  rw [bne_self_eq_false] at hne
  cases hne

/-- A text in front without the separator stays in front of the cut. -/
theorem cut_append {sep : Char} {a : Text} (h : sep ∉ a) (b : Text) :
    cut sep (a ++ b) = (a ++ (cut sep b).1, (cut sep b).2) := by
  induction a with
  | nil => rfl
  | cons c a ih =>
    rw [List.mem_cons, not_or] at h
    rw [List.cons_append, cut_cons_of_ne (Ne.symm h.1), ih h.2]
    rfl

/-- What is cut at a separator can be joined there again. -/
theorem eq_append_of_cut {sep : Char} {t before after : Text}
    (h : cut sep t = (before, some after)) :
    t = before ++ sep :: after ∧ sep ∉ before := by
  have hbefore : before = (cut sep t).1 := by rw [h]
  refine ⟨?_, hbefore ▸ notMem_cut sep t⟩
  induction t generalizing before with
  | nil => cases h
  | cons c t ih =>
    by_cases hc : c = sep
    · rw [hc, cut_cons_self] at h
      cases h
      rw [hc]
      rfl
    · rw [cut_cons_of_ne hc] at h
      obtain ⟨hfst, hsnd⟩ := Prod.mk.inj h
      have ht : t = (cut sep t).1 ++ sep :: after :=
        ih (Prod.ext rfl hsnd) rfl
      rw [← hfst, List.cons_append, ← ht]

/-- What follows the first separator is part of the text. -/
theorem mem_of_mem_getD_cut {sep d : Char} {t : Text}
    (h : d ∈ (cut sep t).2.getD []) : d ∈ t := by
  cases hcut : (cut sep t).2 with
  | none =>
    rw [hcut] at h
    cases h
  | some after =>
    rw [hcut] at h
    rw [(eq_append_of_cut (Prod.ext rfl hcut)).1]
    exact List.mem_append_right _ (List.mem_cons_of_mem _ h)

/-- So is what stands before the last one. -/
theorem mem_of_mem_getD_cutLast {sep d : Char} {t : Text}
    (h : d ∈ (cutLast sep t).1.getD []) : d ∈ t := by
  unfold cutLast at h
  cases hcut : (cut sep t.reverse).2 with
  | none =>
    rw [hcut] at h
    cases h
  | some after =>
    rw [hcut] at h
    have hafter : d ∈ (cut sep t.reverse).2.getD [] := by
      rw [hcut]
      exact List.mem_reverse.mp h
    exact List.mem_reverse.mp (mem_of_mem_getD_cut hafter)

/-- What follows the last separator stands at the end. -/
theorem suffix_cutLast (sep : Char) (t : Text) : (cutLast sep t).2 <:+ t := by
  have hfront : (cut sep t.reverse).1 <+: t.reverse := List.takeWhile_prefix _
  rw [cutLast, ← List.reverse_prefix, List.reverse_reverse]
  exact hfront

/-- So it is part of the text. -/
theorem mem_of_mem_cutLast {sep d : Char} {t : Text}
    (h : d ∈ (cutLast sep t).2) : d ∈ t :=
  (suffix_cutLast sep t).subset h

/-- The separator is not in it. -/
theorem notMem_cutLast (sep : Char) (t : Text) : sep ∉ (cutLast sep t).2 :=
  fun h => notMem_cut sep t.reverse (List.mem_reverse.mp h)

/-- What the last separator does not divide. -/
theorem cutLast_of_notMem {sep : Char} {t : Text} (h : sep ∉ t) :
    cutLast sep t = (none, t) := by
  have hreverse : sep ∉ t.reverse := fun hm => h (List.mem_reverse.mp hm)
  rw [cutLast, cut_of_notMem hreverse]
  show (none, t.reverse.reverse) = (none, t)
  rw [List.reverse_reverse]

/-- The cut falls at the last separator. -/
theorem cutLast_append_cons {sep : Char} {b : Text} (h : sep ∉ b) (a : Text) :
    cutLast sep (a ++ sep :: b) = (some a, b) := by
  have hreverse : sep ∉ b.reverse := fun hm => h (List.mem_reverse.mp hm)
  have hturned : (a ++ sep :: b).reverse = b.reverse ++ sep :: a.reverse := by
    simp
  rw [cutLast, hturned, Text.cut_append_cons hreverse]
  show (some a.reverse.reverse, b.reverse.reverse) = _
  rw [List.reverse_reverse, List.reverse_reverse]

/-- A run of characters that do not end it is followed by one that does. -/
theorem span_append {ends : Char → Bool} {run rest : Text}
    (hrun : ∀ c ∈ run, ends c = false) (hrest : ∀ c ∈ rest.head?, ends c = true) :
    (run ++ rest).takeWhile (!ends ·) = run
      ∧ (run ++ rest).dropWhile (!ends ·) = rest := by
  have hkeep : ∀ c ∈ run, (!ends c) = true := by
    intro c hc
    rw [hrun c hc]
    rfl
  have hstop : rest.takeWhile (!ends ·) = []
      ∧ rest.dropWhile (!ends ·) = rest := by
    cases rest with
    | nil => exact ⟨rfl, rfl⟩
    | cons c rest =>
      have hc : ¬(!ends c) = true := by
        rw [hrest c rfl]
        decide
      exact ⟨List.takeWhile_cons_of_neg hc, List.dropWhile_cons_of_neg hc⟩
  rw [List.takeWhile_append_of_pos hkeep, List.dropWhile_append_of_pos hkeep,
    hstop.1, hstop.2, List.append_nil]
  exact ⟨rfl, rfl⟩

/-- Any run of the character goes from the end. -/
theorem trimEnd_append_replicate (c : Char) (t : Text) (k : Nat) :
    trimEnd c (t ++ List.replicate k c) = trimEnd c t := by
  induction k with
  | zero => rw [List.replicate_zero, List.append_nil]
  | succ k ih =>
    rw [List.replicate_succ', ← List.append_assoc, trimEnd_append_self, ih]

/-! ## Fields -/

/-- What stands in a field stands in the text. -/
theorem mem_of_mem_fields {sep : Char} {t part : Text}
    (h : part ∈ fields sep t) {d : Char} (hd : d ∈ part) : d ∈ t := by
  induction t generalizing part with
  | nil =>
    rw [fields_nil, List.mem_singleton] at h
    rw [h] at hd
    cases hd
  | cons c t ih =>
    rw [fields_cons, pushField] at h
    obtain ⟨first, rest, hf⟩ := List.exists_cons_of_ne_nil (fields_ne_nil sep t)
    rw [hf] at h ih
    split at h
    · obtain rfl | h := List.mem_cons.mp h
      · cases hd
      · exact List.mem_cons_of_mem _ (ih h hd)
    · obtain rfl | h := List.mem_cons.mp h
      · obtain rfl | hd := List.mem_cons.mp hd
        · exact List.mem_cons_self ..
        · exact List.mem_cons_of_mem _ (ih (List.mem_cons_self ..) hd)
      · exact List.mem_cons_of_mem _ (ih (List.mem_cons_of_mem _ h) hd)

/-- What stands in joined fields stands in the separator or in a field. -/
theorem mem_joinFields {sep : Text} {parts : List Text} {d : Char}
    (h : d ∈ joinFields sep parts) : d ∈ sep ∨ ∃ part ∈ parts, d ∈ part := by
  induction parts with
  | nil => cases h
  | cons a parts ih =>
    cases parts with
    | nil =>
      rw [joinFields_singleton] at h
      exact .inr ⟨a, List.mem_cons_self .., h⟩
    | cons b rest =>
      rw [joinFields_cons_cons, List.mem_append, List.mem_append] at h
      obtain (h | h) | h := h
      · exact .inr ⟨a, List.mem_cons_self .., h⟩
      · exact .inl h
      · refine (ih h).imp_right ?_
        rintro ⟨part, hp, hd⟩
        exact ⟨part, List.mem_cons_of_mem _ hp, hd⟩

/-- Fields are joined to something as soon as one of them is something. -/
theorem joinFields_ne_nil {sep : Text} {parts : List Text} (part : Text)
    (hp : part ∈ parts) (h : part ≠ []) : joinFields sep parts ≠ [] := by
  induction parts with
  | nil => cases hp
  | cons a parts ih =>
    cases parts with
    | nil =>
      rw [joinFields_singleton, ← List.mem_singleton.mp hp]
      exact h
    | cons b rest =>
      rw [joinFields_cons_cons]
      intro hnil
      rw [List.append_eq_nil_iff, List.append_eq_nil_iff] at hnil
      obtain rfl | hp := List.mem_cons.mp hp
      · exact h hnil.1.1
      · exact ih hp hnil.2

/-- Lower case goes through a joint that has none. -/
theorem joinFields_map_lowerAscii {sep : Char} (hsep : sep.toLower = sep)
    (parts : List Text) :
    joinFields [sep] (parts.map lowerAscii)
      = lowerAscii (joinFields [sep] parts) := by
  induction parts with
  | nil => rfl
  | cons a parts ih =>
    cases parts with
    | nil => rw [List.map_singleton, joinFields_singleton, joinFields_singleton]
    | cons b rest =>
      have hmark : lowerAscii [sep] = [sep] := congrArg (fun c => [c]) hsep
      rw [List.map_cons, List.map_cons, joinFields_cons_cons, ← List.map_cons,
        ih, joinFields_cons_cons]
      unfold lowerAscii at hmark ⊢
      rw [List.map_append, List.map_append, hmark]

end QueryClient.Text
