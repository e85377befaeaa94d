import QueryClient.Proofs.RequotedParts
import QueryClient.Proofs.WrittenAddress
import QueryClient.Url.Address

/-!
# Slashes in a row

Two slashes in a row in a path are an empty segment between its first and its
last. Whatever is done to paths makes no such segment: resolving dots takes
segments away, joining drops the empty ones or leaves the path as it is, and
escaping and requoting work on each segment by itself (`KeepsSlashes`). So a
path that comes out with two slashes in front went in with two slashes in a
row somewhere: `not_prefix_removeDots`, `not_prefix_joinPath`,
`Address.isDoubled_of_normalPath`.
-/

namespace QueryClient

/-- A field does not contain the separator. -/
theorem Text.notMem_of_mem_fields {sep : Char} {t part : Text}
    (h : part ∈ fields sep t) : sep ∉ part := by
  induction t generalizing part with
  | nil =>
    rw [fields_nil, List.mem_singleton] at h
    rw [h]
    exact List.not_mem_nil
  | cons c t ih =>
    rw [fields_cons, pushField] at h
    obtain ⟨first, rest, hf⟩ := List.exists_cons_of_ne_nil (fields_ne_nil sep t)
    rw [hf] at h ih
    split at h
    · obtain rfl | h := List.mem_cons.mp h
      · exact List.not_mem_nil
      · exact ih h
    · rename_i hc
      obtain rfl | h := List.mem_cons.mp h
      · rw [List.headD_cons, List.mem_cons, not_or]
        exact ⟨Ne.symm hc, ih (List.mem_cons_self ..)⟩
      · exact ih (List.mem_cons_of_mem _ h)

namespace Url

/-- Two slashes stand **in a row** in the text. -/
def IsDoubled (t : Text) : Prop :=
  ['/', '/'] <:+: t

/-- A text that begins with two slashes has them in a row. -/
theorem IsDoubled.of_isPrefix {t : Text} (h : ['/', '/'] <+: t) : IsDoubled t :=
  h.isInfix

/-- Two slashes in a row behind a text without a slash stand in a row in what
follows it. -/
theorem IsDoubled.of_append {s t : Text} (hs : '/' ∉ s)
    (h : IsDoubled (s ++ t)) : IsDoubled t := by
  induction s with
  | nil => exact h
  | cons c s ih =>
    rw [List.mem_cons, not_or] at hs
    obtain h | h := List.infix_cons_iff.mp h
    · exact absurd (List.cons_prefix_cons.mp h).1 hs.1
    · exact ih hs.2 h

/-- Segments are **filled** if none between the first and the last is
empty. -/
def IsFilled (segments : List Text) : Prop :=
  ∀ segment ∈ segments.dropLast.tail, segment ≠ []

theorem isFilled_nil : IsFilled [] :=
  List.forall_mem_nil _

theorem isFilled_singleton (segment : Text) : IsFilled [segment] :=
  List.forall_mem_nil _

/-- **The segments of a text without slashes in a row are filled.** -/
theorem isFilled_fields {t : Text} (h : ¬IsDoubled t) :
    IsFilled (Text.fields '/' t) := by
  induction t with
  | nil => exact isFilled_singleton []
  | cons c t ih =>
    have hfilled := ih fun hd => h (hd.trans (List.suffix_cons c t).isInfix)
    obtain ⟨first, rest, hf⟩ :=
      List.exists_cons_of_ne_nil (Text.fields_ne_nil '/' t)
    rw [Text.fields_cons, hf, Text.pushField]
    rw [hf] at hfilled
    cases rest with
    | nil =>
      split
      · exact List.forall_mem_nil _
      · exact isFilled_singleton _
    | cons second rest =>
      split
      · rename_i hc
        -- an empty first segment would put this slash in front of another
        have hfirst : first ≠ [] := by
          rintro rfl
          cases t with
          | nil => cases hf
          | cons d t =>
            rw [Text.fields_cons, Text.pushField] at hf
            split at hf
            · rename_i hd
              rw [hc, hd] at h
              exact h (List.prefix_append ['/', '/'] t).isInfix
            · cases hf
        intro segment hs
        rw [List.dropLast_cons_cons, List.dropLast_cons_cons, List.tail_cons]
          at hs
        obtain rfl | hs := List.mem_cons.mp hs
        · exact hfirst
        · exact hfilled segment hs
      · exact hfilled

/-- **Filled segments are joined to a text that does not begin with two
slashes.** -/
theorem not_prefix_joinFields {segments : List Text}
    (hfilled : IsFilled segments) (hslash : ∀ s ∈ segments, '/' ∉ s) :
    ¬['/', '/'] <+: Text.joinFields ['/'] segments := by
  rintro ⟨more, hmore⟩
  obtain _ | ⟨a, _ | ⟨b, rest⟩⟩ := segments
  · cases hmore
  · rw [Text.joinFields_singleton] at hmore
    refine hslash a (List.mem_cons_self ..) ?_
    rw [← hmore]
    exact List.mem_cons_self ..
  · rw [List.forall_mem_cons, List.forall_mem_cons] at hslash
    rw [Text.joinFields_cons_cons] at hmore
    cases a with
    | cons c a =>
      have hc : '/' = c := (List.cons.inj hmore).1
      exact hslash.1 (hc ▸ List.mem_cons_self ..)
    | nil =>
      have hrest : '/' :: more = Text.joinFields ['/'] (b :: rest) :=
        (List.cons.inj hmore).2
      cases rest with
      | nil =>
        rw [Text.joinFields_singleton] at hrest
        exact hslash.2.1 (hrest ▸ List.mem_cons_self ..)
      | cons c rest =>
        rw [Text.joinFields_cons_cons] at hrest
        cases b with
        | nil => exact hfilled [] (List.mem_cons_self ..) rfl
        | cons d b =>
          have hd : '/' = d := (List.cons.inj hrest).1
          exact hslash.2.1 (hd ▸ List.mem_cons_self ..)

/-! ## Dots -/

theorem resolveDots_append (taken s t : List Text) :
    resolveDots taken (s ++ t) = resolveDots (resolveDots taken s).reverse t := by
  fun_induction resolveDots taken s with
  | case1 taken => rw [List.reverse_reverse, List.nil_append]
  | case2 taken rest ih => rw [← ih]; rfl
  | case3 taken rest hne ih => rw [← ih]; rfl
  | case4 taken segment rest hup hdot ih =>
    rw [← ih, List.cons_append, resolveDots, if_neg hup, if_neg hdot]

/-- The last segment stays, unless it has dots itself. -/
theorem exists_resolveDots_concat (front : List Text) (last : Text) :
    ∃ kept : List Text, kept.Sublist front
      ∧ resolveDots [] (front ++ [last])
        = if isDotSegment last then kept else kept ++ [last] := by
  have hsub := resolveDots_sublist [] front
  rw [List.reverse_nil, List.nil_append] at hsub
  rw [resolveDots_append, resolveDots, resolveDots, resolveDots, resolveDots]
  split
  · rename_i hup
    refine ⟨(resolveDots [] front).reverse.tail.reverse, ?_, by rw [hup]; rfl⟩
    refine List.Sublist.trans ?_ hsub
    rw [← List.reverse_reverse (resolveDots [] front)]
    exact List.reverse_sublist.mpr (List.reverse_reverse _ ▸ List.tail_sublist _)
  split
  · rename_i hdot
    refine ⟨resolveDots [] front, hsub, ?_⟩
    rw [hdot, List.reverse_reverse]
    rfl
  · rename_i hup hdot
    refine ⟨resolveDots [] front, hsub, ?_⟩
    have hnone : isDotSegment last = false := by
      unfold isDotSegment
      rw [Bool.or_eq_false_iff, beq_eq_false_iff_ne, beq_eq_false_iff_ne]
      exact ⟨hdot, hup⟩
    rw [hnone, List.reverse_cons, List.reverse_reverse]
    rfl

namespace IsFilled

variable {front kept segments : List Text} {last : Text}

/-- Filled segments stay filled when some are taken away in front of the
last. -/
theorem concat (h : IsFilled (front ++ [last])) (hkept : kept.Sublist front)
    (s : Text) : IsFilled (kept ++ [s]) := by
  intro segment hs
  rw [List.dropLast_concat] at hs
  refine h segment ?_
  rw [List.dropLast_concat]
  exact hkept.tail.subset hs

/-- So they do when the last is taken away too. -/
theorem sublist (h : IsFilled (front ++ [last])) (hkept : kept.Sublist front) :
    IsFilled kept := by
  intro segment hs
  refine h segment ?_
  rw [List.dropLast_concat]
  exact hkept.tail.subset ((List.dropLast_sublist kept).tail.subset hs)

/-- They stay filled behind one more, unless there is an empty one at the
front. -/
theorem cons (h : IsFilled segments)
    (hhead : segments.dropLast.head? ≠ some []) (s : Text) :
    IsFilled (s :: segments) := by
  intro segment hs
  cases segments with
  | nil => cases hs
  | cons first rest =>
    rw [List.dropLast_cons_cons, List.tail_cons] at hs
    cases hd : (first :: rest).dropLast with
    | nil => rw [hd] at hs; cases hs
    | cons a more =>
      rw [hd] at hs hhead
      obtain rfl | hs := List.mem_cons.mp hs
      · rintro rfl
        exact hhead rfl
      · exact h segment (hd ▸ hs)

end IsFilled

/-- Where an empty segment may stand, there is no slash. -/
theorem slash_notMem_of_mem_ite {b : Bool} {segment : Text}
    (h : segment ∈ if b then [([] : Text)] else []) : '/' ∉ segment := by
  cases b with
  | true =>
    rw [List.mem_singleton.mp h]
    exact List.not_mem_nil
  | false => cases h

/-- **Removing dots does not put two slashes in front** of a path that has
none in a row. -/
theorem not_prefix_removeDots {path : Text} (h : ¬IsDoubled path) :
    ¬['/', '/'] <+: removeDots path := by
  have hfilled := isFilled_fields h
  have hslash : ∀ s ∈ Text.fields '/' path, '/' ∉ s := fun s =>
    Text.notMem_of_mem_fields
  obtain ⟨front, last, hf⟩ : ∃ front last,
      Text.fields '/' path = front ++ [last] :=
    ⟨_, _, (List.dropLast_concat_getLast (Text.fields_ne_nil '/' path)).symm⟩
  obtain ⟨kept, hkept, hresolved⟩ := exists_resolveDots_concat front last
  have hsegments := resolveDots_sublist [] (Text.fields '/' path)
  unfold removeDots
  dsimp only
  rw [hf] at hfilled hslash hsegments ⊢
  generalize hback : (if (decide (1 < (front ++ [last]).length)
    && (front ++ [last]).getLast?.any isDotSegment) = true
    then [([] : Text)] else []) = back
  have hwhole : IsFilled (resolveDots [] (front ++ [last]) ++ back) := by
    rw [hresolved, ← hback, List.getLast?_concat, Option.any_some]
    split
    · split
      · exact hfilled.concat hkept []
      · rw [List.append_nil]
        exact hfilled.sublist hkept
    · rename_i hdot
      rw [Bool.not_eq_true] at hdot
      rw [hdot, Bool.and_false, if_neg Bool.false_ne_true, List.append_nil]
      exact hfilled.concat hkept last
  rw [List.append_assoc]
  refine not_prefix_joinFields ?_ fun s hs => ?_
  · split
    · rename_i hrooted
      rw [Bool.and_eq_true, Bool.not_eq_true'] at hrooted
      refine hwhole.cons (fun hhead => ?_) []
      cases hr : resolveDots [] (front ++ [last]) with
      | nil =>
        rw [hr, List.nil_append, ← hback] at hhead
        split at hhead
        · cases hhead
        · cases hhead
      | cons first rest =>
        rw [hr] at hrooted hhead
        cases hd : rest ++ back with
        | nil =>
          rw [List.cons_append, hd] at hhead
          cases hhead
        | cons second more =>
          rw [List.cons_append, hd, List.dropLast_cons_cons] at hhead
          rw [Option.some.inj hhead] at hrooted
          cases hrooted.2
    · exact hwhole
  · rw [List.mem_append, List.mem_append] at hs
    obtain hs | hs | hs := hs
    · exact slash_notMem_of_mem_ite hs
    · exact hslash s (hsegments.subset hs)
    · exact slash_notMem_of_mem_ite (hback ▸ hs)

/-- The segments between the first and the last are filled when the empty
ones are dropped. -/
theorem isFilled_dropEmptyInside (segments : List Text) :
    IsFilled (dropEmptyInside segments) := by
  unfold dropEmptyInside
  split
  · exact isFilled_nil
  · rename_i first rest
    obtain rfl | ⟨inside, last, rfl⟩ := List.eq_nil_or_concat rest
    · exact isFilled_singleton first
    · intro segment hs
      rw [List.concat_eq_append, List.dropLast_concat, List.length_append,
        List.length_singleton, Nat.add_sub_cancel, List.drop_left, ← List.cons_append,
        List.dropLast_concat, List.tail_cons] at hs
      rintro rfl
      cases (List.mem_filter.mp hs).2

/-- **Nor does meaning a path from another**, whatever the other is. -/
theorem not_prefix_joinPath {path : Text} (h : ¬IsDoubled path)
    (base : Text) : ¬['/', '/'] <+: joinPath base path := by
  have hfilled : IsFilled (joinSegments base path) := by
    unfold joinSegments
    split
    · exact isFilled_fields h
    · exact isFilled_dropEmptyInside _
  have hslash : ∀ s ∈ joinSegments base path, '/' ∉ s := fun s hs =>
    (mem_joinSegments hs).elim Text.notMem_of_mem_fields
      Text.notMem_of_mem_fields
  unfold joinPath
  dsimp only
  generalize joinSegments base path = segments at hfilled hslash
  generalize hback : (if segments.getLast?.any isDotSegment = true
    then [([] : Text)] else []) = back
  have hwhole : IsFilled (resolveDots [] segments ++ back) := by
    obtain rfl | ⟨front, last, rfl⟩ := List.eq_nil_or_concat segments
    · rw [← hback]
      exact isFilled_nil
    · rw [List.concat_eq_append] at hfilled hback ⊢
      obtain ⟨kept, hkept, hresolved⟩ := exists_resolveDots_concat front last
      rw [hresolved, ← hback, List.getLast?_concat, Option.any_some]
      split
      · exact hfilled.concat hkept []
      · rw [List.append_nil]
        exact hfilled.concat hkept last
  have hjoined : ¬['/', '/'] <+:
      Text.joinFields ['/'] (resolveDots [] segments ++ back) := by
    refine not_prefix_joinFields hwhole fun s hs => ?_
    obtain hs | hs := List.mem_append.mp hs
    · exact hslash s ((resolveDots_sublist [] segments).subset hs)
    · exact slash_notMem_of_mem_ite (hback ▸ hs)
  split
  · decide
  · exact hjoined

/-! ## Escapes -/

/-- A way to write texts **keeps slashes** in the texts of `p` if each
segment is written by itself, and as something if it is something. -/
structure KeepsSlashes (p : Text → Prop) (f : Text → Text) : Prop where
  /-- What holds of a text holds of its parts. -/
  parts : ∀ {s t}, p (s ++ '/' :: t) → p s ∧ p t
  /-- The parts are written by themselves. -/
  append : ∀ {s t}, p (s ++ '/' :: t) → f (s ++ '/' :: t) = f s ++ '/' :: f t
  /-- No slash is brought in. -/
  slash : ∀ {t}, p t → '/' ∈ f t → '/' ∈ t
  /-- Nothing is written of nothing only. -/
  nil : ∀ {t}, p t → f t = [] → t = []

namespace KeepsSlashes

variable {p : Text → Prop} {f : Text → Text} {t : Text}

/-- **Every slash that is written was there**, with what stood before it and
what stood behind. -/
theorem exists_of_eq_append (h : KeepsSlashes p f) (ht : p t) {a z : Text}
    (ha : f t = a ++ '/' :: z) :
    ∃ s u, t = s ++ '/' :: u ∧ f s = a ∧ f u = z := by
  induction hn : t.length using Nat.strongRecOn generalizing t a with
  | ind n ih =>
  -- the first slash of the text is the first that is written
  have hmem : '/' ∈ t := h.slash ht (by
    rw [ha]
    exact List.mem_append_right _ (List.mem_cons_self ..))
  obtain ⟨s, u, rfl, hs⟩ := List.eq_append_cons_of_mem hmem
  have hwritten := h.append ht
  obtain ⟨hps, hpu⟩ := h.parts ht
  have hfs : '/' ∉ f s := fun hm => hs (h.slash hps hm)
  rw [ha] at hwritten
  obtain ⟨more, hfront, hback⟩ | ⟨more, hfront, hback⟩ :=
    List.append_eq_append_iff.mp hwritten
  · cases more with
    | nil =>
      rw [List.append_nil] at hfront
      exact ⟨s, u, rfl, hfront, (List.cons.inj hback).2.symm⟩
    | cons d more =>
      have hd : '/' = d := (List.cons.inj hback).1
      exact absurd (hfront ▸ List.mem_append_right _ (hd ▸ List.mem_cons_self ..))
        hfs
  · cases more with
    | nil =>
      rw [List.append_nil] at hfront
      exact ⟨s, u, rfl, hfront.symm, (List.cons.inj hback).2⟩
    | cons d more =>
      -- the slash is one of those behind the first
      have hd : '/' = d := (List.cons.inj hback).1
      obtain ⟨s', u', rfl, rfl, hu'⟩ :=
        ih u.length (by simp [← hn]; omega) hpu (List.cons.inj hback).2 rfl
      have hp : p ((s ++ '/' :: s') ++ '/' :: u') := by
        rwa [List.append_assoc]
      refine ⟨s ++ '/' :: s', u', by rw [List.append_assoc]; rfl, ?_, hu'⟩
      rw [h.append (h.parts hp).1, hfront, ← hd]

/-- Two slashes that are written in front stood there. -/
theorem prefix_of_written (h : KeepsSlashes p f) (ht : p t)
    (hf : ['/', '/'] <+: f t) : ['/', '/'] <+: t := by
  obtain ⟨z, hz⟩ := hf
  obtain ⟨s, u, rfl, hs, hu⟩ := h.exists_of_eq_append (a := []) ht hz.symm
  obtain ⟨hps, hpu⟩ := h.parts ht
  obtain ⟨s', u', rfl, hs', -⟩ := h.exists_of_eq_append (a := []) hpu hu
  rw [h.nil hps hs, h.nil (h.parts hpu).1 hs']
  exact List.prefix_append ['/', '/'] u'

/-- Two slashes that are written in a row stood in a row. -/
theorem isDoubled (h : KeepsSlashes p f) (ht : p t) (hf : IsDoubled (f t)) :
    IsDoubled t := by
  obtain ⟨a, z, hz⟩ := hf
  rw [List.append_assoc] at hz
  obtain ⟨s, u, rfl, -, hu⟩ := h.exists_of_eq_append ht hz.symm
  obtain ⟨s', u', rfl, hs', -⟩ :=
    h.exists_of_eq_append (a := []) (h.parts ht).2 hu
  rw [h.nil (h.parts (h.parts ht).2).1 hs']
  exact ⟨s, u', by simp⟩

end KeepsSlashes

/-- Only of nothing is nothing read. -/
theorem eq_nil_of_readUnreserved? {t : Text}
    (h : readUnreserved? t = some []) : t = [] := by
  fun_cases readUnreserved? t with
  | case1 high low rest halnum m n hm hn c =>
    rw [readUnreserved?, if_pos halnum, hm, hn] at h
    obtain ⟨read, -, hread⟩ := Option.map_eq_some_iff.mp h
    rw [List.append_eq_nil_iff] at hread
    split at hread
    · cases hread.1
    · cases hread.1
  | case2 high low rest halnum hnone =>
    rw [readUnreserved?, if_pos halnum] at h
    split at h
    · rename_i m n hm hn
      exact absurd hn (hnone m n hm)
    · cases h
  | case3 high low rest halnum =>
    rw [readUnreserved?, if_neg halnum] at h
    obtain ⟨read, -, hread⟩ := Option.map_eq_some_iff.mp h
    cases hread
  | case4 c rest hshort =>
    rw [readUnreserved?] at h
    · obtain ⟨read, -, hread⟩ := Option.map_eq_some_iff.mp h
      cases hread
    · exact hshort
  | case5 => rfl

/-- **Requoting keeps slashes**, once it is known whether a percent sign is
misused. -/
theorem keepsSlashes_requoteAs (misused : Bool) :
    KeepsSlashes (fun t => isMisused t = true → misused = true)
      (requoteAs misused) := by
  have hmisused (s t : Text) :
      isMisused (s ++ '/' :: t) = (isMisused s || isMisused t) :=
    isMisused_append_cons (by decide) (by decide) s t
  constructor
  case parts =>
    intro s t h
    rw [hmisused, Bool.or_eq_true] at h
    exact ⟨fun hs => h (.inl hs), fun ht => h (.inr ht)⟩
  case append =>
    exact fun h => requoteAs_append_cons (by decide) (by decide) h
  case slash =>
    exact fun _ hm => mem_of_mem_requoteAs hm (by decide) (by decide)
  case nil =>
    intro t h hnil
    unfold requoteAs at hnil
    unfold isMisused at h
    split at hnil
    · exact eq_nil_of_escape hnil
    · rename_i hread
      cases hr : readUnreserved? t with
      | none => exact absurd (h (by rw [hr]; rfl)) hread
      | some read =>
        rw [hr] at hnil
        obtain rfl : read = [] := eq_nil_of_escape hnil
        exact eq_nil_of_readUnreserved? hr

/-- **Escaping keeps slashes** that need no escape, in capitals or not. -/
theorem keepsSlashes_escape {keep : Char → Bool} (hkeep : keep '/' = true) :
    KeepsSlashes (fun _ => True) (fun t => escape keep (upperEscapes t)) := by
  constructor
  case parts => exact fun _ => ⟨trivial, trivial⟩
  case append =>
    intro s t _
    rw [upperEscapes_append_cons rfl (by decide), escape_append, escape_cons,
      if_pos hkeep]
    rfl
  case slash =>
    intro t _ hm
    obtain ⟨hm, -⟩ | hm | hm := mem_escape hm
    · obtain hm | hm := mem_upperEscapes hm
      · exact hm
      · exact absurd hm (by decide)
    · exact absurd hm (by decide)
    · exact absurd hm (by decide)
  case nil => exact fun _ hnil => eq_nil_of_upperEscapes (eq_nil_of_escape hnil)

namespace Address

/-- Rooting a path does not put two slashes in front. -/
theorem prefix_of_prefix_rootedPath {path : Text}
    (h : ['/', '/'] <+: rootedPath path) : ['/', '/'] <+: path := by
  unfold rootedPath at h
  split at h
  · exact h
  · rename_i hpath
    obtain ⟨more, hmore⟩ := h
    have hrooted : '/' :: more = path := (List.cons.inj hmore).2
    refine absurd ?_ hpath
    rw [← hrooted]
    rfl

/-- Nor does it put two slashes in a row anywhere. -/
theorem isDoubled_of_rootedPath {path : Text}
    (h : IsDoubled (rootedPath path)) : IsDoubled path := by
  by_cases hpath : path.isEmpty || path.head? = some '/'
  · rwa [rootedPath, if_pos hpath] at h
  · have hrooted : rootedPath path = '/' :: path := if_neg hpath
    rw [hrooted] at h
    obtain h | h := List.infix_cons_iff.mp h
    · exact .of_isPrefix (prefix_of_prefix_rootedPath (hrooted ▸ h))
    · exact h

/-- **Two slashes in front of a path in its normal form** stood in a row
before. -/
theorem isDoubled_of_normalPath {scheme path : Text}
    (h : ['/', '/'] <+: normalPath scheme path) : IsDoubled path := by
  have h := prefix_of_prefix_rootedPath h
  unfold component at h
  split at h
  · have hdots : ['/', '/'] <+: removeDots path := by
      unfold encodeComponent at h
      split at h
      · exact (keepsSlashes_escape rfl).prefix_of_written trivial h
      · exact (keepsSlashes_escape rfl).prefix_of_written trivial h
    exact Classical.byContradiction fun hs => not_prefix_removeDots hs hdots
  · exact .of_isPrefix h

end Address
end Url
end QueryClient
