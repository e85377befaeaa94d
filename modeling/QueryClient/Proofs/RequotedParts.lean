import QueryClient.Proofs.RequotedText

/-!
# Requoting part by part

An escape is three characters, so a text can be read in two parts wherever no
escape reaches across: `IsParted`. In front of a character that is neither a
letter nor a numeral there is always such a place, because an escape ends in
two of these; behind punctuation there is one too. Nothing else about the
reading of escapes is needed: where a text is parted, a percent sign is
misused in it exactly if one is in a part (`isMisused_append`), and then each
part is requoted by itself (`requoteAs_append`).

So an address is requoted part by part, and all that a part has to know of
the others is the answer to one question.
-/

namespace QueryClient.Url

/-- A text is **parted** between `s` and `t` if its escapes are read in the
two parts separately. -/
def IsParted (s t : Text) : Prop :=
  readUnreserved? (s ++ t)
    = (readUnreserved? s).bind fun read => (readUnreserved? t).map (read ++ ·)

/-- A percent sign that two letters or numerals do not follow is passed
over. -/
theorem readUnreserved?_percent_cons {t : Text}
    (h : ∀ high low rest, t = high :: low :: rest →
      (Text.isAlphanumeric high && Text.isAlphanumeric low) = false) :
    readUnreserved? ('%' :: t) = (readUnreserved? t).map ('%' :: ·) := by
  match t with
  | [] => rfl
  | [_] => rfl
  | high :: low :: rest =>
    rw [readUnreserved?, h high low rest rfl]
    rfl

namespace IsParted

/-- **A text is parted in front of a character that is no letter and no
numeral.** -/
theorem of_head {s t : Text}
    (h : ∀ c ∈ t.head?, Text.isAlphanumeric c = false) : IsParted s t := by
  unfold IsParted
  -- as the reading goes; at the end a percent sign meets the other part
  fun_induction readUnreserved? s with
  | case1 high low rest halnum m n hm hn c ih =>
    show readUnreserved? ('%' :: high :: low :: (rest ++ t)) = _
    rw [readUnreserved?, if_pos halnum, hm, hn]
    dsimp only
    rw [ih]
    cases readUnreserved? rest with
    | none => rfl
    | some read => simp [Function.comp_def, c]
  | case2 high low rest halnum hnone =>
    show readUnreserved? ('%' :: high :: low :: (rest ++ t)) = _
    rw [readUnreserved?, if_pos halnum]
    split
    · rename_i m n hm hn
      exact absurd hn (hnone m n hm)
    · rfl
  | case3 high low rest halnum ih =>
    show readUnreserved? ('%' :: high :: low :: (rest ++ t)) = _
    rw [readUnreserved?, if_neg halnum]
    show (readUnreserved? (high :: low :: rest ++ t)).map _ = _
    rw [ih]
    cases readUnreserved? (high :: low :: rest) with
    | none => rfl
    | some read => simp [Function.comp_def]
  | case4 c rest hshort ih =>
    have hread : readUnreserved? (c :: (rest ++ t))
        = (readUnreserved? (rest ++ t)).map (c :: ·) := by
      by_cases hc : c = '%'
      · subst hc
        refine readUnreserved?_percent_cons fun high low more he => ?_
        obtain _ | ⟨high', _ | ⟨low', rest'⟩⟩ := rest
        · cases t with
          | nil => cases he
          | cons d t =>
            cases he
            rw [h high rfl, Bool.false_and]
        · cases t with
          | nil => cases he
          | cons d t =>
            cases he
            rw [h low rfl, Bool.and_false]
        · exact absurd rfl (hshort high' low' rest' rfl)
      · exact readUnreserved?_cons_of_ne hc _
    rw [List.cons_append, hread, ih]
    cases readUnreserved? rest with
    | none => rfl
    | some read => simp [Function.comp_def]
  | case5 => simp

/-- Nothing is parted from anything. -/
theorem nil (t : Text) : IsParted [] t := by
  unfold IsParted
  simp [readUnreserved?]

/-- Settled text is parted from whatever follows. -/
theorem of_isSettled {s : Text} (hs : IsSettled s) (t : Text) :
    IsParted s t := by
  unfold IsParted
  rw [hs t, readUnreserved?_of_isSettled hs]
  rfl

/-- **So is a text that ends in punctuation.** -/
theorem concat {c : Char} (hc : Text.isAlphanumeric c = false) (hp : c ≠ '%')
    (s t : Text) : IsParted (s ++ [c]) t := by
  have hfront : ∀ t, IsParted s (c :: t) := fun t => .of_head fun d hd => by
    cases hd
    exact hc
  unfold IsParted
  rw [List.append_assoc, List.singleton_append, hfront t, hfront [],
    readUnreserved?_cons_of_ne hp, readUnreserved?_cons_of_ne hp]
  cases readUnreserved? s with
  | none => rfl
  | some read => simp [readUnreserved?, Function.comp_def]

end IsParted

/-- Settled text has no misused percent sign. -/
theorem isMisused_of_isSettled {t : Text} (h : IsSettled t) :
    isMisused t = false := by
  rw [isMisused, readUnreserved?_of_isSettled h]
  rfl

/-- **A percent sign is misused in a parted text if it is in a part.** -/
theorem isMisused_append {s t : Text} (h : IsParted s t) :
    isMisused (s ++ t) = (isMisused s || isMisused t) := by
  unfold isMisused
  rw [h]
  cases readUnreserved? s with
  | none => rfl
  | some read => cases readUnreserved? t <;> rfl

/-- **A parted text is requoted in its parts**, once it is known whether a
percent sign is misused in it or elsewhere. -/
theorem requoteAs_append {misused : Bool} {s t : Text} (h : IsParted s t)
    (hm : isMisused (s ++ t) = true → misused = true) :
    requoteAs misused (s ++ t)
      = requoteAs misused s ++ requoteAs misused t := by
  unfold requoteAs
  cases misused with
  | true => exact escape_append ..
  | false =>
    have hread : isMisused (s ++ t) = false := Bool.eq_false_iff.mpr fun he =>
      Bool.false_ne_true (hm he)
    rw [isMisused_append h, Bool.or_eq_false_iff] at hread
    unfold isMisused at hread
    rw [h]
    cases hs : readUnreserved? s with
    | none => rw [hs] at hread; cases hread.1
    | some read =>
      cases ht : readUnreserved? t with
      | none => rw [ht] at hread; cases hread.2
      | some more => exact escape_append ..

/-- A text that may stand in an address is requoted to itself, as long as
there is no percent sign in it. -/
theorem requoteAs_of_isPlain {t : Text} (h : ∀ c ∈ t, isPlain c = true)
    (misused : Bool) : requoteAs misused t = t := by
  have hsettled : IsSettled t := .of_notMem fun hm =>
    absurd (h '%' hm) (by decide)
  unfold requoteAs
  cases misused with
  | true => exact escape_of_forall h
  | false =>
    rw [readUnreserved?_of_isSettled hsettled]
    exact escape_of_forall fun c hc => by rw [h c hc, Bool.true_or]

/-- What is no percent sign misuses none. -/
theorem isMisused_cons {c : Char} (hc : c ≠ '%') (t : Text) :
    isMisused (c :: t) = isMisused t := by
  rw [← List.singleton_append,
    isMisused_append (.of_isSettled (.singleton hc) t),
    isMisused_of_isSettled (.singleton hc), Bool.false_or]

/-- A character that may stand in an address stays in front. -/
theorem requoteAs_cons {misused : Bool} {c : Char} {t : Text}
    (hc : isPlain c = true) (hm : isMisused (c :: t) = true → misused = true) :
    requoteAs misused (c :: t) = c :: requoteAs misused t := by
  have hsettled : IsSettled [c] := .singleton fun he => by
    rw [he] at hc
    exact absurd hc (by decide)
  rw [← List.singleton_append, requoteAs_append (.of_isSettled hsettled t) hm,
    requoteAs_of_isPlain (List.forall_mem_singleton.mpr hc)]
  rfl

/-- **A percent sign is misused around punctuation** if it is in front of it or
behind it. -/
theorem isMisused_append_cons {c : Char} (hc : Text.isAlphanumeric c = false)
    (hp : c ≠ '%') (s t : Text) :
    isMisused (s ++ c :: t) = (isMisused s || isMisused t) := by
  have hparted : IsParted s (c :: t) := .of_head fun d hd => by
    cases hd
    exact hc
  rw [isMisused_append hparted, isMisused_cons hp]

/-- **What stands around punctuation is requoted by itself**, and the punctuation
stays. -/
theorem requoteAs_append_cons {misused : Bool} {c : Char} {s t : Text}
    (hc : Text.isAlphanumeric c = false) (hplain : isPlain c = true)
    (hm : isMisused (s ++ c :: t) = true → misused = true) :
    requoteAs misused (s ++ c :: t)
      = requoteAs misused s ++ c :: requoteAs misused t := by
  have hparted : IsParted s (c :: t) := .of_head fun d hd => by
    cases hd
    exact hc
  have hback : isMisused (c :: t) = true → misused = true := fun h =>
    hm (by rw [isMisused_append hparted, h, Bool.or_true])
  rw [requoteAs_append hparted hm, requoteAs_cons hplain hback]

/-- What a text begins with, if that may stand in an address, it still begins
with when it is requoted. -/
theorem head?_requoteAs {misused : Bool} {t : Text} {p : Char → Prop}
    (hplain : ∀ c, p c → isPlain c = true) (ht : ∀ c ∈ t.head?, p c)
    (hm : isMisused t = true → misused = true) :
    ∀ c ∈ (requoteAs misused t).head?, p c := by
  cases t with
  | nil =>
    rw [requoteAs_of_isPlain (List.forall_mem_nil _)]
    exact fun c hc => nomatch hc
  | cons d t =>
    have hd := ht d rfl
    rw [requoteAs_cons (hplain d hd) hm]
    intro c hc
    cases hc
    exact hd

/-- Settled text of characters of an address is requoted to itself, or has
its percent signs escaped. -/
theorem requoteAs_of_isSettled {t : Text} (ht : IsSettled t)
    (hp : ∀ c ∈ t, isPlain c = true ∨ c = '%') (misused : Bool) :
    requoteAs misused t = if misused then escape isPlain t else t := by
  unfold requoteAs
  cases misused with
  | true => rfl
  | false =>
    rw [readUnreserved?_of_isSettled ht]
    refine escape_of_forall fun c hc => ?_
    rw [Bool.or_eq_true, beq_iff_eq]
    exact hp c hc

/-- So it is left alone where it stands by itself. -/
theorem requote_of_isSettled {t : Text} (ht : IsSettled t)
    (hp : ∀ c ∈ t, isPlain c = true ∨ c = '%') : requote t = t := by
  rw [requote_eq_requoteAs, isMisused_of_isSettled ht,
    requoteAs_of_isSettled ht hp]
  rfl

end QueryClient.Url
