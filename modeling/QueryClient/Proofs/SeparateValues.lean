import QueryClient.Proofs.FlagOccurrences

/-!
# Values as arguments of their own

A query attached to its flag is read as it is. As the next argument it may be
taken for a flag, and then it is refused. It is refused for nothing else: a text
that begins with a hyphen is a value if it is a negative number, or if it holds a
space and does not read as a flag (`Arguments.StandsAlone`).

Sorting makes no difference between a text that reads as a flag and one that is a
long spelling cut short. The latter holds no space, so the two come apart in
`Token.sorted_iff`, on which everything rests.
-/

namespace QueryClient.Arguments

/-! ## What stands alone -/

/-- Whether the text is a **number** without a sign: digits, or a point with digits
behind it and perhaps in front. -/
def IsDecimal (t : Text) : Prop :=
  (t ≠ [] ∧ ∀ d ∈ t, Text.isDecimalDigit d = true)
    ∨ ∃ whole fraction, t = whole ++ '.' :: fraction ∧ fraction ≠ []
      ∧ ∀ d ∈ whole ++ fraction, Text.isDecimalDigit d = true

/-- Whether the text is a **negative number**, perhaps with a line end behind
it. -/
def IsNegativeNumber (t : Text) : Prop :=
  ∃ number, IsDecimal number ∧ (t = '-' :: number ∨ t = '-' :: number ++ ['\n'])

/-- Whether the text **reads as a flag**: it is a spelling, or has one in front of
an equality sign, or there a long one that is cut short, be it to its two hyphens, or
it begins with a short flag. A single hyphen in front of the sign is no long spelling
cut short. -/
def ReadsAsFlag (t : Text) : Prop :=
  (∃ f : Flag, t ∈ f.spellings)
    ∨ (∃ front back, t = front ++ '=' :: back
      ∧ ((∃ f : Flag, front ∈ f.spellings)
        ∨ ∃ f : Flag, ∃ s ∈ f.spellings, ['-', '-'] <+: front ∧ front <+: s))
    ∨ "-q".toList <+: t ∨ "-h".toList <+: t

/-- Whether the text is a value as an argument **of its own**. -/
def StandsAlone (t : Text) : Prop :=
  t = [] ∨ t.head? ≠ some '-' ∨ t = ['-'] ∨ IsNegativeNumber t
    ∨ (' ' ∈ t ∧ ¬ReadsAsFlag t)

/-! ## Numbers -/

/-- A number is of digits and points. -/
theorem IsDecimal.digit_or_point {t : Text} (h : IsDecimal t) {d : Char}
    (hd : d ∈ t) : Text.isDecimalDigit d = true ∨ d = '.' := by
  obtain ⟨-, hall⟩ | ⟨whole, fraction, rfl, -, hall⟩ := h
  · exact .inl (hall d hd)
  · obtain hd | rfl | hd :=
      (List.mem_append.mp hd).imp_right List.mem_cons.mp
    · exact .inl (hall d (List.mem_append_left _ hd))
    · exact .inr rfl
    · exact .inl (hall d (List.mem_append_right _ hd))

/-- It is not nothing. -/
theorem IsDecimal.ne_nil {t : Text} (h : IsDecimal t) : t ≠ [] := by
  obtain ⟨hne, -⟩ | ⟨whole, fraction, rfl, -, -⟩ := h
  · exact hne
  · simp

namespace Token

/-- Digits are not nothing, and digits alone. -/
theorem isDigits_iff {t : Text} :
    isDigits t = true ↔ t ≠ [] ∧ ∀ d ∈ t, Text.isDecimalDigit d = true := by
  simp [isDigits]

/-- **Numbers are recognized** by their digits, or at their first point. -/
theorem isDecimal_iff {t : Text} :
    (isDigits t || match Text.cut '.' t with
      | (whole, some fraction) =>
        whole.all Text.isDecimalDigit && isDigits fraction
      | _ => false) = true ↔ IsDecimal t := by
  rw [Bool.or_eq_true, isDigits_iff]
  refine or_congr_right ⟨fun h => ?_, ?_⟩
  · split at h
    · rename_i whole fraction hcut
      obtain ⟨hwhole, hfraction⟩ := (Bool.and_eq_true _ _).mp h
      obtain ⟨hne, hfraction⟩ := isDigits_iff.mp hfraction
      have ht := (Text.eq_append_of_cut hcut).1
      refine ⟨whole, fraction, ht, hne, fun d hd => ?_⟩
      obtain hd | hd := List.mem_append.mp hd
      · exact List.all_eq_true.mp hwhole d hd
      · exact hfraction d hd
    · cases h
  · rintro ⟨whole, fraction, rfl, hne, hall⟩
    rw [List.forall_mem_append] at hall
    have hpoint : '.' ∉ whole := fun h => absurd (hall.1 _ h) (by decide)
    rw [Text.cut_append_cons hpoint]
    exact (Bool.and_eq_true _ _).mpr
      ⟨List.all_eq_true.mpr hall.1, isDigits_iff.mpr ⟨hne, hall.2⟩⟩

/-- **So are negative numbers**, without the line end that may follow. -/
theorem isNegativeNumber_iff {t : Text} :
    isNegativeNumber t = true ↔ IsNegativeNumber t := by
  unfold isNegativeNumber
  generalize hline : (if t.getLast? = some '\n' then t.dropLast else t) = line
  constructor
  · intro h
    dsimp only at h
    split at h
    · rename_i number
      refine ⟨number, isDecimal_iff.mp h, ?_⟩
      split at hline
      · rename_i hlast
        obtain ⟨front, rfl⟩ := List.getLast?_eq_some_iff.mp hlast
        rw [List.dropLast_concat] at hline
        exact .inr (by rw [hline])
      · exact .inl hline
    · cases h
  · rintro ⟨number, hnumber, ht⟩
    have hnumbered : line = '-' :: number := by
      obtain rfl | rfl := ht
      · -- a number does not end in a line end
        refine hline.symm.trans (if_neg fun hlast => ?_)
        obtain h | h := List.mem_cons.mp (List.mem_of_getLast? hlast)
        · exact absurd h (by decide)
        · exact absurd (hnumber.digit_or_point h) (by decide)
      · rw [if_pos (List.getLast?_concat ..), List.dropLast_concat] at hline
        exact hline.symm
    rw [hnumbered]
    exact isDecimal_iff.mpr hnumber

end Token

/-! ## Second characters -/

/-- What stands **behind the hyphen of a flag**: another, or one of two letters. -/
def secondCharacters : List (Option Char) :=
  [some '-', some 'q', some 'h']

/-- Spellings have one of them there. -/
theorem Flag.second_of_mem_spellings {f : Flag} {s : Text} (h : s ∈ f.spellings) :
    1 < s.length ∧ s[1]? ∈ secondCharacters := by
  have hall : ∀ s ∈ f.spellings, 1 < s.length ∧ s[1]? ∈ secondCharacters := by
    cases f <;> decide
  exact hall s h

/-- A text that goes on as a spelling begins has the second character of that. -/
theorem second_of_isPrefix {s t : Text} (h : s <+: t) (hlen : 1 < s.length) :
    t[1]? = s[1]? := by
  obtain ⟨rest, rfl⟩ := h
  exact List.getElem?_append_left hlen

/-- So it is with everything that reads as a flag. -/
theorem ReadsAsFlag.second {t : Text} (h : ReadsAsFlag t) :
    t[1]? ∈ secondCharacters := by
  obtain ⟨f, hf⟩ | ⟨front, back, rfl, ⟨f, hf⟩ | ⟨f, s, hs, hlong, -⟩⟩ | h | h := h
  · exact (Flag.second_of_mem_spellings hf).2
  · obtain ⟨hlen, hsecond⟩ := Flag.second_of_mem_spellings hf
    rwa [second_of_isPrefix (List.prefix_append ..) hlen]
  · rw [second_of_isPrefix (hlong.trans (List.prefix_append ..)) (by decide)]
    decide
  · rw [second_of_isPrefix h (by decide)]
    decide
  · rw [second_of_isPrefix h (by decide)]
    decide

/-- Behind the hyphen of a negative number stands none of these. -/
theorem IsNegativeNumber.not_second {t : Text} (h : IsNegativeNumber t) :
    t[1]? ∉ secondCharacters := by
  obtain ⟨number, hnumber, ht⟩ := h
  obtain ⟨d, rest, rfl⟩ := List.exists_cons_of_ne_nil hnumber.ne_nil
  have hd := hnumber.digit_or_point (List.mem_cons_self ..)
  have hsecond : t[1]? = some d := by
    obtain rfl | rfl := ht <;> rfl
  rw [hsecond]
  intro hmem
  simp only [secondCharacters, List.mem_cons, Option.some.injEq,
    List.not_mem_nil, or_false] at hmem
  obtain rfl | rfl | rfl := hmem <;> exact absurd hd (by decide)

/-! ## Sorting -/

namespace Flag

/-- The table holds the spellings of each flag. -/
theorem mem_table_iff {s : Text} {f : Flag} : (s, f) ∈ table ↔ s ∈ f.spellings := by
  have hall : f ∈ all := by cases f <;> decide
  simp [table, hall]

/-- Spellings hold no space. -/
theorem space_notMem_of_mem_spellings {s : Text} {f : Flag} (h : s ∈ f.spellings) :
    ' ' ∉ s := by
  have hall : ∀ s ∈ f.spellings, ' ' ∉ s := by
    cases f <;> decide
  exact hall s h

end Flag

namespace Token

section

variable {t : Text}

/-- **Two hyphens in front.** No flag is meant just if no long spelling is cut short
in front of an equality sign. -/
theorem candidates_eq_nil_iff_of_isLong (hlong : Flag.isLong t = true)
    (hcut : ∀ f : Flag, ∀ s ∈ f.spellings, ¬t <+: s) :
    candidates t = [] ↔ ¬∃ front back, t = front ++ '=' :: back
      ∧ ∃ f : Flag, ∃ s ∈ f.spellings, ['-', '-'] <+: front ∧ front <+: s := by
  have hnil : candidates t = []
      ↔ ∀ f : Flag, ∀ s ∈ f.spellings, ¬(Text.cut '=' t).1 <+: s := by
    rw [candidates_of_isLong hlong, List.map_eq_nil_iff, List.filter_eq_nil_iff]
    simp only [Prod.forall, List.isPrefixOf_iff_prefix, Flag.mem_table_iff]
    exact forall_comm
  rw [hnil]
  constructor
  · rintro h ⟨front, back, rfl, f, s, hs, -, hpre⟩
    have hnot : '=' ∉ front := fun hmem =>
      (Flag.shape_of_ofSpelling? (Flag.ofSpelling?_eq_some_iff.mpr hs)).2.2
        (hpre.subset hmem)
    refine h f s hs ?_
    rwa [Text.cut_append_cons hnot]
  · intro h f s hs hpre
    by_cases hmem : '=' ∈ t
    · obtain ⟨front, back, rfl, hnot⟩ := List.eq_append_cons_of_mem hmem
      rw [Text.cut_append_cons hnot] at hpre
      refine h ⟨front, back, rfl, f, s, hs, ?_, hpre⟩
      -- neither hyphen is the equality sign
      match front, List.isPrefixOf_iff_prefix.mp hlong with
      | [], ⟨rest, hrest⟩ => exact absurd (List.cons.inj hrest).1 (by decide)
      | [_], ⟨rest, hrest⟩ =>
        exact absurd (List.cons.inj (List.cons.inj hrest).2).1 (by decide)
      | a :: b :: front, ⟨rest, hrest⟩ =>
        cases hrest
        exact ⟨front, rfl⟩
    · rw [Text.cut_of_notMem hmem] at hpre
      exact hcut f s hs hpre

/-- **One hyphen in front.** No flag is meant just if the text does not begin with a
short one. -/
theorem candidates_eq_nil_iff_of_not_isLong (hlong : ¬Flag.isLong t = true)
    (hlen : 1 < t.length) (hcut : ∀ f : Flag, ∀ s ∈ f.spellings, ¬t <+: s) :
    candidates t = [] ↔ ¬("-q".toList <+: t ∨ "-h".toList <+: t) := by
  have hnil : candidates t = [] ↔ ∀ f : Flag, ∀ s ∈ f.spellings, s ≠ t.take 2 := by
    rw [candidates, if_neg hlong, shortCandidates, List.filterMap_eq_nil_iff]
    simp only [Prod.forall, Flag.mem_table_iff, beq_iff_eq]
    refine forall_comm.trans (forall₃_congr fun f s hs => ?_)
    rw [if_neg (mt List.isPrefixOf_iff_prefix.mp (hcut f s hs))]
    simp
  have hlen' : (t.take 2).length = 2 := by
    rw [List.length_take]
    omega
  rw [hnil]
  constructor
  · rintro h (hq | hh)
    · exact h .query "-q".toList (by decide) (List.prefix_iff_eq_take.mp hq)
    · exact h .help "-h".toList (by decide) (List.prefix_iff_eq_take.mp hh)
  · rintro h f s hs rfl
    have hshort : ∀ s ∈ f.spellings, s.length = 2 →
        s = "-q".toList ∨ s = "-h".toList := by
      cases f <;> decide
    have hpre := List.take_prefix 2 t
    refine h ((hshort _ hs hlen').imp (fun hq => ?_) fun hh => ?_)
    · rwa [← hq]
    · rwa [← hh]

/-- **What is not a long spelling cut short** is sorted as a flag just if it reads
as one. -/
theorem sorted_iff (hlen : 1 < t.length)
    (hcut : ∀ f : Flag, ∀ s ∈ f.spellings, ¬t <+: s) :
    inFull? t = none ∧ candidates t = [] ↔ ¬ReadsAsFlag t := by
  have hcandidates : candidates t = []
      ↔ (¬∃ front back, t = front ++ '=' :: back
          ∧ ∃ f : Flag, ∃ s ∈ f.spellings, ['-', '-'] <+: front ∧ front <+: s)
        ∧ ¬("-q".toList <+: t ∨ "-h".toList <+: t) := by
    by_cases hlong : Flag.isLong t = true
    · rw [candidates_eq_nil_iff_of_isLong hlong hcut]
      have hsecond : t[1]? = some '-' :=
        second_of_isPrefix (List.isPrefixOf_iff_prefix.mp hlong) (by decide)
      refine (and_iff_left ?_).symm
      rintro (h | h)
      · rw [second_of_isPrefix h (by decide)] at hsecond
        exact absurd hsecond (by decide)
      · rw [second_of_isPrefix h (by decide)] at hsecond
        exact absurd hsecond (by decide)
    · rw [candidates_eq_nil_iff_of_not_isLong hlong hlen hcut]
      refine (and_iff_right ?_).symm
      rintro ⟨front, back, rfl, -, -, -, hfront, -⟩
      exact hlong (List.isPrefixOf_iff_prefix.mpr
        (hfront.trans (List.prefix_append ..)))
  rw [hcandidates, inFull?_eq_none_iff]
  constructor
  · rintro ⟨⟨hspelled, hfront⟩, hshortened, hshort⟩
      (⟨f, hf⟩ | ⟨front, back, ht, ⟨f, hf⟩ | h⟩ | h)
    · exact hspelled f hf
    · exact hfront front back ht f hf
    · exact hshortened ⟨front, back, ht, h⟩
    · exact hshort h
  · intro h
    refine ⟨⟨fun f hf => h (.inl ⟨f, hf⟩), ?_⟩, ?_,
      fun hshort => h (.inr (.inr hshort))⟩
    · exact fun front back ht f hf =>
        h (.inr (.inl ⟨front, back, ht, .inl ⟨f, hf⟩⟩))
    · rintro ⟨front, back, ht, hs⟩
      exact h (.inr (.inl ⟨front, back, ht, .inr hs⟩))

/-- What may be meant by a text is a flag. -/
theorem exists_flag_of_mem_candidates {token : Token} (h : token ∈ candidates t) :
    ∃ f spelling attached, token = .flag f spelling attached := by
  unfold candidates at h
  split at h
  · obtain ⟨entry, -, rfl⟩ := List.mem_map.mp h
    exact ⟨_, _, _, rfl⟩
  · obtain ⟨entry, -, h⟩ := List.mem_filterMap.mp h
    dsimp only at h
    split_ifs at h
    · cases h
      exact ⟨_, _, _, rfl⟩
    · cases h
      exact ⟨_, _, _, rfl⟩

/-- So is what is one in full. -/
theorem exists_flag_of_inFull? {token : Token} (h : inFull? t = some token) :
    ∃ f spelling attached, token = .flag f spelling attached := by
  unfold inFull? at h
  split at h
  · cases h
    exact ⟨_, _, _, rfl⟩
  · split at h
    · obtain ⟨f, -, rfl⟩ := Option.map_eq_some_iff.mp h
      exact ⟨_, _, _, rfl⟩
    · cases h

/-- **What begins with a hyphen and goes on** is a value if it is sorted as no flag,
and is a negative number or holds a space. -/
theorem ofText_eq_value_iff_of_head? (hhead : t.head? = some '-')
    (hlen : 1 < t.length) {u : Text} :
    ofText t = .ok (.value u) ↔ t = u ∧ (inFull? t = none ∧ candidates t = [])
      ∧ (isNegativeNumber t = true ∨ ' ' ∈ t) := by
  cases hfull : inFull? t with
  | some token =>
    obtain ⟨f, spelling, attached, rfl⟩ := exists_flag_of_inFull? hfull
    rw [ofText_of_inFull? hhead hlen hfull]
    simp
  | none =>
    rw [ofText_of_inFull?_eq_none hhead hlen hfull]
    match hc : candidates t with
    | [] =>
      by_cases h : isNegativeNumber t = true ∨ ' ' ∈ t <;> simp [h]
    | [token] =>
      have hmem : token ∈ candidates t := hc ▸ List.mem_singleton_self token
      obtain ⟨f, spelling, attached, rfl⟩ := exists_flag_of_mem_candidates hmem
      simp
    | _ :: _ :: _ => simp

/-- **What is sorted as a value** is what stands alone, and it is itself. -/
theorem ofText_eq_value_iff {u : Text} :
    ofText t = .ok (.value u) ↔ t = u ∧ StandsAlone t := by
  by_cases hflag : t.head? ≠ some '-' ∨ t.length = 1
  · have halone : StandsAlone t := by
      obtain hhead | hlen := hflag
      · exact .inr (.inl hhead)
      · obtain ⟨c, rfl⟩ := List.length_eq_one_iff.mp hlen
        by_cases hc : c = '-'
        · exact .inr (.inr (.inl (hc ▸ rfl)))
        · exact .inr (.inl fun h => hc (Option.some.inj h))
    rw [ofText, if_pos hflag]
    simp [halone]
  · obtain ⟨hhead, hlen⟩ := not_or.mp hflag
    rw [not_not] at hhead
    have hne : t ≠ [] := by
      rintro rfl
      cases hhead
    have hlong : 1 < t.length := by
      have := List.length_pos_iff.mpr hne
      omega
    have halone : StandsAlone t
        ↔ IsNegativeNumber t ∨ ' ' ∈ t ∧ ¬ReadsAsFlag t := by
      have hhyphen : t ≠ ['-'] := by
        rintro rfl
        exact hlen rfl
      simp [StandsAlone, hne, hhead, hhyphen]
    rw [ofText_eq_value_iff_of_head? hhead hlong, halone, isNegativeNumber_iff]
    have hsorted (h : IsNegativeNumber t ∨ ' ' ∈ t) :
        inFull? t = none ∧ candidates t = [] ↔ ¬ReadsAsFlag t := by
      refine sorted_iff hlong fun f s hs hpre => h.elim (fun h => ?_) fun h => ?_
      · refine h.not_second ?_
        rw [← second_of_isPrefix hpre hlong]
        exact (Flag.second_of_mem_spellings hs).2
      · exact Flag.space_notMem_of_mem_spellings hs (hpre.subset h)
    refine and_congr_right fun _ => ⟨?_, ?_⟩
    · rintro ⟨hflag, h⟩
      exact h.imp_right fun hspace => ⟨hspace, (hsorted h).mp hflag⟩
    · rintro (hnumber | ⟨hspace, hreads⟩)
      · have hreads : ¬ReadsAsFlag t := fun h => hnumber.not_second h.second
        exact ⟨(hsorted (.inl hnumber)).mpr hreads, .inl hnumber⟩
      · exact ⟨(hsorted (.inr hspace)).mpr hreads, .inr hspace⟩

end

end Token

/-! ## The query -/

variable {v : Text}

/-- The query is set to every value that is not dropped. -/
theorem set_query (a : Arguments) (hv : v ≠ Token.separatorText) :
    a.set .query v = .ok { a with query := some v.loose } := by
  rw [set, kept_of_ne hv, Option.map_some]

/-- A query behind `=` is read as it is. -/
theorem read_query_attached (hv : v ≠ Token.separatorText) :
    read ["--query=".toList ++ v] = .ok { query := some v } := by
  have hspelling : Flag.ofSpelling? "--query".toList = some .query := by decide
  have hread : read ([] ++ ["--query".toList ++ '=' :: v])
      = .ok { query := some v } :=
    (read_append_attached hspelling rfl).mpr ⟨{}, rfl, set_query {} hv⟩
  exact hread

/-- A query that stands alone is read as the next argument. -/
theorem read_query_of_standsAlone (hv : StandsAlone v) :
    read ["--query".toList, v] = .ok { query := some v } := by
  have hspelling : Flag.ofSpelling? "--query".toList = some .query := by decide
  have hvalue := Token.ofText_eq_value_iff.mpr ⟨rfl, hv⟩
  have htokens : Token.ofArguments ["--query".toList, v]
      = .ok [.flag .query "--query".toList none, .value v] :=
    Token.ofArguments_cons (Token.ofText_of_ofSpelling? hspelling)
      (Token.ofArguments_cons hvalue rfl)
  have hput : put {} .query v = .ok { query := some v } :=
    congrArg (·.mapError Stop.fault)
      (set_query {} (Token.ne_separatorText_of_ofText hvalue))
  have hread : read ([] ++ ["--query".toList, v]) = .ok { query := some v } :=
    (read_append (·.put .query v) htokens rfl
      (readTokens_detached rfl · _ v)).mpr ⟨{}, rfl, hput⟩
  exact hread

/-- **Any other is refused** as the next argument. -/
theorem read_query_of_not_standsAlone (hv : ¬StandsAlone v) :
    ∃ f, read ["--query".toList, v] = .error (.fault f) := by
  have hspelling : Flag.ofSpelling? "--query".toList = some .query := by decide
  by_cases hsep : v = Token.separatorText
  · subst hsep
    exact ⟨.expectedValue .query, rfl⟩
  · rw [read, Token.ofArguments, if_neg (by decide),
      Token.ofText_of_ofSpelling? hspelling, Token.ofArguments, if_neg hsep]
    cases htoken : Token.ofText v with
    | error f => exact ⟨f, rfl⟩
    | ok token =>
      cases token with
      | value u => exact absurd (Token.ofText_eq_value_iff.mp htoken).2 hv
      | flag g spelling attached => exact ⟨.expectedValue .query, rfl⟩
      | unknown u => exact ⟨.expectedValue .query, rfl⟩
      | separator => exact ⟨.expectedValue .query, rfl⟩

/-- **A query attached to its flag is read as it is**, unless it would be dropped.
As the next argument it is read so just if it stands alone. Otherwise the command
line is refused with status 2, and nothing is put out. So the two never read
different queries. -/
theorem read_query_separate (v : Text) :
    (v ≠ "--".toList →
        read ["--query=".toList ++ v] = .ok { query := some v })
      ∧ (read ["--query".toList, v] = .ok { query := some v } ↔ StandsAlone v)
      ∧ (¬StandsAlone v → ∃ stop, read ["--query".toList, v] = .error stop
        ∧ stop.answer.status = 2 ∧ stop.answer.output = [])
      ∧ ∀ a b, read ["--query=".toList ++ v] = .ok a →
          read ["--query".toList, v] = .ok b → a = b := by
  refine ⟨read_query_attached, ⟨fun h => ?_, read_query_of_standsAlone⟩,
    fun hv => ?_, fun a b ha hb => ?_⟩
  · by_contra hv
    obtain ⟨f, hf⟩ := read_query_of_not_standsAlone hv
    cases h.symm.trans hf
  · obtain ⟨f, hf⟩ := read_query_of_not_standsAlone hv
    exact ⟨.fault f, hf, rfl, rfl⟩
  · by_cases hv : StandsAlone v
    · rw [read_query_of_standsAlone hv] at hb
      have hsep : v ≠ Token.separatorText := by
        rintro rfl
        exact Token.ne_separatorText_of_ofText
          (Token.ofText_eq_value_iff.mpr ⟨rfl, hv⟩) rfl
      rw [read_query_attached hsep] at ha
      cases ha
      cases hb
      rfl
    · obtain ⟨f, hf⟩ := read_query_of_not_standsAlone hv
      cases hb.symm.trans hf

/-- A plea for help is a query where it holds a space. What reads as a flag in front
of an equality sign is none, whatever stands behind that. -/
theorem read_query_separate_help :
    "--help me".toList ≠ "--".toList
      ∧ read ["--query=--help me".toList] = .ok { query := some "--help me".toList }
      ∧ read ["--query".toList, "--help me".toList]
        = .ok { query := some "--help me".toList }
      ∧ StandsAlone "--help me".toList
      ∧ ¬StandsAlone "--q=1 x".toList
      ∧ ∃ stop, read ["--query".toList, "--q=1 x".toList] = .error stop
        ∧ stop.answer.status = 2 ∧ stop.answer.output = [] := by
  have hne : "--help me".toList ≠ "--".toList := by decide
  obtain ⟨hattached, hseparate, -, -⟩ := read_query_separate "--help me".toList
  obtain ⟨-, -, hrefused, -⟩ := read_query_separate "--q=1 x".toList
  have halone : ¬StandsAlone "--q=1 x".toList := fun h =>
    absurd (Token.ofText_eq_value_iff.mpr ⟨rfl, h⟩) nofun
  exact ⟨hne, hattached hne, rfl, hseparate.mp rfl, halone, hrefused halone⟩

end QueryClient.Arguments
