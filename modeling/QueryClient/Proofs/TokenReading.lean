import QueryClient.Proofs.Attempt
import QueryClient.Proofs.CommandLine

/-!
# Reading token by token

Reading goes through the tokens once, and each of them makes one of three
steps: something is put with the strays, a flag is set to a value, or a flag
without a value is marked. `Arguments.keeps_readTokens` says so in the form in
which it is used: what each step keeps, reading keeps.

A flag looks at the token behind it, so reading cannot be cut anywhere. It can
be cut in front of whatever is not a value, by `Arguments.readTokens_append`.
From both it follows that no command line with a separator is accepted, and what
arguments come to at the end of a command line if they make one step: it is made
in what the command line comes to without them (`Arguments.read_append`).
-/

namespace QueryClient.Arguments

/-! ## Steps -/

/-- **A flag that takes no value** is marked, whatever stands behind it. -/
theorem readTokens_plain_cons {f : Flag} (hf : ¬f.takesValue = true) (r : Reading)
    (spelling : Text) (rest : List Token) :
    readTokens r (.flag f spelling none :: rest)
      = r.mark f >>= fun r' => readTokens r' rest := by
  match rest with
  | .value v :: rest => rw [readTokens, if_neg hf]
  | [] | .flag .. :: _ | .unknown _ :: _ | .separator :: _ =>
    simp [readTokens, hf]

/-- **What each step of reading keeps, reading keeps.** -/
theorem keeps_readTokens {P : Reading → Prop}
    (hstray : ∀ r t, P r → P (r.stray t))
    (hset : ∀ r f v r', r.set f v = .ok r' → P r → P r')
    (hmark : ∀ r f r', r.mark f = .ok r' → P r → P r')
    {r r' : Reading} {tokens : List Token}
    (h : readTokens r tokens = .ok r') (hr : P r) : P r' := by
  induction r, tokens using readTokens.induct with
  | case1 r =>
    cases h
    exact hr
  | case2 r t rest ih => exact ih h (hstray r t hr)
  | case3 r t rest ih => exact ih h (hstray r t hr)
  | case4 r rest ih => exact ih h (hstray r _ hr)
  | case5 r f spelling attached rest hf ih =>
    rw [readTokens, if_pos hf] at h
    obtain ⟨r₁, hr₁, h⟩ := bind_eq_ok_iff.mp h
    exact ih r₁ h (hset r f attached r₁ hr₁ hr)
  | case6 r f spelling attached rest hf ih =>
    rw [readTokens, if_neg hf] at h
    obtain ⟨-, -, h⟩ := bind_eq_ok_iff.mp h
    obtain ⟨r₁, hr₁, h⟩ := bind_eq_ok_iff.mp h
    exact ih r₁ h (hmark r f r₁ hr₁ hr)
  | case7 r f spelling v rest hf ih =>
    rw [readTokens, if_pos hf] at h
    obtain ⟨r₁, hr₁, h⟩ := bind_eq_ok_iff.mp h
    exact ih r₁ h (hset r f v r₁ hr₁ hr)
  | case9 r f spelling rest hrest hf =>
    rw [readTokens.eq_7 _ _ _ _ hrest, if_pos hf] at h
    cases h
  | case8 r f spelling v rest hf ih | case10 r f spelling rest hrest hf ih =>
    rw [readTokens_plain_cons hf] at h
    obtain ⟨r₁, hr₁, h⟩ := bind_eq_ok_iff.mp h
    exact ih r₁ h (hmark r f r₁ hr₁ hr)

/-- A value that is set leaves the strays alone. -/
theorem Reading.strays_of_set {r r' : Reading} {f : Flag} {v : Text}
    (h : r.set f v = .ok r') : r'.strays = r.strays := by
  obtain ⟨a, -, rfl⟩ := map_eq_ok_iff.mp h
  rfl

/-- So does a flag that is marked. -/
theorem Reading.strays_of_mark {r r' : Reading} {f : Flag}
    (h : r.mark f = .ok r') : r'.strays = r.strays := by
  obtain ⟨a, -, rfl⟩ := map_eq_ok_iff.mp h
  rfl

/-- What belongs to no flag is never taken back. -/
theorem strays_ne_nil_of_readTokens {r r' : Reading} {tokens : List Token}
    (h : readTokens r tokens = .ok r') (hr : r.strays ≠ []) :
    r'.strays ≠ [] := by
  refine keeps_readTokens (P := fun r => r.strays ≠ []) ?_ ?_ ?_ h hr
  · exact fun r t _ => List.cons_ne_nil t r.strays
  · intro r f v r' h hr
    rw [Reading.strays_of_set h]
    exact hr
  · intro r f r' h hr
    rw [Reading.strays_of_mark h]
    exact hr

/-! ## One flag -/

/-- What a flag with a value **comes to** in the arguments. A flag that takes none
is marked. -/
def put (a : Arguments) (f : Flag) (value : Text) : Except Stop Arguments :=
  if f.takesValue then (a.set f value).mapError .fault else a.mark f

/-- A value behind `=` is one step of reading. -/
theorem readTokens_attached {f : Flag} (hf : f.takesValue = true)
    (r : Reading) (spelling v : Text) :
    readTokens r [.flag f spelling (some v)]
      = (r.arguments.put f v).map fun a => { r with arguments := a } := by
  rw [readTokens, if_pos hf, put, if_pos hf]
  exact bind_pure _

/-- So is a value as the next argument. -/
theorem readTokens_detached {f : Flag} (hf : f.takesValue = true)
    (r : Reading) (spelling v : Text) :
    readTokens r [.flag f spelling none, .value v]
      = (r.arguments.put f v).map fun a => { r with arguments := a } := by
  rw [readTokens, if_pos hf, put, if_pos hf]
  exact bind_pure _

/-- So is a flag alone, if it takes no value. -/
theorem readTokens_plain {f : Flag} (hf : f.takesValue = false)
    (r : Reading) (spelling v : Text) :
    readTokens r [.flag f spelling none]
      = (r.arguments.put f v).map fun a => { r with arguments := a } := by
  have hf' : ¬f.takesValue = true := Bool.not_eq_true _ ▸ hf
  rw [readTokens_plain_cons hf', put, if_neg hf']
  exact bind_pure _

/-! ## Tokens behind each other -/

/-- No value follows just if the tokens do not begin with one. -/
theorem valueFollows_eq_false_iff {tokens : List Token} :
    valueFollows tokens = false
      ↔ ∀ v rest, tokens = .value v :: rest → False := by
  cases tokens with
  | nil => simp [valueFollows]
  | cons token tokens => cases token <;> simp [valueFollows]

/-- Whether a value follows is settled by the tokens in front, if none
begins those behind. -/
theorem valueFollows_append {more : List Token}
    (hmore : valueFollows more = false) (tokens : List Token) :
    valueFollows (tokens ++ more) = valueFollows tokens := by
  cases tokens with
  | nil => exact hmore
  | cons token tokens => cases token <;> rfl

/-- **Reading can be cut in front of what is not a value.** -/
theorem readTokens_append {more : List Token}
    (hmore : valueFollows more = false) (r : Reading) (tokens : List Token) :
    readTokens r (tokens ++ more)
      = readTokens r tokens >>= fun r' => readTokens r' more := by
  -- a flag that is last among the tokens has no value behind the cut either
  have hlast {rest : List Token}
      (h : ∀ v rest', rest = .value v :: rest' → False) :
      ∀ v rest', rest ++ more = .value v :: rest' → False := by
    rw [← valueFollows_eq_false_iff, valueFollows_append hmore]
    exact valueFollows_eq_false_iff.mpr h
  induction r, tokens using readTokens.induct with
  | case1 r => rfl
  | case2 r t rest ih => exact ih
  | case3 r t rest ih => exact ih
  | case4 r rest ih => exact ih
  | case5 r f spelling attached rest hf ih =>
    simp only [List.cons_append, readTokens, if_pos hf, ih, bind_assoc]
  | case6 r f spelling attached rest hf ih =>
    simp only [List.cons_append, readTokens, if_neg hf, ih, bind_assoc,
      valueFollows_append hmore]
  | case7 r f spelling v rest hf ih =>
    simp only [List.cons_append, readTokens, if_pos hf, ih, bind_assoc]
  | case9 r f spelling rest hrest hf =>
    rw [List.cons_append, readTokens.eq_7 _ _ _ _ hrest,
      readTokens.eq_7 _ _ _ _ (hlast hrest), if_pos hf, if_pos hf]
    rfl
  | case8 r f spelling v rest hf ih | case10 r f spelling rest hrest hf ih =>
    rw [List.cons_append, readTokens_plain_cons hf, readTokens_plain_cons hf,
      bind_assoc]
    exact bind_congr ih

/-- The tokens of arguments in front of others, if no separator is among
them. -/
theorem Token.ofArguments_append {arguments : List Text}
    (h : separatorText ∉ arguments) (more : List Text) :
    ofArguments (arguments ++ more) = (do
      return (← ofArguments arguments) ++ (← ofArguments more)) := by
  induction arguments with
  | nil =>
    cases hmore : ofArguments more with
    | error f => simp [ofArguments, hmore]
    | ok tokens => simp [ofArguments, hmore]
  | cons t arguments ih =>
    rw [List.mem_cons, not_or] at h
    rw [List.cons_append, ofArguments, if_neg (Ne.symm h.1), ih h.2,
      ofArguments, if_neg (Ne.symm h.1)]
    simp only [bind_assoc, pure_bind, List.cons_append]

/-- A separator among the arguments is one among the tokens. -/
theorem Token.separator_mem_of_ofArguments {arguments : List Text}
    {tokens : List Token} (h : ofArguments arguments = .ok tokens)
    (hmem : separatorText ∈ arguments) : separator ∈ tokens := by
  induction arguments generalizing tokens with
  | nil => cases hmem
  | cons t arguments ih =>
    rw [ofArguments] at h
    split at h
    · cases h
      exact List.mem_cons_self ..
    · rename_i ht
      obtain ⟨token, -, h⟩ := bind_eq_ok_iff.mp h
      obtain ⟨rest, hrest, h⟩ := bind_eq_ok_iff.mp h
      cases h
      have hmem' := List.mem_of_ne_of_mem (Ne.symm ht) hmem
      exact List.mem_cons_of_mem _ (ih hrest hmem')

/-! ## Accepted command lines -/

/-- **What it is for a command line to be accepted**: it is sorted into
tokens, and reading them leaves no stray. -/
theorem read_eq_ok_iff {arguments : List Text} {a : Arguments} :
    read arguments = .ok a
      ↔ ∃ tokens r, Token.ofArguments arguments = .ok tokens
        ∧ readTokens {} tokens = .ok r ∧ r.strays = [] ∧ r.arguments = a := by
  have hfinish (r : Reading) :
      r.finish = .ok a ↔ r.strays = [] ∧ r.arguments = a := by
    unfold Reading.finish
    by_cases hr : r.strays = [] <;> simp [hr]
  simp only [read, bind_eq_ok_iff, mapError_eq_ok_iff, hfinish]
  constructor
  · rintro ⟨tokens, htokens, r, hr, h⟩
    exact ⟨tokens, r, htokens, hr, h⟩
  · rintro ⟨tokens, r, htokens, hr, h⟩
    exact ⟨tokens, htokens, r, hr, h⟩

/-- **What each flag keeps, a command line that is accepted keeps.** -/
theorem keeps_read {P : Arguments → Prop}
    (hset : ∀ a f v a', a.set f v = .ok a' → P a → P a')
    (hmark : ∀ a f a', a.mark f = .ok a' → P a → P a')
    {arguments : List Text} {a : Arguments} (h : read arguments = .ok a)
    (hdefault : P {}) : P a := by
  obtain ⟨tokens, r, -, hr, -, rfl⟩ := read_eq_ok_iff.mp h
  refine keeps_readTokens (P := fun r => P r.arguments) ?_ ?_ ?_ hr hdefault
  · exact fun r t h => h
  · intro r f v r' h hr
    obtain ⟨a, ha, rfl⟩ := map_eq_ok_iff.mp h
    exact hset _ f v a (mapError_eq_ok_iff.mp ha) hr
  · intro r f r' h hr
    obtain ⟨a, ha, rfl⟩ := map_eq_ok_iff.mp h
    exact hmark _ f a ha hr

/-- The values that a command line gives to the query are text. -/
theorem loose_of_read {arguments : List Text} {a : Arguments}
    (h : read arguments = .ok a) :
    ∃ db query : Option Text,
      a.db = db.map Text.loose ∧ a.query = query.map Text.loose := by
  refine keeps_read (P := fun a => ∃ db query : Option Text,
    a.db = db.map Text.loose ∧ a.query = query.map Text.loose) ?_ ?_ h ?_
  · rintro a f v a' h ⟨db, query, hdb, hquery⟩
    cases f with
    | db =>
      cases h
      exact ⟨kept v, query, rfl, hquery⟩
    | query =>
      cases h
      exact ⟨db, kept v, hdb, rfl⟩
    | timeout | logLevel =>
      obtain ⟨_, -, rfl⟩ := map_eq_ok_iff.mp h
      exact ⟨db, query, hdb, hquery⟩
    | url | help | noPretty =>
      cases h
      exact ⟨db, query, hdb, hquery⟩
  · rintro a f a' h ⟨db, query, hdb, hquery⟩
    cases f with
    | help => cases h
    | _ =>
      cases h
      exact ⟨db, query, hdb, hquery⟩
  · exact ⟨some defaultDatabase, some defaultQuery, rfl, rfl⟩

/-- **So the named values of a command line are text.** -/
theorem exists_pairs_of_read {arguments : List Text} {a : Arguments}
    (h : read arguments = .ok a) : ∃ pairs, a.params = loosePairs pairs := by
  obtain ⟨db, query, hdb, hquery⟩ := loose_of_read h
  refine ⟨(if a.pretty then [("pretty".toList, "true".toList)] else [])
    ++ (db.map ("db".toList, ·)).toList ++ (query.map ("q".toList, ·)).toList, ?_⟩
  unfold params loosePairs
  rw [hdb, hquery, List.map_append, List.map_append]
  cases a.pretty <;> cases db <;> cases query <;> rfl

/-- **No command line with a separator is accepted.** -/
theorem separatorText_notMem_of_read {arguments : List Text} {a : Arguments}
    (h : read arguments = .ok a) : Token.separatorText ∉ arguments := by
  intro hmem
  obtain ⟨tokens, r, htokens, hr, hstrays, -⟩ := read_eq_ok_iff.mp h
  obtain ⟨before, after, rfl⟩ := List.append_of_mem
    (Token.separator_mem_of_ofArguments htokens hmem)
  rw [readTokens_append rfl] at hr
  obtain ⟨r₁, -, hr⟩ := bind_eq_ok_iff.mp hr
  rw [readTokens] at hr
  exact strays_ne_nil_of_readTokens hr (List.cons_ne_nil _ r₁.strays) hstrays

/-- **Arguments at the end** whose tokens make one step, and leave the strays
alone, are accepted just if those in front are and the step can be made. -/
theorem read_append (step : Arguments → Except Stop Arguments)
    {more : List Text} {tokens : List Token}
    (hmore : Token.ofArguments more = .ok tokens)
    (hcut : valueFollows tokens = false)
    (hstep : ∀ r, readTokens r tokens
      = (step r.arguments).map fun a => { r with arguments := a })
    {arguments : List Text} {a : Arguments} :
    read (arguments ++ more) = .ok a
      ↔ ∃ b, read arguments = .ok b ∧ step b = .ok a := by
  constructor
  · intro h
    have hmem : Token.separatorText ∉ arguments := fun hmem =>
      separatorText_notMem_of_read h (List.mem_append_left _ hmem)
    obtain ⟨all, r, hall, hr, hstrays, rfl⟩ := read_eq_ok_iff.mp h
    rw [Token.ofArguments_append hmem, hmore] at hall
    obtain ⟨front, hfront, hall⟩ := bind_eq_ok_iff.mp hall
    cases hall
    rw [readTokens_append hcut] at hr
    obtain ⟨r₁, hr₁, hr⟩ := bind_eq_ok_iff.mp hr
    rw [hstep] at hr
    obtain ⟨b, hb, rfl⟩ := map_eq_ok_iff.mp hr
    exact ⟨r₁.arguments, read_eq_ok_iff.mpr ⟨front, r₁, hfront, hr₁, hstrays, rfl⟩,
      hb⟩
  · rintro ⟨b, hb, ha⟩
    have hmem := separatorText_notMem_of_read hb
    obtain ⟨front, r, hfront, hr, hstrays, rfl⟩ := read_eq_ok_iff.mp hb
    refine read_eq_ok_iff.mpr ⟨front ++ tokens, { r with arguments := a }, ?_, ?_,
      hstrays, rfl⟩
    · rw [Token.ofArguments_append hmem, hfront, hmore]
      rfl
    · rw [readTokens_append hcut, hr, ok_bind, hstep, ha]
      rfl

/-- **A flag in full at the end**, with its value attached, is accepted just if
what stands in front is and the value is one for the flag. -/
theorem read_append_attached {f : Flag} {spelling : Text}
    (hspelling : Flag.ofSpelling? spelling = some f)
    (hf : f.takesValue = true) {arguments : List Text} {value : Text}
    {a : Arguments} :
    read (arguments ++ [spelling ++ '=' :: value]) = .ok a
      ↔ ∃ b, read arguments = .ok b ∧ b.set f value = .ok a := by
  have hlast : Token.ofArguments [spelling ++ '=' :: value]
      = .ok [.flag f spelling (some value)] :=
    Token.ofArguments_cons (Token.ofText_attached hspelling value) rfl
  rw [read_append (·.put f value) hlast rfl
    (readTokens_attached hf · spelling value)]
  simp only [put, if_pos hf, mapError_eq_ok_iff]

end QueryClient.Arguments
