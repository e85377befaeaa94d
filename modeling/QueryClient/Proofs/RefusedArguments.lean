import QueryClient.Exchange.PlainCarrier
import QueryClient.Proofs.Delivery
import QueryClient.Proofs.FlagOccurrences
import QueryClient.Proofs.RunCourse

/-!
# Command lines that are refused

A command line that is not accepted leaves nothing but its answer: the help, or the
usage and one sentence about what is wrong. Reading is over before the run does
anything else, so there is nothing to take back.

One argument is enough for that, wherever it stands. What is accepted by itself is
read through wherever it stands, too: no flag in it waits for a value from behind,
and nothing in front of it makes a difference to it but the strays that are there
already (`readThrough_of_readTokens`). So between two command lines that are accepted
an argument is looked at by itself. If it belongs to no flag, it is a stray at the
end, and the only one; if it is a value that its flag does not take, reading stops
there (`read_insert`).
-/

namespace QueryClient

namespace Arguments

/-! ## Reading through -/

/-- Short flags that may be run together where no value follows may be so where one
does. -/
theorem checkRun_of_ok {f : Flag} {t : Text} (h : checkRun f false t = .ok ())
    (follows : Bool) : checkRun f follows t = .ok () := by
  induction t generalizing f with
  | nil => rfl
  | cons c t ih =>
    rw [checkRun] at h ⊢
    cases hg : Flag.ofSpelling? ['-', c] with
    | none =>
      rw [hg] at h
      cases h
    | some g =>
      rw [hg] at h
      dsimp only at h ⊢
      by_cases hvalue : (!g.takesValue) = true
      · rw [if_pos hvalue] at h ⊢
        exact ih h
      · rw [if_neg hvalue] at h ⊢
        cases t with
        | nil => cases h
        | cons d t => rfl

/-- So may whatever is attached to a flag that takes no value. -/
theorem checkAttached_append {f : Flag} {spelling attached : Text}
    {rest : List Token}
    (h : checkAttached f spelling (valueFollows rest) attached = .ok ())
    (more : List Token) :
    checkAttached f spelling (valueFollows (rest ++ more)) attached = .ok () := by
  cases hrest : valueFollows rest with
  | true =>
    match rest, hrest with
    | .value v :: rest, _ => exact h
  | false =>
    rw [hrest] at h
    unfold checkAttached at h ⊢
    split at h
    · cases h
    · rename_i hattached
      rw [if_neg hattached]
      exact checkRun_of_ok h _

/-- A value that can be set can be set whatever was read before. -/
theorem Reading.exists_set {r r' : Reading} {f : Flag} {v : Text}
    (h : r.set f v = .ok r') (q : Reading) :
    ∃ a, q.set f v = .ok ⟨a, q.strays⟩ := by
  obtain ⟨a, ha, -⟩ := map_eq_ok_iff.mp h
  have hset := mapError_eq_ok_iff.mp ha
  have hother : ∃ b, q.arguments.set f v = .ok b := by
    cases f with
    | url | db | query | help | noPretty => exact ⟨_, rfl⟩
    | timeout | logLevel =>
      obtain ⟨x, hx, -⟩ := map_eq_ok_iff.mp hset
      exact ⟨_, map_eq_ok_iff.mpr ⟨x, hx, rfl⟩⟩
  obtain ⟨b, hb⟩ := hother
  refine ⟨b, ?_⟩
  rw [set, hb]
  rfl

/-- So can a flag be marked. -/
theorem Reading.exists_mark {r r' : Reading} {f : Flag} (h : r.mark f = .ok r')
    (q : Reading) : ∃ a, q.mark f = .ok ⟨a, q.strays⟩ := by
  cases f with
  | help => cases h
  | url | db | query | noPretty | timeout | logLevel => exact ⟨_, rfl⟩

/-- Whether tokens between two readings are **read through** wherever they stand:
what is behind them is read then as it would be without them, and the strays among
them have come to those there were. -/
def ReadThrough (r r' : Reading) (tokens : List Token) : Prop :=
  ∃ added, r'.strays = added ++ r.strays
    ∧ ∀ q : Reading, ∃ a, ∀ more, readTokens q (tokens ++ more)
      = readTokens ⟨a, added ++ q.strays⟩ more

/-- Tokens are read through behind others if these are in front of them. -/
theorem ReadThrough.append {r r₁ r' : Reading} {tokens : List Token}
    (h : ReadThrough r₁ r' tokens) (head : List Token) (strays : List Text)
    (hstrays : r₁.strays = strays ++ r.strays)
    (hhead : ∀ q : Reading, ∃ a, ∀ more, readTokens q (head ++ (tokens ++ more))
      = readTokens ⟨a, strays ++ q.strays⟩ (tokens ++ more)) :
    ReadThrough r r' (head ++ tokens) := by
  obtain ⟨added, hadded, htokens⟩ := h
  refine ⟨added ++ strays, ?_, fun q => ?_⟩
  · rw [hadded, hstrays, List.append_assoc]
  · obtain ⟨a, ha⟩ := hhead q
    obtain ⟨b, hb⟩ := htokens ⟨a, strays ++ q.strays⟩
    refine ⟨b, fun more => ?_⟩
    rw [List.append_assoc, ha, hb, List.append_assoc]

/-- **What is read to its end is read through wherever it stands.** -/
theorem readThrough_of_readTokens {r r' : Reading} {tokens : List Token}
    (h : readTokens r tokens = .ok r') : ReadThrough r r' tokens := by
  induction r, tokens using readTokens.induct with
  | case1 r =>
    cases h
    exact ⟨[], rfl, fun q => ⟨q.arguments, fun more => rfl⟩⟩
  | case2 r t rest ih =>
    exact (ih h).append [.value t] [t] rfl fun q => ⟨_, fun _ => rfl⟩
  | case3 r t rest ih =>
    exact (ih h).append [.unknown t] [t] rfl fun q => ⟨_, fun _ => rfl⟩
  | case4 r rest ih =>
    exact (ih h).append [.separator] [Token.separatorText] rfl
      fun q => ⟨_, fun _ => rfl⟩
  | case5 r f spelling attached rest hf ih =>
    rw [readTokens, if_pos hf] at h
    obtain ⟨r₁, hr₁, h⟩ := bind_eq_ok_iff.mp h
    refine (ih r₁ h).append [.flag f spelling (some attached)] []
      (Reading.strays_of_set hr₁) fun q => ?_
    obtain ⟨a, ha⟩ := Reading.exists_set hr₁ q
    refine ⟨a, fun more => ?_⟩
    rw [List.singleton_append, readTokens, if_pos hf, ha, ok_bind, List.nil_append]
  | case6 r f spelling attached rest hf ih =>
    rw [readTokens, if_neg hf] at h
    obtain ⟨⟨⟩, hcheck, h⟩ := bind_eq_ok_iff.mp h
    obtain ⟨r₁, hr₁, h⟩ := bind_eq_ok_iff.mp h
    refine (ih r₁ h).append [.flag f spelling (some attached)] []
      (Reading.strays_of_mark hr₁) fun q => ?_
    obtain ⟨a, ha⟩ := Reading.exists_mark hr₁ q
    refine ⟨a, fun more => ?_⟩
    rw [List.singleton_append, readTokens, if_neg hf,
      checkAttached_append (mapError_eq_ok_iff.mp hcheck), mapError_ok, ok_bind, ha,
      ok_bind, List.nil_append]
  | case7 r f spelling v rest hf ih =>
    rw [readTokens, if_pos hf] at h
    obtain ⟨r₁, hr₁, h⟩ := bind_eq_ok_iff.mp h
    refine (ih r₁ h).append [.flag f spelling none, .value v] []
      (Reading.strays_of_set hr₁) fun q => ?_
    obtain ⟨a, ha⟩ := Reading.exists_set hr₁ q
    refine ⟨a, fun more => ?_⟩
    rw [List.cons_append, List.singleton_append, readTokens, if_pos hf, ha, ok_bind,
      List.nil_append]
  | case9 r f spelling rest hrest hf =>
    rw [readTokens.eq_7 _ _ _ _ hrest, if_pos hf] at h
    cases h
  | case8 r f spelling v rest hf ih | case10 r f spelling rest hrest hf ih =>
    rw [readTokens_plain_cons hf] at h
    obtain ⟨r₁, hr₁, h⟩ := bind_eq_ok_iff.mp h
    refine (ih r₁ h).append [.flag f spelling none] []
      (Reading.strays_of_mark hr₁) fun q => ?_
    obtain ⟨a, ha⟩ := Reading.exists_mark hr₁ q
    refine ⟨a, fun more => ?_⟩
    rw [List.singleton_append, readTokens_plain_cons hf, ha, ok_bind,
      List.nil_append]

/-- **A command line that is accepted** is read through wherever it stands, and
leaves no stray. -/
theorem exists_tokens_of_read {arguments : List Text} {a : Arguments}
    (h : read arguments = .ok a) :
    ∃ tokens, Token.ofArguments arguments = .ok tokens
      ∧ ∀ q : Reading, ∃ b, ∀ more, readTokens q (tokens ++ more)
        = readTokens ⟨b, q.strays⟩ more := by
  obtain ⟨tokens, r, htokens, hr, hstrays, -⟩ := read_eq_ok_iff.mp h
  obtain ⟨added, hadded, hq⟩ := readThrough_of_readTokens hr
  rw [hstrays, List.append_nil] at hadded
  rw [← hadded] at hq
  exact ⟨tokens, htokens, hq⟩

/-! ## Help -/

/-- A value that cannot be set is no plea for help. -/
theorem Reading.set_ne_help (r : Reading) (f : Flag) (v : Text) :
    r.set f v ≠ .error .help := by
  rw [set]
  cases r.arguments.set f v with
  | ok a => exact nofun
  | error g => exact nofun

/-- Only one flag is. -/
theorem Reading.eq_help_of_mark {r : Reading} {f : Flag}
    (h : r.mark f = .error .help) : f = .help := by
  cases f with
  | help => rfl
  | url | db | query | noPretty | timeout | logLevel => cases h

/-- Whether help is **reached** among the tokens: what stands in front of a flag for
it can be read, and if something is attached to that, it can be, too. -/
def HelpReached (r : Reading) (tokens : List Token) : Prop :=
  ∃ front spelling attached rest r',
    tokens = front ++ .flag .help spelling attached :: rest
      ∧ readTokens r front = .ok r'
      ∧ ∀ v ∈ attached,
        checkAttached .help spelling (valueFollows rest) v = .ok ()

/-- Help that is reached behind tokens is reached with them, if they are read in
front of whatever is cut off. -/
theorem HelpReached.append {r r₁ : Reading} {tokens : List Token}
    (h : HelpReached r₁ tokens) (head : List Token)
    (hhead : ∀ front more, tokens = front ++ more → valueFollows more = false →
      readTokens r (head ++ front) = readTokens r₁ front) :
    HelpReached r (head ++ tokens) := by
  obtain ⟨front, spelling, attached, rest, r', rfl, hfront, hattached⟩ := h
  refine ⟨head ++ front, spelling, attached, rest, r', ?_, ?_, hattached⟩
  · rw [List.append_assoc]
  · rw [hhead front _ rfl rfl, hfront]

/-- **Help that is reached stops the reading.** -/
theorem HelpReached.readTokens_eq {r : Reading} {tokens : List Token}
    (h : HelpReached r tokens) : readTokens r tokens = .error .help := by
  obtain ⟨front, spelling, attached, rest, r', rfl, hfront, hattached⟩ := h
  rw [readTokens_append rfl, hfront, ok_bind]
  cases attached with
  | none =>
    rw [readTokens_plain_cons (by decide)]
    rfl
  | some v =>
    rw [readTokens, if_neg (by decide), hattached v rfl]
    rfl

/-- **Reading stops for help only where it is reached.** -/
theorem helpReached_of_readTokens {r : Reading} {tokens : List Token}
    (h : readTokens r tokens = .error .help) : HelpReached r tokens := by
  induction r, tokens using readTokens.induct with
  | case1 r => cases h
  | case2 r t rest ih =>
    exact (ih h).append [.value t] fun front _ _ _ => rfl
  | case3 r t rest ih =>
    exact (ih h).append [.unknown t] fun front _ _ _ => rfl
  | case4 r rest ih =>
    exact (ih h).append [.separator] fun front _ _ _ => rfl
  | case5 r f spelling attached rest hf ih =>
    rw [readTokens, if_pos hf] at h
    obtain h | ⟨r₁, hr₁, h⟩ := bind_eq_error_iff.mp h
    · exact absurd h (r.set_ne_help f attached)
    · refine (ih r₁ h).append [.flag f spelling (some attached)] ?_
      intro front _ _ _
      rw [List.singleton_append, readTokens, if_pos hf, hr₁, ok_bind]
  | case6 r f spelling attached rest hf ih =>
    rw [readTokens, if_neg hf] at h
    obtain h | ⟨⟨⟩, hcheck, h⟩ := bind_eq_error_iff.mp h
    · obtain ⟨g, -, hg⟩ := mapError_eq_error_iff.mp h
      cases hg
    obtain h | ⟨r₁, hr₁, h⟩ := bind_eq_error_iff.mp h
    · cases Reading.eq_help_of_mark h
      refine ⟨[], spelling, some attached, rest, r, rfl, rfl, ?_⟩
      rintro v ⟨⟩
      exact mapError_eq_ok_iff.mp hcheck
    · refine (ih r₁ h).append [.flag f spelling (some attached)] ?_
      rintro front more rfl hmore
      rw [valueFollows_append hmore] at hcheck
      rw [List.singleton_append, readTokens, if_neg hf, hcheck, ok_bind, hr₁,
        ok_bind]
  | case7 r f spelling v rest hf ih =>
    rw [readTokens, if_pos hf] at h
    obtain h | ⟨r₁, hr₁, h⟩ := bind_eq_error_iff.mp h
    · exact absurd h (r.set_ne_help f v)
    · refine (ih r₁ h).append [.flag f spelling none, .value v] ?_
      intro front _ _ _
      rw [List.cons_append, List.singleton_append, readTokens, if_pos hf, hr₁,
        ok_bind]
  | case9 r f spelling rest hrest hf =>
    rw [readTokens.eq_7 _ _ _ _ hrest, if_pos hf] at h
    cases h
  | case8 r f spelling v rest hf ih | case10 r f spelling rest hrest hf ih =>
    rw [readTokens_plain_cons hf] at h
    obtain h | ⟨r₁, hr₁, h⟩ := bind_eq_error_iff.mp h
    · cases Reading.eq_help_of_mark h
      refine ⟨[], spelling, none, _, r, rfl, rfl, ?_⟩
      rintro v ⟨⟩
    · refine (ih r₁ h).append [.flag f spelling none] ?_
      intro front _ _ _
      rw [List.singleton_append, readTokens_plain_cons hf, hr₁, ok_bind]

/-- **A command line asks for help** just if all of it can be sorted and help is
reached. -/
theorem read_eq_help_iff {arguments : List Text} :
    read arguments = .error .help
      ↔ ∃ tokens, Token.ofArguments arguments = .ok tokens
        ∧ HelpReached {} tokens := by
  constructor
  · intro h
    obtain h | ⟨tokens, htokens, h⟩ := bind_eq_error_iff.mp h
    · obtain ⟨g, -, hg⟩ := mapError_eq_error_iff.mp h
      cases hg
    obtain h | ⟨r, -, h⟩ := bind_eq_error_iff.mp h
    · exact ⟨tokens, mapError_eq_ok_iff.mp htokens, helpReached_of_readTokens h⟩
    · unfold Reading.finish at h
      split at h <;> cases h
  · rintro ⟨tokens, htokens, hreached⟩
    rw [read, htokens, mapError_ok, ok_bind, hreached.readTokens_eq]
    rfl

/-! ## One argument more -/

/-- **Between two command lines that are accepted**, an argument is read by
itself. -/
theorem read_insert {before after : List Text} {a b : Arguments}
    (hbefore : read before = .ok a) (hafter : read after = .ok b) {t : Text}
    {token : Token} (ht : Token.ofText t = .ok token) :
    ∃ (c : Arguments) (rest : List Token),
      read (before ++ t :: after)
          = readTokens ⟨c, []⟩ (token :: rest) >>= Reading.finish
        ∧ ∀ q : Reading, ∃ d, readTokens q rest = .ok ⟨d, q.strays⟩ := by
  obtain ⟨front, hfront, hreadFront⟩ := exists_tokens_of_read hbefore
  obtain ⟨rest, hrest, hreadRest⟩ := exists_tokens_of_read hafter
  obtain ⟨c, hc⟩ := hreadFront {}
  refine ⟨c, rest, ?_, fun q => ?_⟩
  · rw [read, Token.ofArguments_append (separatorText_notMem_of_read hbefore),
      hfront, Token.ofArguments_cons ht hrest]
    simp only [ok_bind, pure_eq_ok, mapError_ok, hc]
  · obtain ⟨d, hd⟩ := hreadRest q
    have hend := hd []
    rw [List.append_nil] at hend
    exact ⟨d, hend⟩

/-- What belongs to no flag is **found at the end**. -/
theorem read_insert_stray {before after : List Text} {a b : Arguments}
    (hbefore : read before = .ok a) (hafter : read after = .ok b) {t : Text}
    (ht : t.head? ≠ some '-') :
    read (before ++ t :: after) = .error (.fault (.unrecognized [t])) := by
  obtain ⟨c, rest, hread, hrest⟩ :=
    read_insert hbefore hafter (Token.ofText_of_head?_ne (.inr ht))
  obtain ⟨d, hd⟩ := hrest (Reading.stray ⟨c, []⟩ t)
  rw [hread, readTokens, hd]
  rfl

/-- A value that its flag does not take is **found where it stands**. -/
theorem read_insert_attached {before after : List Text} {a b : Arguments}
    (hbefore : read before = .ok a) (hafter : read after = .ok b) {f : Flag}
    {t v : Text} (ht : f.Spells t) (hf : f.takesValue = true) {g : Fault}
    (hg : ∀ c : Arguments, c.set f v = .error g) :
    read (before ++ (t ++ '=' :: v) :: after) = .error (.fault g) := by
  obtain ⟨spelling, -, hflag⟩ := Token.exists_ofText_of_spells ht
  obtain ⟨c, rest, hread, -⟩ := read_insert hbefore hafter (hflag v)
  rw [hread, readTokens, if_pos hf, Reading.set, hg]
  rfl

/-- An argument that **spoils** a command line, with what is wrong then: one that
does not begin with a hyphen, or a waiting time that is no number, or a threshold
that is no name of a level, behind a spelling of its flag. -/
inductive Spoils : Text → Fault → Prop
  /-- It belongs to no flag. -/
  | stray {t : Text} (ht : t.head? ≠ some '-') : Spoils t (.unrecognized [t])
  /-- It is no number. -/
  | notNumber {t v : Text} (ht : Flag.timeout.Spells t)
    (hv : v ≠ Token.separatorText) (hnone : Binary64.ofText? v = none) :
    Spoils (t ++ '=' :: v) (.notNumber v)
  /-- It is no name of a level. -/
  | notLevel {t v : Text} (ht : Flag.logLevel.Spells t)
    (hv : v ≠ Token.separatorText)
    (hnone : ∀ level : Severity, Text.upper v ≠ level.name) :
    Spoils (t ++ '=' :: v) (.notLevel (Text.upper v))

/-- **One such argument is enough**, wherever it stands between command lines that
are accepted. -/
theorem Spoils.read_eq {t : Text} {g : Fault} (h : Spoils t g)
    {before after : List Text} {a b : Arguments}
    (hbefore : read before = .ok a) (hafter : read after = .ok b) :
    read (before ++ t :: after) = .error (.fault g) := by
  cases h with
  | stray ht => exact read_insert_stray hbefore hafter ht
  | @notNumber t v ht hv hnone =>
    refine read_insert_attached hbefore hafter ht rfl fun c => ?_
    rw [set, kept_of_ne hv, readTimeout, hnone]
    rfl
  | @notLevel t v ht hv hnone =>
    refine read_insert_attached hbefore hafter ht rfl fun c => ?_
    have hname : ¬(Severity.ofName? (Text.upper v)).isSome = true := by
      rw [Option.isSome_iff_exists]
      rintro ⟨level, hlevel⟩
      exact hnone level (Severity.ofName?_eq_some_iff.mp hlevel)
    rw [set, kept_of_ne hv, readLevel, if_neg hname]
    rfl

/-- Of every fault something is said. -/
theorem isEmpty_complaint (f : Fault) : (complaint f).isEmpty = false := by
  rw [complaint, List.isEmpty_eq_false_iff]
  exact List.append_ne_nil_of_right_ne_nil _ (List.cons_ne_nil _ _)

end Arguments

/-! ## Runs -/

namespace Run

variable {arguments : List Text}

/-- A run of arguments that are accepted does not exit. -/
theorem ending_ne_exited [Carrier] {a : Arguments} (ha : Arguments.read arguments = .ok a)
    (logger : Text) (root : Root) (now : Nat) (outlet : Outlet)
    (events : List Event) (status : Nat) :
    (start logger root now arguments outlet events).ending ≠ .exited status := by
  have hc := course_start logger root now arguments outlet events []
  generalize start logger root now arguments outlet events = run at hc
  cases hc with
  | stopped hs => cases ha.symm.trans hs
  | noLevel | noAddress => exact nofun
  | invoked =>
    rw [ending_ofInvocation]
    split <;> exact nofun

/-- A run whose arguments ask for help **shows it**, and does nothing else. -/
theorem start_of_help [Carrier] (h : Arguments.read arguments = .error .help)
    (logger : Text) (root : Root) (now : Nat) (outlet : Outlet)
    (events : List Event) :
    start logger root now arguments outlet events
      = ⟨.exited 0, root, [], outlet.show Arguments.helpText, [],
        ⟨outlet, []⟩⟩ := by
  rw [start, h]
  rfl

/-- A run with which something is wrong **says what**, and does nothing else. -/
theorem start_of_fault [Carrier] {f : Arguments.Fault}
    (h : Arguments.read arguments = .error (.fault f)) (logger : Text)
    (root : Root) (now : Nat) (outlet : Outlet) (events : List Event) :
    start logger root now arguments outlet events
      = ⟨.exited 2, root, [], [], [⟨.errors, Arguments.complaint f⟩],
        ⟨outlet, []⟩⟩ := by
  have hnothing : outlet.show [] = [] := by cases outlet <;> rfl
  rw [start, h]
  simp only [Arguments.Stop.answer, Arguments.isEmpty_complaint, hnothing]
  rfl

open Arguments in
/-- **A command line that is refused leaves nothing but its answer.** Every command
line is accepted, or it asks for help, or something is wrong with it. A run exits in
the two latter cases, and only then. It exits with status 0 if help is reached before
anything is wrong, and shows the help; otherwise with status 2, and the usage goes to
the stream for errors with one sentence about what is wrong. In both cases that is
all: nothing is sent, no note is made, and the log and the output are as they were.

Status 2 it is whenever one argument that spoils it stands between two command lines
that are accepted, such as lists of occurrences of flags; and what is said is what is
wrong with that argument. -/
theorem start_refused [Carrier] (logger : Text) (root : Root) (now : Nat)
    (outlet : Outlet) (events : List Event) :
    (∀ arguments : List Text,
      let run := start logger root now arguments outlet events
      ((∃ a, read arguments = .ok a) ∧ ∀ status, run.ending ≠ .exited status)
      ∨ ((∃ tokens, Token.ofArguments arguments = .ok tokens
          ∧ HelpReached {} tokens)
        ∧ run = ⟨.exited 0, root, [], outlet.show helpText, [], ⟨outlet, []⟩⟩)
      ∨ ∃ f, read arguments = .error (.fault f)
        ∧ run = ⟨.exited 2, root, [], [], [⟨.errors, usageText
          ++ "influx-query: error: ".toList ++ f.message ++ ['\n']⟩],
          ⟨outlet, []⟩⟩)
    ∧ (outlet.isWorking = true → outlet.show helpText = Utf8.encode helpText)
    ∧ (∀ (before after : List Text) (a b : Arguments) (t : Text) (f : Fault),
      read before = .ok a → read after = .ok b → Spoils t f →
      start logger root now (before ++ t :: after) outlet events
        = ⟨.exited 2, root, [], [], [⟨.errors, complaint f⟩], ⟨outlet, []⟩⟩)
    ∧ ∀ (before after : List Occurrence) (t : Text) (f : Fault), Spoils t f →
      (start logger root now (before.flatMap (·.written)
        ++ t :: after.flatMap (·.written)) outlet events).ending = .exited 2 := by
  have hspoiled {before after : List Text} {a b : Arguments} {t : Text} {f : Fault}
      (hbefore : read before = .ok a) (hafter : read after = .ok b)
      (h : Spoils t f) :
      start logger root now (before ++ t :: after) outlet events
        = ⟨.exited 2, root, [], [], [⟨.errors, complaint f⟩], ⟨outlet, []⟩⟩ :=
    start_of_fault (h.read_eq hbefore hafter) logger root now outlet events
  refine ⟨fun arguments => ?_, fun ho => ?_,
    fun before after a b t f hbefore hafter h => hspoiled hbefore hafter h,
    fun before after t f h => ?_⟩
  · intro run
    cases hread : read arguments with
    | ok a =>
      exact .inl ⟨⟨a, rfl⟩, ending_ne_exited hread logger root now outlet events⟩
    | error stop =>
      cases stop with
      | help =>
        exact .inr (.inl ⟨read_eq_help_iff.mp hread,
          start_of_help hread logger root now outlet events⟩)
      | fault f =>
        exact .inr (.inr ⟨f, rfl,
          start_of_fault hread logger root now outlet events⟩)
  · cases outlet with
    | buffer | output | nullDevice => rfl
    | closedOutput | fullOutput => cases ho
  · rw [hspoiled (read_written before) (read_written after) h]

section Plain
attribute [local instance] Carrier.plain

open Arguments in
/-- Behind a flag that takes no value a number is a stray, though the flag in front
of it could be cut off; and a waiting time that is no number is found before the
query behind it is read. The log keeps its handler. -/
theorem start_refused_inserted :
    let root : Root := ⟨.number 10, [⟨.named "a".toList, .bare⟩]⟩
    let before := ["--no-pretty".toList]
    let after := ["-q".toList, "-".toList]
    let run := fun t : Text => start logger root 0 (before ++ t :: after) .output []
    Outlet.isWorking .output = true
      ∧ read before = .ok { pretty := false }
      ∧ read after = .ok { query := some "-".toList }
      ∧ Spoils "5".toList (.unrecognized ["5".toList])
      ∧ Spoils "--t=soon".toList (.notNumber "soon".toList)
      ∧ run "5".toList = ⟨.exited 2, root, [], [],
        [⟨.errors, complaint (.unrecognized ["5".toList])⟩], ⟨.output, []⟩⟩
      ∧ run "--t=soon".toList = ⟨.exited 2, root, [], [],
        [⟨.errors, complaint (.notNumber "soon".toList)⟩], ⟨.output, []⟩⟩
      ∧ Outlet.show .output helpText = Utf8.encode helpText := by
  intro root before after run
  have hbefore : read before = .ok { pretty := false } := rfl
  have hafter : read after = .ok { query := some "-".toList } := rfl
  have hstray : Spoils "5".toList (.unrecognized ["5".toList]) :=
    .stray (by decide)
  have htime : Spoils "--t=soon".toList (.notNumber "soon".toList) :=
    .notNumber (t := "--t".toList) (by decide) (by decide) (by decide +kernel)
  obtain ⟨-, hshown, hinserted, -⟩ := start_refused logger root 0 .output []
  exact ⟨rfl, hbefore, hafter, hstray, htime,
    hinserted before after _ _ _ _ hbefore hafter hstray,
    hinserted before after _ _ _ _ hbefore hafter htime, hshown rfl⟩

end Plain

end Run
end QueryClient
