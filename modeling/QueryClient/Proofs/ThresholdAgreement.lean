import QueryClient.Exchange.PlainCarrier
import QueryClient.Proofs.AcceptedArguments
import QueryClient.Proofs.FlagOccurrences
import QueryClient.Proofs.InvocationCourse
import QueryClient.Proofs.LevelNames

/-!
# A threshold looked at twice

The threshold of the log is looked at when the command line is read, and again when
the log is set up with what was read. Both put a text into capitals and compare it
with the names of the levels, each for itself, and the second does so with what the
first has put into capitals already.

They agree. Each takes the texts that have a form of each letter of a name in its
place, and no others (`set_logLevel_iff`, `Root.configure_text_iff`), and a name in
capitals is its own upper case. So a run whose threshold was read is never stopped
by it later (`Run.ending_ne_level`).
-/

namespace QueryClient

/-! ## The two looks -/

/-- A name in capitals is its own upper case. -/
theorem Severity.upper_name (level : Severity) :
    Text.upper level.name = level.name := by
  cases level <;> rfl

/-- **The command line takes a threshold** just if its upper case is a name, and
that is what is read. -/
theorem Arguments.set_logLevel_iff {a b : Arguments} {s : Text}
    (hs : s ≠ Token.separatorText) :
    a.set .logLevel s = .ok b
      ↔ (∃ level : Severity, Text.upper s = level.name)
        ∧ { a with logLevel := some (Text.upper s) } = b := by
  have hname : (Severity.ofName? (Text.upper s)).isSome = true
      ↔ ∃ level : Severity, Text.upper s = level.name := by
    simp only [Option.isSome_iff_exists, Severity.ofName?_eq_some_iff]
  rw [set, kept_of_ne hs, readLevel, ← hname]
  by_cases h : (Severity.ofName? (Text.upper s)).isSome = true
  · rw [if_pos h, and_iff_right h, map_ok, Except.ok.injEq]
  · rw [if_neg h, map_error]
    exact iff_of_false (by simp) fun hb => h hb.1

/-- **The log takes a threshold** just if its upper case is a name, and is then set
to the level of that name. -/
theorem Root.configure_text_iff {root r : Root} {s : Text} {stream : Stream} :
    root.configure (.text s) stream = some r
      ↔ ∃ level : Severity, Text.upper s = level.name
        ∧ ⟨.number level.number, [⟨stream, .full⟩]⟩ = r := by
  rw [configure_eq, Option.map_eq_some_iff]
  simp only [Threshold.ofValue?, Severity.ofText?, Option.map_eq_some_iff,
    Severity.ofName?_eq_some_iff]
  constructor
  · rintro ⟨_, ⟨level, hlevel, rfl⟩, hr⟩
    exact ⟨level, hlevel, hr⟩
  · rintro ⟨level, hlevel, hr⟩
    exact ⟨_, ⟨level, hlevel, rfl⟩, hr⟩

/-- **Capitals once more make no difference** to the log, if it takes them. -/
theorem Root.configure_upper {s : Text} {level : Severity}
    (h : Text.upper s = level.name) (root : Root) (stream : Stream) :
    root.configure (.text (Text.upper s)) stream
      = root.configure (.text s) stream := by
  have hset {t : Text} (ht : Text.upper t = level.name) :
      root.configure (.text t) stream
        = some ⟨.number level.number, [⟨stream, .full⟩]⟩ :=
    configure_text_iff.mpr ⟨level, ht, rfl⟩
  have htwice : Text.upper (Text.upper s) = level.name := by
    rw [h, level.upper_name]
  rw [hset htwice, hset h]

/-! ## Runs -/

/-- No invocation fails for a threshold. -/
theorem Job.ending_invoke_ne_level [Carrier] (j : Job) (sender : Sender) (o : Outlet)
    (v : Value) : (j.invoke sender o).ending ≠ .error (.level v) := by
  have hc := j.course_invoke sender o []
  generalize j.invoke sender o = i at hc
  intro h
  cases hc with
  | unprepared | failed | withoutContent | delivered | undelivered => cases h
  | escaped hq hf he =>
    cases h
    cases sender with
    | wire events =>
      obtain ⟨f, -, hlevel⟩ := mapError_eq_error_iff.mp hf
      cases hlevel
    | deputy answer =>
      obtain ⟨r, -, hlevel⟩ := mapError_eq_error_iff.mp hf
      cases hlevel

namespace Run

variable {arguments : List Text} {a : Arguments} {u : Text}

/-- **A threshold that was read** sets the log up, and then no address is left or a
job is invoked. -/
theorem start_of_logLevel [Carrier] (ha : Arguments.read arguments = .ok a)
    (hu : a.logLevel = some u) (logger : Text) (root : Root) (now : Nat)
    (outlet : Outlet) (events : List Event) :
    ∃ configured, root.configure (.text u) .errors = some configured
      ∧ (start logger root now arguments outlet events
          = only (.raised .noUrl) configured ⟨outlet, []⟩
        ∨ ∃ j : Job, start logger root now arguments outlet events
          = ofInvocation logger configured now
              (j.invoke (.wire events) outlet)) := by
  have hvalue : a.levelValue = .text u := by rw [Arguments.levelValue, hu]; rfl
  have hc := course_start logger root now arguments outlet events []
  generalize start logger root now arguments outlet events = run at hc ⊢
  cases hc with
  | stopped hs => cases ha.symm.trans hs
  | noLevel ha' hl =>
    cases ha.symm.trans ha'
    rw [(Arguments.configure_eq_none_iff ha root).mp hl] at hu
    cases hu
  | noAddress ha' hl =>
    cases ha.symm.trans ha'
    exact ⟨_, hvalue ▸ hl, .inl rfl⟩
  | invoked ha' hl =>
    cases ha.symm.trans ha'
    exact ⟨_, hvalue ▸ hl, .inr ⟨_, rfl⟩⟩

/-- The log that a run leaves is the one that it has set up. -/
theorem configure_of_logLevel [Carrier] (ha : Arguments.read arguments = .ok a)
    (hu : a.logLevel = some u) (logger : Text) (root : Root) (now : Nat)
    (outlet : Outlet) (events : List Event) :
    root.configure (.text u) .errors
      = some (start logger root now arguments outlet events).root := by
  obtain ⟨configured, hl, h | ⟨j, h⟩⟩ :=
    start_of_logLevel ha hu logger root now outlet events
  · rw [h, hl]
    rfl
  · rw [h, hl]
    rfl

/-- Nothing that comes then is a failure for the threshold. -/
theorem ending_ne_level [Carrier] (ha : Arguments.read arguments = .ok a)
    (hu : a.logLevel = some u) (logger : Text) (root : Root) (now : Nat)
    (outlet : Outlet) (events : List Event) (v : Value) :
    (start logger root now arguments outlet events).ending
      ≠ .raised (.level v) := by
  obtain ⟨configured, -, h | ⟨j, h⟩⟩ :=
    start_of_logLevel ha hu logger root now outlet events
  · rw [h]
    exact nofun
  · rw [h]
    intro hraised
    exact j.ending_invoke_ne_level _ _ v
      (ending_ofInvocation_eq_raised_iff.mp hraised).1

end Run

namespace Arguments

/-- **What is taken for a threshold is taken twice.** Behind any command line that
is accepted, a text attached to a spelling of the flag is accepted just if the log
can be set up with the text itself; and these are the texts with a form of each
letter of a name in its place. The upper case of the text is read then. With that
the log is set up as with the text, and so it is by the run of the command line.

No command line is stopped by its threshold after it was accepted, unless the value
for that was dropped. -/
theorem read_logLevel_iff_configure [Carrier] {arguments : List Text} {b : Arguments}
    (hb : read arguments = .ok b) {t s : Text} (ht : Flag.logLevel.Spells t)
    (hs : s ≠ Token.separatorText) (root : Root) (stream : Stream) :
    let all := arguments ++ [t ++ '=' :: s]
    ((∃ a, read all = .ok a) ↔ ∃ r, root.configure (.text s) stream = some r)
      ∧ ((∃ a, read all = .ok a)
        ↔ ∃ level : Severity, List.Forall₂ Text.IsFormOf s level.name)
      ∧ (∀ a, read all = .ok a →
        a = { b with logLevel := some (Text.upper s) }
          ∧ root.configure (.text (Text.upper s)) stream
            = root.configure (.text s) stream
          ∧ ∀ logger now outlet events, root.configure (.text s) .errors
            = some (Run.start logger root now all outlet events).root)
      ∧ ∀ (other : List Text) (a : Arguments) (u : Text),
        read other = .ok a → a.logLevel = some u →
        ∀ logger now outlet events v,
          (Run.start logger root now other outlet events).ending
            ≠ .raised (.level v) := by
  intro all
  have hread {a : Arguments} : read all = .ok a
      ↔ (∃ level : Severity, Text.upper s = level.name)
        ∧ { b with logLevel := some (Text.upper s) } = a := by
    rw [(Flag.Writes.attached ht rfl hs).read_append]
    simp only [hb, Except.ok.injEq, exists_eq_left', put,
      if_pos (show Flag.logLevel.takesValue = true from rfl), mapError_eq_ok_iff,
      set_logLevel_iff hs]
  have haccepted : (∃ a, read all = .ok a)
      ↔ ∃ level : Severity, Text.upper s = level.name := by
    simp only [hread, exists_and_left, exists_eq', and_true]
  refine ⟨?_, ?_, fun a ha => ?_, fun other a u ha hu logger now outlet events v =>
    Run.ending_ne_level ha hu logger root now outlet events v⟩
  · rw [haccepted]
    simp only [Root.configure_text_iff]
    constructor
    · rintro ⟨level, h⟩
      exact ⟨_, level, h, rfl⟩
    · rintro ⟨_, level, h, -⟩
      exact ⟨level, h⟩
  · simp only [haccepted, Severity.upper_eq_name_iff]
  · obtain ⟨⟨level, hlevel⟩, rfl⟩ := hread.mp ha
    refine ⟨rfl, Root.configure_upper hlevel root stream,
      fun logger now outlet events => ?_⟩
    rw [← Root.configure_upper hlevel]
    exact Run.configure_of_logLevel ha rfl logger root now outlet events

section Plain
attribute [local instance] Carrier.plain

/-- A name without dots on its letters is taken, and is read with them; one with a
sharp s, whose capitals are two, is not. -/
theorem read_logLevel_iff_configure_dotless :
    let arguments := ["--db=d".toList]
    let written := fun s : Text => arguments ++ ["--log".toList ++ '=' :: s]
    let dotless := "cr\u0131t\u0131cal".toList
    let sharp := "\u00df".toList
    read arguments = .ok { db := some "d".toList }
      ∧ Flag.logLevel.Spells "--log".toList
      ∧ dotless ≠ Token.separatorText ∧ sharp ≠ Token.separatorText
      ∧ read (written dotless) = .ok
        { db := some "d".toList, logLevel := some Severity.critical.name }
      ∧ (∀ root : Root, root.configure (.text Severity.critical.name) .errors
        = root.configure (.text dotless) .errors)
      ∧ (∀ v, (Run.start Run.logger {} 0 (written dotless) .output []).ending
        ≠ .raised (.level v))
      ∧ ∀ a, read (written sharp) ≠ .ok a := by
  intro arguments written dotless sharp
  have hread : read arguments = .ok { db := some "d".toList } := rfl
  have hspelled : Flag.logLevel.Spells "--log".toList := by decide
  have hdotless : dotless ≠ Token.separatorText := by decide
  have hsharp : sharp ≠ Token.separatorText := by decide
  have hupper : Text.upper dotless = Severity.critical.name := by decide +kernel
  have htaken (root : Root) :=
    read_logLevel_iff_configure hread hspelled hdotless root .errors
  have hrefused :=
    read_logLevel_iff_configure hread hspelled hsharp {} .errors
  obtain ⟨a, ha⟩ := (htaken {}).1.mpr
    ⟨_, Root.configure_text_iff.mpr ⟨.critical, hupper, rfl⟩⟩
  have hvalue : a = { db := some "d".toList, logLevel := some (Text.upper dotless) } :=
    ((htaken {}).2.2.1 a ha).1
  subst hvalue
  refine ⟨hread, hspelled, hdotless, hsharp, hupper ▸ ha, fun root => ?_,
    (htaken {}).2.2.2 _ _ _ ha rfl _ _ _ _, fun a ha => ?_⟩
  · rw [← hupper]
    exact ((htaken root).2.2.1 _ ha).2.1
  · obtain ⟨level, hlevel⟩ := hrefused.2.1.mp ⟨a, ha⟩
    have hlength := hlevel.length_eq
    cases level <;> cases hlength

end Plain

end Arguments
end QueryClient
