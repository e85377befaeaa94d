import QueryClient.Exchange.PlainCarrier
import QueryClient.Proofs.RunCourse
import QueryClient.Proofs.TokenReading

/-!
# The threshold of the log

A run makes its notes without looking at the threshold: it decides which of them
are written, and nothing else. So two command lines that differ in the threshold
at their end alone have runs that send, put out and end the same, and the
messages of the one with the higher threshold are those of the other that are
grave enough. `Run.start_levelArgument` says this of any command line, on any
output, for whatever comes back.
-/

namespace QueryClient

/-! ## What is written of the notes -/

namespace Root

/-- The log as a run sets it up at a level. -/
def atSeverity (s : Severity) : Root :=
  ⟨.number s.number, [⟨.errors, .full⟩]⟩

/-- The name of a level sets the log up at that level, whatever it was
before. -/
theorem configure_name (r : Root) (s : Severity) :
    r.configure (.text s.name) .errors = some (atSeverity s) := by
  rw [configure_eq]
  cases s <;> rfl

/-- **At a level, the notes that are at least as grave are written**, each once
and in their order. -/
theorem emitAll_atSeverity (s : Severity) (now : Nat) (notes : List Note) :
    (atSeverity s).emitAll now notes
      = (notes.filter (s.number ≤ ·.level)).map
          (Handler.write now · ⟨.errors, .full⟩) := by
  have hpos : 0 < s.number := by
    cases s <;> decide
  induction notes with
  | nil => rfl
  | cons n notes ih =>
    rw [emitAll_cons, ih, List.filter_cons]
    by_cases hn : s.number ≤ n.level
    · have henables : (atSeverity s).enables n.level = true := by
        have : 0 < n.level := by omega
        simp [enables, atSeverity, Threshold.value, hn, this]
      rw [emit_of_enables henables (List.cons_ne_nil _ _),
        if_pos (decide_eq_true hn)]
      rfl
    · have henables : (atSeverity s).enables n.level = false := by
        simp [enables, atSeverity, Threshold.value, hn]
      rw [emit_of_not_enables henables, if_neg (by simpa using hn)]
      rfl

end Root

/-! ## A threshold at the end of a command line -/

namespace Arguments

/-- The **argument** that sets the log up at a level. -/
def levelArgument (s : Severity) : Text :=
  "--log-level".toList ++ '=' :: s.name

/-- The name of a level is a value for the threshold. -/
theorem set_logLevel_name (a : Arguments) (s : Severity) :
    a.set .logLevel s.name = .ok { a with logLevel := some s.name } := by
  cases s <;> rfl

/-- **At the end of a command line, every level is accepted or none**, and the
level makes no difference to the other arguments. -/
theorem read_append_levelArgument {arguments : List Text} {s : Severity}
    {a : Arguments} (h : read (arguments ++ [levelArgument s]) = .ok a)
    (other : Severity) :
    read (arguments ++ [levelArgument other])
      = .ok { a with logLevel := some other.name } := by
  have hspelling : Flag.ofSpelling? "--log-level".toList = some .logLevel := by
    decide
  obtain ⟨b, hb, hset⟩ := (read_append_attached hspelling rfl).mp h
  rw [set_logLevel_name] at hset
  cases hset
  exact (read_append_attached hspelling rfl).mpr
    ⟨b, hb, set_logLevel_name b other⟩

end Arguments

/-! ## Two runs -/

namespace Run

open Arguments

/-- **Which log there is makes no difference to the run of a job**, except for
what the log itself makes of the notes. -/
theorem exists_ofInvocation (logger : Text) (now : Nat) (i : Invocation) :
    ∃ ending notes stdout, ∀ root : Root, ofInvocation logger root now i
      = ⟨ending, root, i.sent, i.written, root.emitAll now notes, stdout⟩ :=
  ⟨_, _, _, fun _ => rfl⟩

/-- **The level makes no difference to a run of arguments that were accepted**,
except for which of its notes are written. -/
theorem exists_ofArguments [Carrier] (logger : Text) (root : Root) (now : Nat)
    (a : Arguments) (outlet : Outlet) (events : List Event) :
    ∃ ending sent output notes stdout, ∀ s : Severity,
      ofArguments logger root now { a with logLevel := some s.name } outlet
          events
        = ⟨ending, .atSeverity s, sent, output,
          (Root.atSeverity s).emitAll now notes, stdout⟩ := by
  cases hj : a.job? with
  | none =>
    refine ⟨.raised .noUrl, [], [], [], ⟨outlet, []⟩, fun s => ?_⟩
    have hj' : job? { a with logLevel := some s.name } = none := hj
    simp only [ofArguments, levelValue, Option.elim_some, Root.configure_name,
      hj']
    rfl
  | some job =>
    let i := job.invoke (.wire events) outlet
    obtain ⟨ending, notes, stdout, h⟩ := exists_ofInvocation logger now i
    refine ⟨ending, i.sent, i.written, notes, stdout, fun s => ?_⟩
    have hj' : job? { a with logLevel := some s.name } = some job := hj
    simp only [ofArguments, levelValue, Option.elim_some, Root.configure_name,
      hj']
    exact h (.atSeverity s)

/-- **The threshold of the log shows in the messages alone.** Two command lines
that end in a threshold each and are the same in front of it have runs that send
the same requests, put out the same, end in the same way, and leave the output in the
same state. There are notes
such that the run with the lower threshold writes all of them, and the one with
the higher writes those of them that are at least as grave as that.

It is enough that one of the two command lines is accepted, since the other then
is as well. -/
theorem start_levelArgument [Carrier] (logger : Text) (root : Root) (now : Nat)
    {arguments : List Text} {low high : Severity}
    (hle : low.number ≤ high.number) {a : Arguments}
    (ha : read (arguments ++ [levelArgument low]) = .ok a)
    (outlet : Outlet) (events : List Event) :
    let lower := start logger root now (arguments ++ [levelArgument low]) outlet
      events
    let higher := start logger root now (arguments ++ [levelArgument high])
      outlet events
    lower.sent = higher.sent ∧ lower.output = higher.output
      ∧ lower.ending = higher.ending ∧ lower.stdout = higher.stdout
      ∧ ∃ notes : List Note, (∀ n ∈ notes, low.number ≤ n.level)
        ∧ lower.streams
          = notes.map (Handler.write now · ⟨.errors, .full⟩)
        ∧ higher.streams
          = (notes.filter (high.number ≤ ·.level)).map
              (Handler.write now · ⟨.errors, .full⟩) := by
  obtain ⟨ending, sent, output, notes, stdout, h⟩ :=
    exists_ofArguments logger root now a outlet events
  have hstart (s : Severity) :
      start logger root now (arguments ++ [levelArgument s]) outlet events
        = ⟨ending, .atSeverity s, sent, output,
          (Root.atSeverity s).emitAll now notes, stdout⟩ := by
    unfold start
    rw [read_append_levelArgument ha s]
    exact h s
  intro lower higher
  have hlower : lower = _ := hstart low
  have hhigher : higher = _ := hstart high
  rw [hlower, hhigher]
  refine ⟨rfl, rfl, rfl, rfl, notes.filter (low.number ≤ ·.level), ?_, ?_, ?_⟩
  · intro n hn
    simpa using (List.mem_filter.mp hn).2
  · exact Root.emitAll_atSeverity low now notes
  · -- what the higher threshold lets through, the lower one does
    have hfilter : (notes.filter (low.number ≤ ·.level)).filter
          (high.number ≤ ·.level)
        = notes.filter (high.number ≤ ·.level) := by
      rw [List.filter_filter]
      refine List.filter_congr fun n _ => ?_
      by_cases hn : high.number ≤ n.level
      · have : low.number ≤ n.level := Int.le_trans hle hn
        simp [hn, this]
      · simp [hn]
    rw [hfilter]
    exact Root.emitAll_atSeverity high now notes

section Plain
attribute [local instance] Carrier.plain

/-- With nobody at the other end of the output, a refusal by the server leaves
four messages at the lowest threshold and one at `WARNING`. -/
theorem start_levelArgument_closed :
    let run := fun s => start logger {} 0
      ["--db=d".toList, levelArgument s] .closedOutput
      [.reply ⟨404, some "Not Found".toList, [], [1]⟩]
    (run .debug).sent = (run .warning).sent
      ∧ (run .debug).ending = (run .warning).ending
      ∧ ∃ notes : List Note,
        (run .debug).streams = notes.map (Handler.write 0 · ⟨.errors, .full⟩)
        ∧ (run .warning).streams
          = (notes.filter (30 ≤ ·.level)).map
              (Handler.write 0 · ⟨.errors, .full⟩)
        ∧ (run .debug).streams.length = 4
        ∧ (run .warning).streams.length = 1 := by
  intro run
  have hle : Severity.debug.number ≤ Severity.warning.number := by decide
  have ha : read (["--db=d".toList] ++ [levelArgument .debug])
      = .ok { db := some "d".toList, logLevel := some Severity.debug.name } := by
    rfl
  obtain ⟨hsent, -, hending, -, notes, -, hlower, hhigher⟩ :=
    start_levelArgument logger {} 0 hle ha .closedOutput
      [.reply ⟨404, some "Not Found".toList, [], [1]⟩]
  exact ⟨hsent, hending, notes, hlower, hhigher, by decide +kernel,
    by decide +kernel⟩

end Plain

end Run
end QueryClient
