import QueryClient.Proofs.Attempt
import QueryClient.Run

/-!
# The course of a run

A run of the command line takes one of four courses: reading the arguments
stops short, or the log cannot be set up, or no address is left, or the job
is invoked. `Run.Course` lists them with what has to be the case for each,
and `Run.course_start` says that every run takes one of them.
-/

namespace QueryClient

/-- The status that a run **returns**, if it returns one. -/
def Ending.status? : Ending → Option Nat
  | .returned status => some status
  | .exited _ | .raised _ => none

theorem Ending.eq_returned_of_status? {e : Ending} {n : Nat}
    (h : e.status? = some n) : e = .returned n := by
  cases e with
  | returned status => rw [Option.some.inj h]
  | exited status => cases h
  | raised f => cases h

namespace Run

/-- The **courses** that a run can take: what has to be the case, and what
comes of it. -/
inductive Course [Carrier] (logger : Text) (root : Root) (now : Nat)
    (arguments : List Text) (outlet : Outlet) (events : List Event)
    (waiting : List UInt8) : Run → Prop
  /-- Reading the arguments stops short, and that is answered. -/
  | stopped {stop : Arguments.Stop}
    (hs : Arguments.read arguments = .error stop) :
    Course logger root now arguments outlet events waiting
      { ending := .exited stop.answer.status
        root
        sent := []
        output := outlet.show stop.answer.output
        streams := if stop.answer.errors.isEmpty then []
          else [⟨.errors, stop.answer.errors⟩]
        stdout := ⟨outlet, waiting⟩ }
  /-- The value for the log is no level. -/
  | noLevel {a : Arguments} (ha : Arguments.read arguments = .ok a)
    (hl : root.configure a.levelValue .errors = none) :
    Course logger root now arguments outlet events waiting
      (only (.raised (.level a.levelValue)) root ⟨outlet, waiting⟩)
  /-- No address is left. -/
  | noAddress {a : Arguments} {configured : Root}
    (ha : Arguments.read arguments = .ok a)
    (hl : root.configure a.levelValue .errors = some configured)
    (hj : a.job? = none) :
    Course logger root now arguments outlet events waiting
      (only (.raised .noUrl) configured ⟨outlet, waiting⟩)
  /-- The job is invoked. -/
  | invoked {a : Arguments} {configured : Root} {job : Job}
    (ha : Arguments.read arguments = .ok a)
    (hl : root.configure a.levelValue .errors = some configured)
    (hj : a.job? = some job) :
    Course logger root now arguments outlet events waiting
      (ofInvocation logger configured now
        (job.invoke (.wire events) outlet waiting))

variable {logger : Text} {root : Root} {now : Nat} {arguments : List Text}
  {outlet : Outlet} {events : List Event} {waiting : List UInt8}

/-- **Every run takes one of the courses.** -/
theorem course_start [Carrier] (logger : Text) (root : Root) (now : Nat)
    (arguments : List Text) (outlet : Outlet) (events : List Event)
    (waiting : List UInt8) :
    Course logger root now arguments outlet events waiting
      (start logger root now arguments outlet events waiting) := by
  unfold start
  cases ha : Arguments.read arguments with
  | error stop => exact .stopped ha
  | ok a =>
    dsimp only [ofArguments]
    cases hl : root.configure a.levelValue .errors with
    | none => exact .noLevel ha hl
    | some configured =>
      dsimp only
      cases hj : a.job? with
      | none => exact .noAddress ha hl hj
      | some job => exact .invoked ha hl hj

/-- A run of arguments that are accepted is the run of these arguments. -/
theorem start_of_read [Carrier] {a : Arguments}
    (ha : Arguments.read arguments = .ok a) :
    start logger root now arguments outlet events waiting
      = ofArguments logger root now a outlet events waiting := by
  unfold start
  rw [ha]

/-- Arguments that describe a job have the run of its invocation. -/
theorem ofArguments_of_job [Carrier] {a : Arguments} {configured : Root}
    {job : Job} (hl : root.configure a.levelValue .errors = some configured)
    (hj : a.job? = some job) :
    ofArguments logger root now a outlet events waiting
      = ofInvocation logger configured now
          (job.invoke (.wire events) outlet waiting) := by
  unfold ofArguments
  rw [hl]
  dsimp only
  rw [hj]

/-- A run of arguments that are accepted and describe a job is the
invocation of that job. -/
theorem start_of_job [Carrier] {a : Arguments} {configured : Root} {job : Job}
    (ha : Arguments.read arguments = .ok a)
    (hl : root.configure a.levelValue .errors = some configured)
    (hj : a.job? = some job) :
    start logger root now arguments outlet events waiting
      = ofInvocation logger configured now
          (job.invoke (.wire events) outlet waiting) :=
  (start_of_read ha).trans (ofArguments_of_job hl hj)

/-- A run ends with the status of the invocation or its failure, and with
status 1 if nobody is at the other end of the output. -/
theorem ending_ofInvocation (logger : Text) (root : Root) (now : Nat)
    (i : Invocation) :
    (ofInvocation logger root now i).ending = match i.ending with
      | .ok status => .returned status
      | .error (.outlet .closed) => .returned 1
      | .error f => .raised f := by
  unfold ofInvocation
  dsimp only
  cases i.ending with
  | ok status => rfl
  | error f =>
    cases f with
    | outlet g => cases g <;> rfl
    | _ => rfl

/-- What is written is the notes of the invocation, unless nobody is at the other end
of the output. -/
theorem streams_ofInvocation {i : Invocation}
    (hi : i.ending ≠ .error (.outlet .closed)) :
    (ofInvocation logger root now i).streams = root.emitAll now i.notes := by
  unfold ofInvocation
  dsimp only
  split
  · exact congrArg _ (List.append_nil _)
  · rename_i hclosed
    exact absurd hclosed hi
  · exact congrArg _ (List.append_nil _)

/-- The failure of an invocation goes on up, unless it is that nobody is at
the other end of the output. -/
theorem ending_ofInvocation_eq_raised_iff {i : Invocation} {f : Failure} :
    (ofInvocation logger root now i).ending = .raised f
      ↔ i.ending = .error f ∧ f ≠ .outlet .closed := by
  rw [ending_ofInvocation]
  split
  · rename_i hi
    simp [hi]
  · rename_i hi
    refine iff_of_false (by simp) ?_
    rintro ⟨he, hf⟩
    rw [hi] at he
    exact hf (Except.error.inj he).symm
  · rename_i g hg hi
    simp only [hi, Ending.raised.injEq, Except.error.injEq]
    exact ⟨fun h => ⟨h, h ▸ hg⟩, And.left⟩

/-- Status 0 is that of the invocation. -/
theorem ending_ofInvocation_eq_returned_zero_iff {i : Invocation} :
    (ofInvocation logger root now i).ending = .returned 0
      ↔ i.ending = .ok 0 := by
  rw [ending_ofInvocation]
  split
  · rename_i hi
    simp [hi]
  · rename_i hi
    simp [hi]
  · rename_i hi
    simp [hi]

end Run
end QueryClient
