import QueryClient.Log.Steps
import QueryClient.Run

/-!
# Sessions

A **session** may do more than one run: it works with the log, invokes jobs,
and runs command lines, one after the other. What one of these leaves for the next is
the log and the output. A run may have led the output away, or may have left octets
waiting in front of it, and the next run finds it so, unless another output was put
in its place. What was written to streams stays written.
-/

namespace QueryClient

/-- A **session**: its log, its output, and what was written to streams so far. -/
structure Session where
  /-- The log. -/
  root : Root := {}
  /-- The output. -/
  stdout : Channel := { outlet := .output }
  /-- What was written. -/
  written : List Written := []

namespace Session

/-- A **step** of a session. -/
inductive Step where
  /-- Works with the log. -/
  | log (s : Root.Step)
  /-- Puts an output in the place of the one there is. -/
  | stdout (o : Outlet)
  /-- Invokes the job of a config, with the content for the output or for a buffer. -/
  | invoke (now : Nat) (c : Config) (sender : Sender) (toOutput : Bool)
  /-- Runs a command line. -/
  | run (logger : Text) (now : Nat) (arguments : List Text) (events : List Event)

/-- What invoking the job of a config comes to in a session. -/
def invocation [Carrier] (s : Session) (c : Config) (sender : Sender)
    (toOutput : Bool) : Invocation :=
  if toOutput then c.job.invoke sender s.stdout.outlet s.stdout.waiting
  else c.job.invoke sender .buffer

/-- What running a command line comes to in a session. -/
def runOf [Carrier] (s : Session) (logger : Text) (now : Nat)
    (arguments : List Text) (events : List Event) : Run :=
  Run.start logger s.root now arguments s.stdout.outlet events s.stdout.waiting

/-- The session after a step. -/
def step [Carrier] (s : Session) : Step → Session
  | .log t =>
    { s with root := s.root.after t, written := s.written ++ s.root.writes t }
  | .stdout o => { s with stdout := { outlet := o } }
  | .invoke now c sender toOutput =>
    let i := s.invocation c sender toOutput
    { root := s.root
      stdout := if toOutput then i.left else s.stdout
      written := s.written ++ s.root.emitAll now i.notes }
  | .run logger now arguments events =>
    let r := s.runOf logger now arguments events
    ⟨r.root, r.stdout, s.written ++ r.streams⟩

/-- The session **after** steps in their order, from a fresh one on. -/
def after [Carrier] (steps : List Step) : Session :=
  steps.foldl step {}

end Session
end QueryClient
