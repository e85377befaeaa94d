import QueryClient.Arguments.Help
import QueryClient.Invocation
import QueryClient.Octets.Utf8

/-!
# Runs of the command line

A **run** reads its arguments, sets up the log, and invokes the job that the
arguments describe. If reading stops short, the run exits with what there is
to say and leaves the log as it was. If nobody is at the other end of the
output, the run ends quietly with status 1, and from then on the output leads to
the null device, so that what still waits disturbs nobody.
-/

namespace QueryClient

/-- How a run **ends**. -/
inductive Ending where
  /-- With a status. -/
  | returned (status : Nat)
  /-- With a status, when reading the arguments stops short. -/
  | exited (status : Nat)
  /-- With a failure that goes up. -/
  | raised (f : Failure)

/-- What a **run** comes to. -/
structure Run where
  /-- How it ends. -/
  ending : Ending
  /-- The log afterwards. -/
  root : Root
  /-- The requests on the wire. -/
  sent : List Sent
  /-- What went to the output. -/
  output : List UInt8
  /-- What was written to streams, in order. -/
  streams : List Written
  /-- The output afterwards. -/
  stdout : Channel

/-- What an outlet lets through of the help: all or nothing. -/
def Outlet.show (o : Outlet) (t : Text) : List UInt8 :=
  match o with
  | .buffer | .output | .nullDevice => Utf8.encode t
  | .closedOutput | .fullOutput => []

namespace Arguments

/-- The value that the log is set up with. A threshold that was dropped
leaves an empty list. -/
def levelValue (a : Arguments) : Value :=
  a.logLevel.elim (.list []) .text

/-- The named values of the query. One whose value was dropped is left
out. -/
def params (a : Arguments) : List (Text × LooseText) :=
  (if a.pretty then [("pretty".toList, Text.loose "true".toList)] else [])
    ++ (a.db.map ("db".toList, ·)).toList
    ++ (a.query.map ("q".toList, ·)).toList

/-- The **job** that the arguments describe, if an address is left. -/
def job? (a : Arguments) : Option Job :=
  a.url.map fun url =>
    ⟨{ baseUrl := baseOf url : Config }.url, a.params, a.timeout⟩

end Arguments

namespace Run

/-- The note that nobody is at the other end of the output. -/
def closedNote (logger : Text) : Note :=
  ⟨logger, Severity.debug.number,
    "stdout closed before the response was written".toList⟩

/-- The logger of runs. -/
def logger : Text := "influx_query.cli".toList

/-- The run of a job, with the log set up. -/
def ofInvocation (logger : Text) (root : Root) (now : Nat) (i : Invocation) :
    Run :=
  let (ending, more, stdout) : Ending × List Note × Channel :=
    match i.ending with
    | .ok status => (.returned status, [], i.left)
    | .error (.outlet .closed) =>
      (.returned 1, [closedNote logger], { i.left with outlet := .nullDevice })
    | .error f => (.raised f, [], i.left)
  { ending, root, stdout
    sent := i.sent
    output := i.written
    streams := root.emitAll now (i.notes ++ more) }

/-- The run that comes to nothing but its ending. -/
def only (ending : Ending) (root : Root) (stdout : Channel) : Run :=
  ⟨ending, root, [], [], [], stdout⟩

/-- The run of arguments that were accepted. -/
def ofArguments [Carrier] (logger : Text) (root : Root) (now : Nat)
    (a : Arguments) (outlet : Outlet) (events : List Event)
    (waiting : List UInt8 := []) : Run :=
  match root.configure a.levelValue .errors with
  | none => only (.raised (.level a.levelValue)) root ⟨outlet, waiting⟩
  | some root =>
    match a.job? with
    | none => only (.raised .noUrl) root ⟨outlet, waiting⟩
    | some job =>
      ofInvocation logger root now (job.invoke (.wire events) outlet waiting)

/-- The **run** of a command line at the moment `now`, perhaps with octets that wait
in front of the output. -/
def start [Carrier] (logger : Text) (root : Root) (now : Nat)
    (arguments : List Text) (outlet : Outlet) (events : List Event)
    (waiting : List UInt8 := []) : Run :=
  match Arguments.read arguments with
  | .error stop =>
    let answer := stop.answer
    { ending := .exited answer.status
      root
      sent := []
      output := outlet.show answer.output
      streams := if answer.errors.isEmpty then [] else [⟨.errors, answer.errors⟩]
      stdout := ⟨outlet, waiting⟩ }
  | .ok a => ofArguments logger root now a outlet events waiting

end Run
end QueryClient
