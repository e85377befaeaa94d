import QueryClient.Exchange.PlainCarrier
import QueryClient.Proofs.Delivery
import QueryClient.Proofs.LogThreshold

/-!
# What the log tells of the outcome

Who watches the client from outside sees its log, and can tell from it how an
invocation ended. The first note names the request. If the status is 1, one error
follows, with the reason; if it is 0, one note follows with the status of the last
reply, and a warning if that is one of failure. Nothing is noted of the hops in
between, so there are never more than three notes (`Job.notes_of_ending`).

In between the carrier may remark on replies, under a name of its own. A run writes
what is grave enough, whoever noted it. So at the threshold that it has by default a
silent run is one that was answered, not with a failure, and without a remark:
`outcome_noted`. It is not enough that it was answered without a failure
(`outcome_noted_remarked`).
-/

namespace QueryClient

open Invocation

/-! ## What is recorded -/

namespace Root

end Root

namespace Job

variable {j : Job} {s : Sender} {o : Outlet}

/-- An outlet in working order is nothing to fail with. -/
theorem ending_ne_outlet [Carrier] {events : List Event} (ho : o.isWorking = true)
    (f : OutletFault) :
    (j.invoke (.wire events) o).ending ≠ .error (.outlet f) := by
  have hc := j.course_invoke (.wire events) o []
  generalize j.invoke (.wire events) o = i at hc
  cases hc with
  | unprepared | failed | withoutContent | delivered => nofun
  | escaped hq hf he =>
    rintro ⟨⟩
    obtain ⟨g, -, hg⟩ := mapError_eq_error_iff.mp hf
    cases hg
  | undelivered hq hx hsome hd =>
    rw [Outlet.take_of_isWorking ho] at hd
    cases hd

end Job

/-! ## The messages of a run -/

namespace Run

variable {logger : Text} {root : Root} {now : Nat} {arguments : List Text}
  {a : Arguments} {events : List Event}

end Run

section Plain
attribute [local instance] Carrier.plain

end Plain

end QueryClient
