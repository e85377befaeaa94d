import QueryClient.Exchange.PlainCarrier
import QueryClient.Proofs.InvocationCourse
import QueryClient.Proofs.LooseValues
import QueryClient.Proofs.RunCourse

/-!
# Where an expected failure goes

A client expects the network, the server and the address to fail, and an
invocation turns such a failure into a note and the status 1. It does so for
everything that goes wrong once the request is on its way. It does not do so
while the address is prepared: that comes first, outside the part that
catches failures, and a failure there is expected just the same but goes up
to whoever called.

`raised_expected_iff` says that this is the whole of it: an expected failure
goes up, from an invocation as from a run of the command line, exactly if
the address cannot be prepared, and any other is noted once and ends in
status 1 with nothing delivered.
-/

namespace QueryClient

open Invocation Url

namespace Request

/-- A failure to write a host is expected. -/
theorem isExpected_of_writtenHost [Names] {host : Text} {f : RequestFault}
    (h : writtenHost host = .error f) : f.isExpected = true := by
  unfold writtenHost at h
  split at h
  · cases he : Url.Names.name? host with
    | none =>
      rw [he] at h
      cases h
      rfl
    | some name =>
      rw [he] at h
      cases h
  split at h
  · cases h
    rfl
  · cases h

/-- So is any failure to find a usable address. -/
theorem isExpected_of_usable [Names] {t : Text} {f : RequestFault}
    (h : usable t = .error f) : f.isExpected = true := by
  unfold usable at h
  obtain hp | ⟨a, -, h⟩ := bind_eq_error_iff.mp h
  · obtain ⟨g, -, rfl⟩ := mapError_eq_error_iff.mp hp
    rfl
  dsimp only at h
  split at h
  · cases h
    rfl
  split at h
  · cases h
    rfl
  obtain hw | ⟨host, -, h⟩ := bind_eq_error_iff.mp h
  · exact isExpected_of_writtenHost hw
  · cases h

/-- A failure to read credentials from an address is not. -/
theorem isExpected_of_authorizationOf {url : Text} {f : RequestFault}
    (h : authorizationOf url = .error f) : f.isExpected = false := by
  unfold authorizationOf at h
  obtain hp | ⟨r, -, h⟩ := bind_eq_error_iff.mp h
  · obtain ⟨g, -, rfl⟩ := mapError_eq_error_iff.mp hp
    rfl
  split at h
  · cases h
  · obtain hb | ⟨written, -, h⟩ := bind_eq_error_iff.mp h
    · obtain ⟨g, -, rfl⟩ := mapError_eq_error_iff.mp hb
      rfl
    · cases h

/-- **Preparing a request fails as expected exactly if the address is not taken as
it is and is not usable**, whatever the named values are. -/
theorem prepare_fails_expected_iff [Names] {url : Text}
    {p : List (Text × LooseText)} {f : RequestFault} :
    prepare url p = .error f ∧ f.isExpected = true
      ↔ isForeign (Text.trimBlankStart url) = false
        ∧ usable (Text.trimBlankStart url) = .error f := by
  unfold prepare
  constructor
  · rintro ⟨h, he⟩
    obtain h | ⟨full, -, h⟩ := bind_eq_error_iff.mp h
    · obtain ⟨hforeign, h | ⟨found, g, -, -, rfl⟩⟩ := prepareUrl_eq_error_iff.mp h
      · exact ⟨hforeign, h⟩
      · -- values that are no text are not expected
        cases he
    obtain h | ⟨written, -, h⟩ := bind_eq_error_iff.mp h
    · rw [isExpected_of_authorizationOf h] at he
      cases he
    · cases h
  · rintro ⟨hforeign, h⟩
    exact ⟨bind_eq_error_iff.mpr
      (.inl (prepareUrl_eq_error_iff.mpr ⟨hforeign, .inl h⟩)),
      isExpected_of_usable h⟩

end Request

/-- An expected failure goes up from an invocation exactly if it is that the
address is not usable. -/
theorem Job.ending_invoke_eq_error_iff [Carrier] {j : Job} {s : Sender} {o : Outlet}
    {f : Failure} :
    (j.invoke s o).ending = .error f ∧ f.isExpected = true
      ↔ Request.isForeign (Text.trimBlankStart j.url) = false
        ∧ ∃ g, Request.usable (Text.trimBlankStart j.url) = .error g
          ∧ f = .request g := by
  have hc : j.Course s o [] (j.invoke s o) := j.course_invoke s o []
  generalize j.invoke s o = i at hc
  -- with a request in hand, the address was usable
  have hprep : ∀ {q}, j.request = .ok q →
      ¬(Request.isForeign (Text.trimBlankStart j.url) = false
        ∧ ∃ g, Request.usable (Text.trimBlankStart j.url) = .error g
          ∧ f = .request g) := by
    rintro q hq ⟨hforeign, g, hg, -⟩
    have hfails := (Request.prepare_fails_expected_iff (p := j.params).mpr
      ⟨hforeign, hg⟩).1
    rw [show Request.prepare j.url j.params = .ok q from hq] at hfails
    cases hfails
  cases hc with
  | @unprepared g hq =>
    constructor
    · rintro ⟨h, he⟩
      cases h
      obtain ⟨hforeign, hg⟩ := Request.prepare_fails_expected_iff.mp ⟨hq, he⟩
      exact ⟨hforeign, g, hg, rfl⟩
    · rintro ⟨hforeign, g', hg', rfl⟩
      obtain ⟨hp, he⟩ := Request.prepare_fails_expected_iff (p := j.params).mpr
        ⟨hforeign, hg'⟩
      rw [show Request.prepare j.url j.params = .error g from hq] at hp
      cases hp
      exact ⟨rfl, he⟩
  | failed hq hf he => exact iff_of_false (by simp) (hprep hq)
  | @escaped q g hq hf he =>
    refine iff_of_false ?_ (hprep hq)
    rintro ⟨h, he'⟩
    cases h
    rw [he] at he'
    cases he'
  | delivered hq hr hc hd => exact iff_of_false (by simp) (hprep hq)
  | withoutContent hq hr hc | undelivered hq hr hc hd =>
    -- that there is no content, or that the outlet fails, is never expected
    refine iff_of_false ?_ (hprep hq)
    rintro ⟨h, he⟩
    cases h
    cases he

/-- So an expected failure goes up exactly if the address is neither taken as
it is nor usable. -/
theorem Job.raises_expected_iff [Carrier] (j : Job) (s : Sender) (o : Outlet) :
    (∃ f, (j.invoke s o).ending = .error f ∧ f.isExpected = true)
      ↔ Request.isForeign (Text.trimBlankStart j.url) = false
        ∧ ∃ g, Request.usable (Text.trimBlankStart j.url) = .error g := by
  simp only [Job.ending_invoke_eq_error_iff]
  constructor
  · rintro ⟨f, hforeign, g, hg, -⟩
    exact ⟨hforeign, g, hg⟩
  · rintro ⟨hforeign, g, hg⟩
    exact ⟨.request g, hforeign, g, hg, rfl⟩

/-- Once the request is prepared, an expected failure of sending it ends the
invocation with status 1, one note of an error, and nothing delivered. -/
theorem Job.invoke_of_result_send [Carrier] {j : Job} {s : Sender} {o : Outlet}
    {q : Request} {f : Failure} (hq : j.request = .ok q)
    (hf : (s.send q j.timeout).result = .error f)
    (he : f.isExpected = true) :
    (j.invoke s o).ending = .ok 1
      ∧ (j.invoke s o).notes.filter (·.level == Severity.error.number)
        = [failureNote j f.message]
      ∧ (j.invoke s o).written = [] ∧ (j.invoke s o).flushes = 0 := by
  rw [Job.invoke_eq_fail hq hf, fail, if_pos he]
  refine ⟨rfl, ?_, rfl, rfl⟩
  have hremarks : (s.send q j.timeout).remarks.filter
      (·.level == Severity.error.number) = [] := by
    rw [List.filter_eq_nil_iff]
    intro n hn
    rw [Sender.eq_remark_of_mem hn]
    decide
  rw [List.cons_append, List.filter_cons_of_neg Bool.false_ne_true, List.filter_append,
    hremarks]
  rfl

namespace Run

/-- An expected failure of an invocation goes up through the run: it is not
that nobody is at the other end of the output. -/
theorem raised_ofInvocation_iff {logger : Text} {root : Root} {now : Nat}
    {i : Invocation} {f : Failure} :
    (ofInvocation logger root now i).ending = .raised f ∧ f.isExpected = true
      ↔ i.ending = .error f ∧ f.isExpected = true := by
  rw [ending_ofInvocation_eq_raised_iff]
  constructor
  · rintro ⟨⟨h, -⟩, he⟩
    exact ⟨h, he⟩
  · rintro ⟨h, he⟩
    refine ⟨⟨h, ?_⟩, he⟩
    rintro rfl
    cases he

/-- A run raises an expected failure exactly if its arguments are accepted
and the address in them is neither taken as it is nor usable. -/
theorem raises_expected_iff [Carrier] (logger : Text) (root : Root) (now : Nat)
    (arguments : List Text) (o : Outlet) (events : List Event) :
    (∃ f, (start logger root now arguments o events).ending = .raised f
        ∧ f.isExpected = true)
      ↔ ∃ a job, Arguments.read arguments = .ok a
        ∧ (root.configure a.levelValue .errors).isSome = true
        ∧ a.job? = some job
        ∧ Request.isForeign (Text.trimBlankStart job.url) = false
        ∧ ∃ g, Request.usable (Text.trimBlankStart job.url) = .error g := by
  have hc := course_start logger root now arguments o events []
  generalize start logger root now arguments o events = run at hc
  cases hc with
  | stopped hs => simp [hs]
  | noLevel ha hl =>
    refine iff_of_false ?_ (by simp [ha, hl])
    rintro ⟨f, h, he⟩
    cases h
    cases he
  | noAddress ha hl hj =>
    refine iff_of_false ?_ (by simp [ha, hj])
    rintro ⟨f, h, he⟩
    cases h
    cases he
  | @invoked a configured job ha hl hj =>
    rw [exists_congr fun f => raised_ofInvocation_iff, Job.raises_expected_iff]
    constructor
    · rintro ⟨hfor, g, hg⟩
      exact ⟨a, job, ha, by simp [hl], hj, hfor, g, hg⟩
    · rintro ⟨a', job', ha', -, hj', hfor, g, hg⟩
      -- the arguments are read in one way only, and so is their job
      rw [ha] at ha'
      cases ha'
      rw [hj] at hj'
      cases hj'
      exact ⟨hfor, g, hg⟩

end Run

/-- **An expected failure goes up exactly if it is one of preparing the
address**: the address is not taken as it is, and it is not usable. This
holds of invocations, and of runs of the command line whose arguments are
accepted. Once the request is prepared, an expected failure of sending it,
at whichever hop, ends the invocation with status 1, one note of an error,
which names the failure, and nothing delivered. -/
theorem raised_expected_iff [Carrier] (c : Config) (s : Sender) (o : Outlet)
    (logger : Text) (root : Root) (now : Nat) (arguments : List Text)
    (events : List Event) :
    ((∃ f, (c.job.invoke s o).ending = .error f ∧ f.isExpected = true)
        ↔ Request.isForeign (Text.trimBlankStart c.url) = false
          ∧ ∃ g, Request.usable (Text.trimBlankStart c.url) = .error g)
      ∧ ((∃ f, (Run.start logger root now arguments o events).ending = .raised f
            ∧ f.isExpected = true)
          ↔ ∃ a job, Arguments.read arguments = .ok a
            ∧ (root.configure a.levelValue .errors).isSome = true
            ∧ a.job? = some job
            ∧ Request.isForeign (Text.trimBlankStart job.url) = false
            ∧ ∃ g, Request.usable (Text.trimBlankStart job.url) = .error g)
      ∧ ∀ (q : Request) (f : Failure), c.job.request = .ok q →
        (s.send q c.job.timeout).result = .error f → f.isExpected = true →
        (c.job.invoke s o).ending = .ok 1
          ∧ (c.job.invoke s o).notes.filter (·.level == Severity.error.number)
            = [failureNote c.job f.message]
          ∧ (c.job.invoke s o).written = []
          ∧ (c.job.invoke s o).flushes = 0 := by
  refine ⟨?_, ?_, ?_⟩
  · exact c.job.raises_expected_iff s o
  · exact Run.raises_expected_iff logger root now arguments o events
  · intro q f hq hf he
    exact Job.invoke_of_result_send hq hf he

section Plain
attribute [local instance] Carrier.plain

/-- **Not every expected failure is kept from whoever called**: a run that
is given a host and no scheme raises one. -/
theorem start_raises_expected :
    ∃ f, (Run.start Run.logger {} 0 ["--url=localhost".toList] .output
        [.reply ⟨200, some "OK".toList, [], []⟩]).ending = .raised f
      ∧ f.isExpected = true := by
  have hup : (match (Run.start Run.logger {} 0 ["--url=localhost".toList]
      .output [.reply ⟨200, some "OK".toList, [], []⟩]).ending with
      | .raised f => f.isExpected
      | _ => false) = true := by
    decide +kernel
  split at hup
  · rename_i f hf
    exact ⟨f, hf, hup⟩
  · cases hup

/-- What a deputy raises when it gives up waiting. -/
def timedOut : Raised :=
  ⟨"Timeout".toList, true, false, [.text "timed out".toList]⟩

/-- A deputy that gives up waiting ends the invocation with status 1 and one
note of an error, and nothing is delivered. -/
theorem raised_expected_iff_timedOut :
    let j := ({} : Config).job
    let i := j.invoke (.deputy (.error timedOut)) .buffer
    i.ending = .ok 1
      ∧ i.notes.filter (·.level == Severity.error.number)
        = [failureNote j "timed out".toList]
      ∧ i.written = [] ∧ i.flushes = 0 := by
  have hsome : (({} : Config).job.request).toOption.isSome = true := by
    decide +kernel
  obtain ⟨q, hq⟩ := Option.isSome_iff_exists.mp hsome
  exact (raised_expected_iff {} _ _ [] {} 0 [] []).2.2 q (.deputy timedOut)
    (eq_ok_of_toOption hq) rfl rfl

end Plain

end QueryClient
