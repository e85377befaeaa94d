import QueryClient.Exchange.PlainCarrier
import QueryClient.Proofs.AnsweredRequests
import QueryClient.Proofs.QueryCommand
import QueryClient.Proofs.TokenReading

/-!
# What becomes of arguments that were accepted

Reading a command line does not look at everything that matters later. It takes
any number for the waiting time, it takes a value that is to be dropped for any
flag, and it hands on a database and a query that are no text. What is refused
later is told here once: a threshold that was dropped is no level for the log, a
named value has to be text, and a waiting time that was dropped, or is not above
zero, or is too long for the carrier, is none to wait for. `Arguments.IsUnfit` says
just this.

`Run.start_accepted` says that nothing else is refused. Of arguments that name a
server, the unfit ones end a run before anything is sent, and with all others
one request goes to the server, and the run ends as the reply has it.
-/

namespace QueryClient

open Url

/-! ## Fit and unfit arguments -/

/-- A waiting time is **refused** for one of three reasons. -/
inductive Timeout.IsRefused [Carrier] : Timeout → TimeoutFault → Prop
  /-- It was dropped. -/
  | void : IsRefused .void .void
  /-- It is not above zero. -/
  | notPositive {x : Binary64} (hx : x.isAtMostZero = true) :
    IsRefused (.seconds x) (.notPositive x)
  /-- The carrier cannot wait for so long. -/
  | unwaitable {x : Binary64} {text : Text} (hx : x.isAtMostZero = false)
    (ht : Carrier.waitFault? x = some text) :
    IsRefused (.seconds x) (.unwaitable text)

/-- **Nothing else is refused of it.** -/
theorem Timeout.check_eq_error_iff [Carrier] {t : Timeout} {f : TimeoutFault} :
    t.check = .error f ↔ t.IsRefused f := by
  constructor
  · intro h
    cases t with
    | unlimited => cases h
    | void =>
      cases h
      exact .void
    | seconds x =>
      rw [Timeout.check] at h
      split at h
      · rename_i hx
        cases h
        exact .notPositive hx
      · rename_i hx
        cases ht : Carrier.waitFault? x with
        | none =>
          rw [ht] at h
          cases h
        | some text =>
          rw [ht] at h
          cases h
          exact .unwaitable (Bool.not_eq_true _ ▸ hx) ht
  · intro h
    cases h with
    | void => rfl
    | notPositive hx => exact if_pos hx
    | unwaitable hx ht =>
      rw [Timeout.check, if_neg (by rw [hx]; decide), ht]
      rfl

namespace Arguments

/-- Arguments are **unfit** for a failure that comes later, although they were
accepted. The threshold is looked at first, and the waiting time last. -/
inductive IsUnfit [Carrier] (a : Arguments) : Failure → Prop
  /-- The threshold was dropped. -/
  | threshold (hl : a.logLevel = none) : IsUnfit a (.level (.list []))
  /-- The database or the query is no text. -/
  | value {g : LooseText.Fault} (hl : a.logLevel ≠ none)
    (hg : readPairs a.params = .error g) : IsUnfit a (.request (.value g))
  /-- The waiting time is refused. -/
  | timeout {pairs : List (Text × Text)} {f : TimeoutFault}
    (hl : a.logLevel ≠ none) (hp : a.params = loosePairs pairs)
    (hf : a.timeout.IsRefused f) : IsUnfit a (.send (.timeout f))

/-- A threshold that is read is the name of a level, unless it was dropped. -/
theorem name_of_readLevel {value : Option Text} {l : Option Text}
    (h : readLevel value = .ok l) : ∀ t ∈ l, ∃ s : Severity, t = s.name := by
  cases value with
  | none =>
    cases h
    simp
  | some t =>
    rw [readLevel] at h
    split at h
    · rename_i hsome
      cases h
      obtain ⟨s, hs⟩ := Option.isSome_iff_exists.mp hsome
      rintro t ⟨⟩
      exact ⟨s, Severity.ofName?_eq_some_iff.mp hs⟩
    · cases h

/-- **So is the threshold of arguments that were accepted.** -/
theorem name_of_logLevel {arguments : List Text} {a : Arguments}
    (h : read arguments = .ok a) :
    ∀ t ∈ a.logLevel, ∃ s : Severity, t = s.name := by
  refine keeps_read (P := fun a => ∀ t ∈ a.logLevel, ∃ s : Severity, t = s.name)
    ?_ ?_ h ?_
  · intro a f v a' h ha
    cases f with
    | logLevel =>
      obtain ⟨l, hl, rfl⟩ := map_eq_ok_iff.mp h
      exact name_of_readLevel hl
    | timeout =>
      obtain ⟨t, -, rfl⟩ := map_eq_ok_iff.mp h
      exact ha
    | url | db | query | help | noPretty =>
      cases h
      exact ha
  · intro a f a' h ha
    cases f with
    | help => cases h
    | _ =>
      cases h
      exact ha
  · rintro t ⟨⟩
    exact ⟨.warning, rfl⟩

/-- **Arguments that were accepted do not set the log up only if the threshold
was dropped.** -/
theorem configure_eq_none_iff {arguments : List Text} {a : Arguments}
    (h : read arguments = .ok a) (root : Root) :
    root.configure a.levelValue .errors = none ↔ a.logLevel = none := by
  have hname := name_of_logLevel h
  unfold levelValue
  cases hl : a.logLevel with
  | none => exact iff_of_true rfl rfl
  | some t =>
    obtain ⟨s, rfl⟩ := hname t hl
    rw [Option.elim_some]
    exact iff_of_false (by cases s <;> exact Option.some_ne_none _)
      (Option.some_ne_none _)

/-- **Arguments that are not unfit** have a threshold, named values that are text, and
a waiting time. -/
theorem of_not_isUnfit [Carrier] {a : Arguments} (h : ∀ f, ¬a.IsUnfit f) :
    a.logLevel ≠ none ∧ ∃ pairs limit, a.params = loosePairs pairs
      ∧ a.timeout.check = .ok limit := by
  have hl : a.logLevel ≠ none := fun hl => h _ (.threshold hl)
  refine ⟨hl, ?_⟩
  cases hp : readPairs a.params with
  | error g => exact absurd (.value hl hp) (h _)
  | ok pairs =>
    rw [readPairs_eq_ok_iff] at hp
    cases hc : a.timeout.check with
    | error f =>
      exact absurd (.timeout hl hp (Timeout.check_eq_error_iff.mp hc)) (h _)
    | ok limit => exact ⟨pairs, limit, hp, rfl⟩

end Arguments

/-! ## One request, or none -/

/-- Only a reply that asks onward misleads. -/
theorem Reply.Misleads.asksOnward {r : Reply} {h : Hop} {f : RedirectFault}
    (hm : r.Misleads h f) : r.asksOnward = true := by
  -- a location that says nothing is text, and nothing is made of it
  have hsays : ∀ stated, r.location? = some stated → stated ≠ [] →
      r.asksOnward = true := by
    intro stated hl hne
    unfold Reply.asksOnward
    rw [hl]
    simpa using hne
  cases hm with
  | characters hl hf =>
    refine hsays _ hl ?_
    rintro rfl
    cases hf
  | octets hl ho hf =>
    refine hsays _ hl ?_
    rintro rfl
    cases ho
    cases hf
  | lost hl ho ht hne =>
    refine hsays _ hl ?_
    rintro rfl
    cases ho
    exact hne (Except.ok.inj ht).symm

/-- So it does not matter at which hop a reply that does not is what upsets the
exchange. -/
theorem Reply.Upsets.of_last [Carrier] {r : Reply} {h : Hop} {f : Failure}
    (hu : r.Upsets h f) (hr : r.asksOnward = false) (h' : Hop) :
    r.Upsets h' f := by
  cases hu with
  | refused hagrees ht => exact .refused hagrees ht
  | misled _ hm =>
    rw [hm.asksOnward] at hr
    cases hr
  | empty ht hs => exact .empty ht hs

namespace Job

variable {j : Job} {q : Request} {o : Outlet}

/-- **After a reply that does not ask onward, what goes up is what that upsets the
exchange with.** -/
theorem ending_eq_error_iff_of_last [Carrier] {s : Sent} {r : Reply} {f : Failure}
    (hq : j.request = .ok q)
    (hs : Exchange.ready j.timeout (.first q) = .ok s)
    (hr : r.asksOnward = false) (ho : o.isWorking = true) (rest : List Event) :
    (j.invoke (.wire (.reply r :: rest)) o).ending = .error f
      ↔ ∃ h, r.Upsets h f := by
  obtain ⟨d, -, hd, -⟩ := Exchange.of_ready_eq_ok hs
  have hw : IsWritten q.url := Request.isWritten_of_prepare hq ⟨d, hd⟩
  obtain ⟨result, hfinal⟩ := Exchange.exists_outcome_of_last hs hr rest
  rw [ending_eq_error_iff_raises ho hq, Exchange.run_of_final hfinal,
    Exchange.raises_iff_of_final hw hfinal]
  exact ⟨fun hu => ⟨_, hu⟩, fun ⟨_, hu⟩ => hu.of_last hr _⟩

/-- **A waiting time that is refused** ends the invocation with that failure,
before anything is sent. -/
theorem invoke_of_refused [Carrier] {f : TimeoutFault} (hq : j.request = .ok q)
    (hs : Exchange.ready j.timeout (.first q) = .error (.timeout f))
    (events : List Event) :
    (j.invoke (.wire events) o).ending = .error (.send (.timeout f))
      ∧ (j.invoke (.wire events) o).sent = []
      ∧ (j.invoke (.wire events) o).written = [] := by
  have hunsent : Exchange.outcome j.timeout (.first q) events
      = .unsent (.timeout f) := by
    unfold Exchange.outcome
    rw [hs]
  have hrun := Exchange.run_of_unsent hunsent hopLimit
  have hresult : (Sender.send (.wire events) q j.timeout).result
      = .error (.send (.timeout f)) :=
    Sender.result_send_wire_of_error (by rw [hrun])
  refine ⟨?_, ?_, ?_⟩
  · rw [invoke_eq_fail hq hresult]
    rfl
  · rw [sent_invoke_wire hq, hrun]
  · rw [invoke_eq_fail hq hresult, (Invocation.delivery_fail ..).1]

end Job

/-! ## The whole run -/

namespace Run

variable {host : Text} {port slashes : Nat} {secure withPath : Bool}
  {a : Arguments}

/-- The run of arguments that name a server, once the log is set up, is the
invocation of a job for the query on that server. -/
theorem ofArguments_of_server [Carrier] {root configured : Root} (logger : Text)
    (now : Nat) (h : IsServerName host)
    (hl : root.configure a.levelValue .errors = some configured)
    (hurl : a.url = some (serverAddress secure host port
      ((if withPath then queryPath else []) ++ List.replicate slashes '/')))
    (outlet : Outlet) (events : List Event) :
    ofArguments logger root now a outlet events
      = ofInvocation logger configured now
          (Job.invoke ⟨serverAddress secure host port queryPath, a.params,
            a.timeout⟩ (.wire events) outlet) :=
  ofArguments_of_job hl
    (Arguments.job?_named h (fun hn => Option.some_ne_none _ hn.2.1) hurl)

/-- The request of that job. -/
theorem exists_ready_server [Carrier] (secure : Bool) (h : IsServerName host)
    (h1 : 1 ≤ port) (hport : port ≤ 65535) {pairs : List (Text × Text)}
    (hpairs : a.params = loosePairs pairs) :
    ∃ q, Job.request ⟨serverAddress secure host port queryPath, a.params,
        a.timeout⟩ = .ok q
      ∧ Exchange.ready a.timeout (.first q)
        = (a.timeout.check.mapError .timeout).map
            (Sent.ofNamed secure host (some port) pairs) := by
  rw [hpairs]
  exact Job.exists_ready_named secure h (bounds_of_port h1 hport) pairs a.timeout

/-- **Unfit arguments end a run** with the failure that they are unfit for, before
anything is sent. -/
theorem ofArguments_of_isUnfit [Carrier] (logger : Text) (root : Root) (now : Nat)
    (h : IsServerName host) (h1 : 1 ≤ port) (hport : port ≤ 65535)
    (hlevel : root.configure a.levelValue .errors = none ↔ a.logLevel = none)
    (hurl : a.url = some (serverAddress secure host port
      ((if withPath then queryPath else []) ++ List.replicate slashes '/')))
    {f : Failure} (hunfit : a.IsUnfit f) (outlet : Outlet) (events : List Event) :
    let run := ofArguments logger root now a outlet events
    run.ending = .raised f ∧ run.sent = [] ∧ run.output = [] := by
  intro run
  have hserver : a.logLevel ≠ none → ∃ configured, run = ofInvocation logger
      configured now (Job.invoke ⟨serverAddress secure host port queryPath,
        a.params, a.timeout⟩ (.wire events) outlet) := by
    intro hl
    obtain ⟨configured, hc⟩ :=
      Option.ne_none_iff_exists'.mp (mt hlevel.mp hl)
    exact ⟨configured, ofArguments_of_server logger now h hc hurl outlet events⟩
  cases hunfit with
  | threshold hl =>
    have hrun : run = only (.raised (.level a.levelValue)) root ⟨outlet, []⟩ := by
      show ofArguments logger root now a outlet events = _
      unfold ofArguments
      rw [hlevel.mpr hl]
    rw [hrun, Arguments.levelValue, hl]
    exact ⟨rfl, rfl, rfl⟩
  | value hl hg =>
    obtain ⟨configured, hrun⟩ := hserver hl
    have hq : Job.request ⟨serverAddress secure host port queryPath, a.params,
        a.timeout⟩ = .error _ :=
      Request.prepare_namedAddress_of_fault secure h
        (fun n hn => (bounds_of_port h1 hport n hn).2) hg
    rw [hrun]
    unfold Job.invoke
    rw [hq]
    exact ⟨rfl, rfl, rfl⟩
  | timeout hl hp hf =>
    obtain ⟨configured, hrun⟩ := hserver hl
    obtain ⟨q, hq, hready⟩ := exists_ready_server secure h h1 hport hp
    rw [Timeout.check_eq_error_iff.mpr hf] at hready
    obtain ⟨hending, hsent, hwritten⟩ :=
      Job.invoke_of_refused (o := outlet) hq hready events
    rw [hrun]
    exact ⟨ending_ofInvocation_eq_raised_iff.mpr ⟨hending, nofun⟩, hsent, hwritten⟩

/-- **Of arguments that are accepted and name a server, only the unfit ones are
refused later.** Each ends the run with the failure that it is unfit for, before
anything is sent. With all others one request goes to the server, and a reply that
does not ask onward ends the run: with status 0 exactly if it conveys something,
which is put out then, and with a failure that goes up exactly if it upsets the
exchange.

Words that are no text are accepted for the database and the query, and nowhere
else: a name of a server, a number and the name of a level are text, and so is every
flag. So arguments that are accepted are those of some words that are text, with any
database and any query. -/
theorem start_accepted [Carrier] (logger : Text) (root : Root) (now : Nat)
    (secure : Bool) {host : Text}
    (hhost : ∀ label ∈ Text.fields '.' host,
      label ≠ [] ∧ ∀ c ∈ label, c.isAlphanum = true ∨ c = '-')
    {port : Nat} (h1 : 1 ≤ port) (hport : port ≤ 65535) (withPath : Bool)
    (slashes : Nat) {arguments : List Text} {accepted : Arguments}
    (ha : Arguments.read arguments = .ok accepted)
    (hurl : accepted.url = some (serverAddress secure host port
      ((if withPath then queryPath else []) ++ List.replicate slashes '/')))
    (db query : Option LooseText) {r : Reply} (hr : r.asksOnward = false)
    (rest : List Event) :
    let a := { accepted with db, query }
    let run := ofArguments logger root now a .output (.reply r :: rest)
    (a = accepted →
        start logger root now arguments .output (.reply r :: rest) = run)
      ∧ (∀ f, a.IsUnfit f →
        run.ending = .raised f ∧ run.sent = [] ∧ run.output = [])
      ∧ ((∀ f, ¬a.IsUnfit f) →
        (∃ pairs limit, a.params = loosePairs pairs ∧ a.timeout.check = .ok limit
          ∧ run.sent = [Sent.ofNamed secure host (some port) pairs limit])
        ∧ (run.ending = .returned 0 ↔ ∃ octets, r.Conveys octets)
        ∧ (∀ octets, r.Conveys octets → run.output = octets)
        ∧ ∀ f, run.ending = .raised f ↔ ∃ h, r.Upsets h f) := by
  intro a run
  have hname : IsServerName host := .of_labels hhost
  have hlevel : root.configure a.levelValue .errors = none ↔ a.logLevel = none :=
    Arguments.configure_eq_none_iff ha root
  refine ⟨fun he => ?_, fun f hunfit => ofArguments_of_isUnfit logger root now
    hname h1 hport hlevel hurl hunfit .output (.reply r :: rest), fun hfit => ?_⟩
  · rw [start_of_read ha, ← he]
  obtain ⟨hl, pairs, limit, hpairs, hlimit⟩ := Arguments.of_not_isUnfit hfit
  obtain ⟨configured, hc⟩ := Option.ne_none_iff_exists'.mp (mt hlevel.mp hl)
  obtain ⟨q, hq, hready⟩ := exists_ready_server secure hname h1 hport hpairs
  rw [hlimit] at hready
  have hrun : run = ofInvocation logger configured now _ :=
    ofArguments_of_server logger now hname hc hurl .output (.reply r :: rest)
  have hdelivered : ∀ octets, _ ↔ r.Conveys octets := fun octets =>
    Job.delivered_iff_of_last (o := .output) hq hready hr rfl rest
  rw [hrun]
  refine ⟨⟨pairs, limit, hpairs, hlimit,
    Job.sent_invoke_of_last hq hready hr rest .output⟩, ?_, ?_, ?_⟩
  · rw [ending_ofInvocation_eq_returned_zero_iff]
    exact ⟨fun he => ⟨_, (hdelivered _).mp ⟨he, rfl⟩⟩,
      fun ⟨octets, hw⟩ => ((hdelivered octets).mpr hw).1⟩
  · exact fun octets hw => ((hdelivered octets).mpr hw).2
  · intro f
    rw [ending_ofInvocation_eq_raised_iff,
      Job.ending_eq_error_iff_of_last hq hready hr rfl rest]
    refine and_iff_left_of_imp ?_
    rintro ⟨h, ⟨⟩⟩ <;> nofun

section Plain
attribute [local instance] Carrier.plain

/-- A waiting time may have blanks around it, and a flag may be cut short. With a
query that is no text the same words are accepted, and the run fails before anything
is sent. -/
theorem start_accepted_abbreviated :
    let arguments := ["--timeout".toList, " 2.5 ".toList, "--log-l=error".toList]
    let run := start logger {} 0 arguments .output [.reply plainReply]
    (run.ending = .returned 0 ∧ run.output = plainReply.body
        ∧ run.sent.length = 1)
      ∧ ∃ accepted g, Arguments.read arguments = .ok accepted
        ∧ (ofArguments logger {} 0 { accepted with query := some [.lone 0x480] }
            .output [.reply plainReply]).ending = .raised (.request (.value g)) := by
  intro arguments run
  have hhost : ∀ label ∈ Text.fields '.' "localhost".toList,
      label ≠ [] ∧ ∀ c ∈ label, c.isAlphanum = true ∨ c = '-' :=
    IsServerName.labels_of_all (by decide)
  have hread : (Arguments.read arguments).toOption
      = some { timeout := .seconds (.ofMagnitude false 0x4004000000000000)
               logLevel := some Severity.error.name } := by
    decide +kernel
  have ha := eq_ok_of_toOption hread
  have hport : 1 ≤ 8086 ∧ 8086 ≤ 65535 := by decide
  have hw : plainReply.Conveys plainReply.body := ⟨⟨nofun, rfl⟩, nofun, rfl, rfl⟩
  refine ⟨?_, _, ⟨0, [.lone 0x480]⟩, ha, ?_⟩
  · obtain ⟨hstart, -, hfit⟩ := start_accepted logger {} 0 false hhost hport.1
      hport.2 false 0 ha rfl (some (Text.loose defaultDatabase))
      (some (Text.loose defaultQuery)) (r := plainReply) rfl []
    obtain ⟨⟨_, _, -, -, hsent⟩, hending, houtput, -⟩ := hfit fun f hf => by
      cases hf with
      | threshold hl => cases hl
      | value _ hg => cases hg
      | timeout _ _ hf =>
        cases hf with
        | notPositive hx => exact absurd hx (by decide)
        | unwaitable _ ht => cases ht
    rw [show run = _ from hstart rfl]
    refine ⟨hending.mpr ⟨_, hw⟩, houtput _ hw, ?_⟩
    rw [hsent]
    rfl
  · obtain ⟨-, hunfit, -⟩ := start_accepted logger {} 0 false hhost hport.1
      hport.2 false 0 ha rfl (some (Text.loose defaultDatabase))
      (some [.lone 0x480]) (r := plainReply) rfl []
    exact (hunfit _ (.value nofun rfl)).1

/-- **A waiting time of nothing is accepted, and refused later**: the run ends
with a failure that goes up before anything is sent, although the server would
have answered. -/
theorem start_accepted_nothing :
    let arguments := ["--url=http://localhost:8086".toList, "--timeout=0".toList]
    let run := start logger {} 0 arguments .output [.reply plainReply]
    (∃ a, Arguments.read arguments = .ok a
        ∧ a.url = some "http://localhost:8086".toList)
      ∧ plainReply.asksOnward = false ∧ plainReply.Conveys plainReply.body
      ∧ (∃ f, run.ending = .raised f) ∧ run.sent = [] := by
  intro arguments run
  have ha : Arguments.read arguments
      = .ok { timeout := .seconds (.ofMagnitude false 0) } := by
    rfl
  have hname : IsServerName "localhost".toList :=
    .of_labels (IsServerName.labels_of_all (by decide))
  have hparams : Arguments.params { timeout := .seconds (.ofMagnitude false 0) }
      = loosePairs (queryPairs defaultDatabase defaultQuery true) := rfl
  have hunfit : Arguments.IsUnfit
      { timeout := .seconds (.ofMagnitude false 0) } _ :=
    .timeout nofun hparams (.notPositive (by decide))
  have hport : 1 ≤ 8086 ∧ 8086 ≤ 65535 := by decide
  have hurl : some defaultBaseUrl = some (serverAddress false "localhost".toList
      8086 ((if false then queryPath else []) ++ List.replicate 0 '/')) := rfl
  obtain ⟨hending, hsent, -⟩ := ofArguments_of_isUnfit logger {} 0 hname hport.1
    hport.2 (Arguments.configure_eq_none_iff ha {}) hurl hunfit .output
    [.reply plainReply]
  rw [show run = _ from start_of_read ha]
  exact ⟨⟨_, ha, rfl⟩, rfl, ⟨⟨nofun, rfl⟩, nofun, rfl, rfl⟩, ⟨_, hending⟩, hsent⟩

end Plain

end Run
end QueryClient
