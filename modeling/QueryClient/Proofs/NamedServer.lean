import QueryClient.Exchange.PlainCarrier
import QueryClient.Proofs.BoundedExchange
import QueryClient.Proofs.CommandLine
import QueryClient.Proofs.RunCourse
import QueryClient.Proofs.ServerAddress
import QueryClient.Proofs.TokenReading

/-!
# The server that is named

The command line names a server, with or without a port, with or without the
query path, and with slashes at the end or without. `Run.sent_start_named`
says that the first request goes to the server that is named, at the query
path, with one exception, and what becomes of that.

The exception is a server called `query`, named without a port and without
the path. Its address ends in the text of the path all the same, since the
slash in front of the name is the second of the two that open the authority.
So the name is taken for the path, and what is left names no server:
`Run.start_misread` is such a run.
-/

namespace QueryClient

open Url

variable {host : Text} {port : Option Nat} {secure withPath : Bool}
  {slashes : Nat}

/-! ## The end of the address -/

/-- What follows the authority stands at the end. -/
theorem namedAddress_eq_append (secure : Bool) (host : Text)
    (port : Option Nat) (rest : Text) :
    namedAddress secure host port rest
      = namedAddress secure host port [] ++ rest := by
  unfold namedAddress
  simp only [List.append_assoc, List.cons_append, List.append_nil]

/-- What stands in front of the authority. -/
theorem namedAddress_nil (secure : Bool) (host : Text) (port : Option Nat) :
    namedAddress secure host port []
      = (webScheme secure ++ ":/".toList) ++ '/' :: namedAuthority host port := by
  unfold namedAddress
  rw [List.append_nil, List.append_assoc]
  rfl

namespace IsServerName

/-- The address of a server does not end in a slash. -/
theorem exists_getLast?_namedAddress (h : IsServerName host) (secure : Bool)
    (port : Option Nat) :
    ∃ d, (namedAddress secure host port []).getLast? = some d ∧ d ≠ '/' := by
  obtain ⟨front, d, hd⟩ : ∃ front d, namedAuthority host port = front ++ [d] :=
    ⟨_, _, (List.dropLast_concat_getLast (h.namedAuthority_ne_nil port)).symm⟩
  have hmem : d ∈ namedAuthority host port := by
    rw [hd]
    exact List.mem_append_right _ (List.mem_cons_self ..)
  refine ⟨d, ?_, ?_⟩
  · rw [namedAddress_nil, hd, ← List.cons_append, ← List.append_assoc,
      List.getLast?_concat]
  · rintro rfl
    exact h.notMem_namedAuthority (by decide) (by decide) hmem

/-- An authority without a colon is a name without a port. -/
theorem namedAuthority_eq_iff (h : IsServerName host) {name : Text}
    (hname : ':' ∉ name) :
    namedAuthority host port = name ↔ host = name ∧ port = none := by
  constructor
  · rintro rfl
    have hcut := Text.cut_of_notMem hname
    rw [h.cut_namedAuthority, Prod.mk.injEq] at hcut
    exact ⟨hcut.1, Option.map_eq_none_iff.mp hcut.2⟩
  · rintro ⟨rfl, rfl⟩
    exact List.append_nil _

/-- **The address of a server ends in the query path only if the server is
called like it.** -/
theorem isSuffixOf_namedAddress_iff (h : IsServerName host) (secure : Bool) :
    queryPath.isSuffixOf (namedAddress secure host port []) = true
      ↔ host = "query".toList ∧ port = none := by
  have hslash : '/' ∉ namedAuthority host port :=
    h.notMem_namedAuthority (by decide) (by decide)
  rw [← h.namedAuthority_eq_iff (by decide), List.isSuffixOf_iff_suffix,
    namedAddress_nil]
  constructor
  · rintro ⟨before, hbefore⟩
    -- both sides are cut at their last slash
    have hcut : Text.cutLast '/' (before ++ '/' :: "query".toList)
        = Text.cutLast '/' (webScheme secure ++ ":/".toList
          ++ '/' :: namedAuthority host port) := congrArg _ hbefore
    rw [Text.cutLast_append_cons (by decide),
      Text.cutLast_append_cons hslash, Prod.mk.injEq] at hcut
    exact hcut.2.symm
  · intro hauthority
    rw [hauthority]
    exact List.suffix_append ..

end IsServerName

/-! ## The job -/

namespace Arguments

/-- The job has the address of the query on the server that is named, … -/
theorem job?_named (h : IsServerName host)
    (hread : ¬(host = "query".toList ∧ port = none ∧ withPath = false))
    {a : Arguments}
    (hurl : a.url = some (namedAddress secure host port
      ((if withPath then queryPath else []) ++ List.replicate slashes '/'))) :
    a.job? = some
      ⟨namedAddress secure host port queryPath, a.params, a.timeout⟩ := by
  obtain ⟨d, hlast, hd⟩ := h.exists_getLast?_namedAddress secure port
  have hpath : withPath = false →
      ¬queryPath.isSuffixOf (namedAddress secure host port []) = true := by
    intro hwithout hsuffix
    obtain ⟨hhost, hport⟩ := (h.isSuffixOf_namedAddress_iff secure).mp hsuffix
    exact hread ⟨hhost, hport, hwithout⟩
  unfold job?
  rw [hurl, Option.map_some, namedAddress_eq_append,
    Config.url_baseOf hlast hd withPath hpath, ← namedAddress_eq_append]

/-- … unless the name is taken for the path: then the name is gone. -/
theorem job?_misread {a : Arguments}
    (hurl : a.url = some (namedAddress secure "query".toList none
      (List.replicate slashes '/'))) :
    a.job? = some
      ⟨webScheme secure ++ ":/query".toList, a.params, a.timeout⟩ := by
  have haddress : namedAddress secure "query".toList none
      (List.replicate slashes '/')
        = webScheme secure ++ ":/".toList ++ queryPath
          ++ List.replicate slashes '/' := by
    rw [namedAddress_eq_append, namedAddress_nil]
    rfl
  have hbase : Text.trimEnd '/' (webScheme secure ++ ":/".toList)
      = webScheme secure ++ ":".toList := by
    cases secure <;> rfl
  unfold job?
  rw [hurl, Option.map_some, haddress, baseOf_append_queryPath, Config.url]
  dsimp only
  rw [hbase, List.append_assoc]
  rfl

end Arguments

/-- No request can be made of an address without the name. -/
theorem Request.prepare_misread [Names] (secure : Bool)
    (params : List (Text × LooseText)) :
    prepare (webScheme secure ++ ":/query".toList) params
      = .error (.noHost (webScheme secure ++ ":/query".toList)) := by
  cases secure <;> rfl

/-! ## The first request -/

/-- The request for the query on a server, as it is sent. -/
def Sent.ofNamed (secure : Bool) (host : Text) (port : Option Nat)
    (pairs : List (Text × Text)) (limit : Option Binary64) : Sent where
  destination := ⟨secure, Text.lowerAscii host,
    port.getD (Destination.defaultPort secure), queryPath ++ formQuery pairs⟩
  method := Request.getMethod
  authorization := none
  body := none
  connectTimeout := limit
  readTimeout := limit

/-- **The request of a job for the query on a server can be made**, and it is
ready once the waiting time is accepted. -/
theorem Job.exists_ready_named [Carrier] (secure : Bool) (h : IsServerName host)
    (hport : ∀ n ∈ port, 1 ≤ n ∧ n ≤ 65535) (pairs : List (Text × Text))
    (timeout : Timeout) :
    ∃ q, Job.request ⟨namedAddress secure host port queryPath, loosePairs pairs,
        timeout⟩ = .ok q
      ∧ Exchange.ready timeout (.first q)
        = (timeout.check.mapError .timeout).map
            (Sent.ofNamed secure host port pairs) := by
  obtain ⟨out, hname, hout, hprepare⟩ :=
    Request.prepare_namedAddress secure h hport pairs
  have hdestination := Destination.ofUrl_namedAddress secure hname hport pairs
  rw [hout] at hdestination
  refine ⟨_, hprepare, ?_⟩
  unfold Exchange.ready
  show (Destination.ofUrl (namedAddress secure out port
    (queryPath ++ formQuery pairs))).mapError _ >>= _ = _
  rw [hdestination]
  cases timeout.check with
  | error f => rfl
  | ok limit => rfl

/-- **The first request of a job for the query on a server**, and when there
is none. -/
theorem Job.head?_sent_named [Carrier] (secure : Bool) (h : IsServerName host)
    (hport : ∀ n ∈ port, 1 ≤ n ∧ n ≤ 65535) (pairs : List (Text × Text))
    (timeout : Timeout) (events : List Event) (o : Outlet) :
    (Job.invoke ⟨namedAddress secure host port queryPath, loosePairs pairs,
        timeout⟩ (.wire events) o).sent.head?
      = timeout.check.toOption.map (Sent.ofNamed secure host port pairs) := by
  obtain ⟨q, hq, hready⟩ := exists_ready_named secure h hport pairs timeout
  rw [Job.head?_sent_invoke_wire hq, hready]
  cases timeout.check with
  | error f => rfl
  | ok limit => rfl

namespace Run

/-- A run of arguments that describe a job sends the requests of the job,
unless the log cannot be set up. -/
theorem sent_start [Carrier] {logger : Text} {root : Root} {now : Nat}
    {arguments : List Text} {a : Arguments} {job : Job} {outlet : Outlet}
    {events : List Event} (ha : Arguments.read arguments = .ok a)
    (hj : a.job? = some job) :
    (start logger root now arguments outlet events).sent
      = if root.configure a.levelValue .errors = none then []
        else (job.invoke (.wire events) outlet).sent := by
  have hc := course_start logger root now arguments outlet events []
  generalize start logger root now arguments outlet events = run at hc
  cases hc with
  | stopped ha' =>
    rw [ha] at ha'
    cases ha'
  | noLevel ha' hl =>
    rw [ha] at ha'
    cases ha'
    rw [if_pos hl]
    rfl
  | noAddress ha' hl hj' =>
    rw [ha] at ha'
    cases ha'
    rw [hj] at hj'
    cases hj'
  | invoked ha' hl hj' =>
    rw [ha] at ha'
    cases ha'
    rw [hj] at hj'
    cases hj'
    rw [if_neg (by rw [hl]; exact Option.some_ne_none _)]
    rfl

variable {arguments : List Text} {a : Arguments}

/-- The first request of a run that names a server, if it is not misread. -/
theorem head?_sent_start_of_named [Carrier] (logger : Text) (root : Root) (now : Nat)
    (h : IsServerName host) (hport : ∀ n ∈ port, 1 ≤ n ∧ n ≤ 65535)
    (hread : ¬(host = "query".toList ∧ port = none ∧ withPath = false))
    (ha : Arguments.read arguments = .ok a)
    (hurl : a.url = some (namedAddress secure host port
      ((if withPath then queryPath else []) ++ List.replicate slashes '/')))
    {pairs : List (Text × Text)} (hpairs : a.params = loosePairs pairs)
    (outlet : Outlet) (events : List Event) :
    (start logger root now arguments outlet events).sent.head?
      = if root.configure a.levelValue .errors = none then none
        else a.timeout.check.toOption.map
          (Sent.ofNamed secure host port pairs) := by
  rw [sent_start ha (Arguments.job?_named h hread hurl), apply_ite List.head?,
    hpairs, Job.head?_sent_named secure h hport]
  rfl

/-- A run in which the name is taken for the path ends with that there is no
server, and sends nothing. -/
theorem start_misread [Carrier] (logger : Text) (root : Root) (now : Nat)
    (ha : Arguments.read arguments = .ok a)
    (hurl : a.url = some (namedAddress secure "query".toList none
      (List.replicate slashes '/')))
    (outlet : Outlet) (events : List Event) :
    let run := start logger root now arguments outlet events
    run.sent = [] ∧ ∀ configured,
      root.configure a.levelValue .errors = some configured →
        run.ending = .raised
          (.request (.noHost (webScheme secure ++ ":/query".toList))) := by
  intro run
  have hj := Arguments.job?_misread hurl
  have hq : Job.request ⟨webScheme secure ++ ":/query".toList, a.params,
      a.timeout⟩ = .error _ := Request.prepare_misread secure a.params
  refine ⟨?_, fun configured hl => ?_⟩
  · have hsent : run.sent = _ := sent_start ha hj
    rw [hsent, Job.sent_invoke_of_fault hq, ite_self]
  · have hrun : run = _ := start_of_job ha hl hj
    rw [hrun, ending_ofInvocation]
    unfold Job.invoke
    rw [hq]

/-- **The server that is named is the server that is asked**, at the query
path. It is asked whenever the log can be set up and the time to wait is one,
unless it is called like the path and named without anything behind that; then
the run ends because there is no server. -/
theorem sent_start_named [Carrier] (logger : Text) (root : Root) (now : Nat)
    (secure : Bool) {host : Text}
    (hhost : ∀ label ∈ Text.fields '.' host,
      label ≠ [] ∧ ∀ c ∈ label, c.isAlphanum = true ∨ c = '-')
    {port : Option Nat} (hport : ∀ n ∈ port, 1 ≤ n ∧ n ≤ 65535)
    (withPath : Bool) (slashes : Nat) {arguments : List Text} {a : Arguments}
    (ha : Arguments.read arguments = .ok a)
    (hurl : a.url = some (namedAddress secure host port
      ((if withPath then queryPath else []) ++ List.replicate slashes '/')))
    (outlet : Outlet) (events : List Event) :
    let run := start logger root now arguments outlet events
    let misread := host = "query".toList ∧ port = none ∧ withPath = false
    (∃ pairs, a.params = loosePairs pairs
        ∧ ∀ s ∈ run.sent.head?, s.destination
          = ⟨secure, Text.lowerAscii host,
            port.getD (if secure then 443 else 80),
            "/query".toList ++ formQuery pairs⟩)
      ∧ (run.sent = [] ↔ misread
        ∨ root.configure a.levelValue .errors = none
        ∨ ∃ f, a.timeout.check = .error f)
      ∧ (misread → ∀ configured,
        root.configure a.levelValue .errors = some configured →
          run.ending = .raised
            (.request (.noHost (webScheme secure ++ ":/query".toList)))) := by
  intro run misread
  obtain ⟨pairs, hpairs⟩ := Arguments.exists_pairs_of_read ha
  by_cases hread : misread
  · obtain ⟨rfl, rfl, rfl⟩ := hread
    obtain ⟨hsent, hending⟩ :=
      start_misread logger root now ha hurl outlet events
    refine ⟨⟨pairs, hpairs, ?_⟩, iff_of_true hsent (.inl ⟨rfl, rfl, rfl⟩),
      fun _ => hending⟩
    rw [show run.sent = [] from hsent]
    exact fun s hs => nomatch hs
  · have hfirst : run.sent.head? = _ := head?_sent_start_of_named logger root now
      (.of_labels hhost) hport hread ha hurl hpairs outlet events
    refine ⟨⟨pairs, hpairs, fun s hs => ?_⟩, ?_, fun h => absurd h hread⟩
    · rw [hfirst] at hs
      split at hs
      · cases hs
      · obtain ⟨limit, -, rfl⟩ := Option.map_eq_some_iff.mp hs
        rfl
    · rw [← List.head?_eq_none_iff, hfirst, or_iff_right hread]
      split
      · rename_i hl
        exact iff_of_true rfl (.inl hl)
      · rename_i hl
        rw [or_iff_right hl]
        cases a.timeout.check with
        | error f => exact iff_of_true rfl ⟨f, rfl⟩
        | ok limit => exact iff_of_false (Option.some_ne_none _) nofun

section Plain
attribute [local instance] Carrier.plain

/-- A name in capitals is no path: the server is asked, without a port at the
usual one. -/
theorem sent_start_named_capital :
    let run := start logger {} 0
      ["-q=x y".toList, "--url=http://QUERY//".toList, "--db=--".toList]
      .output []
    ∃ s ∈ run.sent.head?, s.destination
      = ⟨false, "query".toList, 80, "/query?pretty=true&q=x+y".toList⟩ := by
  intro run
  have hhost : ∀ label ∈ Text.fields '.' "QUERY".toList,
      label ≠ [] ∧ ∀ c ∈ label, c.isAlphanum = true ∨ c = '-' := by
    have hall : (Text.fields '.' "QUERY".toList).all (fun label =>
        !label.isEmpty && label.all fun c => c.isAlphanum || c == '-')
        = true := by
      decide
    simpa using hall
  have ha : Arguments.read
      ["-q=x y".toList, "--url=http://QUERY//".toList, "--db=--".toList]
        = .ok { url := some (namedAddress false "QUERY".toList none
                  ((if false then queryPath else [])
                    ++ List.replicate 2 '/'))
                db := none, query := some (Text.loose "x y".toList) } := by
    rfl
  have hport : ∀ n ∈ (none : Option Nat), 1 ≤ n ∧ n ≤ 65535 := nofun
  obtain ⟨⟨pairs, hpairs, hdestination⟩, hnone, -⟩ := sent_start_named logger {} 0
    false hhost hport false 2 ha rfl .output []
  have hvalues : pairs
      = [("pretty".toList, "true".toList), ("q".toList, "x y".toList)] :=
    Except.ok.inj ((readPairs_eq_ok_iff.mpr hpairs).symm.trans rfl)
  subst hvalues
  have hne : run.sent ≠ [] := by
    rw [ne_eq, hnone]
    rintro (⟨hquery, -⟩ | hlevel | ⟨f, hf⟩)
    · exact absurd hquery (by decide)
    · cases hlevel
    · cases hf
  obtain ⟨s, hs⟩ := Option.isSome_iff_exists.mp (List.isSome_head?.mpr hne)
  exact ⟨s, hs, hdestination s hs⟩

/-- **A server that is called like the path is not asked**, although its name
is one label of letters. -/
theorem start_misread_query :
    let run := start logger {} 0 ["--url=http://query".toList] .output
      [.reply ⟨200, none, [], []⟩]
    run.sent = [] ∧ run.ending
      = .raised (.request (.noHost "http:/query".toList)) := by
  intro run
  have ha : Arguments.read ["--url=http://query".toList]
      = .ok { url := some (namedAddress false "query".toList none
        (List.replicate 0 '/')) } := by
    rfl
  obtain ⟨hsent, hending⟩ := start_misread logger {} 0 ha rfl .output
    [.reply ⟨200, none, [], []⟩]
  obtain ⟨configured, hl⟩ : ∃ configured,
      ({} : Root).configure (.text Severity.warning.name) .errors
        = some configured := Option.isSome_iff_exists.mp (Root.isSome_configure ..)
  exact ⟨hsent, hending configured hl⟩

end Plain

end Run

end QueryClient
