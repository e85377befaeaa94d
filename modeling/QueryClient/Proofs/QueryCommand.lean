import QueryClient.Exchange.PlainCarrier
import QueryClient.Proofs.CommandLine
import QueryClient.Proofs.FurtherRequests
import QueryClient.Proofs.RunCourse
import QueryClient.Proofs.ServerAddress

/-!
# From the command line to the wire and back

A command line names a server, a database and a query. What it asks for goes
a long way: the arguments are sorted into tokens and read, the address is
trimmed and gets the query path, it is read strictly and put together with
the form text of the named values, all of it is requoted, and the destination
is read off what came of that. `Run.start_queryCommand` says that nothing is
lost on the way, whatever characters the database and the query are made of:
one request goes out, to the server that was named, and its query reads back
as what was asked. If the reply is the last and conveys its own body, that is
all that the run puts out.

That it conveys its body has to be said. One that is cut off is a failure of
sending like others, and nothing of it is put out
(`Run.start_queryCommand_cutOff`).
-/

namespace QueryClient

open Url

/-! ## One request and its reply -/

/-- With a destination and all the time it takes, a hop is ready. -/
theorem Exchange.ready_of_destination [Carrier] {h : Hop} {d : Destination}
    (hd : Destination.ofUrl h.url = .ok d) :
    ready .unlimited h
      = .ok ⟨d, h.method, h.authorization, h.body, none, none⟩ := by
  unfold ready
  rw [hd]
  rfl

namespace Job

variable {j : Job} {q : Request} {s : Sent} {r : Reply} {o : Outlet}

/-- **To a reply that does not ask onward there was one request**, however the
reply is taken. -/
theorem sent_invoke_of_last [Carrier] (hq : j.request = .ok q)
    (hs : Exchange.ready j.timeout (.first q) = .ok s)
    (hr : r.asksOnward = false) (rest : List Event) (o : Outlet) :
    (j.invoke (.wire (.reply r :: rest)) o).sent = [s] := by
  obtain ⟨result, ho⟩ := Exchange.exists_outcome_of_last hs hr rest
  rw [sent_invoke_wire hq, Exchange.run_of_final ho]

/-- **It ends the invocation with status 0 and is delivered exactly if** it conveys
what is delivered. -/
theorem delivered_iff_of_last [Carrier] (hq : j.request = .ok q)
    (hs : Exchange.ready j.timeout (.first q) = .ok s)
    (hr : r.asksOnward = false) (ho : o.isWorking = true) (rest : List Event)
    {octets : List UInt8} :
    (j.invoke (.wire (.reply r :: rest)) o).ending = .ok 0
        ∧ (j.invoke (.wire (.reply r :: rest)) o).written = octets
      ↔ r.Conveys octets := by
  have hsent := sent_invoke_of_last hq hs hr rest o
  have hn : 0 < (j.invoke (.wire (.reply r :: rest)) o).sent.length := by
    rw [hsent]
    exact Nat.zero_lt_one
  have hdelivered : _ ↔ r.asksOnward = false ∧ r.Conveys octets :=
    delivered_iff ho hn rfl
  rw [hr, hsent] at hdelivered
  simpa using hdelivered

end Job

/-! ## The whole run -/

/-- The **command** that asks a server for a query, its address perhaps with
the query path and with slashes at the end. -/
def queryCommand (secure : Bool) (host : Text) (port : Nat) (withPath : Bool)
    (slashes : Nat) (db query : Text) (pretty : Bool) : List Text :=
  Arguments.commandLine
    (serverAddress secure host port
      ((if withPath then queryPath else []) ++ List.replicate slashes '/'))
    db query pretty

/-- The named values that a command asks with. -/
def queryPairs (db query : Text) (pretty : Bool) : List (Text × Text) :=
  (if pretty then [("pretty".toList, "true".toList)] else [])
    ++ [("db".toList, db), ("q".toList, query)]

/-- The job of a command. -/
theorem Arguments.job?_queryCommand (secure : Bool) (host : Text) (port : Nat)
    (withPath : Bool) (slashes : Nat) (db query : Text) (pretty : Bool) :
    ({ url := some (serverAddress secure host port
        ((if withPath then queryPath else []) ++ List.replicate slashes '/'))
       db := some db.loose, query := some query.loose, pretty } : Arguments).job?
      = some ⟨serverAddress secure host port queryPath,
        loosePairs (queryPairs db query pretty), .unlimited⟩ := by
  have hjoin : ∀ rest, serverAddress secure host port rest
      = serverAddress secure host port [] ++ rest := by
    intro rest
    unfold serverAddress
    simp only [List.append_assoc, List.cons_append, List.append_nil]
  -- the address ends in the last digit of the port
  obtain ⟨front, d, hdigits⟩ : ∃ front d, Text.ofNat port = front ++ [d] :=
    ⟨_, _, (List.dropLast_concat_getLast Nat.toDigits_ne_nil).symm⟩
  have hd : d.isDigit = true := by
    refine Text.isDigit_of_mem_ofNat (n := port) ?_
    rw [hdigits]
    exact List.mem_append_right _ (List.mem_cons_self ..)
  have hlast : (serverAddress secure host port []).getLast? = some d := by
    have hend : serverAddress secure host port []
        = webScheme secure ++ ':' :: '/' :: '/' :: (host ++ ':' :: front)
          ++ [d] := by
      unfold serverAddress serverAuthority
      rw [hdigits]
      simp only [List.append_assoc, List.cons_append, List.append_nil]
    rw [hend, List.getLast?_concat]
  rw [hjoin, hjoin queryPath, ← Config.url_baseOf hlast
    (ne_slash_of_isDigit hd) withPath
    (fun _ => not_isSuffixOf_of_isDigit hlast hd) slashes]
  cases pretty
  · rfl
  · rfl

/-- **A command is accepted**, so its run is the invocation of its job. Text
that looks like a flag is no trouble where it is attached to one. -/
theorem Run.exists_start_eq_ofInvocation [Carrier] (logger : Text) (root : Root)
    (now : Nat) (secure : Bool) (host : Text) (port : Nat) (withPath : Bool)
    (slashes : Nat) {db query : Text} (hdb : db ≠ "--".toList)
    (hquery : query ≠ "--".toList) (pretty : Bool) (outlet : Outlet)
    (events : List Event) :
    ∃ configured, start logger root now
        (queryCommand secure host port withPath slashes db query pretty)
        outlet events
      = ofInvocation logger configured now
          (Job.invoke ⟨serverAddress secure host port queryPath,
            loosePairs (queryPairs db query pretty), .unlimited⟩ (.wire events) outlet) := by
  -- an address begins with the letter of a scheme
  have hurl : serverAddress secure host port
      ((if withPath then queryPath else []) ++ List.replicate slashes '/')
        ≠ Arguments.Token.separatorText := by
    cases secure
    · exact fun he => absurd (List.head_eq_of_cons_eq he) (by decide)
    · exact fun he => absurd (List.head_eq_of_cons_eq he) (by decide)
  obtain ⟨configured, hl⟩ : ∃ configured,
      root.configure (.text Severity.warning.name) .errors = some configured :=
    Option.isSome_iff_exists.mp (Root.isSome_configure ..)
  exact ⟨configured, start_of_job
    (Arguments.read_commandLine pretty hurl hdb hquery) hl
    (Arguments.job?_queryCommand secure host port withPath slashes db query
      pretty)⟩

/-- **What a command asks for goes to the server it names**, in one request, if the
reply does not ask onward. If the reply conveys its own body, that is put out, and
the run ends with status 0. -/
theorem Run.start_queryCommand [Carrier] (logger : Text) (root : Root) (now : Nat)
    (secure : Bool) {host : Text}
    (hhost : ∀ label ∈ Text.fields '.' host,
      label ≠ [] ∧ ∀ c ∈ label, c.isAlphanum = true ∨ c = '-')
    {port : Nat} (h1 : 1 ≤ port) (hport : port ≤ 65535) (withPath : Bool)
    (slashes : Nat) {db query : Text} (hdb : db ≠ "--".toList)
    (hquery : query ≠ "--".toList) (pretty : Bool) {r : Reply}
    (hr : r.asksOnward = false) (rest : List Event) :
    let run := start logger root now
      (queryCommand secure host port withPath slashes db query pretty)
      .output (.reply r :: rest)
    (∃ form, run.sent = [{
          destination := ⟨secure, Text.lowerAscii host, port,
            "/query?".toList ++ form⟩
          method := "GET".toList
          authorization := none
          body := none
          connectTimeout := none
          readTimeout := none }]
        ∧ Form.decode form
          = (if pretty then [("pretty".toList, "true".toList)] else [])
            ++ [("db".toList, db), ("q".toList, query)])
      ∧ (r.Conveys r.body → run.output = r.body ∧ run.ending = .returned 0) := by
  intro run
  have hname : IsServerName host := .of_labels hhost
  have hpairs : queryPairs db query pretty ≠ [] :=
    List.append_ne_nil_of_right_ne_nil _ (List.cons_ne_nil _ _)
  obtain ⟨configured, hrun⟩ : ∃ configured, run = ofInvocation logger
      configured now _ :=
    exists_start_eq_ofInvocation logger root now secure host port withPath
      slashes hdb hquery pretty .output (.reply r :: rest)
  obtain ⟨out, hout, hsame, hq⟩ :=
    Request.prepare_queryAddress secure hname h1 hport hpairs
  have hrequest : (⟨serverAddress secure host port queryPath,
      loosePairs (queryPairs db query pretty), .unlimited⟩ : Job).request
        = .ok _ := hq
  have hdestination := Destination.ofUrl_queryAddress secure hout h1 hport hpairs
  rw [hsame] at hdestination
  have hready := Exchange.ready_of_destination
    (h := .first ⟨Request.getMethod, _, none, none⟩) hdestination
  refine ⟨⟨Form.encode (queryPairs db query pretty), ?_,
    Form.decode_encode hpairs⟩, fun hw => ?_⟩
  · rw [hrun]
    exact Job.sent_invoke_of_last hrequest hready hr rest .output
  · obtain ⟨hending, hwritten⟩ :=
      (Job.delivered_iff_of_last (o := .output) hrequest hready hr rfl rest).mpr hw
    rw [hrun, ending_ofInvocation, hending]
    exact ⟨hwritten, rfl⟩

section Plain
attribute [local instance] Carrier.plain

/-- A reply with a body and nothing announced. -/
def plainReply : Reply :=
  ⟨400, none, [], [0x7B, 0x7D]⟩

/-- A query that looks like a flag and like form text is asked as it is, of
a server whose name is put in lower case, and what that replies is put out. -/
theorem Run.start_queryCommand_flagLike :
    let run := start logger {} 0
      (queryCommand true "Metrics.Example-1".toList 8086 true 2
        "%41&".toList "--q=a+b\n#".toList false)
      .output [.reply plainReply]
    (∃ form, run.sent.map (·.destination)
        = [⟨true, "metrics.example-1".toList, 8086, "/query?".toList ++ form⟩]
        ∧ Form.decode form
          = [("db".toList, "%41&".toList), ("q".toList, "--q=a+b\n#".toList)])
      ∧ run.output = plainReply.body ∧ run.ending = .returned 0 := by
  intro run
  have hhost : ∀ label ∈ Text.fields '.' "Metrics.Example-1".toList,
      label ≠ [] ∧ ∀ c ∈ label, c.isAlphanum = true ∨ c = '-' := by
    have hall : (Text.fields '.' "Metrics.Example-1".toList).all (fun label =>
        !label.isEmpty && label.all fun c => c.isAlphanum || c == '-')
        = true := by
      decide
    simpa using hall
  have hport : 1 ≤ 8086 ∧ 8086 ≤ 65535 := by decide
  have hdb : "%41&".toList ≠ "--".toList := by decide
  have hquery : "--q=a+b\n#".toList ≠ "--".toList := by decide
  have hw : plainReply.Conveys plainReply.body := ⟨⟨nofun, rfl⟩, nofun, rfl, rfl⟩
  obtain ⟨⟨form, hsent, hform⟩, hconveys⟩ := start_queryCommand logger {} 0 true
    hhost hport.1 hport.2 true 2 hdb hquery false (r := plainReply) rfl []
  exact ⟨⟨form, by rw [show run.sent = _ from hsent]; rfl, hform⟩, hconveys hw⟩

/-- A reply whose body is cut off: ten octets are announced, and three are
there. -/
def cutReply : Reply :=
  ⟨200, some "OK".toList, [("Content-Length".toList, "10".toList)],
    [0x61, 0x62, 0x63]⟩

/-- **A reply that does not ask onward is not enough**: of one that is cut off
nothing is put out, and the run ends with status 1. -/
theorem Run.start_queryCommand_cutOff :
    let run := start logger {} 0 (queryCommand false "localhost".toList 8086 false
      0 "d".toList "q".toList true) .output [.reply cutReply]
    cutReply.asksOnward = false ∧ run.ending = .returned 1 ∧ run.output = [] := by
  intro run
  have hstatus : run.ending.status? = some 1 ∧ run.output = [] := by
    decide +kernel
  exact ⟨rfl, Ending.eq_returned_of_status? hstatus.1, hstatus.2⟩

end Plain

end QueryClient
