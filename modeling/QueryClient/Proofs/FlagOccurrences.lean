import QueryClient.Proofs.FlagSpellings
import QueryClient.Proofs.TokenReading

/-!
# Flags that occur one after the other

A flag can be written in many ways, and it can occur more than once, anywhere
among the others. What counts is the value with which it occurs last, and
nothing else: not the order of different flags, and not how each is written.

`Arguments.settled` reads the arguments off the last values alone. Each occurrence
at the end of a command line is one step of reading, however it is written
(`Flag.Writes.read_append`), and the step is the one that the last values make
(`put_settled`). So a command line of occurrences is read as what it settles
(`read_occurrences`).
-/

namespace QueryClient.Arguments

/-! ## Occurrences -/

/-- The ways in which a flag is **written** with a value: behind `=`, as the next
argument, or run together with the short flag of the query. A value that begins
with a hyphen and goes on behind it is not written as an argument of its own, and
one that would be dropped is not written at all. The flag without a value is
written alone. -/
inductive Flag.Writes : Flag → Text → List Text → Prop
  | attached {f : Flag} {t v : Text} (ht : f.Spells t) (hf : f.takesValue = true)
      (hv : v ≠ Token.separatorText) : Writes f v [t ++ '=' :: v]
  | detached {f : Flag} {t v : Text} (ht : f.Spells t) (hf : f.takesValue = true)
      (hv : v = ['-'] ∨ v.head? ≠ some '-') : Writes f v [t, v]
  | joined {v : Text} (hne : v ≠ []) (heq : v.head? ≠ some '=')
      (hv : v ≠ Token.separatorText) : Writes .query v ["-q".toList ++ v]
  | plain {t : Text} (ht : Flag.noPretty.Spells t) : Writes .noPretty [] [t]

/-- Whether the flag **admits** the value: a waiting time is a number, and a
threshold is the name of a level in capitals or not. -/
def Flag.Admits : Flag → Text → Prop
  | .timeout, v => (Binary64.ofText? v).isSome = true
  | .logLevel, v => ∃ s : Severity, Text.upper v = s.name
  | _, _ => True

/-- An **occurrence** of a flag on a command line. -/
structure Occurrence where
  /-- The flag. -/
  flag : Flag
  /-- Its value. -/
  value : Text
  /-- The arguments that write it. -/
  written : List Text
  /-- They do. -/
  writes : flag.Writes value written
  /-- The value is one for the flag. -/
  admits : flag.Admits value

/-- The value with which the flag **occurs last**. -/
def lastValue? (f : Flag) (l : List Occurrence) : Option Text :=
  (l.filter (·.flag = f)).getLast?.map (·.value)

/-- What occurrences of flags **settle**: each field is the last value of its flag,
or the default where the flag does not occur. -/
def settled (l : List Occurrence) : Arguments where
  url := some ((lastValue? .url l).getD defaultBaseUrl)
  db := some ((lastValue? .db l).getD defaultDatabase)
  query := some ((lastValue? .query l).getD defaultQuery)
  pretty := (lastValue? .noPretty l).isNone
  timeout :=
    ((lastValue? .timeout l).bind Binary64.ofText?).elim .unlimited .seconds
  logLevel :=
    some (((lastValue? .logLevel l).map Text.upper).getD Severity.warning.name)

/-- The last value is that of the occurrence at the end, or of those in front. -/
theorem lastValue?_concat (f : Flag) (l : List Occurrence) (o : Occurrence) :
    lastValue? f (l ++ [o])
      = if o.flag = f then some o.value else lastValue? f l := by
  unfold lastValue?
  rw [List.filter_append]
  by_cases h : o.flag = f <;> simp [h]

/-- A flag has a last value if it occurs. -/
theorem lastValue?_eq_none_iff {f : Flag} {l : List Occurrence} :
    lastValue? f l = none ↔ ∀ o ∈ l, o.flag ≠ f := by
  simp [lastValue?]

/-- The last value is one of those with which the flag occurs. -/
theorem exists_mem_of_lastValue? {f : Flag} {l : List Occurrence} {v : Text}
    (h : lastValue? f l = some v) : ∃ o ∈ l, o.flag = f ∧ o.value = v := by
  obtain ⟨o, ho, rfl⟩ := Option.map_eq_some_iff.mp h
  obtain ⟨hmem, hflag⟩ := List.mem_filter.mp (List.mem_of_getLast? ho)
  exact ⟨o, hmem, of_decide_eq_true hflag, rfl⟩

/-! ## One occurrence -/

namespace Flag.Writes

variable {f : Flag} {v : Text} {written : List Text}

/-- No value that is written would be dropped. -/
theorem ne_separatorText (h : f.Writes v written) : v ≠ Token.separatorText := by
  cases h with
  | attached ht hf hv => exact hv
  | detached ht hf hv =>
    rintro rfl
    revert hv
    decide
  | joined hne heq hv => exact hv
  | plain ht => decide

/-- **However a flag is written**, it is one step of reading. -/
theorem exists_ofArguments (h : f.Writes v written) :
    ∃ tokens, Token.ofArguments written = .ok tokens
      ∧ valueFollows tokens = false
      ∧ ∀ r, readTokens r tokens
        = (r.arguments.put f v).map fun a => { r with arguments := a } := by
  cases h with
  | attached ht hf hv =>
    obtain ⟨spelling, -, hflag⟩ := Token.exists_ofText_of_spells ht
    exact ⟨_, Token.ofArguments_cons (hflag v) rfl, rfl,
      fun r => readTokens_attached hf r spelling v⟩
  | detached ht hf hv =>
    obtain ⟨spelling, hflag, -⟩ := Token.exists_ofText_of_spells ht
    exact ⟨_, Token.ofArguments_cons hflag
        (Token.ofArguments_cons (Token.ofText_of_head?_ne hv) rfl), rfl,
      fun r => readTokens_detached hf r spelling v⟩
  | joined hne heq hv =>
    exact ⟨_, Token.ofArguments_cons (Token.ofText_joined hne heq) rfl, rfl,
      fun r => readTokens_attached rfl r _ v⟩
  | plain ht =>
    obtain ⟨spelling, hflag, -⟩ := Token.exists_ofText_of_spells ht
    exact ⟨_, Token.ofArguments_cons hflag rfl, rfl,
      fun r => readTokens_plain rfl r spelling []⟩

/-- **Written at the end of a command line**, a flag is accepted just if what
stands in front is and the value is one for the flag. -/
theorem read_append (h : f.Writes v written) {arguments : List Text}
    {a : Arguments} :
    read (arguments ++ written) = .ok a
      ↔ ∃ b, read arguments = .ok b ∧ b.put f v = .ok a := by
  obtain ⟨tokens, htokens, hcut, hstep⟩ := h.exists_ofArguments
  exact Arguments.read_append (·.put f v) htokens hcut hstep

end Flag.Writes

/-! ## All occurrences -/

/-- **An occurrence more** settles what it comes to in what was settled before. -/
theorem put_settled (l : List Occurrence) (o : Occurrence) :
    (settled l).put o.flag o.value = .ok (settled (l ++ [o])) := by
  obtain ⟨f, v, written, hwrites, hadmits⟩ := o
  have hkept : kept v = some v := kept_of_ne hwrites.ne_separatorText
  cases f with
  | help => cases hwrites <;> contradiction
  | url | db | query =>
    simp [put, Flag.takesValue, set, settled, lastValue?_concat, hkept]
  | noPretty => simp [put, Flag.takesValue, mark, settled, lastValue?_concat]
  | timeout =>
    obtain ⟨x, hx⟩ := Option.isSome_iff_exists.mp hadmits
    simp [put, Flag.takesValue, set, settled, lastValue?_concat, hkept,
      readTimeout, hx]
  | logLevel =>
    obtain ⟨s, hs⟩ := hadmits
    have hname : Severity.ofName? s.name = some s :=
      Severity.ofName?_eq_some_iff.mpr rfl
    simp [put, Flag.takesValue, set, settled, lastValue?_concat, hkept, readLevel,
      hs, hname]

/-- The values that occur last are all that is looked at. -/
theorem settled_congr {l l' : List Occurrence}
    (h : ∀ f, lastValue? f l = lastValue? f l') : settled l = settled l' := by
  simp only [settled, h]

/-- **A command line of occurrences** is read as what they settle. -/
theorem read_written (l : List Occurrence) :
    read (l.flatMap (·.written)) = .ok (settled l) := by
  induction l using List.reverseRecOn with
  | nil => rfl
  | append_singleton l o ih =>
    rw [List.flatMap_append, List.flatMap_singleton]
    exact o.writes.read_append.mpr ⟨_, ih, put_settled l o⟩

/-- **The last one of its kind counts**, and nothing else does. A command line on
which flags occur, each written in any of its ways, is accepted, and it is read as
what they settle: the last value of each flag, or else the default. The answer is
not laid out just if the flag for that occurs, and a waiting time is the number
that its last value writes. Occurrences with the same last values come to the
same, in whatever order and however written. -/
theorem read_occurrences (l : List Occurrence) :
    read (l.flatMap (·.written)) = .ok (settled l)
      ∧ ((settled l).pretty = false ↔ ∃ o ∈ l, o.flag = .noPretty)
      ∧ (∀ v, lastValue? .timeout l = some v →
          ∃ x, Binary64.ofText? v = some x ∧ (settled l).timeout = .seconds x)
      ∧ ∀ l', (∀ f, lastValue? f l = lastValue? f l') →
          read (l.flatMap (·.written)) = read (l'.flatMap (·.written)) := by
  refine ⟨read_written l, ?_, fun v hv => ?_, fun l' h => ?_⟩
  · have hnone := lastValue?_eq_none_iff (f := .noPretty) (l := l)
    rw [show (settled l).pretty = (lastValue? .noPretty l).isNone from rfl,
      Option.isNone_eq_false_iff, Option.isSome_iff_ne_none, ne_eq, hnone]
    simp
  · obtain ⟨o, -, hflag, rfl⟩ := exists_mem_of_lastValue? hv
    have hadmits := o.admits
    rw [hflag] at hadmits
    obtain ⟨x, hx⟩ := Option.isSome_iff_exists.mp hadmits
    exact ⟨x, hx, by simp [settled, hv, hx]⟩
  · rw [read_written, read_written, settled_congr h]

/-- The query that occurs last counts, though it looks like a flag. The other
command line names the same last values, in another order, and writes them
otherwise. -/
theorem read_occurrences_reordered :
    ∃ l l' : List Occurrence,
      l.flatMap (·.written) = ["-qSELECT 1".toList, "--t".toList, "5".toList,
        "--no-".toList, "--q=--no-pretty".toList, "--log-l=error".toList]
      ∧ l'.flatMap (·.written) = ["--log-level".toList, "error".toList,
        "--query=--no-pretty".toList, "--no-pretty".toList, "--timeout=5".toList]
      ∧ (∀ f, lastValue? f l = lastValue? f l')
      ∧ read (l.flatMap (·.written)) = read (l'.flatMap (·.written))
      ∧ ∃ a x, read (l.flatMap (·.written)) = .ok a
        ∧ a.url = some defaultBaseUrl
        ∧ a.query = some "--no-pretty".toList
        ∧ a.pretty = false
        ∧ Binary64.ofText? "5".toList = some x ∧ a.timeout = .seconds x
        ∧ a.logLevel = some Severity.error.name := by
  have five : (Binary64.ofText? "5".toList).isSome = true := by decide +kernel
  have error : Flag.Admits .logLevel "error".toList := ⟨.error, by decide +kernel⟩
  let l : List Occurrence := [
    ⟨.query, "SELECT 1".toList, _, .joined (by decide) (by decide) (by decide),
      trivial⟩,
    ⟨.timeout, "5".toList, _, .detached (t := "--t".toList) (by decide) rfl
      (by decide), five⟩,
    ⟨.noPretty, [], _, .plain (t := "--no-".toList) (by decide), trivial⟩,
    ⟨.query, "--no-pretty".toList, _, .attached (t := "--q".toList) (by decide) rfl
      (by decide), trivial⟩,
    ⟨.logLevel, "error".toList, _, .attached (t := "--log-l".toList) (by decide)
      rfl (by decide), error⟩]
  let l' : List Occurrence := [
    ⟨.logLevel, "error".toList, _, .detached (t := "--log-level".toList)
      (by decide) rfl (by decide), error⟩,
    ⟨.query, "--no-pretty".toList, _, .attached (t := "--query".toList)
      (by decide) rfl (by decide), trivial⟩,
    ⟨.noPretty, [], _, .plain (t := "--no-pretty".toList) (by decide), trivial⟩,
    ⟨.timeout, "5".toList, _, .attached (t := "--timeout".toList) (by decide) rfl
      (by decide), five⟩]
  have hlast : ∀ f, lastValue? f l = lastValue? f l' := by
    intro f
    cases f <;> rfl
  obtain ⟨hread, hpretty, htimeout, hsame⟩ := read_occurrences l
  obtain ⟨x, hx, hseconds⟩ := htimeout "5".toList rfl
  exact ⟨l, l', rfl, rfl, hlast, hsame l' hlast, settled l, x, hread, rfl, rfl,
    hpretty.mpr (by simp [l]), hx, hseconds, rfl⟩

end QueryClient.Arguments
