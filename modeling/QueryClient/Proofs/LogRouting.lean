import Mathlib.Data.List.DropRight
import QueryClient.Log.Steps

/-!
# Where the log goes

Handlers come and go while a process lasts, and several of them may write to
one stream. What stands on a stream in the end can still be told from the
steps alone. Of the steps before a note only two things count: the last
setting-up that succeeded, which gives the threshold and the first handler,
and the handlers added since. `Root.afterAll_fresh` says that the log comes to
just that after any steps, by induction on the last of them, and
`Root.writesAll_routed` that a stream holds one line for each note that is
enabled and each handler then on the stream.

A note is enabled at or above the threshold, but only above zero. A threshold
of zero or below does not bring out notes at or below zero
(`Root.writesAll_level_zero`).
-/

namespace QueryClient.Root

/-! ## What the steps before say -/

namespace Step

/-- What the step **sets the log up** with, if it does. -/
def setUp? : Step → Option (Threshold × Stream)
  | .configure level stream => (Threshold.ofValue? level).map (·, stream)
  | .addHandler _ | .note _ _ => none

/-- The stream that the step **adds** a handler on. -/
def added? : Step → Option Stream
  | .addHandler stream => some stream
  | .configure _ _ | .note _ _ => none

/-- Whether there is a handler on the stream because of the step. -/
def Attaches (s : Step) (S : Stream) : Prop :=
  s.added? = some S ∨ ∃ t, s.setUp? = some (t, S)

end Step

/-- The **last setting-up** that succeeded. -/
def lastSetUp? (history : List Step) : Option (Threshold × Stream) :=
  (history.filterMap Step.setUp?).getLast?

/-- The streams that handlers were added on **since** then. -/
def addedSince (history : List Step) : List Stream :=
  (history.rtakeWhile (·.setUp?.isNone)).filterMap Step.added?

/-- The threshold that the steps leave: that of the last setting-up, and
`WARNING` if there was none. -/
def levelAfter (history : List Step) : Int :=
  (lastSetUp? history).elim Severity.warning.number (·.1.value)

/-- The handlers that the steps leave: that of the last setting-up, and those
added since. -/
def handlersAfter (history : List Step) : List Handler :=
  ((lastSetUp? history).map fun x => ⟨x.2, .full⟩).toList
    ++ (addedSince history).map (⟨·, .bare⟩)

theorem lastSetUp?_concat (history : List Step) (s : Step) :
    lastSetUp? (history ++ [s]) = s.setUp?.or (lastSetUp? history) := by
  rw [lastSetUp?, List.filterMap_append, List.getLast?_append]
  cases hs : s.setUp? with
  | none => simp [lastSetUp?, hs]
  | some x => simp [hs]

theorem addedSince_concat (history : List Step) (s : Step) :
    addedSince (history ++ [s])
      = if s.setUp?.isNone then addedSince history ++ s.added?.toList
        else [] := by
  rw [addedSince, List.rtakeWhile_concat]
  split
  · rw [List.filterMap_append]
    cases hs : s.added? with
    | none => simp [addedSince, hs]
    | some stream => simp [addedSince, hs]
  · rfl

/-- A step that does not set the log up leaves the threshold, and its handler
comes behind those there are. -/
theorem after_of_setUp?_eq_none {s : Step} (hs : s.setUp? = none) (r : Root) :
    r.after s
      = ⟨r.threshold, r.handlers ++ (s.added?.map (⟨·, .bare⟩)).toList⟩ := by
  cases s with
  | addHandler stream => rfl
  | note now n => simp [after, Step.added?]
  | configure level stream =>
    have hl : Threshold.ofValue? level = none := Option.map_eq_none_iff.mp hs
    simp [after, configure_eq, hl, Step.added?]

/-- A step that does leaves one handler. -/
theorem after_of_setUp?_eq_some {s : Step} {t : Threshold} {stream : Stream}
    (hs : s.setUp? = some (t, stream)) (r : Root) :
    r.after s = ⟨t, [⟨stream, .full⟩]⟩ := by
  cases s with
  | addHandler _ => cases hs
  | note _ _ => cases hs
  | configure level _ =>
    obtain ⟨t', hl, ht⟩ := Option.map_eq_some_iff.mp hs
    cases ht
    simp [after, configure_eq, hl]

/-- **What the log comes to** after steps is what the steps say: the last
setting-up and what was added since. -/
theorem afterAll_fresh (history : List Step) :
    (({} : Root).afterAll history).threshold.value = levelAfter history
      ∧ (({} : Root).afterAll history).handlers = handlersAfter history := by
  induction history using List.reverseRecOn with
  | nil => exact ⟨rfl, rfl⟩
  | append_singleton history s ih =>
    obtain ⟨hthreshold, hhandlers⟩ := ih
    rw [afterAll_append, afterAll_cons, afterAll_nil, levelAfter, handlersAfter,
      lastSetUp?_concat, addedSince_concat]
    cases hs : s.setUp? with
    | none =>
      rw [after_of_setUp?_eq_none hs, hhandlers, hthreshold]
      refine ⟨rfl, ?_⟩
      rw [Option.isNone_none, if_pos rfl, Option.none_or, List.map_append,
        ← List.append_assoc]
      cases s.added? <;> rfl
    | some x =>
      rw [after_of_setUp?_eq_some hs]
      exact ⟨rfl, rfl⟩

/-! ## Lines on a stream -/

/-- The **lines** that a step makes on a stream after the steps before it: for
a note that is enabled one by each handler on the stream. Without any handler
notes from `WARNING` on go bare to the stream for errors. -/
def linesOn (S : Stream) (history : List Step) : Step → List Text
  | .configure _ _ | .addHandler _ => []
  | .note now n =>
    if 0 < n.level ∧ levelAfter history ≤ n.level then
      if handlersAfter history = [] then
        if S = .errors ∧ Severity.warning.number ≤ n.level then
          [Layout.bare.write now n]
        else []
      else ((handlersAfter history).filter (·.stream == S)).map
        (·.layout.write now n)
    else []

/-- What handlers write on a stream is the lines of those that are on it. -/
theorem textOn_map_write (S : Stream) (handlers : List Handler) (now : Nat)
    (n : Note) :
    textOn S (handlers.map (Handler.write now n))
      = ((handlers.filter (·.stream == S)).map (·.layout.write now n)).flatten := by
  rw [textOn, List.filter_map, List.flatMap_map, ← List.flatMap_def]
  rfl

/-- Without a handler a note that is enabled goes to the stream for errors, if it
is grave enough. -/
theorem emit_of_handlers_eq_nil {r : Root} {n : Note}
    (h : r.enables n.level = true) (hr : r.handlers = []) (now : Nat) :
    r.emit now n
      = if Severity.warning.number ≤ n.level then
          [⟨.errors, Layout.bare.write now n⟩]
        else [] := by
  rw [emit, h, hr]
  rfl

/-- On a stream that is one line or none. -/
theorem textOn_lastResort (S : Stream) (now : Nat) (n : Note) :
    textOn S (if Severity.warning.number ≤ n.level then
        [⟨.errors, Layout.bare.write now n⟩] else [])
      = (if S = .errors ∧ Severity.warning.number ≤ n.level then
          [Layout.bare.write now n] else []).flatten := by
  by_cases hlevel : Severity.warning.number ≤ n.level
  · cases S <;> simp [textOn, hlevel]
  · simp [hlevel]

/-- A step writes its lines. -/
theorem textOn_writes (S : Stream) (history : List Step) (s : Step) :
    textOn S ((({} : Root).afterAll history).writes s)
      = (linesOn S history s).flatten := by
  cases s with
  | configure level stream => rfl
  | addHandler stream => rfl
  | note now n =>
    obtain ⟨hthreshold, hhandlers⟩ := afterAll_fresh history
    rw [writes, linesOn]
    by_cases hn : 0 < n.level ∧ levelAfter history ≤ n.level
    · have henables : (({} : Root).afterAll history).enables n.level = true := by
        simp [enables, hthreshold, hn]
      rw [if_pos hn]
      by_cases hnone : handlersAfter history = []
      · rw [if_pos hnone, emit_of_handlers_eq_nil henables (hhandlers.trans hnone)]
        exact textOn_lastResort S now n
      · rw [if_neg hnone, emit_of_enables henables (hhandlers ▸ hnone),
          textOn_map_write, hhandlers]
    · have hdisabled : (({} : Root).afterAll history).enables n.level = false := by
        simpa [enables, hthreshold] using hn
      rw [if_neg hn, emit_of_not_enables hdisabled]
      rfl

/-- The **lines** that all the steps make on a stream, each with the steps
before it at hand. -/
def linesOf (S : Stream) (steps : List Step) : List Text :=
  (List.range steps.length).flatMap fun i =>
    steps[i]?.elim [] (linesOn S (steps.take i))

theorem linesOf_concat (S : Stream) (steps : List Step) (s : Step) :
    linesOf S (steps ++ [s]) = linesOf S steps ++ linesOn S steps s := by
  rw [linesOf, List.length_append, List.length_singleton, List.range_succ,
    List.flatMap_append, List.flatMap_singleton, List.getElem?_concat_length,
    List.take_left]
  congr 1
  refine List.flatMap_congr fun i hi => ?_
  have hlt : i < steps.length := List.mem_range.mp hi
  rw [List.getElem?_append_left hlt,
    List.take_append_of_le_length (Nat.le_of_lt hlt)]

/-- **A stream holds the lines of the steps**, in their order. -/
theorem textOn_writesAll (S : Stream) (steps : List Step) :
    textOn S (({} : Root).writesAll steps) = (linesOf S steps).flatten := by
  induction steps using List.reverseRecOn with
  | nil => rfl
  | append_singleton steps s ih =>
    rw [writesAll_append, textOn_append, ih, writesAll_cons, writesAll_nil,
      List.append_nil, textOn_writes, linesOf_concat, List.flatten_append]

/-! ## Streams without a handler -/

/-- Whether the stream is **cut off** from the log: there are handlers, but none
on it. -/
structure IsCutOff (r : Root) (S : Stream) : Prop where
  /-- There is a handler, so the stream for errors is no last resort. -/
  handlers_ne_nil : r.handlers ≠ []
  /-- No handler is on the stream. -/
  ne : ∀ h ∈ r.handlers, h.stream ≠ S

namespace IsCutOff

variable {r : Root} {S : Stream} {s : Step} {steps : List Step}

/-- A step writes nothing on a stream that is cut off. -/
theorem textOn_writes (h : r.IsCutOff S) (s : Step) :
    textOn S (r.writes s) = [] := by
  cases s with
  | configure level stream => rfl
  | addHandler stream => rfl
  | note now n =>
    rw [writes]
    cases hn : r.enables n.level with
    | false => rw [emit_of_not_enables hn, textOn_nil]
    | true =>
      have hnone : r.handlers.filter (·.stream == S) = [] :=
        List.filter_eq_nil_iff.mpr fun x hx => by simpa using h.ne x hx
      rw [emit_of_enables hn h.handlers_ne_nil, textOn_map_write, hnone]
      rfl

/-- It stays cut off until a step attaches it. -/
theorem after (h : r.IsCutOff S) (hs : ¬s.Attaches S) :
    (r.after s).IsCutOff S := by
  cases hset : s.setUp? with
  | none =>
    rw [after_of_setUp?_eq_none hset]
    refine ⟨List.append_ne_nil_of_left_ne_nil h.handlers_ne_nil _, ?_⟩
    intro x hx
    obtain hx | hx := List.mem_append.mp hx
    · exact h.ne x hx
    · obtain ⟨stream, hadded, rfl⟩ :=
        Option.map_eq_some_iff.mp (Option.mem_toList.mp hx)
      rintro rfl
      exact hs (.inl hadded)
  | some x =>
    obtain ⟨t, stream⟩ := x
    rw [after_of_setUp?_eq_some hset]
    refine ⟨List.cons_ne_nil _ _, ?_⟩
    simp only [List.mem_singleton, forall_eq]
    rintro rfl
    exact hs (.inr ⟨t, hset⟩)

/-- **Until then nothing goes there.** -/
theorem textOn_writesAll (h : r.IsCutOff S) (hs : ∀ s ∈ steps, ¬s.Attaches S) :
    textOn S (r.writesAll steps) = [] := by
  induction steps generalizing r with
  | nil => rfl
  | cons s steps ih =>
    rw [List.forall_mem_cons] at hs
    rw [writesAll_cons, textOn_append, h.textOn_writes, ih (h.after hs.1) hs.2]
    rfl

end IsCutOff

/-! ## Whole histories -/

/-- **The log goes where its history says.** A stream holds, in the order of the
steps, one line for each note that is enabled and each handler then on the
stream, and nothing else; which handlers these are and what is enabled comes
from the last setting-up that succeeded and from what was added since.

In particular, a stream that is not among those of a new setting-up gets nothing
more until it is attached again, and a setting-up that fails makes no difference
to any stream. -/
theorem writesAll_routed (S : Stream) :
    (∀ steps : List Step,
      textOn S (({} : Root).writesAll steps) = (linesOf S steps).flatten)
    ∧ (∀ (before rest : List Step) (level : Value) (stream : Stream),
      (Threshold.ofValue? level).isSome = true → stream ≠ S →
      (∀ s ∈ rest, ¬s.Attaches S) →
      textOn S (({} : Root).writesAll (before ++ .configure level stream :: rest))
        = textOn S (({} : Root).writesAll before))
    ∧ ∀ (before rest : List Step) (level : Value) (stream : Stream),
      Threshold.ofValue? level = none →
      ({} : Root).writesAll (before ++ .configure level stream :: rest)
        = ({} : Root).writesAll (before ++ rest) := by
  refine ⟨textOn_writesAll S, ?_, ?_⟩
  · intro before rest level stream hl hne hrest
    obtain ⟨t, ht⟩ := Option.isSome_iff_exists.mp hl
    have hset : (Step.configure level stream).setUp? = some (t, stream) := by
      rw [Step.setUp?, ht]
      rfl
    rw [writesAll_append, textOn_append, writesAll_cons,
      after_of_setUp?_eq_some hset]
    have hcut : IsCutOff ⟨t, [⟨stream, .full⟩]⟩ S :=
      ⟨List.cons_ne_nil _ _, by simpa using hne⟩
    have hnone := hcut.textOn_writesAll hrest
    rw [writes, List.nil_append, hnone, List.append_nil]
  · intro before rest level stream hl
    have hafter : (({} : Root).afterAll before).after (.configure level stream)
        = ({} : Root).afterAll before := by
      rw [after, configure_eq, hl]
      rfl
    rw [writesAll_append, writesAll_cons, hafter, writes, List.nil_append,
      writesAll_append]

/-- Once the log has moved to another stream, where it has two handlers then, the
first stream keeps the one line it has; and a level that is none changes nothing
of that. -/
theorem writesAll_routed_moved :
    let first := Stream.named "first".toList
    let second := Stream.named "second".toList
    let before := [Step.configure (.text "debug".toList) first,
      .note 0 ⟨"a".toList, 10, "one".toList⟩]
    let rest := [Step.addHandler second, .note 0 ⟨"a".toList, 30, "two".toList⟩]
    let info := Value.text "info".toList
    let loud := Value.text "loud".toList
    (Threshold.ofValue? info).isSome = true ∧ second ≠ first
      ∧ (∀ s ∈ rest, ¬s.Attaches first)
      ∧ textOn first (({} : Root).writesAll
          (before ++ .configure info second :: rest))
        = textOn first (({} : Root).writesAll before)
      ∧ textOn first (({} : Root).writesAll before)
        = "1970-01-01 00:00:00,000 - a - DEBUG - one\n".toList
      ∧ textOn second (({} : Root).writesAll
          (before ++ .configure info second :: rest))
        = "1970-01-01 00:00:00,000 - a - WARNING - two\ntwo\n".toList
      ∧ Threshold.ofValue? loud = none
      ∧ ({} : Root).writesAll (before ++ .configure loud second :: rest)
        = ({} : Root).writesAll (before ++ rest) := by
  intro first second before rest info loud
  have hinfo : (Threshold.ofValue? info).isSome = true := by decide
  have hne : second ≠ first := by decide
  have hrest : ∀ s ∈ rest, ¬s.Attaches first := by
    have hadded : ∀ s ∈ rest, s.added? ≠ some first := by decide
    have hset : ∀ s ∈ rest, s.setUp? = none := by decide
    rintro s hs (h | ⟨t, h⟩)
    · exact hadded s hs h
    · rw [hset s hs] at h
      cases h
  have hloud : Threshold.ofValue? loud = none := by decide
  obtain ⟨-, hmoved, hfailed⟩ := writesAll_routed first
  exact ⟨hinfo, hne, hrest, hmoved before rest info second hinfo hne hrest,
    by decide +kernel, by decide +kernel, hloud,
    hfailed before rest loud second hloud⟩

/-- **A note at a threshold of zero is not written**: there is a handler, and the
note is no less grave than the threshold asks for, but it is not above zero. -/
theorem writesAll_level_zero :
    let S := Stream.named "s".toList
    let setUp := Step.configure (.int 0) S
    let n : Note := ⟨"a".toList, 0, "one".toList⟩
    levelAfter [setUp] ≤ n.level ∧ handlersAfter [setUp] = [⟨S, .full⟩]
      ∧ textOn S (({} : Root).writesAll [setUp, .note 0 n]) = [] := by
  decide +kernel

end QueryClient.Root
