import Mathlib.Data.List.Induction
import QueryClient.Config.Steps

/-!
# What replacements leave

Whoever works with a config may ask it, compare it, try to assign to it, and spoil
what it has answered, in any order. None of this shows later. What shows are the
replacements that succeeded, and of those only the last for each field.

A replacement is all or nothing, and whether it succeeds does not depend on the
config: something is wrong with one of its edits, or nothing is
(`edited_eq`). So the edits that are **made** can be read off the steps alone, and
with them what stands in each field (`lastValue?`). `get_after` says that this is
what the steps come to, and `answers_drop` that later answers depend on nothing
else.
-/

namespace QueryClient.Config

/-! ## Fields -/

/-- The **fields** of a config. -/
inductive Field where
  /-- The address of the server. -/
  | baseUrl
  /-- The path on the server. -/
  | path
  /-- The database asked. -/
  | database
  /-- The query. -/
  | query
  /-- Whether the answer shall be laid out for reading. -/
  | pretty
  /-- How many seconds to wait. -/
  | timeout

/-- What can **stand in** a field. -/
abbrev Field.Value : Field → Type
  | .baseUrl | .path => Text
  | .database | .query => LooseText
  | .pretty => Bool
  | .timeout => Option Binary64

/-- What **stands in** a field of the config. -/
def get (c : Config) : (f : Field) → f.Value
  | .baseUrl => c.baseUrl
  | .path => c.path
  | .database => c.database
  | .query => c.query
  | .pretty => c.pretty
  | .timeout => c.timeout

/-- The config with given **fields**. -/
def ofFields (value : (f : Field) → f.Value) : Config where
  baseUrl := value .baseUrl
  path := value .path
  database := value .database
  query := value .query
  pretty := value .pretty
  timeout := value .timeout

@[simp] theorem get_ofFields (value : (f : Field) → f.Value) (f : Field) :
    (ofFields value).get f = value f := by
  cases f <;> rfl

/-- A config is what stands in its fields. -/
@[simp] theorem ofFields_get (c : Config) : ofFields c.get = c := rfl

/-! ## Edits -/

/-- What the edit **gives** to a field, if it is of that field. -/
def Edit.value? : Edit → (f : Field) → Option f.Value
  | .baseUrl t, .baseUrl => some t
  | .path t, .path => some t
  | .database t, .database => some t
  | .query t, .query => some t
  | .pretty b, .pretty => some b
  | .timeout x, .timeout => some x
  | _, _ => none

/-- What is **wrong** with an edit: there is no such field. -/
def Edit.fault? : Edit → Option Fault
  | .unknown name => some (.unknownField name)
  | _ => none

/-- Whether nothing is wrong with the edit. -/
def Edit.canBeMade (e : Edit) : Bool :=
  e.fault?.isNone

/-- The config with an edit **made**: what it gives to a field stands there, and
the other fields are as they were. -/
def override (c : Config) (e : Edit) : Config :=
  ofFields fun f => (e.value? f).getD (c.get f)

/-- **An edit is made unless something is wrong with it.** -/
theorem apply_eq (c : Config) (e : Edit) :
    c.apply e = e.fault?.elim (.ok (c.override e)) .error := by
  cases e <;> rfl

/-- What is wrong with a **replacement**: what is wrong with the first edit of no
field there is. -/
def faultIn? (edits : List Edit) : Option Fault :=
  edits.findSome? Edit.fault?

/-- **A replacement is all or nothing**, and which of them does not depend on the
config. -/
theorem edited_eq (c : Config) (edits : List Edit) :
    c.edited edits
      = (faultIn? edits).elim (.ok (edits.foldl override c)) .error := by
  unfold edited faultIn?
  induction edits generalizing c with
  | nil => rfl
  | cons e edits ih =>
    rw [List.foldlM_cons, apply_eq, List.findSome?_cons]
    cases e.fault? with
    | none => exact ih (c.override e)
    | some f => rfl

/-- Nothing is wrong with a replacement just if nothing is with its edits. -/
theorem faultIn?_eq_none_iff {edits : List Edit} :
    faultIn? edits = none ↔ edits.all Edit.canBeMade = true := by
  simp only [faultIn?, List.findSome?_eq_none_iff, List.all_eq_true,
    Edit.canBeMade, Option.isNone_iff_eq_none]

/-- What is wrong with a replacement is that there is no field which one of its edits
names. -/
theorem exists_unknown_of_faultIn? {edits : List Edit} {f : Fault}
    (h : faultIn? edits = some f) :
    ∃ name, .unknown name ∈ edits ∧ f = .unknownField name := by
  obtain ⟨e, he, hf⟩ := List.exists_of_findSome?_eq_some h
  cases e with
  | unknown name =>
    cases hf
    exact ⟨name, he, rfl⟩
  | baseUrl | path | database | query | pretty | timeout => cases hf

/-- The value with which the edits **last** give the field. -/
def lastGiven? (f : Field) (edits : List Edit) : Option f.Value :=
  (edits.filterMap (·.value? f)).getLast?

/-- **Field by field, the last edit counts.** -/
theorem get_foldl_override (c : Config) (edits : List Edit) (f : Field) :
    (edits.foldl override c).get f = (lastGiven? f edits).getD (c.get f) := by
  induction edits using List.reverseRecOn with
  | nil => rfl
  | append_singleton edits e ih =>
    rw [List.foldl_append, List.foldl_cons, List.foldl_nil, override,
      get_ofFields, ih, lastGiven?, lastGiven?, List.filterMap_append,
      List.getLast?_append]
    cases he : e.value? f with
    | none => simp [he]
    | some v => simp [he]

/-! ## Steps -/

/-- The config **after** steps in their order. -/
def after (c : Config) (steps : List Step) : Config :=
  steps.foldl (fun c s => (c.step s).2) c

/-- Whether the step is a **replacement** that succeeds. -/
def Step.isReplacement : Step → Bool
  | .replace edits => edits.all Edit.canBeMade
  | _ => false

/-- The edits that the step **makes**: all of a replacement that succeeds. -/
def Step.made : Step → List Edit
  | .replace edits => if edits.all Edit.canBeMade then edits else []
  | _ => []

/-- The value that the steps **last** put into the field. -/
def lastValue? (f : Field) (steps : List Step) : Option f.Value :=
  lastGiven? f (steps.flatMap Step.made)

/-- Other steps make no edit. -/
theorem Step.made_of_not_isReplacement {s : Step}
    (h : s.isReplacement = false) : s.made = [] := by
  cases s with
  | replace edits => exact if_neg (Bool.eq_false_iff.mp h)
  | assign | delete | url | params | fields | same | setParam => rfl

/-- **A step leaves the config with the edits that it makes.** -/
theorem step_snd (c : Config) (s : Step) :
    (c.step s).2 = s.made.foldl override c := by
  cases s with
  | replace edits =>
    rw [step, edited_eq, Step.made]
    cases h : faultIn? edits with
    | none =>
      rw [if_pos (faultIn?_eq_none_iff.mp h)]
      rfl
    | some f =>
      rw [if_neg (mt faultIn?_eq_none_iff.mpr (h ▸ Option.some_ne_none f))]
      rfl
  | same edits =>
    rw [step]
    split <;> rfl
  | assign | delete | url | params | fields | setParam => rfl

/-- **Steps leave it with all the edits that they make.** -/
theorem after_eq (c : Config) (steps : List Step) :
    c.after steps = (steps.flatMap Step.made).foldl override c := by
  simp only [after, step_snd, List.foldl_flatMap]

/-- **What stands in a field after steps** is what they last put there, or what
stood there before them. -/
theorem get_after (c : Config) (steps : List Step) (f : Field) :
    (c.after steps).get f = (lastValue? f steps).getD (c.get f) := by
  rw [after_eq, get_foldl_override]
  rfl

/-- **Only replacements that succeed count** among steps. -/
theorem after_filter (c : Config) (steps : List Step) :
    c.after (steps.filter Step.isReplacement) = c.after steps := by
  have hmade : (steps.filter Step.isReplacement).flatMap Step.made
      = steps.flatMap Step.made := by
    induction steps with
    | nil => rfl
    | cons s steps ih =>
      cases hs : s.isReplacement with
      | true => rw [List.filter_cons_of_pos hs, List.flatMap_cons, ih,
          List.flatMap_cons]
      | false => rw [List.filter_cons_of_neg (Bool.eq_false_iff.mp hs), ih,
          List.flatMap_cons, Step.made_of_not_isReplacement hs, List.nil_append]
  rw [after_eq, after_eq, hmade]

/-! ## Answers -/

theorem length_answers (c : Config) (steps : List Step) :
    (answers c steps).length = steps.length := by
  induction steps generalizing c with
  | nil => rfl
  | cons s steps ih => rw [answers, List.length_cons, List.length_cons, ih]

/-- Later steps are answered by the config as it is then. -/
theorem answers_append (c : Config) (history later : List Step) :
    answers c (history ++ later)
      = answers c history ++ answers (c.after history) later := by
  induction history generalizing c with
  | nil => rfl
  | cons s history ih =>
    rw [List.cons_append, answers, ih, answers, List.cons_append]
    rfl

/-- **Later answers depend on the config alone** that the steps before leave. -/
theorem answers_drop (c : Config) (history later : List Step) :
    (answers c (history ++ later)).drop history.length
      = answers (c.after history) later := by
  rw [answers_append]
  exact List.drop_left' (length_answers c history)

/-- **A replacement that cannot be made changes nothing**, and what is wrong with it is
that one of its edits is of no field there is. -/
theorem step_replace_of_unknown {edits : List Edit} {name : Text}
    (h : .unknown name ∈ edits) (c : Config) :
    ∃ other, .unknown other ∈ edits
      ∧ c.step (.replace edits) = (.fault (.unknownField other), c) := by
  cases hf : faultIn? edits with
  | none =>
    have hall := List.all_eq_true.mp (faultIn?_eq_none_iff.mp hf) _ h
    cases hall
  | some f =>
    obtain ⟨other, hother, rfl⟩ := exists_unknown_of_faultIn? hf
    refine ⟨other, hother, ?_⟩
    rw [step, edited_eq, hf]
    rfl

/-- A replacement that can be made is answered with the fields then. -/
theorem step_replace_of_all {edits : List Edit}
    (h : edits.all Edit.canBeMade = true) (c : Config) :
    c.step (.replace edits)
      = (.fields (edits.foldl override c), edits.foldl override c) := by
  rw [step, edited_eq, faultIn?_eq_none_iff.mpr h]
  rfl

/-- **A config changes only through a replacement that succeeds.** After any steps
there stands in each field what the last such replacement that names it has put
there, or what stood there at first; and the next step is answered by this config,
whatever follows.

Every attempt to assign or to delete fails. The address and the named values are
those of the fields. A replacement succeeds if nothing is wrong with any of its
edits; if one of them is of no field there is, it fails with that, and none of the
others is made. Nothing but a replacement that succeeds makes another config. So
all other steps can be left out, and what is answered later is the same. -/
theorem changes_only_by_replacement (c : Config) (history : List Step) :
    let now := c.after history
    let value := fun f : Field => (lastValue? f history).getD (c.get f)
    (∀ f, now.get f = value f)
      ∧ (∀ s later, (answers c (history ++ s :: later))[history.length]?
        = some (now.step s).1)
      ∧ (∀ name, (now.step (.assign name)).1 = .fault (.assigned name)
        ∧ (now.step (.delete name)).1 = .fault (.deleted name))
      ∧ (now.step .url).1
        = .text (Text.trimEnd '/' (value .baseUrl) ++ value .path)
      ∧ (now.step .params).1
        = .pairs ((if value .pretty then [("pretty".toList, Text.loose "true".toList)]
            else [])
          ++ [("db".toList, value .database), ("q".toList, value .query)])
      ∧ (now.step .fields).1 = .fields (ofFields value)
      ∧ (∀ edits, edits.all Edit.canBeMade = true →
        ∃ d, now.step (.replace edits) = (.fields d, d)
          ∧ ∀ f, d.get f = (lastGiven? f edits).getD (value f))
      ∧ (∀ edits name, .unknown name ∈ edits →
        ∃ other, .unknown other ∈ edits
          ∧ now.step (.replace edits) = (.fault (.unknownField other), now))
      ∧ (∀ s, s.isReplacement = false → (now.step s).2 = now)
      ∧ ∀ later, (answers c (history ++ later)).drop history.length
        = (answers c (history.filter Step.isReplacement ++ later)).drop
            (history.filter Step.isReplacement).length := by
  intro now value
  have hget (f : Field) : now.get f = value f := get_after c history f
  have hnow : now = ofFields value := by
    rw [← ofFields_get now]
    exact congrArg ofFields (funext hget)
  refine ⟨hget, fun s later => ?_, fun name => ⟨rfl, rfl⟩, ?_, ?_, ?_,
    fun edits h => ?_, fun edits name h => step_replace_of_unknown h now,
    fun s hs => ?_, fun later => ?_⟩
  · rw [← List.head?_drop, answers_drop]
    rfl
  · rw [hnow]
    rfl
  · rw [hnow]
    rfl
  · rw [hnow]
    rfl
  · refine ⟨_, step_replace_of_all h now, fun f => ?_⟩
    rw [get_foldl_override, hget]
  · rw [step_snd, Step.made_of_not_isReplacement hs]
    rfl
  · rw [answers_drop, answers_drop, after_filter]

/-- A replacement that names a field there is and one that there is not leaves
neither; what it was to put into the database has been put there by others. -/
theorem changes_only_by_replacement_mixed :
    let mixed := [Edit.database (Text.loose "x".toList), .unknown "host".toList]
    let history := [
      Step.replace [.path "/p".toList, .database (Text.loose "a".toList)],
      .replace mixed, .assign "database".toList,
      .setParam "db".toList (Text.loose "z".toList),
      .replace [.database (Text.loose "b".toList)]]
    let now := ({} : Config).after history
    let spoil := Step.setParam "db".toList (Text.loose "z".toList)
    .unknown "host".toList ∈ mixed
      ∧ now.step (.replace mixed) = (.fault (.unknownField "host".toList), now)
      ∧ now.get .path = "/p".toList ∧ now.get .database = Text.loose "b".toList
      ∧ spoil.isReplacement = false ∧ (now.step spoil).2 = now
      ∧ [Edit.pretty false].all Edit.canBeMade = true
      ∧ ∃ d, now.step (.replace [.pretty false]) = (.fields d, d)
        ∧ d.get .database = Text.loose "b".toList ∧ d.get .pretty = false := by
  intro mixed history now spoil
  have hmixed : .unknown "host".toList ∈ mixed := by simp [mixed]
  have hpretty : [Edit.pretty false].all Edit.canBeMade = true := by decide
  obtain ⟨hget, -, -, -, -, -, hmade, hrefused, hother, -⟩ :=
    changes_only_by_replacement {} history
  obtain ⟨other, hmem, hstep⟩ := hrefused mixed _ hmixed
  have hhost : other = "host".toList := by simpa [mixed] using hmem
  obtain ⟨d, hd, hvalue⟩ := hmade _ hpretty
  exact ⟨hmixed, hhost ▸ hstep, hget .path, hget .database, rfl,
    hother spoil rfl, hpretty, d, hd, hvalue .database, hvalue .pretty⟩

end QueryClient.Config
