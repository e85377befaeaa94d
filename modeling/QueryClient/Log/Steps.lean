import QueryClient.Log.Root

/-!
# Working with the log

While a process lasts, its log is set up, given handlers, and told things, in
any order and any number of times. `Root.afterAll` goes through such **steps**
and says what has become of the log, and `Root.writesAll` what was written on
the way.
-/

namespace QueryClient.Root

/-- A **step** of work with the log. -/
inductive Step where
  /-- Sets it up at a level, with one handler on a stream. -/
  | configure (level : Value) (stream : Stream)
  /-- Adds a handler on a stream. -/
  | addHandler (stream : Stream)
  /-- Makes a note at the moment `now`. -/
  | note (now : Nat) (n : Note)

/-- The log **after** a step. Setting it up with a value that is no level
leaves it as it was. -/
def after (r : Root) : Step → Root
  | .configure level stream => (r.configure level stream).getD r
  | .addHandler stream => r.addHandler stream
  | .note _ _ => r

/-- What a step **writes**. -/
def writes (r : Root) : Step → List Written
  | .note now n => r.emit now n
  | .configure _ _ | .addHandler _ => []

/-- The log after steps in their order. -/
def afterAll (r : Root) (steps : List Step) : Root :=
  steps.foldl after r

/-- What the steps write, in their order. -/
def writesAll (r : Root) : List Step → List Written
  | [] => []
  | s :: rest => r.writes s ++ (r.after s).writesAll rest

@[simp] theorem afterAll_nil (r : Root) : r.afterAll [] = r := rfl

@[simp] theorem afterAll_cons (r : Root) (s : Step) (rest : List Step) :
    r.afterAll (s :: rest) = (r.after s).afterAll rest := rfl

@[simp] theorem afterAll_append (r : Root) (before rest : List Step) :
    r.afterAll (before ++ rest) = (r.afterAll before).afterAll rest :=
  List.foldl_append

@[simp] theorem writesAll_nil (r : Root) : r.writesAll [] = [] := rfl

@[simp] theorem writesAll_cons (r : Root) (s : Step) (rest : List Step) :
    r.writesAll (s :: rest) = r.writes s ++ (r.after s).writesAll rest := rfl

/-- **What is written later depends on the log as it is then**, and on nothing
else of what went before. -/
@[simp] theorem writesAll_append (r : Root) (before rest : List Step) :
    r.writesAll (before ++ rest)
      = r.writesAll before ++ (r.afterAll before).writesAll rest := by
  induction before generalizing r with
  | nil => rfl
  | cons s before ih =>
    rw [List.cons_append, writesAll_cons, ih, writesAll_cons, afterAll_cons,
      List.append_assoc]

end QueryClient.Root
