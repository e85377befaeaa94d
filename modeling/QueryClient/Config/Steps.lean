import QueryClient.Config

/-!
# Working with a config

A config is asked, compared, and replaced, and attempts are made to change
it. `Config.answers` goes through such **steps** in order with the current
config at hand. Only a replacement that succeeds changes what is current.
-/

namespace QueryClient.Config

/-- A **step** of work with a config. -/
inductive Step where
  /-- An attempt to assign to a field. -/
  | assign (name : Text)
  /-- An attempt to delete a field. -/
  | delete (name : Text)
  /-- What is the address? -/
  | url
  /-- What are the named values? -/
  | params
  /-- What are the fields? -/
  | fields
  /-- Goes on with the config edited. -/
  | replace (edits : List Edit)
  /-- Is the config the same as the default one edited? -/
  | same (edits : List Edit)
  /-- Takes the named values and sets one of them in the copy taken. -/
  | setParam (name : Text) (value : LooseText)

/-- What a step **answers**. -/
inductive Answer where
  /-- The step failed. -/
  | fault (f : Fault)
  /-- A text. -/
  | text (t : Text)
  /-- Named values. -/
  | pairs (l : List (Text × LooseText))
  /-- The fields of a config. -/
  | fields (c : Config)
  /-- Yes or no. -/
  | truth (b : Bool)

/-- The pairs with one name set: in its place if it is there, and otherwise
at the end. -/
def setPair (name : Text) (value : LooseText)
    (pairs : List (Text × LooseText)) : List (Text × LooseText) :=
  if pairs.any (·.1 == name) then
    pairs.map fun p => if p.1 == name then (name, value) else p
  else pairs ++ [(name, value)]

/-- What the step answers, and the config that is current then. -/
def step (c : Config) : Step → Answer × Config
  | .assign name => (.fault (.assigned name), c)
  | .delete name => (.fault (.deleted name), c)
  | .url => (.text c.url, c)
  | .params => (.pairs c.params, c)
  | .fields => (.fields c, c)
  | .replace edits =>
    match c.edited edits with
    | .ok d => (.fields d, d)
    | .error f => (.fault f, c)
  | .same edits =>
    match edited {} edits with
    | .ok d => (.truth (c.same d), c)
    | .error f => (.fault f, c)
  | .setParam name value => (.pairs (setPair name value c.params), c)

/-- The **answers** of the steps in order. -/
def answers (c : Config) : List Step → List Answer
  | [] => []
  | s :: rest => (step c s).1 :: answers (step c s).2 rest

end QueryClient.Config
