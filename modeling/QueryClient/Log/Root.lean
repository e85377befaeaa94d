import QueryClient.Log.Level
import QueryClient.Log.Timestamp

/-!
# The log

All messages go to one **root**, which has a threshold and a list of
**handlers**. A message at or above the threshold is enabled, provided its
level is above zero, and every handler writes it to its stream. When there is
no handler at all, messages from `WARNING` upwards are written bare to the
stream for errors.

`Root.configure` sets the threshold and puts one handler in the place of all
others; a value that is no level changes nothing.
-/

namespace QueryClient

/-- A **stream** that handlers write to. -/
inductive Stream where
  /-- The stream for errors. -/
  | errors
  /-- A stream of this name. -/
  | named (name : Text)
deriving DecidableEq, Repr

/-- How a handler writes a message. -/
inductive Layout where
  /-- Time, logger, level, and text. -/
  | full
  /-- The text alone. -/
  | bare
deriving DecidableEq, Repr

/-- A **handler**: a stream and a layout. -/
structure Handler where
  /-- Where it writes. -/
  stream : Stream
  /-- How it writes. -/
  layout : Layout
deriving DecidableEq, Repr

/-- A **note**: a message for the log. -/
structure Note where
  /-- Who says it. -/
  logger : Text
  /-- How grave it is. -/
  level : Int
  /-- What it says. -/
  text : Text
deriving DecidableEq, Repr

/-- A piece of text **written** to a stream. -/
structure Written where
  /-- The stream. -/
  stream : Stream
  /-- The text. -/
  text : Text
deriving DecidableEq, Repr

/-- A note as it is written at the moment `now`, with the end of its
line. -/
def Layout.write (now : Nat) (n : Note) : Layout → Text
  | .bare => n.text ++ ['\n']
  | .full =>
    Timestamp.shown now ++ " - ".toList ++ n.logger ++ " - ".toList
      ++ levelName n.level ++ " - ".toList ++ n.text ++ ['\n']

/-- What a handler writes for a note. -/
def Handler.write (now : Nat) (n : Note) (h : Handler) : Written :=
  ⟨h.stream, h.layout.write now n⟩

/-- The **root** of the log. -/
structure Root where
  /-- The threshold. -/
  threshold : Threshold := .number Severity.warning.number
  /-- The handlers in their order. -/
  handlers : List Handler := []
deriving DecidableEq, Repr

namespace Root

/-- Whether notes of the level are written. -/
def enables (r : Root) (level : Int) : Bool :=
  0 < level && r.threshold.value ≤ level

/-- What is **written** for one note. -/
def emit (r : Root) (now : Nat) (n : Note) : List Written :=
  if !r.enables n.level then []
  else if r.handlers.isEmpty then
    if Severity.warning.number ≤ n.level then
      [⟨.errors, Layout.bare.write now n⟩]
    else []
  else r.handlers.map (Handler.write now n)

/-- What is written for notes in their order. -/
def emitAll (r : Root) (now : Nat) (notes : List Note) : List Written :=
  notes.flatMap (r.emit now)

@[simp] theorem emitAll_nil (r : Root) (now : Nat) :
    r.emitAll now [] = [] := rfl

@[simp] theorem emitAll_cons (r : Root) (now : Nat) (n : Note)
    (rest : List Note) :
    r.emitAll now (n :: rest) = r.emit now n ++ r.emitAll now rest := rfl

@[simp] theorem emitAll_append (r : Root) (now : Nat) (a b : List Note) :
    r.emitAll now (a ++ b) = r.emitAll now a ++ r.emitAll now b :=
  List.flatMap_append

/-- A note that is not enabled is written nowhere. -/
theorem emit_of_not_enables {r : Root} {n : Note}
    (h : r.enables n.level = false) (now : Nat) : r.emit now n = [] := by
  rw [emit, h]
  rfl

/-- A note that is enabled is written once by every handler. -/
theorem emit_of_enables {r : Root} {n : Note}
    (h : r.enables n.level = true) (hr : r.handlers ≠ []) (now : Nat) :
    r.emit now n = r.handlers.map (Handler.write now n) := by
  have hn : r.handlers.isEmpty = false := by
    rw [List.isEmpty_eq_false_iff]
    exact hr
  rw [emit, h, hn]
  rfl

/-- The log without a handler. Of several that are alike the first one
goes. -/
def removeHandler (r : Root) (h : Handler) : Root :=
  { r with handlers := r.handlers.erase h }

/-- The log without its handlers, which go one by one. The list that is gone
through is the one there was before the first of them went. -/
def removeHandlers (r : Root) : Root :=
  r.handlers.foldl removeHandler r

theorem foldl_removeHandler (l : List Handler) (t : Threshold) :
    l.foldl removeHandler ⟨t, l⟩ = ⟨t, []⟩ := by
  induction l with
  | nil => rfl
  | cons h l ih => rw [List.foldl_cons, removeHandler, List.erase_cons_head, ih]

/-- **No handler is left out** when they go one by one. -/
@[simp] theorem removeHandlers_eq (r : Root) :
    r.removeHandlers = ⟨r.threshold, []⟩ :=
  foldl_removeHandler r.handlers r.threshold

/-- The log **set up** anew: the threshold that the value asks for, and, in
the place of all handlers, one on the stream. -/
def configure (r : Root) (level : Value) (stream : Stream) : Option Root :=
  (Threshold.ofValue? level).map fun t =>
    let cleared := { r with threshold := t }.removeHandlers
    { cleared with handlers := cleared.handlers ++ [⟨stream, .full⟩] }

/-- **Setting up leaves nothing of the log before.** -/
theorem configure_eq (r : Root) (level : Value) (stream : Stream) :
    r.configure level stream
      = (Threshold.ofValue? level).map fun t => ⟨t, [⟨stream, .full⟩]⟩ := by
  simp only [configure, removeHandlers_eq, List.nil_append]

/-- The log with a handler more, which writes bare messages. -/
def addHandler (r : Root) (stream : Stream) : Root :=
  { r with handlers := r.handlers ++ [⟨stream, .bare⟩] }

@[simp] theorem handlers_addHandler (r : Root) (stream : Stream) :
    (r.addHandler stream).handlers = r.handlers ++ [⟨stream, .bare⟩] := rfl

@[simp] theorem threshold_addHandler (r : Root) (stream : Stream) :
    (r.addHandler stream).threshold = r.threshold := rfl

/-- Setting up succeeds exactly for the values that ask for a threshold. -/
theorem isSome_configure (r : Root) (level : Value) (stream : Stream) :
    (r.configure level stream).isSome = (Threshold.ofValue? level).isSome :=
  Option.isSome_map

end Root

/-- The text that went to a stream. -/
def textOn (s : Stream) (written : List Written) : Text :=
  (written.filter (·.stream == s)).flatMap Written.text

@[simp] theorem textOn_nil (s : Stream) : textOn s [] = [] := rfl

@[simp] theorem textOn_append (s : Stream) (a b : List Written) :
    textOn s (a ++ b) = textOn s a ++ textOn s b := by
  rw [textOn, List.filter_append, List.flatMap_append]
  rfl

end QueryClient
