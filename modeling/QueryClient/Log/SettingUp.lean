import QueryClient.Log.Root
import QueryClient.Proofs.Attempt

/-!
# Setting up, step by step

To set up the log takes several steps. The level is looked at, the threshold is
set, the handlers there are come off one by one and are closed, and another one
is put in their place. What has been done stays done, even if a later step fails,
so it depends on their order what a failure leaves behind.

`Root.setUp` goes through these steps. It comes to the same as `Root.configure`
(`Root.configure_eq_setUp`), which does without them.
-/

namespace QueryClient.Root

/-- The log **at work**: as it is at the moment, and the handlers that have come
off it and are closed, in their order. -/
structure Work where
  /-- The log. -/
  root : Root
  /-- The handlers that are closed. -/
  closed : List Handler := []
deriving DecidableEq, Repr

/-- **Working** on the log. It may fail with a value that is no level, and then
what was done so far is not taken back. -/
abbrev Working := EStateM Value Work

/-- The threshold that a value asks for, if it is a level. -/
def askThreshold (level : Value) : Working Threshold :=
  match Threshold.ofValue? level with
  | some t => pure t
  | none => throw level

/-- Sets the threshold. -/
def putThreshold (t : Threshold) : Working Unit :=
  modify fun w => { w with root := { w.root with threshold := t } }

/-- Takes a handler off and closes it. -/
def retire (h : Handler) : Working Unit :=
  modify fun w => ⟨w.root.removeHandler h, w.closed ++ [h]⟩

/-- Puts a handler behind those there are. -/
def install (h : Handler) : Working Unit :=
  modify fun w =>
    { w with root := { w.root with handlers := w.root.handlers ++ [h] } }

/-- **Sets up** the log at a level, with one handler on the stream, which it hands
back. -/
def setUp (level : Value) (stream : Stream) : Working Handler := do
  let t ← askThreshold level
  putThreshold t
  let before := (← get).root.handlers
  before.forM retire
  let h : Handler := ⟨stream, .full⟩
  install h
  return h

theorem run_retire (h : Handler) (w : Work) :
    (retire h).run w = .ok () ⟨w.root.removeHandler h, w.closed ++ [h]⟩ := rfl

/-- **The handlers come off** one by one, and none is left out. -/
theorem run_forM_retire (l : List Handler) (t : Threshold)
    (closed : List Handler) :
    (l.forM retire : Working Unit).run ⟨⟨t, l⟩, closed⟩
      = .ok () ⟨⟨t, []⟩, closed ++ l⟩ := by
  induction l generalizing closed with
  | nil =>
    rw [List.append_nil]
    rfl
  | cons h l ih =>
    have htaken : removeHandler ⟨t, h :: l⟩ h = ⟨t, l⟩ := by
      simp only [removeHandler, List.erase_cons_head]
    show (retire h >>= fun _ => l.forM retire : Working Unit).run _ = _
    rw [run_bind_of_ok (run_retire ..)]
    dsimp only
    rw [htaken, ih, List.append_assoc]
    rfl

/-- **A level sets the log up**, whatever it was before. -/
theorem run_setUp_of_level {level : Value} {t : Threshold}
    (h : Threshold.ofValue? level = some t) (stream : Stream) (w : Work) :
    (setUp level stream).run w
      = .ok ⟨stream, .full⟩
          ⟨⟨t, [⟨stream, .full⟩]⟩, w.closed ++ w.root.handlers⟩ := by
  have hask : (askThreshold level).run w = .ok t w := by
    rw [askThreshold, h]
    rfl
  unfold setUp
  rw [run_bind_of_ok hask]
  -- only the threshold is another one when the handlers are looked at
  show (w.root.handlers.forM retire >>= fun _ => _ : Working Handler).run
    ⟨⟨t, w.root.handlers⟩, w.closed⟩ = _
  rw [run_bind_of_ok (run_forM_retire ..)]
  rfl

/-- **Anything else fails** before anything is done. -/
theorem run_setUp_of_no_level {level : Value}
    (h : Threshold.ofValue? level = none) (stream : Stream) (w : Work) :
    (setUp level stream).run w = .error level w := by
  have hask : (askThreshold level).run w = .error level w := by
    rw [askThreshold, h]
    rfl
  exact run_bind_of_error hask

/-- **Step by step the log is set up as it is at once**, and a failure leaves
nothing behind. -/
theorem configure_eq_setUp (r : Root) (level : Value) (stream : Stream) :
    r.configure level stream
      = match (setUp level stream).run { root := r } with
        | .ok _ w => some w.root
        | .error _ _ => none := by
  rw [configure_eq]
  cases h : Threshold.ofValue? level with
  | none => rw [run_setUp_of_no_level h]; rfl
  | some t => rw [run_setUp_of_level h]; rfl

end QueryClient.Root
