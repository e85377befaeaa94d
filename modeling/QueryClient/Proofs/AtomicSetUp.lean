import QueryClient.Log.SettingUp
import QueryClient.Proofs.LevelNames

/-!
# Setting up is all or nothing

Setting up the log fails for what is no level, and for nothing else. The handlers
there are, however many, and the threshold make no difference to that. They make
none to what comes of it either: if it succeeds, nothing of the log before is
left; if it fails, everything is. `Root.setUp_atomic` says so of the work step by
step, where a failure between two steps would show.
-/

namespace QueryClient

/-- The threshold that a value **asks for**: a number or a truth value for itself,
and a text for the level whose name is its upper case. No other value asks for
any. -/
inductive Value.AsksFor : Value → Threshold → Prop
  /-- A number. -/
  | number (n : Int) : AsksFor (.int n) (.number n)
  /-- A truth value. -/
  | flag (b : Bool) : AsksFor (.bool b) (.flag b)
  /-- The name of a level. -/
  | name {t : Text} {s : Severity} (h : Text.upper t = s.name) :
    AsksFor (.text t) (.number s.number)

/-- The threshold of a value is the one it asks for. -/
theorem Threshold.ofValue?_eq_some_iff {v : Value} {t : Threshold} :
    ofValue? v = some t ↔ v.AsksFor t := by
  constructor
  · intro h
    cases v with
    | int n =>
      cases h
      exact .number n
    | bool b =>
      cases h
      exact .flag b
    | text u =>
      obtain ⟨s, hs, rfl⟩ := Option.map_eq_some_iff.mp h
      exact .name (Severity.ofName?_eq_some_iff.mp hs)
    | null | float | list | object => cases h
  · intro h
    cases h with
    | number n => rfl
    | flag b => rfl
    | @name u s h =>
      have hs : Severity.ofText? u = some s :=
        Severity.ofName?_eq_some_iff.mpr h
      rw [ofValue?, hs]
      rfl

namespace Root

/-- **Setting up is all or nothing.** It succeeds exactly for values that ask for a
threshold. Then the log has that threshold and one handler, which is handed back,
and the handlers that came off are all there were. Otherwise the failure tells the
value, no handler has come off, and the log is as it was.

Texts ask for one if they have a form of each letter of a name in its place. -/
theorem setUp_atomic (r : Root) (level : Value) (stream : Stream) :
    let done := (setUp level stream).run { root := r }
    ((∃ h w, done = .ok h w) ↔ ∃ t, level.AsksFor t)
      ∧ (∀ t, level.AsksFor t → ∃ h, h.stream = stream
        ∧ done = .ok h { root := ⟨t, [h]⟩, closed := r.handlers })
      ∧ ((¬∃ t, level.AsksFor t) →
        done = .error level { root := r, closed := [] })
      ∧ ∀ (t : Text) (s : Severity), Text.upper t = s.name
        ↔ List.Forall₂ Text.IsFormOf t s.name := by
  intro done
  have hlevel (t : Threshold) (ht : level.AsksFor t) :
      done = .ok ⟨stream, .full⟩ ⟨⟨t, [⟨stream, .full⟩]⟩, r.handlers⟩ :=
    run_setUp_of_level (Threshold.ofValue?_eq_some_iff.mpr ht) stream _
  have hnone (h : ¬∃ t, level.AsksFor t) : done = .error level { root := r } := by
    refine run_setUp_of_no_level (Option.eq_none_iff_forall_ne_some.mpr ?_) stream _
    exact fun t ht => h ⟨t, Threshold.ofValue?_eq_some_iff.mp ht⟩
  refine ⟨⟨?_, fun ⟨t, ht⟩ => ⟨_, _, hlevel t ht⟩⟩,
    fun t ht => ⟨_, rfl, hlevel t ht⟩, hnone, fun _ _ => Severity.upper_eq_name_iff⟩
  rintro ⟨h, w, hdone⟩
  by_contra hasks
  rw [hnone hasks] at hdone
  cases hdone

/-- A name without dots on its letters sets the log up, and three handlers come
off, two of them alike; a number with a fraction, though it is the number of a
level, does not. -/
theorem setUp_atomic_dotless :
    let first : Handler := ⟨.named "first".toList, .bare⟩
    let r : Root := ⟨.flag true, [first, ⟨.errors, .full⟩, first]⟩
    let level := Value.text "cr\u0131t\u0131Cal".toList
    let thirty := Value.float (.ofMagnitude false 0x403E000000000000)
    level.AsksFor (.number 50)
      ∧ (∃ h, (setUp level .errors).run { root := r }
        = .ok h { root := ⟨.number 50, [h]⟩, closed := r.handlers })
      ∧ (¬∃ t, thirty.AsksFor t)
      ∧ (setUp thirty .errors).run { root := r } = .error thirty { root := r } := by
  intro first r level thirty
  have hasks : level.AsksFor (.number 50) := by
    have hupper : Text.upper "cr\u0131t\u0131Cal".toList
        = Severity.critical.name := by
      decide +kernel
    exact .name hupper
  have hfloat (x : Binary64) : ¬∃ t, (Value.float x).AsksFor t := by
    rintro ⟨t, h⟩
    cases h
  obtain ⟨-, hset, -⟩ := setUp_atomic r level .errors
  obtain ⟨-, -, hfailed, -⟩ := setUp_atomic r thirty .errors
  obtain ⟨h, -, hdone⟩ := hset _ hasks
  exact ⟨hasks, ⟨h, hdone⟩, hfloat _, hfailed (hfloat _)⟩

end Root
end QueryClient
