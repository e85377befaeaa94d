import QueryClient.Outlet
import QueryClient.Proofs.Attempt

/-!
# Writing through a buffer

A body that is written may wait in front of its outlet, and then it is the
flush that finds out whether the outlet takes it. `Writer.run_deliver` says
that this makes no difference to what becomes of the body: writing and flushing
together come to what the outlet makes of all the octets at once. Where a fault
shows does depend on the room there is (`Writer.run_write_eq_error_iff`), and so does
what goes on waiting after it.
-/

namespace QueryClient

namespace Outlet

/-- Octets that come in two parts are taken as they are taken in one. -/
theorem take_append (o : Outlet) (a b : List UInt8) :
    o.take (a ++ b) = do
      let x ← o.take a
      let y ← o.take b
      return x ++ y := by
  cases o with
  | buffer | output | nullDevice => rfl
  | closedOutput | fullOutput =>
    cases a with
    | nil => cases b <;> rfl
    | cons c a => rfl

/-- An outlet never minds that there is nothing to take. -/
theorem take_nil (o : Outlet) : o.take [] = .ok [] := by
  cases o <;> rfl

/-- **What is taken is all of it.** -/
theorem eq_of_take {o : Outlet} {octets taken : List UInt8}
    (h : o.take octets = .ok taken) : taken = octets := by
  cases o with
  | buffer | output | nullDevice =>
    cases h
    rfl
  | closedOutput | fullOutput =>
    cases octets with
    | nil =>
      cases h
      rfl
    | cons c rest => cases h

/-- An outlet that does not take octets does not take the first of them. -/
theorem take_of_append_error {o : Outlet} {a b : List UInt8} {f : OutletFault}
    (h : o.take (a ++ b) = .error f) (ha : a ≠ []) : o.take a = .error f := by
  obtain ⟨c, a, rfl⟩ := List.exists_cons_of_ne_nil ha
  cases o with
  | buffer | output | nullDevice => cases h
  | closedOutput | fullOutput => exact h

end Outlet

namespace Writer

/-- Handing octets over keeps count of what the outlet takes. -/
theorem run_pass_of_ok {w : Writer} {octets more : List UInt8}
    (h : w.outlet.take octets = .ok more) :
    (pass octets).run w = .ok () { w with taken := w.taken ++ more } := by
  have hget : (get : Writing Writer).run w = .ok w w := rfl
  rw [pass, run_bind_of_ok hget, h]
  rfl

/-- If the outlet does not take them, nothing has happened. -/
theorem run_pass_of_error {w : Writer} {octets : List UInt8} {f : OutletFault}
    (h : w.outlet.take octets = .error f) :
    (pass octets).run w = .error f w := by
  have hget : (get : Writing Writer).run w = .ok w w := rfl
  rw [pass, run_bind_of_ok hget, h]
  rfl

/-- After a flush nothing waits. -/
theorem run_flush_of_ok {w : Writer} {more : List UInt8}
    (h : w.outlet.take w.waiting = .ok more) :
    flush.run w
      = .ok () { w with waiting := [], taken := w.taken ++ more } := by
  show (pass w.waiting >>= fun _ => _ : Writing Unit).run w = _
  rw [run_bind_of_ok (run_pass_of_ok h)]
  rfl

/-- **After a flush that fails all goes on waiting.** -/
theorem run_flush_of_error {w : Writer} {f : OutletFault}
    (h : w.outlet.take w.waiting = .error f) : flush.run w = .error f w := by
  show (pass w.waiting >>= fun _ => _ : Writing Unit).run w = _
  exact run_bind_of_error (run_pass_of_error h)

/-- Octets that find room wait, and **no fault shows when they are
written**. -/
theorem run_write_of_room {w : Writer} {octets : List UInt8}
    (h : w.hasRoom octets = true) :
    (write octets).run w
      = .ok () { w with waiting := w.waiting ++ octets } := by
  show (if w.hasRoom octets then
      set { w with waiting := w.waiting ++ octets }
    else _ : Writing Unit).run w = _
  rw [if_pos h]
  rfl

/-- Where they find none, what waits is flushed first. -/
theorem run_write_of_no_room {w : Writer} {octets : List UInt8}
    (h : ¬w.hasRoom octets = true) :
    (write octets).run w
      = (flush >>= fun _ => if octets.length ≤ w.room then
          modify fun w => { w with waiting := octets }
        else pass octets : Writing Unit).run w := by
  show (if w.hasRoom octets then
      set { w with waiting := w.waiting ++ octets }
    else _ : Writing Unit).run w = _
  rw [if_neg h]

/-- **Octets that the outlet does not take** and that find no room show it when they
are written, and change nothing. -/
theorem run_write_of_error {w : Writer} {octets : List UInt8} {f : OutletFault}
    (hroom : ¬w.hasRoom octets = true)
    (h : w.outlet.take (w.waiting ++ octets) = .error f) :
    (write octets).run w = .error f w := by
  rw [run_write_of_no_room hroom]
  by_cases hw : w.waiting = []
  · -- nothing waits, so the octets themselves are too many
    have hlong : ¬octets.length ≤ w.room := by
      unfold hasRoom at hroom
      rw [hw, List.length_nil, decide_eq_true_eq] at hroom
      omega
    have hnone : w.outlet.take w.waiting = .ok [] := by rw [hw, w.outlet.take_nil]
    have hsame : { w with waiting := [], taken := w.taken ++ [] } = w := by
      rw [List.append_nil, ← hw]
    rw [hw, List.nil_append] at h
    rw [run_bind_of_ok (run_flush_of_ok hnone), hsame, if_neg hlong]
    exact run_pass_of_error h
  · exact run_bind_of_error
      (run_flush_of_error (Outlet.take_of_append_error h hw))

/-- Octets that the outlet takes are written, and then all octets so far are taken or
wait. -/
theorem run_write_of_ok {w : Writer} {octets more : List UInt8}
    (h : w.outlet.take (w.waiting ++ octets) = .ok more) :
    ∃ waiting taken, (write octets).run w = .ok () { w with waiting, taken }
      ∧ taken ++ waiting = w.taken ++ more
      ∧ w.outlet.take waiting = .ok waiting := by
  obtain rfl := Outlet.eq_of_take h
  by_cases hroom : w.hasRoom octets = true
  · exact ⟨_, _, run_write_of_room hroom, rfl, h⟩
  · rw [Outlet.take_append] at h
    obtain ⟨x, hx, h⟩ := bind_eq_ok_iff.mp h
    obtain ⟨y, hy, -⟩ := bind_eq_ok_iff.mp h
    obtain rfl := Outlet.eq_of_take hx
    obtain rfl := Outlet.eq_of_take hy
    rw [run_write_of_no_room hroom, run_bind_of_ok (run_flush_of_ok hx)]
    split
    · exact ⟨_, _, rfl, List.append_assoc .., hy⟩
    · rw [run_pass_of_ok (w := { w with waiting := [], taken := _ }) hy]
      refine ⟨[], _, rfl, ?_, w.outlet.take_nil⟩
      rw [List.append_nil, List.append_assoc]

/-- **A fault shows when the octets are written** exactly if the outlet does not
take all that there is then, and there is no room for them to wait. -/
theorem run_write_eq_error_iff {w w' : Writer} {octets : List UInt8}
    {f : OutletFault} :
    (write octets).run w = .error f w'
      ↔ w.hasRoom octets = false ∧ w.outlet.take (w.waiting ++ octets) = .error f
        ∧ w' = w := by
  by_cases hroom : w.hasRoom octets = true
  · rw [run_write_of_room hroom]
    rw [hroom]
    exact iff_of_false nofun fun h => Bool.noConfusion h.1
  · cases ht : w.outlet.take (w.waiting ++ octets) with
    | error g =>
      rw [run_write_of_error hroom ht]
      constructor
      · rintro ⟨⟩
        exact ⟨Bool.not_eq_true _ ▸ hroom, rfl, rfl⟩
      · rintro ⟨-, ⟨⟩, rfl⟩
        rfl
    | ok more =>
      obtain ⟨waiting, taken, hw, -⟩ := run_write_of_ok ht
      rw [hw]
      exact iff_of_false nofun (by rintro ⟨-, ⟨⟩, -⟩)

/-- What a writer holds once a body was not delivered: the body goes on waiting if
there was room for it. -/
def holding (w : Writer) (body : List UInt8) : Writer :=
  if w.hasRoom body then { w with waiting := w.waiting ++ body } else w

/-- **What becomes of a body that is delivered** is what the outlet makes of it and of
all that waits, whatever room there is. -/
theorem run_deliver (w : Writer) (body : List UInt8) :
    (deliver body).run w = match w.outlet.take (w.waiting ++ body) with
      | .ok more =>
        .ok () { w with waiting := [], taken := w.taken ++ more }
      | .error f => .error f (w.holding body) := by
  show (write body >>= fun _ => flush : Writing Unit).run w = _
  cases ht : w.outlet.take (w.waiting ++ body) with
  | error f =>
    unfold holding
    dsimp only
    split
    · rename_i hroom
      rw [run_bind_of_ok (run_write_of_room hroom)]
      exact run_flush_of_error (w := { w with waiting := w.waiting ++ body }) ht
    · rename_i hroom
      exact run_bind_of_error (run_write_of_error hroom ht)
  | ok more =>
    obtain ⟨waiting, taken, hw, hall, htake⟩ := run_write_of_ok ht
    rw [run_bind_of_ok hw,
      run_flush_of_ok (w := { w with waiting, taken }) htake]
    dsimp only
    rw [hall]

end Writer

namespace Channel

/-- The channel once a body was not delivered through it. -/
def holding (c : Channel) (body : List UInt8) : Channel :=
  ({ c with } : Writer).holding body |>.toChannel

/-- **A body is delivered as octets are taken**, together with all that waits. -/
theorem deliver_of_take {c : Channel} {body taken : List UInt8}
    (h : c.outlet.take (c.waiting ++ body) = .ok taken) :
    c.deliver body = .ok () { outlet := c.outlet, taken } := by
  unfold deliver
  rw [Writer.run_deliver, h]
  rfl

/-- **Otherwise nothing is taken**, and the channel holds what it held, or more. -/
theorem deliver_of_take_error {c : Channel} {body : List UInt8}
    {f : OutletFault} (h : c.outlet.take (c.waiting ++ body) = .error f) :
    ∃ w : Writer, c.deliver body = .error f w ∧ w.taken = []
      ∧ w.toChannel = c.holding body := by
  unfold deliver
  rw [Writer.run_deliver, h]
  refine ⟨_, rfl, ?_, rfl⟩
  unfold Writer.holding
  split <;> rfl

@[simp] theorem outlet_holding (c : Channel) (body : List UInt8) :
    (c.holding body).outlet = c.outlet := by
  unfold holding Writer.holding
  split <;> rfl

end Channel
end QueryClient
