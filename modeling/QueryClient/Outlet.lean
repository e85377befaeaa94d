import QueryClient.Text.Basic

/-!
# Outlets

The body of a reply goes to an **outlet**: a buffer, or the output. The output
may be closed at the other end, or there may be no space left behind it, and
then it takes nothing. It does not have to say so at once. In front of the output
stands a **writer**, with room for octets that wait; so a failure shows when the
body is written, if it does not find room, or else when the writer is flushed.
Only with the flush is a body delivered.

A failure does not clear the room. What waits when an outlet does not take it goes on
waiting, in front of whatever is written next. Outlet and waiting octets together are
a **channel**: all that is left when a body was delivered, or was not.
-/

namespace QueryClient

/-- Where the body **goes**. -/
inductive Outlet where
  /-- A buffer, which takes everything. -/
  | buffer
  /-- The output, in working order. -/
  | output
  /-- The output, with nobody at the other end. -/
  | closedOutput
  /-- The output, with no space left. -/
  | fullOutput
  /-- The output, led away to a device that takes everything. -/
  | nullDevice
deriving DecidableEq, Repr

/-- Why the outlet does not take the body. -/
inductive OutletFault where
  /-- Nobody is at the other end. -/
  | closed
  /-- No space is left. -/
  | full
deriving DecidableEq, Repr

/-- The message of a fault. -/
def OutletFault.message : OutletFault → Text
  | .closed => "[Errno 32] Broken pipe".toList
  | .full => "[Errno 28] No space left on device".toList

/-- What the outlet **takes** of octets that come to it. No octets need no
outlet. -/
def Outlet.take (o : Outlet) (octets : List UInt8) :
    Except OutletFault (List UInt8) :=
  match o with
  | .buffer | .output | .nullDevice => .ok octets
  | .closedOutput => if octets.isEmpty then .ok [] else .error .closed
  | .fullOutput => if octets.isEmpty then .ok [] else .error .full

/-- A **channel**: an outlet, and the octets that wait in front of it. -/
structure Channel where
  /-- The outlet. -/
  outlet : Outlet
  /-- The octets that wait. -/
  waiting : List UInt8 := []
deriving DecidableEq, Repr

/-- A **writer**: a channel with room for octets to wait. -/
structure Writer extends Channel where
  /-- How many octets there is room for. -/
  room : Nat := 8192
  /-- What the outlet has taken. -/
  taken : List UInt8 := []
deriving DecidableEq, Repr

/-- **Writing** leaves a writer behind also where it fails. -/
abbrev Writing := EStateM OutletFault Writer

namespace Writer

/-- Whether there is room for octets beside those that wait. -/
def hasRoom (w : Writer) (octets : List UInt8) : Bool :=
  w.waiting.length + octets.length ≤ w.room

/-- Hands octets to the outlet. -/
def pass (octets : List UInt8) : Writing Unit := do
  let w ← get
  match w.outlet.take octets with
  | .ok more => set { w with taken := w.taken ++ more }
  | .error f => throw f

/-- **Flushes**: hands on what waits. -/
def flush : Writing Unit := do
  pass (← get).waiting
  modify fun w => { w with waiting := [] }

/-- **Writes** octets. As long as there is room for them, they wait. Otherwise
what waits goes first, and they follow it unless there is room for them
then. -/
def write (octets : List UInt8) : Writing Unit := do
  let w ← get
  if w.hasRoom octets then
    set { w with waiting := w.waiting ++ octets }
  else
    flush
    if octets.length ≤ w.room then
      modify fun w => { w with waiting := octets }
    else pass octets

/-- **Delivers** a body: writes it and flushes. -/
def deliver (body : List UInt8) : Writing Unit := do
  write body
  flush

end Writer

/-- What comes of a body that is **delivered** through a channel. -/
def Channel.deliver (c : Channel) (body : List UInt8) :
    EStateM.Result OutletFault Writer Unit :=
  (Writer.deliver body).run { c with }

end QueryClient
