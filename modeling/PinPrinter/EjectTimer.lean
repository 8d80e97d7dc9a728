/-! # The eject timer

The timer ejects a half-printed sheet when the host stops sending: each byte moves the deadline on
by the timeout. Times are in milliseconds from a common origin; whoever owns the timer asks it.
-/

namespace PinPrinter

/-- A timer that goes off a while after the latest byte. -/
structure EjectTimer where
  /-- The time without a byte after which the timer goes off, if it ever does. -/
  timeout : Option Nat
  deadline : Option Nat := none
  /-- A timer that never goes off is not waiting. -/
  idle : timeout = none → deadline = none
  deriving DecidableEq, Repr

namespace EjectTimer

/-- A timer at rest; one without a positive timeout never goes off. -/
def new (timeout : Option Nat) : EjectTimer :=
  { timeout := timeout.filter (0 < ·)
    idle := fun _ => rfl }

/-- Start the wait afresh. -/
def arm (t : EjectTimer) (now : Nat) : EjectTimer :=
  match waits : t.timeout with
  | some timeout =>
    { t with
      deadline := some (now + timeout)
      idle := fun never => nomatch waits.symm.trans never }
  | none => t

/-- Stop waiting. -/
def disarm (t : EjectTimer) : EjectTimer :=
  { t with
    deadline := none
    idle := fun _ => rfl }

/-- Whether the timer is waiting. -/
def isArmed (t : EjectTimer) : Bool :=
  t.deadline.isSome

/-- Whether the deadline has come; a timer that goes off stops waiting. -/
def expire (t : EjectTimer) (now : Nat) : EjectTimer × Bool :=
  match t.deadline with
  | some deadline => if deadline ≤ now then (t.disarm, true) else (t, false)
  | none => (t, false)

end EjectTimer

end PinPrinter
