import SlottedMac.Clock
import SlottedMac.Frame

/-!
# The frame that waits to be sent

A node holds at most one frame for its next transmission, and a newer frame
takes the place of an older one. A frame that waits too many periods is given
up: each period in which it could not be sent counts, and the count that would
exceed the limit removes it.
-/

namespace SlottedMac

/-- The handle by which a caller knows a frame. -/
abbrev Token := UInt32

/-- A frame on its way into the air. -/
structure QueuedFrame where
  token : Token
  destination : Address
  payload : Payload
  /-- Fine reading at which the frame was handed over. -/
  queuedAt : Ticks
  /-- Periods that passed without sending it. -/
  deferrals : UInt16 := 0
deriving DecidableEq, Repr

/-- What a caller sees of a waiting frame. -/
structure WaitingStatus where
  token : Token
  /-- Time waited so far in microseconds. -/
  waited : Ticks
  deferrals : UInt16
deriving DecidableEq, Repr

namespace QueuedFrame

/-- Count one more period without sending. The count stays at its largest
value once it is there. -/
def deferred (f : QueuedFrame) : QueuedFrame :=
  { f with deferrals := if f.deferrals = 0xFFFF then f.deferrals else f.deferrals + 1 }

/-- The status of the frame at a fine reading. -/
def status (f : QueuedFrame) (now : Ticks) : WaitingStatus :=
  { token := f.token, waited := now.since f.queuedAt, deferrals := f.deferrals }

theorem toNat_deferred (f : QueuedFrame) :
    f.deferred.deferrals.toNat = min (f.deferrals.toNat + 1) 0xFFFF := by
  have := f.deferrals.toNat_lt
  have full : f.deferrals = 0xFFFF ↔ f.deferrals.toNat = 0xFFFF := UInt16.toNat_inj.symm
  simp only [deferred, full]
  split
  · omega
  · have one : (1 : UInt16).toNat = 1 := rfl
    rw [UInt16.toNat_add, one]
    omega

@[simp] theorem deferred_token (f : QueuedFrame) : f.deferred.token = f.token := rfl

@[simp] theorem deferred_queuedAt (f : QueuedFrame) : f.deferred.queuedAt = f.queuedAt := rfl

end QueuedFrame

/-- The place for the one frame that waits. -/
abbrev Outbox := Option QueuedFrame

namespace Outbox

/-- Put a frame into the outbox. The answer also holds the frame it replaces. -/
def put (o : Outbox) (f : QueuedFrame) : Outbox × Option QueuedFrame := (some f, o)

/-- Empty the outbox. The answer also holds the frame that was in it. -/
def take (o : Outbox) : Outbox × Option QueuedFrame := (none, o)

/-- Count a period without sending. A frame whose count exceeds `limit` leaves
the outbox and is part of the answer. -/
def defer (o : Outbox) (limit : UInt16) : Outbox × Option QueuedFrame :=
  match o with
  | none => (none, none)
  | some f =>
    if f.deferred.deferrals ≤ limit then (some f.deferred, none) else (none, some f.deferred)

/-- The status of the waiting frame at a fine reading. -/
def status (o : Outbox) (now : Ticks) : Option WaitingStatus := o.map (·.status now)

@[simp] theorem defer_none (limit : UInt16) : defer none limit = (none, none) := rfl

theorem defer_some_of_le {f : QueuedFrame} {limit : UInt16} (h : f.deferred.deferrals ≤ limit) :
    defer (some f) limit = (some f.deferred, none) := if_pos h

theorem defer_some_of_lt {f : QueuedFrame} {limit : UInt16} (h : limit < f.deferred.deferrals) :
    defer (some f) limit = (none, some f.deferred) := if_neg (UInt16.not_le.mpr h)

end Outbox

end SlottedMac
