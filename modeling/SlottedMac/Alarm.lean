import SlottedMac.Clock

/-!
# Alarms of the host

A node asks its host for one-shot callbacks. The host keeps the callbacks that
are still to come in the order in which they were armed; each has a handle of
its own, so that cancelling one never hits another. The host may run out of
alarms, for each kind on its own.

The host's clock is true time in microseconds. Slot alarms are armed in
microseconds, beacon alarms in milliseconds.
-/

namespace SlottedMac

/-- What an alarm is for. A node has at most one callback of each kind in use. -/
inductive AlarmKind where
  /-- The owned slot or the end of a backoff, in microseconds. -/
  | slot
  /-- The next beacon, sent or missed, in milliseconds. -/
  | beacon
deriving DecidableEq, Repr

/-- Why an alarm could not be armed. -/
inductive AlarmError where
  /-- No alarm is left. -/
  | exhausted
  /-- The delay is too long. -/
  | outOfRange
deriving DecidableEq, Repr

/-- Microseconds in one tick of an alarm of this kind. -/
def AlarmKind.resolution : AlarmKind → Nat
  | .slot => 1
  | .beacon => 1000

/-- A callback that is still to come. -/
structure Callback where
  handle : Nat
  kind : AlarmKind
  /-- The delay that was asked for, in ticks of the kind. -/
  delay : Ticks
  /-- True time at which it is to come. -/
  due : Nat
deriving DecidableEq, Repr

/-- The clock of a host and the callbacks that it keeps for one node. -/
structure AlarmClock where
  /-- True time. -/
  now : Nat := 0
  /-- Callbacks still to come, first armed first. -/
  live : List Callback := []
  /-- Handle of the next callback. -/
  nextHandle : Nat := 0
  /-- Live callbacks cancelled so far. -/
  cancelled : Nat := 0
  /-- The error with which slot alarms are refused, if they are. -/
  slotRefusal : Option AlarmError := none
  /-- The error with which beacon alarms are refused, if they are. -/
  beaconRefusal : Option AlarmError := none
deriving DecidableEq, Repr

namespace AlarmClock

/-- The error with which alarms of a kind are refused now. -/
def refusal (c : AlarmClock) : AlarmKind → Option AlarmError
  | .slot => c.slotRefusal
  | .beacon => c.beaconRefusal

/-- Refuse alarms of a kind from now on, or grant them again. -/
def refuse (c : AlarmClock) (kind : AlarmKind) (error : Option AlarmError) : AlarmClock :=
  match kind with
  | .slot => { c with slotRefusal := error }
  | .beacon => { c with beaconRefusal := error }

/-- The callback that arming would add now. -/
def upcoming (c : AlarmClock) (kind : AlarmKind) (delay : Ticks) : Callback where
  handle := c.nextHandle
  kind
  delay
  due := c.now + delay.toNat * kind.resolution

/-- Arm a callback, unless alarms of its kind are refused. -/
def arm (c : AlarmClock) (kind : AlarmKind) (delay : Ticks) : Except AlarmError Nat × AlarmClock :=
  match c.refusal kind with
  | some e => (.error e, c)
  | none =>
    (.ok c.nextHandle,
      { c with live := c.live ++ [c.upcoming kind delay], nextHandle := c.nextHandle + 1 })

/-- Cancel the callback with this handle. Nothing happens if it came already. -/
def cancel (c : AlarmClock) (handle : Nat) : AlarmClock :=
  if c.live.any (·.handle == handle) then
    { c with
      live := c.live.eraseP (·.handle == handle)
      cancelled := c.cancelled + 1 }
  else
    c

/-- Cancel the callback that is held, if one is. -/
def release (c : AlarmClock) (held : Option Nat) : AlarmClock :=
  match held with
  | some handle => c.cancel handle
  | none => c

/-- The first callback of a kind still to come. -/
def first? (c : AlarmClock) (kind : AlarmKind) : Option Callback :=
  c.live.find? (·.kind == kind)

/-- Take the first callback of a kind out, as a host does when it comes. -/
def consume (c : AlarmClock) (kind : AlarmKind) : AlarmClock :=
  { c with live := c.live.eraseP (·.kind == kind) }

/-- The callback that comes next: the first of each kind that is due first, a
beacon before a slot due at the same time. -/
def next? (c : AlarmClock) : Option Callback :=
  match c.first? .beacon, c.first? .slot with
  | some beacon, some slot => if beacon.due ≤ slot.due then some beacon else some slot
  | some beacon, none => some beacon
  | none, slot => slot

@[simp] theorem release_none (c : AlarmClock) : c.release none = c := rfl

@[simp] theorem release_some (c : AlarmClock) (handle : Nat) :
    c.release (some handle) = c.cancel handle := rfl

@[simp] theorem cancel_now (c : AlarmClock) (handle : Nat) : (c.cancel handle).now = c.now := by
  rw [cancel]
  split <;> rfl

@[simp] theorem release_now (c : AlarmClock) (held : Option Nat) :
    (c.release held).now = c.now := by
  cases held <;> simp

@[simp] theorem arm_now (c : AlarmClock) (kind : AlarmKind) (delay : Ticks) :
    (c.arm kind delay).2.now = c.now := by
  rw [arm]
  split <;> rfl

@[simp] theorem refuse_now (c : AlarmClock) (kind : AlarmKind) (error : Option AlarmError) :
    (c.refuse kind error).now = c.now := by
  cases kind <;> rfl

@[simp] theorem refuse_live (c : AlarmClock) (kind : AlarmKind) (error : Option AlarmError) :
    (c.refuse kind error).live = c.live := by
  cases kind <;> rfl

@[simp] theorem refuse_nextHandle (c : AlarmClock) (kind : AlarmKind) (error : Option AlarmError) :
    (c.refuse kind error).nextHandle = c.nextHandle := by
  cases kind <;> rfl

/-- Cancelling leaves the callbacks with other handles. -/
theorem mem_cancel {c : AlarmClock} {handle : Nat} {k : Callback} (other : k.handle ≠ handle) :
    k ∈ (c.cancel handle).live ↔ k ∈ c.live := by
  rw [cancel]
  split
  · exact List.mem_eraseP_of_neg (by simpa using other)
  · rfl

end AlarmClock

end SlottedMac
