import SlottedMac.Clock

/-!
# Statistics of a node

Every counter stops at its largest value instead of starting anew.
-/

namespace SlottedMac

/-- A counter that stops at its largest value. -/
abbrev Counter := UInt32

namespace Counter

/-- Count `amount` more. -/
def addSat (c : Counter) (amount : UInt32) : Counter :=
  UInt32.ofNat (min (c.toNat + amount.toNat) (UInt32.size - 1))

/-- Count one more. -/
def bump (c : Counter) : Counter := c.addSat 1

theorem toNat_addSat (c : Counter) (amount : UInt32) :
    (c.addSat amount).toNat = min (c.toNat + amount.toNat) 0xFFFFFFFF := by
  simp only [addSat, UInt32.size, UInt32.toNat_ofNat']
  exact Nat.mod_eq_of_lt (by omega)

theorem toNat_bump (c : Counter) : c.bump.toNat = min (c.toNat + 1) 0xFFFFFFFF := by
  rw [bump, toNat_addSat]
  rfl

end Counter

/-- Counts of what happened to a node. -/
structure Stats where
  /-- Own beacons that were accepted by the medium. -/
  beaconsSent : Counter := 0
  /-- Beacons of the coordinator that were received. -/
  beaconsReceived : Counter := 0
  /-- Beacon intervals that passed without a firing. -/
  beaconsSkipped : Counter := 0
  /-- Times that sync ended for want of beacons. -/
  syncLost : Counter := 0
  /-- Slot alarms that came later than the deadline allows. -/
  deadlineMisses : Counter := 0
  /-- Periods in which a waiting frame was not sent. -/
  deferrals : Counter := 0
  /-- Frames given up after too many deferrals. -/
  expired : Counter := 0
  /-- Times that the channel was sensed for a steal. -/
  stealAttempts : Counter := 0
  /-- Frames sent in a slot that was stolen. -/
  steals : Counter := 0
  /-- Steals given up because somebody was heard. -/
  channelBusy : Counter := 0
  /-- Data frames refused by the medium. -/
  refused : Counter := 0
  /-- Received bytes that were no frame. -/
  decodeErrors : Counter := 0
  /-- Reports turned away by a full queue. -/
  droppedEvents : Counter := 0
  /-- Time from handing over to sending, for the last frame sent. -/
  lastDelay : Ticks := 0
  /-- Longest such time. -/
  maxDelay : Ticks := 0
deriving DecidableEq, Repr

end SlottedMac
