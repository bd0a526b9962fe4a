import SlottedMac.Node.Slot

/-!
# Keeping time with beacons

A coordinator sends beacons at its cadence and starts its own grid anew with
each one. A member starts its grid anew with each beacon of its coordinator and
arms a watchdog, so that it notices the want of beacons even in silence. The
next alarm is always armed before the grid is touched; if that fails, the grid
stays as it was.
-/

namespace SlottedMac.Node

variable {M ε : Type}

/-- End the sync of a member that has gone without beacons for too long. -/
def expireSync (n : Node M) : Node M :=
  match n.config.role with
  | .member _ =>
    match n.time.dropStale n.coarseNow n.config.syncTimeout with
    | (time, true) => { n with time, stats.syncLost := n.stats.syncLost.bump }
    | (time, false) => { n with time }
  | _ => n

/-- Time that a member has left until its sync ends. -/
def syncRemaining (n : Node M) : Ticks :=
  n.config.syncTimeout.subSat (n.coarseNow.since n.time.lastSync)

/-- The header of a frame that is the time reference this node follows. -/
def followed? (n : Node M) (frame : Frame) : Option Header :=
  match n.config.role, frame with
  | .member coordinator, .beacon header =>
    if header.source = coordinator then some header else none
  | _, _ => none

/-- The time reference that the node would send now. -/
def reference (n : Node M) : Frame := .timeReference n.address n.seq

/-- The node with the next beacon intended. -/
def planned (n : Node M) (cadence : Cadence) (beat : Cadence.Beat) : Node M :=
  { n with cadence, stats.beaconsSkipped := n.stats.beaconsSkipped.addSat beat.skipped }

/-- The node after it noted a beacon of the coordinator. -/
def informed (n : Node M) (header : Header) : Node M :=
  { n with
    stats.beaconsReceived := n.stats.beaconsReceived.bump
    journal := .followed header :: n.journal }

/-- The node with its period grid started anew now. -/
def anchored (n : Node M) : Node M :=
  { n with
    time := .ofBeacon n.fineNow n.coarseNow
    journal := .gridRestarted n.alarms.now :: n.journal }

/-- Go on after an alarm was asked for, unless it was refused. -/
def proceed (armed : Reply ε × Node M) (rest : Node M → Except Fault (Reply ε × Node M)) :
    Except Fault (Reply ε × Node M) :=
  match armed with
  | (.error e, n) => .ok (.error e, n)
  | (.ok (), n) => rest n

variable [Medium M ε]

/-- Start the period grid now. The slot alarm, if it is in use for the slot, was
armed against the old grid, so the slot is looked at again. -/
def restartGrid (n : Node M) : Except Fault (Reply ε × Node M) :=
  let n := n.anchored
  if n.slotAlarm.isSome && n.arbitration != .backingOff then
    n.attendSlot false
  else
    .ok (.ok (), n)

/-- Hand a beacon to the medium and start the grid with it. -/
def broadcast (n : Node M) : Except Fault (Reply ε × Node M) := do
  let (answer, n) ← n.submit .beacon n.reference none
  match answer with
  | .error e => return (.error (.medium e), n)
  | .ok () =>
    let n := { n with stats.beaconsSent := n.stats.beaconsSent.bump }
    n.restartGrid

/-- Send a beacon, once the alarm for the next one is armed. -/
def sendBeacon (n : Node M) : Except Fault (Reply ε × Node M) := do
  let (cadence, beat) ← n.cadence.advance n.coarseNow
  proceed ((n.planned cadence beat).armBeaconAlarm beat.wait) broadcast

/-- Follow a beacon of the coordinator. -/
def followBeacon (n : Node M) (header : Header) : Except Fault (Reply ε × Node M) :=
  proceed ((n.informed header).armBeaconAlarm n.config.syncTimeout) restartGrid

end SlottedMac.Node
