import SlottedMac.Node.Beacon

/-!
# The operations of a node

These are the things that a host and the layers above do to a node. Each one
reads the clock once, as it stands in the state. `Operation` makes them data,
so that what a node does over a run is a function of a list.
-/

namespace SlottedMac

namespace Node

variable {M ε : Type}

/-- Start the node. It forgets its time base; a coordinator arms the alarm for
its first beacon. -/
def start (n : Node M) : Reply ε × Node M :=
  let n := { n with time := .initial, journal := .started n.alarms.now :: n.journal }
  match n.config.role with
  | .coordinator =>
    let (cadence, delay) := n.cadence.start n.coarseNow
    { n with cadence }.armBeaconAlarm delay
  | _ => (.ok (), n)

/-- Count a slot alarm that came later than the deadline allows. -/
def noteLateness (n : Node M) : Node M :=
  if n.fineNow.reached n.slotDeadline && n.config.deadline < n.fineNow.since n.slotDeadline then
    { n with stats.deadlineMisses := n.stats.deadlineMisses.bump }
  else
    n

variable [Medium M ε]

/-- A slot alarm came. The host has used it up. -/
def slotAlarmFired (n : Node M) : Except Fault (Reply ε × Node M) :=
  let n := { n with slotAlarm := none }.noteLateness
  if n.arbitration = .backingOff then n.endBackoff else n.attendSlot true

/-- A beacon alarm came. The host has used it up. For a member this is the
watchdog, which goes on while sync holds. -/
def beaconAlarmFired (n : Node M) : Except Fault (Reply ε × Node M) :=
  let n := { n with beaconAlarm := none }
  match n.config.role with
  | .coordinator => n.sendBeacon
  | .member _ => .ok (if n.time.synchronized then n.armBeaconAlarm n.syncRemaining else (.ok (), n))
  | .beaconless => .ok (.ok (), n)

/-- An alarm of a kind came. -/
def alarmFired (n : Node M) (kind : AlarmKind) : Except Fault (Reply ε × Node M) :=
  match kind with
  | .slot => n.expireSync.slotAlarmFired
  | .beacon => n.expireSync.beaconAlarmFired

/-- Look after a frame that was captured now. Outside of its slot a node that
may steal backs off first; otherwise a slot alarm that is already in use for the
slot will see to the frame. -/
def arrange (n : Node M) : Except Fault (Reply ε × Node M) := do
  let (placement, n) ← n.placement
  if n.config.mode = .zmac ∧ placement.isInside = false ∧ n.inFlight.isNone then
    let (backoff, words) := n.words.backoff n.config.backoffBound
    return { n with words }.armSlotAlarm backoff .backingOff
  else if n.slotAlarm.isNone || placement.isInside then
    n.attendSlot false
  else
    return (.ok (), n)

/-- Send bytes to a node. What becomes of them is reported later under `token`. -/
def send (n : Node M) (token : Token) (destination : Address) (bytes : List UInt8) :
    Except Fault (Reply ε × Node M) :=
  match Payload.ofBytes? bytes with
  | none => .ok (.error .payloadTooLong, n)
  | some payload =>
    (n.expireSync.capture { token, destination, payload, queuedAt := n.fineNow }).arrange

/-- Bytes came in from the air. Everything but the beacons that the node
follows is for the layers above. -/
def receive (n : Node M) (bytes : List UInt8) : Except Fault (Reply ε × Node M) :=
  match Frame.read bytes with
  | .error e => .ok (.error (.decode e), { n with stats.decodeErrors := n.stats.decodeErrors.bump })
  | .ok frame =>
    match n.followed? frame with
    | some header => n.followBeacon header
    | none =>
      .ok (.ok (),
        n.post (.received frame.header.source frame.header.destination frame.payload))

end Node

/-- Something that is done to a node. -/
inductive Operation where
  | start
  | send (token : Token) (destination : Address) (bytes : List UInt8)
  | alarmFired (kind : AlarmKind)
  | receive (bytes : List UInt8)
  | complete (channel : Channel) (completion : Completion) (transmissions : UInt8)
  | poll
  | powerOn
  | powerOff (keepOn : Bool)
deriving DecidableEq, Repr

/-- What a node answers to an operation. -/
inductive Answer (ε : Type) where
  /-- Done, or why not. -/
  | reply (reply : Reply ε)
  /-- The report fetched, if there was one. -/
  | event (event : Option Event)
  /-- Whether the radio did as it was asked. -/
  | power (done : Bool)
  /-- Taken note of. -/
  | noted

namespace Node

variable {M ε : Type} [Medium M ε]

/-- Do an operation to a node. -/
def perform (n : Node M) : Operation → Except Fault (Answer ε × Node M)
  | .start => .ok (n.start.map .reply id)
  | .send token destination bytes => return (← n.send token destination bytes).map .reply id
  | .alarmFired kind => return (← n.alarmFired kind).map .reply id
  | .receive bytes => return (← n.receive bytes).map .reply id
  | .complete channel completion transmissions =>
    .ok (.noted, n.complete channel completion transmissions)
  | .poll => .ok (n.poll.map .event id)
  | .powerOn => .ok ((n.onMedium Medium.powerOn).map .power id)
  | .powerOff keepOn => .ok ((n.onMedium (Medium.powerOff · keepOn)).map .power id)

end Node

end SlottedMac
