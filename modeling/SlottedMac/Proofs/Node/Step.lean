import SlottedMac.Node.Operation
import SlottedMac.Proofs.Fault
import SlottedMac.Proofs.Layout.Window

/-!
# The deeds of a node, one at a time

Every operation of a node is a sequence of few kinds of deeds, and `Step` says
once what each kind may do and when. A property that each deed keeps holds after
every operation, whatever the operation is for; which kinds of deeds an
operation can do at all is the subject of the modules that follow.

Between the deeds of one operation a node may be in a state that no caller sees:
a frame may wait without an alarm, for example. What is true between operations
only is therefore not a matter of single deeds.
-/

namespace SlottedMac.Node

variable {M ε : Type}

/-- The kinds of deeds. -/
inductive Deed where
  /-- Forget the time base, and begin the cadence anew. -/
  | start
  /-- Intend the next beacon. -/
  | plan
  /-- End a sync that is stale. -/
  | expire
  /-- Bring the period grid up to date. -/
  | align
  /-- Take a frame over. -/
  | capture
  /-- Hand the waiting frame over in the owned slot. -/
  | offer
  /-- Listen to the channel. -/
  | sense
  /-- Hand the waiting frame over on a channel that was heard to be clear. -/
  | steal
  /-- Leave a busy channel alone. -/
  | giveWay
  /-- Count a period for the waiting frame. -/
  | defer
  | armSlot
  | armBeacon
  /-- Let go of an alarm that came. -/
  | spendSlot
  | spendBeacon
  /-- Draw a backoff. -/
  | draw
  /-- Send a beacon, which starts the grid if it is accepted. -/
  | emit
  /-- Take note of a beacon of the coordinator. -/
  | follow
  /-- Start the grid with that beacon. -/
  | anchor
  | complete
  | fetch
  /-- Pass a frame to the layers above. -/
  | deliver
  /-- Turn bytes away that are no frame. -/
  | reject
  /-- Switch the radio. -/
  | power
deriving DecidableEq, Repr

/-- Distance from the start of the period grid. -/
def offset (n : Node M) : Nat := (n.fineNow.since n.time.origin).toNat

/-- Whether a transmission may start in the owned slot at this moment. -/
def OwnsNow (n : Node M) : Prop := n.config.layout.Owns n.slot n.offset

/-- Whether the period grid is up to date: it starts less than a period ago, or
so shortly ago that it needs no moving on. -/
def Current (n : Node M) : Prop := n.offset < max 0x40000000 n.config.layout.period.toNat

/-- The delay to the next start of the owned slot. -/
def toSlot (n : Node M) : Ticks := UInt32.ofNat (n.config.layout.toOpening n.slot n.offset)

/-- What slot alarms are asked for: the end of the backoff of a frame that waits,
or the next start of the owned slot by a grid that is up to date. -/
def Aims (n : Node M) (delay : Ticks) (purpose : Arbitration) : Prop :=
  purpose = .backingOff ∧ n.outbox.isSome ∨ n.Current ∧ delay = n.toSlot

/-! ## What the parts of a deed leave alone

Each equation names the fields that a function may change; all others are as
they were. -/

theorem post_eq (n : Node M) (event : Event) :
    ∃ events droppedEvents journal,
      n.post event =
        { n with events, stats := { n.stats with droppedEvents }, journal } := by
  rw [post]
  split
  · exact ⟨_, n.stats.droppedEvents, _, rfl⟩
  · exact ⟨n.events, _, _, rfl⟩

theorem capture_eq (n : Node M) (frame : QueuedFrame) :
    ∃ events droppedEvents journal,
      n.capture frame =
        { n with
          outbox := some frame, events, stats := { n.stats with droppedEvents }, journal } := by
  rw [capture]
  dsimp only [Outbox.put]
  cases n.outbox with
  | none => exact ⟨n.events, n.stats.droppedEvents, _, rfl⟩
  | some previous =>
    obtain ⟨events, droppedEvents, journal, same⟩ := post_eq
      { n with outbox := some frame, journal := .captured frame n.alarms.now :: n.journal }
      (.sent previous.token .cancelled 0)
    exact ⟨events, droppedEvents, journal, same⟩

theorem abandon_eq (n : Node M) :
    ∃ events droppedEvents journal,
      n.abandon =
        { n with outbox := none, events, stats := { n.stats with droppedEvents }, journal } := by
  rw [abandon]
  dsimp only [Outbox.take]
  cases n.outbox with
  | none => exact ⟨n.events, n.stats.droppedEvents, n.journal, rfl⟩
  | some frame => exact post_eq { n with outbox := none } (.sent frame.token .failed 0)

theorem deferWaiting_eq (n : Node M) :
    ∃ outbox events expired droppedEvents journal,
      n.deferWaiting =
        { n with
          outbox, events, journal
          stats := { n.stats with
            deferrals := n.stats.deferrals.bump, expired, droppedEvents } } := by
  rw [deferWaiting]
  cases n.outbox.defer n.config.maxDeferrals with
  | mk outbox given =>
    cases given with
    | none => exact ⟨outbox, n.events, n.stats.expired, n.stats.droppedEvents, n.journal, rfl⟩
    | some frame =>
      obtain ⟨events, droppedEvents, journal, same⟩ := post_eq
        { n with
          outbox
          stats.deferrals := n.stats.deferrals.bump
          stats.expired := n.stats.expired.bump }
        (.sent frame.token .expired 0)
      exact ⟨outbox, events, _, droppedEvents, journal, same⟩

theorem expireSync_eq (n : Node M) :
    ∃ synchronized syncLost,
      n.expireSync =
        { n with time.synchronized := synchronized, stats := { n.stats with syncLost } } := by
  rw [expireSync, TimeBase.dropStale]
  split
  · split
    · next drop =>
      split at drop <;> cases drop
      exact ⟨false, _, rfl⟩
    · next keep =>
      split at keep <;> cases keep
      exact ⟨n.time.synchronized, n.stats.syncLost, rfl⟩
  · exact ⟨n.time.synchronized, n.stats.syncLost, rfl⟩

/-- Only a member may lose its sync, and with it nothing else. -/
theorem expireSync_time (n : Node M) :
    n.expireSync.time = n.time ∨
      (∃ coordinator, n.config.role = .member coordinator) ∧
        n.expireSync.time = { n.time with synchronized := false } := by
  rw [expireSync]
  split
  · next coordinator role =>
    rw [TimeBase.dropStale]
    split
    · next drop =>
      split at drop <;> cases drop
      exact .inr ⟨⟨coordinator, role⟩, rfl⟩
    · next keep =>
      split at keep <;> cases keep
      exact .inl rfl
  · exact .inl rfl

/-- Sync that is stale ends. -/
theorem expireSync_ends {n : Node M} {coordinator : Address}
    (role : n.config.role = .member coordinator)
    (stale : n.time.synchronized = true →
      n.config.syncTimeout ≤ n.coarseNow.since n.time.lastSync) :
    n.expireSync.time.synchronized = false := by
  rw [expireSync, role]
  cases sync : n.time.synchronized with
  | false => simp [TimeBase.dropStale, TimeBase.isStale, sync]
  | true => simp [TimeBase.dropStale, TimeBase.isStale, sync, stale sync]

theorem noteLateness_eq (n : Node M) :
    ∃ deadlineMisses,
      n.noteLateness = { n with stats := { n.stats with deadlineMisses } } := by
  rw [noteLateness]
  split
  · exact ⟨_, rfl⟩
  · exact ⟨n.stats.deadlineMisses, rfl⟩

theorem complete_eq (n : Node M) (channel : Channel) (completion : Completion)
    (transmissions : UInt8) :
    ∃ inFlight events droppedEvents journal,
      n.complete channel completion transmissions =
        { n with inFlight, events, stats := { n.stats with droppedEvents }, journal } := by
  unfold complete
  split
  · next frame _ =>
    obtain ⟨events, droppedEvents, journal, same⟩ := post_eq
      { n with inFlight := none, journal := .completed frame.token :: n.journal }
      (.sent frame.token (.ofCompletion completion frame.synchronized) transmissions)
    exact ⟨none, events, droppedEvents, journal, same⟩
  · exact ⟨n.inFlight, n.events, n.stats.droppedEvents, n.journal, rfl⟩

theorem poll_eq (n : Node M) :
    ∃ events journal, n.poll.2 = { n with events, journal } := by
  rw [poll]
  split
  · exact ⟨_, _, rfl⟩
  · exact ⟨n.events, n.journal, rfl⟩

theorem armSlotAlarm_eq (n : Node M) (delay : Ticks) (purpose : Arbitration) :
    ∃ slotDeadline arbitration outbox events droppedEvents journal,
      (n.armSlotAlarm delay purpose : Reply ε × Node M).2 =
        { n with
          alarms := ((n.alarms.release n.slotAlarm).arm .slot delay).2
          slotAlarm := ((n.alarms.release n.slotAlarm).arm .slot delay).1.toOption
          stats := { n.stats with droppedEvents }
          slotDeadline, arbitration, outbox, events, journal } := by
  rw [armSlotAlarm]
  split
  · next granted =>
    exact ⟨_, _, n.outbox, n.events, n.stats.droppedEvents, _, by rw [granted]; rfl⟩
  · next refused =>
    obtain ⟨events, droppedEvents, journal, same⟩ := abandon_eq
      { n with
        alarms := ((n.alarms.release n.slotAlarm).arm .slot delay).2
        slotAlarm := none
        arbitration := .idle
        journal := .slotAlarm delay purpose false :: n.journal }
    rw [refused] at same ⊢
    exact ⟨_, _, _, events, droppedEvents, journal, same⟩

theorem armBeaconAlarm_eq (n : Node M) (delay : Ticks) :
    ∃ journal,
      (n.armBeaconAlarm delay : Reply ε × Node M).2 =
        { n with
          alarms := ((n.alarms.release n.beaconAlarm).arm .beacon delay).2
          beaconAlarm := ((n.alarms.release n.beaconAlarm).arm .beacon delay).1.toOption
          journal } := by
  rw [armBeaconAlarm]
  split
  · next granted => exact ⟨_, by rw [granted]; rfl⟩
  · next refused => exact ⟨_, by rw [refused]; rfl⟩

/-- The node with its period grid brought up to date. -/
def aligned (n : Node M) : Node M :=
  { n with time := n.time.caughtUp n.fineNow n.config.layout.period }

/-- What no deed changes, and what every deed keeps in shape. -/
structure Same (n m : Node M) : Prop where
  address : m.address = n.address
  config : m.config = n.config
  slot : m.slot = n.slot
  now : m.alarms.now = n.alarms.now
  interval : m.cadence.interval = n.cadence.interval
  room : n.buffer.length = maxFrame → m.buffer.length = maxFrame

namespace Same

theorem refl (n : Node M) : Same n n := ⟨rfl, rfl, rfl, rfl, rfl, id⟩

theorem trans {n m k : Node M} (h : Same n m) (h' : Same m k) : Same n k where
  address := h'.address.trans h.address
  config := h'.config.trans h.config
  slot := h'.slot.trans h.slot
  now := h'.now.trans h.now
  interval := h'.interval.trans h.interval
  room := h'.room ∘ h.room

variable {n m : Node M}

theorem offset (h : Same n m) (grid : m.time.origin = n.time.origin) : m.offset = n.offset := by
  rw [Node.offset, fineNow, h.now, grid]
  rfl

theorem toSlot (h : Same n m) (grid : m.time.origin = n.time.origin) : m.toSlot = n.toSlot := by
  rw [Node.toSlot, h.config, h.slot, h.offset grid]
  rfl

theorem current (h : Same n m) (grid : m.time.origin = n.time.origin) (current : n.Current) :
    m.Current := by
  rw [Current, h.config, h.offset grid]
  exact current

end Same

theorem armSlotAlarm_same (n : Node M) (delay : Ticks) (purpose : Arbitration) :
    Same n (n.armSlotAlarm delay purpose : Reply ε × Node M).2 := by
  obtain ⟨_, _, _, _, _, _, same⟩ := n.armSlotAlarm_eq (ε := ε) delay purpose
  rw [same]
  exact ⟨rfl, rfl, rfl, by simp, rfl, id⟩

theorem armBeaconAlarm_same (n : Node M) (delay : Ticks) :
    Same n (n.armBeaconAlarm delay : Reply ε × Node M).2 := by
  obtain ⟨_, same⟩ := n.armBeaconAlarm_eq (ε := ε) delay
  rw [same]
  exact ⟨rfl, rfl, rfl, by simp, rfl, id⟩

theorem anchored_same (n : Node M) : Same n n.anchored := ⟨rfl, rfl, rfl, rfl, rfl, id⟩

theorem informed_same (n : Node M) (header : Header) : Same n (n.informed header) :=
  ⟨rfl, rfl, rfl, rfl, rfl, id⟩

theorem planned_same {n : Node M} {cadence : Cadence} {beat : Cadence.Beat}
    (next : n.cadence.advance n.coarseNow = .ok (cadence, beat)) :
    Same n (n.planned cadence beat) := by
  obtain ⟨_, _, same, _⟩ := Cadence.advance_cases next
  rw [planned, same]
  exact ⟨rfl, rfl, rfl, rfl, rfl, id⟩

section Medium

variable [Medium M ε]

/-- Whether the medium takes a frame at this moment. -/
def accepts (n : Node M) (channel : Channel) (frame : Frame) : Bool :=
  (Medium.transmit n.medium channel frame.bytes).1.isOk

/-- The account of handing a frame to the medium at this moment. -/
def submission (n : Node M) (channel : Channel) (frame : Frame) (queued : Option QueuedFrame) :
    Submission where
  channel
  bytes := frame.bytes
  accepted := n.accepts channel frame
  time := n.alarms.now
  origin := n.time.origin
  synchronized := n.time.synchronized
  queued

/-- The node after a frame was handed to the medium, accepted or not. -/
def submitted (n : Node M) (channel : Channel) (frame : Frame) (queued : Option QueuedFrame) :
    Node M :=
  { n with
    medium := (Medium.transmit n.medium channel frame.bytes).2
    buffer := frame.bytes ++ n.buffer.drop frame.bytes.length
    seq := n.seq + 1
    journal := .submitted (n.submission channel frame queued) :: n.journal }

/-- The node after the waiting frame was handed to the medium. -/
def offered (n : Node M) (frame : QueuedFrame) : Node M :=
  let next := n.submitted .data (n.dataFrame frame) (some frame)
  if n.accepts .data (n.dataFrame frame) then next.launch frame
  else { next with stats.refused := n.stats.refused.bump }

/-- The node after the medium accepted its beacon. -/
def emitted (n : Node M) : Node M :=
  { n.submitted .beacon n.reference none with
    stats.beaconsSent := n.stats.beaconsSent.bump }.anchored

/-- What a node may do, one deed at a time. -/
inductive Step : Deed → Node M → Node M → Prop where
  | start {n : Node M} :
      Step .start n { n with time := .initial, journal := .started n.alarms.now :: n.journal }
  | begin {n : Node M} (role : n.config.role = .coordinator) :
      Step .start n { n with cadence := (n.cadence.start n.coarseNow).1 }
  | plan {n : Node M} {cadence : Cadence} {beat : Cadence.Beat}
      (role : n.config.role = .coordinator)
      (next : n.cadence.advance n.coarseNow = .ok (cadence, beat)) :
      Step .plan n (n.planned cadence beat)
  | expire {n : Node M} : Step .expire n n.expireSync
  | align {n : Node M} : Step .align n n.aligned
  | capture {n : Node M} (frame : QueuedFrame) (new : frame.deferrals = 0 := by rfl) :
      Step .capture n (n.capture frame)
  | offer {n : Node M} {frame : QueuedFrame} (idle : n.inFlight = none)
      (waits : n.outbox = some frame) (owned : n.OwnsNow) : Step .offer n (n.offered frame)
  | sense {n : Node M} (ended : n.arbitration = .backingOff) : Step .sense n n.sense.2
  | steal {n : Node M} {frame : QueuedFrame} (ended : n.arbitration = .backingOff)
      (idle : n.inFlight = none) (waits : n.outbox = some frame)
      (heard : n.journal.head? = some (.sensed true)) :
      Step .steal n
        { n.offered frame with
          stats.steals :=
            if n.accepts .data (n.dataFrame frame) then n.stats.steals.bump else n.stats.steals }
  | giveWay {n : Node M} (heard : n.journal.head? = some (.sensed false)) :
      Step .giveWay n { n with stats.channelBusy := n.stats.channelBusy.bump }
  | defer {n : Node M} (waits : n.outbox.isSome) : Step .defer n n.deferWaiting
  | armSlot {n : Node M} (delay : Ticks) (purpose : Arbitration)
      (allowed : purpose = .backingOff → n.config.mode = .zmac) (aims : n.Aims delay purpose) :
      Step .armSlot n (n.armSlotAlarm delay purpose : Reply ε × Node M).2
  | armBeacon {n : Node M} (delay : Ticks) :
      Step .armBeacon n (n.armBeaconAlarm delay : Reply ε × Node M).2
  | spendSlot {n : Node M} : Step .spendSlot n { n with slotAlarm := none }.noteLateness
  | spendBeacon {n : Node M} : Step .spendBeacon n { n with beaconAlarm := none }
  | draw {n : Node M} : Step .draw n { n with words := (n.words.backoff n.config.backoffBound).2 }
  | emitRefused {n : Node M} (role : n.config.role = .coordinator)
      (refused : n.accepts .beacon n.reference = false) :
      Step .emit n (n.submitted .beacon n.reference none)
  | emit {n : Node M} (role : n.config.role = .coordinator)
      (accepted : n.accepts .beacon n.reference = true) : Step .emit n n.emitted
  | follow {n : Node M} (header : Header) : Step .follow n (n.informed header)
  | anchor {n : Node M} {coordinator : Address} (role : n.config.role = .member coordinator) :
      Step .anchor n n.anchored
  | complete {n : Node M} (channel : Channel) (completion : Completion) (transmissions : UInt8) :
      Step .complete n (n.complete channel completion transmissions)
  | fetch {n : Node M} : Step .fetch n n.poll.2
  | deliver {n : Node M} (source destination : Address) (payload : Payload) :
      Step .deliver n (n.post (.received source destination payload))
  | reject {n : Node M} :
      Step .reject n { n with stats.decodeErrors := n.stats.decodeErrors.bump }
  | power {n : Node M} (act : M → Bool × M) : Step .power n (n.onMedium act).2

theorem submitted_same (n : Node M) (channel : Channel) (frame : Frame)
    (queued : Option QueuedFrame) : Same n (n.submitted channel frame queued) := by
  refine ⟨rfl, rfl, rfl, rfl, rfl, ?_⟩
  intro room
  have fits := frame.length_bytes_le
  simp only [submitted, List.length_append, List.length_drop, room]
  omega

theorem offered_same (n : Node M) (frame : QueuedFrame) : Same n (n.offered frame) := by
  have handed := n.submitted_same .data (n.dataFrame frame) (some frame)
  rw [offered]
  dsimp only
  split
  · exact ⟨rfl, rfl, rfl, rfl, rfl, handed.room⟩
  · exact ⟨rfl, rfl, rfl, rfl, rfl, handed.room⟩

theorem Step.same {d : Deed} {n m : Node M} (step : Step d n m) : Same n m := by
  cases step with
  | start | begin | align | sense | giveWay | spendBeacon | draw | follow | anchor | reject |
    power => exact ⟨rfl, rfl, rfl, rfl, rfl, id⟩
  | plan role next => exact planned_same next
  | expire =>
    obtain ⟨_, _, same⟩ := n.expireSync_eq
    rw [same]
    exact ⟨rfl, rfl, rfl, rfl, rfl, id⟩
  | capture frame =>
    obtain ⟨_, _, _, same⟩ := n.capture_eq frame
    rw [same]
    exact ⟨rfl, rfl, rfl, rfl, rfl, id⟩
  | offer idle waits owned => exact offered_same _ _
  | @steal _ frame ended idle waits heard =>
    have handed := n.offered_same frame
    exact ⟨handed.address, handed.config, handed.slot, handed.now, handed.interval, handed.room⟩
  | defer waits =>
    obtain ⟨_, _, _, _, _, same⟩ := n.deferWaiting_eq
    rw [same]
    exact ⟨rfl, rfl, rfl, rfl, rfl, id⟩
  | armSlot delay purpose => exact armSlotAlarm_same _ _ _
  | armBeacon delay => exact armBeaconAlarm_same _ _
  | spendSlot =>
    obtain ⟨_, same⟩ := { n with slotAlarm := none }.noteLateness_eq
    rw [same]
    exact ⟨rfl, rfl, rfl, rfl, rfl, id⟩
  | emitRefused role refused => exact submitted_same _ _ _ _
  | emit role accepted =>
    have handed := n.submitted_same .beacon n.reference none
    exact ⟨rfl, rfl, rfl, rfl, rfl, handed.room⟩
  | complete channel completion transmissions =>
    obtain ⟨_, _, _, _, same⟩ := n.complete_eq channel completion transmissions
    rw [same]
    exact ⟨rfl, rfl, rfl, rfl, rfl, id⟩
  | fetch =>
    obtain ⟨_, _, same⟩ := n.poll_eq
    rw [same]
    exact ⟨rfl, rfl, rfl, rfl, rfl, id⟩
  | deliver source destination payload =>
    obtain ⟨_, _, _, same⟩ := n.post_eq (.received source destination payload)
    rw [same]
    exact ⟨rfl, rfl, rfl, rfl, rfl, id⟩

/-- Which kinds of deeds may change which parts of a node. -/
structure Kept (d : Deed) (n m : Node M) : Prop where
  time : d ∉ [.start, .expire, .align, .emit, .anchor] → m.time = n.time := by
    first | exact fun _ => rfl | exact fun other => absurd (by decide) other
  cadence : d ∉ [.start, .plan] → m.cadence = n.cadence := by
    first | exact fun _ => rfl | exact fun other => absurd (by decide) other
  outbox : d ∉ [.capture, .offer, .steal, .defer, .armSlot] → m.outbox = n.outbox := by
    first | exact fun _ => rfl | exact fun other => absurd (by decide) other
  arbitration : d ≠ .armSlot → m.arbitration = n.arbitration := by
    first | exact fun _ => rfl | exact fun other => absurd rfl other
  slotDeadline : d ≠ .armSlot → m.slotDeadline = n.slotDeadline := by
    first | exact fun _ => rfl | exact fun other => absurd rfl other
  inFlight : d ∉ [.offer, .steal, .complete] → m.inFlight = n.inFlight := by
    first | exact fun _ => rfl | exact fun other => absurd (by decide) other
  alarms : d ∉ [.armSlot, .armBeacon] → m.alarms = n.alarms := by
    first | exact fun _ => rfl | exact fun other => absurd (by decide) other
  slotAlarm : d ∉ [.armSlot, .spendSlot] → m.slotAlarm = n.slotAlarm := by
    first | exact fun _ => rfl | exact fun other => absurd (by decide) other
  beaconAlarm : d ∉ [.armBeacon, .spendBeacon] → m.beaconAlarm = n.beaconAlarm := by
    first | exact fun _ => rfl | exact fun other => absurd (by decide) other
  deadlineMisses : d ≠ .spendSlot → m.stats.deadlineMisses = n.stats.deadlineMisses := by
    first | exact fun _ => rfl | exact fun other => absurd rfl other
  beaconsReceived : d ≠ .follow → m.stats.beaconsReceived = n.stats.beaconsReceived := by
    first | exact fun _ => rfl | exact fun other => absurd rfl other
  beaconsSkipped : d ≠ .plan → m.stats.beaconsSkipped = n.stats.beaconsSkipped := by
    first | exact fun _ => rfl | exact fun other => absurd rfl other
  deferrals : d ≠ .defer → m.stats.deferrals = n.stats.deferrals := by
    first | exact fun _ => rfl | exact fun other => absurd rfl other
  syncLost : d ≠ .expire → m.stats.syncLost = n.stats.syncLost := by
    first | exact fun _ => rfl | exact fun other => absurd rfl other
  steals : d ≠ .steal → m.stats.steals = n.stats.steals := by
    first | exact fun _ => rfl | exact fun other => absurd rfl other
  seq : d ∉ [.offer, .steal, .emit] → m.seq = n.seq := by
    first | exact fun _ => rfl | exact fun other => absurd (by decide) other
  medium : d ∉ [.offer, .sense, .steal, .emit, .power] → m.medium = n.medium := by
    first | exact fun _ => rfl | exact fun other => absurd (by decide) other
  events : d ∉ [.capture, .defer, .armSlot, .complete, .fetch, .deliver] →
      m.events = n.events := by
    first | exact fun _ => rfl | exact fun other => absurd (by decide) other

theorem Step.kept {d : Deed} {n m : Node M} (step : Step d n m) : Kept d n m := by
  cases step with
  | start | begin | plan | align | sense | giveWay | spendBeacon | draw | emitRefused | emit |
    follow | anchor | reject | power => exact {}
  | expire =>
    obtain ⟨_, _, same⟩ := n.expireSync_eq
    rw [same]
    exact {}
  | capture frame =>
    obtain ⟨_, _, _, same⟩ := n.capture_eq frame
    rw [same]
    exact {}
  | offer | steal =>
    rw [offered]
    dsimp only
    split <;> exact {}
  | defer =>
    obtain ⟨_, _, _, _, _, same⟩ := n.deferWaiting_eq
    rw [same]
    exact {}
  | armSlot delay purpose =>
    obtain ⟨_, _, _, _, _, _, same⟩ := n.armSlotAlarm_eq (ε := ε) delay purpose
    rw [same]
    exact {}
  | armBeacon delay =>
    obtain ⟨_, same⟩ := n.armBeaconAlarm_eq (ε := ε) delay
    rw [same]
    exact {}
  | spendSlot =>
    obtain ⟨_, same⟩ := { n with slotAlarm := none }.noteLateness_eq
    rw [same]
    exact {}
  | complete channel completion transmissions =>
    obtain ⟨_, _, _, _, same⟩ := n.complete_eq channel completion transmissions
    rw [same]
    exact {}
  | fetch =>
    obtain ⟨_, _, same⟩ := n.poll_eq
    rw [same]
    exact {}
  | deliver source destination payload =>
    obtain ⟨_, _, _, same⟩ := n.post_eq (.received source destination payload)
    rw [same]
    exact {}

end Medium

end SlottedMac.Node
