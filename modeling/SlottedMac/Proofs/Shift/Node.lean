import SlottedMac.Proofs.Course
import SlottedMac.Proofs.Shift.Readings

/-!
# Where the counters wrap

Every function of a node commutes with `shift`, which takes a state to the state
of the node whose clock is ahead. The equations go up the way operations are put
together, from the deeds to whole courses, and need no invariant: they hold in
every state, also where a computation ends in a fault.

Only the start of a node is left out. It puts the period grid to the zero of the
counter, which is the one reading that a node does not take from its clock.
-/

namespace SlottedMac

variable (ahead : Nat)

/-- What happens to a node that is ahead. -/
def Stimulus.shift {M : Type} (ahead : Nat) : Stimulus M → Stimulus M
  | .clock time => .clock (time + 1000 * ahead)
  | stimulus => stimulus

namespace Node

variable {M ε : Type}

/-- The node that differs in nothing but its clock, which is ahead. -/
def shift (ahead : Nat) (n : Node M) : Node M :=
  { n with
    alarms := n.alarms.shift ahead
    time := n.time.shift ahead
    cadence := n.cadence.shift ahead
    outbox := n.outbox.shift ahead
    slotDeadline := n.slotDeadline + fineAhead ahead
    journal := n.journal.map (JournalEntry.shift ahead) }

/-- An answer, and the node that gave it with its clock ahead. -/
def shifted {α : Type} (ahead : Nat) : α × Node M → α × Node M := Prod.map id (shift ahead)

@[simp] theorem shifted_mk {α : Type} (answer : α) (n : Node M) :
    shifted ahead (answer, n) = (answer, n.shift ahead) := rfl

section Fields

variable (n : Node M)

@[simp] theorem shift_address : (n.shift ahead).address = n.address := rfl

@[simp] theorem shift_config : (n.shift ahead).config = n.config := rfl

@[simp] theorem shift_slot : (n.shift ahead).slot = n.slot := rfl

@[simp] theorem shift_medium : (n.shift ahead).medium = n.medium := rfl

@[simp] theorem shift_alarms : (n.shift ahead).alarms = n.alarms.shift ahead := rfl

@[simp] theorem shift_words : (n.shift ahead).words = n.words := rfl

@[simp] theorem shift_seq : (n.shift ahead).seq = n.seq := rfl

@[simp] theorem shift_time : (n.shift ahead).time = n.time.shift ahead := rfl

@[simp] theorem shift_cadence : (n.shift ahead).cadence = n.cadence.shift ahead := rfl

@[simp] theorem shift_outbox : (n.shift ahead).outbox = n.outbox.shift ahead := rfl

@[simp] theorem shift_arbitration : (n.shift ahead).arbitration = n.arbitration := rfl

@[simp] theorem shift_inFlight : (n.shift ahead).inFlight = n.inFlight := rfl

@[simp] theorem shift_slotAlarm : (n.shift ahead).slotAlarm = n.slotAlarm := rfl

@[simp] theorem shift_slotDeadline :
    (n.shift ahead).slotDeadline = n.slotDeadline + fineAhead ahead := rfl

@[simp] theorem shift_beaconAlarm : (n.shift ahead).beaconAlarm = n.beaconAlarm := rfl

@[simp] theorem shift_stats : (n.shift ahead).stats = n.stats := rfl

@[simp] theorem shift_events : (n.shift ahead).events = n.events := rfl

@[simp] theorem shift_buffer : (n.shift ahead).buffer = n.buffer := rfl

@[simp] theorem fineNow_shift : (n.shift ahead).fineNow = n.fineNow + fineAhead ahead :=
  fine_ahead ahead n.alarms.now

@[simp] theorem coarseNow_shift : (n.shift ahead).coarseNow = n.coarseNow + coarseAhead ahead :=
  coarse_ahead ahead n.alarms.now

theorem waiting_shift : (n.shift ahead).waiting = n.waiting := by
  rw [waiting, fineNow_shift, shift_outbox, Outbox.status_shift]
  rfl

end Fields

/-! ## Deeds -/

section Deeds

variable (n : Node M)

theorem post_shift (event : Event) : (n.shift ahead).post event = (n.post event).shift ahead := by
  rw [post, post, shift_events]
  cases n.events.push? event <;> rfl

theorem postUnsent_shift (frame : QueuedFrame) (outcome : Outcome) :
    (n.shift ahead).postUnsent (frame.shift ahead) outcome =
      (n.postUnsent frame outcome).shift ahead :=
  n.post_shift ahead (.sent frame.token outcome 0)

theorem capture_shift (frame : QueuedFrame) :
    (n.shift ahead).capture (frame.shift ahead) = (n.capture frame).shift ahead := by
  rw [capture, capture, shift_outbox]
  dsimp only [Outbox.put]
  cases n.outbox with
  | none => rfl
  | some previous =>
    dsimp only [Outbox.shift_some]
    rw [← postUnsent_shift]
    rfl

theorem abandon_shift : (n.shift ahead).abandon = n.abandon.shift ahead := by
  rw [abandon, abandon, shift_outbox]
  dsimp only [Outbox.take]
  cases n.outbox with
  | none => rfl
  | some frame =>
    dsimp only [Outbox.shift_some]
    rw [← postUnsent_shift]
    rfl

theorem deferWaiting_shift : (n.shift ahead).deferWaiting = n.deferWaiting.shift ahead := by
  rw [deferWaiting, deferWaiting, shift_outbox, shift_config, Outbox.defer_shift]
  cases n.outbox.defer n.config.maxDeferrals with
  | mk outbox given =>
    cases given with
    | none => rfl
    | some frame =>
      dsimp only [Option.map_some]
      rw [← postUnsent_shift]
      rfl

theorem missSlot_shift : (n.shift ahead).missSlot = n.missSlot.shift ahead := by
  rw [missSlot, missSlot, shift_outbox, Outbox.shift_isSome]
  split
  · exact n.deferWaiting_shift ahead
  · rfl

theorem expireSync_shift : (n.shift ahead).expireSync = n.expireSync.shift ahead := by
  rw [expireSync, expireSync, shift_config, shift_time, coarseNow_shift, TimeBase.dropStale_shift]
  cases n.config.role with
  | member coordinator =>
    cases n.time.dropStale n.coarseNow n.config.syncTimeout with
    | mk time dropped => cases dropped <;> rfl
  | _ => rfl

theorem syncRemaining_shift : (n.shift ahead).syncRemaining = n.syncRemaining := by
  rw [syncRemaining, coarseNow_shift, shift_time, TimeBase.shift_lastSync, Ticks.since_add_right]
  rfl

theorem noteLateness_shift : (n.shift ahead).noteLateness = n.noteLateness.shift ahead := by
  simp only [noteLateness, fineNow_shift, shift_slotDeadline, Ticks.reached_add_right,
    Ticks.since_add_right, shift_config]
  split <;> rfl

theorem launch_shift (frame : QueuedFrame) :
    (n.shift ahead).launch (frame.shift ahead) = (n.launch frame).shift ahead := by
  have waited : Ticks.since (n.fineNow + fineAhead ahead) (frame.shift ahead).queuedAt =
      n.fineNow.since frame.queuedAt := Ticks.since_add_right ..
  simp only [launch, fineNow_shift, waited]
  rfl

theorem complete_shift (channel : Channel) (completion : Completion) (transmissions : UInt8) :
    (n.shift ahead).complete channel completion transmissions =
      (n.complete channel completion transmissions).shift ahead := by
  unfold complete
  rw [shift_inFlight]
  split
  · rw [← post_shift]
    rfl
  · rfl

theorem poll_shift : (n.shift ahead).poll = shifted ahead n.poll := by
  rw [poll, poll, shift_events]
  cases n.events.pop? <;> rfl

theorem anchored_shift : (n.shift ahead).anchored = n.anchored.shift ahead := by
  simp only [anchored, fineNow_shift, coarseNow_shift, TimeBase.ofBeacon_shift]
  rfl

theorem armSlotAlarm_shift (delay : Ticks) (purpose : Arbitration) :
    ((n.shift ahead).armSlotAlarm delay purpose : Reply ε × Node M) =
      shifted ahead (n.armSlotAlarm delay purpose) := by
  have deadline : n.fineNow + fineAhead ahead + delay = n.fineNow + delay + fineAhead ahead := by
    grind
  simp only [armSlotAlarm, shift_alarms, shift_slotAlarm, AlarmClock.release_shift,
    AlarmClock.arm_shift, fineNow_shift, shift_outbox, Outbox.shift_isSome, deadline]
  cases (n.alarms.release n.slotAlarm).arm .slot delay with
  | mk granted alarms =>
    cases granted with
    | ok handle => rfl
    | error e =>
      dsimp only [shifted_mk]
      rw [← abandon_shift]
      rfl

theorem armBeaconAlarm_shift (delay : Ticks) :
    ((n.shift ahead).armBeaconAlarm delay : Reply ε × Node M) =
      shifted ahead (n.armBeaconAlarm delay) := by
  simp only [armBeaconAlarm, shift_alarms, shift_beaconAlarm, AlarmClock.release_shift,
    AlarmClock.arm_shift]
  cases (n.alarms.release n.beaconAlarm).arm .beacon delay with
  | mk granted alarms => cases granted <;> rfl

/-- What goes on after an alarm was asked for goes on alike. -/
theorem proceed_shift (armed : Reply ε × Node M)
    {rest : Node M → Except Fault (Reply ε × Node M)}
    (alike : ∀ m, rest (m.shift ahead) = shifted ahead <$> rest m) :
    proceed (shifted ahead armed) rest = shifted ahead <$> proceed armed rest := by
  obtain ⟨_ | _, m⟩ := armed
  · rfl
  · exact alike m

end Deeds

section Medium

variable [Medium M ε] (n : Node M)

theorem submit_shift (channel : Channel) (frame : Frame) (queued : Option QueuedFrame) :
    (n.shift ahead).submit channel frame (queued.map (QueuedFrame.shift ahead)) =
      shifted ahead <$> n.submit channel frame queued := by
  simp only [submit, shift_buffer, map_bind, map_pure]
  rfl

theorem dataFrame_shift (frame : QueuedFrame) :
    (n.shift ahead).dataFrame (frame.shift ahead) = n.dataFrame frame := rfl

theorem handOver_shift : (n.shift ahead).handOver = shifted ahead <$> n.handOver := by
  rw [handOver, handOver, shift_inFlight, shift_outbox]
  split
  · rfl
  · cases n.outbox with
    | none => rfl
    | some frame =>
      have handed := n.submit_shift ahead .data (n.dataFrame frame) (some frame)
      dsimp only [Outbox.shift_some]
      rw [dataFrame_shift]
      rw [show some (frame.shift ahead) = (some frame).map (QueuedFrame.shift ahead) from rfl]
      rw [handed, bind_map_left, map_bind]
      congr 1
      funext out
      obtain ⟨answer, m⟩ := out
      cases answer with
      | ok _ => exact congrArg (fun k => Except.ok (true, k)) (m.launch_shift ahead frame)
      | error _ => rfl

/-! ## Looks at the slot -/

theorem placement_shift :
    (n.shift ahead).placement =
      Prod.map (Placement.shift (fineAhead ahead)) (shift ahead) <$> n.placement := by
  simp only [placement, shift_time, fineNow_shift, shift_config, shift_slot,
    TimeBase.catchUp_shift, bind_map_left, TimeBase.shift_origin, Layout.place_shift, map_bind,
    map_pure]
  rfl

theorem useSlot_shift (periodic : Bool) :
    (n.shift ahead).useSlot periodic = shift ahead <$> n.useSlot periodic := by
  rw [useSlot, useSlot, shift_outbox, Outbox.shift_isSome]
  split
  · rw [handOver_shift, bind_map_left, map_bind]
    congr 1
    funext out
    obtain ⟨sent, m⟩ := out
    dsimp only [shifted_mk]
    rw [deferWaiting_shift]
    split <;> rfl
  · rfl

theorem attendSlot_shift (periodic : Bool) :
    ((n.shift ahead).attendSlot periodic : Except Fault (Reply ε × Node M)) =
      shifted ahead <$> n.attendSlot periodic := by
  rw [attendSlot, attendSlot, placement_shift, bind_map_left, map_bind]
  congr 1
  funext out
  obtain ⟨placement, m⟩ := out
  dsimp only [Prod.map, Placement.shift]
  cases placement.phase with
  | inside =>
    dsimp only
    rw [useSlot_shift, bind_map_left, map_bind]
    congr 1
    funext k
    simp only [shift_config, shift_slot, shift_time, TimeBase.shift_origin, fineNow_shift,
      Layout.untilNext_shift, armSlotAlarm_shift, map_bind, map_pure]
  | late periods =>
    simp only [missSlot_shift, map_pure, ← armSlotAlarm_shift]
    split <;> rfl
  | early => simp only [armSlotAlarm_shift, map_pure]

theorem sense_shift : (n.shift ahead).sense = shifted ahead n.sense := rfl

theorem trySteal_shift : (n.shift ahead).trySteal = shift ahead <$> n.trySteal := by
  rw [trySteal, trySteal, sense_shift]
  obtain ⟨clear, m⟩ := n.sense
  dsimp only [shifted_mk]
  cases StealDecision.ofSensing clear with
  | transmit =>
    dsimp only
    rw [handOver_shift, bind_map_left, map_bind]
    congr 1
    funext out
    obtain ⟨sent, k⟩ := out
    cases sent <;> rfl
  | abandon => rfl

theorem endBackoff_shift :
    ((n.shift ahead).endBackoff : Except Fault (Reply ε × Node M)) =
      shifted ahead <$> n.endBackoff := by
  rw [endBackoff, endBackoff, placement_shift, bind_map_left, map_bind]
  congr 1
  funext out
  obtain ⟨placement, m⟩ := out
  dsimp only [Prod.map]
  rw [Placement.shift_isInside, shift_outbox, Outbox.shift_isNone, shift_inFlight]
  split
  · exact m.attendSlot_shift ahead false
  · rw [trySteal_shift, bind_map_left, map_bind]
    simp only [armSlotAlarm_shift, map_pure, Placement.shift_wait]

/-! ## Beacons -/

theorem restartGrid_shift :
    ((n.shift ahead).restartGrid : Except Fault (Reply ε × Node M)) =
      shifted ahead <$> n.restartGrid := by
  simp only [restartGrid, anchored_shift, shift_slotAlarm, shift_arbitration, attendSlot_shift]
  split <;> rfl

theorem broadcast_shift :
    ((n.shift ahead).broadcast : Except Fault (Reply ε × Node M)) =
      shifted ahead <$> n.broadcast := by
  have handed := n.submit_shift ahead .beacon n.reference none
  rw [broadcast, broadcast, map_bind]
  rw [show (n.shift ahead).submit .beacon (n.shift ahead).reference none = _ from handed]
  rw [bind_map_left]
  congr 1
  funext out
  obtain ⟨answer, m⟩ := out
  cases answer with
  | ok _ => exact restartGrid_shift ahead { m with stats.beaconsSent := m.stats.beaconsSent.bump }
  | error _ => rfl

theorem sendBeacon_shift :
    ((n.shift ahead).sendBeacon : Except Fault (Reply ε × Node M)) =
      shifted ahead <$> n.sendBeacon := by
  rw [sendBeacon, sendBeacon, shift_cadence, coarseNow_shift, Cadence.advance_shift, bind_map_left,
    map_bind]
  congr 1
  funext out
  obtain ⟨cadence, beat⟩ := out
  rw [← proceed_shift ahead _ (broadcast_shift ahead), ← armBeaconAlarm_shift]
  rfl

theorem followBeacon_shift (header : Header) :
    ((n.shift ahead).followBeacon header : Except Fault (Reply ε × Node M)) =
      shifted ahead <$> n.followBeacon header := by
  rw [followBeacon, followBeacon, ← proceed_shift ahead _ (restartGrid_shift ahead),
    ← armBeaconAlarm_shift]
  rfl

/-! ## Operations -/

theorem slotAlarmFired_shift :
    ((n.shift ahead).slotAlarmFired : Except Fault (Reply ε × Node M)) =
      shifted ahead <$> n.slotAlarmFired := by
  have spent : ({ n.shift ahead with slotAlarm := none } : Node M).noteLateness =
      shift ahead { n with slotAlarm := none }.noteLateness :=
    noteLateness_shift ahead { n with slotAlarm := none }
  rw [slotAlarmFired, slotAlarmFired, spent]
  generalize { n with slotAlarm := none }.noteLateness = m
  rw [shift_arbitration]
  split
  · exact m.endBackoff_shift ahead
  · exact m.attendSlot_shift ahead true

theorem beaconAlarmFired_shift :
    ((n.shift ahead).beaconAlarmFired : Except Fault (Reply ε × Node M)) =
      shifted ahead <$> n.beaconAlarmFired := by
  rw [beaconAlarmFired, beaconAlarmFired]
  rw [show { n.shift ahead with beaconAlarm := none } =
    ({ n with beaconAlarm := none } : Node M).shift ahead from rfl]
  generalize ({ n with beaconAlarm := none } : Node M) = m
  rw [shift_config]
  cases m.config.role with
  | coordinator => exact m.sendBeacon_shift ahead
  | member coordinator =>
    dsimp only
    rw [syncRemaining_shift, armBeaconAlarm_shift, shift_time, TimeBase.shift_synchronized]
    split <;> rfl
  | beaconless => rfl

theorem alarmFired_shift (kind : AlarmKind) :
    ((n.shift ahead).alarmFired kind : Except Fault (Reply ε × Node M)) =
      shifted ahead <$> n.alarmFired kind := by
  cases kind with
  | slot => rw [alarmFired, alarmFired, expireSync_shift, slotAlarmFired_shift]
  | beacon => rw [alarmFired, alarmFired, expireSync_shift, beaconAlarmFired_shift]

theorem arrange_shift :
    ((n.shift ahead).arrange : Except Fault (Reply ε × Node M)) = shifted ahead <$> n.arrange := by
  rw [arrange, arrange, placement_shift, bind_map_left, map_bind]
  congr 1
  funext out
  obtain ⟨placement, m⟩ := out
  dsimp only [Prod.map]
  rw [shift_config, Placement.shift_isInside, shift_inFlight, shift_slotAlarm, attendSlot_shift]
  split
  · rw [map_pure, ← armSlotAlarm_shift]
    rfl
  · split <;> rfl

theorem send_shift (token : Token) (destination : Address) (bytes : List UInt8) :
    ((n.shift ahead).send token destination bytes : Except Fault (Reply ε × Node M)) =
      shifted ahead <$> n.send token destination bytes := by
  rw [send, send, expireSync_shift, fineNow_shift]
  split
  · rfl
  · rw [← arrange_shift, ← capture_shift]
    rfl

theorem receive_shift (bytes : List UInt8) :
    ((n.shift ahead).receive bytes : Except Fault (Reply ε × Node M)) =
      shifted ahead <$> n.receive bytes := by
  rw [receive, receive]
  cases Frame.read bytes with
  | error e => rfl
  | ok frame =>
    dsimp only
    rw [show (n.shift ahead).followed? frame = n.followed? frame from rfl]
    cases n.followed? frame with
    | some header => exact n.followBeacon_shift ahead header
    | none =>
      dsimp only
      rw [post_shift]
      rfl

theorem perform_shift (operation : Operation) (runs : operation ≠ .start) :
    (n.shift ahead).perform operation = shifted ahead <$> n.perform operation := by
  cases operation with
  | start => exact absurd rfl runs
  | send token destination bytes =>
    rw [perform, perform, send_shift, bind_map_left, map_bind]
    rfl
  | alarmFired kind =>
    rw [perform, perform, alarmFired_shift, bind_map_left, map_bind]
    rfl
  | receive bytes =>
    rw [perform, perform, receive_shift, bind_map_left, map_bind]
    rfl
  | complete channel completion transmissions =>
    rw [perform, perform, complete_shift]
    rfl
  | poll =>
    rw [perform, perform, poll_shift]
    rfl
  | powerOn => rfl
  | powerOff keepOn => rfl

theorem fire_shift (kind : AlarmKind) :
    ((n.shift ahead).fire kind : Except Fault (Option (Reply ε) × Node M)) =
      shifted ahead <$> n.fire kind := by
  have fired := alarmFired_shift (ε := ε) ahead
    { n with alarms := n.alarms.consume kind } kind
  rw [fire, fire, shift_alarms, AlarmClock.first?_shift, AlarmClock.consume_shift]
  cases n.alarms.first? kind with
  | none => rfl
  | some callback =>
    dsimp only [Option.map_some]
    rw [map_bind]
    refine (congrArg (· >>= _) fired).trans ?_
    rw [bind_map_left]
    rfl

/-- Whatever else than a start happens, the node that is ahead answers the same,
and stays ahead by as much. -/
theorem undergo_shift (stimulus : Stimulus M) (runs : stimulus ≠ .operate .start) :
    (n.shift ahead).undergo (stimulus.shift ahead) = shifted ahead <$> n.undergo stimulus := by
  cases stimulus with
  | operate operation =>
    have runs : operation ≠ .start := fun start => runs (congrArg _ start)
    simp only [Stimulus.shift, undergo, n.perform_shift ahead operation runs, bind_map_left,
      map_bind]
    rfl
  | fire kind =>
    simp only [Stimulus.shift, undergo, n.fire_shift ahead kind, bind_map_left, map_bind]
    rfl
  | lose kind =>
    simp only [Stimulus.shift, undergo, shift_alarms, AlarmClock.consume_shift]
    rfl
  | clock time => rfl
  | refuse kind error =>
    simp only [Stimulus.shift, undergo, shift_alarms, AlarmClock.refuse_shift]
    rfl
  | medium medium => rfl

theorem course_shift (stimuli : List (Stimulus M))
    (running : ∀ stimulus ∈ stimuli, stimulus ≠ .operate .start) :
    (n.shift ahead).course (stimuli.map (Stimulus.shift ahead)) =
      shifted ahead <$> n.course stimuli := by
  induction stimuli generalizing n with
  | nil => rfl
  | cons stimulus rest ih =>
    have first := n.undergo_shift ahead stimulus (running _ List.mem_cons_self)
    simp only [List.map_cons, course, first, bind_map_left, map_bind]
    congr 1
    funext out
    obtain ⟨answer, m⟩ := out
    dsimp only [shifted_mk]
    rw [ih m fun other mem => running other (List.mem_cons_of_mem _ mem), bind_map_left]
    rfl

end Medium

/-! ## What is seen of a node -/

/-- What callers, the host and the medium get to see of a node, apart from what a
clock shows. -/
structure Observation (M : Type) where
  waiting : Option WaitingStatus
  synchronized : Bool
  arbitration : Arbitration
  stats : Stats
  events : EventQueue
  medium : M
  /-- The alarms still to come, with the delays that were asked for. -/
  armed : List (AlarmKind × Ticks)
  /-- Alarms cancelled so far. -/
  cancelled : Nat
  /-- Frames handed over, alarms asked for, reports made and all other deeds. -/
  deeds : Journal

/-- The node as it is seen without a clock. -/
def observed (n : Node M) : Observation M where
  waiting := n.waiting
  synchronized := n.isSynchronized
  arbitration := n.arbitration
  stats := n.stats
  events := n.events
  medium := n.medium
  armed := n.alarms.live.map fun k => (k.kind, k.delay)
  cancelled := n.alarms.cancelled
  deeds := n.journal.map JournalEntry.timeless

theorem observed_shift (n : Node M) : (n.shift ahead).observed = n.observed := by
  have deeds : (n.journal.map (JournalEntry.shift ahead)).map JournalEntry.timeless =
      n.journal.map JournalEntry.timeless := by
    rw [List.map_map]
    exact List.map_congr_left fun entry _ => entry.timeless_shift ahead
  have armed : (n.alarms.live.map (Callback.shift ahead)).map (fun k => (k.kind, k.delay)) =
      n.alarms.live.map fun k => (k.kind, k.delay) := by
    rw [List.map_map]
    rfl
  rw [observed, waiting_shift]
  exact congrArg₂ (fun armed deeds => { n.observed with armed, deeds }) armed deeds

end Node

open Node

/-- A node and one that differs in nothing but its clock, which is some
milliseconds ahead, answer every course alike, and at its end they still differ
in nothing but that. So nobody without a clock can tell them apart, although
their counters wrap at different moments. A node in order gets to the end of the
course without a fault. -/
theorem clock_shift_unobservable {M ε : Type} [Medium M ε] (n : Node M) (ahead : Nat)
    (stimuli : List (Stimulus M))
    (running : ∀ stimulus ∈ stimuli, stimulus ≠ .operate .start) :
    (n.shift ahead).course (stimuli.map (Stimulus.shift ahead)) =
        (n.course stimuli).map (fun (answers, m) => (answers, m.shift ahead)) ∧
      (n.Sound →
        ∃ answers m, n.course stimuli = .ok (answers, m) ∧
          (n.shift ahead).course (stimuli.map (Stimulus.shift ahead)) =
            .ok (answers, m.shift ahead) ∧
          (m.shift ahead).observed = m.observed) := by
  have alike := n.course_shift ahead stimuli running
  refine ⟨alike, fun sound => ?_⟩
  obtain ⟨⟨answers, m⟩, done, -⟩ :=
    course_yields (P := fun _ _ _ => True) sound trivial fun _ _ m stimulus _ inOrder _ =>
      (undergo_sound inOrder stimulus).mono fun _ _ => trivial
  rw [done] at alike
  exact ⟨answers, m, done, alike, m.observed_shift ahead⟩

/-- A node whose fine counter starts at zero sends a frame in its slot. So does one
whose fine counter is about to wrap. -/
theorem clock_shift_unobservable_wrapping :
    ∃ answers m,
      (fresh 3 {} ({} : RecordingMedium) {} (.cycle [])).course
          [.operate (.send 7 0 [1]), .clock 499998, .fire .slot] = .ok (answers, m) ∧
      (Node.shift 4294967 (fresh 3 {} ({} : RecordingMedium) {} (.cycle []))).course
          ([.operate (.send 7 0 [1]), .clock 499998, .fire .slot].map (Stimulus.shift 4294967)) =
        .ok (answers, m.shift 4294967) ∧
      (m.shift 4294967).observed = m.observed :=
  (clock_shift_unobservable (fresh 3 {} ({} : RecordingMedium) {} (.cycle [])) 4294967
    [.operate (.send 7 0 [1]), .clock 499998, .fire .slot] (by simp)).2
    (fresh_sound Config.valid_default 3 ({} : RecordingMedium) {} (.cycle []))

end SlottedMac
