import SlottedMac.Proofs.Node.Path

/-!
# What each operation can do

The statements go up the way operations are put together, from handing a frame
over to `perform`. Each of them says that a node in order reaches no fault, and
lists the kinds of deeds on the way. An operation that looks at the owned slot
ends by asking for the slot alarm, and nothing comes after that.
-/

namespace SlottedMac.Node

variable {M ε : Type} {n : Node M} {kinds : List Deed}

/-- No frame waits without an alarm that looks after it. -/
def Attended (n : Node M) : Prop := n.outbox.isSome → n.slotAlarm.isSome

/-- A look at the slot, over deeds of some kinds: it ends by asking for the slot
alarm, for the next start of the slot. -/
def Looks [Medium M ε] (kinds : List Deed) (n : Node M) (out : Reply ε × Node M) : Prop :=
  ∃ m : Node M, Path kinds n m ∧ m.Current ∧ out = m.armSlotAlarm m.toSlot .awaitingSlot

/-! ## The slot alarm -/

theorem capture_outbox (n : Node M) (frame : QueuedFrame) : (n.capture frame).outbox.isSome := by
  obtain ⟨_, _, _, same⟩ := n.capture_eq frame
  rw [same]
  rfl

theorem abandon_outbox (n : Node M) : n.abandon.outbox = none := by
  rw [abandon]
  dsimp only [Outbox.take]
  cases n.outbox with
  | none => rfl
  | some frame =>
    obtain ⟨_, _, _, same⟩ := { n with outbox := none }.post_eq (.sent frame.token .failed 0)
    exact congrArg Node.outbox same

/-- With the slot alarm refused nothing waits any more. -/
theorem armSlotAlarm_attended (n : Node M) (delay : Ticks) (purpose : Arbitration) :
    (n.armSlotAlarm delay purpose : Reply ε × Node M).2.Attended := by
  rw [armSlotAlarm, Attended]
  split
  · intro _
    rfl
  · rw [abandon_outbox]
    intro none
    cases none

/-- The outcome of what needs an alarm: the refusal of the alarm, or what comes
of the rest. -/
def Armed (armed : Reply ε × Node M) (rest : Node M → Reply ε × Node M → Prop)
    (out : Reply ε × Node M) : Prop :=
  (∃ error, armed.1 = .error error) ∧ out = armed ∨ armed.1 = .ok () ∧ rest armed.2 out

theorem proceed_yields {armed : Reply ε × Node M}
    {rest : Node M → Except Fault (Reply ε × Node M)} {Q : Node M → Reply ε × Node M → Prop}
    (next : Yields (rest armed.2) (Q armed.2)) : Yields (proceed armed rest) (Armed armed Q) := by
  obtain ⟨_ | _, m⟩ := armed
  · exact Yields.ok_iff.mpr (.inl ⟨⟨_, rfl⟩, rfl⟩)
  · exact next.mono fun _ done => .inr ⟨rfl, done⟩

section Medium

variable [Medium M ε]

namespace Looks

variable {out : Reply ε × Node M}

theorem path (h : Looks kinds n out) (mem : .armSlot ∈ kinds := by decide) :
    Path kinds n out.2 := by
  obtain ⟨m, first, current, same⟩ := h
  rw [same]
  refine first.trans (Step.path (Step.armSlot m.toSlot .awaitingSlot ?_ ?_) mem)
  · intro backs
    cases backs
  · exact .inr ⟨current, rfl⟩

theorem attended (h : Looks kinds n out) : out.2.Attended := by
  obtain ⟨m, -, -, same⟩ := h
  rw [same]
  exact armSlotAlarm_attended m _ _

theorem mono {more : List Deed} (h : Looks kinds n out) (sub : kinds ⊆ more) :
    Looks more n out := by
  obtain ⟨m, first, current, same⟩ := h
  exact ⟨m, first.mono sub, current, same⟩

/-- A look at the slot may come after other deeds. -/
theorem after {m : Node M} (first : Path kinds n m) (h : Looks kinds m out) :
    Looks kinds n out := by
  obtain ⟨k, rest, current, same⟩ := h
  exact ⟨k, first.trans rest, current, same⟩

/-- Asking for the slot alarm once deeds that leave the grid alone are done. -/
theorem arm {m : Node M} (path : Path kinds n.aligned m) (sound : n.Sound)
    (align : .align ∈ kinds) (time : m.time = n.aligned.time) :
    Looks kinds n (m.armSlotAlarm n.aligned.toSlot .awaitingSlot : Reply ε × Node M) := by
  have first : Path kinds n n.aligned := n.aligned_path.mono (by simpa using align)
  have grid := congrArg TimeBase.origin time
  refine ⟨m, first.trans path, path.same.current grid (aligned_current sound), ?_⟩
  rw [path.same.toSlot grid]

end Looks

/-! ## Handing over -/

theorem submit_eq (room : n.buffer.length = maxFrame) (channel : Channel) (frame : Frame)
    (queued : Option QueuedFrame) :
    n.submit channel frame queued =
      .ok ((Medium.transmit n.medium channel frame.bytes).1,
        n.submitted channel frame queued) := by
  have fits : frame.bytes.length ≤ n.buffer.length := by
    rw [room]
    exact frame.length_bytes_le
  have written : Fault.front (frame.bytes ++ n.buffer.drop frame.bytes.length) frame.bytes.length =
      .ok frame.bytes := by
    rw [Fault.front_of_le (by simp)]
    simp
  simp only [submit, Frame.write_of_le fits, written, bind, Except.bind, pure, Except.pure]
  simp [submitted, submission, accepts]

theorem handOver_eq {frame : QueuedFrame} (room : n.buffer.length = maxFrame)
    (idle : n.inFlight = none) (waits : n.outbox = some frame) :
    n.handOver = .ok (n.accepts .data (n.dataFrame frame), n.offered frame) := by
  simp only [handOver, idle, waits, submit_eq room, bind, Except.bind, pure, Except.pure]
  rw [offered, accepts]
  cases (Medium.transmit n.medium .data (n.dataFrame frame).bytes).1 <;> rfl

/-- Nothing is handed over while a frame is in flight or none waits. -/
theorem handOver_nothing (busy : n.inFlight.isSome ∨ n.outbox = none) :
    n.handOver = .ok (false, n) := by
  rw [handOver]
  rcases busy with flying | none
  · simp [flying]
  · simp [none]

/-- A frame that was not accepted waits on. -/
theorem offered_waits {frame : QueuedFrame} (waits : n.outbox = some frame)
    (refused : n.accepts .data (n.dataFrame frame) = false) :
    (n.offered frame).outbox = some frame := by
  simp [offered, refused, submitted, waits]

/-! ## Looks at the slot -/

theorem useSlot_path (sound : n.Sound) (owned : n.OwnsNow) (periodic : Bool)
    (offer : .offer ∈ kinds) (counts : periodic = true → .defer ∈ kinds) :
    Yields (n.useSlot periodic) fun m => Path kinds n m ∧ m.time = n.time := by
  rw [useSlot]
  cases waits : n.outbox with
  | none => simpa using Path.refl n
  | some frame =>
    simp only [Option.isSome_some, if_true]
    cases flying : n.inFlight with
    | some other =>
      rw [handOver_nothing (.inl (by simp [flying]))]
      simp only [bind, Except.bind, Yields.pure_iff]
      cases periodic with
      | false => exact ⟨Path.refl n, rfl⟩
      | true =>
        have counted : Step .defer n n.deferWaiting := .defer (by simp [waits])
        exact ⟨counted.path (counts rfl), counted.kept.time (by decide)⟩
    | none =>
      rw [handOver_eq sound.room flying waits]
      simp only [bind, Except.bind, Yields.pure_iff]
      have handed : Step .offer n (n.offered frame) := .offer flying waits owned
      have kept := handed.kept.time (by decide)
      split
      · next refused =>
        simp only [Bool.and_eq_true, Bool.not_eq_true'] at refused
        have counted : Step .defer (n.offered frame) (n.offered frame).deferWaiting :=
          .defer (by simp [offered_waits waits refused.2])
        exact ⟨(handed.path offer).trans (counted.path (counts refused.1)),
          (counted.kept.time (by decide)).trans kept⟩
      · exact ⟨handed.path offer, kept⟩

theorem attendSlot_looks (kinds : List Deed) (sound : n.Sound) (periodic : Bool)
    (base : [.align, .offer, .armSlot] ⊆ kinds := by decide)
    (counts : periodic = true → .defer ∈ kinds := by decide) :
    Yields (n.attendSlot periodic : Except Fault (Reply ε × Node M)) (Looks kinds n) := by
  have inOrder := n.aligned_path.sound sound
  have align : .align ∈ kinds := by grind
  rw [attendSlot]
  rw [placement_eq sound]
  simp only [bind, Except.bind]
  split
  · next inside =>
    refine (useSlot_path inOrder (view_inside_iff.mp inside) periodic (by grind) counts).bind ?_
    rintro m ⟨used, time⟩
    have remains := used.sound inOrder
    rw [remains.valid.layout.untilNext_eq remains.slot_lt]
    have next : UInt32.ofNat _ = n.aligned.toSlot :=
      used.same.toSlot (congrArg TimeBase.origin time)
    exact Yields.pure_iff.mpr (next ▸ Looks.arm used sound align time)
  · next missed =>
    rw [view_wait (by simp [missed])]
    refine Yields.pure_iff.mpr (Looks.arm ?_ sound align ?_)
    · cases periodic with
      | false => exact .refl _
      | true =>
        simp only [if_true, missSlot]
        split
        · next waits => exact (Step.defer waits).path (counts rfl)
        · exact .refl _
    · cases periodic with
      | false => rfl
      | true =>
        simp only [if_true, missSlot]
        split
        · next waits => exact (Step.defer waits).kept.time (by decide)
        · rfl
  · next ahead =>
    rw [view_wait (by simp [ahead])]
    exact Yields.pure_iff.mpr (Looks.arm (.refl _) sound align rfl)

/-- The node after it handed the waiting frame over on hearing nobody. -/
def stolen (n : Node M) (frame : QueuedFrame) : Node M :=
  { n.offered frame with
    stats.steals :=
      if n.accepts .data (n.dataFrame frame) then n.stats.steals.bump else n.stats.steals }

/-- The node after it listened and, if nobody was heard, handed the frame over. -/
def contested (n : Node M) (frame : QueuedFrame) : Node M :=
  if n.sense.1 then n.sense.2.stolen frame
  else { n.sense.2 with stats.channelBusy := n.sense.2.stats.channelBusy.bump }

theorem trySteal_eq {frame : QueuedFrame} (room : n.buffer.length = maxFrame)
    (idle : n.inFlight = none) (waits : n.outbox = some frame) :
    n.trySteal = .ok (n.contested frame) := by
  rw [trySteal, contested]
  dsimp only
  cases n.sense.1 with
  | false => rfl
  | true =>
    simp only [StealDecision.ofSensing, if_true]
    rw [handOver_eq (n := n.sense.2) room idle waits]
    simp only [bind, Except.bind, pure, Except.pure, Except.ok.injEq]
    split
    · next accepted => simp [stolen, offered, accepted, launch, submitted]
    · next refused => simp [stolen, offered, refused, submitted]

theorem contested_path (kinds : List Deed) {frame : QueuedFrame}
    (ended : n.arbitration = .backingOff)
    (idle : n.inFlight = none) (waits : n.outbox = some frame)
    (mem : [.sense, .steal, .giveWay] ⊆ kinds) :
    Path kinds n (n.contested frame) ∧ (n.contested frame).time = n.time := by
  have listened : Path kinds n n.sense.2 := (Step.sense ended).path (by grind)
  rw [contested]
  cases heard : n.sense.1 with
  | false =>
    have giveWay : Step .giveWay n.sense.2 _ := .giveWay (by rw [← heard]; rfl)
    exact ⟨listened.trans (giveWay.path (by grind)), rfl⟩
  | true =>
    have steal : Step .steal n.sense.2 _ := .steal ended idle waits (by rw [← heard]; rfl)
    exact ⟨listened.trans (steal.path (by grind)), steal.kept.time (by decide)⟩

/-- What the end of a backoff does: it is a look at the slot like any other, or the
frame that waits is contended for, once. -/
inductive EndsBackoff (n : Node M) : Reply ε × Node M → Prop where
  | attends {out : Reply ε × Node M} (looks : Looks [.align, .offer, .armSlot] n.aligned out) :
      EndsBackoff n out
  | contends {frame : QueuedFrame} (idle : n.inFlight = none) (waits : n.outbox = some frame) :
      EndsBackoff n ((n.aligned.contested frame).armSlotAlarm n.aligned.toSlot .awaitingSlot)

theorem endBackoff_ends (sound : n.Sound) :
    Yields (n.endBackoff : Except Fault (Reply ε × Node M)) (EndsBackoff n) := by
  have inOrder := n.aligned_path.sound sound
  rw [endBackoff]
  rw [placement_eq sound]
  simp only [bind, Except.bind]
  split
  · exact (attendSlot_looks _ inOrder false).mono fun _ looks => .attends looks
  · next steals =>
    simp only [Bool.or_eq_true, not_or, Bool.not_eq_true, Option.isNone_eq_false_iff,
      Option.isSome_eq_false_iff] at steals
    have idle := Option.isNone_iff_eq_none.mp steals.2
    obtain ⟨frame, waits⟩ := Option.isSome_iff_exists.mp steals.1.2
    have outside : n.aligned.view.phase ≠ .inside := by
      intro inside
      simp [Placement.isInside_iff.mpr inside] at steals
    rw [view_wait outside, trySteal_eq inOrder.room idle waits]
    exact Yields.pure_iff.mpr (.contends idle waits)

theorem endBackoff_looks (kinds : List Deed) (sound : n.Sound) (ended : n.arbitration = .backingOff)
    (mem : [.align, .offer, .armSlot, .sense, .steal, .giveWay] ⊆ kinds := by decide) :
    Yields (n.endBackoff : Except Fault (Reply ε × Node M)) (Looks kinds n) := by
  have align : .align ∈ kinds := by grind
  apply (endBackoff_ends sound).mono
  rintro out (looks | ⟨idle, waits⟩)
  · exact (looks.mono (by grind)).after (n.aligned_path.mono (by simpa using align))
  · obtain ⟨path, time⟩ := contested_path kinds (n := n.aligned) ended idle waits (by grind)
    exact Looks.arm path sound align time

/-! ## Beacons -/

theorem Sound.anchored (sound : n.Sound) : n.anchored.Sound := sound.of_same (anchored_same n)

/-- A grid that starts anew moves the slot alarm with it, if that is in use for the
slot. -/
def Restarts (n : Node M) (out : Reply ε × Node M) : Prop :=
  (n.slotAlarm.isSome ∧ n.arbitration ≠ .backingOff) ∧
      Looks [.align, .offer, .armSlot] n.anchored out ∨
    (n.slotAlarm = none ∨ n.arbitration = .backingOff) ∧ out = (.ok (), n.anchored)

theorem restartGrid_yields (sound : n.Sound) :
    Yields (n.restartGrid : Except Fault (Reply ε × Node M)) (Restarts n) := by
  show Yields (if n.slotAlarm.isSome && n.arbitration != .backingOff then
    n.anchored.attendSlot false else .ok (.ok (), n.anchored)) _
  split
  · next used =>
    refine (attendSlot_looks _ sound.anchored false).mono fun _ looks => .inl ⟨?_, looks⟩
    simpa using used
  · next unused =>
    refine Yields.ok_iff.mpr (.inr ⟨?_, rfl⟩)
    cases held : n.slotAlarm with
    | none => exact .inl rfl
    | some handle => simpa [held] using unused

theorem Restarts.path {out : Reply ε × Node M} (h : Restarts n out) :
    Path [.align, .offer, .armSlot] n.anchored out.2 := by
  rcases h with ⟨-, looks⟩ | ⟨-, same⟩
  · exact looks.path
  · rw [same]
    exact .refl _

/-- The node after the medium accepted its beacon, with the grid still to be
started. -/
def aired (n : Node M) : Node M :=
  { n.submitted .beacon n.reference none with stats.beaconsSent := n.stats.beaconsSent.bump }

/-- What becomes of a beacon: the grid starts anew only if the medium accepts
it. -/
inductive Broadcasts (n : Node M) : Reply ε × Node M → Prop where
  | refused {error : ε} (role : n.config.role = .coordinator)
      (declined : n.accepts .beacon n.reference = false) :
      Broadcasts n (.error (.medium error), n.submitted .beacon n.reference none)
  | sent {reply : Reply ε} {m : Node M} (role : n.config.role = .coordinator)
      (accepted : n.accepts .beacon n.reference = true)
      (rest : Restarts n.aired (reply, m)) : Broadcasts n (reply, m)

theorem broadcast_yields (sound : n.Sound) (role : n.config.role = .coordinator) :
    Yields (n.broadcast : Except Fault (Reply ε × Node M)) (Broadcasts n) := by
  have handed : n.aired.Sound :=
    sound.of_same (.trans (n.submitted_same .beacon n.reference none)
      ⟨rfl, rfl, rfl, rfl, rfl, id⟩)
  simp only [broadcast, submit_eq sound.room, bind, Except.bind]
  cases answer : (Medium.transmit n.medium .beacon n.reference.bytes).1 with
  | error e =>
    exact Yields.pure_iff.mpr
      (.refused role (by simp [accepts, answer, Except.isOk, Except.toBool]))
  | ok _ =>
    refine (restartGrid_yields handed).mono ?_
    rintro ⟨reply, m⟩ rest
    exact .sent role (by simp [accepts, answer, Except.isOk, Except.toBool]) rest

/-- The next beacon is planned and its alarm armed before this one is sent. -/
theorem sendBeacon_yields (sound : n.Sound) (role : n.config.role = .coordinator) :
    ∃ cadence beat, n.cadence.advance n.coarseNow = .ok (cadence, beat) ∧
      Yields (n.sendBeacon : Except Fault (Reply ε × Node M))
        (Armed ((n.planned cadence beat).armBeaconAlarm beat.wait) Broadcasts) := by
  have interval : n.cadence.interval ≠ 0 := by
    rw [sound.interval]
    exact sound.valid.beaconInterval_ne (by simp [role])
  obtain ⟨cadence, beat, advanced⟩ := Cadence.exists_advance interval n.coarseNow
  refine ⟨cadence, beat, advanced, ?_⟩
  simp only [sendBeacon, advanced, bind, Except.bind]
  have armed := armBeaconAlarm_same (ε := ε) (n.planned cadence beat) beat.wait
  exact proceed_yields
    (broadcast_yields (sound.of_same ((planned_same advanced).trans armed)) (armed.config ▸ role))

/-- The watchdog is armed before the grid starts anew. -/
theorem followBeacon_yields (sound : n.Sound) (header : Header) :
    Yields (n.followBeacon header : Except Fault (Reply ε × Node M))
      (Armed ((n.informed header).armBeaconAlarm n.config.syncTimeout) Restarts) := by
  apply proceed_yields
  have armed := armBeaconAlarm_same (ε := ε) (n.informed header) n.config.syncTimeout
  exact restartGrid_yields (sound.of_same ((informed_same n header).trans armed))

/-! ## Operations -/

theorem Armed.path {armed out : Reply ε × Node M} {rest : Node M → Reply ε × Node M → Prop}
    (h : Armed armed rest out) (first : Path kinds n armed.2)
    (onward : ∀ out, rest armed.2 out → Path kinds armed.2 out.2) : Path kinds n out.2 := by
  rcases h with ⟨-, rfl⟩ | ⟨-, done⟩
  · exact first
  · exact first.trans (onward out done)

theorem Broadcasts.path {out : Reply ε × Node M} (h : Broadcasts n out) :
    Path [.emit, .align, .offer, .armSlot] n out.2 := by
  cases h with
  | refused role declined => exact (Step.emitRefused role declined).path
  | sent role accepted rest =>
    exact (Step.emit role accepted).path.trans (rest.path.mono (by decide))

/-- What a member does about a beacon. -/
def Deed.following : List Deed := [.follow, .armBeacon, .anchor, .align, .offer, .armSlot]

/-- What a coordinator does about a beacon. -/
def Deed.beaconing : List Deed := [.plan, .armBeacon, .emit, .align, .offer, .armSlot]

theorem sendBeacon_path (sound : n.Sound) (role : n.config.role = .coordinator) :
    Yields (n.sendBeacon : Except Fault (Reply ε × Node M)) fun out =>
      Path Deed.beaconing n out.2 := by
  obtain ⟨cadence, beat, next, done⟩ := sendBeacon_yields sound role
  refine done.mono fun out armed => armed.path ?_ ?_
  · exact ((Path.refl n).snoc (.plan role next)).snoc (.armBeacon beat.wait)
  · intro _ sent
    exact sent.path.mono (by decide)

theorem followBeacon_path (sound : n.Sound) (header : Header) {coordinator : Address}
    (role : n.config.role = .member coordinator) :
    Yields (n.followBeacon header : Except Fault (Reply ε × Node M)) fun out =>
      Path Deed.following n out.2 := by
  refine (followBeacon_yields sound header).mono fun out armed => armed.path ?_ ?_
  · exact ((Path.refl n).snoc (.follow header)).snoc (.armBeacon _)
  · intro _ rest
    have kept := armBeaconAlarm_same (ε := ε) (n.informed header) n.config.syncTimeout
    exact (Step.anchor (kept.config ▸ role)).path.trans (rest.path.mono (by decide))

/-- What a node does about a beacon, or about the time for one, before the grid
is concerned. -/
def Deed.heeding : List Deed := [.expire, .spendBeacon, .plan, .follow, .armBeacon]

/-- How a node heeds a beacon, or the time for one: it sees to the alarm for the
next one, and then it may follow the one that came, or send one of its own. -/
inductive Heeds (n : Node M) (out : Reply ε × Node M) : Prop where
  | arranges (path : Path Deed.heeding n out.2)
  | follows {m : Node M} (path : Path Deed.heeding n m) {coordinator : Address}
      (role : m.config.role = .member coordinator) (rest : Restarts m out)
  | broadcasts {m : Node M} (path : Path Deed.heeding n m) (rest : Broadcasts m out)

theorem Heeds.after {m : Node M} {out : Reply ε × Node M} (first : Path Deed.heeding n m)
    (h : Heeds m out) : Heeds n out := by
  cases h with
  | arranges path => exact .arranges (first.trans path)
  | follows path role rest => exact .follows (first.trans path) role rest
  | broadcasts path rest => exact .broadcasts (first.trans path) rest

theorem sendBeacon_heeds (sound : n.Sound) (role : n.config.role = .coordinator) :
    Yields (n.sendBeacon : Except Fault (Reply ε × Node M)) (Heeds n) := by
  obtain ⟨cadence, beat, next, done⟩ := sendBeacon_yields sound role
  have armed : Path Deed.heeding n _ :=
    ((Path.refl n).snoc (.plan role next)).snoc (.armBeacon beat.wait)
  refine done.mono ?_
  rintro out (⟨-, rfl⟩ | ⟨-, sent⟩)
  · exact .arranges armed
  · exact .broadcasts armed sent

theorem followBeacon_heeds (sound : n.Sound) (header : Header) {coordinator : Address}
    (role : n.config.role = .member coordinator) :
    Yields (n.followBeacon header : Except Fault (Reply ε × Node M)) (Heeds n) := by
  have armed : Path Deed.heeding n _ :=
    ((Path.refl n).snoc (.follow header)).snoc (.armBeacon n.config.syncTimeout)
  refine (followBeacon_yields sound header).mono ?_
  rintro out (⟨-, rfl⟩ | ⟨-, rest⟩)
  · exact .arranges armed
  · exact .follows armed (armed.same.config ▸ role) rest

/-- What a look at the slot on behalf of the slot alarm does. -/
def Deed.servicing : List Deed := [.align, .offer, .defer, .armSlot]

/-- What the end of a backoff does. -/
def Deed.stealing : List Deed := [.align, .offer, .armSlot, .sense, .steal, .giveWay]

/-- The node after it let go of an alarm that came. -/
def spent (n : Node M) : AlarmKind → Node M
  | .slot => { n with slotAlarm := none }.noteLateness
  | .beacon => { n with beaconAlarm := none }

/-- What a node does about an alarm that it let go of. -/
def firing (n : Node M) : AlarmKind → List Deed
  | .slot => if n.arbitration = .backingOff then Deed.stealing else Deed.servicing
  | .beacon => Deed.beaconing

/-- Everything that an operation may do to a node. -/
def deeds (n : Node M) : Operation → List Deed
  | .start => [.start, .armBeacon]
  | .send .. => [.expire, .capture, .align, .draw, .offer, .armSlot]
  | .alarmFired .slot => .expire :: .spendSlot :: n.firing .slot
  | .alarmFired .beacon => .expire :: .spendBeacon :: n.firing .beacon
  | .receive _ => .deliver :: .reject :: Deed.following
  | .complete .. => [.complete]
  | .poll => [.fetch]
  | .powerOn => [.power]
  | .powerOff _ => [.power]

/-- Whatever an alarm may lead to. -/
def Deed.alarming : List Deed :=
  [.expire, .spendSlot, .spendBeacon, .align, .offer, .defer, .armSlot, .sense, .steal, .giveWay,
    .plan, .armBeacon, .emit]

omit [Medium M ε] in
theorem deeds_alarmFired (n : Node M) (kind : AlarmKind) :
    n.deeds (.alarmFired kind) ⊆ Deed.alarming := by
  cases kind with
  | slot =>
    rw [deeds, firing]
    split <;> decide
  | beacon =>
    rw [deeds, firing]
    decide

theorem start_path (n : Node M) :
    Path [.start, .armBeacon] n (n.start : Reply ε × Node M).2 := by
  have begun : Path [.start, .armBeacon] n _ := Step.start.path
  rw [start]
  dsimp only
  split
  · next role =>
    exact (begun.snoc (.begin role)).snoc (.armBeacon _)
  · exact begun

theorem slotAlarmFired_looks (sound : n.Sound) :
    Yields (n.slotAlarmFired : Except Fault (Reply ε × Node M))
      (Looks (n.firing .slot) (n.spent .slot)) := by
  have step : Step .spendSlot n (n.spent .slot) := .spendSlot
  have inOrder := sound.of_same step.same
  have arbitration := step.kept.arbitration (by decide)
  show Yields (if (n.spent .slot).arbitration = .backingOff then (n.spent .slot).endBackoff
    else (n.spent .slot).attendSlot true) _
  rw [firing, arbitration]
  split
  · next ended => exact endBackoff_looks _ inOrder (arbitration.trans ended)
  · exact attendSlot_looks _ inOrder true

/-- A slot alarm ends a backoff, or asks for a look at the slot. -/
theorem slotFired_cases (sound : n.Sound) :
    Yields (n.alarmFired .slot : Except Fault (Reply ε × Node M)) fun out =>
      Looks Deed.servicing (n.expireSync.spent .slot) out ∨
        EndsBackoff (n.expireSync.spent .slot) out := by
  have spent : Path [.expire, .spendSlot] n (n.expireSync.spent .slot) :=
    ((Path.refl n).snoc .expire).snoc .spendSlot
  have inOrder := spent.sound sound
  show Yields (if (n.expireSync.spent .slot).arbitration = .backingOff then
    (n.expireSync.spent .slot).endBackoff else (n.expireSync.spent .slot).attendSlot true) _
  split
  · exact (endBackoff_ends inOrder).mono fun _ => .inr
  · exact (attendSlot_looks _ inOrder true).mono fun _ => .inl

theorem beaconAlarmFired_path (sound : n.Sound) :
    Yields (n.beaconAlarmFired : Except Fault (Reply ε × Node M)) fun out =>
      Path (n.firing .beacon) (n.spent .beacon) out.2 := by
  have step : Step .spendBeacon n (n.spent .beacon) := .spendBeacon
  have inOrder := sound.of_same step.same
  rw [beaconAlarmFired, firing]
  dsimp only
  split
  · next role => exact sendBeacon_path inOrder role
  · rw [Yields.ok_iff]
    split
    · exact (Step.armBeacon _).path
    · exact .refl _
  · exact Yields.ok_iff.mpr (.refl _)

theorem beaconFired_heeds (sound : n.Sound) :
    Yields (n.alarmFired .beacon : Except Fault (Reply ε × Node M)) (Heeds n) := by
  have spent : Path Deed.heeding n (n.expireSync.spent .beacon) :=
    ((Path.refl n).snoc .expire).snoc .spendBeacon
  show Yields n.expireSync.beaconAlarmFired _
  rw [beaconAlarmFired]
  dsimp only
  split
  · next role => exact (sendBeacon_heeds (spent.sound sound) role).mono fun _ => .after spent
  · rw [Yields.ok_iff]
    split
    · exact .arranges (spent.snoc (.armBeacon _))
    · exact .arranges spent
  · exact Yields.ok_iff.mpr (.arranges spent)

/-- The beacon alarm of a coordinator is for sending a beacon. -/
theorem alarmFired_beacon (role : n.config.role = .coordinator) :
    (n.alarmFired .beacon : Except Fault (Reply ε × Node M)) = (n.spent .beacon).sendBeacon := by
  have lasts : n.expireSync = n := by rw [expireSync, role]
  rw [alarmFired, lasts, beaconAlarmFired]
  dsimp only
  rw [role]
  rfl

/-- A captured frame is looked after at once, or a slot alarm will come. -/
theorem arrange_yields (sound : n.Sound) (waits : n.outbox.isSome) :
    Yields (n.arrange : Except Fault (Reply ε × Node M)) fun out =>
      Path [.align, .draw, .offer, .armSlot] n out.2 ∧ out.2.Attended := by
  have first : Path [.align, .draw, .offer, .armSlot] n n.aligned := n.aligned_path.mono (by decide)
  have inOrder := first.sound sound
  rw [arrange]
  rw [placement_eq sound]
  simp only [bind, Except.bind]
  split
  · next contends =>
    refine Yields.pure_iff.mpr ⟨?_, armSlotAlarm_attended _ _ _⟩
    exact (first.snoc .draw).snoc (.armSlot _ .backingOff (fun _ => contends.1) (.inl ⟨rfl, waits⟩))
  · split
    · refine (attendSlot_looks [.align, .draw, .offer, .armSlot] inOrder false).mono ?_
      intro _ looks
      exact ⟨(looks.after first).path, looks.attended⟩
    · next held =>
      simp only [Bool.or_eq_true, not_or, Bool.not_eq_true, Option.isNone_eq_false_iff] at held
      exact Yields.pure_iff.mpr ⟨first, fun _ => held.1⟩

theorem Step.attended {m : Node M} {d : Deed} (step : Step d n m) (captures : d ≠ .capture)
    (spends : d ≠ .spendSlot) (h : n.Attended) : m.Attended := by
  have kept := step.kept
  cases step with
  | capture frame => exact absurd rfl captures
  | spendSlot => exact absurd rfl spends
  | armSlot delay purpose => exact armSlotAlarm_attended n delay purpose
  | offer idle waits owned =>
    intro _
    rw [kept.slotAlarm (by decide)]
    exact h (by simp [waits])
  | steal ended idle waits heard =>
    intro _
    rw [kept.slotAlarm (by decide)]
    exact h (by simp [waits])
  | defer waits =>
    intro _
    rw [kept.slotAlarm (by decide)]
    exact h waits
  | _ =>
    rw [Attended]
    rw [kept.outbox (by decide), kept.slotAlarm (by decide)]
    exact h

theorem Path.attended {m : Node M} (path : Path kinds n m)
    (kept : .capture ∉ kinds ∧ .spendSlot ∉ kinds := by decide) (h : n.Attended) :
    m.Attended := by
  refine path.keeps (fun mem step => step.attended ?_ ?_) h
  · rintro rfl
    exact kept.1 mem
  · rintro rfl
    exact kept.2 mem

/-- What comes of bytes to send: too many of them are turned away, and others are
captured and looked after. -/
inductive Sends (n : Node M) (token : Token) (destination : Address) (bytes : List UInt8) :
    Reply ε × Node M → Prop where
  | long (exceeds : maxPayload < bytes.length) :
      Sends n token destination bytes (.error .payloadTooLong, n)
  | captured {out : Reply ε × Node M} (payload : Payload) (same : bytes = payload.bytes)
      (path : Path [.align, .draw, .offer, .armSlot]
        (n.expireSync.capture { token, destination, payload, queuedAt := n.fineNow }) out.2)
      (attended : out.2.Attended) : Sends n token destination bytes out

theorem capture_path (n : Node M) (frame : QueuedFrame) (new : frame.deferrals = 0 := by rfl) :
    Path [.expire, .capture] n (n.expireSync.capture frame) :=
  ((Path.refl n).snoc .expire).snoc (.capture frame new)

theorem send_sends (sound : n.Sound) (token : Token) (destination : Address)
    (bytes : List UInt8) :
    Yields (n.send token destination bytes : Except Fault (Reply ε × Node M))
      (Sends n token destination bytes) := by
  rw [send]
  split
  · next long => exact Yields.ok_iff.mpr (.long (Payload.ofBytes?_eq_none_iff.mp long))
  · next payload fits =>
    let frame : QueuedFrame := { token, destination, payload, queuedAt := n.fineNow }
    have captured := (n.capture_path frame).sound sound
    refine (arrange_yields captured (n.expireSync.capture_outbox frame)).mono ?_
    rintro out ⟨path, attended⟩
    exact .captured payload (Payload.ofBytes?_eq_some_iff.mp fits) path attended

theorem send_yields (sound : n.Sound) (token : Token) (destination : Address)
    (bytes : List UInt8) :
    Yields (n.send token destination bytes : Except Fault (Reply ε × Node M)) fun out =>
      Path [.expire, .capture, .align, .draw, .offer, .armSlot] n out.2 ∧
        (n.Attended → out.2.Attended) := by
  refine (send_sends sound token destination bytes).mono ?_
  rintro out (_ | ⟨payload, same, path, attended⟩)
  · exact ⟨.refl n, id⟩
  · have captured : Path [.expire, .capture, .align, .draw, .offer, .armSlot] n _ :=
      (n.capture_path { token, destination, payload, queuedAt := n.fineNow }).mono (by decide)
    exact ⟨captured.trans (path.mono (by decide)), fun _ => attended⟩

theorem alarmFired_spent (sound : n.Sound) (kind : AlarmKind) :
    Yields (n.alarmFired kind : Except Fault (Reply ε × Node M)) fun out =>
      Path (n.firing kind) (n.expireSync.spent kind) out.2 ∧
        (kind = .slot → out.2.Attended) := by
  have expired : Step .expire n n.expireSync := .expire
  have inOrder := sound.of_same expired.same
  have firing : n.expireSync.firing kind = n.firing kind := by
    simp only [Node.firing, expired.kept.arbitration (by decide)]
  rw [← firing]
  cases kind with
  | slot =>
    refine (slotAlarmFired_looks inOrder).mono fun out looks => ?_
    refine ⟨looks.path ?_, fun _ => looks.attended⟩
    rw [Node.firing]
    split <;> decide
  | beacon => exact (beaconAlarmFired_path inOrder).mono fun _ path => ⟨path, nofun⟩

theorem alarmFired_yields (sound : n.Sound) (kind : AlarmKind) :
    Yields (n.alarmFired kind : Except Fault (Reply ε × Node M)) fun out =>
      Path (n.deeds (.alarmFired kind)) n out.2 ∧ (n.Attended → out.2.Attended) := by
  have expired : Path [.expire] n n.expireSync := Step.expire.path
  refine (alarmFired_spent sound kind).mono ?_
  rintro out ⟨path, attended⟩
  cases kind with
  | slot =>
    have spent : Path [.expire, .spendSlot] n (n.expireSync.spent .slot) :=
      (expired.mono (by decide)).snoc .spendSlot
    exact ⟨(spent.mono (by simp [deeds])).trans (path.mono (by simp [deeds])),
      fun _ => attended rfl⟩
  | beacon =>
    have spent : Path [.expire, .spendBeacon] n (n.expireSync.spent .beacon) :=
      (expired.mono (by decide)).snoc .spendBeacon
    refine ⟨(spent.mono (by simp [deeds])).trans (path.mono (by simp [deeds])), fun h => ?_⟩
    exact path.attended (by simp only [firing]; decide) (spent.attended (by decide) h)

/-- The time reference that a node makes out of received bytes. -/
def heard? (n : Node M) (bytes : List UInt8) : Option Header :=
  (Frame.read bytes).toOption.bind n.followed?

/-- Whatever is not a time reference is passed on or turned away. -/
theorem receive_cases (n : Node M) (bytes : List UInt8) :
    (∃ header, n.heard? bytes = some header ∧
      (n.receive bytes : Except Fault (Reply ε × Node M)) = n.followBeacon header) ∨
    n.heard? bytes = none ∧
      Yields (n.receive bytes : Except Fault (Reply ε × Node M)) fun out =>
        Path [.deliver, .reject] n out.2 := by
  rw [heard?, receive]
  cases Frame.read bytes with
  | error e => exact .inr ⟨rfl, Yields.ok_iff.mpr Step.reject.path⟩
  | ok frame =>
    simp only [Except.toOption, Option.bind_some]
    cases n.followed? frame with
    | some header => exact .inl ⟨header, rfl, rfl⟩
    | none => exact .inr ⟨rfl, Yields.ok_iff.mpr (Step.deliver _ _ _).path⟩

theorem role_of_heard {bytes : List UInt8} {header : Header}
    (heard : n.heard? bytes = some header) : n.config.role = .member header.source := by
  obtain ⟨frame, -, follows⟩ := Option.bind_eq_some_iff.mp heard
  unfold followed? at follows
  split at follows
  · next role =>
    split at follows
    · next same =>
      cases follows
      exact same ▸ role
    · cases follows
  · cases follows

theorem receive_path (sound : n.Sound) (bytes : List UInt8) :
    Yields (n.receive bytes : Except Fault (Reply ε × Node M)) fun out =>
      Path (.deliver :: .reject :: Deed.following) n out.2 := by
  rcases receive_cases (ε := ε) n bytes with ⟨header, heard, same⟩ | ⟨-, path⟩
  · rw [same]
    exact (followBeacon_path sound header (role_of_heard heard)).mono fun _ path =>
      path.mono (by decide)
  · exact path.mono fun _ path => path.mono (by decide)

/-- What `perform` does in a node in order: deeds of the kinds that the
operation is for. A frame that waits has an alarm afterwards as before. -/
theorem perform_yields (sound : n.Sound) (operation : Operation) :
    Yields (n.perform operation) fun out =>
      Path (n.deeds operation) n out.2 ∧ (n.Attended → out.2.Attended) := by
  have alone {d : Deed} {m : Node M} (step : Step d n m)
      (others : d ≠ .capture ∧ d ≠ .spendSlot := by decide) :
      Path [d] n m ∧ (n.Attended → m.Attended) :=
    ⟨step.path (by simp), step.attended others.1 others.2⟩
  cases operation with
  | start => exact Yields.ok_iff.mpr ⟨n.start_path, n.start_path.attended⟩
  | send token destination bytes =>
    exact (send_yields sound token destination bytes).bind fun _ done => Yields.pure_iff.mpr done
  | alarmFired kind =>
    exact (alarmFired_yields sound kind).bind fun _ done => Yields.pure_iff.mpr done
  | receive bytes =>
    exact (receive_path sound bytes).bind fun _ path => Yields.pure_iff.mpr ⟨path, path.attended⟩
  | complete channel completion transmissions => exact Yields.ok_iff.mpr (alone (.complete ..))
  | poll => exact Yields.ok_iff.mpr (alone .fetch)
  | powerOn =>
    exact Yields.ok_iff.mpr (alone (.power Medium.powerOn))
  | powerOff keepOn => exact Yields.ok_iff.mpr (alone (.power (Medium.powerOff · keepOn)))

/-- What is no start, brings no beacon and answers no beacon alarm has nothing to do with
beacon alarms. -/
theorem perform_aside (sound : n.Sound) {operation : Operation} (starts : operation ≠ .start)
    (other : operation ≠ .alarmFired .beacon)
    (unheard : ∀ bytes, operation = .receive bytes → n.heard? bytes = none) :
    Yields (n.perform operation) fun out => ∃ kinds,
      (∀ d ∈ kinds, d ∉ [.start, .plan, .armBeacon, .anchor, .spendBeacon]) ∧
        Path kinds n out.2 := by
  have plain {kinds : List Deed} (path : Yields (n.perform operation) fun out => Path kinds n out.2)
      (calm : ∀ d ∈ kinds, d ∉ [.start, .plan, .armBeacon, .anchor, .spendBeacon] := by
        simp only [deeds]; decide) :
      Yields (n.perform operation) fun out => ∃ kinds,
        (∀ d ∈ kinds, d ∉ [.start, .plan, .armBeacon, .anchor, .spendBeacon]) ∧
          Path kinds n out.2 :=
    path.mono fun _ path => ⟨kinds, calm, path⟩
  have performed := (perform_yields sound operation).mono fun _ done => done.1
  cases operation with
  | start => exact absurd rfl starts
  | receive bytes =>
    rcases receive_cases (ε := ε) n bytes with ⟨header, heard, -⟩ | ⟨-, path⟩
    · exact nomatch (unheard bytes rfl).symm.trans heard
    · exact plain (path.bind fun _ path => Yields.pure_iff.mpr path) (by decide)
  | alarmFired kind =>
    cases kind with
    | slot =>
      refine plain performed ?_
      rw [deeds, firing]
      split <;> decide
    | beacon => exact absurd rfl other
  | _ => exact plain performed

end Medium

end SlottedMac.Node
