import SlottedMac.Proofs.Course

/-!
# Reports have no say

What a node has to tell the layers above goes into a queue. What finds no room there is
counted, and so are bytes that are no frame. Nothing that a node does depends on these: a node
and one that differs from it in nothing else do the same, whatever happens to them, and they
still differ in nothing else afterwards.

The statements go up the way operations are put together, and need no invariant. They hold in
every state, also where a computation ends in a fault.
-/

namespace SlottedMac

/-- Computations that end in the same fault, or in results that belong together. -/
inductive Agrees {α β : Type} (R : α → β → Prop) : Except Fault α → Except Fault β → Prop where
  | ok {a : α} {b : β} (both : R a b) : Agrees R (.ok a) (.ok b)
  | fault (fault : Fault) : Agrees R (.error fault) (.error fault)

namespace Agrees

variable {α β γ δ : Type} {R : α → β → Prop} {S : γ → δ → Prop}

theorem bind {x : Except Fault α} {y : Except Fault β} {f : α → Except Fault γ}
    {g : β → Except Fault δ} (first : Agrees R x y)
    (rest : ∀ a b, R a b → Agrees S (f a) (g b)) : Agrees S (x >>= f) (y >>= g) := by
  cases first with
  | ok both => exact rest _ _ both
  | fault fault => exact .fault fault

/-- Computations that begin alike. -/
theorem bind_eq {x y : Except Fault α} {f : α → Except Fault γ} {g : α → Except Fault δ}
    (same : y = x) (rest : ∀ a, Agrees S (f a) (g a)) : Agrees S (x >>= f) (y >>= g) := by
  rw [same]
  cases x with
  | error fault => exact .fault fault
  | ok a => exact rest a

/-- Where one has a result, so has the other. -/
theorem exists_ok {a : α} {y : Except Fault β} (h : Agrees R (.ok a) y) :
    ∃ b, y = .ok b ∧ R a b := by
  cases h with
  | ok both => exact ⟨_, rfl, both⟩

/-- A result may be worked on further on one side. -/
theorem map_left {x : Except Fault α} {y : Except Fault β} (h : Agrees R x y) {f : α → γ}
    {T : γ → β → Prop} (kept : ∀ a b, R a b → T (f a) b) :
    Agrees T (x >>= fun a => .ok (f a)) y := by
  cases h with
  | ok both => exact .ok (kept _ _ both)
  | fault fault => exact .fault fault

/-- What is known of the one result. -/
theorem and_yields {x : Except Fault α} {y : Except Fault β} {P : α → Prop} (h : Agrees R x y)
    (known : Yields x P) : Agrees (fun a b => R a b ∧ P a) x y := by
  obtain ⟨a, done, holds⟩ := known
  cases h with
  | ok both =>
    cases done
    exact .ok ⟨both, holds⟩
  | fault fault => cases done

/-- What agrees with the same computation agrees. -/
theorem of_common {x : Except Fault α} {y : Except Fault β} {z : Except Fault γ}
    {S : β → γ → Prop} {T : α → γ → Prop} {U : α → β → Prop} (first : Agrees T x z)
    (second : Agrees S y z) (both : ∀ a b c, T a c → S b c → U a b) : Agrees U x y := by
  cases first with
  | ok one =>
    cases second with
    | ok other => exact .ok (both _ _ _ one other)
  | fault fault =>
    cases second with
    | fault => exact .fault fault

end Agrees

/-- What remains of an entry when nobody is told anything. The end of a frame is noted, whether
there was room for the report about it or not. -/
def JournalEntry.muted? : JournalEntry → Option JournalEntry
  | .posted (.received ..) => none
  | .dropped (.received ..) => none
  | .dropped (.sent token outcome transmissions) => some (.posted (.sent token outcome transmissions))
  | .fetched _ => none
  | entry => some entry

/-- A journal when nobody is told anything. -/
def Journal.muted (j : Journal) : Journal := j.filterMap JournalEntry.muted?

/-- Counts that are of matter to the node itself. -/
def Stats.muted (s : Stats) : Stats := { s with decodeErrors := 0, droppedEvents := 0 }

namespace Node

variable {M ε α : Type} {n m : Node M}

/-- A node when nobody is told anything. -/
def muted (n : Node M) : Node M :=
  { n with events := [], stats := n.stats.muted, journal := n.journal.muted }

/-- Nodes that differ in nothing but reports. -/
def Alike (n m : Node M) : Prop := n.muted = m.muted

/-- Answers that are the same, from nodes that differ in nothing but reports. -/
def AlikeOut (a b : α × Node M) : Prop := a.1 = b.1 ∧ Alike a.2 b.2

namespace Alike

theorem refl (n : Node M) : Alike n n := rfl

/-- What is done to a node without a look at reports is done to both. -/
theorem update (h : Alike n m) (f : Node M → Node M) (plain : muted ∘ f = f ∘ muted) :
    Alike (f n) (f m) :=
  (congrFun plain n).trans ((congrArg f h).trans (congrFun plain m).symm)

/-- What is read of a node without a look at reports is the same of both. -/
theorem read {β : Type} (h : Alike n m) (f : Node M → β) (plain : f ∘ muted = f) :
    f m = f n :=
  (congrFun plain m).symm.trans ((congrArg f h.symm).trans (congrFun plain n))

end Alike

/-! ## Reports -/

theorem post_muted (n : Node M) (event : Event) :
    (n.post event).muted =
      { n.muted with
        journal := (JournalEntry.muted? (.posted event)).toList ++ n.muted.journal } := by
  rw [post]
  cases event with
  | sent token outcome transmissions => split <;> rfl
  | received source destination payload => split <;> rfl

theorem post_alike (h : Alike n m) (event : Event) : Alike (n.post event) (m.post event) := by
  rw [Alike, post_muted, post_muted, h]

/-- What comes from others is reported and no more. -/
theorem post_received_alike (n : Node M) (source destination : Address) (payload : Payload) :
    Alike n (n.post (.received source destination payload)) :=
  (n.post_muted (.received source destination payload)).symm

theorem capture_alike (h : Alike n m) (frame : QueuedFrame) :
    Alike (n.capture frame) (m.capture frame) := by
  have captured := h.update (fun k =>
    { k with outbox := some frame, journal := .captured frame k.alarms.now :: k.journal }) rfl
  rw [capture, capture, h.read Node.outbox rfl]
  dsimp only [Outbox.put]
  cases n.outbox with
  | none => exact captured
  | some previous => exact post_alike captured _

theorem abandon_alike (h : Alike n m) : Alike n.abandon m.abandon := by
  have emptied := h.update (fun k => { k with outbox := none }) rfl
  rw [abandon, abandon, h.read Node.outbox rfl]
  dsimp only [Outbox.take]
  cases n.outbox with
  | none => exact emptied
  | some frame => exact post_alike emptied _

theorem deferWaiting_alike (h : Alike n m) : Alike n.deferWaiting m.deferWaiting := by
  have same : m.outbox.defer m.config.maxDeferrals = n.outbox.defer n.config.maxDeferrals :=
    h.read (fun k => k.outbox.defer k.config.maxDeferrals) rfl
  rw [deferWaiting, deferWaiting, same]
  rcases n.outbox.defer n.config.maxDeferrals with ⟨outbox, given⟩
  have counted := h.update (fun k =>
    { k with outbox, stats.deferrals := k.stats.deferrals.bump }) rfl
  cases given with
  | none => exact counted
  | some frame =>
    exact post_alike (counted.update (fun k => { k with stats.expired := k.stats.expired.bump }) rfl) _

theorem complete_alike (h : Alike n m) (channel : Channel) (completion : Completion)
    (transmissions : UInt8) :
    Alike (n.complete channel completion transmissions)
      (m.complete channel completion transmissions) := by
  unfold complete
  rw [h.read Node.inFlight rfl]
  split
  · next frame _ =>
    exact post_alike (h.update (fun k =>
      { k with inFlight := none, journal := .completed frame.token :: k.journal }) rfl) _
  · exact h

theorem poll_alike (h : Alike n m) : Alike n.poll.2 m.poll.2 := by
  have fetched (k : Node M) : k.poll.2.muted = k.muted := by
    rw [poll]
    split <;> rfl
  exact (fetched n).trans (h.trans (fetched m).symm)

/-! ## Alarms and circumstances -/

theorem armSlotAlarm_alike (h : Alike n m) (delay : Ticks) (purpose : Arbitration) :
    AlikeOut (n.armSlotAlarm delay purpose : Reply ε × Node M)
      (m.armSlotAlarm delay purpose) := by
  rw [armSlotAlarm, armSlotAlarm, h.read Node.alarms rfl, h.read Node.slotAlarm rfl]
  rcases (n.alarms.release n.slotAlarm).arm .slot delay with ⟨error | handle, alarms⟩
  · exact ⟨rfl, abandon_alike (h.update (fun k =>
      { k with
        alarms
        slotAlarm := none
        arbitration := .idle
        journal := .slotAlarm delay purpose false :: k.journal }) rfl)⟩
  · exact ⟨rfl, h.update (fun k =>
      { k with
        alarms
        slotAlarm := some handle
        slotDeadline := k.fineNow + delay
        arbitration := if k.outbox.isSome then purpose else .idle
        journal := .slotAlarm delay purpose true :: k.journal }) rfl⟩

theorem armBeaconAlarm_alike (h : Alike n m) (delay : Ticks) :
    AlikeOut (n.armBeaconAlarm delay : Reply ε × Node M) (m.armBeaconAlarm delay) := by
  rw [armBeaconAlarm, armBeaconAlarm, h.read Node.alarms rfl, h.read Node.beaconAlarm rfl]
  rcases (n.alarms.release n.beaconAlarm).arm .beacon delay with ⟨error | handle, alarms⟩
  · exact ⟨rfl, h.update (fun k =>
      { k with alarms, beaconAlarm := none, journal := .beaconAlarm delay false :: k.journal }) rfl⟩
  · exact ⟨rfl, h.update (fun k =>
      { k with
        alarms, beaconAlarm := some handle, journal := .beaconAlarm delay true :: k.journal }) rfl⟩

theorem expireSync_alike (h : Alike n m) : Alike n.expireSync m.expireSync := by
  have role : m.config.role = n.config.role := h.read (fun k => k.config.role) rfl
  have stale : m.time.dropStale m.coarseNow m.config.syncTimeout =
      n.time.dropStale n.coarseNow n.config.syncTimeout :=
    h.read (fun k => k.time.dropStale k.coarseNow k.config.syncTimeout) rfl
  rw [expireSync, expireSync, role, stale]
  split
  · rcases n.time.dropStale n.coarseNow n.config.syncTimeout with ⟨time, _ | _⟩
    · exact h.update (fun k => { k with time }) rfl
    · exact h.update (fun k => { k with time, stats.syncLost := k.stats.syncLost.bump }) rfl
  · exact h

theorem noteLateness_alike (h : Alike n m) : Alike n.noteLateness m.noteLateness :=
  h.update noteLateness (funext fun _ => apply_ite muted _ _ _)

theorem missSlot_alike (h : Alike n m) : Alike n.missSlot m.missSlot := by
  rw [missSlot, missSlot, h.read Node.outbox rfl]
  split
  · exact deferWaiting_alike h
  · exact h

theorem start_alike (h : Alike n m) : AlikeOut (n.start : Reply ε × Node M) m.start := by
  have begun := h.update (fun k =>
    { k with time := .initial, journal := .started k.alarms.now :: k.journal }) rfl
  rw [start, start]
  generalize { n with time := .initial, journal := .started n.alarms.now :: n.journal } = n' at *
  generalize { m with time := .initial, journal := .started m.alarms.now :: m.journal } = m' at *
  have role : m'.config.role = n'.config.role := begun.read (fun k => k.config.role) rfl
  have next : m'.cadence.start m'.coarseNow = n'.cadence.start n'.coarseNow :=
    begun.read (fun k => k.cadence.start k.coarseNow) rfl
  dsimp only
  rw [role, next]
  split
  · exact armBeaconAlarm_alike (begun.update (fun k =>
      { k with cadence := (n'.cadence.start n'.coarseNow).1 }) rfl) _
  · exact ⟨rfl, begun⟩

section Medium

variable [Medium M ε]

/-! ## Handing over -/

theorem submit_alike (h : Alike n m) (channel : Channel) (frame : Frame)
    (queued : Option QueuedFrame) :
    Agrees AlikeOut (n.submit channel frame queued) (m.submit channel frame queued) := by
  refine .bind_eq (h.read (fun k => frame.write k.buffer) rfl) fun (buffer, length) => ?_
  refine .bind_eq rfl fun bytes => .ok ⟨?_, ?_⟩
  · exact (h.read (fun k => (Medium.transmit k.medium channel bytes).1) rfl).symm
  · exact h.update (fun k =>
      { k with
        medium := (Medium.transmit k.medium channel bytes).2
        buffer
        seq := k.seq + 1
        journal := .submitted
          { channel, bytes, queued
            accepted := (Medium.transmit k.medium channel bytes).1.isOk
            time := k.alarms.now
            origin := k.time.origin
            synchronized := k.time.synchronized } :: k.journal }) rfl

theorem handOver_alike (h : Alike n m) : Agrees AlikeOut n.handOver m.handOver := by
  rw [handOver, handOver, h.read Node.inFlight rfl, h.read Node.outbox rfl]
  split
  · exact .ok ⟨rfl, h⟩
  · cases n.outbox with
    | none => exact .ok ⟨rfl, h⟩
    | some frame =>
      have same := h.read (dataFrame · frame) rfl
      dsimp only at same ⊢
      rw [same]
      refine (submit_alike h .data (n.dataFrame frame) (some frame)).bind ?_
      rintro ⟨answer, n'⟩ ⟨_, m'⟩ ⟨rfl, after⟩
      cases answer with
      | ok _ => exact .ok ⟨rfl, after.update (launch · frame) rfl⟩
      | error _ =>
        exact .ok ⟨rfl, after.update (fun k => { k with stats.refused := k.stats.refused.bump }) rfl⟩

/-! ## Looks at the slot -/

theorem placement_alike (h : Alike n m) : Agrees AlikeOut n.placement m.placement := by
  refine .bind_eq (h.read (fun k => k.time.catchUp k.fineNow k.config.layout.period) rfl) fun time => ?_
  refine .bind_eq (h.read (fun k => k.config.layout.place k.slot time.origin k.fineNow) rfl)
    fun placement => ?_
  exact .ok ⟨rfl, h.update (fun k => { k with time }) rfl⟩

theorem useSlot_alike (h : Alike n m) (periodic : Bool) :
    Agrees Alike (n.useSlot periodic) (m.useSlot periodic) := by
  rw [useSlot, useSlot, h.read Node.outbox rfl]
  split
  · refine (handOver_alike h).bind ?_
    rintro ⟨sent, n'⟩ ⟨_, m'⟩ ⟨rfl, after⟩
    dsimp only
    split
    · exact .ok (deferWaiting_alike after)
    · exact .ok after
  · exact .ok h

theorem attendSlot_alike (h : Alike n m) (periodic : Bool) :
    Agrees AlikeOut (n.attendSlot periodic : Except Fault (Reply ε × Node M))
      (m.attendSlot periodic) := by
  rw [attendSlot, attendSlot]
  refine (placement_alike h).bind ?_
  rintro ⟨placement, n'⟩ ⟨_, m'⟩ ⟨rfl, aligned⟩
  dsimp only
  cases placement.phase with
  | inside =>
    refine (useSlot_alike aligned periodic).bind fun n' m' used => ?_
    refine .bind_eq (used.read (fun k => k.config.layout.untilNext k.slot k.time.origin k.fineNow) rfl)
      fun delay => ?_
    exact .ok (armSlotAlarm_alike used _ _)
  | late periods =>
    refine .ok (armSlotAlarm_alike ?_ _ _)
    cases periodic with
    | true => exact missSlot_alike aligned
    | false => exact aligned
  | early => exact .ok (armSlotAlarm_alike aligned _ _)

theorem sense_alike (h : Alike n m) : AlikeOut n.sense m.sense := by
  refine ⟨?_, ?_⟩
  · exact (h.read (fun k => k.sense.1) rfl).symm
  · exact h.update (fun k => k.sense.2) rfl

theorem trySteal_alike (h : Alike n m) : Agrees Alike n.trySteal m.trySteal := by
  obtain ⟨same, listened⟩ := sense_alike h
  rw [trySteal, trySteal]
  dsimp only
  rw [same]
  split
  · refine (handOver_alike listened).bind ?_
    rintro ⟨sent, n'⟩ ⟨_, m'⟩ ⟨rfl, after⟩
    cases sent with
    | true => exact .ok (after.update (fun k => { k with stats.steals := k.stats.steals.bump }) rfl)
    | false => exact .ok after
  · exact .ok (listened.update (fun k => { k with stats.channelBusy := k.stats.channelBusy.bump }) rfl)

theorem endBackoff_alike (h : Alike n m) :
    Agrees AlikeOut (n.endBackoff : Except Fault (Reply ε × Node M)) m.endBackoff := by
  refine (placement_alike h).bind ?_
  rintro ⟨placement, n'⟩ ⟨_, m'⟩ ⟨rfl, aligned⟩
  dsimp only
  rw [aligned.read Node.outbox rfl, aligned.read Node.inFlight rfl]
  split
  · exact attendSlot_alike aligned false
  · exact (trySteal_alike aligned).bind fun _ _ after => .ok (armSlotAlarm_alike after _ _)

/-! ## Beacons -/

omit [Medium M ε] in
theorem proceed_alike {armed armed' : Reply ε × Node M}
    {rest : Node M → Except Fault (Reply ε × Node M)} (h : AlikeOut armed armed')
    (onward : ∀ n m, Alike n m → Agrees AlikeOut (rest n) (rest m)) :
    Agrees AlikeOut (proceed armed rest) (proceed armed' rest) := by
  obtain ⟨reply, n⟩ := armed
  obtain ⟨_, m⟩ := armed'
  obtain ⟨rfl, h⟩ := h
  cases reply with
  | error e => exact .ok ⟨rfl, h⟩
  | ok _ => exact onward n m h

theorem restartGrid_alike (h : Alike n m) :
    Agrees AlikeOut (n.restartGrid : Except Fault (Reply ε × Node M)) m.restartGrid := by
  have anchored := h.update anchored rfl
  rw [restartGrid, restartGrid]
  rw [anchored.read Node.slotAlarm rfl, anchored.read Node.arbitration rfl]
  split
  · exact attendSlot_alike anchored false
  · exact .ok ⟨rfl, anchored⟩

theorem broadcast_alike (h : Alike n m) :
    Agrees AlikeOut (n.broadcast : Except Fault (Reply ε × Node M)) m.broadcast := by
  rw [broadcast, broadcast, h.read reference rfl]
  refine (submit_alike h .beacon n.reference none).bind ?_
  rintro ⟨answer, n'⟩ ⟨_, m'⟩ ⟨rfl, after⟩
  cases answer with
  | error e => exact .ok ⟨rfl, after⟩
  | ok _ =>
    exact restartGrid_alike (after.update (fun k =>
      { k with stats.beaconsSent := k.stats.beaconsSent.bump }) rfl)

theorem sendBeacon_alike (h : Alike n m) :
    Agrees AlikeOut (n.sendBeacon : Except Fault (Reply ε × Node M)) m.sendBeacon := by
  rw [sendBeacon, sendBeacon]
  refine .bind_eq (h.read (fun k => k.cadence.advance k.coarseNow) rfl) ?_
  rintro ⟨cadence, beat⟩
  exact proceed_alike (armBeaconAlarm_alike (h.update (planned · cadence beat) rfl) beat.wait)
    fun _ _ => broadcast_alike

theorem followBeacon_alike (h : Alike n m) (header : Header) :
    Agrees AlikeOut (n.followBeacon header : Except Fault (Reply ε × Node M))
      (m.followBeacon header) := by
  have timeout : m.config.syncTimeout = n.config.syncTimeout :=
    h.read (fun k => k.config.syncTimeout) rfl
  rw [followBeacon, followBeacon, timeout]
  exact proceed_alike (armBeaconAlarm_alike (h.update (informed · header) rfl) _)
    fun _ _ => restartGrid_alike

/-! ## Operations -/

theorem slotAlarmFired_alike (h : Alike n m) :
    Agrees AlikeOut (n.slotAlarmFired : Except Fault (Reply ε × Node M)) m.slotAlarmFired := by
  have spent := noteLateness_alike (h.update (fun k => { k with slotAlarm := none }) rfl)
  rw [slotAlarmFired, slotAlarmFired, spent.read Node.arbitration rfl]
  split
  · exact endBackoff_alike spent
  · exact attendSlot_alike spent true

theorem beaconAlarmFired_alike (h : Alike n m) :
    Agrees AlikeOut (n.beaconAlarmFired : Except Fault (Reply ε × Node M))
      m.beaconAlarmFired := by
  have spent := h.update (fun k => { k with beaconAlarm := none }) rfl
  rw [beaconAlarmFired, beaconAlarmFired]
  generalize { n with beaconAlarm := none } = n' at *
  generalize { m with beaconAlarm := none } = m' at *
  rw [spent.read (fun k => k.config.role) rfl, spent.read (fun k => k.time.synchronized) rfl,
    spent.read syncRemaining rfl]
  split
  · exact sendBeacon_alike spent
  · split
    · exact .ok (armBeaconAlarm_alike spent _)
    · exact .ok ⟨rfl, spent⟩
  · exact .ok ⟨rfl, spent⟩

theorem alarmFired_alike (h : Alike n m) (kind : AlarmKind) :
    Agrees AlikeOut (n.alarmFired kind : Except Fault (Reply ε × Node M))
      (m.alarmFired kind) := by
  cases kind with
  | slot => exact slotAlarmFired_alike (expireSync_alike h)
  | beacon => exact beaconAlarmFired_alike (expireSync_alike h)

theorem arrange_alike (h : Alike n m) :
    Agrees AlikeOut (n.arrange : Except Fault (Reply ε × Node M)) m.arrange := by
  refine (placement_alike h).bind ?_
  rintro ⟨placement, n'⟩ ⟨_, m'⟩ ⟨rfl, aligned : Alike n' m'⟩
  have contested := aligned.read (fun k =>
    k.config.mode = .zmac ∧ placement.isInside = false ∧ k.inFlight.isNone) rfl
  have backoff := aligned.read (fun k => k.words.backoff k.config.backoffBound) rfl
  have armed := aligned.read (fun k => k.slotAlarm.isNone || placement.isInside) rfl
  dsimp only at contested backoff armed ⊢
  simp only [contested, backoff, armed]
  split
  · exact .ok (armSlotAlarm_alike (aligned.update (fun k =>
      { k with words := (n'.words.backoff n'.config.backoffBound).2 }) rfl) _ _)
  · split
    · exact attendSlot_alike aligned false
    · exact .ok ⟨rfl, aligned⟩

theorem send_alike (h : Alike n m) (token : Token) (destination : Address)
    (bytes : List UInt8) :
    Agrees AlikeOut (n.send token destination bytes : Except Fault (Reply ε × Node M))
      (m.send token destination bytes) := by
  rw [send, send, h.read fineNow rfl]
  split
  · exact .ok ⟨rfl, h⟩
  · exact arrange_alike (capture_alike (expireSync_alike h) _)

theorem receive_alike (h : Alike n m) (bytes : List UInt8) :
    Agrees AlikeOut (n.receive bytes : Except Fault (Reply ε × Node M)) (m.receive bytes) := by
  rw [receive, receive]
  cases Frame.read bytes with
  | error e => exact .ok ⟨rfl, h⟩
  | ok frame =>
    dsimp only
    rw [h.read (followed? · frame) rfl]
    split
    · exact followBeacon_alike h _
    · exact .ok ⟨rfl, post_alike h _⟩

/-! ## Runs -/

/-- Whatever is done to nodes that differ in nothing but reports, they still differ in nothing
else. The answer to a poll may differ, too. -/
theorem perform_alike (h : Alike n m) (operation : Operation) :
    Agrees (fun a b => Alike a.2 b.2) (n.perform operation : Except Fault (Answer ε × Node M))
      (m.perform operation) := by
  cases operation with
  | start => exact .ok (start_alike h (ε := ε)).2
  | send token destination bytes =>
    exact (send_alike h token destination bytes).bind fun _ _ out => .ok out.2
  | alarmFired kind => exact (alarmFired_alike h kind).bind fun _ _ out => .ok out.2
  | receive bytes => exact (receive_alike h bytes).bind fun _ _ out => .ok out.2
  | complete channel completion transmissions =>
    exact .ok (complete_alike h channel completion transmissions)
  | poll => exact .ok (poll_alike h)
  | powerOn => exact .ok (h.update (fun k => (k.onMedium Medium.powerOn).2) rfl)
  | powerOff keepOn => exact .ok (h.update (fun k => (k.onMedium (Medium.powerOff · keepOn)).2) rfl)

theorem undergo_alike (h : Alike n m) (stimulus : Stimulus M) :
    Agrees (fun a b => Alike a.2 b.2)
      (n.undergo stimulus : Except Fault (Option (Answer ε) × Node M)) (m.undergo stimulus) := by
  cases stimulus with
  | operate operation => exact (perform_alike h operation).bind fun _ _ after => .ok after
  | fire kind =>
    rw [undergo, undergo, fire, fire, h.read (fun k => k.alarms.first? kind) rfl]
    split
    · exact .ok h
    · have taken := h.update (consumed · kind) rfl
      refine Agrees.bind (R := fun a b => Alike a.2 b.2) ?_ fun _ _ after => .ok after
      exact (alarmFired_alike taken kind).bind fun _ _ out => .ok out.2
  | lose kind => exact .ok (h.update (consumed · kind) rfl)
  | clock time => exact .ok (h.update (setClock · time) rfl)
  | refuse kind error =>
    exact .ok (h.update (fun k => { k with alarms := k.alarms.refuse kind error }) rfl)
  | medium medium => exact .ok (h.update (fun k => { k with medium }) rfl)

end Medium

end Node

end SlottedMac
