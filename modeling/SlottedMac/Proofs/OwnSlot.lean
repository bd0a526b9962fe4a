import Mathlib.Data.Nat.ModEq
import SlottedMac.Proofs.Access
import SlottedMac.Proofs.OnTime

/-!
# The owned slot is used

A frame that waits when the owned slot opens is handed to the medium before the
usable part of the slot is over. With an alarm for the slot that is so because
the alarm comes just then. A node that backs off has no such alarm: the backoff
took its place, and only the end of the backoff looks at the slot again. That is
in time if a backoff is never longer than the usable part of a slot; a longer one
may begin before the slot and end after it, and the frame waits for a period more.

As for alarms on time, the host lets slot alarms come exactly when they are due
and starts the node only before the first frame. Beacon alarms, refusals and the
medium are left free.
-/

namespace SlottedMac

namespace Journal

variable {added more : Journal} {frame : QueuedFrame} {opens closes : Nat}

/-- Between two times the grid was started anew, or a frame, or one that took its
place, was handed to the medium. -/
def Answers (added : Journal) (frame : QueuedFrame) (opens closes : Nat) : Prop :=
  (∃ time, .gridRestarted time ∈ added ∧ opens ≤ time ∧ time < closes) ∨
    ∃ s latest, .submitted s ∈ added ∧ s.channel = .data ∧ s.queued = some latest ∧
      (latest = frame ∨ ∃ time, .captured latest time ∈ added) ∧ opens ≤ s.time ∧ s.time < closes

theorem Answers.mono (h : added.Answers frame opens closes) (sub : added ⊆ more) :
    Answers more frame opens closes := by
  rcases h with ⟨time, mem, within⟩ | ⟨s, latest, mem, data, queued, which, within⟩
  · exact .inl ⟨time, sub mem, within⟩
  · refine .inr ⟨s, latest, sub mem, data, queued, which.imp id ?_, within⟩
    rintro ⟨time, taken⟩
    exact ⟨time, sub taken⟩

end Journal

namespace Node

open AlarmClock

variable {M ε : Type} {n m k : Node M} {bound opens closes : Nat} {frame : QueuedFrame}

/-! ## A slot alarm that is near -/

/-- The slot alarm to come is less than that far away, and comes before the counter
has gone round since the start of the grid. -/
def AlarmWithin (bound : Nat) (n : Node M) : Prop :=
  ∀ k ∈ n.alarms.pending .slot, ∃ wait,
    k.due = n.alarms.now + wait ∧ wait < bound ∧ n.offset + wait < 2 ^ 32

theorem AlarmWithin.of_unheld (holds : n.HoldsSlot) (unheld : n.slotAlarm = none) :
    n.AlarmWithin bound := by
  intro k mem
  rw [holds.pending_eq_nil unheld] at mem
  cases mem

theorem AlarmWithin.congr (h : n.AlarmWithin bound) (now : m.alarms.now = n.alarms.now)
    (pending : m.alarms.pending .slot = n.alarms.pending .slot) (offset : m.offset ≤ n.offset) :
    m.AlarmWithin bound := by
  rw [AlarmWithin, pending, now]
  intro k mem
  obtain ⟨wait, due, within, near⟩ := h k mem
  exact ⟨wait, due, within, by omega⟩

theorem AlarmWithin.elapse (h : n.AlarmWithin bound) {passed : Nat}
    (ahead : ∀ k ∈ n.alarms.pending .slot, n.alarms.now + passed ≤ k.due) :
    (n.setClock (n.alarms.now + passed)).AlarmWithin (bound - passed) := by
  intro k mem
  obtain ⟨wait, due, within, near⟩ := h k mem
  obtain ⟨left, rest⟩ := Nat.exists_eq_add_of_le (ahead k mem)
  refine ⟨left, rest, by omega, ?_⟩
  rw [offset_setClock (by omega)]
  omega

/-- An alarm that is asked for comes as soon as it is asked to. -/
theorem armSlotAlarm_within (holds : n.HoldsSlot) {delay : Ticks} (purpose : Arbitration)
    (less : delay.toNat < bound) (near : n.offset + delay.toNat < 2 ^ 32) :
    (n.armSlotAlarm delay purpose : Reply ε × Node M).2.AlarmWithin bound := by
  intro k mem
  obtain ⟨due, -, -⟩ := armSlotAlarm_pending holds delay purpose mem
  refine ⟨delay.toNat, ?_, less, ?_⟩
  · rw [due, (n.armSlotAlarm_same delay purpose).now]
  · rw [armSlotAlarm_offset]
    exact near

/-- A frame waits, with none in flight, and the owned slot opens at a time to come by
the grid as it is now. -/
structure Awaits (frame : QueuedFrame) (opens : Nat) (n : Node M) : Prop where
  waits : n.outbox = some frame
  idle : n.inFlight = none
  ahead : n.alarms.now < opens
  starts : (n.setClock opens).offset % n.config.layout.period.toNat =
    n.config.layout.opening n.slot

theorem exists_awaits_iff :
    (∃ frame, n.Awaits frame opens) ↔
      n.outbox.isSome ∧ n.inFlight = none ∧ n.alarms.now < opens ∧
        (n.setClock opens).offset % n.config.layout.period.toNat =
          n.config.layout.opening n.slot := by
  constructor
  · rintro ⟨frame, waits, idle, ahead, starts⟩
    exact ⟨by simp [waits], idle, ahead, starts⟩
  · rintro ⟨waits, idle, ahead, starts⟩
    obtain ⟨frame, waits⟩ := Option.isSome_iff_exists.mp waits
    exact ⟨frame, waits, idle, ahead, starts⟩

instance (opens : Nat) (n : Node M) : Decidable (∃ frame, n.Awaits frame opens) :=
  decidable_of_iff _ exists_awaits_iff.symm

/-- A backoff that a frame waits for ends within the bound on backoffs. -/
def Backs (n : Node M) : Prop :=
  n.arbitration = .backingOff → n.AlarmWithin n.config.backoffBound.toNat

section Medium

variable [Medium M ε] {kinds : List Deed} {d : Deed} {stimulus : Stimulus M}

/-- The deeds that set the grid or the slot alarm. -/
def Deed.setting : List Deed := [.start, .emit, .anchor, .armSlot]

/-- Nothing but a new grid changes the phase. -/
theorem Step.offset (step : Step d n m) (grid : d ∉ Deed.setting) :
    m.offset ≤ n.offset ∧
      m.offset % n.config.layout.period.toNat = n.offset % n.config.layout.period.toNat := by
  have kept := step.kept
  have same := step.same
  cases step with
  | start | begin | emitRefused | emit | anchor | armSlot => simp [Deed.setting] at grid
  | align =>
    refine ⟨?_, aligned_phase n⟩
    have shorter := Nat.mod_le n.offset n.config.layout.period.toNat
    rw [aligned_offset]
    split <;> omega
  | expire =>
    have origin : n.expireSync.time.origin = n.time.origin := by
      obtain ⟨_, _, eq⟩ := n.expireSync_eq
      rw [eq]
    simp [same.offset origin]
  | _ => simp [same.offset (congrArg TimeBase.origin (kept.time (by decide)))]

theorem Step.alarmWithin (step : Step d n m) (grid : d ∉ Deed.setting) (holds : n.HoldsSlot)
    (h : n.AlarmWithin bound) : m.AlarmWithin bound := by
  refine h.congr step.same.now (step.pending_slot ?_ holds) (step.offset grid).1
  rintro rfl
  exact grid (by decide)

/-! ## Backoffs -/

/-- Deeds that leave the grid and the slot alarm alone leave a backoff alone. -/
theorem Path.backs (path : Path kinds n m)
    (quiet : ∀ d ∈ kinds, d ∉ .spendSlot :: Deed.setting := by decide) (holds : n.HoldsSlot)
    (h : n.Backs) : m.Backs := by
  have kept : m.HoldsSlot ∧ m.Backs := by
    refine path.keeps (P := fun k => k.HoldsSlot ∧ k.Backs) ?_ ⟨holds, h⟩
    rintro a b d mem step ⟨holds, backs⟩
    have plain := quiet d mem
    refine ⟨step.holdsSlot (by grind) holds, fun ended => ?_⟩
    rw [step.kept.arbitration (by grind [Deed.setting])] at ended
    rw [step.same.config]
    exact step.alarmWithin (by grind) holds (backs ended)
  exact kept.2

/-- Who asks for the slot alarm on behalf of the slot does not back off. -/
theorem Looks.backs {out : Reply ε × Node M} (h : Looks kinds n out) : out.2.Backs := by
  obtain ⟨m, -, -, same⟩ := h
  rw [same]
  intro backs
  rw [armSlotAlarm] at backs
  split at backs
  · dsimp only at backs
    split at backs <;> cases backs
  · obtain ⟨_, _, _, eq⟩ := abandon_eq _
    rw [eq] at backs
    cases backs

/-- A backoff goes on when the grid starts anew. -/
theorem Restarts.backs {out : Reply ε × Node M} (h : Restarts n out) (backs : n.Backs) :
    out.2.Backs := by
  rcases h with ⟨-, looks⟩ | ⟨unused, rfl⟩
  · exact looks.backs
  · intro ended
    refine (backs ended).congr rfl rfl ?_
    have none : n.anchored.offset = 0 := by
      show (n.fineNow.since n.fineNow).toNat = 0
      rw [Ticks.since_self]
      rfl
    exact none ▸ Nat.zero_le _

theorem Broadcasts.backs {out : Reply ε × Node M} (h : Broadcasts n out) (backs : n.Backs) :
    out.2.Backs := by
  cases h with
  | refused role declined => exact backs
  | sent role accepted rest => exact rest.backs backs

theorem Heeds.backs {out : Reply ε × Node M} (h : Heeds n out) (holds : n.HoldsSlot)
    (backs : n.Backs) : out.2.Backs := by
  cases h with
  | arranges path => exact path.backs (by decide) holds backs
  | follows path role rest => exact rest.backs (path.backs (by decide) holds backs)
  | broadcasts path rest => exact rest.backs (path.backs (by decide) holds backs)

/-- A frame that was taken over waits for the end of a backoff that was drawn just
now, or for an alarm that is for the slot, or for the end of an earlier backoff. -/
theorem arrange_backs (sound : n.Sound) (holds : n.HoldsSlot)
    (short : n.config.mode = .zmac → n.config.backoffBound.toNat ≤ 2 ^ 31) (h : n.Backs) :
    Yields (n.arrange : Except Fault (Reply ε × Node M)) fun out => out.2.Backs := by
  have inOrder := n.aligned_path.sound sound
  have aligned := n.aligned_path.holdsSlot (by decide) holds
  rw [arrange]
  rw [placement_eq sound]
  simp only [bind, Except.bind]
  split
  · next contends =>
    have drawn : Step .draw n.aligned _ := .draw
    have less : (n.words.backoff n.config.backoffBound).1.toNat < n.config.backoffBound.toNat :=
      WordSource.backoff_lt (sound.valid.backoffBound_ne contends.1) _
    have current : n.aligned.offset < max 0x40000000 n.config.layout.period.toNat :=
      aligned_current sound
    have limit := sound.valid.layout.period_lt
    have bounded := short contends.1
    refine Yields.pure_iff.mpr fun _ => ?_
    rw [(armSlotAlarm_same ..).config]
    refine armSlotAlarm_within (drawn.holdsSlot (by decide) aligned) _ less ?_
    show n.aligned.offset + (n.words.backoff n.config.backoffBound).1.toNat < 2 ^ 32
    omega
  · split
    · exact (attendSlot_looks [.align, .offer, .armSlot] inOrder false).mono fun _ looks =>
        looks.backs
    · exact Yields.pure_iff.mpr (n.aligned_path.backs (by decide) holds h)

theorem perform_backs (sound : n.Sound) (timed : n.Timed)
    (short : n.config.mode = .zmac → n.config.backoffBound.toNat ≤ 2 ^ 31) (h : n.Backs)
    {operation : Operation} (timely : n.Timely (.operate operation)) :
    Yields (n.perform operation) fun out => out.2.Backs := by
  have holds := timed.inTime.holds
  have alone {m : Node M} {d : Deed} (step : Step d n m)
      (quiet : d ∉ .spendSlot :: Deed.setting := by decide) : m.Backs :=
    Path.backs (step.path (by simp)) (fun _ mem => List.mem_singleton.mp mem ▸ quiet) holds h
  cases operation with
  | start =>
    have path := n.start_path (ε := ε)
    exact Yields.ok_iff.mpr fun _ =>
      .of_unheld (path.holdsSlot (by decide) holds) (start_unheld timed timely)
  | send token destination bytes =>
    refine Yields.bind (P := fun out => out.2.Backs) ?_ fun _ done => Yields.pure_iff.mpr done
    rw [send]
    split
    · exact Yields.ok_iff.mpr h
    · next payload fits =>
      have captured := n.capture_path { token, destination, payload, queuedAt := n.fineNow }
      exact arrange_backs (captured.sound sound) (captured.holdsSlot (by decide) holds)
        (captured.same.config.symm ▸ short) (captured.backs (by decide) holds h)
  | alarmFired kind =>
    cases kind with
    | slot => exact timely.elim
    | beacon =>
      exact (beaconFired_heeds sound).bind fun _ heeds => Yields.pure_iff.mpr (heeds.backs holds h)
  | receive bytes =>
    rcases receive_cases (ε := ε) n bytes with ⟨header, heard, same⟩ | ⟨-, path⟩
    · rw [perform, same]
      exact (followBeacon_heeds sound header (role_of_heard heard)).bind fun _ heeds =>
        Yields.pure_iff.mpr (heeds.backs holds h)
    · exact path.bind fun _ path => Yields.pure_iff.mpr (path.backs (by decide) holds h)
  | complete channel completion transmissions => exact Yields.ok_iff.mpr (alone (.complete ..))
  | poll => exact Yields.ok_iff.mpr (alone .fetch)
  | powerOn => exact Yields.ok_iff.mpr (alone (.power Medium.powerOn))
  | powerOff keepOn => exact Yields.ok_iff.mpr (alone (.power (Medium.powerOff · keepOn)))

/-- Changes of the host that leave the clock and the slot alarm alone. -/
theorem Backs.amid (h : n.Backs) {alarms : AlarmClock} (medium : M)
    (now : alarms.now = n.alarms.now) (pending : alarms.pending .slot = n.alarms.pending .slot) :
    (n.amid alarms medium).Backs := by
  intro ended
  have same : Same n (n.amid alarms medium) := ⟨rfl, rfl, rfl, now, rfl, id⟩
  exact (h ended).congr now pending (Nat.le_of_eq (same.offset rfl))

theorem undergo_backs (sound : n.Sound) (timed : n.Timed)
    (short : n.config.mode = .zmac → n.config.backoffBound.toNat ≤ 2 ^ 31) (h : n.Backs)
    (timely : n.Timely stimulus) :
    Yields (n.undergo stimulus) fun out => out.2.Backs := by
  cases stimulus with
  | operate operation =>
    exact (perform_backs sound timed short h timely).bind fun _ done => Yields.pure_iff.mpr done
  | fire kind =>
    refine undergo_fire (Q := Backs) (fun _ => h) fun k first => ?_
    cases kind with
    | slot =>
      have expired : Step .expire (n.consumed .slot) (n.consumed .slot).expireSync := .expire
      exact (slotAlarmFired_looks (sound.amid _ _ |>.of_same expired.same)).mono fun _ looks =>
        looks.backs
    | beacon =>
      exact (beaconFired_heeds (sound.amid _ _)).mono fun _ heeds =>
        heeds.backs timed.consumed.inTime.holds
          (h.amid n.medium rfl (pending_consume_other _ (by decide)))
  | lose kind =>
    cases kind with
    | slot => exact timely.elim
    | beacon =>
      exact Yields.ok_iff.mpr (h.amid n.medium rfl (pending_consume_other _ (by decide)))
  | clock time =>
    obtain ⟨order, ahead⟩ := timely.clock
    obtain ⟨passed, rfl⟩ := Nat.exists_eq_add_of_le order
    refine Yields.ok_iff.mpr fun ended k mem => ?_
    obtain ⟨wait, due, within, near⟩ := (h ended).elapse ahead k mem
    exact ⟨wait, due, Nat.lt_of_lt_of_le within (Nat.sub_le ..), near⟩
  | refuse kind error =>
    exact Yields.ok_iff.mpr (h.amid n.medium (refuse_now ..) (pending_refuse ..))
  | medium medium => exact Yields.ok_iff.mpr (h.amid medium rfl rfl)

/-! ## Handing over in the slot -/

/-- Nothing stands in the way of a frame in the slot right now. -/
structure Free (n : Node M) : Prop where
  idle : n.inFlight = none
  owned : n.OwnsNow

theorem Path.free (path : Path kinds n m)
    (quiet : ∀ d ∈ kinds, d ∉ [.offer, .steal, .complete] ++ Deed.setting := by decide)
    (h : n.Free) : m.Free := by
  refine path.keeps (P := Free) ?_ h
  rintro a b d mem step ⟨idle, owned⟩
  have plain := quiet d mem
  refine ⟨(step.kept.inFlight (by grind)).trans idle, ?_⟩
  rw [OwnsNow, step.same.config, step.same.slot]
  exact (Layout.owns_congr (step.offset (by grind)).2).mpr owned

/-- A frame was handed over, at the time of the first state. -/
def Hands (frame : QueuedFrame) (n m : Node M) : Prop :=
  ∃ added s, m.journal = added ++ .submitted s :: n.journal ∧ s.channel = .data ∧
    s.queued = some frame ∧ s.time = n.alarms.now

theorem Hands.grow (h : Hands frame n m) (adds : Adds (fun _ => True) m k) :
    Hands frame n k := by
  obtain ⟨added, s, same, about⟩ := h
  obtain ⟨later, grown, -⟩ := adds
  exact ⟨later ++ added, s, by rw [grown, same, List.append_assoc], about⟩

theorem useSlot_hands (sound : n.Sound) (free : n.Free) (waits : n.outbox = some frame)
    (periodic : Bool) : Yields (n.useSlot periodic) fun m => Hands frame n m := by
  have handed : Hands frame n (n.offered frame) :=
    ⟨[], _, offered_journal n frame, rfl, rfl, rfl⟩
  rw [useSlot, if_pos (by simp [waits]), handOver_eq sound.room free.idle waits]
  simp only [bind, Except.bind, Yields.pure_iff]
  split
  · exact handed.grow (deferWaiting_adds (by simp [Posts]) _)
  · exact handed

/-- Inside the slot every look at it hands the frame over. -/
theorem attendSlot_hands (sound : n.Sound) (free : n.Free) (waits : n.outbox = some frame)
    (periodic : Bool) :
    Yields (n.attendSlot periodic : Except Fault (Reply ε × Node M)) fun out =>
      Hands frame n out.2 := by
  have inOrder := n.aligned_path.sound sound
  have free := n.aligned_path.free (by decide) free
  have used : Yields (n.aligned.useSlot periodic) fun m =>
      Path [.offer, .defer] n.aligned m ∧ m.time = n.aligned.time :=
    useSlot_path inOrder free.owned periodic (by decide) (by simp)
  rw [attendSlot]
  rw [placement_eq sound]
  simp only [bind, Except.bind, view_inside_iff.mpr free.owned]
  refine (used.and (useSlot_hands inOrder free waits periodic)).bind ?_
  rintro m ⟨⟨path, -⟩, handed⟩
  have remains := path.sound inOrder
  rw [remains.valid.layout.untilNext_eq remains.slot_lt]
  refine Yields.pure_iff.mpr (Hands.grow (n := n) handed ?_)
  exact armSlotAlarm_adds (by simp [Posts]) m _ _ fun _ => trivial

/-- A backoff that ends inside the slot is as good as an alarm for the slot. -/
theorem endBackoff_hands (sound : n.Sound) (free : n.Free) (waits : n.outbox = some frame) :
    Yields (n.endBackoff : Except Fault (Reply ε × Node M)) fun out => Hands frame n out.2 := by
  have free := n.aligned_path.free (by decide) free
  have inside := Placement.isInside_iff.mpr (view_inside_iff.mpr free.owned)
  rw [endBackoff]
  rw [placement_eq sound]
  simp only [bind, Except.bind, inside, Bool.true_or, if_true]
  exact attendSlot_hands (n.aligned_path.sound sound) free waits false

/-- So is the capture of a frame. -/
theorem arrange_hands (sound : n.Sound) (free : n.Free) (waits : n.outbox = some frame) :
    Yields (n.arrange : Except Fault (Reply ε × Node M)) fun out => Hands frame n out.2 := by
  have free := n.aligned_path.free (by decide) free
  have inside := Placement.isInside_iff.mpr (view_inside_iff.mpr free.owned)
  rw [arrange]
  rw [placement_eq sound]
  simp only [bind, Except.bind, inside, Bool.or_true, if_true]
  rw [if_neg (by simp)]
  exact attendSlot_hands (n.aligned_path.sound sound) free waits false

/-- Whatever the slot alarm was for, inside the slot it hands the frame over. -/
theorem slotFired_hands (sound : n.Sound) (free : n.Free) (waits : n.outbox = some frame) :
    Yields ((n.consumed .slot).alarmFired .slot : Except Fault (Reply ε × Node M)) fun out =>
      Hands frame n out.2 := by
  have path : Path [.expire, .spendSlot] (n.consumed .slot) n.atSlot :=
    ((Path.refl _).snoc .expire).snoc .spendSlot
  have consumed : (n.consumed .slot).Sound := sound.amid _ _
  have inOrder := path.sound consumed
  have free : n.atSlot.Free := path.free (by decide) ⟨free.idle, free.owned⟩
  have same : n.atSlot.journal = n.journal ∧ n.atSlot.outbox = n.outbox := by
    obtain ⟨_, _, expired⟩ := (n.consumed .slot).expireSync_eq
    obtain ⟨_, late⟩ := { (n.consumed .slot).expireSync with slotAlarm := none }.noteLateness_eq
    rw [atSlot, spent, late, expired]
    exact ⟨rfl, rfl⟩
  have now : n.atSlot.alarms.now = n.alarms.now := path.same.now
  have handed {out : Reply ε × Node M} (h : Hands frame n.atSlot out.2) : Hands frame n out.2 := by
    rw [Hands, same.1, now] at h
    exact h
  show Yields (if n.atSlot.arbitration = .backingOff then n.atSlot.endBackoff
    else n.atSlot.attendSlot true) _
  split
  · exact (endBackoff_hands inOrder free (same.2.trans waits)).mono fun _ => handed
  · exact (attendSlot_hands inOrder free (same.2.trans waits) true).mono fun _ => handed

/-- A grid that starts anew leaves a trace. -/
theorem Restarts.traced {out : Reply ε × Node M} (h : Restarts n out) :
    ∃ added, out.2.journal = added ++ .gridRestarted n.alarms.now :: n.journal := by
  obtain ⟨added, grown, -⟩ := h.path.adds
  exact ⟨added, grown⟩

/-! ## While the slot is open -/

/-- A frame waits for the slot that opened at one time and closes at another, and the
slot alarm comes in between. -/
structure Poised (frame : QueuedFrame) (opens closes : Nat) (n : Node M) : Prop where
  waits : n.outbox = some frame
  idle : n.inFlight = none
  span : closes = opens + n.config.layout.span
  opened : opens ≤ n.alarms.now
  lasts : n.alarms.now < closes
  phase : n.offset % n.config.layout.period.toNat =
    n.config.layout.opening n.slot + (n.alarms.now - opens)
  ends : n.AlarmWithin (closes - n.alarms.now)

theorem Poised.free (h : n.Poised frame opens closes) (sound : n.Sound) : n.Free := by
  have ends := sound.valid.layout.closing_eq n.slot
  have span := h.span
  have opened := h.opened
  have lasts := h.lasts
  refine ⟨h.idle, ?_, ?_⟩
  · rw [h.phase]
    omega
  · rw [h.phase]
    omega

/-- The deeds that do something about a frame that waits, or change when its alarm
comes. -/
def Deed.engaging : List Deed :=
  [.capture, .offer, .steal, .defer, .complete, .spendSlot] ++ Deed.setting

theorem Path.poised (path : Path kinds n m)
    (quiet : ∀ d ∈ kinds, d ∉ Deed.engaging := by decide) (holds : n.HoldsSlot)
    (h : n.Poised frame opens closes) : m.Poised frame opens closes := by
  have kept : m.HoldsSlot ∧ m.Poised frame opens closes := by
    refine path.keeps (P := fun k => k.HoldsSlot ∧ k.Poised frame opens closes) ?_ ⟨holds, h⟩
    rintro a b d mem step ⟨holds, poised⟩
    have plain {kinds : List Deed} (sub : kinds ⊆ Deed.engaging := by decide) : d ∉ kinds :=
      fun among => quiet d mem (sub among)
    have grid : d ∉ Deed.setting := plain
    have spends : d ∉ [.spendSlot] := plain
    have same := step.same
    refine ⟨step.holdsSlot (by simpa using spends) holds, ?_, ?_, ?_, ?_, ?_, ?_, ?_⟩
    · exact (step.kept.outbox plain).trans poised.waits
    · exact (step.kept.inFlight plain).trans poised.idle
    · exact same.config ▸ poised.span
    · exact same.now ▸ poised.opened
    · exact same.now ▸ poised.lasts
    · rw [same.config, same.slot, same.now]
      exact (step.offset grid).2.trans poised.phase
    · rw [same.now]
      exact step.alarmWithin grid holds poised.ends
  exact kept.2

/-- What has come of the frame that waited as the slot opened, since the journal was
as it was then. -/
def Served (before : Journal) (frame : QueuedFrame) (opens closes : Nat) (n : Node M) : Prop :=
  ∃ added, n.journal = added ++ before ∧
    (added.Answers frame opens closes ∨ n.Poised frame opens closes)

theorem Served.trans {before : Journal} (h : Served n.journal frame opens closes m)
    (added : Journal) (grown : n.journal = added ++ before) :
    Served before frame opens closes m := by
  obtain ⟨later, more, outcome⟩ := h
  have sub : later ⊆ later ++ added := List.subset_append_left ..
  exact ⟨later ++ added, by rw [more, grown, List.append_assoc], outcome.imp (·.mono sub) id⟩

theorem Poised.served (h : n.Poised frame opens closes) :
    Served n.journal frame opens closes n := ⟨[], rfl, .inr h⟩

theorem Hands.served (h : Hands frame n m) (opened : opens ≤ n.alarms.now)
    (lasts : n.alarms.now < closes) : Served n.journal frame opens closes m := by
  obtain ⟨added, s, grown, data, queued, now⟩ := h
  refine ⟨added ++ [.submitted s], by simp [grown], .inl (.inr ?_)⟩
  exact ⟨s, frame, by simp, data, queued, .inl rfl, now ▸ opened, now ▸ lasts⟩

theorem Path.served (path : Path kinds n m)
    (quiet : ∀ d ∈ kinds, d ∉ Deed.engaging := by decide) (holds : n.HoldsSlot)
    (h : n.Poised frame opens closes) : Served n.journal frame opens closes m := by
  obtain ⟨added, grown, -⟩ := path.adds
  exact ⟨added, grown, .inr (path.poised quiet holds h)⟩

theorem Restarts.served {out : Reply ε × Node M} (h : Restarts n out)
    (poised : n.Poised frame opens closes) : Served n.journal frame opens closes out.2 := by
  obtain ⟨added, grown⟩ := h.traced
  refine ⟨added ++ [.gridRestarted n.alarms.now], by simp [grown], .inl (.inl ?_)⟩
  exact ⟨n.alarms.now, by simp, poised.opened, poised.lasts⟩

theorem Broadcasts.served {out : Reply ε × Node M} (h : Broadcasts n out)
    (poised : n.Poised frame opens closes) : Served n.journal frame opens closes out.2 := by
  obtain ⟨waits, idle, span, opened, lasts, phase, ends⟩ := poised
  cases h with
  | refused role declined =>
    have next : Poised frame opens closes (n.submitted .beacon n.reference none) :=
      ⟨waits, idle, span, opened, lasts, phase, ends⟩
    exact next.served.trans [_] rfl
  | sent role accepted rest =>
    have next : n.aired.Poised frame opens closes :=
      ⟨waits, idle, span, opened, lasts, phase, ends⟩
    exact (rest.served next).trans [_] rfl

theorem Heeds.served {out : Reply ε × Node M} (h : Heeds n out) (holds : n.HoldsSlot)
    (poised : n.Poised frame opens closes) : Served n.journal frame opens closes out.2 := by
  have after {m : Node M} (path : Path Deed.heeding n m)
      (next : Served m.journal frame opens closes out.2) :
      Served n.journal frame opens closes out.2 := by
    obtain ⟨added, grown, -⟩ := path.adds
    exact next.trans added grown
  cases h with
  | arranges path => exact path.served (by decide) holds poised
  | follows path role rest => exact after path (rest.served (path.poised (by decide) holds poised))
  | broadcasts path rest => exact after path (rest.served (path.poised (by decide) holds poised))

/-- A newer frame takes the place of the one that waits, and is handed over at once. -/
theorem send_served (sound : n.Sound) (poised : n.Poised frame opens closes) (token : Token)
    (destination : Address) (bytes : List UInt8) :
    Yields (n.send token destination bytes : Except Fault (Reply ε × Node M)) fun out =>
      Served n.journal frame opens closes out.2 := by
  rw [send]
  split
  · exact Yields.ok_iff.mpr poised.served
  · next payload _ =>
    let latest : QueuedFrame := { token, destination, payload, queuedAt := n.fineNow }
    have expired : Path [.expire] n n.expireSync := Step.expire.path
    have captured : Path [.expire, .capture] n (n.expireSync.capture latest) :=
      n.capture_path latest
    have waits : (n.expireSync.capture latest).outbox = some latest := by
      obtain ⟨_, _, _, same⟩ := n.expireSync.capture_eq latest
      rw [same]
    have free := captured.free (by decide) (poised.free sound)
    refine (arrange_hands (captured.sound sound) free waits).mono ?_
    rintro out ⟨later, s, handed, data, queued, now⟩
    obtain ⟨posted, taken, -⟩ := n.expireSync.capture_journal latest
    obtain ⟨earlier, before, -⟩ := expired.adds
    rw [captured.same.now] at now
    refine ⟨later ++ .submitted s :: posted ++ .captured latest n.expireSync.alarms.now :: earlier,
      by simp [handed, taken, before], .inl (.inr ⟨s, latest, by simp, data, queued, ?_, ?_⟩)⟩
    · exact .inr ⟨n.expireSync.alarms.now, by simp⟩
    · exact now ▸ ⟨poised.opened, poised.lasts⟩

theorem perform_served (sound : n.Sound) (timed : n.Timed) (attended : n.Attended)
    (poised : n.Poised frame opens closes) {operation : Operation}
    (timely : n.Timely (.operate operation)) :
    Yields (n.perform operation) fun out => Served n.journal frame opens closes out.2 := by
  have holds := timed.inTime.holds
  have alone {m : Node M} {d : Deed} (step : Step d n m)
      (quiet : d ∉ Deed.engaging := by decide) : Served n.journal frame opens closes m :=
    Path.served (step.path (by simp)) (fun _ mem => List.mem_singleton.mp mem ▸ quiet) holds poised
  cases operation with
  | start =>
    -- the frame that waits was taken over before
    have held : n.slotAlarm.isSome := attended (by simp [poised.waits])
    exact absurd timely (timed.used held)
  | send token destination bytes =>
    exact (send_served sound poised token destination bytes).bind fun _ done =>
      Yields.pure_iff.mpr done
  | alarmFired kind =>
    cases kind with
    | slot => exact timely.elim
    | beacon =>
      exact (beaconFired_heeds sound).bind fun _ heeds =>
        Yields.pure_iff.mpr (heeds.served holds poised)
  | receive bytes =>
    rcases receive_cases (ε := ε) n bytes with ⟨header, heard, same⟩ | ⟨-, path⟩
    · rw [perform, same]
      exact (followBeacon_heeds sound header (role_of_heard heard)).bind fun _ heeds =>
        Yields.pure_iff.mpr (heeds.served holds poised)
    · exact path.bind fun _ path => Yields.pure_iff.mpr (path.served (by decide) holds poised)
  | complete channel completion transmissions =>
    have ignored : n.complete channel completion transmissions = n := by
      cases channel <;> simp [complete, poised.idle]
    exact Yields.ok_iff.mpr (ignored.symm ▸ poised.served)
  | poll => exact Yields.ok_iff.mpr (alone .fetch)
  | powerOn => exact Yields.ok_iff.mpr (alone (.power Medium.powerOn))
  | powerOff keepOn => exact Yields.ok_iff.mpr (alone (.power (Medium.powerOff · keepOn)))

/-- The clock does not pass the slot alarm, and so not the end of the slot. -/
theorem Poised.elapse (h : n.Poised frame opens closes) (sound : n.Sound) (holds : n.HoldsSlot)
    (attended : n.Attended) {time : Nat} (order : n.alarms.now ≤ time)
    (ahead : ∀ k ∈ n.alarms.pending .slot, time ≤ k.due) :
    (n.setClock time).Poised frame opens closes := by
  obtain ⟨handle, held⟩ := Option.isSome_iff_exists.mp (attended (by simp [h.waits]))
  obtain ⟨k, mem, -⟩ := (holdsSlot_iff.mp holds).exists_pending held
  obtain ⟨wait, due, within, near⟩ := h.ends k mem
  have before := ahead k mem
  have opened := h.opened
  have ends := sound.valid.layout.closing_eq n.slot
  have fits := sound.valid.layout.closing_le sound.slot_lt
  have span := h.span
  have phase := h.phase
  obtain ⟨passed, rfl⟩ := Nat.exists_eq_add_of_le order
  have offset := offset_setClock (show n.offset + passed < 2 ^ 32 by omega)
  refine ⟨h.waits, h.idle, span, ?_, ?_, ?_, ?_⟩
  · exact Nat.le_trans opened order
  · show n.alarms.now + passed < closes
    omega
  · show (n.setClock (n.alarms.now + passed)).offset % n.config.layout.period.toNat =
      n.config.layout.opening n.slot + (n.alarms.now + passed - opens)
    have short : passed % n.config.layout.period.toNat = passed := Nat.mod_eq_of_lt (by omega)
    rw [offset, Nat.add_mod_of_add_mod_lt (by omega), phase, short]
    omega
  · have later := h.ends.elapse ahead
    rwa [Nat.sub_sub] at later

/-- What holds of a node between stimuli. -/
structure Prepared (config : Config) (n : Node M) : Prop where
  timed : n.Timed
  attended : n.Attended
  mannered : n.Mannered config
  backs : n.Backs

/-- As the slot opens, the slot alarm is due at once, or a backoff is that was drawn
earlier and so is over before the slot is. -/
theorem Prepared.alarmWithin {config : Config} (sound : n.Sound) (h : n.Prepared config)
    (short : config.mode = .zmac → config.backoffBound.toNat ≤ config.layout.span + 1)
    (awaits : n.Awaits frame opens) (reached : ∀ k ∈ n.alarms.pending .slot, opens ≤ k.due) :
    n.AlarmWithin (opens + config.layout.span - n.alarms.now) := by
  obtain ⟨-, -, ahead, starts⟩ := awaits
  have settings := h.mannered.settings
  intro k mem
  have before := reached k mem
  by_cases backing : n.arbitration = .backingOff
  · obtain ⟨wait, due, within, near⟩ := h.backs backing k mem
    have bounded := short (settings ▸ h.mannered.contends backing)
    rw [settings] at within
    exact ⟨wait, due, by omega, near⟩
  · obtain ⟨wait, due, within, near, aims⟩ := h.timed.aimed backing k mem
    have valid := sound.valid.layout
    rw [settings] at within aims starts valid
    obtain ⟨early, rfl⟩ := Nat.exists_eq_add_of_le (Nat.le_of_lt ahead)
    rw [offset_setClock (by omega)] at starts
    -- the slot opens once in a period
    have once : wait = early := by
      by_contra later
      have next : config.layout.toOpening n.slot (n.offset + early) ≤ wait - early :=
        valid.toOpening_le (by omega) (by rw [← aims]; congr 1; omega)
      rw [Layout.toOpening_of_started (Nat.le_of_eq starts.symm)] at next
      omega
    have length := valid.guard_lt
    exact ⟨wait, due, by rw [Layout.span]; omega, near⟩

/-- So the frame that waits as the slot opens can be handed over before it closes. -/
theorem Prepared.poised {config : Config} (sound : n.Sound) (h : n.Prepared config)
    (short : config.mode = .zmac → config.backoffBound.toNat ≤ config.layout.span + 1)
    {time : Nat} (timely : n.Timely (.clock time)) (awaits : n.Awaits frame opens)
    (reached : opens ≤ time) :
    (n.setClock time).Poised frame opens (opens + config.layout.span) := by
  obtain ⟨waits, idle, ahead, starts⟩ := awaits
  have holds := h.timed.inTime.holds
  obtain ⟨-, due⟩ := timely.clock
  have early : ∀ k ∈ n.alarms.pending .slot, opens ≤ k.due := fun k mem =>
    reached.trans (due k mem)
  have soon := h.alarmWithin sound short ⟨waits, idle, ahead, starts⟩ early
  have open_now : (n.setClock opens).Poised frame opens (opens + config.layout.span) := by
    have length := sound.valid.layout.guard_lt
    obtain ⟨passed, rfl⟩ := Nat.exists_eq_add_of_le (Nat.le_of_lt ahead)
    rw [← h.mannered.settings] at soon ⊢
    refine ⟨waits, idle, rfl, Nat.le_refl _, ?_, ?_, ?_⟩
    · exact Nat.lt_add_of_pos_right (by rw [Layout.span]; omega)
    · exact starts.trans (by simp [setClock])
    · have later := soon.elapse early
      rwa [Nat.sub_sub] at later
  exact open_now.elapse (sound.amid _ _) (holds.setClock opens) h.attended reached due

theorem undergo_prepared {config : Config} (sound : n.Sound) (h : n.Prepared config)
    (short : config.mode = .zmac → config.backoffBound.toNat ≤ config.layout.span + 1)
    (timely : n.Timely stimulus) :
    Yields (n.undergo stimulus) fun out => out.2.Prepared config := by
  have bounded : n.config.mode = .zmac → n.config.backoffBound.toNat ≤ 2 ^ 31 := by
    intro steals
    have limit := sound.valid.layout.period_lt
    have fits := sound.valid.layout.slotLength_le
    have less := sound.valid.layout.guard_lt
    rw [h.mannered.settings] at steals limit fits less ⊢
    have bounded := short steals
    rw [Layout.span] at bounded
    omega
  refine ((undergo_timed sound h.timed timely).and
    ((undergo_attended sound h.attended stimulus).and
      ((undergo_mannered sound h.mannered stimulus).and
        (undergo_backs sound h.timed bounded h.backs timely)))).mono ?_
  rintro out ⟨timed, attended, mannered, backs⟩
  exact ⟨timed, attended, mannered, backs⟩

/-- Changes of the host that leave the clock and the slot alarm alone. -/
theorem Poised.amid (h : n.Poised frame opens closes) {alarms : AlarmClock} (medium : M)
    (now : alarms.now = n.alarms.now) (pending : alarms.pending .slot = n.alarms.pending .slot) :
    (n.amid alarms medium).Poised frame opens closes := by
  have same : Same n (n.amid alarms medium) := ⟨rfl, rfl, rfl, now, rfl, id⟩
  refine ⟨h.waits, h.idle, h.span, ?_, ?_, ?_, ?_⟩
  · exact same.now ▸ h.opened
  · exact same.now ▸ h.lasts
  · rw [same.offset rfl, same.now]
    exact h.phase
  · rw [same.now]
    exact h.ends.congr now pending (Nat.le_of_eq (same.offset rfl))

/-- The frame waits on, or the grid starts anew, or the frame is handed over. -/
theorem undergo_poised {config : Config} (sound : n.Sound) (h : n.Prepared config)
    (timely : n.Timely stimulus) (poised : n.Poised frame opens closes) :
    Yields (n.undergo stimulus) fun out => Served n.journal frame opens closes out.2 := by
  have holds := h.timed.inTime.holds
  have alone {m : Node M} (same : m.journal = n.journal) (next : m.Poised frame opens closes) :
      Served n.journal frame opens closes m := same ▸ next.served
  have without : (n.consumed .beacon).Poised frame opens closes :=
    poised.amid n.medium rfl (pending_consume_other _ (by decide))
  cases stimulus with
  | operate operation =>
    exact (perform_served sound h.timed h.attended poised timely).bind fun _ done =>
      Yields.pure_iff.mpr done
  | fire kind =>
    refine undergo_fire (Q := Served n.journal frame opens closes) (fun _ => poised.served) ?_
    intro k first
    cases kind with
    | slot =>
      exact (slotFired_hands sound (poised.free sound) poised.waits).mono fun _ handed =>
        handed.served poised.opened poised.lasts
    | beacon =>
      exact (beaconFired_heeds (sound.amid _ _)).mono fun _ heeds =>
        heeds.served h.timed.consumed.inTime.holds without
  | lose kind =>
    cases kind with
    | slot => exact timely.elim
    | beacon => exact Yields.ok_iff.mpr (alone rfl without)
  | clock time =>
    obtain ⟨order, ahead⟩ := timely.clock
    exact Yields.ok_iff.mpr (alone rfl (poised.elapse sound holds h.attended order ahead))
  | refuse kind error =>
    exact Yields.ok_iff.mpr
      (alone rfl (poised.amid n.medium (refuse_now ..) (pending_refuse ..)))
  | medium medium => exact Yields.ok_iff.mpr (alone rfl (poised.amid medium rfl rfl))

theorem undergo_served {config : Config} {before : Journal} (sound : n.Sound)
    (h : n.Prepared config) (timely : n.Timely stimulus)
    (served : Served before frame opens closes n) :
    Yields (n.undergo stimulus) fun out => Served before frame opens closes out.2 := by
  obtain ⟨added, grown, outcome⟩ := served
  rcases outcome with answered | poised
  · refine (undergo_permitted sound h.mannered stimulus).mono ?_
    rintro out ⟨later, more, -⟩
    exact ⟨later ++ added, by rw [more, grown, List.append_assoc],
      .inl (answered.mono (List.subset_append_right ..))⟩
  · exact (undergo_poised sound h timely poised).mono fun _ next => next.trans added grown

/-- Over a course, too: a frame that waits as the clock reaches the slot is answered for
once the clock has passed it. -/
theorem course_served {config : Config} (sound : n.Sound) (h : n.Prepared config)
    (short : config.mode = .zmac → config.backoffBound.toNat ≤ config.layout.span + 1)
    {time : Nat} {rest : List (Stimulus M)} (timely : n.Obeys Timely (.clock time :: rest)) :
    Yields (n.course (.clock time :: rest)) fun out =>
      ∃ added, out.2.journal = added ++ n.journal ∧
        ∀ frame opens, n.Awaits frame opens → opens ≤ time →
          out.2.alarms.now < opens + config.layout.span ∨
            added.Answers frame opens (opens + config.layout.span) := by
  obtain ⟨reached, onward⟩ := timely
  have passed : n.undergo (.clock time) = .ok (none, n.setClock time) := rfl
  let P (k : Node M) : Prop := k.Prepared config ∧ (∃ added, k.journal = added ++ n.journal) ∧
    ∀ frame opens, n.Awaits frame opens → opens ≤ time →
      Served n.journal frame opens (opens + config.layout.span) k
  have start : P (n.setClock time) := by
    refine ⟨(undergo_prepared sound h short reached).of_ok passed, ⟨[], rfl⟩, ?_⟩
    intro frame opens awaits before
    exact ⟨[], rfl, .inr (h.poised sound short reached awaits before)⟩
  have step (k : Node M) (stimulus : Stimulus M) (sound : k.Sound) (now : P k)
      (timely : k.Timely stimulus) : Yields (k.undergo stimulus) fun out => P out.2 := by
    obtain ⟨prepared, ⟨added, grown⟩, served⟩ := now
    have mannered := prepared.mannered
    obtain ⟨out, done, next, later, more, -⟩ := (undergo_prepared sound prepared short timely).and
      (undergo_permitted sound mannered stimulus)
    refine ⟨out, done, next, ⟨later ++ added, by rw [more, grown, List.append_assoc]⟩, ?_⟩
    intro frame opens awaits before
    exact (undergo_served sound prepared timely (served frame opens awaits before)).of_ok done
  have obeys : (n.setClock time).Obeys Timely (rest ++ []) := by
    rw [List.append_nil]
    exact onward _ passed
  rw [course, passed]
  refine (course_obeys step (sound.amid _ _) start obeys).bind ?_
  rintro ⟨answers, m⟩ ⟨⟨-, ⟨added, grown⟩, served⟩, -⟩
  refine Yields.pure_iff.mpr ⟨added, grown, fun frame opens awaits before => ?_⟩
  obtain ⟨same, grown', outcome⟩ := served frame opens awaits before
  rw [List.append_cancel_right (grown'.symm.trans grown)] at outcome
  exact outcome.symm.imp Poised.lasts id

theorem fresh_prepared (address : Address) (config : Config) (medium : M) {alarms : AlarmClock}
    (unused : alarms.live = []) (words : WordSource) :
    (fresh address config medium alarms words).Prepared config :=
  ⟨fresh_timed address config medium unused words, nofun, ⟨rfl, nofun, nofun, nofun⟩, nofun⟩

end Medium

end Node

open Node

/-- As long as no backoff can be longer than the usable part of a slot, a frame that
waits as the owned slot opens, with none in flight, is handed to the medium before the
slot closes: that frame, or a newer one that took its place. Only a grid that starts
anew in the meantime takes the slot away. -/
theorem own_slot_used {M ε : Type} [Medium M ε] {config : Config} (valid : config.Valid)
    (short : config.mode = .zmac → config.backoffBound.toNat ≤ config.layout.span + 1)
    (address : Address) (medium : M) {alarms : AlarmClock} (unused : alarms.live = [])
    (words : WordSource) (past rest : List (Stimulus M)) (time : Nat)
    (timely : (fresh address config medium alarms words).Obeys Timely
      (past ++ .clock time :: rest)) :
    ∃ before n after m added,
      lifetime address config medium alarms words past = .ok (.ok (before, n)) ∧
      lifetime address config medium alarms words (past ++ .clock time :: rest) =
        .ok (.ok (after, m)) ∧
      m.journal = added ++ n.journal ∧
      ∀ frame opens, n.Awaits frame opens → opens ≤ time →
        m.alarms.now < opens + config.layout.span ∨
          added.Answers frame opens (opens + config.layout.span) := by
  have step (m : Node M) (stimulus : Stimulus M) (sound : m.Sound) (h : m.Prepared config)
      (timely : m.Timely stimulus) := undergo_prepared sound h short timely
  obtain ⟨before, n, first, prepared, sound, onward⟩ :=
    lifetime_obeys step valid (fresh_prepared address config medium unused words) timely
  obtain ⟨⟨later, m⟩, ran, added, grown, served⟩ := course_served sound prepared short onward
  refine ⟨before, n, before ++ later, m, added, first, ?_, grown, served⟩
  exact lifetime_append valid first ran

/-- A frame is taken over at a time. -/
def frameAt (time : Nat) : List (Stimulus RecordingMedium) :=
  [.clock time, .operate (.send 7 0 [1])]

/-- A backoff that ends in the slot hands the frame over there. -/
theorem own_slot_used_backing_off :
    ∃ before n after m added frame,
      lifetime 3 { mode := .zmac } ({} : RecordingMedium) {} (.cycle [30000])
          (frameAt 480000) = .ok (.ok (before, n)) ∧
      lifetime 3 { mode := .zmac } ({} : RecordingMedium) {} (.cycle [30000])
          (frameAt 480000 ++ [.clock 510000, .fire .slot, .clock 700000]) =
        .ok (.ok (after, m)) ∧
      m.journal = added ++ n.journal ∧ n.arbitration = .backingOff ∧ n.Awaits frame 499998 ∧
      added.Answers frame 499998 649998 := by
  have valid : ({ mode := .zmac } : Config).Valid := Config.check_eq_ok_iff.mp rfl
  obtain ⟨before, n, after, m, added, first, last, grown, served⟩ :=
    own_slot_used valid (fun _ => by decide) 3 ({} : RecordingMedium)
      (rfl : ({} : AlarmClock).live = []) (.cycle [30000]) (frameAt 480000)
      [.fire .slot, .clock 700000] 510000 (by decide +kernel)
  obtain ⟨_, _, again, ⟨frame, awaits⟩, backs⟩ :
      ∃ answers n, lifetime 3 { mode := .zmac } ({} : RecordingMedium) {} (.cycle [30000])
          (frameAt 480000) = .ok (.ok (answers, n)) ∧
        (∃ frame, n.Awaits frame 499998) ∧ n.arbitration = .backingOff :=
    exists_lifetime valid (by decide +kernel)
  cases first.symm.trans again
  obtain ⟨_, _, again, late⟩ :
      ∃ answers m, lifetime 3 { mode := .zmac } ({} : RecordingMedium) {} (.cycle [30000])
          (frameAt 480000 ++ [.clock 510000, .fire .slot, .clock 700000]) =
            .ok (.ok (answers, m)) ∧ 649998 ≤ m.alarms.now :=
    exists_lifetime valid (by decide +kernel)
  cases last.symm.trans again
  refine ⟨before, n, after, m, added, frame, first, last, grown, backs, awaits, ?_⟩
  exact (served frame 499998 awaits (by decide)).resolve_left (Nat.not_lt.mpr late)

/-- Backoffs that may be longer than a slot. -/
def longBackoff : Config := { mode := .zmac, backoffBound := 200001 }

/-- A longer backoff that is drawn right before the slot opens is over only after the
slot has closed, and the frame waits on. -/
theorem own_slot_passed_over :
    longBackoff.Valid ∧
      (fresh 3 longBackoff ({} : RecordingMedium) {} (.cycle [200000])).Obeys Timely
        (frameAt 499997 ++ [.clock 690000]) ∧
      ∃ before n after m frame,
        lifetime 3 longBackoff ({} : RecordingMedium) {} (.cycle [200000]) (frameAt 499997) =
          .ok (.ok (before, n)) ∧
        lifetime 3 longBackoff ({} : RecordingMedium) {} (.cycle [200000])
            (frameAt 499997 ++ [.clock 690000]) = .ok (.ok (after, m)) ∧
        n.Awaits frame 499998 ∧ 499998 + longBackoff.layout.span ≤ m.alarms.now ∧
        m.journal = n.journal ∧ m.outbox = some frame := by
  have valid : longBackoff.Valid := Config.check_eq_ok_iff.mp rfl
  obtain ⟨before, n, first, frame, awaits⟩ :
      ∃ answers n, lifetime 3 longBackoff ({} : RecordingMedium) {} (.cycle [200000])
          (frameAt 499997) = .ok (.ok (answers, n)) ∧ ∃ frame, n.Awaits frame 499998 :=
    exists_lifetime valid (by decide +kernel)
  refine ⟨valid, by decide +kernel, before, n, before ++ [], n.setClock 690000, frame, first,
    lifetime_append valid first rfl, awaits, ?_, rfl, awaits.waits⟩
  show 499998 + longBackoff.layout.span ≤ 690000
  decide

/-- A start after a frame was taken over forgets the grid that the slot alarm was set
by. No callback comes in the slot by the new one, and the frame waits on. -/
theorem own_slot_missed_restarted :
    ∃ before n after m frame,
      lifetime 3 {} ({} : RecordingMedium) {} (.cycle [])
          (.clock 300000 :: .operate (.receive (Frame.timeReference 1 0).bytes) ::
            frameAt 300000 ++ [.operate .start]) = .ok (.ok (before, n)) ∧
      lifetime 3 {} ({} : RecordingMedium) {} (.cycle [])
          (.clock 300000 :: .operate (.receive (Frame.timeReference 1 0).bytes) ::
            frameAt 300000 ++ [.operate .start] ++ [.clock 690000]) = .ok (.ok (after, m)) ∧
      n.Awaits frame 499998 ∧ (∀ k ∈ n.alarms.live, 690000 < k.due) ∧
      499998 + n.config.layout.span ≤ m.alarms.now ∧ m.journal = n.journal ∧
      m.outbox = some frame := by
  obtain ⟨before, n, first, ⟨frame, awaits⟩, ahead, late⟩ :
      ∃ answers n, lifetime 3 {} ({} : RecordingMedium) {} (.cycle [])
          (.clock 300000 :: .operate (.receive (Frame.timeReference 1 0).bytes) ::
            frameAt 300000 ++ [.operate .start]) = .ok (.ok (answers, n)) ∧
        (∃ frame, n.Awaits frame 499998) ∧ (∀ k ∈ n.alarms.live, 690000 < k.due) ∧
          499998 + n.config.layout.span ≤ 690000 :=
    exists_lifetime Config.valid_default (by decide +kernel)
  exact ⟨before, n, before ++ [], n.setClock 690000, frame, first,
    lifetime_append Config.valid_default first rfl, awaits, ahead, late, rfl, awaits.waits⟩

end SlottedMac
