import SlottedMac.Proofs.Alarms
import SlottedMac.Proofs.Node.Journal

/-!
# Slot alarms on time

A slot alarm is armed in one operation and comes in a later one. In between a
beacon may start the grid anew, the grid may be moved on, and a newer frame may
ask for another alarm; all the while the alarm to come has to aim at the owned
slot by the grid as it is then. It does as long as the host lets slot alarms
come exactly when they are due, and starts the node only before there are frames
to send: a start forgets the grid, but leaves the slot alarm as it is.

Nothing is asked of beacon alarms. They may come at any time, several times or
not at all.
-/

namespace SlottedMac

/-- What an entry about a slot alarm that is not for a backoff says about its
delay. -/
def JournalEntry.Measured (l : Layout) : JournalEntry → Prop
  | .slotAlarm delay purpose _ =>
    purpose ≠ .backingOff → 1 ≤ delay.toNat ∧ delay.toNat ≤ l.period.toNat
  | _ => True

namespace Node

open AlarmClock

variable {M ε : Type} {n m : Node M}

/-- What a host may do that lets slot alarms come exactly when they are due, and
starts the node only before the first frame. -/
def Timely (n : Node M) : Stimulus M → Prop
  | .operate .start => n.journal.captured = []
  | .operate (.alarmFired .slot) => False
  | .operate _ => True
  | .fire .slot => ∀ k ∈ n.alarms.first? .slot, k.due = n.alarms.now
  | .fire .beacon => True
  | .lose .slot => False
  | .lose .beacon => True
  | .clock time => n.alarms.now ≤ time ∧ ∀ k ∈ n.alarms.live, k.kind = .slot → time ≤ k.due
  | .refuse _ _ => True
  | .medium _ => True

instance (n : Node M) (stimulus : Stimulus M) : Decidable (n.Timely stimulus) :=
  match stimulus with
  | .operate .start => inferInstanceAs (Decidable (n.journal.captured = []))
  | .fire .slot =>
    inferInstanceAs (Decidable (∀ k ∈ n.alarms.first? .slot, k.due = n.alarms.now))
  | .clock time =>
    inferInstanceAs (Decidable (_ ∧ ∀ k ∈ n.alarms.live, k.kind = .slot → time ≤ k.due))
  | .operate (.alarmFired .slot) | .lose .slot => .isFalse id
  | .operate (.send ..) | .operate (.alarmFired .beacon) | .operate (.receive _)
  | .operate (.complete ..) | .operate .poll | .operate .powerOn | .operate (.powerOff _)
  | .fire .beacon | .lose .beacon | .refuse .. | .medium _ => .isTrue trivial

/-- The clock does not pass the due time of a slot alarm. -/
theorem Timely.clock {time : Nat} (timely : n.Timely (.clock time)) :
    n.alarms.now ≤ time ∧ ∀ k ∈ n.alarms.pending .slot, time ≤ k.due := by
  refine ⟨timely.1, fun k mem => ?_⟩
  obtain ⟨live, kind⟩ := mem_pending.mp mem
  exact timely.2 k live kind

/-! ## The live slot alarm -/

/-- The node when a slot alarm came and it let go of it, just before it looks at
its slot. -/
def atSlot (n : Node M) : Node M := (n.consumed .slot).expireSync.spent .slot

/-- The live slot alarm is the one that the node holds. What the node holds for
beacons is none of it, even if it came or was lost long ago. -/
structure HoldsSlot (n : Node M) : Prop where
  distinct : n.alarms.Distinct
  live : (n.alarms.pending .slot).map (·.handle) = n.slotAlarm.toList
  apart : ∀ handle, n.beaconAlarm = some handle →
    handle < n.alarms.nextHandle ∧ n.slotAlarm ≠ some handle

theorem holdsSlot_iff : n.HoldsSlot ↔ n.Keeps .slot := by
  constructor
  · intro h
    refine ⟨h.distinct, h.live, fun other ne handle held => ?_⟩
    cases other with
    | slot => exact absurd rfl ne
    | beacon => exact h.apart handle held
  · intro h
    exact ⟨h.distinct, h.live, h.apart .beacon (by decide)⟩

namespace HoldsSlot

theorem congr (h : n.HoldsSlot) (distinct : m.alarms.Distinct)
    (pending : m.alarms.pending .slot = n.alarms.pending .slot)
    (next : m.alarms.nextHandle = n.alarms.nextHandle)
    (slot : m.slotAlarm = n.slotAlarm) (beacon : m.beaconAlarm = n.beaconAlarm) :
    m.HoldsSlot :=
  holdsSlot_iff.mpr ((holdsSlot_iff.mp h).congr distinct pending next (held_congr slot beacon))

/-- Nothing is held, and nothing comes. -/
theorem pending_eq_nil (h : n.HoldsSlot) (unheld : n.slotAlarm = none) :
    n.alarms.pending .slot = [] := (holdsSlot_iff.mp h).pending_eq_nil unheld

theorem slotAlarm_of_mem (h : n.HoldsSlot) {k : Callback} (mem : k ∈ n.alarms.pending .slot) :
    n.slotAlarm = some k.handle := (holdsSlot_iff.mp h).held_of_mem mem

theorem setClock (h : n.HoldsSlot) (time : Nat) : (n.setClock time).HoldsSlot :=
  h.congr ⟨h.distinct.nodup, h.distinct.fresh⟩ rfl rfl rfl rfl

end HoldsSlot

/-! ## What a slot alarm to come aims at -/

/-- A slot alarm to come, unless it ends a backoff, is due within a period and at
a start of the owned slot by the grid as it is now. -/
def Aimed (n : Node M) : Prop :=
  n.arbitration ≠ .backingOff → ∀ k ∈ n.alarms.pending .slot, ∃ wait,
    k.due = n.alarms.now + wait ∧ wait ≤ n.config.layout.period.toNat ∧
      n.offset + wait < 2 ^ 32 ∧
      (n.offset + wait) % n.config.layout.period.toNat = n.config.layout.opening n.slot

/-- What is known of slot alarms, wherever the grid is. -/
structure InTime (n : Node M) : Prop where
  holds : n.HoldsSlot
  expected : ∀ k ∈ n.alarms.pending .slot, n.slotDeadline = fine k.due
  misses : n.stats.deadlineMisses = 0
  measured : ∀ entry ∈ n.journal, entry.Measured n.config.layout

theorem Aimed.congr (h : n.Aimed) (same : Same n m) (grid : m.time.origin = n.time.origin)
    (arbitration : m.arbitration = n.arbitration)
    (pending : m.alarms.pending .slot = n.alarms.pending .slot) : m.Aimed := by
  rw [Aimed, arbitration, pending, same.now, same.config, same.slot, same.offset grid]
  exact h

theorem Aimed.of_unheld (holds : n.HoldsSlot) (unheld : n.slotAlarm = none) : n.Aimed := by
  intro _ k mem
  rw [holds.pending_eq_nil unheld] at mem
  cases mem

theorem aligned_aimed (h : n.Aimed) : n.aligned.Aimed := by
  intro slot k mem
  obtain ⟨wait, due, within, near, starts⟩ := h slot k mem
  refine ⟨wait, due, within, ?_, ?_⟩
  · have shorter := Nat.mod_le n.offset n.config.layout.period.toNat
    rw [aligned_offset]
    split <;> omega
  · show (n.aligned.offset + wait) % n.config.layout.period.toNat = n.config.layout.opening n.slot
    rw [← starts, Nat.add_mod, aligned_phase, ← Nat.add_mod]

/-- The grid grows older with the clock, until the counter has gone round. -/
theorem offset_setClock {passed : Nat} (near : n.offset + passed < 2 ^ 32) :
    (n.setClock (n.alarms.now + passed)).offset = n.offset + passed :=
  toNat_since_fine_add near

/-- Time that goes on up to the due time of an alarm brings it nearer. -/
theorem Aimed.elapse (h : n.Aimed) {time : Nat} (order : n.alarms.now ≤ time)
    (ahead : ∀ k ∈ n.alarms.pending .slot, time ≤ k.due) : (n.setClock time).Aimed := by
  obtain ⟨passed, rfl⟩ := Nat.exists_eq_add_of_le order
  intro slot k mem
  obtain ⟨wait, due, within, near, starts⟩ := h slot k mem
  obtain ⟨left, rest⟩ := Nat.exists_eq_add_of_le (ahead k mem)
  have split : wait = passed + left := by omega
  have offset := offset_setClock (show n.offset + passed < 2 ^ 32 by omega)
  rw [split, ← Nat.add_assoc, ← offset] at near starts
  exact ⟨left, rest, Nat.le_trans (by omega) within, near, starts⟩

theorem toNat_toSlot (sound : n.Sound) :
    n.toSlot.toNat = n.config.layout.toOpening n.slot n.offset :=
  sound.valid.layout.toNat_toOpening sound.slot_lt n.offset

/-- The one live slot alarm after arming it. -/
theorem armSlotAlarm_pending (holds : n.HoldsSlot) (delay : Ticks) (purpose : Arbitration)
    {k : Callback}
    (mem : k ∈ (n.armSlotAlarm delay purpose : Reply ε × Node M).2.alarms.pending .slot) :
    k.due = n.alarms.now + delay.toNat ∧
      (n.armSlotAlarm delay purpose : Reply ε × Node M).2.slotDeadline = n.fineNow + delay ∧
      (n.armSlotAlarm delay purpose : Reply ε × Node M).2.arbitration =
        if n.outbox.isSome then purpose else .idle := by
  cases refusal : n.alarms.refusal .slot with
  | some e =>
    obtain ⟨refused, none⟩ := rearm_refused holds.distinct holds.live delay refusal
    obtain ⟨_, _, _, _, _, _, same⟩ := n.armSlotAlarm_eq (ε := ε) delay purpose
    rw [same, refused, none] at mem
    cases mem
  | none =>
    obtain ⟨granted, live⟩ := rearm_granted holds.distinct holds.live delay refusal
    rw [armSlotAlarm] at mem ⊢
    split
    · next answer =>
      rw [answer] at live
      simp only [answer] at mem
      rw [live, List.mem_singleton] at mem
      refine ⟨?_, rfl, rfl⟩
      rw [mem]
      simp [upcoming, AlarmKind.resolution]
    · next refused =>
      rw [refused] at granted
      cases granted

theorem armSlotAlarm_offset (n : Node M) (delay : Ticks) (purpose : Arbitration) :
    (n.armSlotAlarm delay purpose : Reply ε × Node M).2.offset = n.offset := by
  refine (n.armSlotAlarm_same (ε := ε) delay purpose).offset ?_
  obtain ⟨_, _, _, _, _, _, eq⟩ := n.armSlotAlarm_eq (ε := ε) delay purpose
  rw [eq]

theorem armSlotAlarm_aimed (sound : n.Sound) (holds : n.HoldsSlot) {delay : Ticks}
    {purpose : Arbitration} (aims : n.Aims delay purpose) :
    (n.armSlotAlarm delay purpose : Reply ε × Node M).2.Aimed := by
  intro slot k mem
  obtain ⟨due, -, arbitration⟩ := armSlotAlarm_pending holds delay purpose mem
  rw [arbitration] at slot
  rcases aims with ⟨backs, waits⟩ | ⟨current, same⟩
  · simp [waits, backs] at slot
  · have starts := sound.valid.layout.add_toOpening_mod sound.slot_lt n.offset
    have bounds := sound.valid.layout.toOpening_bounds sound.slot_lt n.offset
    have short := sound.valid.layout.period_lt
    have kept := n.armSlotAlarm_same (ε := ε) delay purpose
    rw [same, toNat_toSlot sound] at due
    rw [Current] at current
    refine ⟨n.config.layout.toOpening n.slot n.offset, ?_, ?_, ?_, ?_⟩
    · rw [due, kept.now]
    · rw [kept.config]
      exact bounds.2
    · rw [armSlotAlarm_offset]
      omega
    · rw [armSlotAlarm_offset, kept.config, kept.slot]
      exact starts

/-- What slot alarms are asked for is measured. -/
theorem armSlotAlarm_measured (sound : n.Sound) {delay : Ticks} {purpose : Arbitration}
    (aims : n.Aims delay purpose) :
    Adds (JournalEntry.Measured n.config.layout) n
      (n.armSlotAlarm delay purpose : Reply ε × Node M).2 := by
  refine armSlotAlarm_adds (fun _ => ⟨trivial, trivial⟩) n delay purpose fun _ slot => ?_
  rcases aims with ⟨backs, -⟩ | ⟨-, same⟩
  · exact absurd backs slot
  · rw [same, toNat_toSlot sound]
    exact sound.valid.layout.toOpening_bounds sound.slot_lt n.offset

section Medium

variable [Medium M ε] {kinds : List Deed} {d : Deed} {stimulus : Stimulus M}

/-! ## One deed -/

theorem Step.holdsSlot (step : Step d n m) (spends : d ≠ .spendSlot) (h : n.HoldsSlot) :
    m.HoldsSlot := holdsSlot_iff.mpr (step.keeps spends (holdsSlot_iff.mp h))

/-- Only arming the slot alarm changes which ones are to come. -/
theorem Step.pending_slot (step : Step d n m) (other : d ≠ .armSlot) (holds : n.HoldsSlot) :
    m.alarms.pending .slot = n.alarms.pending .slot :=
  step.pending_eq other (holdsSlot_iff.mp holds)

theorem Step.measured (step : Step d n m) (sound : n.Sound)
    (h : ∀ entry ∈ n.journal, entry.Measured n.config.layout) :
    ∀ entry ∈ m.journal, entry.Measured m.config.layout := by
  have adds : Adds (JournalEntry.Measured n.config.layout) n m := by
    have own := step.adds
    cases step with
    | armSlot delay purpose allowed aims => exact armSlotAlarm_measured sound aims
    | _ =>
      refine own.mono fun entry writes => ?_
      cases entry with
      | slotAlarm delay purpose granted => simp [JournalEntry.writers] at writes
      | _ => trivial
  obtain ⟨added, grown, new⟩ := adds
  rw [step.same.config, grown]
  intro entry mem
  exact (List.mem_append.mp mem).elim (new entry) (h entry)

theorem Step.inTime (step : Step d n m) (spends : d ≠ .spendSlot) (sound : n.Sound)
    (h : n.InTime) : m.InTime where
  holds := step.holdsSlot spends h.holds
  misses := (step.kept.deadlineMisses spends).trans h.misses
  measured := step.measured sound h.measured
  expected := by
    by_cases arms : d = .armSlot
    · subst arms
      cases step with
      | armSlot delay purpose =>
        intro k mem
        obtain ⟨due, deadline, -⟩ := armSlotAlarm_pending h.holds delay purpose mem
        rw [deadline, due, fine_add, fineNow]
        exact congrArg (_ + ·) (UInt32.ofNat_toNat).symm
    · rw [step.pending_slot arms h.holds, step.kept.slotDeadline arms]
      exact h.expected

/-- The deeds after which a slot alarm need not aim at the slot any more, since
they forget the grid or start it anew, or at which one is let go. -/
def Deed.unsettling : List Deed := [.start, .emit, .anchor, .spendSlot]

theorem Step.aimed (step : Step d n m) (settled : d ∉ Deed.unsettling) (sound : n.Sound)
    (holds : n.HoldsSlot) (h : n.Aimed) : m.Aimed := by
  have kept := step.kept
  have same := step.same
  have pending (other : d ≠ .armSlot) := step.pending_slot other holds
  cases step with
  | start | begin | emitRefused | emit | anchor | spendSlot => simp [Deed.unsettling] at settled
  | armSlot delay purpose allowed aims => exact armSlotAlarm_aimed sound holds aims
  | align => exact aligned_aimed h
  | expire =>
    have grid : n.expireSync.time.origin = n.time.origin := by
      obtain ⟨_, _, eq⟩ := n.expireSync_eq
      rw [eq]
    exact h.congr same grid (kept.arbitration (by decide)) (pending (by decide))
  | _ =>
    exact h.congr same (congrArg TimeBase.origin (kept.time (by decide)))
      (kept.arbitration (by decide)) (pending (by decide))

/-! ## Many deeds -/

/-- A node whose slot alarms are on time. It has one only after it has taken a
frame over. -/
structure Timed (n : Node M) : Prop where
  inTime : n.InTime
  aimed : n.Aimed
  used : n.slotAlarm.isSome → n.journal.captured ≠ []

theorem Path.holdsSlot (path : Path kinds n m) (spends : .spendSlot ∉ kinds := by decide)
    (h : n.HoldsSlot) : m.HoldsSlot := by
  refine path.keeps (P := HoldsSlot) (fun mem step h => step.holdsSlot ?_ h) h
  rintro rfl
  exact spends mem

theorem Path.inTime (path : Path kinds n m) (spends : .spendSlot ∉ kinds := by decide)
    (sound : n.Sound) (h : n.InTime) : m.InTime := by
  have kept : m.Sound ∧ m.InTime := by
    refine path.keeps (P := fun k => k.Sound ∧ k.InTime) ?_ ⟨sound, h⟩
    rintro a b d mem step ⟨sound, inTime⟩
    refine ⟨sound.of_same step.same, step.inTime ?_ sound inTime⟩
    rintro rfl
    exact spends mem
  exact kept.2

theorem Path.aimed (path : Path kinds n m)
    (settled : ∀ d ∈ kinds, d ∉ Deed.unsettling := by decide) (sound : n.Sound) (inTime : n.InTime)
    (h : n.Aimed) : m.InTime ∧ m.Aimed := by
  have kept : m.Sound ∧ m.InTime ∧ m.Aimed := by
    refine path.keeps (P := fun k => k.Sound ∧ k.InTime ∧ k.Aimed) ?_ ⟨sound, inTime, h⟩
    rintro a b d mem step ⟨sound, inTime, aimed⟩
    have plain := settled d mem
    refine ⟨sound.of_same step.same, step.inTime ?_ sound inTime,
      step.aimed plain sound inTime.holds aimed⟩
    rintro rfl
    exact plain (by decide)
  exact kept.2

theorem Path.timed (path : Path kinds n m)
    (quiet : ∀ d ∈ kinds, d ∉ .armSlot :: Deed.unsettling := by decide) (sound : n.Sound)
    (h : n.Timed) : m.Timed := by
  have settled : ∀ d ∈ kinds, d ∉ Deed.unsettling := fun d mem unsettles =>
    quiet d mem (List.mem_cons_of_mem _ unsettles)
  obtain ⟨inTime, aimed⟩ := path.aimed settled sound h.inTime h.aimed
  have held : m.slotAlarm = n.slotAlarm := by
    refine path.keeps (P := fun k => k.slotAlarm = n.slotAlarm) ?_ rfl
    intro a b d mem step so_far
    have plain := quiet d mem
    exact (step.kept.slotAlarm (by grind [Deed.unsettling])).trans so_far
  exact ⟨inTime, aimed, fun holds => path.captured_ne (h.used (held ▸ holds))⟩

/-- A look at the slot, wherever the grid is, ends with an alarm that is on time. -/
theorem Looks.timed {out : Reply ε × Node M} (h : Looks kinds n out)
    (spends : .spendSlot ∉ kinds := by decide) (sound : n.Sound) (inTime : n.InTime)
    (used : n.journal.captured ≠ []) : out.2.Timed := by
  obtain ⟨m, path, current, same⟩ := h
  have inOrder := path.sound sound
  have before := path.inTime spends sound inTime
  have aims : m.Aims m.toSlot .awaitingSlot := .inr ⟨current, rfl⟩
  have step : Step .armSlot m out.2 := same ▸ .armSlot _ _ nofun aims
  have asked : Path [.armSlot] m out.2 := step.path
  refine ⟨step.inTime (by decide) inOrder before, ?_, fun _ => ?_⟩
  · rw [same]
    exact armSlotAlarm_aimed inOrder before.holds aims
  · exact asked.captured_ne (path.captured_ne used)

/-! ## Beacons -/

/-- A grid that starts anew takes the slot alarm along. -/
theorem Restarts.timed {out : Reply ε × Node M} (h : Restarts n out) (sound : n.anchored.Sound)
    (inTime : n.anchored.InTime) (used : n.slotAlarm.isSome → n.anchored.journal.captured ≠ []) :
    out.2.Timed := by
  rcases h with ⟨⟨held, -⟩, looks⟩ | ⟨unused, rfl⟩
  · exact looks.timed (by decide) sound inTime (used held)
  · refine ⟨inTime, ?_, used⟩
    rcases unused with unheld | backs
    · exact Aimed.of_unheld inTime.holds unheld
    · exact fun slot => absurd backs slot

theorem Broadcasts.timed {out : Reply ε × Node M} (h : Broadcasts n out) (sound : n.Sound)
    (timed : n.Timed) : out.2.Timed := by
  cases h with
  | refused role declined =>
    have step : Step .emit n (n.submitted .beacon n.reference none) := .emitRefused role declined
    have path : Path [.emit] n _ := step.path
    exact ⟨step.inTime (by decide) sound timed.inTime, timed.aimed.congr step.same rfl rfl rfl,
      fun held => path.captured_ne (timed.used held)⟩
  | sent role accepted rest =>
    have step : Step .emit n n.emitted := .emit role accepted
    have path : Path [.emit] n n.emitted := step.path
    exact rest.timed (path.sound sound) (step.inTime (by decide) sound timed.inTime)
      fun held => path.captured_ne (timed.used held)

theorem Heeds.timed {out : Reply ε × Node M} (h : Heeds n out) (sound : n.Sound)
    (timed : n.Timed) : out.2.Timed := by
  cases h with
  | arranges path => exact path.timed (by decide) sound timed
  | follows path role rest =>
    have inOrder := path.sound sound
    have armed := path.timed (by decide) sound timed
    have step : Step .anchor _ _ := .anchor role
    have again : Path [.anchor] _ _ := step.path
    exact rest.timed (again.sound inOrder) (step.inTime (by decide) inOrder armed.inTime)
      fun held => again.captured_ne (armed.used held)
  | broadcasts path rest =>
    exact rest.timed (path.sound sound) (path.timed (by decide) sound timed)

/-! ## The slot alarm comes -/

/-- An alarm that comes when it is expected is not late. -/
theorem noteLateness_of_expected (expected : n.slotDeadline = n.fineNow) : n.noteLateness = n := by
  rw [noteLateness, expected, Ticks.since_self, if_neg]
  simp

omit [Medium M ε] in
theorem atSlot_eq (expected : n.slotDeadline = n.fineNow) :
    n.atSlot = { (n.consumed .slot).expireSync with slotAlarm := none } := by
  apply noteLateness_of_expected
  obtain ⟨_, _, same⟩ := (n.consumed .slot).expireSync_eq
  rw [same]
  exact expected

omit [Medium M ε] in
/-- Up to then nothing changed but the alarm, and the sync, which may be over. -/
theorem atSlot_spec (expected : n.slotDeadline = n.fineNow) :
    Same n n.atSlot ∧ n.atSlot.time.origin = n.time.origin ∧
      n.atSlot.arbitration = n.arbitration ∧ n.atSlot.outbox = n.outbox ∧
        n.atSlot.stats.deadlineMisses = n.stats.deadlineMisses ∧ n.atSlot.journal = n.journal ∧
          n.atSlot.slotAlarm = none ∧ n.atSlot.alarms = n.alarms.consume .slot := by
  obtain ⟨_, _, same⟩ := (n.consumed .slot).expireSync_eq
  rw [atSlot_eq expected, same]
  exact ⟨⟨rfl, rfl, rfl, rfl, rfl, id⟩, rfl, rfl, rfl, rfl, rfl, rfl, rfl⟩

/-- The time at which a slot alarm comes is the one at which it was expected. -/
theorem expected_of_due (inTime : n.InTime) {k : Callback}
    (first : n.alarms.first? .slot = some k) (due : k.due = n.alarms.now) :
    n.slotDeadline = n.fineNow := by
  rw [inTime.expected k (mem_pending_of_first? first), due]
  rfl

theorem atSlot_inTime (inTime : n.InTime) (expected : n.slotDeadline = n.fineNow) :
    n.atSlot.InTime := by
  obtain ⟨same, -, -, -, misses, journal, unheld, -⟩ := n.atSlot_spec expected
  have holds : n.atSlot.HoldsSlot := holdsSlot_iff.mpr ((holdsSlot_iff.mp inTime.holds).fired .slot)
  refine ⟨holds, ?_, misses.trans inTime.misses, ?_⟩
  · intro k mem
    rw [holds.pending_eq_nil unheld] at mem
    cases mem
  · rw [journal, same.config]
    exact inTime.measured

theorem slotFired_timed (sound : n.Sound) (timed : n.Timed) {k : Callback}
    (first : n.alarms.first? .slot = some k) (due : k.due = n.alarms.now) :
    Yields ((n.consumed .slot).alarmFired .slot : Except Fault (Reply ε × Node M)) fun out =>
      out.2.Timed := by
  have expected := expected_of_due timed.inTime first due
  obtain ⟨same, -, -, -, -, journal, unheld, -⟩ := n.atSlot_spec expected
  have inTime := atSlot_inTime timed.inTime expected
  have held : n.slotAlarm.isSome := by
    rw [timed.inTime.holds.slotAlarm_of_mem (mem_pending_of_first? first)]
    rfl
  have used : n.atSlot.journal.captured ≠ [] := journal ▸ timed.used held
  refine (alarmFired_spent (sound.amid _ _) .slot).mono ?_
  rintro out ⟨path, -⟩
  have settled : ∀ d ∈ (n.consumed .slot).firing .slot, d ∉ Deed.unsettling := by
    rw [firing]
    split <;> decide
  obtain ⟨after, aimed⟩ := path.aimed settled (sound.of_same same) inTime
    (Aimed.of_unheld inTime.holds unheld)
  exact ⟨after, aimed, fun _ => path.captured_ne used⟩

/-- A slot alarm that comes when it is due, and is not for a backoff, comes at
the start of the owned slot. -/
theorem atSlot_inside (sound : n.Sound) (timed : n.Timed) {k : Callback}
    (first : n.alarms.first? .slot = some k) (due : k.due = n.alarms.now)
    (slot : n.arbitration ≠ .backingOff) :
    n.atSlot.aligned.view.phase = .inside ∧ n.atSlot.aligned.view.slotStart = n.fineNow := by
  obtain ⟨same, grid, -⟩ := n.atSlot_spec (expected_of_due timed.inTime first due)
  obtain ⟨wait, later, -, -, starts⟩ := timed.aimed slot k (mem_pending_of_first? first)
  have now : wait = 0 := by omega
  have kept : Same n n.atSlot.aligned := same.trans ⟨rfl, rfl, rfl, rfl, rfl, id⟩
  have phase : n.atSlot.aligned.offset % n.config.layout.period.toNat =
      n.config.layout.opening n.slot := by
    rw [← starts, now, ← same.config, aligned_phase, same.config, same.offset grid]
    rfl
  have owned : n.config.layout.Owns n.slot n.atSlot.aligned.offset :=
    ⟨Nat.le_of_eq phase.symm, phase ▸ sound.valid.layout.opening_lt_closing⟩
  have passed := Nat.mod_le n.atSlot.aligned.offset n.config.layout.period.toNat
  rw [view, kept.config, kept.slot, Layout.windowAt_of_inside owned, phase,
    Nat.sub_add_cancel (phase ▸ passed)]
  refine ⟨rfl, ?_⟩
  show n.atSlot.aligned.time.origin + UInt32.ofNat n.atSlot.aligned.offset = n.fineNow
  rw [offset, UInt32.ofNat_toNat, Ticks.add_since, fineNow, kept.now]
  rfl

/-- What becomes of a slot alarm that comes. -/
theorem alarmFired_atSlot (expected : n.slotDeadline = n.fineNow)
    (slot : n.arbitration ≠ .backingOff) :
    ((n.consumed .slot).alarmFired .slot : Except Fault (Reply ε × Node M)) =
      n.atSlot.attendSlot true := by
  obtain ⟨-, -, arbitration, -⟩ := n.atSlot_spec expected
  show (if n.atSlot.arbitration = .backingOff then n.atSlot.endBackoff
    else n.atSlot.attendSlot true) = _
  rw [arbitration, if_neg slot]

/-! ## Operations and stimuli -/

theorem Sends.timed {token : Token} {destination : Address} {bytes : List UInt8}
    {out : Reply ε × Node M} (h : Sends n token destination bytes out) (sound : n.Sound)
    (timed : n.Timed) : out.2.Timed := by
  cases h with
  | long => exact timed
  | captured payload same path =>
    have captured := n.capture_path { token, destination, payload, queuedAt := n.fineNow }
    have before := captured.timed (by decide) sound timed
    obtain ⟨inTime, aimed⟩ :=
      path.aimed (by decide) (captured.sound sound) before.inTime before.aimed
    exact ⟨inTime, aimed, fun _ => path.captured_ne (by simp [capture_captured])⟩

/-- A start before the first frame finds no slot alarm that could lose its aim. -/
theorem start_unheld (timed : n.Timed) (first : n.journal.captured = []) :
    (n.start : Reply ε × Node M).2.slotAlarm = none := by
  have before : n.slotAlarm = none := by
    rw [← Option.not_isSome_iff_eq_none]
    exact fun held => timed.used held first
  refine (n.start_path (ε := ε)).keeps (P := fun k => k.slotAlarm = none) ?_ before
  intro a b d mem step none
  exact (step.kept.slotAlarm (by grind)).trans none

theorem start_timed (sound : n.Sound) (timed : n.Timed) (first : n.journal.captured = []) :
    (n.start : Reply ε × Node M).2.Timed := by
  have inTime := (n.start_path (ε := ε)).inTime (by decide) sound timed.inTime
  have unheld := start_unheld (ε := ε) timed first
  refine ⟨inTime, Aimed.of_unheld inTime.holds unheld, ?_⟩
  rw [unheld]
  exact nofun

theorem perform_timed (sound : n.Sound) (timed : n.Timed) {operation : Operation}
    (timely : n.Timely (.operate operation)) :
    Yields (n.perform operation) fun out => out.2.Timed := by
  have alone {m : Node M} {d : Deed} (step : Step d n m)
      (quiet : d ∉ .armSlot :: Deed.unsettling := by decide) : m.Timed :=
    Path.timed (step.path (by simp)) (fun _ mem => List.mem_singleton.mp mem ▸ quiet) sound timed
  cases operation with
  | start => exact Yields.ok_iff.mpr (start_timed sound timed timely)
  | send token destination bytes =>
    exact (send_sends sound token destination bytes).bind fun _ sent =>
      Yields.pure_iff.mpr (sent.timed sound timed)
  | alarmFired kind =>
    cases kind with
    | slot => exact timely.elim
    | beacon =>
      exact (beaconFired_heeds sound).bind fun _ heeds =>
        Yields.pure_iff.mpr (heeds.timed sound timed)
  | receive bytes =>
    rcases receive_cases (ε := ε) n bytes with ⟨header, heard, same⟩ | ⟨-, path⟩
    · rw [perform, same]
      exact (followBeacon_heeds sound header (role_of_heard heard)).bind fun _ heeds =>
        Yields.pure_iff.mpr (heeds.timed sound timed)
    · exact path.bind fun _ path => Yields.pure_iff.mpr (path.timed (by decide) sound timed)
  | complete channel completion transmissions => exact Yields.ok_iff.mpr (alone (.complete ..))
  | poll => exact Yields.ok_iff.mpr (alone .fetch)
  | powerOn => exact Yields.ok_iff.mpr (alone (.power Medium.powerOn))
  | powerOff keepOn => exact Yields.ok_iff.mpr (alone (.power (Medium.powerOff · keepOn)))

/-- Changes of the host that leave the clock and the slot alarm alone. -/
theorem Timed.amid (timed : n.Timed) {alarms : AlarmClock} (medium : M)
    (now : alarms.now = n.alarms.now) (distinct : alarms.Distinct)
    (pending : alarms.pending .slot = n.alarms.pending .slot)
    (next : alarms.nextHandle = n.alarms.nextHandle) : (n.amid alarms medium).Timed := by
  have same : Same n (n.amid alarms medium) := ⟨rfl, rfl, rfl, now, rfl, id⟩
  have expected : ∀ k ∈ alarms.pending .slot, n.slotDeadline = fine k.due :=
    pending ▸ timed.inTime.expected
  exact ⟨⟨timed.inTime.holds.congr distinct pending next rfl rfl, expected, timed.inTime.misses,
    timed.inTime.measured⟩, timed.aimed.congr same rfl rfl pending, timed.used⟩

theorem Timed.consumed (timed : n.Timed) : (n.consumed .beacon).Timed :=
  timed.amid n.medium rfl (timed.inTime.holds.distinct.consume .beacon)
    (pending_consume_other _ (by decide)) rfl

theorem undergo_timed (sound : n.Sound) (timed : n.Timed) (timely : n.Timely stimulus) :
    Yields (n.undergo stimulus) fun out => out.2.Timed := by
  have distinct := timed.inTime.holds.distinct
  cases stimulus with
  | operate operation =>
    exact (perform_timed sound timed timely).bind fun _ done => Yields.pure_iff.mpr done
  | fire kind =>
    refine undergo_fire (Q := Timed) (fun _ => timed) fun k first => ?_
    cases kind with
    | slot => exact slotFired_timed sound timed first (timely k first)
    | beacon =>
      have inOrder := sound.amid (n.alarms.consume .beacon) n.medium
      exact (beaconFired_heeds inOrder).mono fun _ heeds => heeds.timed inOrder timed.consumed
  | lose kind =>
    cases kind with
    | slot => exact timely.elim
    | beacon => exact Yields.ok_iff.mpr timed.consumed
  | clock time =>
    obtain ⟨order, ahead⟩ := timely.clock
    exact Yields.ok_iff.mpr ⟨⟨timed.inTime.holds.setClock time, timed.inTime.expected,
      timed.inTime.misses, timed.inTime.measured⟩, timed.aimed.elapse order ahead, timed.used⟩
  | refuse kind error =>
    refine Yields.ok_iff.mpr (timed.amid n.medium (refuse_now ..) ?_ (pending_refuse ..)
      (refuse_nextHandle ..))
    constructor
    · rw [refuse_live]
      exact distinct.nodup
    · rw [refuse_live, refuse_nextHandle]
      exact distinct.fresh
  | medium medium => exact Yields.ok_iff.mpr (timed.amid medium rfl distinct rfl rfl)

/-! ## Deferrals -/

theorem mem_deeds_defer {operation : Operation} (defers : .defer ∈ n.deeds operation) :
    operation = .alarmFired .slot ∧ n.arbitration ≠ .backingOff := by
  cases operation with
  | alarmFired kind =>
    cases kind with
    | slot =>
      refine ⟨rfl, fun backs => ?_⟩
      simp [deeds, firing, backs, Deed.stealing] at defers
    | beacon => simp [deeds, firing, Deed.beaconing] at defers
  | _ => simp [deeds, Deed.following] at defers

theorem Path.deferrals_eq (path : Path kinds n m) (none : .defer ∉ kinds) :
    m.stats.deferrals = n.stats.deferrals := by
  refine path.keeps (P := fun k => k.stats.deferrals = n.stats.deferrals) ?_ rfl
  intro a b d mem step so_far
  refine (step.kept.deferrals ?_).trans so_far
  rintro rfl
  exact none mem

/-- Nothing but a slot alarm that is not for a backoff counts a deferral. -/
theorem undergo_deferrals (sound : n.Sound) (stimulus : Stimulus M) :
    Yields (n.undergo stimulus) fun out => out.2.stats.deferrals ≠ n.stats.deferrals →
      stimulus.operation? = some (.alarmFired .slot) ∧ n.arbitration ≠ .backingOff := by
  refine undergo_yields (Q := fun _ m => m.stats.deferrals ≠ n.stats.deferrals →
    stimulus.operation? = some (.alarmFired .slot) ∧ n.arbitration ≠ .backingOff) ?_ ?_
  · intro _ _ _ counted
    exact absurd rfl counted
  · intro alarms medium operation leads
    refine (perform_yields (sound.amid alarms medium) operation).mono ?_
    rintro out ⟨path, -⟩ counted
    by_cases defers : .defer ∈ (n.amid alarms medium).deeds operation
    · obtain ⟨rfl, slot⟩ := mem_deeds_defer defers
      exact ⟨leads, slot⟩
    · exact absurd (path.deferrals_eq defers) counted

theorem fresh_timed (address : Address) (config : Config) (medium : M) {alarms : AlarmClock}
    (unused : alarms.live = []) (words : WordSource) :
    (fresh address config medium alarms words).Timed := by
  have holds : (fresh address config medium alarms words).HoldsSlot :=
    holdsSlot_iff.mpr (holds_iff.mp (fresh_holds address config medium unused words) .slot)
  refine ⟨⟨holds, ?_, rfl, ?_⟩, Aimed.of_unheld holds rfl, ?_⟩
  · intro k mem
    rw [holds.pending_eq_nil rfl] at mem
    cases mem
  · simp [fresh]
  · simp [fresh]

end Medium

end Node

open Node

/-- As long as the host lets slot alarms come exactly when they are due and starts
the node only before the first frame, every slot alarm that is not for a backoff
finds the node inside its slot, at its very start: whatever beacons, frames,
steals and refusals came since the alarm was armed, and wherever the counter
wrapped. Deferrals are counted at such looks only, so none of them is for a
window that was missed, and no deadline is missed. The delay that such an alarm
is asked for is at least one tick and at most a period. -/
theorem slot_alarm_on_time {M ε : Type} [Medium M ε] {config : Config} (valid : config.Valid)
    (address : Address) (medium : M) {alarms : AlarmClock} (unused : alarms.live = [])
    (words : WordSource) (stimuli : List (Stimulus M)) (stimulus : Stimulus M)
    (timely : (fresh address config medium alarms words).Obeys Timely (stimuli ++ [stimulus])) :
    ∃ answers n answer m,
      lifetime address config medium alarms words stimuli = .ok (.ok (answers, n)) ∧
      n.undergo stimulus = .ok (answer, m) ∧
      (∀ k, stimulus = .fire .slot → n.alarms.first? .slot = some k →
        n.arbitration ≠ .backingOff →
          (n.consumed .slot).alarmFired .slot = n.atSlot.attendSlot true ∧
            ∃ placement aligned, n.atSlot.placement = .ok (placement, aligned) ∧
              placement.phase = .inside ∧ placement.slotStart = n.fineNow) ∧
      (m.stats.deferrals ≠ n.stats.deferrals →
        stimulus = .fire .slot ∧ n.arbitration ≠ .backingOff) ∧
      m.stats.deadlineMisses = 0 ∧
      ∀ delay purpose granted, .slotAlarm delay purpose granted ∈ m.journal →
        purpose ≠ .backingOff → 1 ≤ delay.toNat ∧ delay.toNat ≤ config.layout.period.toNat := by
  have step (m : Node M) (stimulus : Stimulus M) (sound : m.Sound)
      (kept : m.Timed ∧ m.config = config) (timely : m.Timely stimulus) :
      Yields (m.undergo stimulus) fun out => out.2.Timed ∧ out.2.config = config :=
    ((undergo_timed sound kept.1 timely).and (undergo_config sound stimulus)).mono
      fun _ done => ⟨done.1, done.2.trans kept.2⟩
  obtain ⟨answers, n, done, before, sound, ruled, -⟩ :=
    lifetime_obeys (P := fun m => m.Timed ∧ m.config = config) step valid
      ⟨fresh_timed address config medium unused words, rfl⟩ timely
  obtain ⟨⟨answer, m⟩, last, after, deferrals⟩ :=
    (step n stimulus sound before ruled).and (undergo_deferrals sound stimulus)
  refine ⟨answers, n, answer, m, done, last, ?_, ?_, after.1.inTime.misses, ?_⟩
  · rintro k rfl first slot
    have due := ruled k first
    have expected := expected_of_due before.1.inTime first due
    have inOrder := sound.of_same (n.atSlot_spec expected).1
    exact ⟨alarmFired_atSlot expected slot, _, _, placement_eq inOrder,
      atSlot_inside sound before.1 first due slot⟩
  · intro counted
    obtain ⟨leads, slot⟩ := deferrals counted
    refine ⟨?_, slot⟩
    -- the rule leaves the host as the only one to let a slot alarm come
    cases stimulus with
    | operate operation =>
      cases leads
      exact ruled.elim
    | fire kind =>
      cases leads
      rfl
    | _ => cases leads
  · intro delay purpose granted asked slot
    rw [← after.2]
    exact after.1.inTime.measured _ asked slot

/-- A frame is captured, a beacon moves the grid on, and the slot alarm, moved
along, comes at the start of the slot. -/
theorem slot_alarm_on_time_anchored :
    ∃ answers n answer m,
      lifetime 3 {} ({} : RecordingMedium) {} (.cycle [])
          [.operate (.send 7 0 [1]), .clock 300000,
            .operate (.receive (Frame.timeReference 1 0).bytes), .clock 799998] =
        .ok (.ok (answers, n)) ∧
      n.undergo (.fire .slot) = .ok (answer, m) ∧
      (∀ k, Stimulus.fire (M := RecordingMedium) .slot = .fire .slot →
        n.alarms.first? .slot = some k → n.arbitration ≠ .backingOff →
          (n.consumed .slot).alarmFired .slot = n.atSlot.attendSlot true ∧
            ∃ placement aligned, n.atSlot.placement = .ok (placement, aligned) ∧
              placement.phase = .inside ∧ placement.slotStart = n.fineNow) ∧
      (m.stats.deferrals ≠ n.stats.deferrals →
        Stimulus.fire (M := RecordingMedium) .slot = .fire .slot ∧ n.arbitration ≠ .backingOff) ∧
      m.stats.deadlineMisses = 0 ∧
      ∀ delay purpose granted, .slotAlarm delay purpose granted ∈ m.journal →
        purpose ≠ .backingOff →
          1 ≤ delay.toNat ∧ delay.toNat ≤ Layout.standard.period.toNat :=
  slot_alarm_on_time Config.valid_default 3 ({} : RecordingMedium) rfl (.cycle [])
    [.operate (.send 7 0 [1]), .clock 300000,
      .operate (.receive (Frame.timeReference 1 0).bytes), .clock 799998]
    (.fire .slot) (by decide +kernel)

end SlottedMac
