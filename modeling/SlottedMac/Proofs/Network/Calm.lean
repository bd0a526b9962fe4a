import SlottedMac.Proofs.Grid
import SlottedMac.Proofs.Network.Reachable
import SlottedMac.Proofs.Node.Journal

/-!
# Operations that leave timekeeping alone

Most of what a node does has nothing to do with beacons. Such deeds keep the
grid of the node as far as its phase goes, and with it the alarm for the next
beacon and the beacons sent so far; they may end a sync, but never begin one.
-/

namespace SlottedMac

namespace Node

open AlarmClock

variable {M ε : Type} {n m k : Node M} {e : Nat}

/-- Periods of the node start a whole number of periods after the true time `e`,
as far as the counter can tell. -/
def OnGrid (e : Nat) (n : Node M) : Prop :=
  n.alarms.now < e + 2 ^ 32 →
    ∃ k, n.time.origin = fine (e + k * n.config.layout.period.toNat) ∧
      e + k * n.config.layout.period.toNat ≤ n.alarms.now

/-- What is kept where beacons are not concerned. -/
structure Calm (n m : Node M) : Prop where
  same : Same n m
  grid : ∀ e, n.OnGrid e → m.OnGrid e
  synchronized : m.time.synchronized = true → n.time.synchronized = true
  lasting : n.config.role = .coordinator → m.time.synchronized = n.time.synchronized
  lastSync : m.time.lastSync = n.time.lastSync
  cadence : m.cadence = n.cadence
  beacon : m.alarms.pending .beacon = n.alarms.pending .beacon
  beacons : m.beacons = n.beacons

namespace Calm

theorem refl (n : Node M) : Calm n n :=
  ⟨.refl n, fun _ => id, id, fun _ => rfl, rfl, rfl, rfl, rfl⟩

theorem trans (h : Calm n m) (h' : Calm m k) : Calm n k where
  same := h.same.trans h'.same
  grid e on := h'.grid e (h.grid e on)
  synchronized now := h.synchronized (h'.synchronized now)
  lasting role := (h'.lasting (h.same.config ▸ role)).trans (h.lasting role)
  lastSync := h'.lastSync.trans h.lastSync
  cadence := h'.cadence.trans h.cadence
  beacon := h'.beacon.trans h.beacon
  beacons := h'.beacons.trans h.beacons

end Calm

theorem OnGrid.congr (h : n.OnGrid e) (same : Same n m) (origin : m.time.origin = n.time.origin) :
    m.OnGrid e := by
  rw [OnGrid, same.now, same.config, origin]
  exact h

theorem aligned_onGrid (h : n.OnGrid e) : n.aligned.OnGrid e := by
  intro near
  obtain ⟨periods, origin, order⟩ := h near
  obtain ⟨more, moved, order⟩ := TimeBase.caughtUp_origin n.config.layout.period
    origin order (Nat.lt_of_lt_of_le near (by omega))
  refine ⟨periods + more, moved.trans ?_, ?_⟩
  · rw [Nat.add_mul, ← Nat.add_assoc]
    rfl
  · rw [Nat.add_mul, ← Nat.add_assoc]
    exact order

section Medium

variable [Medium M ε] {kinds : List Deed} {d : Deed}

theorem Step.time_calm (step : Step d n m)
    (other : d ∉ [.start, .plan, .armBeacon, .emit, .anchor]) :
    (∀ e, n.OnGrid e → m.OnGrid e) ∧ (m.time.synchronized = true → n.time.synchronized = true) ∧
      (n.config.role = .coordinator → m.time.synchronized = n.time.synchronized) ∧
      m.time.lastSync = n.time.lastSync := by
  have kept := step.kept
  have same := step.same
  cases step with
  | start | begin | plan | armBeacon | emitRefused | emit | anchor => simp at other
  | expire =>
    rcases n.expireSync_time with time | ⟨⟨coordinator, role⟩, time⟩
    · rw [time]
      exact ⟨fun _ on => on.congr same (by rw [time]), id, fun _ => rfl, rfl⟩
    · rw [time]
      refine ⟨fun _ on => on.congr same (by rw [time]), nofun, fun lasts => ?_, rfl⟩
      rw [role] at lasts
      cases lasts
  | align =>
    refine ⟨fun _ => aligned_onGrid, ?_⟩
    rw [aligned, TimeBase.caughtUp]
    split
    · exact ⟨id, fun _ => rfl, rfl⟩
    · exact ⟨id, fun _ => rfl, rfl⟩
  | _ =>
    have time := kept.time (by decide)
    rw [time]
    exact ⟨fun _ on => on.congr same (by rw [time]), id, fun _ => rfl, rfl⟩

theorem Step.pending_calm (step : Step d n m) (other : d ≠ .armBeacon)
    (holds : d = .armSlot → n.Holds) :
    m.alarms.pending .beacon = n.alarms.pending .beacon := by
  have kept := step.kept
  cases step with
  | armBeacon => exact absurd rfl other
  | armSlot delay purpose =>
    have holds := holds rfl
    obtain ⟨_, _, _, _, _, _, same⟩ := n.armSlotAlarm_eq (ε := ε) delay purpose
    rw [same]
    exact (pending_arm_other delay (by decide)).trans
      (pending_release_other holds.distinct (holds.live .slot) (by decide))
  | _ => rw [kept.alarms (by decide)]

theorem Step.beacons_calm (step : Step d n m) (other : d ≠ .emit) : m.beacons = n.beacons := by
  obtain ⟨added, grown, own⟩ := step.adds
  have none : added.submissions.filter (fun s => s.channel = .beacon ∧ s.accepted = true) = [] := by
    rw [List.filter_eq_nil_iff]
    intro s mem beacon
    simp only [Bool.decide_and, Bool.and_eq_true, decide_eq_true_eq] at beacon
    obtain ⟨entry, listed, about⟩ := List.mem_filterMap.mp mem
    have writes := own entry (List.mem_reverse.mp listed)
    cases entry with
    | submitted s' =>
      cases about
      simp only [JournalEntry.writers, beacon.1, List.mem_singleton] at writes
      exact other writes
    | _ => cases about
  rw [beacons, grown, Journal.submissions, Journal.collect_append, List.filter_append]
  exact (congrArg (_ ++ ·) none).trans (List.append_nil _)

theorem Step.calm (step : Step d n m) (other : d ∉ [.start, .plan, .armBeacon, .emit, .anchor])
    (holds : d = .armSlot → n.Holds) : Calm n m := by
  obtain ⟨grid, synchronized, lasting, lastSync⟩ := step.time_calm other
  exact ⟨step.same, grid, synchronized, lasting, lastSync, step.kept.cadence (by grind),
    step.pending_calm (by grind) holds, step.beacons_calm (by grind)⟩

/-- The deeds that have to do with beacons or with letting an alarm go. -/
def Deed.notable : List Deed :=
  [.start, .plan, .armBeacon, .emit, .anchor, .spendSlot, .spendBeacon]

theorem Path.calm (path : Path kinds n m) (holds : n.Holds)
    (other : ∀ d ∈ kinds, d ∉ Deed.notable := by decide) : Calm n m := by
  have kept : m.Holds ∧ Calm n m := by
    refine path.keeps (P := fun k => k.Holds ∧ Calm n k) ?_ ⟨holds, .refl n⟩
    rintro a b d mem step ⟨holds, calm⟩
    have plain := other d mem
    exact ⟨step.holds (by grind [Deed.notable]) holds,
      calm.trans (step.calm (by grind [Deed.notable]) fun _ => holds)⟩
  exact kept.2

/-- Changes of the host that leave the alarm for the next beacon alone. -/
theorem calm_amid {alarms : AlarmClock} (medium : M) (now : alarms.now = n.alarms.now)
    (beacon : alarms.pending .beacon = n.alarms.pending .beacon) :
    Calm n (n.amid alarms medium) := by
  have same : Same n (n.amid alarms medium) := ⟨rfl, rfl, rfl, now, rfl, id⟩
  exact ⟨same, fun _ on => on.congr same rfl, id, fun _ => rfl, rfl, rfl, beacon, rfl⟩

/-- A slot alarm that comes is no matter of beacons. -/
theorem slotFired_calm (sound : n.Sound) (holds : n.Holds) :
    Yields ((n.consumed .slot).alarmFired .slot : Except Fault (Reply ε × Node M)) fun out =>
      Calm n out.2 := by
  have consumed : Calm n (n.consumed .slot) :=
    calm_amid n.medium rfl (pending_consume_other _ (by decide))
  have expired := (Step.expire (n := n.consumed .slot)).calm (by decide) nofun
  have spent : Calm _ ((n.consumed .slot).expireSync.spent .slot) :=
    Step.spendSlot.calm (by decide) nofun
  refine (alarmFired_spent (sound.amid _ _) .slot).mono ?_
  rintro out ⟨path, -⟩
  refine consumed.trans (expired.trans (spent.trans (path.calm (holds.fired .slot) ?_)))
  rw [firing]
  split <;> decide

/-- Nothing but a start and a beacon alarm of a prompt host is of any concern to
timekeeping. -/
theorem undergo_calm (sound : n.Sound) (holds : n.Holds) {stimulus : Stimulus M}
    (prompt : n.Prompt stimulus) (start : stimulus ≠ .operate .start)
    (beacon : stimulus ≠ .fire .beacon) :
    Yields (n.undergo stimulus) fun out => Calm n out.2 := by
  have plain {kinds : List Deed} {operation : Operation}
      (path : Yields (n.perform operation) fun out => Path kinds n out.2)
      (other : ∀ d ∈ kinds, d ∉ Deed.notable := by simp only [deeds]; decide) :
      Yields (n.undergo (.operate operation)) fun out => Calm n out.2 :=
    path.bind fun _ path => Yields.pure_iff.mpr (path.calm holds other)
  have performed (operation : Operation) := (perform_yields sound operation).mono
    fun _ done => done.1
  cases stimulus with
  | operate operation =>
    cases operation with
    | start => exact absurd rfl start
    | send token destination bytes => exact plain (performed _)
    | alarmFired kind => exact prompt.elim
    | receive bytes =>
      rcases receive_cases (ε := ε) n bytes with ⟨_, heard, _⟩ | ⟨-, path⟩
      · cases heard.symm.trans prompt
      · exact plain (path.bind fun _ path => Yields.pure_iff.mpr path) (by decide)
    | complete channel completion transmissions => exact plain (performed _)
    | poll => exact plain (performed _)
    | powerOn => exact plain (performed _)
    | powerOff keepOn => exact plain (performed _)
  | fire kind =>
    cases kind with
    | slot =>
      exact undergo_fire (Q := Calm n) (fun _ => .refl n) fun _ _ => slotFired_calm sound holds
    | beacon => exact absurd rfl beacon
  | lose kind => exact prompt.elim
  | clock time => exact prompt.elim
  | refuse kind error =>
    exact Yields.ok_iff.mpr (calm_amid n.medium (refuse_now ..) (pending_refuse ..))
  | medium medium => exact Yields.ok_iff.mpr (calm_amid medium rfl rfl)

end Medium

end Node

end SlottedMac
