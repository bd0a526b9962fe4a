import SlottedMac.Proofs.Network.Beacons

/-!
# A member that follows

A member relies on the last beacon that it heard. Its watchdog is due exactly
when the sync by that beacon is stale, so a prompt host never leaves it in sync
for longer than its settings say.
-/

namespace SlottedMac.Node

open AlarmClock

variable {M ε : Type} {n m : Node M} {e : Nat}

/-- A member that holds sync by a beacon of some time `d`, while the last beacon
was sent at `e`: its grid starts at `d`, and its watchdog ends the sync. -/
def Trails (e : Nat) (n : Node M) : Prop :=
  n.time.synchronized = true →
    ∃ d, d ≤ e ∧ d ≡ e [MOD 1000 * n.config.beaconInterval.toNat] ∧ n.OnGrid d ∧
      n.time.lastSync = coarse d ∧
      (n.alarms.pending .beacon).map (·.due) = [d + 1000 * n.config.syncTimeout.toNat]

theorem Trails.calm (h : n.Trails e) (calm : Calm n m) : m.Trails e := by
  intro now
  obtain ⟨d, order, phase, grid, lastSync, watchdog⟩ := h (calm.synchronized now)
  rw [calm.same.config, calm.beacon, calm.lastSync]
  exact ⟨d, order, phase, calm.grid d grid, lastSync, watchdog⟩

/-- A later beacon at the same phase is as good. -/
theorem Trails.later {e' : Nat} (h : n.Trails e) (order : e ≤ e')
    (phase : e ≡ e' [MOD 1000 * n.config.beaconInterval.toNat]) : n.Trails e' := by
  intro now
  obtain ⟨d, before, same, rest⟩ := h now
  exact ⟨d, before.trans order, same.trans phase, rest⟩

theorem Trails.elapse (h : n.Trails e) {time : Nat} (order : n.alarms.now ≤ time) :
    (n.setClock time).Trails e := by
  intro now
  obtain ⟨d, before, phase, grid, rest⟩ := h now
  exact ⟨d, before, phase, grid.elapse order, rest⟩

/-- A member that starts holds no sync. -/
theorem start_unsynchronized {coordinator : Address} (role : n.config.role = .member coordinator) :
    (n.start : Reply ε × Node M).2.time.synchronized = false := by
  rw [start, role]
  rfl

theorem Trails.of_unsynchronized (ended : n.time.synchronized = false) : n.Trails e :=
  fun now => absurd (ended.symm.trans now) nofun

section Medium

variable [Medium M ε] {k : Callback} {stimulus : Stimulus M}

omit [Medium M ε] in
/-- When the watchdog comes that was armed with a beacon, the sync by that beacon is
stale. -/
theorem stale_of_watchdog {d : Nat} (lastSync : n.time.lastSync = coarse d)
    (watchdog : (n.alarms.pending .beacon).map (·.due) =
      [d + 1000 * n.config.syncTimeout.toNat])
    (first : n.alarms.first? .beacon = some k) (due : k.due = n.alarms.now) :
    n.config.syncTimeout ≤ n.coarseNow.since n.time.lastSync := by
  have armed := List.mem_map_of_mem (f := Callback.due) (mem_pending_of_first? first)
  rw [watchdog, List.mem_singleton, due] at armed
  rw [coarseNow, lastSync, armed, coarse_add_delay, Ticks.since_add_self]
  exact UInt32.le_refl _

/-- The watchdog of a member comes at the very moment at which its sync is
stale, so nothing is left of it. -/
theorem watchdogFired_unsynchronized {coordinator : Address}
    (role : n.config.role = .member coordinator)
    (stale : n.time.synchronized = true →
      n.config.syncTimeout ≤ n.coarseNow.since n.time.lastSync) :
    Yields ((n.consumed .beacon).alarmFired .beacon : Except Fault (Reply ε × Node M)) fun out =>
      out.2.time.synchronized = false := by
  have ended := expireSync_ends (n := n.consumed .beacon) role stale
  have member : (n.consumed .beacon).expireSync.config.role = .member coordinator :=
    (congrArg Config.role (Step.expire (n := n.consumed .beacon)).same.config).trans role
  rw [alarmFired, beaconAlarmFired]
  dsimp only
  rw [member]
  dsimp only
  rw [ended]
  exact Yields.ok_iff.mpr ended

/-- Whatever a member undergoes without hearing a beacon, it does not come into
sync. -/
theorem undergo_trails (sound : n.Sound) (holds : n.Holds) (trails : n.Trails e)
    {coordinator : Address} (role : n.config.role = .member coordinator)
    (prompt : n.Prompt stimulus) :
    Yields (n.undergo stimulus) fun out =>
      out.2.Trails e ∧ (out.2.time.synchronized = true → n.time.synchronized = true) := by
  have unsynchronized {m : Node M} (ended : m.time.synchronized = false) :
      m.Trails e ∧ (m.time.synchronized = true → n.time.synchronized = true) :=
    ⟨.of_unsynchronized ended, fun now => absurd (ended.symm.trans now) nofun⟩
  by_cases start : stimulus = .operate .start
  · subst start
    have started : Yields (n.perform .start) fun out => out.2.time.synchronized = false :=
      Yields.ok_iff.mpr (start_unsynchronized role)
    exact started.bind fun _ ended => Yields.pure_iff.mpr (unsynchronized ended)
  by_cases beacon : stimulus = .fire .beacon
  · subst beacon
    obtain ⟨callback, first, due⟩ := Option.map_eq_some_iff.mp prompt
    refine undergo_fire (Q := fun m =>
      m.Trails e ∧ (m.time.synchronized = true → n.time.synchronized = true)) ?_ ?_
    · intro _
      exact ⟨trails, id⟩
    · intro _ _
      refine (watchdogFired_unsynchronized role fun now => ?_).mono fun _ => unsynchronized
      obtain ⟨d, -, -, -, lastSync, watchdog⟩ := trails now
      exact stale_of_watchdog lastSync watchdog first due
  · refine (undergo_calm sound holds prompt start beacon).mono ?_
    intro _ calm
    exact ⟨trails.calm calm, calm.synchronized⟩

/-- A beacon that a member follows is the one it relies on from now on, unless
there is no sync to rely on. -/
theorem followBeacon_trails (sound : n.Sound) (holds : n.Holds) (header : Header)
    {coordinator : Address} (role : n.config.role = .member coordinator)
    (watched : n.time.synchronized = true → n.alarms.beaconRefusal = none) :
    Yields (n.followBeacon header : Except Fault (Reply ε × Node M)) fun out =>
      out.2.Trails n.alarms.now := by
  have step : Step .armBeacon (n.informed header)
      ((n.informed header).armBeaconAlarm n.config.syncTimeout : Reply ε × Node M).2 :=
    .armBeacon _
  have inStep : (n.informed header).Holds := (Step.follow header).holds (by decide) holds
  obtain ⟨-, granted, watchdog⟩ := armBeaconAlarm_pending (ε := ε) inStep n.config.syncTimeout
  refine (followBeacon_yields sound header).mono ?_
  rintro out (⟨⟨error, refused⟩, rfl⟩ | ⟨armed, restarts⟩)
  · intro now
    rw [step.kept.time (by decide)] at now
    rw [granted (watched now)] at refused
    cases refused
  · have anchor : Step .anchor _ _ := .anchor (step.same.config ▸ role)
    have calm := restarts.path.calm (anchor.holds (by decide) (step.holds (by decide) inStep))
    refine Trails.calm (fun _ => ?_) calm
    refine ⟨n.alarms.now, Nat.le_refl _, rfl, ?_, ?_, ?_⟩
    · have anew := anchored_onGrid
        ((n.informed header).armBeaconAlarm n.config.syncTimeout : Reply ε × Node M).2
      rwa [step.same.now] at anew
    · exact congrArg coarse step.same.now
    · exact (watchdog armed).trans (by rw [anchored_same _ |>.config, step.same.config]; rfl)

/-- A member that hears a beacon of its coordinator goes by that beacon; anything
else that it receives is of no concern. -/
theorem undergo_hears (sound : n.Sound) (holds : n.Holds) (bytes : List UInt8)
    (watched : n.time.synchronized = true → n.alarms.beaconRefusal = none) :
    Yields (n.undergo (.operate (.receive bytes))) fun out =>
      Calm n out.2 ∨ out.2.Trails n.alarms.now := by
  have received : Yields (n.receive bytes : Except Fault (Reply ε × Node M)) fun out =>
      Calm n out.2 ∨ out.2.Trails n.alarms.now := by
    rcases receive_cases (ε := ε) n bytes with ⟨header, heard, same⟩ | ⟨-, path⟩
    · rw [same]
      exact (followBeacon_trails sound holds header (role_of_heard heard) watched).mono
        fun _ => .inr
    · exact path.mono fun _ path => .inl (path.calm holds)
  have performed : Yields (n.perform (.receive bytes)) fun out =>
      Calm n out.2 ∨ out.2.Trails n.alarms.now :=
    received.bind fun _ done => Yields.pure_iff.mpr done
  exact performed.bind fun _ done => Yields.pure_iff.mpr done

end Medium

end SlottedMac.Node
