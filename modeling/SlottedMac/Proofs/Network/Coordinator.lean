import SlottedMac.Proofs.Network.Beacons

/-!
# A coordinator that leads

The beacons of a coordinator with a prompt host are whole intervals apart from
each other, whether or not the medium accepts each of them, until the
coordinator is started anew.
-/

namespace SlottedMac.Node

open AlarmClock

variable {M ε : Type} {n m : Node M} {e : Nat}

/-- A coordinator that sent its last beacon at the true time `e`: its grid starts
there, and the next beacon comes at the same phase of the interval. -/
structure Leads (e : Nat) (n : Node M) : Prop where
  grid : n.time.synchronized = true → n.OnGrid e ∧ e ≤ n.alarms.now
  next : ∀ k ∈ n.alarms.pending .beacon, coarse k.due = n.cadence.next ∧
    (n.time.synchronized = true → k.due ≡ e [MOD 1000 * n.config.beaconInterval.toNat])
  sent : ∀ s ∈ n.beacons, s.time ≤ n.alarms.now ∧
    (s.time = n.alarms.now → n.time.synchronized = true ∧ e = n.alarms.now)

theorem Leads.calm (h : n.Leads e) (role : n.config.role = .coordinator) (calm : Calm n m) :
    m.Leads e := by
  have sync := calm.lasting role
  constructor
  · rw [sync, calm.same.now]
    intro now
    exact ⟨calm.grid e (h.grid now).1, (h.grid now).2⟩
  · rw [calm.beacon, calm.cadence, calm.same.config, sync]
    exact h.next
  · rw [calm.beacons, calm.same.now, sync]
    exact h.sent

theorem Leads.elapse (h : n.Leads e) {time : Nat} (order : n.alarms.now ≤ time) :
    (n.setClock time).Leads e where
  grid now := ⟨(h.grid now).1.elapse order, (h.grid now).2.trans order⟩
  next := h.next
  sent s mem := by
    obtain ⟨past, onAir⟩ := h.sent s mem
    refine ⟨past.trans order, fun (now : s.time = time) => ?_⟩
    -- what was on the air before stays there only while the clock stands still
    have still : time = n.alarms.now := Nat.le_antisymm (now ▸ past) order
    exact ⟨(onAir (now.trans still)).1, (onAir (now.trans still)).2.trans still.symm⟩

/-- A coordinator that is in sync goes on in the phase of its beacons. -/
def Continues (e : Nat) (n m : Node M) : Prop :=
  ∃ e', m.Leads e' ∧
    (n.time.synchronized = true → m.time.synchronized = true ∧ e ≤ e' ∧
      e ≡ e' [MOD 1000 * n.config.beaconInterval.toNat])

theorem Leads.continues (leads : m.Leads e)
    (lasts : n.time.synchronized = true → m.time.synchronized = true) : Continues e n m :=
  ⟨e, leads, fun now => ⟨lasts now, Nat.le_refl e, rfl⟩⟩

section Medium

variable [Medium M ε] {k : Callback} {stimulus : Stimulus M}

/-! ## Starting -/

/-- A coordinator that starts asks for its first beacon and for nothing else. -/
theorem start_of_coordinator (role : n.config.role = .coordinator) :
    ∃ m, Path [.start] n m ∧ m.time = .initial ∧
      m.cadence.next = n.coarseNow + n.cadence.initialDelay ∧
        (n.start : Reply ε × Node M) = m.armBeaconAlarm n.cadence.initialDelay := by
  have forgets : Path [.start] n _ := Step.start.path
  refine ⟨_, forgets.snoc (.begin role), rfl, rfl, ?_⟩
  rw [start, role]
  rfl

/-- A coordinator that starts with nothing on the air has all beacons still to
come. -/
theorem start_leads (holds : n.Holds) (leads : n.Leads e) (role : n.config.role = .coordinator)
    (quiet : n.onAir = []) : (n.start : Reply ε × Node M).2.Leads e := by
  obtain ⟨m, path, time, next, begun⟩ := start_of_coordinator (ε := ε) role
  have step : Step .armBeacon m (m.armBeaconAlarm n.cadence.initialDelay : Reply ε × Node M).2 :=
    .armBeacon _
  have due := (armBeaconAlarm_pending (ε := ε) (path.holds (by decide) holds)
    n.cadence.initialDelay).1
  have unsynchronized := (step.kept.time (by decide)).trans time
  rw [path.same.now] at due
  rw [begun]
  refine ⟨?_, ?_, ?_⟩
  · rw [unsynchronized]
    exact nofun
  · intro k mem
    rw [due k mem, coarse_add_delay, step.kept.cadence (by decide), next, unsynchronized]
    exact ⟨rfl, nofun⟩
  · have sent : m.beacons = n.beacons := by
      refine path.keeps (P := fun k => k.beacons = n.beacons) ?_ rfl
      intro a b d mem step so_far
      exact (step.beacons_calm (by grind)).trans so_far
    rw [step.beacons_calm (by decide), sent, step.same.now, path.same.now]
    intro s mem
    refine ⟨(leads.sent s mem).1, fun now => ?_⟩
    have onAir : s ∈ n.onAir := List.mem_filter.mpr ⟨mem, by simpa using now⟩
    rw [quiet] at onAir
    cases onAir

/-! ## Sending -/

theorem beacons_submitted (n : Node M) (channel : Channel) (frame : Frame)
    (queued : Option QueuedFrame) :
    (n.submitted channel frame queued).beacons =
      n.beacons ++ [n.submission channel frame queued].filter fun s =>
        s.channel = .beacon ∧ s.accepted = true := by
  simp only [beacons, submitted, Journal.submissions_cons, JournalEntry.submission?,
    Option.toList_some, List.filter_append]

/-- A beacon on the air makes the present the last time at which one was sent. -/
theorem emitted_leads (leads : n.Leads e)
    (phase : ∀ k ∈ n.alarms.pending .beacon,
      k.due ≡ n.alarms.now [MOD 1000 * n.config.beaconInterval.toNat]) :
    n.emitted.Leads n.alarms.now := by
  have now : n.emitted.alarms.now = n.alarms.now := rfl
  constructor
  · intro _
    exact ⟨anchored_onGrid _, Nat.le_refl _⟩
  · intro k mem
    exact ⟨(leads.next k mem).1, fun _ => phase k mem⟩
  · intro s mem
    refine ⟨?_, fun _ => ⟨rfl, rfl⟩⟩
    have sent : n.emitted.beacons = (n.submitted .beacon n.reference none).beacons := by
      simp [beacons, emitted, anchored]
    rw [sent, beacons_submitted, List.mem_append] at mem
    rcases mem with old | new
    · exact (leads.sent s old).1
    · rw [List.mem_singleton.mp (List.mem_of_mem_filter new)]
      exact Nat.le_refl _

theorem broadcasts_leads {out : Reply ε × Node M} (broadcasts : Broadcasts n out)
    (leads : n.Leads e) (holds : n.Holds)
    (phase : ∀ k ∈ n.alarms.pending .beacon,
      k.due ≡ n.alarms.now [MOD 1000 * n.config.beaconInterval.toNat]) :
    out.2.Leads e ∧ out.2.time = n.time ∨
      out.2.Leads n.alarms.now ∧ out.2.time.synchronized = true := by
  cases broadcasts with
  | refused role declined =>
    left
    have same := n.submitted_same .beacon n.reference none
    have unsent : (n.submitted .beacon n.reference none).beacons = n.beacons := by
      rw [beacons_submitted]
      simp [submission, declined]
    refine ⟨⟨fun now => ⟨(leads.grid now).1.congr same rfl, (leads.grid now).2⟩, leads.next, ?_⟩,
      rfl⟩
    rw [unsent]
    exact leads.sent
  | sent role accepted rest =>
    right
    have emit : Step .emit n n.emitted := .emit role accepted
    have calm := rest.path.calm (emit.holds (by decide) holds)
    have leads := emitted_leads leads phase
    exact ⟨leads.calm role calm, (calm.lasting role).trans rfl⟩

/-- At the time at which a beacon is intended the next one is planned for one
interval later. -/
theorem advance_of_intended (sound : n.Sound) (role : n.config.role = .coordinator)
    (intended : n.coarseNow = n.cadence.next) {cadence : Cadence} {beat : Cadence.Beat}
    (advanced : n.cadence.advance n.coarseNow = .ok (cadence, beat)) :
    beat.wait = n.config.beaconInterval ∧
      cadence.next = n.coarseNow + n.config.beaconInterval := by
  have positive : n.cadence.interval ≠ 0 := by
    rw [sound.interval]
    exact sound.valid.beaconInterval_ne (by simp [role])
  rw [intended, Cadence.advance_on_time positive] at advanced
  cases advanced
  rw [intended, ← sound.interval]
  exact ⟨rfl, rfl⟩

/-- A coordinator that asked for its next beacon on time leads as before, and
has that beacon to come in the phase of this moment. -/
theorem armBeaconAlarm_leads {cadence : Cadence} {beat : Cadence.Beat}
    (leads : n.Leads e) (holds : n.Holds)
    (advanced : n.cadence.advance n.coarseNow = .ok (cadence, beat))
    (next : cadence.next = n.coarseNow + n.config.beaconInterval)
    (phase : n.time.synchronized = true →
      n.alarms.now ≡ e [MOD 1000 * n.config.beaconInterval.toNat])
    {out : Reply ε × Node M}
    (done : out = (n.planned cadence beat).armBeaconAlarm n.config.beaconInterval) :
    out.2.Leads e ∧ out.2.Holds ∧ Same n out.2 ∧ out.2.time = n.time ∧
      ∀ k ∈ out.2.alarms.pending .beacon,
        k.due ≡ out.2.alarms.now [MOD 1000 * out.2.config.beaconInterval.toNat] := by
  have step : Step .armBeacon (n.planned cadence beat) out.2 := done ▸ .armBeacon _
  have planned : (n.planned cadence beat).Holds :=
    holds.congr rfl rfl (held_congr rfl rfl)
  have due := (armBeaconAlarm_pending (ε := ε) planned n.config.beaconInterval).1
  have same := (planned_same advanced).trans step.same
  have time : out.2.time = n.time := step.kept.time (by decide)
  rw [← done] at due
  refine ⟨⟨?_, ?_, ?_⟩, step.holds (by decide) planned, same, time, ?_⟩
  · rw [time, same.now]
    intro now
    exact ⟨(leads.grid now).1.congr same (by rw [time]), (leads.grid now).2⟩
  · intro k mem
    rw [due k mem, step.kept.cadence (by decide), time, same.config]
    refine ⟨?_, fun now => ?_⟩
    · exact (coarse_add_delay ..).trans next.symm
    · exact (Nat.add_modEq_right ..).trans (phase now)
  · rw [step.beacons_calm (by decide), same.now, time]
    exact leads.sent
  · intro k mem
    rw [due k mem, same.now, same.config]
    exact Nat.add_modEq_right ..

/-- Whether or not the beacon is sent, and whatever becomes of the alarm for the
next one, the coordinator goes on leading in the same phase. -/
theorem sendBeacon_continues (sound : n.Sound) (holds : n.Holds) (leads : n.Leads e)
    (role : n.config.role = .coordinator) (intended : n.coarseNow = n.cadence.next)
    (phase : n.time.synchronized = true →
      n.alarms.now ≡ e [MOD 1000 * n.config.beaconInterval.toNat]) :
    Yields (n.sendBeacon : Except Fault (Reply ε × Node M)) fun out => Continues e n out.2 := by
  obtain ⟨cadence, beat, advanced, done⟩ := sendBeacon_yields (ε := ε) sound role
  obtain ⟨wait, next⟩ := advance_of_intended sound role intended advanced
  rw [wait] at done
  obtain ⟨armed, inStep, same, time, again⟩ :=
    armBeaconAlarm_leads (ε := ε) leads holds advanced next phase rfl
  refine done.mono ?_
  rintro out (⟨-, rfl⟩ | ⟨-, broadcasts⟩)
  · apply armed.continues
    rw [time]
    exact id
  · rcases broadcasts_leads broadcasts armed inStep again with ⟨held, kept⟩ | ⟨anew, on⟩
    · apply held.continues
      rw [kept, time]
      exact id
    · rw [same.now] at anew
      exact ⟨_, anew, fun now => ⟨on, (leads.grid now).2, (phase now).symm⟩⟩

/-- A beacon alarm that comes when it is due comes at a time at which a beacon
is intended. -/
theorem beaconFired_continues (sound : n.Sound) (holds : n.Holds) (leads : n.Leads e)
    (role : n.config.role = .coordinator) (first : n.alarms.first? .beacon = some k)
    (due : k.due = n.alarms.now) :
    Yields ((n.consumed .beacon).alarmFired .beacon : Except Fault (Reply ε × Node M)) fun out =>
      Continues e n out.2 := by
  obtain ⟨intended, phase⟩ := leads.next k (mem_pending_of_first? first)
  rw [due] at intended phase
  rw [alarmFired_beacon (n := n.consumed .beacon) role]
  have pending (k : Callback) (mem : k ∈ (n.alarms.consume .beacon).pending .beacon) :
      k ∈ n.alarms.pending .beacon := by
    rw [pending_consume] at mem
    exact List.mem_of_mem_tail mem
  have spent : ((n.consumed .beacon).spent .beacon).Leads e :=
    ⟨leads.grid, fun k mem => leads.next k (pending k mem), leads.sent⟩
  exact sendBeacon_continues (sound.of_same ⟨rfl, rfl, rfl, rfl, rfl, id⟩)
    (holds.spent .beacon rfl (held_congr rfl rfl)) spent role intended phase

/-! ## What a coordinator undergoes -/

/-- With nothing but a start does a coordinator let those down who rely on
it. -/
theorem undergo_leads (sound : n.Sound) (holds : n.Holds) (leads : n.Leads e)
    (role : n.config.role = .coordinator) (prompt : n.Prompt stimulus)
    (quiet : stimulus = .operate .start → n.onAir = []) :
    Yields (n.undergo stimulus) fun out =>
      stimulus = .operate .start ∧ out.2.Leads e ∨ Continues e n out.2 := by
  by_cases start : stimulus = .operate .start
  · subst start
    have started : Yields (n.perform .start) fun out => out.2.Leads e :=
      Yields.ok_iff.mpr (start_leads holds leads role (quiet rfl))
    exact started.bind fun _ leads => Yields.pure_iff.mpr (.inl ⟨rfl, leads⟩)
  by_cases beacon : stimulus = .fire .beacon
  · subst beacon
    obtain ⟨callback, first, due⟩ := Option.map_eq_some_iff.mp prompt
    refine (undergo_fire (Q := Continues e n) ?_ ?_).mono fun _ => .inr
    · intro _
      exact leads.continues id
    · intro _ _
      exact beaconFired_continues sound holds leads role first due
  · refine (undergo_calm sound holds prompt start beacon).mono ?_
    intro out calm
    exact .inr ((leads.calm role calm).continues (calm.lasting role).trans)

end Medium

end SlottedMac.Node
