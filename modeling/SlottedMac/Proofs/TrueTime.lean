import SlottedMac.Proofs.Network.Member
import SlottedMac.Proofs.Origin

/-!
# The owned slot in true time

A host that lets every callback come exactly when it is due, and refuses none,
keeps the slot alarm of its node ticking once the first frame has been taken over.
From then on a node that is synchronized sends in its slot in true time, however
long it has nothing to send. What went by unseen before is lost on it, though: its
first frame, and every frame after it under the same grid, is sent as if the grid
had started whole ranges of the counter later.

That cannot happen to a member whose sync times out within a range of the counter,
since its watchdog ends the sync first.
-/

namespace SlottedMac

open Node (Deed)

namespace Node

open AlarmClock

variable {M ε : Type} {n m : Node M} {start first : Nat}

/-- What a host may do that lets every callback come exactly when it is due, and
refuses no alarm. -/
def Exact (n : Node M) : Stimulus M → Prop
  | .operate (.alarmFired _) => False
  | .operate _ => True
  | .fire kind => ∀ k ∈ n.alarms.first? kind, k.due = n.alarms.now
  | .lose _ => False
  | .clock time => n.alarms.now ≤ time ∧ ∀ k ∈ n.alarms.live, time ≤ k.due
  | .refuse _ error => error = none
  | .medium _ => True

instance (n : Node M) (stimulus : Stimulus M) : Decidable (n.Exact stimulus) :=
  match stimulus with
  | .fire kind => inferInstanceAs (Decidable (∀ k ∈ n.alarms.first? kind, k.due = n.alarms.now))
  | .clock time => inferInstanceAs (Decidable (_ ∧ ∀ k ∈ n.alarms.live, time ≤ k.due))
  | .refuse _ error => inferInstanceAs (Decidable (error = none))
  | .operate (.alarmFired _) | .lose _ => .isFalse id
  | .operate .start | .operate (.send ..) | .operate (.receive _) | .operate (.complete ..)
  | .operate .poll | .operate .powerOn | .operate (.powerOff _) | .medium _ => .isTrue trivial

section Medium

variable [Medium M ε] {kinds : List Deed} {d : Deed}

/-! ## Frames handed over -/

/-- A frame that was handed over after `earlier` is in the owned slot in true time,
short of what went by unseen. -/
structure InSlot (config : Config) (slot : UInt16) (s : Submission) (earlier : Journal)
    (start first : Nat) : Prop where
  last : earlier.lastRestart? = some start
  taken : earlier.firstTaken? = some first
  started : start ≤ s.time
  order : first ≤ s.time
  lasts : ∀ coordinator, config.role = .member coordinator →
    s.time ≤ start + 1000 * config.syncTimeout.toNat
  owns : config.layout.Owns slot (s.time - (start + unseen start first))

/-- Every data frame handed over under sync is in the slot. -/
def Logged (n : Node M) : Prop :=
  Justified (fun entry earlier => ∀ s, entry = .submitted s → s.channel = .data →
    s.synchronized = true → ∃ start first, InSlot n.config n.slot s earlier start first) n.journal

/-- Deeds that hand no data over have nothing to answer for. -/
theorem Path.logged (path : Path kinds n m)
    (none : .offer ∉ kinds ∧ .steal ∉ kinds := by decide) (h : n.Logged) : m.Logged := by
  obtain ⟨added, grown, writes⟩ := path.adds
  rw [Logged, path.same.config, path.same.slot, grown]
  refine h.append ?_
  rintro entry mem earlier s rfl data
  obtain ⟨d, kind, writer⟩ := writes _ mem
  simp only [JournalEntry.writers, data, List.mem_cons, List.not_mem_nil, or_false] at writer
  rcases writer with rfl | rfl
  · exact absurd kind none.1
  · exact absurd kind none.2

theorem Step.logged (step : Step d n m) (tdma : n.config.mode = .tdma) (contends : n.Contends)
    (ticking : n.Ticking first) (h : n.Logged) : m.Logged := by
  by_cases other : d ∉ [.offer, .steal]
  · have path : Path [d] n m := step.path (by simp)
    exact path.logged (by simpa [eq_comm] using other) h
  cases step with
  | @offer _ frame idle waits owned =>
    have same := n.offered_same frame
    rw [Logged, same.config, same.slot, offered_journal]
    refine ⟨?_, h⟩
    rintro s ⟨⟩ - now
    obtain ⟨start, started, counts⟩ := ticking.grid now
    exact ⟨start, first, started.last, ticking.taken, started.order, ticking.order, started.lasts,
      counts.owns owned⟩
  | steal ended =>
    have steals := contends ended
    rw [tdma] at steals
    cases steals
  | _ => simp at other

/-- A node that keeps to its slot, with a host that grants every alarm. -/
structure Steady (n : Node M) : Prop where
  tdma : n.config.mode = .tdma
  contends : n.Contends
  granted : n.Granted

theorem Step.steady (step : Step d n m) (h : n.Steady) : m.Steady := by
  refine ⟨?_, step.contends h.contends, step.granted h.granted⟩
  rw [step.same.config]
  exact h.tdma

theorem Path.steady (path : Path kinds n m) (h : n.Steady) : m.Steady :=
  path.keeps (fun _ step h => step.steady h) h

theorem Path.ticking (path : Path kinds n m) (sound : n.Sound) (steady : n.Steady)
    (ticking : n.Ticking first) (logged : n.Logged) : m.Ticking first ∧ m.Logged := by
  have kept : (m.Sound ∧ m.Steady) ∧ m.Ticking first ∧ m.Logged := by
    refine path.keeps (P := fun k => (k.Sound ∧ k.Steady) ∧ k.Ticking first ∧ k.Logged) ?_
      ⟨⟨sound, steady⟩, ticking, logged⟩
    rintro a b d mem step ⟨⟨sound, steady⟩, ticking, logged⟩
    exact ⟨⟨sound.of_same step.same, step.steady steady⟩, step.ticking sound steady.tdma ticking,
      step.logged steady.tdma steady.contends ticking logged⟩
  exact kept.2

/-! ## The watchdog -/

/-- The watchdog of a member in sync is due when the sync times out, reckoned from
the start of the grid. -/
def Supervised (n : Node M) : Prop :=
  ∀ coordinator, n.config.role = .member coordinator → n.time.synchronized = true →
    ∃ start, n.journal.lastRestart? = some start ∧ n.time.lastSync = coarse start ∧
      (n.alarms.pending .beacon).map (·.due) = [start + 1000 * n.config.syncTimeout.toNat]

omit [Medium M ε] in
theorem Supervised.of_unsynchronized (ended : n.time.synchronized = false) : n.Supervised :=
  fun _ _ now => absurd (ended.symm.trans now) nofun

theorem Step.supervised (step : Step d n m) (other : d ∉ [.armBeacon, .anchor])
    (holds : d = .armSlot → n.Holds) (h : n.Supervised) : m.Supervised := by
  intro coordinator role now
  rw [step.same.config] at role
  rcases step.grid_cases with ended | ⟨anew, -⟩ | ⟨⟨last, lastSync, sync⟩, -⟩
  · rw [ended] at now
    cases now
  · rcases anew with rfl | coordinates
    · exact absurd (by decide) other
    · rw [coordinates] at role
      cases role
  · rw [last, lastSync, step.pending_calm (by grind) holds, step.same.config]
    exact h coordinator role (sync now)

theorem Path.supervised (path : Path kinds n m)
    (other : ∀ d ∈ kinds, d ∉ [.armBeacon, .anchor, .spendSlot, .spendBeacon] := by decide)
    (holds : n.Holds) (h : n.Supervised) : m.Supervised := by
  have kept : m.Holds ∧ m.Supervised := by
    refine path.keeps (P := fun k => k.Holds ∧ k.Supervised) ?_ ⟨holds, h⟩
    rintro a b d mem step ⟨holds, supervised⟩
    have plain := other d mem
    exact ⟨step.holds (by grind) holds, step.supervised (by grind) (fun _ => holds) supervised⟩
  exact kept.2

/-- A beacon that is followed starts the grid and the watchdog together. -/
theorem followBeacon_supervised (sound : n.Sound) (holds : n.Holds) (granted : n.Granted)
    (header : Header) {coordinator : Address} (role : n.config.role = .member coordinator) :
    Yields (n.followBeacon header : Except Fault (Reply ε × Node M)) fun out =>
      out.2.Supervised := by
  have step : Step .armBeacon (n.informed header)
      ((n.informed header).armBeaconAlarm n.config.syncTimeout : Reply ε × Node M).2 :=
    .armBeacon _
  have inStep : (n.informed header).Holds := (Step.follow header).holds (by decide) holds
  obtain ⟨-, grants, watchdog⟩ := armBeaconAlarm_pending (ε := ε) inStep n.config.syncTimeout
  refine (followBeacon_yields sound header).mono ?_
  rintro out (⟨⟨error, refused⟩, rfl⟩ | ⟨armed, restarts⟩)
  · rw [grants (granted .beacon)] at refused
    cases refused
  · have anchor : Step .anchor _ _ := .anchor (step.same.config ▸ role)
    refine restarts.path.supervised (by decide)
      (anchor.holds (by decide) (step.holds (by decide) inStep)) fun _ _ _ => ?_
    refine ⟨n.alarms.now, ?_, congrArg coarse step.same.now, ?_⟩
    · exact (Journal.lastRestart?_cons_gridRestarted ..).trans (congrArg some step.same.now)
    · exact (watchdog armed).trans (by rw [anchored_same _ |>.config, step.same.config]; rfl)

theorem perform_supervised (sound : n.Sound) (holds : n.Holds) (granted : n.Granted)
    (h : n.Supervised) (operation : Operation) (other : ∀ kind, operation ≠ .alarmFired kind) :
    Yields (n.perform operation) fun out => out.2.Supervised := by
  have plain {kinds : List Deed} (path : Yields (n.perform operation) fun out => Path kinds n out.2)
      (calm : ∀ d ∈ kinds, d ∉ [.armBeacon, .anchor, .spendSlot, .spendBeacon] := by
        simp only [deeds]; decide) :
      Yields (n.perform operation) fun out => out.2.Supervised :=
    path.mono fun _ path => path.supervised calm holds h
  have performed := (perform_yields sound operation).mono fun _ done => done.1
  cases operation with
  | start =>
    refine Yields.ok_iff.mpr fun coordinator role _ => ?_
    have member := n.start_path (ε := ε).same.config ▸ role
    exact Supervised.of_unsynchronized (start_unsynchronized member) coordinator role ‹_›
  | alarmFired kind => exact absurd rfl (other kind)
  | receive bytes =>
    rcases receive_cases (ε := ε) n bytes with ⟨header, heard, same⟩ | ⟨-, path⟩
    · rw [perform, same]
      exact (followBeacon_supervised sound holds granted header (role_of_heard heard)).bind
        fun _ done => Yields.pure_iff.mpr done
    · exact plain (path.bind fun _ path => Yields.pure_iff.mpr path) (by decide)
  | send token destination bytes => exact plain performed
  | complete channel completion transmissions => exact plain performed
  | poll => exact plain performed
  | powerOn => exact plain performed
  | powerOff keepOn => exact plain performed

/-- A callback that comes when it is due leaves the watchdog where it was, or, if it
is the watchdog, ends the sync. -/
theorem fired_supervised (sound : n.Sound) (holds : n.Holds) (h : n.Supervised) {kind : AlarmKind}
    {k : Callback} (first : n.alarms.first? kind = some k) (due : k.due = n.alarms.now) :
    Yields ((n.consumed kind).alarmFired kind : Except Fault (Reply ε × Node M)) fun out =>
      out.2.Supervised := by
  have inOrder : (n.consumed kind).Sound := sound.amid _ _
  cases kind with
  | slot =>
    have consumed : (n.consumed .slot).Supervised := by
      intro coordinator role now
      have pending : (n.consumed .slot).alarms.pending .beacon = n.alarms.pending .beacon :=
        pending_consume_other _ (by decide)
      rw [pending]
      exact h coordinator role now
    have expired := (Step.expire (n := n.consumed .slot)).supervised (by decide) nofun consumed
    have spent : ((n.consumed .slot).expireSync.spent .slot).Supervised :=
      Step.spendSlot.supervised (by decide) nofun expired
    refine (alarmFired_spent inOrder .slot).mono ?_
    rintro out ⟨path, -⟩
    refine path.supervised ?_ (holds.fired .slot) spent
    rw [firing]
    split <;> decide
  | beacon =>
    by_cases member : ∃ coordinator, n.config.role = .member coordinator
    · obtain ⟨coordinator, role⟩ := member
      refine (watchdogFired_unsynchronized role fun now => ?_).mono fun _ =>
        Supervised.of_unsynchronized
      obtain ⟨start, -, lastSync, watchdog⟩ := h coordinator role now
      exact stale_of_watchdog lastSync watchdog first due
    · refine (alarmFired_yields inOrder .beacon).mono ?_
      rintro out ⟨path, -⟩ coordinator role
      rw [path.same.config] at role
      exact absurd ⟨coordinator, role⟩ member

/-! ## One stimulus, and all of them -/

omit [Medium M ε] in
theorem Steady.consumed (h : n.Steady) {kind : AlarmKind} : (n.consumed kind).Steady :=
  ⟨h.tdma, h.contends, h.granted⟩

/-- How a node stands between stimuli: it has taken nothing over, or its slot alarm
ticks. -/
def Stands (n : Node M) : Prop := n.Idle ∨ ∃ first, n.Ticking first ∧ n.slotAlarm.isSome

omit [Medium M ε] in
/-- Time goes on no further than to the next callback. -/
theorem Stands.elapse (h : n.Stands) (holds : n.Holds) (supervised : n.Supervised) {time : Nat}
    (order : n.alarms.now ≤ time) (ahead : ∀ k ∈ n.alarms.live, time ≤ k.due) :
    (n.setClock time).Stands := by
  have started {start : Nat} (sync : n.time.synchronized = true) (h : n.StartedAt start) :
      (n.setClock time).StartedAt start := by
    refine ⟨h.last, h.order.trans order, fun coordinator role => ?_⟩
    obtain ⟨again, last, -, watchdog⟩ := supervised coordinator role sync
    have same : again = start := Option.some.inj (last.symm.trans h.last)
    have due : start + 1000 * n.config.syncTimeout.toNat ∈
        (n.alarms.pending .beacon).map (·.due) := by simp [watchdog, same]
    obtain ⟨k, mem, due⟩ := List.mem_map.mp due
    exact (ahead k (List.mem_of_mem_filter mem)).trans (Nat.le_of_eq due)
  rcases h with idle | ⟨first, ticking, held⟩
  · refine .inl ⟨idle.taken, idle.unheld, fun sync => ?_⟩
    obtain ⟨start, before, origin⟩ := idle.grid sync
    exact ⟨start, started sync before, origin⟩
  · obtain ⟨handle, held⟩ := Option.isSome_iff_exists.mp held
    -- the slot alarm that is held is what keeps the clock from going too far
    have keeps := holds_iff.mp holds .slot
    obtain ⟨next, mem, -⟩ := keeps.exists_pending held
    refine .inr ⟨first, ⟨ticking.taken, ticking.order.trans order, fun k mem => ?_, fun sync => ?_⟩,
      by simp [setClock, held]⟩
    · exact (ticking.soon k mem).trans (Nat.add_le_add_right order _)
    · obtain ⟨start, before, k, origin, past, -, near⟩ := ticking.grid sync
      refine ⟨start, started sync before, k, origin, past.trans order, ?_, near⟩
      exact Nat.lt_of_le_of_lt (ahead next (List.mem_of_mem_filter mem)) (near next mem)

/-- What holds of a node with an exact host between stimuli. -/
structure Accurate (n : Node M) : Prop where
  steady : n.Steady
  holds : n.Holds
  supervised : n.Supervised
  logged : n.Logged
  stands : n.Stands

/-- The first frame makes the slot alarm tick. -/
theorem send_stands (sound : n.Sound) (h : n.Accurate) (idle : n.Idle) (token : Token)
    (destination : Address) (bytes : List UInt8) :
    Yields (n.send token destination bytes : Except Fault (Reply ε × Node M)) fun out =>
      out.2.Logged ∧ out.2.Stands := by
  rw [send]
  split
  · exact Yields.ok_iff.mpr ⟨h.logged, .inl idle⟩
  · next payload _ =>
    let frame : QueuedFrame := { token, destination, payload, queuedAt := n.fineNow }
    have expired : Path [.expire] n n.expireSync := Step.expire.path
    have captured : Path [.expire, .capture] n (n.expireSync.capture frame) := n.capture_path frame
    have inOrder := captured.sound sound
    have none : n.expireSync.alarms.pending .slot = [] := by
      have unheld : n.held .slot = none := idle.unheld
      rw [n.expireSync_held.1]
      exact h.holds.pending_eq_nil unheld
    have ticking := ((expired.mono (by decide)).idle idle).capture none frame
    refine ((arrange_yields inOrder (n.expireSync.capture_outbox frame)).and
      (arrange_held inOrder (captured.granted h.steady.granted))).mono ?_
    rintro out ⟨⟨path, -⟩, held⟩
    obtain ⟨after, logged⟩ := path.ticking inOrder (captured.steady h.steady) ticking
      (captured.logged (by decide) h.logged)
    exact ⟨logged, .inr ⟨_, after, held⟩⟩

theorem perform_stands (sound : n.Sound) (h : n.Accurate) (operation : Operation)
    (other : ∀ kind, operation ≠ .alarmFired kind) :
    Yields (n.perform operation) fun out => out.2.Logged ∧ out.2.Stands := by
  rcases h.stands with idle | ⟨first, ticking, held⟩
  · by_cases sends : ∃ token destination bytes, operation = .send token destination bytes
    · obtain ⟨token, destination, bytes, rfl⟩ := sends
      exact (send_stands sound h idle token destination bytes).bind fun _ done =>
        Yields.pure_iff.mpr done
    · simp only [not_exists] at sends
      refine (perform_resting sound idle.unheld sends (other .slot)).mono fun _ path => ?_
      exact ⟨path.logged (by decide) h.logged, .inl (path.idle idle)⟩
  · refine (perform_yields sound operation).mono ?_
    rintro out ⟨path, -⟩
    obtain ⟨after, logged⟩ := path.ticking sound h.steady ticking h.logged
    refine ⟨logged, .inr ⟨first, after, path.slotAlarm_held ?_ h.steady.granted held⟩⟩
    cases operation with
    | alarmFired kind => exact absurd rfl (other kind)
    | _ => simp [deeds, Deed.following]

/-- A callback that comes leaves a slot alarm that ticks ticking on. -/
theorem fired_stands (sound : n.Sound) (h : n.Accurate) {kind : AlarmKind} {k : Callback}
    (first : n.alarms.first? kind = some k) :
    Yields ((n.consumed kind).alarmFired kind : Except Fault (Reply ε × Node M)) fun out =>
      out.2.Logged ∧ out.2.Stands := by
  have inOrder : (n.consumed kind).Sound := sound.amid _ _
  rcases h.stands with idle | ⟨taken, ticking, held⟩
  · cases kind with
    | slot =>
      have unheld : n.held .slot = none := idle.unheld
      have mem := mem_pending_of_first? first
      rw [h.holds.pending_eq_nil unheld] at mem
      cases mem
    | beacon =>
      have before : (n.consumed .beacon).Idle := idle.amid n.medium rfl
      refine (beaconFired_heeds inOrder).mono fun out heeds => ?_
      have path := heeds.resting before.unheld
      have logged : (n.consumed .beacon).Logged := h.logged
      exact ⟨path.logged (by decide) logged, .inl (path.idle before)⟩
  · have before : (n.consumed kind).Ticking taken :=
      ticking.amid n.medium rfl List.eraseP_subset
    have again : Yields ((n.consumed kind).alarmFired kind : Except Fault (Reply ε × Node M))
        fun out => out.2.slotAlarm.isSome := by
      cases kind with
      | slot =>
        have spent : Path [.expire, .spendSlot] (n.consumed .slot)
            ((n.consumed .slot).expireSync.spent .slot) :=
          ((Path.refl _).snoc .expire).snoc .spendSlot
        have expired : Path [.expire] (n.consumed .slot) (n.consumed .slot).expireSync :=
          Step.expire.path
        exact (slotAlarmFired_looks (expired.sound inOrder)).mono fun _ looks =>
          looks.slotAlarm_held (spent.granted h.steady.consumed.granted)
      | beacon =>
        refine (alarmFired_yields inOrder .beacon).mono fun _ done => ?_
        exact done.1.slotAlarm_held (by simp only [deeds, firing]; decide)
          h.steady.consumed.granted held
    refine ((alarmFired_yields inOrder kind).and again).mono ?_
    rintro out ⟨⟨path, -⟩, held⟩
    obtain ⟨after, logged⟩ := path.ticking inOrder h.steady.consumed before h.logged
    exact ⟨logged, .inr ⟨taken, after, held⟩⟩

/-- Changes of the host that leave its clock and its alarms alone. -/
theorem Accurate.amid (h : n.Accurate) {alarms : AlarmClock} (medium : M)
    (now : alarms.now = n.alarms.now) (live : alarms.live = n.alarms.live)
    (next : alarms.nextHandle = n.alarms.nextHandle)
    (granted : ∀ kind, alarms.refusal kind = none) :
    (n.amid alarms medium).Accurate where
  steady := ⟨h.steady.tdma, h.steady.contends, granted⟩
  holds := h.holds.congr live next (held_congr rfl rfl)
  supervised coordinator role sync := by
    have pending : (n.amid alarms medium).alarms.pending .beacon = n.alarms.pending .beacon :=
      congrArg (List.filter _) live
    rw [pending]
    exact h.supervised coordinator role sync
  logged := h.logged
  stands := by
    rcases h.stands with idle | ⟨first, ticking, held⟩
    · exact .inl (idle.amid medium now)
    · exact .inr ⟨first, ticking.amid medium now (live ▸ List.Subset.refl _), held⟩

theorem undergo_accurate (sound : n.Sound) (h : n.Accurate) {stimulus : Stimulus M}
    (ruled : n.Exact stimulus) : Yields (n.undergo stimulus) fun out => out.2.Accurate := by
  cases stimulus with
  | operate operation =>
    have other : ∀ kind, operation ≠ .alarmFired kind := by
      rintro kind rfl
      exact ruled
    have done : Yields (n.perform operation) fun out => out.2.Accurate := by
      refine ((((perform_yields sound operation).and
        (perform_holds sound h.holds operation other)).and
        (perform_supervised sound h.holds h.steady.granted h.supervised operation other)).and
        (perform_stands sound h operation other)).mono ?_
      rintro out ⟨⟨⟨⟨path, -⟩, holds⟩, supervised⟩, logged, stands⟩
      exact ⟨path.steady h.steady, holds, supervised, logged, stands⟩
    exact done.bind fun _ done => Yields.pure_iff.mpr done
  | fire kind =>
    refine undergo_fire (Q := Accurate) (fun _ => h) fun k first => ?_
    refine ((((alarmFired_yields (sound.amid _ _) kind).and
      (alarmFired_holds sound h.holds kind)).and
      (fired_supervised sound h.holds h.supervised first (ruled k first))).and
      (fired_stands sound h first)).mono ?_
    rintro out ⟨⟨⟨⟨path, -⟩, holds⟩, supervised⟩, logged, stands⟩
    exact ⟨path.steady h.steady.consumed, holds, supervised, logged, stands⟩
  | lose kind => exact ruled.elim
  | clock time =>
    have holds : (n.setClock time).Holds := h.holds.congr rfl rfl (held_congr rfl rfl)
    exact Yields.ok_iff.mpr ⟨⟨h.steady.tdma, h.steady.contends, h.steady.granted⟩, holds,
      h.supervised, h.logged, h.stands.elapse h.holds h.supervised ruled.1 ruled.2⟩
  | refuse kind error =>
    have granted : ∀ other, (n.alarms.refuse kind error).refusal other = none := by
      cases ruled
      intro other
      have before := h.steady.granted other
      cases kind <;> cases other <;> first | rfl | exact before
    exact Yields.ok_iff.mpr (h.amid n.medium (refuse_now ..) (refuse_live ..)
      (refuse_nextHandle ..) granted)
  | medium medium => exact Yields.ok_iff.mpr (h.amid medium rfl rfl rfl h.steady.granted)

theorem fresh_accurate (address : Address) {config : Config} (tdma : config.mode = .tdma)
    (medium : M) {alarms : AlarmClock} (unused : alarms.live = [])
    (granted : ∀ kind, alarms.refusal kind = none) (words : WordSource) :
    (fresh address config medium alarms words).Accurate where
  steady := ⟨tdma, nofun, granted⟩
  holds := fresh_holds address config medium unused words
  supervised := .of_unsynchronized rfl
  logged := trivial
  stands := .inl ⟨rfl, rfl, nofun⟩

end Medium

end Node

open Node

/-- With a host that lets every callback come exactly when it is due and refuses no
alarm, a node that keeps to its slot and is synchronized hands data over in its slot
in true time, reckoned from when its grid was started anew last, less the whole
ranges of the counter that went by from there before the first frame of all was
taken over. How long it had nothing to send after that first frame is of no
concern. If the first frame came within a range of the counter, or the node is a
member whose sync times out within one, nothing went by unseen. -/
theorem launch_in_true_slot {M ε : Type} [Medium M ε] {config : Config} (valid : config.Valid)
    (tdma : config.mode = .tdma) (address : Address) (medium : M) {alarms : AlarmClock}
    (unused : alarms.live = []) (granted : ∀ kind, alarms.refusal kind = none)
    (words : WordSource) (stimuli : List (Stimulus M))
    (ruled : (fresh address config medium alarms words).Obeys Exact stimuli) :
    ∃ answers n, lifetime address config medium alarms words stimuli = .ok (.ok (answers, n)) ∧
      ∀ later s (earlier : Journal), n.journal = later ++ .submitted s :: earlier →
        s.channel = .data → s.synchronized = true →
        ∃ start first, earlier.lastRestart? = some start ∧ earlier.firstTaken? = some first ∧
          start ≤ s.time ∧ first ≤ s.time ∧
          config.layout.Owns n.slot (s.time - (start + unseen start first)) ∧
          (first < start + 2 ^ 32 ∨
              (∃ coordinator, config.role = .member coordinator) ∧
                1000 * config.syncTimeout.toNat < 2 ^ 32 →
            config.layout.Owns n.slot (s.time - start)) := by
  have step (m : Node M) (stimulus : Stimulus M) (sound : m.Sound)
      (kept : m.Accurate ∧ m.config = config) (ruled : m.Exact stimulus) :
      Yields (m.undergo stimulus) fun out => out.2.Accurate ∧ out.2.config = config :=
    ((undergo_accurate sound kept.1 ruled).and (undergo_config sound stimulus)).mono
      fun _ done => ⟨done.1, done.2.trans kept.2⟩
  obtain ⟨answers, n, done, ⟨accurate, settings⟩, -⟩ :=
    lifetime_obeys (P := fun m => m.Accurate ∧ m.config = config) step valid
      ⟨fresh_accurate address tdma medium unused granted words, rfl⟩
      ((List.append_nil stimuli).symm ▸ ruled)
  refine ⟨answers, n, done, fun later s earlier split data sync => ?_⟩
  obtain ⟨start, first, inSlot⟩ := accurate.logged.at_split split s rfl data sync
  have owns := inSlot.owns
  have lasts := inSlot.lasts
  rw [settings] at owns lasts
  refine ⟨start, first, inSlot.last, inSlot.taken, inSlot.started, inSlot.order, owns,
    fun seen => ?_⟩
  have near : first < start + 2 ^ 32 := by
    rcases seen with near | ⟨⟨coordinator, role⟩, short⟩
    · exact near
    · have order := inSlot.order
      have within := lasts coordinator role
      omega
  rwa [unseen_eq_zero near, Nat.add_zero] at owns

/-- A submission found in a journal, and the entries around it. -/
theorem Journal.eq_of_submission {j : Journal} {i : Nat} {s : Submission}
    (found : j[i]?.bind JournalEntry.submission? = some s) :
    j = j.take i ++ .submitted s :: j.drop (i + 1) := by
  obtain ⟨entry, listed, about⟩ := Option.bind_eq_some_iff.mp found
  cases entry with
  | submitted s' =>
    cases about
    obtain ⟨lt, same⟩ := List.getElem?_eq_some_iff.mp listed
    rw [← same, List.getElem_cons_drop, List.take_append_drop]
  | _ => cases about

/-- A coordinator whose periods are so long that the counter goes round within three
of them. -/
def longPeriods : Config where
  role := .coordinator
  layout := { slotCount := 2, slotLength := 1000, guard := 100, period := 2000000000 }
  beaconInterval := 10000000

/-- It sends a beacon and then a frame, has nothing to send for three periods, and
sends another frame. -/
def longIdleRun : List (Stimulus RecordingMedium) :=
  [.operate .start, .clock 1000000, .fire .beacon, .operate (.send 7 0 [1]), .clock 1001000,
    .fire .slot, .operate (.complete .data .ok 1), .clock 2001001000, .fire .slot,
    .clock 4001001000, .fire .slot, .clock 6001001000, .fire .slot, .operate (.send 8 0 [2])]

/-- That frame is handed over in the slot in true time. -/
theorem launch_in_true_slot_idle :
    ∃ answers n,
      lifetime 1 longPeriods ({} : RecordingMedium) {} (.cycle []) longIdleRun =
        .ok (.ok (answers, n)) ∧
      ∃ later s, ∃ earlier : Journal, n.journal = later ++ .submitted s :: earlier ∧
        earlier.lastRestart? = some 1000000 ∧ s.time = 6001001000 ∧
        longPeriods.layout.Owns n.slot (6001001000 - 1000000) := by
  have valid : longPeriods.Valid := Config.check_eq_ok_iff.mp rfl
  obtain ⟨answers, n, done, found, last, taken⟩ :
      ∃ answers n, lifetime 1 longPeriods ({} : RecordingMedium) {} (.cycle []) longIdleRun =
          .ok (.ok (answers, n)) ∧
        (∃ s ∈ n.journal[1]?.bind JournalEntry.submission?,
          s.channel = .data ∧ s.synchronized = true ∧ s.time = 6001001000) ∧
        Journal.lastRestart? (n.journal.drop 2) = some 1000000 ∧
        Journal.firstTaken? (n.journal.drop 2) = some 1000000 :=
    exists_lifetime valid (by decide +kernel)
  obtain ⟨s, found, data, sync, time⟩ := found
  obtain ⟨_, _, same, inSlot⟩ := launch_in_true_slot valid rfl 1 ({} : RecordingMedium)
    (rfl : ({} : AlarmClock).live = []) (fun kind => by cases kind <;> rfl) (.cycle []) longIdleRun
    (by decide +kernel)
  cases done.symm.trans same
  have split := Journal.eq_of_submission found
  obtain ⟨start, first, before, earliest, -, -, -, owns⟩ := inSlot _ s _ split data sync
  cases before.symm.trans last
  cases earliest.symm.trans taken
  exact ⟨answers, n, done, _, s, _, split, last, time, time ▸ owns (.inl (by decide))⟩

/-- Settings of a member whose sync times out only after the counter has gone round. -/
def longSync : Config := { role := .member 0, beaconInterval := 4000000 }

/-- A member hears a beacon and has nothing to send until the counter has gone round
once, and half a second more. No callback is due meanwhile. -/
def lateFirstFrame : List (Stimulus RecordingMedium) :=
  [.operate .start, .clock 1000000, .operate (.receive (Frame.timeReference 0 0).bytes),
    .clock 4296467296, .operate (.send 7 0 [1])]

/-- What goes by unseen makes a difference: the frame is handed over at once, under
sync and with the host as exact as can be, outside of its slot. -/
theorem launch_out_of_slot :
    longSync.Valid ∧ longSync.mode = .tdma ∧
      (fresh 3 longSync ({} : RecordingMedium) {} (.cycle [])).Obeys Exact lateFirstFrame ∧
      ∃ answers n,
        lifetime 3 longSync ({} : RecordingMedium) {} (.cycle []) lateFirstFrame =
          .ok (.ok (answers, n)) ∧
        ∃ later s, ∃ earlier : Journal, n.journal = later ++ .submitted s :: earlier ∧
          s.channel = .data ∧ s.accepted = true ∧ s.synchronized = true ∧
          earlier.lastRestart? = some 1000000 ∧
          ¬ longSync.layout.Owns n.slot (s.time - 1000000) := by
  have valid : longSync.Valid := Config.check_eq_ok_iff.mp rfl
  obtain ⟨answers, n, done, found, last⟩ :
      ∃ answers n, lifetime 3 longSync ({} : RecordingMedium) {} (.cycle []) lateFirstFrame =
          .ok (.ok (answers, n)) ∧
        (∃ s ∈ n.journal[1]?.bind JournalEntry.submission?,
          s.channel = .data ∧ s.accepted = true ∧ s.synchronized = true ∧
            ¬ longSync.layout.Owns n.slot (s.time - 1000000)) ∧
        Journal.lastRestart? (n.journal.drop 2) = some 1000000 :=
    exists_lifetime valid (by decide +kernel)
  obtain ⟨s, found, data, accepted, sync, outside⟩ := found
  exact ⟨valid, rfl, by decide +kernel, answers, n, done, _, s, _,
    Journal.eq_of_submission found, data, accepted, sync, last, outside⟩

end SlottedMac
