import SlottedMac.Proofs.Network.Member
import SlottedMac.Proofs.Origin

/-!
# The watchdog of a member

A member in sync has one beacon alarm to come, its watchdog, and that is due in the
very millisecond in which the sync times out: the node arms it, and judges by it, with
the coarse reading alone. A watchdog that comes early finds something left of the sync
and is armed again for that. One that comes in its millisecond ends the sync, unless a
send or a slot alarm noticed before.

A watchdog may outlive the sync that it was armed for. A start forgets the sync, and a
send may end it, but neither gives the alarm back. The next beacon does.

Nothing is asked of slot alarms here. They may come at any time, get lost or be refused.
-/

namespace SlottedMac

open Node (Deed)

namespace Node

open AlarmClock

variable {M ε : Type} {n m : Node M} {start : Nat} {k : Callback}

/-- What a host may do that grants every beacon alarm and lets none come later than it
is due. -/
def Watchful (n : Node M) : Stimulus M → Prop
  | .operate (.alarmFired .beacon) => False
  | .operate _ => True
  | .fire _ => True
  | .lose .beacon => False
  | .lose .slot => True
  | .clock time => n.alarms.now ≤ time ∧ ∀ k ∈ n.alarms.live, k.kind = .beacon → time ≤ k.due
  | .refuse .beacon error => error = none
  | .refuse .slot _ => True
  | .medium _ => True

instance (n : Node M) (stimulus : Stimulus M) : Decidable (n.Watchful stimulus) :=
  match stimulus with
  | .clock time =>
    inferInstanceAs (Decidable (_ ∧ ∀ k ∈ n.alarms.live, k.kind = .beacon → time ≤ k.due))
  | .refuse .beacon error => inferInstanceAs (Decidable (error = none))
  | .operate (.alarmFired .beacon) | .lose .beacon => .isFalse id
  | .operate (.alarmFired .slot) | .operate .start | .operate (.send ..)
  | .operate (.receive _) | .operate (.complete ..) | .operate .poll | .operate .powerOn
  | .operate (.powerOff _) | .fire _ | .lose .slot | .refuse .slot _ | .medium _ => .isTrue trivial

/-- The one beacon alarm to come is the watchdog of the sync by a beacon that came at
`start`. -/
structure Watches (start : Nat) (k : Callback) (n : Node M) : Prop where
  last : n.journal.lastRestart? = some start
  lastSync : n.time.lastSync = coarse start
  order : start ≤ n.alarms.now
  live : n.alarms.pending .beacon = [k]
  due : k.due / 1000 = start / 1000 + n.config.syncTimeout.toNat
  ahead : n.alarms.now ≤ k.due

/-- Sync is watched. -/
def Watched (n : Node M) : Prop :=
  n.time.synchronized = true → ∃ start k, n.Watches start k

theorem Watched.of_unsynchronized (ended : n.time.synchronized = false) : n.Watched :=
  fun now => absurd (ended.symm.trans now) nofun

/-- The coarse reading tells for how long the sync has held. -/
theorem Watches.toNat_since (h : n.Watches start k) :
    (n.coarseNow.since n.time.lastSync).toNat = n.alarms.now / 1000 - start / 1000 := by
  have order := h.order
  have ahead := h.ahead
  have due := h.due
  have short := n.config.syncTimeout.toNat_lt
  rw [h.lastSync]
  exact toNat_since_fine (show start / 1000 ≤ _ by omega) (by omega)

/-- Sync is stale from the millisecond on in which its watchdog is due. -/
theorem Watches.stale_iff (h : n.Watches start k) :
    n.config.syncTimeout ≤ n.coarseNow.since n.time.lastSync ↔
      k.due / 1000 ≤ n.alarms.now / 1000 := by
  have order := h.order
  rw [UInt32.le_iff_toNat_le, h.toNat_since, h.due]
  omega

section Medium

variable [Medium M ε] {kinds : List Deed} {d : Deed} {coordinator : Address}

/-! ## Sync over many deeds -/

/-- Only a start and an expiry take the sync, and only an expiry is counted. -/
theorem Step.lasts (step : Step d n m) (other : d ∉ [.start, .expire]) :
    m.stats.syncLost = n.stats.syncLost ∧
      (n.time.synchronized = true → m.time.synchronized = true) := by
  have kept := step.kept
  refine ⟨kept.syncLost (by grind), ?_⟩
  cases step with
  | start | begin | expire => simp at other
  | emit => exact fun _ => rfl
  | anchor => exact fun _ => rfl
  | emitRefused => exact id
  | align =>
    rw [aligned, TimeBase.caughtUp]
    split <;> exact id
  | _ =>
    rw [kept.time (by decide)]
    exact id

theorem Path.lasts (path : Path kinds n m)
    (other : ∀ d ∈ kinds, d ∉ [.start, .expire] := by decide) :
    m.stats.syncLost = n.stats.syncLost ∧
      (n.time.synchronized = true → m.time.synchronized = true) := by
  refine path.keeps (P := fun j => j.stats.syncLost = n.stats.syncLost ∧
    (n.time.synchronized = true → j.time.synchronized = true)) ?_ ⟨rfl, id⟩
  rintro a b d mem step ⟨counted, sync⟩
  have lasts := step.lasts (other d mem)
  exact ⟨lasts.1.trans counted, lasts.2 ∘ sync⟩

/-! ## Deeds that leave the watchdog alone -/

/-- Without an alarm asked for and without a beacon, what is in sync was in sync before
and is watched as before. -/
theorem Step.watches (step : Step d n m) (other : d ∉ [.armBeacon, .anchor])
    (role : n.config.role = .member coordinator) (keeps : n.Keeps .beacon)
    (sync : m.time.synchronized = true) :
    n.time.synchronized = true ∧ ∀ start k, n.Watches start k → m.Watches start k := by
  rcases step.grid_cases with ended | ⟨anew, -⟩ | ⟨⟨last, lastSync, before⟩, -⟩
  · rw [ended] at sync
    cases sync
  · rcases anew with rfl | coordinates
    · exact absurd (by decide) other
    · rw [coordinates] at role
      cases role
  · refine ⟨before sync, fun start k h => ?_⟩
    have pending : m.alarms.pending .beacon = n.alarms.pending .beacon :=
      step.pending_eq (by rintro rfl; simp [Deed.arm] at other) keeps
    have same := step.same
    exact ⟨last.trans h.last, lastSync.trans h.lastSync, same.now ▸ h.order,
      pending.trans h.live, same.config ▸ h.due, same.now ▸ h.ahead⟩

theorem Path.watches (path : Path kinds n m)
    (other : ∀ d ∈ kinds, d ∉ [.armBeacon, .anchor, .spendBeacon] := by decide)
    (role : n.config.role = .member coordinator) (keeps : n.Keeps .beacon)
    (sync : m.time.synchronized = true) :
    n.time.synchronized = true ∧ ∀ start k, n.Watches start k → m.Watches start k := by
  have kept : (m.Keeps .beacon ∧ m.config.role = .member coordinator) ∧
      (m.time.synchronized = true →
        n.time.synchronized = true ∧ ∀ start k, n.Watches start k → m.Watches start k) := by
    refine path.keeps (P := fun j => (j.Keeps .beacon ∧ j.config.role = .member coordinator) ∧
      (j.time.synchronized = true →
        n.time.synchronized = true ∧ ∀ start k, n.Watches start k → j.Watches start k)) ?_
      ⟨⟨keeps, role⟩, fun sync => ⟨sync, fun _ _ => id⟩⟩
    rintro a b d mem step ⟨⟨keeps, role⟩, so_far⟩
    have plain := other d mem
    simp only [List.mem_cons, List.not_mem_nil, or_false, not_or] at plain
    refine ⟨⟨step.keeps plain.2.2 keeps, step.same.config ▸ role⟩, fun sync => ?_⟩
    obtain ⟨before, onward⟩ := step.watches (by simp [plain]) role keeps sync
    obtain ⟨first, path⟩ := so_far before
    exact ⟨first, fun start k h => onward start k (path start k h)⟩
  exact kept.2 sync

theorem Path.watched (path : Path kinds n m)
    (other : ∀ d ∈ kinds, d ∉ [.armBeacon, .anchor, .spendBeacon] := by decide)
    (role : n.config.role = .member coordinator) (keeps : n.Keeps .beacon) (h : n.Watched) :
    m.Watched := by
  intro sync
  obtain ⟨before, onward⟩ := path.watches other role keeps sync
  obtain ⟨start, k, watches⟩ := h before
  exact ⟨start, k, onward start k watches⟩

/-! ## Beacons -/

/-- A beacon that is followed is the last one from then on, and its sync is watched. -/
theorem followBeacon_watches (sound : n.Sound) (keeps : n.Keeps .beacon)
    (granted : n.alarms.refusal .beacon = none) (header : Header)
    (role : n.config.role = .member coordinator) :
    Yields (n.followBeacon header : Except Fault (Reply ε × Node M)) fun out =>
      out.2.time.synchronized = true ∧ ∃ k, out.2.Watches n.alarms.now k := by
  have follow : Step .follow n (n.informed header) := .follow header
  have step : Step .armBeacon (n.informed header)
      ((n.informed header).armBeaconAlarm n.config.syncTimeout : Reply ε × Node M).2 :=
    .armBeacon _
  have informed := follow.keeps (by decide) keeps
  obtain ⟨grants, live⟩ := informed.armBeacon (ε := ε) granted n.config.syncTimeout
  refine (followBeacon_yields sound header).mono ?_
  rintro out (⟨⟨error, refused⟩, rfl⟩ | ⟨-, restarts⟩)
  · rw [grants] at refused
    cases refused
  · have anchor : Step .anchor _ _ := .anchor (step.same.config ▸ role)
    have armed := anchor.keeps (by decide) (step.keeps (by decide) informed)
    have sync := (restarts.path.lasts (by decide)).2 rfl
    obtain ⟨-, onward⟩ :=
      restarts.path.watches (by decide) (anchor.same.config ▸ step.same.config ▸ role) armed sync
    refine ⟨sync, _, onward n.alarms.now _ ⟨?_, congrArg coarse step.same.now, ?_, live, ?_, ?_⟩⟩
    · exact (Journal.lastRestart?_cons_gridRestarted ..).trans (congrArg some step.same.now)
    · exact Nat.le_of_eq step.same.now.symm
    · rw [anchor.same.config, step.same.config]
      exact Nat.add_mul_div_right _ _ (by decide)
    · rw [anchor.same.now, step.same.now]
      exact Nat.le_add_right ..

/-! ## The watchdog comes -/

omit [Medium M ε] in
/-- Sync that is not stale stays. -/
theorem expireSync_of_not_stale (role : n.config.role = .member coordinator)
    (fresh : ¬ n.config.syncTimeout ≤ n.coarseNow.since n.time.lastSync) : n.expireSync = n := by
  rw [expireSync, role]
  simp [TimeBase.dropStale, TimeBase.isStale, fresh]

theorem watchdogFired_eq (role : n.config.role = .member coordinator) :
    ((n.consumed .beacon).alarmFired .beacon : Except Fault (Reply ε × Node M)) =
      let spent := (n.consumed .beacon).expireSync.spent .beacon
      .ok (if spent.time.synchronized then spent.armBeaconAlarm spent.syncRemaining
        else (.ok (), spent)) := by
  have member : (n.consumed .beacon).expireSync.config.role = .member coordinator :=
    (congrArg Config.role (Step.expire (n := n.consumed .beacon)).same.config).trans role
  rw [alarmFired, beaconAlarmFired]
  dsimp only
  rw [member]
  rfl

/-- An alarm for what is left of the sync watches it. -/
theorem armBeaconAlarm_watches (keeps : n.Keeps .beacon)
    (granted : n.alarms.refusal .beacon = none) (last : n.journal.lastRestart? = some start)
    (lastSync : n.time.lastSync = coarse start) (order : start ≤ n.alarms.now) {delay : Ticks}
    (rest : n.alarms.now / 1000 + delay.toNat = start / 1000 + n.config.syncTimeout.toNat) :
    (n.armBeaconAlarm delay : Reply ε × Node M).2.Watches start
      (n.alarms.upcoming .beacon delay) := by
  have step : Step .armBeacon n (n.armBeaconAlarm delay : Reply ε × Node M).2 := .armBeacon delay
  have same := step.same
  have restarts : (n.armBeaconAlarm delay : Reply ε × Node M).2.journal.lastRestart? =
      n.journal.lastRestart? := by
    rw [Journal.lastRestart?, Journal.lastRestart?, step.adds.collect_eq fun _ writes =>
      JournalEntry.restart?_eq_none writes (by decide)]
  refine ⟨restarts.trans last, (congrArg _ (step.kept.time (by decide))).trans lastSync,
    same.now ▸ order, (keeps.armBeacon granted delay).2, ?_, ?_⟩
  · rw [same.config, ← rest]
    exact Nat.add_mul_div_right _ _ (by decide)
  · rw [same.now]
    exact Nat.le_add_right ..

/-- A watchdog that comes early watches on, for the rest of the sync and no less. One
that comes in its millisecond ends the sync and leaves the grid. -/
theorem watchdogFired_watches (keeps : n.Keeps .beacon)
    (granted : n.alarms.refusal .beacon = none) (role : n.config.role = .member coordinator)
    (sync : n.time.synchronized = true) (h : n.Watches start k) :
    Yields ((n.consumed .beacon).alarmFired .beacon : Except Fault (Reply ε × Node M)) fun out =>
      if n.alarms.now / 1000 < k.due / 1000 then
        out.2.time = n.time ∧ ∃ again, out.2.Watches start again ∧ 0 < again.delay.toNat
      else out.2.time = { n.time with synchronized := false } := by
  rw [watchdogFired_eq role, Yields.ok_iff]
  dsimp only
  have fired := keeps.fired .beacon
  have stale := h.stale_iff
  split
  · next early =>
    have lasts : (n.consumed .beacon).expireSync = n.consumed .beacon :=
      expireSync_of_not_stale role (by rw [← Nat.not_le, ← stale] at early; exact early)
    rw [lasts] at fired ⊢
    have remaining : ((n.consumed .beacon).spent .beacon).syncRemaining.toNat =
        k.due / 1000 - n.alarms.now / 1000 := by
      show (n.config.syncTimeout.subSat (n.coarseNow.since n.time.lastSync)).toNat = _
      have order := h.order
      rw [Ticks.toNat_subSat, h.toNat_since, h.due]
      omega
    rw [if_pos (show ((n.consumed .beacon).spent .beacon).time.synchronized = true from sync)]
    refine ⟨(Step.armBeacon _).kept.time (by decide), _,
      armBeaconAlarm_watches fired granted h.last h.lastSync h.order ?_, ?_⟩
    · rw [remaining]
      exact (Nat.add_sub_cancel' (Nat.le_of_lt early)).trans h.due
    · exact Nat.lt_of_lt_of_eq (Nat.sub_pos_of_lt early) remaining.symm
  · next late =>
    have ended : (n.consumed .beacon).expireSync.time = { n.time with synchronized := false } := by
      rcases (n.consumed .beacon).expireSync_time with kept | ⟨-, time⟩
      · have lost := expireSync_ends (n := n.consumed .beacon) role fun _ =>
          stale.mpr (Nat.not_lt.mp late)
        rw [kept] at lost
        exact absurd (lost.symm.trans sync) nofun
      · exact time
    have off : ((n.consumed .beacon).expireSync.spent .beacon).time.synchronized = false :=
      congrArg TimeBase.synchronized ended
    rw [off]
    exact ended

/-! ## One stimulus -/

/-- What holds of a member between stimuli, with a host that is watchful. -/
structure Guarded (n : Node M) : Prop where
  keeps : n.Keeps .beacon
  granted : n.alarms.refusal .beacon = none
  watched : n.Watched

/-- The time reference that a stimulus brings, if it does. -/
def hears? (n : Node M) : Stimulus M → Option Header
  | .operate (.receive bytes) => n.heard? bytes
  | _ => none

theorem Path.guarded (path : Path kinds n m)
    (other : ∀ d ∈ kinds, d ∉ [.armBeacon, .anchor, .spendBeacon] := by decide)
    (role : n.config.role = .member coordinator) (h : n.Guarded) : m.Guarded := by
  refine ⟨path.keepsAlarm (fun mem => other _ mem (by decide)) h.keeps,
    (congrFun path.refusal _).trans h.granted, path.watched other role h.keeps h.watched⟩

theorem perform_guarded (sound : n.Sound) (h : n.Guarded)
    (role : n.config.role = .member coordinator) {operation : Operation}
    (other : operation ≠ .alarmFired .beacon) :
    Yields (n.perform operation) fun out => out.2.Guarded := by
  have aside (starts : operation ≠ .start)
      (unheard : ∀ bytes, operation = .receive bytes → n.heard? bytes = none) :
      Yields (n.perform operation) fun out => out.2.Guarded := by
    apply (perform_aside sound starts other unheard).mono
    rintro out ⟨kinds, calm, path⟩
    exact path.guarded (fun d mem => mt (by simp +contextual) (calm d mem)) role h
  cases operation with
  | start =>
    have path := n.start_path (ε := ε)
    exact Yields.ok_iff.mpr ⟨path.keepsAlarm (by decide) h.keeps,
      (congrFun path.refusal _).trans h.granted, .of_unsynchronized (start_unsynchronized role)⟩
  | receive bytes =>
    rcases receive_cases (ε := ε) n bytes with ⟨header, heard, same⟩ | ⟨unheard, -⟩
    · rw [perform, same]
      refine ((followBeacon_path sound header role).and
        (followBeacon_watches sound h.keeps h.granted header role)).bind ?_
      rintro out ⟨path, -, k, watches⟩
      exact Yields.pure_iff.mpr ⟨path.keepsAlarm (by decide) h.keeps,
        (congrFun path.refusal _).trans h.granted, fun _ => ⟨_, k, watches⟩⟩
    · exact aside (by simp) (by simp [unheard])
  | _ => exact aside (by simp) (by simp)

omit [Medium M ε] in
/-- Changes of the host that leave the clock and the watchdog alone. -/
theorem Guarded.amid (h : n.Guarded) {alarms : AlarmClock} (medium : M)
    (keeps : (n.amid alarms medium).Keeps .beacon) (granted : alarms.refusal .beacon = none)
    (pending : alarms.pending .beacon = n.alarms.pending .beacon)
    (now : alarms.now = n.alarms.now) : (n.amid alarms medium).Guarded := by
  refine ⟨keeps, granted, fun sync => ?_⟩
  obtain ⟨start, k, watches⟩ := h.watched sync
  exact ⟨start, k, watches.last, watches.lastSync, now ▸ watches.order,
    pending.trans watches.live, watches.due, now ▸ watches.ahead⟩

omit [Medium M ε] in
theorem Guarded.consumed (h : n.Guarded) : (n.consumed .slot).Guarded :=
  h.amid n.medium (h.keeps.consume_other (by decide)) h.granted
    (pending_consume_other _ (by decide)) rfl

omit [Medium M ε] in
/-- Time goes on no further than to the watchdog. -/
theorem Guarded.elapse (h : n.Guarded) {time : Nat} (order : n.alarms.now ≤ time)
    (ahead : ∀ k ∈ n.alarms.live, k.kind = .beacon → time ≤ k.due) :
    (n.setClock time).Guarded := by
  have distinct := h.keeps.distinct
  refine ⟨h.keeps.congr ⟨distinct.nodup, distinct.fresh⟩ rfl rfl (held_congr rfl rfl), h.granted,
    fun sync => ?_⟩
  obtain ⟨start, k, watches⟩ := h.watched sync
  have mem : k ∈ n.alarms.pending .beacon := by simp [watches.live]
  obtain ⟨live, kind⟩ := mem_pending.mp mem
  exact ⟨start, k, watches.last, watches.lastSync, watches.order.trans order, watches.live,
    watches.due, ahead k live kind⟩

/-- What becomes of the sync when the host lets the watchdog come. -/
theorem undergo_watchdog (h : n.Guarded) (role : n.config.role = .member coordinator)
    (sync : n.time.synchronized = true) (watches : n.Watches start k) :
    Yields (n.undergo (.fire .beacon)) fun out =>
      if n.alarms.now / 1000 < k.due / 1000 then
        out.2.time = n.time ∧ ∃ again, out.2.Watches start again ∧ 0 < again.delay.toNat
      else out.2.time = { n.time with synchronized := false } := by
  refine undergo_fire (Q := fun m => if n.alarms.now / 1000 < k.due / 1000 then
    m.time = n.time ∧ ∃ again, m.Watches start again ∧ 0 < again.delay.toNat
    else m.time = { n.time with synchronized := false }) ?_ ?_
  · intro none
    have live : k ∈ n.alarms.pending .beacon := by simp [watches.live]
    obtain ⟨mem, kind⟩ := List.mem_filter.mp live
    exact absurd kind (List.find?_eq_none.mp none k mem)
  · intro _ _
    exact watchdogFired_watches h.keeps h.granted role sync watches

theorem watchdogFired_guarded (sound : n.Sound) (h : n.Guarded)
    (role : n.config.role = .member coordinator) :
    Yields ((n.consumed .beacon).alarmFired .beacon : Except Fault (Reply ε × Node M)) fun out =>
      out.2.Guarded := by
  have watched : Yields
      ((n.consumed .beacon).alarmFired .beacon : Except Fault (Reply ε × Node M)) fun out =>
        out.2.Watched := by
    by_cases sync : n.time.synchronized = true
    · obtain ⟨start, k, watches⟩ := h.watched sync
      refine (watchdogFired_watches h.keeps h.granted role sync watches).mono fun out comes => ?_
      split at comes
      · obtain ⟨-, again, watches, -⟩ := comes
        exact fun _ => ⟨start, again, watches⟩
      · exact .of_unsynchronized (congrArg TimeBase.synchronized comes)
    · exact (watchdogFired_unsynchronized role fun now => absurd now sync).mono fun _ =>
        .of_unsynchronized
  have inOrder : (n.consumed .beacon).Sound := sound.amid _ _
  refine ((alarmFired_spent inOrder .beacon).and watched).mono ?_
  rintro out ⟨⟨path, -⟩, watched⟩
  refine ⟨path.keepsAlarm (by simp only [firing]; decide) (h.keeps.fired .beacon), ?_, watched⟩
  rw [path.refusal, spent_alarms, (expireSync_held _).1]
  exact h.granted

theorem undergo_guarded (sound : n.Sound) (h : n.Guarded)
    (role : n.config.role = .member coordinator) {stimulus : Stimulus M}
    (watchful : n.Watchful stimulus) :
    Yields (n.undergo stimulus) fun out => out.2.Guarded := by
  cases stimulus with
  | operate operation =>
    refine (perform_guarded sound h role ?_).bind fun _ done => Yields.pure_iff.mpr done
    rintro rfl
    exact watchful
  | fire kind =>
    refine undergo_fire (Q := Guarded) (fun _ => h) fun _ _ => ?_
    cases kind with
    | slot =>
      refine (alarmFired_yields (sound.amid _ _) .slot).mono fun _ done => ?_
      refine done.1.guarded ?_ role h.consumed
      rw [deeds, firing]
      split <;> decide
    | beacon => exact watchdogFired_guarded sound h role
  | lose kind =>
    cases kind with
    | slot => exact Yields.ok_iff.mpr h.consumed
    | beacon => exact watchful.elim
  | clock time => exact Yields.ok_iff.mpr (h.elapse watchful.1 watchful.2)
  | refuse kind error =>
    have live := n.alarms.refuse_live kind error
    have next := n.alarms.refuse_nextHandle kind error
    have distinct : (n.alarms.refuse kind error).Distinct :=
      ⟨live ▸ h.keeps.distinct.nodup, next ▸ live ▸ h.keeps.distinct.fresh⟩
    have pending : (n.alarms.refuse kind error).pending .beacon = n.alarms.pending .beacon := by
      rw [AlarmClock.pending, live, AlarmClock.pending]
    have granted : (n.alarms.refuse kind error).refusal .beacon = none := by
      cases kind with
      | slot => exact h.granted
      | beacon => exact watchful
    exact Yields.ok_iff.mpr (h.amid n.medium (h.keeps.congr distinct pending next rfl) granted
      pending (n.alarms.refuse_now kind error))
  | medium medium =>
    have keeps : (n.amid n.alarms medium).Keeps .beacon :=
      h.keeps.congr h.keeps.distinct rfl rfl (held_congr rfl rfl)
    exact Yields.ok_iff.mpr (h.amid medium keeps h.granted rfl rfl)

/-! ## The last beacon -/

/-- A member starts its grid anew with a beacon only. -/
theorem Path.lastRestart?_eq (path : Path kinds n m) (other : .anchor ∉ kinds)
    (role : n.config.role = .member coordinator) :
    m.journal.lastRestart? = n.journal.lastRestart? := by
  have kept : m.config.role = .member coordinator ∧
      m.journal.lastRestart? = n.journal.lastRestart? := by
    refine path.keeps (P := fun j => j.config.role = .member coordinator ∧
      j.journal.lastRestart? = n.journal.lastRestart?) ?_ ⟨role, rfl⟩
    rintro a b d mem step ⟨member, so_far⟩
    refine ⟨step.same.config ▸ member, ?_⟩
    have plain : d ∉ [.emit, .anchor] := by
      intro restarts
      simp only [List.mem_cons, List.not_mem_nil, or_false] at restarts
      rcases restarts with rfl | rfl
      · cases step with
        | emit coordinates => exact nomatch member.symm.trans coordinates
        | emitRefused coordinates => exact nomatch member.symm.trans coordinates
      · exact other mem
    rw [← so_far, Journal.lastRestart?, Journal.lastRestart?, step.adds.collect_eq fun _ writes =>
      JournalEntry.restart?_eq_none writes plain]
  exact kept.2

omit [Medium M ε] in
theorem hears?_eq_some_iff {stimulus : Stimulus M} {header : Header} :
    n.hears? stimulus = some header ↔
      ∃ bytes, stimulus = .operate (.receive bytes) ∧ n.heard? bytes = some header := by
  unfold hears?
  split
  · simp
  · next other =>
    simp only [reduceCtorEq, false_iff]
    rintro ⟨bytes, is, -⟩
    exact other bytes is

/-- A beacon that is heard is the last one from then on. -/
theorem undergo_heard (sound : n.Sound) (h : n.Guarded)
    (role : n.config.role = .member coordinator) {bytes : List UInt8} {header : Header}
    (heard : n.heard? bytes = some header) :
    Yields (n.undergo (.operate (.receive bytes))) fun out =>
      out.2.isSynchronized = true ∧ out.2.journal.lastRestart? = some n.alarms.now := by
  rcases receive_cases (ε := ε) n bytes with ⟨_, again, same⟩ | ⟨none, -⟩
  · have received : Yields (n.perform (.receive bytes)) fun out =>
        out.2.isSynchronized = true ∧ out.2.journal.lastRestart? = some n.alarms.now := by
      rw [perform, same]
      refine (followBeacon_watches sound h.keeps h.granted _ role).bind ?_
      rintro out ⟨sync, k, watches⟩
      exact Yields.pure_iff.mpr ⟨sync, watches.last⟩
    exact received.bind fun _ done => Yields.pure_iff.mpr done
  · rw [none] at heard
    cases heard

/-- Nothing else takes its place. -/
theorem undergo_unheard (sound : n.Sound) (role : n.config.role = .member coordinator)
    {stimulus : Stimulus M} (unheard : n.hears? stimulus = none) :
    Yields (n.undergo stimulus) fun out =>
      out.2.journal.lastRestart? = n.journal.lastRestart? := by
  refine undergo_yields (Q := fun _ k => k.journal.lastRestart? = n.journal.lastRestart?)
    (fun _ _ _ => rfl) ?_
  intro alarms medium operation leads
  have inOrder := sound.amid alarms medium
  have performed := (perform_yields inOrder operation).mono fun _ done => done.1
  cases operation with
  | receive bytes =>
    have same : n.hears? stimulus = (n.amid alarms medium).heard? bytes := by
      cases stimulus with
      | operate operation =>
        cases leads
        rfl
      | _ => cases leads
    rcases receive_cases (ε := ε) (n.amid alarms medium) bytes with ⟨_, heard, -⟩ | ⟨-, path⟩
    · rw [← same, unheard] at heard
      cases heard
    · exact path.bind fun _ path => Yields.pure_iff.mpr (path.lastRestart?_eq (by decide) role)
  | alarmFired kind =>
    refine performed.mono fun _ path => path.lastRestart?_eq ?_ role
    exact fun anchors => absurd (deeds_alarmFired _ kind anchors) (by decide)
  | _ => exact performed.mono fun _ path => path.lastRestart?_eq (by simp [deeds]) role

/-! ## Counting what is lost -/

/-- Whether sync was lost over a stimulus, other than by a start. -/
def Lapses (n : Node M) (stimulus : Stimulus M) (m : Node M) : Prop :=
  stimulus.operation? ≠ some .start ∧ n.isSynchronized = true ∧ m.isSynchronized = false

instance (n : Node M) (stimulus : Stimulus M) (m : Node M) : Decidable (n.Lapses stimulus m) :=
  inferInstanceAs (Decidable (_ ∧ _))

/-- How often sync is lost over stimuli. -/
def lapses (n : Node M) : List (Stimulus M) → Nat
  | [] => 0
  | stimulus :: rest =>
    match n.undergo stimulus with
    | .error _ => 0
    | .ok (_, m) => (if n.Lapses stimulus m then 1 else 0) + m.lapses rest

omit [Medium M ε] in
/-- An expiry counts the sync that it ends, and it ends that of a member only. -/
theorem expireSync_counts (n : Node M) :
    n.expireSync.isSynchronized = n.isSynchronized ∧
        n.expireSync.stats.syncLost = n.stats.syncLost ∨
      ((∃ coordinator, n.config.role = .member coordinator) ∧ n.isSynchronized = true ∧
        n.expireSync.isSynchronized = false ∧
        n.expireSync.stats.syncLost = n.stats.syncLost.bump) := by
  simp only [isSynchronized]
  rw [expireSync]
  split
  · next coordinator role =>
    rw [TimeBase.dropStale]
    split
    · next ends =>
      split at ends <;> cases ends
      next stale =>
        simp only [TimeBase.isStale, Bool.and_eq_true] at stale
        exact .inr ⟨⟨coordinator, role⟩, stale.1, rfl, rfl⟩
    · next keeps =>
      split at keeps <;> cases keeps
      exact .inl ⟨rfl, rfl⟩
  · exact .inl ⟨rfl, rfl⟩

/-- Nothing but a beacon brings a member into sync. -/
theorem Path.gains (path : Path kinds n m) (other : .anchor ∉ kinds := by decide)
    (role : n.config.role = .member coordinator) (sync : m.time.synchronized = true) :
    n.time.synchronized = true := by
  have kept : m.config.role = .member coordinator ∧
      (m.time.synchronized = true → n.time.synchronized = true) := by
    refine path.keeps (P := fun j => j.config.role = .member coordinator ∧
      (j.time.synchronized = true → n.time.synchronized = true)) ?_ ⟨role, id⟩
    rintro a b d mem step ⟨member, so_far⟩
    refine ⟨step.same.config ▸ member, fun sync => so_far ?_⟩
    rcases step.grid_cases with ended | ⟨rfl | coordinates, -⟩ | ⟨⟨-, -, before⟩, -⟩
    · rw [ended] at sync
      cases sync
    · exact absurd mem other
    · exact nomatch member.symm.trans coordinates
    · exact before sync
  exact kept.2 sync

/-- What an operation counts that begins with a look at the sync. -/
theorem Path.counts (path : Path kinds n.expireSync m)
    (other : ∀ d ∈ kinds, d ∉ [.start, .expire, .anchor]) :
    m.stats.syncLost =
      if n.isSynchronized = true ∧ m.isSynchronized = false then n.stats.syncLost.bump
      else n.stats.syncLost := by
  obtain ⟨counted, lasts⟩ := path.lasts fun d mem => by
    have plain := other d mem
    grind
  rcases n.expireSync_counts with ⟨sync, same⟩ | ⟨⟨coordinator, role⟩, sync, ended, bumped⟩
  · rw [counted, same, if_neg]
    rintro ⟨before, after⟩
    exact nomatch after.symm.trans (lasts (sync.trans before))
  · rw [counted, bumped, if_pos]
    refine ⟨sync, ?_⟩
    have member : n.expireSync.config.role = .member coordinator :=
      (congrArg Config.role (Step.expire (n := n)).same.config).trans role
    rw [← Bool.not_eq_true]
    intro after
    have before := path.gains (fun mem => other _ mem (by decide)) member after
    exact nomatch ended.symm.trans before

theorem perform_counts (sound : n.Sound) (operation : Operation) :
    Yields (n.perform operation) fun out =>
      out.2.stats.syncLost =
        if operation ≠ .start ∧ n.isSynchronized = true ∧ out.2.isSynchronized = false then
          n.stats.syncLost.bump
        else n.stats.syncLost := by
  have quiet {kinds : List Deed} (path : Yields (n.perform operation) fun out => Path kinds n out.2)
      (calm : ∀ d ∈ kinds, d ∉ [.start, .expire] := by simp only [deeds]; decide) :
      Yields (n.perform operation) fun out => out.2.stats.syncLost =
        if operation ≠ .start ∧ n.isSynchronized = true ∧ out.2.isSynchronized = false then
          n.stats.syncLost.bump
        else n.stats.syncLost := by
    refine path.mono fun out path => ?_
    obtain ⟨counted, lasts⟩ := path.lasts calm
    rw [counted, if_neg]
    rintro ⟨-, before, after⟩
    exact nomatch after.symm.trans (lasts before)
  have performed := (perform_yields sound operation).mono fun _ done => done.1
  cases operation with
  | start =>
    refine Yields.ok_iff.mpr ?_
    rw [if_neg (by simp)]
    refine (n.start_path (ε := ε)).keeps (P := fun j => j.stats.syncLost = n.stats.syncLost) ?_ rfl
    exact fun mem step so_far => (step.kept.syncLost (by rintro rfl; simp at mem)).trans so_far
  | send token destination bytes =>
    refine (send_sends sound token destination bytes).bind fun out sent => Yields.pure_iff.mpr ?_
    cases sent with
    | long => simp
    | captured payload same path =>
      have captured : Path [.capture, .align, .draw, .offer, .armSlot] n.expireSync _ :=
        (Step.capture _).path.trans (path.mono (by decide))
      simpa using captured.counts (by decide)
  | alarmFired kind =>
    refine (alarmFired_spent sound kind).bind ?_
    rintro out ⟨path, -⟩
    have spent : Path (.spend kind :: n.firing kind) n.expireSync (n.expireSync.spent kind) := by
      cases kind with
      | slot => exact Step.spendSlot.path (by simp [Deed.spend])
      | beacon => exact Step.spendBeacon.path (by simp [Deed.spend])
    have calm : ∀ d ∈ .spend kind :: n.firing kind, d ∉ [.start, .expire, .anchor] := by
      cases kind with
      | slot =>
        rw [firing]
        split <;> decide
      | beacon =>
        rw [firing]
        decide
    have counts := (spent.trans (path.mono (List.subset_cons_self ..))).counts calm
    exact Yields.pure_iff.mpr (by simpa using counts)
  | _ => exact quiet performed

/-- Each loss of sync is counted, and nothing else. -/
theorem undergo_counts (sound : n.Sound) (stimulus : Stimulus M) :
    Yields (n.undergo stimulus) fun out => out.2.stats.syncLost =
      if n.Lapses stimulus out.2 then n.stats.syncLost.bump else n.stats.syncLost := by
  refine undergo_yields (Q := fun _ m => m.stats.syncLost =
    if n.Lapses stimulus m then n.stats.syncLost.bump else n.stats.syncLost) ?_ ?_
  · intro _ alarms medium
    rw [if_neg]
    · rfl
    · rintro ⟨-, before, after⟩
      exact nomatch after.symm.trans before
  · intro alarms medium operation leads
    refine (perform_counts (sound.amid alarms medium) operation).mono fun out counts => ?_
    exact counts.trans (if_congr (and_congr_left' (by simp [leads])) rfl rfl)

theorem course_counts (sound : n.Sound) (stimuli : List (Stimulus M)) :
    Yields (n.course stimuli) fun out =>
      out.2.stats.syncLost.toNat =
        min (n.stats.syncLost.toNat + n.lapses stimuli) (2 ^ 32 - 1) := by
  induction stimuli generalizing n with
  | nil =>
    have short := n.stats.syncLost.toNat_lt
    refine Yields.ok_iff.mpr ?_
    simp only [lapses]
    omega
  | cons stimulus rest ih =>
    obtain ⟨⟨answer, m⟩, done, counts, inOrder⟩ :=
      (undergo_counts sound stimulus).and (undergo_sound sound stimulus)
    rw [course, done]
    refine (ih inOrder).bind fun out counted => Yields.pure_iff.mpr ?_
    have lapses : n.lapses (stimulus :: rest) =
        (if n.Lapses stimulus m then 1 else 0) + m.lapses rest := by
      rw [Node.lapses, done]
    dsimp only at counts counted
    rw [lapses, counted, counts]
    by_cases lapsed : n.Lapses stimulus m
    · rw [if_pos lapsed, if_pos lapsed, Counter.toNat_bump]
      omega
    · rw [if_neg lapsed, if_neg lapsed]
      omega

end Medium

end Node

open Node

/-- As long as the host grants every beacon alarm and lets none come later than it is
due, a member in sync has exactly one to come, and that is due, in whole milliseconds,
when the sync by the last beacon times out; until then the clock does not pass it.
If it comes in an earlier millisecond it changes neither the sync nor the grid, and
another one is armed, with a delay, for the same millisecond. If it comes in its own it
ends the sync and keeps the grid. The last beacon is the last one that was heard. Each
loss of sync other than by a start is counted once, until the counter is full.

Slot alarms may do what they like meanwhile. -/
theorem sync_watched {M ε : Type} [Medium M ε] {config : Config} (valid : config.Valid)
    {coordinator : Address} (role : config.role = .member coordinator) (address : Address)
    (medium : M) {alarms : AlarmClock} (unused : alarms.live = [])
    (granted : alarms.refusal .beacon = none) (words : WordSource)
    (stimuli : List (Stimulus M)) (stimulus : Stimulus M)
    (watchful : (fresh address config medium alarms words).Obeys Watchful (stimuli ++ [stimulus])) :
    ∃ answers n answer m,
      lifetime address config medium alarms words stimuli = .ok (.ok (answers, n)) ∧
      n.undergo stimulus = .ok (answer, m) ∧
      (n.isSynchronized = true → ∃ start k, n.journal.lastRestart? = some start ∧
        n.alarms.live.filter (·.kind == .beacon) = [k] ∧
        k.due / 1000 = start / 1000 + config.syncTimeout.toNat ∧ n.alarms.now ≤ k.due ∧
        (stimulus = .fire .beacon →
          if n.alarms.now / 1000 < k.due / 1000 then
            m.time = n.time ∧ ∃ again, m.alarms.live.filter (·.kind == .beacon) = [again] ∧
              0 < again.delay.toNat ∧ again.due / 1000 = k.due / 1000
          else m.time = { n.time with synchronized := false })) ∧
      (if (n.hears? stimulus).isSome then
        m.isSynchronized = true ∧ m.journal.lastRestart? = some n.alarms.now
      else m.journal.lastRestart? = n.journal.lastRestart?) ∧
      (m.stats.syncLost =
        if n.Lapses stimulus m then n.stats.syncLost.bump else n.stats.syncLost) ∧
      n.stats.syncLost.toNat =
        min ((fresh address config medium alarms words).lapses stimuli) (2 ^ 32 - 1) := by
  have fresh_sound := fresh_sound valid address medium alarms words
  have step (n : Node M) (stimulus : Stimulus M) (sound : n.Sound)
      (kept : n.Guarded ∧ n.config = config) (watchful : n.Watchful stimulus) :
      Yields (n.undergo stimulus) fun out => out.2.Guarded ∧ out.2.config = config :=
    ((undergo_guarded sound kept.1 (kept.2 ▸ role) watchful).and
      (undergo_config sound stimulus)).mono fun _ done => ⟨done.1, done.2.trans kept.2⟩
  have keeps : (fresh address config medium alarms words).Keeps .beacon :=
    holds_iff.mp (fresh_holds address config medium unused words) .beacon
  obtain ⟨answers, n, done, ⟨guarded, same⟩, sound, ruled, -⟩ :=
    lifetime_obeys (P := fun n => n.Guarded ∧ n.config = config) step valid
      ⟨⟨keeps, granted, .of_unsynchronized rfl⟩, rfl⟩ watchful
  have member : n.config.role = .member coordinator := same ▸ role
  obtain ⟨out, ran, counted⟩ := course_counts fresh_sound stimuli
  cases done.symm.trans (lifetime_of_course valid ran)
  obtain ⟨⟨answer, m⟩, last, counts⟩ := undergo_counts sound stimulus
  refine ⟨answers, n, answer, m, done, last, fun sync => ?_, ?_, counts, ?_⟩
  · obtain ⟨start, k, watches⟩ := guarded.watched sync
    refine ⟨start, k, watches.last, watches.live, same ▸ watches.due, watches.ahead, ?_⟩
    rintro rfl
    have comes := (undergo_watchdog guarded member sync watches).of_ok last
    split at comes
    · next early =>
      obtain ⟨kept, again, anew, later⟩ := comes
      rw [if_pos early]
      refine ⟨kept, again, anew.live, later, ?_⟩
      rw [anew.due, watches.due, (undergo_config sound _).of_ok last]
    · next late =>
      rw [if_neg late]
      exact comes
  · split
    · next heard =>
      obtain ⟨header, heard⟩ := Option.isSome_iff_exists.mp heard
      obtain ⟨bytes, rfl, heard⟩ := hears?_eq_some_iff.mp heard
      exact (undergo_heard sound guarded member heard).of_ok last
    · next unheard =>
      exact (undergo_unheard sound member (Option.not_isSome_iff_eq_none.mp unheard)).of_ok last
  · rw [counted]
    show min (0 + _) _ = _
    rw [Nat.zero_add]

/-- One beacon, and then nothing. The watchdog comes once long before its time and is
armed again, and the clock goes on into the millisecond in which it is due. -/
def fallingSilent : List (Stimulus RecordingMedium) :=
  [.clock 1000700, .operate (.receive (Frame.timeReference 1 0).bytes), .clock 5000900,
    .fire .beacon, .clock 31000100]

/-- The watchdog that comes then ends the sync, and that is counted. -/
theorem sync_watched_silent :
    ∃ answers n answer m,
      lifetime 3 {} ({} : RecordingMedium) {} (.cycle []) fallingSilent = .ok (.ok (answers, n)) ∧
      n.undergo (.fire .beacon) = .ok (answer, m) ∧ n.isSynchronized = true ∧
      m.time = { n.time with synchronized := false } ∧ m.stats.syncLost = 1 := by
  obtain ⟨answers, n, answer, m, done, last, watched, -, counted, -⟩ :=
    sync_watched Config.valid_default rfl 3 ({} : RecordingMedium)
      (rfl : ({} : AlarmClock).live = []) rfl (.cycle [])
      fallingSilent (.fire .beacon) (by decide +kernel)
  obtain ⟨_, _, same, sync, now, before, none⟩ :
      ∃ answers n,
        lifetime 3 {} ({} : RecordingMedium) {} (.cycle []) fallingSilent =
          .ok (.ok (answers, n)) ∧
        n.isSynchronized = true ∧ n.alarms.now = 31000100 ∧
          n.journal.lastRestart? = some 1000700 ∧ n.stats.syncLost = 0 :=
    exists_lifetime Config.valid_default (by decide +kernel)
  cases done.symm.trans same
  obtain ⟨start, k, heard, -, due, -, comes⟩ := watched sync
  cases before.symm.trans heard
  have inTime : ¬ n.alarms.now / 1000 < k.due / 1000 := by
    rw [now, due]
    decide
  have ended := comes rfl
  rw [if_neg inTime] at ended
  refine ⟨answers, n, answer, m, done, last, sync, ended, ?_⟩
  rw [counted, if_pos ⟨by simp [Stimulus.operation?], sync, congrArg TimeBase.synchronized ended⟩,
    none]
  rfl

end SlottedMac
