import SlottedMac.Proofs.Network.Coordinator
import SlottedMac.Proofs.Network.Member

/-!
# Slots of synchronized stations

Every grid that a beacon stands behind starts at the time of a beacon, and those
times are whole intervals apart, however many beacons a member has missed. As
long as so many intervals are whole periods, give or take a guard, no two
stations in sync are both inside their slots.
-/

namespace SlottedMac

open Node

variable {ι M ε : Type}

namespace Node

variable {n m : Node M} {plan : Plan ι} {x : Station ι} {now e : Nat}

/-- What holds of a station at a time, whatever it has undergone. -/
structure Stationed (plan : Plan ι) (x : Station ι) (now : Nat) (n : Node M) : Prop where
  clock : n.alarms.now = now
  config : n.config = plan.config x
  slot : n.slot = plan.slot x
  sound : n.Sound
  holds : n.Holds
  punctual : n.Punctual

theorem Stationed.elapse (h : n.Stationed plan x now) {time : Nat}
    (due : ∀ k ∈ n.alarms.live, time ≤ k.due) : (n.setClock time).Stationed plan x time where
  clock := rfl
  config := h.config
  slot := h.slot
  sound := h.sound.amid { n.alarms with now := time } n.medium
  holds := h.holds.congr rfl rfl (held_congr rfl rfl)
  punctual := ⟨⟨h.punctual.distinct.nodup, h.punctual.distinct.fresh⟩, due⟩

theorem Stationed.of_fresh {medium : M} {alarms : AlarmClock}
    {words : WordSource} (valid : (plan.config x).Valid) (unused : alarms.live = []) :
    (fresh (plan.address x) (plan.config x) medium alarms words).Stationed plan x alarms.now := by
  have holds := fresh_holds (plan.address x) (plan.config x) medium unused words
  refine ⟨rfl, rfl, rfl, fresh_sound valid _ medium alarms words, holds, ⟨holds.distinct, ?_⟩⟩
  simp [fresh, unused]

theorem Stationed.undergo [Medium M ε] (h : n.Stationed plan x now) {stimulus : Stimulus M}
    (disciplined : stimulus.Disciplined) (still : ∀ time, stimulus ≠ .clock time) :
    Yields (n.undergo stimulus) fun out => out.2.Stationed plan x now := by
  refine ((undergo_sound h.sound stimulus).and ((undergo_holds h.sound h.holds disciplined).and
    (undergo_punctual h.sound still))).mono ?_
  rintro out ⟨sound, holds, same, punctual⟩
  exact ⟨same.now.trans h.clock, same.config.trans h.config, same.slot.trans h.slot, sound, holds,
    punctual h.punctual⟩

theorem Prompt.disciplined {stimulus : Stimulus M} (prompt : n.Prompt stimulus) :
    stimulus.Disciplined ∧ ∀ time, stimulus ≠ .clock time := by
  cases stimulus with
  | operate operation =>
    refine ⟨?_, nofun⟩
    cases operation with
    | alarmFired kind => exact prompt.elim
    | _ => trivial
  | lose kind => exact prompt.elim
  | clock time => exact prompt.elim
  | _ => exact ⟨trivial, nofun⟩

/-- On a grid that started at `e` the phase is that of the time since then. -/
theorem OnGrid.offset_mod (h : n.OnGrid e) (near : n.alarms.now < e + 2 ^ 32) :
    n.offset % n.config.layout.period.toNat =
      (n.alarms.now - e) % n.config.layout.period.toNat := by
  obtain ⟨k, origin, start⟩ := h near
  have offset : n.offset = n.alarms.now - (e + k * n.config.layout.period.toNat) := by
    rw [Node.offset, fineNow, origin]
    exact toNat_since_fine start (by omega)
  have whole : n.alarms.now - e = n.offset + k * n.config.layout.period.toNat := by
    rw [offset]
    omega
  rw [whole, Nat.add_mul_mod_self_right]

end Node

/-- A member never holds sync for more intervals than it may miss beacons. -/
theorem Config.missed_le {c : Config} {start last : Nat} (pauses : c.beaconInterval ≠ 0)
    (order : start ≤ last) (phase : start ≡ last [MOD 1000 * c.beaconInterval.toNat])
    (held : last ≤ start + 1000 * c.syncTimeout.toNat) :
    ∃ missed ≤ c.maxBeaconMisses.toNat,
      last = start + missed * (1000 * c.beaconInterval.toNat) := by
  obtain ⟨missed, passed⟩ := (Nat.modEq_iff_dvd' order).mp phase
  have positive : 0 < 1000 * c.beaconInterval.toNat := by
    have := UInt32.toNat_inj.not.mpr pauses
    simp only [UInt32.toNat_zero] at this
    omega
  have timeout : c.syncTimeout.toNat ≤
      c.beaconInterval.toNat * c.maxBeaconMisses.toNat := by
    rw [Config.syncTimeout, Ticks.toNat_mulSat]
    exact Nat.min_le_left ..
  refine ⟨missed, ?_, ?_⟩
  · apply Nat.le_of_mul_le_mul_left _ positive
    calc 1000 * c.beaconInterval.toNat * missed
        = last - start := passed.symm
      _ ≤ 1000 * c.syncTimeout.toNat := by omega
      _ ≤ 1000 * c.beaconInterval.toNat * c.maxBeaconMisses.toNat := by
        rw [Nat.mul_assoc]
        exact Nat.mul_le_mul_left _ timeout
  · rw [Nat.mul_comm, ← passed]
    omega

namespace Network

variable {plan : Plan ι} {net : Network ι M} {e : Nat}

/-- A network in which everybody knows the time by beacons, the last of which
was sent at the true time `e`. -/
structure InPhase (plan : Plan ι) (e : Nat) (net : Network ι M) : Prop where
  stationed : ∀ x, (net.node x).Stationed plan x net.now
  leads : (net.node .coordinator).Leads e
  trails : ∀ i, (net.node (.member i)).Trails e
  relies : ∀ i, (net.node (.member i)).time.synchronized = true →
    (net.node .coordinator).time.synchronized = true

namespace InPhase

theorem role_coordinator (h : InPhase plan e net) :
    (net.node .coordinator).config.role = .coordinator :=
  congrArg Config.role (h.stationed .coordinator).config

theorem role_member (h : InPhase plan e net) (i : ι) :
    (net.node (.member i)).config.role = .member (plan.address .coordinator) :=
  congrArg Config.role (h.stationed (.member i)).config

theorem of_begins [Medium M ε] (begins : net.Begins plan) : InPhase plan 0 net := by
  have made (x : Station ι) : (net.node x).Stationed plan x net.now ∧
      (net.node x).time = .initial ∧ (net.node x).alarms.live = [] ∧
        (net.node x).beacons = [] := by
    obtain ⟨medium, alarms, words, clock, unused, made⟩ := begins x
    obtain ⟨valid, same⟩ := create_eq_ok_iff.mp made
    rw [same, ← clock]
    exact ⟨.of_fresh valid unused, rfl, unused, rfl⟩
  have ended (x : Station ι) : (net.node x).time.synchronized = false := by
    rw [(made x).2.1]
    rfl
  obtain ⟨-, -, unused, unsent⟩ := made .coordinator
  refine ⟨fun x => (made x).1, ⟨?_, ?_, ?_⟩, fun _ => .of_unsynchronized (ended _), ?_⟩
  · intro now
    cases (ended _).symm.trans now
  · simp [AlarmClock.pending, unused]
  · simp [unsent]
  · intro i now
    cases (ended _).symm.trans now

theorem elapse (h : InPhase plan e net) {time : Nat} (allowed : net.Allowed (.elapse time)) :
    InPhase plan e { now := time, node := fun x => (net.node x).setClock time } := by
  have order (x : Station ι) : (net.node x).alarms.now ≤ time :=
    (h.stationed x).clock ▸ allowed.1
  exact ⟨fun x => (h.stationed x).elapse (allowed.2 x), h.leads.elapse (order _),
    fun i => (h.trails i).elapse (order _), h.relies⟩

/-- The grid of a member in sync started with a beacon no longer ago than its
watchdog allows. -/
theorem member_started (h : InPhase plan e net) {i : ι}
    (now : (net.node (.member i)).time.synchronized = true) :
    ∃ start, start ≤ e ∧ start ≡ e [MOD 1000 * plan.settings.beaconInterval.toNat] ∧
      e ≤ net.now ∧ net.now ≤ start + 1000 * plan.settings.syncTimeout.toNat ∧
        (net.node (.member i)).OnGrid start := by
  have station := h.stationed (.member i)
  obtain ⟨start, order, phase, grid, -, watchdog⟩ := h.trails i now
  have sent := (h.leads.grid (h.relies i now)).2
  rw [(h.stationed .coordinator).clock] at sent
  rw [station.config] at phase watchdog
  have armed : start + 1000 * plan.settings.syncTimeout.toNat ∈
      ((net.node (.member i)).alarms.pending .beacon).map (·.due) := by
    rw [watchdog]
    exact List.mem_singleton_self _
  obtain ⟨callback, live, due⟩ := List.mem_map.mp armed
  have inTime := station.punctual.due callback (List.mem_of_mem_filter live)
  rw [station.clock, due] at inTime
  exact ⟨start, order, phase, sent, inTime, grid⟩

/-- Where the grid of a station in sync started: some intervals before the last
beacon, and recently enough to tell by the counter. -/
theorem started (h : InPhase plan e net) (short : 1000 * plan.settings.syncTimeout.toNat < 2 ^ 32)
    {i : ι} (relied : (net.node (.member i)).time.synchronized = true) {x : Station ι}
    (now : (net.node x).time.synchronized = true) :
    ∃ missed ≤ plan.settings.maxBeaconMisses.toNat, ∃ start,
      e = start + missed * (1000 * plan.settings.beaconInterval.toNat) ∧ start ≤ net.now ∧
        net.now < start + 2 ^ 32 ∧ (net.node x).OnGrid start := by
  cases x with
  | coordinator =>
    obtain ⟨start, order, -, sent, held, -⟩ := h.member_started relied
    exact ⟨0, Nat.zero_le _, e, by omega, sent, by omega, (h.leads.grid now).1⟩
  | member j =>
    have station := h.stationed (.member j)
    obtain ⟨start, order, phase, sent, held, grid⟩ := h.member_started now
    have interval : plan.settings.beaconInterval ≠ 0 := by
      have positive := station.sound.valid.beaconInterval_ne
      rw [station.config] at positive
      exact positive nofun
    obtain ⟨missed, few, last⟩ := Config.missed_le interval order phase (by omega)
    exact ⟨missed, few, start, last, by omega, by omega, grid⟩

variable [DecidableEq ι]

/-- A change of the coordinator that lets no member down. -/
theorem update_coordinator (h : InPhase plan e net) {n : Node M} {e' : Nat}
    (stationed : n.Stationed plan .coordinator net.now) (leads : n.Leads e')
    (lasts : ∀ i, (net.node (.member i)).time.synchronized = true →
      n.time.synchronized = true ∧ e ≤ e' ∧
        e ≡ e' [MOD 1000 * plan.settings.beaconInterval.toNat]) :
    InPhase plan e' (net.update .coordinator n) := by
  have members (i : ι) : (net.update .coordinator n).node (.member i) = net.node (.member i) :=
    update_node_of_ne (by simp) net n
  refine ⟨?_, ?_, ?_, ?_⟩
  · intro x
    cases x with
    | coordinator =>
      rw [update_node_self]
      exact stationed
    | member i =>
      rw [members]
      exact h.stationed (.member i)
  · rw [update_node_self]
    exact leads
  · intro i
    rw [members]
    intro now
    obtain ⟨-, order, phase⟩ := lasts i now
    refine (h.trails i).later order ?_ now
    rw [(h.stationed _).config]
    exact phase
  · intro i now
    rw [members] at now
    rw [update_node_self]
    exact (lasts i now).1

/-- A change of a member that goes by the last beacon, if by any. -/
theorem update_member (h : InPhase plan e net) {i : ι} {n : Node M}
    (stationed : n.Stationed plan (.member i) net.now) (trails : n.Trails e)
    (relies : n.time.synchronized = true → (net.node .coordinator).time.synchronized = true) :
    InPhase plan e (net.update (.member i) n) := by
  have coordinator : (net.update (.member i) n).node .coordinator = net.node .coordinator :=
    update_node_of_ne (by simp) net n
  have others {j : ι} (ne : j ≠ i) :
      (net.update (.member i) n).node (.member j) = net.node (.member j) :=
    update_node_of_ne (by simpa using ne) net n
  refine ⟨?_, ?_, ?_, ?_⟩
  · intro x
    by_cases same : x = .member i
    · subst same
      rw [update_node_self]
      exact stationed
    · rw [update_node_of_ne same]
      exact h.stationed x
  · rw [coordinator]
    exact h.leads
  · intro j
    by_cases same : j = i
    · subst same
      rw [update_node_self]
      exact trails
    · rw [others same]
      exact h.trails j
  · intro j
    rw [coordinator]
    by_cases same : j = i
    · subst same
      rw [update_node_self]
      exact relies
    · rw [others same]
      exact h.relies j

section Medium

variable [Medium M ε] {stimulus : Stimulus M}

theorem coordinator_undergoes (h : InPhase plan e net)
    (allowed : net.Allowed (.undergo .coordinator stimulus))
    (steadfast : net.Steadfast (.undergo .coordinator stimulus)) :
    Yields ((net.node .coordinator).undergo stimulus) fun out =>
      ∃ e', InPhase plan e' (net.update .coordinator out.2) := by
  have station := h.stationed .coordinator
  have quiet : stimulus = .operate .start → (net.node .coordinator).onAir = [] := by
    rintro rfl
    exact (steadfast rfl).2
  obtain ⟨disciplined, still⟩ := Prompt.disciplined allowed
  refine ((station.undergo disciplined still).and
    (undergo_leads station.sound station.holds h.leads h.role_coordinator allowed quiet)).mono ?_
  rintro out ⟨stationed, ⟨rfl, leads⟩ | ⟨e', leads, lasts⟩⟩
  · refine ⟨e, h.update_coordinator stationed leads fun i now => ?_⟩
    exact absurd (((steadfast rfl).1 i).symm.trans now) nofun
  · rw [station.config] at lasts
    exact ⟨e', h.update_coordinator stationed leads fun i now => lasts (h.relies i now)⟩

theorem member_undergoes (h : InPhase plan e net) {i : ι}
    (allowed : net.Allowed (.undergo (.member i) stimulus)) :
    Yields ((net.node (.member i)).undergo stimulus) fun out =>
      InPhase plan e (net.update (.member i) out.2) := by
  have station := h.stationed (.member i)
  obtain ⟨disciplined, still⟩ := Prompt.disciplined allowed
  refine ((station.undergo disciplined still).and
    (undergo_trails station.sound station.holds (h.trails i) (h.role_member i) allowed)).mono ?_
  rintro out ⟨stationed, trails, keeps⟩
  exact h.update_member stationed trails fun now => h.relies i (keeps now)

/-- A member that hears a beacon hears the last one, at the time at which it was
sent. -/
theorem member_hears (h : InPhase plan e net) {i : ι} {frame : Submission}
    (allowed : net.Allowed (.hear i frame)) (watched : net.Watched (.hear i frame)) :
    Yields ((net.node (.member i)).undergo (.operate (.receive frame.bytes))) fun out =>
      InPhase plan e (net.update (.member i) out.2) := by
  have station := h.stationed (.member i)
  obtain ⟨sent, onAir⟩ := List.mem_filter.mp allowed
  obtain ⟨leading, last⟩ := (h.leads.sent frame sent).2 (by simpa using onAir)
  have stays : Yields ((net.node (.member i)).undergo (.operate (.receive frame.bytes)))
      fun out => out.2.Stationed plan (.member i) net.now := station.undergo trivial nofun
  refine (stays.and (undergo_hears station.sound station.holds frame.bytes watched)).mono ?_
  rintro out ⟨stationed, trails⟩
  refine h.update_member stationed ?_ fun _ => leading
  rcases trails with calm | anew
  · exact (h.trails i).calm calm
  · rwa [last, (h.stationed .coordinator).clock, ← station.clock]

/-- Whatever happens under the three rules, beacons stay in phase. -/
theorem apply (h : InPhase plan e net) {move : Move ι M} (allowed : net.Allowed move)
    (steadfast : net.Steadfast move) (watched : net.Watched move) :
    Yields (net.apply move) fun next => ∃ e', InPhase plan e' next := by
  cases move with
  | elapse time => exact Yields.ok_iff.mpr ⟨e, h.elapse allowed⟩
  | undergo x stimulus =>
    cases x with
    | coordinator =>
      exact (h.coordinator_undergoes allowed steadfast).bind fun _ done => Yields.pure_iff.mpr done
    | member i =>
      exact (h.member_undergoes allowed).bind fun _ done => Yields.pure_iff.mpr ⟨e, done⟩
  | hear i frame =>
    exact (h.member_hears allowed watched).bind fun _ done => Yields.pure_iff.mpr ⟨e, done⟩

end Medium

end InPhase

theorem Reachable.inPhase [DecidableEq ι] [Medium M ε] (reachable : Reachable plan Orderly net) :
    ∃ e, InPhase plan e net := by
  induction reachable with
  | begin begins => exact ⟨0, .of_begins begins⟩
  | move move _ ruled done ih =>
    obtain ⟨e, h⟩ := ih
    exact (h.apply ruled.1 ruled.2.1 ruled.2.2).of_ok done

/-- Two stations do not own the same time if one of their grids started a
tolerated shift after the other. -/
theorem InPhase.apart (h : InPhase plan e net) {x y : Station ι} {start_x start_y shift : Nat}
    (own : plan.slot x ≠ plan.slot y) (tolerated : plan.settings.layout.Tolerates shift)
    (shifted : start_x = start_y + shift) (past : start_x ≤ net.now)
    (near : net.now < start_y + 2 ^ 32) (grid_x : (net.node x).OnGrid start_x)
    (grid_y : (net.node y).OnGrid start_y) :
    ¬((net.node x).OwnsNow ∧ (net.node y).OwnsNow) := by
  rintro ⟨owns_x, owns_y⟩
  have station_x := h.stationed x
  have station_y := h.stationed y
  have phase_x := grid_x.offset_mod (by rw [station_x.clock]; omega)
  have phase_y := grid_y.offset_mod (by rw [station_y.clock]; omega)
  have slot_x := station_x.sound.slot_lt
  have slot_y := station_y.sound.slot_lt
  have valid := station_x.sound.valid.layout
  rw [OwnsNow, Layout.owns_congr phase_x, station_x.clock, station_x.config,
    station_x.slot] at owns_x
  rw [OwnsNow, Layout.owns_congr phase_y, station_y.clock, station_y.config,
    station_y.slot] at owns_y
  rw [station_x.config, station_x.slot] at slot_x
  rw [station_y.config, station_y.slot] at slot_y
  rw [station_x.config] at valid
  have passed : net.now - start_y = net.now - start_x + shift := by omega
  rw [passed] at owns_y
  exact own (valid.slot_unique slot_x slot_y tolerated owns_x owns_y)

end Network

open Network

/-- In a network whose hosts let beacons be relied on, no two stations in sync
are both inside their slots, however many beacons were lost. Whole numbers of
intervals, as many as a member may miss, must be whole periods up to a guard,
and a member must not hold sync for longer than the counter takes to wrap. -/
theorem synchronized_apart {ι M ε : Type} [DecidableEq ι] [Medium M ε] {plan : Plan ι}
    {net : Network ι M} (own : Function.Injective plan.slot)
    (tolerated : ∀ missed ≤ plan.settings.maxBeaconMisses.toNat,
      plan.settings.layout.Tolerates (missed * (1000 * plan.settings.beaconInterval.toNat)))
    (short : 1000 * plan.settings.syncTimeout.toNat < 2 ^ 32)
    (reachable : Reachable plan Orderly net) {x y : Station ι} (ne : x ≠ y)
    (sync_x : (net.node x).isSynchronized = true) (sync_y : (net.node y).isSynchronized = true) :
    ∃ p q,
      (net.node x).config.layout.place (net.node x).slot (net.node x).time.origin
          (net.node x).fineNow = .ok p ∧
        (net.node y).config.layout.place (net.node y).slot (net.node y).time.origin
            (net.node y).fineNow = .ok q ∧
        ¬(p.phase = .inside ∧ q.phase = .inside) := by
  obtain ⟨e, h⟩ := reachable.inPhase
  have placed (x : Station ι) := (h.stationed x).sound
  refine ⟨_, _, (placed x).valid.layout.place_eq (placed x).slot_lt _ _,
    (placed y).valid.layout.place_eq (placed y).slot_lt _ _, ?_⟩
  show ¬((net.node x).view.phase = .inside ∧ (net.node y).view.phase = .inside)
  rw [view_inside_iff, view_inside_iff]
  obtain ⟨i, relied⟩ : ∃ i, (net.node (.member i)).time.synchronized = true := by
    cases x with
    | member i => exact ⟨i, sync_x⟩
    | coordinator =>
      cases y with
      | member i => exact ⟨i, sync_y⟩
      | coordinator => exact absurd rfl ne
  obtain ⟨missed_x, few_x, start_x, last_x, past_x, near_x, grid_x⟩ := h.started short relied sync_x
  obtain ⟨missed_y, few_y, start_y, last_y, past_y, near_y, grid_y⟩ := h.started short relied sync_y
  have shifted {a b m k interval : Nat} (first : e = a + m * interval)
      (second : e = b + k * interval) (fewer : m ≤ k) : a = b + (k - m) * interval := by
    have := Nat.mul_le_mul_right interval fewer
    rw [Nat.sub_mul]
    omega
  rcases Nat.le_total missed_x missed_y with fewer | fewer
  · exact h.apart (own.ne ne) (tolerated _ (by omega)) (shifted last_x last_y fewer) past_x near_y
      grid_x grid_y
  · rw [and_comm]
    exact h.apart (own.ne ne.symm) (tolerated _ (by omega)) (shifted last_y last_x fewer) past_y
      near_x grid_y grid_x

/-- A coordinator at address 0 with one member. -/
def Plan.pair (settings : Config) (address : Address) : Plan Unit where
  settings
  address
    | .coordinator => 0
    | .member _ => address

/-- A beacon of that coordinator, sent on a grid with this origin. -/
def Network.beacon (seq : UInt8) (time : Nat) (origin : Ticks) (synchronized : Bool) :
    Submission where
  channel := .beacon
  bytes := (Frame.timeReference 0 seq).bytes
  accepted := true
  time
  origin
  synchronized
  queued := none

/-- The first beacon is heard, and those at the given times are lost. -/
def Network.hearOnce (times : List Nat) : List (Move Unit RecordingMedium) :=
  [.undergo .coordinator (.operate .start), .elapse 1000000, .undergo .coordinator (.fire .beacon),
    .hear () (beacon 0 1000000 0 false)] ++
  times.flatMap fun time => [.elapse time, .undergo .coordinator (.fire .beacon)]

theorem Plan.pair_valid {settings : Config} {address : Address}
    (checked : ∀ x, ((pair settings address).config x).check = .ok ()) (x : Station Unit) :
    ((pair settings address).config x).Valid := Config.check_eq_ok_iff.mp (checked x)

theorem Plan.pair_own {settings : Config} {address : Address}
    (own : 0 % settings.layout.slotCount ≠ address % settings.layout.slotCount) :
    Function.Injective (pair settings address).slot := by
  intro x y same
  cases x with
  | coordinator =>
    cases y with
    | coordinator => rfl
    | member => exact absurd same own
  | member =>
    cases y with
    | coordinator => exact absurd same.symm own
    | member => rfl

/-- A member that has missed two beacons is still apart from the coordinator. -/
theorem synchronized_apart_missed :
    ∃ net : Network Unit RecordingMedium, Reachable (.pair {} 3) Orderly net ∧
      (∀ x, (net.node x).isSynchronized = true) ∧
      ∃ p q,
        (net.node .coordinator).config.layout.place (net.node .coordinator).slot
            (net.node .coordinator).time.origin (net.node .coordinator).fineNow = .ok p ∧
          (net.node (.member ())).config.layout.place (net.node (.member ())).slot
              (net.node (.member ())).time.origin (net.node (.member ())).fineNow = .ok q ∧
          ¬(p.phase = .inside ∧ q.phase = .inside) := by
  obtain ⟨net, reachable, sync⟩ : ∃ net : Network Unit RecordingMedium,
      Reachable (.pair {} 3) Orderly net ∧ ∀ x, (net.node x).isSynchronized = true :=
    exists_reachable (Plan.pair_valid (by decide +kernel)) (hearOnce [11000000, 21000000])
      (by decide +kernel)
  refine ⟨net, reachable, sync, ?_⟩
  exact synchronized_apart (Plan.pair_own (by decide)) (by decide +kernel) (by decide +kernel)
    reachable (by decide) (sync _) (sync _)

/-- A coordinator and a member in sync that are both inside their slots. -/
def Network.Collides (net : Network Unit RecordingMedium) : Prop :=
  ∀ x, (net.node x).isSynchronized = true ∧
    ((net.node x).config.layout.place (net.node x).slot (net.node x).time.origin
      (net.node x).fineNow).map Placement.phase = .ok .inside

instance (net : Network Unit RecordingMedium) : Decidable net.Collides :=
  inferInstanceAs (Decidable (∀ _, _ ∧ _))

/-- Stations with slots of their own that come to own the same time. -/
def Network.Clash (plan : Plan Unit)
    (rule : Network Unit RecordingMedium → Move Unit RecordingMedium → Prop) : Prop :=
  Function.Injective plan.slot ∧ ∃ net, Reachable plan rule net ∧ net.Collides

/-- Stations in sync do not stay apart where the intervals are no whole periods,
where sync outlasts the counter, where the coordinator is started anew, or where
a member that hears a beacon is refused its watchdog. -/
theorem synchronized_clash :
    Clash (.pair { beaconInterval := 10500 } 3) Orderly ∧
      Clash (.pair { beaconInterval := 2000000 } 1) Orderly ∧
      Clash (.pair {} 3) (fun net move => net.Allowed move ∧ net.Watched move) ∧
      Clash (.pair { beaconInterval := 2000000, maxBeaconMisses := 1 } 1)
        (fun net move => net.Allowed move ∧ net.Steadfast move) := by
  refine ⟨⟨Plan.pair_own (by decide), ?_⟩, ⟨Plan.pair_own (by decide), ?_⟩,
    ⟨Plan.pair_own (by decide), ?_⟩, ⟨Plan.pair_own (by decide), ?_⟩⟩
  · exact exists_reachable (Plan.pair_valid (by decide +kernel)) (hearOnce [11500000])
      (by decide +kernel)
  · exact exists_reachable (Plan.pair_valid (by decide +kernel))
      (hearOnce [2001000000, 4001000000] ++ [.elapse 4296140000]) (by decide +kernel)
  · exact exists_reachable (Plan.pair_valid (by decide +kernel))
      (hearOnce [] ++ [.elapse 1500000, .undergo .coordinator (.operate .start), .elapse 2500000,
        .undergo .coordinator (.fire .beacon)]) (by decide +kernel)
  · exact exists_reachable (Plan.pair_valid (by decide +kernel))
      (hearOnce [] ++ [.undergo (.member ()) (.refuse .beacon (some .exhausted)),
        .elapse 2001000000, .undergo .coordinator (.fire .beacon),
        .hear () (beacon 1 2001000000 1000000 true), .elapse 4001000000,
        .undergo .coordinator (.fire .beacon), .elapse 4296140000]) (by decide +kernel)

end SlottedMac
