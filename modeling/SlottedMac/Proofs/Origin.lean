import SlottedMac.Proofs.Access
import SlottedMac.Proofs.OnTime

/-!
# Where the grid counts from

A grid is known by a counter reading, which tells a true time only up to the
range of the counter. A node that looks at its grid moves it on in time, and what
makes it look is its slot alarm. But that alarm is first asked for when the first
frame is taken over. Until then nothing is looked at, and as many whole ranges of
the counter as go by from the start of the grid are lost on the node.

So there are two kinds of states. Before the first frame the start of the grid is
the reading at which it was started. From then on the grid counts from the true
time of that start, short of what went by unseen, and it does so for good: the
slot alarm to come is always within a period, and the grid within the range of the
counter.
-/

namespace SlottedMac

open Node (Deed)

/-! ## Times in a journal -/

/-- The time at which the grid was started anew, if the deed was that. -/
@[simp] def JournalEntry.restart? : JournalEntry → Option Nat
  | .gridRestarted time => some time
  | _ => none

/-- The time at which a frame was taken over, if the deed was that. -/
@[simp] def JournalEntry.takenAt? : JournalEntry → Option Nat
  | .captured _ time => some time
  | _ => none

theorem JournalEntry.restart?_eq_none {entry : JournalEntry} {d : Deed}
    (writes : d ∈ entry.writers) (other : d ∉ [.emit, .anchor]) : entry.restart? = none := by
  cases entry with
  | gridRestarted time => exact absurd writes other
  | _ => rfl

theorem JournalEntry.takenAt?_eq_none {entry : JournalEntry} {d : Deed}
    (writes : d ∈ entry.writers) (other : d ≠ .capture) : entry.takenAt? = none := by
  cases entry with
  | captured frame time =>
    simp only [writers, List.mem_singleton] at writes
    exact absurd writes other
  | _ => rfl

namespace Journal

/-- True time at which the grid was started anew last. -/
def lastRestart? (j : Journal) : Option Nat := (j.collect JournalEntry.restart?).getLast?

/-- True time at which the first frame was taken over. -/
def firstTaken? (j : Journal) : Option Nat := (j.collect JournalEntry.takenAt?).head?

@[simp] theorem lastRestart?_cons_gridRestarted (time : Nat) (j : Journal) :
    lastRestart? (.gridRestarted time :: j) = some time := by
  simp [lastRestart?]

/-- The first frame stays the first. -/
theorem firstTaken?_append {j : Journal} {first : Nat} (taken : j.firstTaken? = some first)
    (later : Journal) : (later ++ j).firstTaken? = some first := by
  rw [firstTaken?, collect_append, List.head?_append_of_ne_nil]
  · exact taken
  · rintro none
    simp [firstTaken?, none] at taken

end Journal

/-- Whole ranges of the counter that go by from the start of a grid before the
first frame is taken over. -/
def unseen (start first : Nat) : Nat := (first - start) / 2 ^ 32 * 2 ^ 32

theorem unseen_eq_zero {start first : Nat} (near : first < start + 2 ^ 32) :
    unseen start first = 0 := by
  rw [unseen, Nat.div_eq_of_lt (by omega), Nat.zero_mul]

theorem unseen_bounds {start first : Nat} (order : start ≤ first) :
    start + unseen start first ≤ first ∧ first < start + unseen start first + 2 ^ 32 := by
  rw [unseen]
  omega

/-- The counter does not tell what goes by unseen. -/
theorem fine_add_unseen (start first : Nat) : fine (start + unseen start first) = fine start := by
  apply UInt32.toNat_inj.mp
  rw [toNat_fine, toNat_fine, unseen]
  omega

namespace Node

open AlarmClock

variable {M ε : Type} {n m : Node M} {start first : Nat}

section Medium

variable [Medium M ε] {kinds : List Deed} {d : Deed}

/-! ## One deed -/

/-- What a deed does about the grid: it ends the sync, or starts the grid anew, or
leaves the start where it is, apart from bringing it up to date. -/
theorem Step.grid_cases (step : Step d n m) :
    m.time.synchronized = false ∨
    (d = .anchor ∨ n.config.role = .coordinator) ∧
      m.journal.lastRestart? = some n.alarms.now ∧ m.time.origin = n.fineNow ∨
    (m.journal.lastRestart? = n.journal.lastRestart? ∧ m.time.lastSync = n.time.lastSync ∧
        (m.time.synchronized = true → n.time.synchronized = true)) ∧
      (m.time.origin = n.time.origin ∨ d = .align ∧ m = n.aligned) := by
  have kept := step.kept
  have adds := step.adds
  have last (other : d ∉ [.emit, .anchor]) :
      m.journal.lastRestart? = n.journal.lastRestart? := by
    rw [Journal.lastRestart?, Journal.lastRestart?,
      adds.collect_eq fun _ writes => JournalEntry.restart?_eq_none writes other]
  have still (other : d ∉ [.emit, .anchor]) (time : m.time = n.time) :
      (m.journal.lastRestart? = n.journal.lastRestart? ∧ m.time.lastSync = n.time.lastSync ∧
          (m.time.synchronized = true → n.time.synchronized = true)) ∧
        (m.time.origin = n.time.origin ∨ d = .align ∧ m = n.aligned) := by
    rw [time]
    exact ⟨⟨last other, rfl, id⟩, .inl rfl⟩
  cases step with
  | start => exact .inl rfl
  | expire =>
    rcases n.expireSync_time with time | ⟨-, time⟩
    · exact .inr (.inr (still (by decide) time))
    · exact .inl (by rw [time])
  | emit role => exact .inr (.inl ⟨.inr role, Journal.lastRestart?_cons_gridRestarted .., rfl⟩)
  | anchor => exact .inr (.inl ⟨.inl rfl, Journal.lastRestart?_cons_gridRestarted .., rfl⟩)
  | align =>
    refine .inr (.inr ⟨⟨last (by decide), ?_⟩, .inr ⟨rfl, rfl⟩⟩)
    rw [aligned, TimeBase.caughtUp]
    split
    · exact ⟨rfl, id⟩
    · exact ⟨rfl, id⟩
  | begin => exact .inr (.inr ⟨⟨rfl, rfl, id⟩, .inl rfl⟩)
  | emitRefused =>
    refine .inr (.inr ⟨⟨?_, rfl, id⟩, .inl rfl⟩)
    simp [submitted, Journal.lastRestart?]
  | _ => exact .inr (.inr (still (by decide) (kept.time (by decide))))

/-- What a deed does about the slot alarms to come: to those that were there it may
add one for the next start of the slot, as seen on a grid that is up to date. -/
theorem Step.mem_pending_slot (step : Step d n m) (sound : n.Sound) (tdma : n.config.mode = .tdma)
    {k : Callback} (mem : k ∈ m.alarms.pending .slot) :
    k ∈ n.alarms.pending .slot ∨
      n.Current ∧ k.due ≤ n.alarms.now + n.config.layout.period.toNat := by
  have kept := step.kept
  obtain ⟨live, kind⟩ := List.mem_filter.mp mem
  cases step with
  | armSlot delay purpose allowed aims =>
    obtain ⟨_, _, _, _, _, _, same⟩ := n.armSlotAlarm_eq (ε := ε) delay purpose
    rw [same] at live
    rcases mem_rearm live with old | rfl
    · exact .inl (List.mem_filter.mpr ⟨old, kind⟩)
    rcases aims with ⟨backs, -⟩ | ⟨current, rfl⟩
    · have steals := allowed backs
      rw [tdma] at steals
      cases steals
    · have bounds := sound.valid.layout.toOpening_bounds sound.slot_lt n.offset
      refine .inr ⟨current, ?_⟩
      simp only [upcoming, AlarmKind.resolution, Nat.mul_one, toNat_toSlot sound]
      omega
  | armBeacon delay =>
    obtain ⟨_, same⟩ := n.armBeaconAlarm_eq (ε := ε) delay
    rw [same] at live
    rcases mem_rearm live with old | rfl
    · exact .inl (List.mem_filter.mpr ⟨old, kind⟩)
    · cases kind
  | _ =>
    rw [kept.alarms (by decide)] at mem
    exact .inl mem

/-! ## The start of the grid -/

/-- The grid was started anew at this true time, and if that was with a beacon of
the coordinator, the sync by it has not timed out. -/
structure StartedAt (start : Nat) (n : Node M) : Prop where
  last : n.journal.lastRestart? = some start
  order : start ≤ n.alarms.now
  lasts : ∀ coordinator, n.config.role = .member coordinator →
    n.alarms.now ≤ start + 1000 * n.config.syncTimeout.toNat

/-- The grid counts from this true time: its periods start whole periods after it,
and the counter will not have gone round since the start in force before the slot
alarm comes. -/
def CountsFrom (start : Nat) (n : Node M) : Prop :=
  ∃ k, n.time.origin = fine (start + k * n.config.layout.period.toNat) ∧
    start + k * n.config.layout.period.toNat ≤ n.alarms.now ∧
    n.alarms.now < start + k * n.config.layout.period.toNat + 2 ^ 32 ∧
    ∀ c ∈ n.alarms.pending .slot, c.due < start + k * n.config.layout.period.toNat + 2 ^ 32

/-- Slot alarms to come are due within a period. -/
def Soon (n : Node M) : Prop :=
  ∀ k ∈ n.alarms.pending .slot, k.due ≤ n.alarms.now + n.config.layout.period.toNat

omit [Medium M ε] in
theorem StartedAt.congr (h : n.StartedAt start) (same : Same n m)
    (last : m.journal.lastRestart? = n.journal.lastRestart?) : m.StartedAt start := by
  refine ⟨last.trans h.last, ?_, ?_⟩
  · rw [same.now]
    exact h.order
  · rw [same.now, same.config]
    exact h.lasts

omit [Medium M ε] in
theorem StartedAt.of_now (same : Same n m) (last : m.journal.lastRestart? = some n.alarms.now) :
    m.StartedAt n.alarms.now := by
  refine ⟨last, Nat.le_of_eq same.now.symm, fun _ _ => ?_⟩
  rw [same.now]
  exact Nat.le_add_right _ _

omit [Medium M ε] in
theorem CountsFrom.follows (h : n.CountsFrom start) :
    n.time.Follows n.config.layout.period start n.alarms.now (2 ^ 32) := by
  obtain ⟨k, origin, past, near, -⟩ := h
  exact ⟨k, origin, past, near⟩

omit [Medium M ε] in
/-- Where a node sees itself in its slot it is there in true time. -/
theorem CountsFrom.owns (h : n.CountsFrom start) (owned : n.OwnsNow) :
    n.config.layout.Owns n.slot (n.alarms.now - start) := by
  obtain ⟨k, -, offset⟩ := h.follows.offset (Nat.le_refl _)
  refine (Layout.owns_congr ?_).mpr owned
  rw [offset, Nat.add_mul_mod_self_right]
  rfl

theorem Step.soon (step : Step d n m) (sound : n.Sound) (tdma : n.config.mode = .tdma)
    (h : n.Soon) : m.Soon := by
  intro k mem
  rw [step.same.now, step.same.config]
  rcases step.mem_pending_slot sound tdma mem with old | ⟨-, next⟩
  · exact h k old
  · exact next

omit [Medium M ε] in
/-- A grid that starts now counts from now. -/
theorem CountsFrom.of_now (same : Same n m) (origin : m.time.origin = n.fineNow)
    (valid : n.config.Valid) (soon : m.Soon) : m.CountsFrom n.alarms.now := by
  have short := valid.layout.period_lt
  refine ⟨0, ?_, ?_, ?_, fun c mem => ?_⟩
  · simpa [fineNow] using origin
  · simp [same.now]
  · simp [same.now]
  · have due := soon c mem
    rw [same.now, same.config] at due
    omega

/-- A deed that leaves the start of the grid where it is, or brings it up to date,
leaves it counting from where it did. -/
theorem Step.countsFrom (step : Step d n m) (sound : n.Sound) (tdma : n.config.mode = .tdma)
    (grid : m.time.origin = n.time.origin ∨ d = .align ∧ m = n.aligned) (h : n.CountsFrom start) :
    m.CountsFrom start := by
  have same := step.same
  have short := sound.valid.layout.period_lt
  obtain ⟨k, origin, past, near, ahead⟩ := h
  have ahead : ∀ c ∈ m.alarms.pending .slot,
      c.due < start + k * n.config.layout.period.toNat + 2 ^ 32 := by
    intro c mem
    rcases step.mem_pending_slot sound tdma mem with old | ⟨current, next⟩
    · exact ahead c old
    · -- on a grid that is up to date the next start of the slot is not far
      rw [Current, offset, fineNow, origin, toNat_since_fine past (by omega)] at current
      omega
  rw [CountsFrom, same.now, same.config]
  rcases grid with kept | ⟨-, rfl⟩
  · rw [kept]
    exact ⟨k, origin, past, near, ahead⟩
  · obtain ⟨more, moved, order⟩ :=
      TimeBase.caughtUp_origin n.config.layout.period origin past near
    rw [Nat.add_assoc, ← Nat.add_mul] at moved order
    refine ⟨k + more, moved, order, ?_, fun c mem => ?_⟩
    · rw [Nat.add_mul]
      omega
    · have := ahead c mem
      rw [Nat.add_mul]
      omega

/-! ## A node that looks at its grid -/

/-- What a deed keeps once a frame has been taken over: the slot alarm to come is
near, and as long as there is sync the grid counts from where it started, short of
what went by unseen before that first frame. -/
structure Ticking (first : Nat) (n : Node M) : Prop where
  taken : n.journal.firstTaken? = some first
  order : first ≤ n.alarms.now
  soon : n.Soon
  grid : n.time.synchronized = true →
    ∃ start, n.StartedAt start ∧ n.CountsFrom (start + unseen start first)

theorem Step.ticking (step : Step d n m) (sound : n.Sound) (tdma : n.config.mode = .tdma)
    (h : n.Ticking first) : m.Ticking first := by
  have same := step.same
  have soon := step.soon sound tdma h.soon
  refine ⟨?_, ?_, soon, fun now => ?_⟩
  · obtain ⟨added, grown, -⟩ := step.adds
    rw [grown]
    exact Journal.firstTaken?_append h.taken added
  · rw [same.now]
    exact h.order
  rcases step.grid_cases with ended | ⟨-, last, origin⟩ | ⟨⟨last, -, sync⟩, grid⟩
  · rw [ended] at now
    cases now
  · refine ⟨n.alarms.now, .of_now same last, ?_⟩
    rw [unseen_eq_zero (Nat.lt_of_le_of_lt h.order (by omega))]
    exact .of_now same origin sound.valid soon
  · obtain ⟨start, started, counts⟩ := h.grid (sync now)
    exact ⟨start, started.congr same last, step.countsFrom sound tdma grid counts⟩

omit [Medium M ε] in
/-- Taking callbacks out does not bring others nearer. -/
theorem Ticking.amid (h : n.Ticking first) {alarms : AlarmClock} (medium : M)
    (now : alarms.now = n.alarms.now) (live : alarms.live ⊆ n.alarms.live) :
    (n.amid alarms medium).Ticking first := by
  have same : Same n (n.amid alarms medium) := ⟨rfl, rfl, rfl, now, rfl, id⟩
  have fewer : ∀ k ∈ alarms.pending .slot, k ∈ n.alarms.pending .slot := by
    intro k mem
    obtain ⟨mem, kind⟩ := List.mem_filter.mp mem
    exact List.mem_filter.mpr ⟨live mem, kind⟩
  refine ⟨h.taken, now ▸ h.order, fun k mem => ?_, fun sync => ?_⟩
  · rw [same.now]
    exact h.soon k (fewer k mem)
  · obtain ⟨start, started, k, origin, past, near, ahead⟩ := h.grid sync
    refine ⟨start, started.congr same rfl, k, origin, ?_, ?_, fun c mem => ahead c (fewer c mem)⟩
    · rw [same.now]
      exact past
    · rw [same.now]
      exact near

/-! ## A node that has taken nothing over -/

/-- Before the first frame there is no slot alarm, and the grid is where it
started. -/
structure Idle (n : Node M) : Prop where
  taken : n.journal.firstTaken? = none
  unheld : n.slotAlarm = none
  grid : n.time.synchronized = true → ∃ start, n.StartedAt start ∧ n.time.origin = fine start

/-- What a node may do that takes no frame over and looks at no slot. -/
def Deed.resting : List Deed :=
  [.start, .plan, .expire, .armBeacon, .spendBeacon, .emit, .follow, .anchor, .complete, .fetch,
    .deliver, .reject, .power]

theorem Step.idle (step : Step d n m) (rests : d ∈ Deed.resting) (h : n.Idle) : m.Idle := by
  have same := step.same
  have other : ∀ d ∈ Deed.resting, d ≠ .capture ∧ d ∉ [.armSlot, .spendSlot] := by decide
  refine ⟨?_, ?_, fun now => ?_⟩
  · rw [Journal.firstTaken?, step.adds.collect_eq fun _ writes =>
      JournalEntry.takenAt?_eq_none writes (other d rests).1]
    exact h.taken
  · rw [step.kept.slotAlarm (other d rests).2]
    exact h.unheld
  rcases step.grid_cases with ended | ⟨-, last, origin⟩ | ⟨⟨last, -, sync⟩, grid⟩
  · rw [ended] at now
    cases now
  · exact ⟨n.alarms.now, .of_now same last, origin⟩
  · obtain ⟨start, started, origin⟩ := h.grid (sync now)
    refine ⟨start, started.congr same last, ?_⟩
    rcases grid with kept | ⟨rfl, -⟩
    · exact kept.trans origin
    · exact absurd rests (by decide)

theorem Path.idle (path : Path Deed.resting n m) (h : n.Idle) : m.Idle :=
  path.keeps (fun mem step h => step.idle mem h) h

/-- Without a slot alarm a grid that starts anew is not looked at. -/
theorem Restarts.resting {out : Reply ε × Node M} (h : Restarts n out)
    (unheld : n.slotAlarm = none) : out.2 = n.anchored := by
  rcases h with ⟨⟨held, -⟩, -⟩ | ⟨-, same⟩
  · simp [unheld] at held
  · rw [same]

theorem Heeds.resting {out : Reply ε × Node M} (h : Heeds n out) (unheld : n.slotAlarm = none) :
    Path Deed.resting n out.2 := by
  have unheld {k : Node M} (path : Path Deed.heeding n k) : k.slotAlarm = none := by
    refine path.keeps (P := fun a => a.slotAlarm = none) ?_ unheld
    intro a b d mem step none
    exact (step.kept.slotAlarm (by grind [Deed.heeding])).trans none
  cases h with
  | arranges path => exact path.mono (by decide)
  | @follows k path coordinator role rest =>
    rw [rest.resting (unheld path)]
    exact (path.mono (by decide)).snoc (.anchor role)
  | @broadcasts k path rest =>
    have first : Path Deed.resting n k := path.mono (by decide)
    cases rest with
    | refused role declined => exact first.snoc (.emitRefused role declined)
    | @sent reply m role accepted rest =>
      have before := unheld path
      have emitted : m = k.aired.anchored := rest.resting before
      rw [emitted]
      exact first.snoc (.emit role accepted)

/-- Nothing but a frame to send, and a slot alarm, makes a node look at its slot. -/
theorem perform_resting (sound : n.Sound) (unheld : n.slotAlarm = none) {operation : Operation}
    (sends : ∀ token destination bytes, operation ≠ .send token destination bytes)
    (fires : operation ≠ .alarmFired .slot) :
    Yields (n.perform operation) fun out => Path Deed.resting n out.2 := by
  cases operation with
  | start => exact Yields.ok_iff.mpr (n.start_path.mono (by decide))
  | send token destination bytes => exact absurd rfl (sends token destination bytes)
  | alarmFired kind =>
    cases kind with
    | slot => exact absurd rfl fires
    | beacon =>
      exact (beaconFired_heeds sound).bind fun _ heeds => Yields.pure_iff.mpr (heeds.resting unheld)
  | receive bytes =>
    rcases receive_cases (ε := ε) n bytes with ⟨header, heard, same⟩ | ⟨-, path⟩
    · rw [perform, same]
      exact (followBeacon_heeds sound header (role_of_heard heard)).bind fun _ heeds =>
        Yields.pure_iff.mpr (heeds.resting unheld)
    · exact path.bind fun _ path => Yields.pure_iff.mpr (path.mono (by decide))
  | complete channel completion transmissions =>
    exact Yields.ok_iff.mpr (Step.complete ..).path
  | poll => exact Yields.ok_iff.mpr Step.fetch.path
  | powerOn => exact Yields.ok_iff.mpr (Step.power Medium.powerOn).path
  | powerOff keepOn => exact Yields.ok_iff.mpr (Step.power (Medium.powerOff · keepOn)).path

omit [Medium M ε] in
/-- The first frame finds the grid where it started, or whole ranges of the counter
later: the counter cannot tell. -/
theorem Idle.capture (h : n.Idle) (none : n.alarms.pending .slot = []) (frame : QueuedFrame) :
    (n.capture frame).Ticking n.alarms.now := by
  obtain ⟨added, grown, -⟩ := n.capture_journal frame
  have taken : (n.capture frame).journal.firstTaken? = some n.alarms.now := by
    have before := List.head?_eq_none_iff.mp h.taken
    rw [grown]
    exact Journal.firstTaken?_append (by simp [Journal.firstTaken?, before]) added
  have last : (n.capture frame).journal.lastRestart? = n.journal.lastRestart? := by
    have adds : Adds (·.restart? = Option.none) n (n.capture frame) :=
      capture_adds (by simp [Posts]) n frame rfl
    rw [Journal.lastRestart?, Journal.lastRestart?, adds.collect_eq fun _ none => none]
  obtain ⟨_, _, _, same⟩ := n.capture_eq frame
  rw [same] at taken last ⊢
  refine ⟨taken, Nat.le_refl _, ?_, fun now => ?_⟩
  · simp [Soon, none]
  obtain ⟨start, started, origin⟩ := h.grid now
  have bounds := unseen_bounds started.order
  refine ⟨start, started.congr ⟨rfl, rfl, rfl, rfl, rfl, id⟩ last, 0, ?_, ?_, ?_, ?_⟩
  · rw [Nat.zero_mul, Nat.add_zero, fine_add_unseen]
    exact origin
  · simpa using bounds.1
  · simpa using bounds.2
  · simp [none]

omit [Medium M ε] in
theorem Idle.amid (h : n.Idle) {alarms : AlarmClock} (medium : M)
    (now : alarms.now = n.alarms.now) : (n.amid alarms medium).Idle := by
  have same : Same n (n.amid alarms medium) := ⟨rfl, rfl, rfl, now, rfl, id⟩
  refine ⟨h.taken, h.unheld, fun sync => ?_⟩
  obtain ⟨start, started, origin⟩ := h.grid sync
  exact ⟨start, started.congr same rfl, origin⟩

end Medium

end Node

end SlottedMac
