import SlottedMac.Proofs.Access
import SlottedMac.Proofs.OnTime

/-!
# How long a frame waits

A frame that waits has a slot alarm to come. When the alarm comes the frame is
sent or one more deferral is counted, and a count above the limit ends the wait.
So each period of waiting is accounted for by a deferral, unless the grid starts
anew: then the alarm moves along by up to a period, and nothing is counted.
A frame therefore waits for at most one period more than its deferrals and the
starts of the grid come to. The starts of the grid are not limited, though, and
beacons that keep coming ahead of the slot keep a frame waiting.
-/

namespace SlottedMac

/-- Whether the grid was started anew. -/
def JournalEntry.restarts : JournalEntry → Bool
  | .gridRestarted _ => true
  | _ => false

namespace Journal

variable {j later added : Journal} {frame other : QueuedFrame} {sent time : Nat}

/-- Starts of the grid. -/
def restarts (j : Journal) : Nat := j.countP (·.restarts)

theorem restarts_append (j more : Journal) :
    restarts (j ++ more) = j.restarts + more.restarts := List.countP_append

@[simp] theorem restarts_gridRestarted (time : Nat) : restarts [.gridRestarted time] = 1 := rfl

/-- The last frame was captured at the true time `sent`, and `later` is what was
done since. -/
def Since (j later : Journal) (frame : QueuedFrame) (sent : Nat) : Prop :=
  ∃ earlier, j = later ++ .captured frame sent :: earlier ∧
    ∀ entry ∈ later, entry.captured? = none

/-- What was done since, with more deeds of other kinds. -/
theorem Since.of_append (others : ∀ entry ∈ added, entry.captured? = none)
    (h : Since (added ++ j) later frame sent) :
    ∃ before, later = added ++ before ∧ Since j before frame sent := by
  induction added generalizing later with
  | nil => exact ⟨later, rfl, h⟩
  | cons entry added ih =>
    obtain ⟨earlier, same, none⟩ := h
    cases later with
    | nil =>
      simp only [List.cons_append, List.nil_append, List.cons.injEq] at same
      have captures := others entry List.mem_cons_self
      rw [same.1] at captures
      cases captures
    | cons first later =>
      simp only [List.cons_append, List.cons.injEq] at same
      obtain ⟨before, split, since⟩ := ih
        (fun e mem => others e (List.mem_cons_of_mem _ mem))
        ⟨earlier, same.2, fun e mem => none e (List.mem_cons_of_mem _ mem)⟩
      exact ⟨before, by rw [split, same.1, List.cons_append], since⟩

/-- Right after a frame was captured nothing was done since. -/
theorem Since.of_captured (h : Since (.captured other time :: j) later frame sent) :
    later = [] ∧ frame = other ∧ sent = time := by
  obtain ⟨earlier, same, none⟩ := h
  cases later with
  | nil =>
    simp only [List.nil_append, List.cons.injEq, JournalEntry.captured.injEq] at same
    exact ⟨rfl, same.1.1.symm, same.1.2.symm⟩
  | cons first later =>
    simp only [List.cons_append, List.cons.injEq] at same
    have captures := none first List.mem_cons_self
    rw [← same.1] at captures
    cases captures

end Journal

/-- The ways in which the wait of a frame ends, short of a newer frame. -/
inductive Ended (frame : QueuedFrame) (later : Journal) : Prop where
  /-- The medium accepted it. -/
  | sent (s : Submission) (count : UInt16) (mem : .submitted s ∈ later)
      (accepted : s.accepted = true) (queued : s.queued = some { frame with deferrals := count })
  /-- It was reported as expired, whether or not the report found room. -/
  | expired (mem : .posted (.sent frame.token .expired 0) ∈ later ∨
      .dropped (.sent frame.token .expired 0) ∈ later)
  /-- The host refused a slot alarm, and the frame was given up. -/
  | unattended (delay : Ticks) (purpose : Arbitration)
      (mem : .slotAlarm delay purpose false ∈ later)

namespace Ended

variable {frame : QueuedFrame} {later added : Journal}

theorem mono {more : Journal} (h : Ended frame later) (sub : later ⊆ more) : Ended frame more := by
  cases h with
  | sent s count mem accepted queued => exact .sent s count (sub mem) accepted queued
  | expired mem => exact .expired (mem.imp (@sub _) (@sub _))
  | unattended delay purpose mem => exact .unattended delay purpose (sub mem)

/-- The count of deferrals is no matter. -/
theorem of_deferrals {count : UInt16} (h : Ended { frame with deferrals := count } later) :
    Ended frame later := by
  cases h with
  | sent s count mem accepted queued => exact .sent s count mem accepted queued
  | expired mem => exact .expired mem
  | unattended delay purpose mem => exact .unattended delay purpose mem

end Ended

namespace Node

open AlarmClock

variable {M ε : Type} {n m : Node M} {more less time : Nat}

/-! ## What becomes of the frame that waits -/

theorem deferWaiting_config (n : Node M) : n.deferWaiting.config = n.config := by
  obtain ⟨_, _, _, _, _, same⟩ := n.deferWaiting_eq
  rw [same]

/-- The frame that was captured last is the one captured now. -/
theorem since_capture {frame last : QueuedFrame} {later : Journal} {sent : Nat}
    (h : (n.capture frame).journal.Since later last sent) :
    last = frame ∧ sent = n.alarms.now := by
  obtain ⟨added, same, others⟩ := n.capture_journal frame
  rw [same] at h
  obtain ⟨_, -, since⟩ := h.of_append others
  exact since.of_captured.2

/-- The frame that was captured last waits, with no more deferrals than the limit
allows, or its wait has ended. -/
def Settles (n : Node M) : Prop :=
  ∀ later frame sent, n.journal.Since later frame sent →
    Ended frame later ∨
      ∃ count, n.outbox = some { frame with deferrals := count } ∧ count ≤ n.config.maxDeferrals

theorem Settles.grow (h : n.Settles) (added : Journal) (grown : m.journal = added ++ n.journal)
    (others : ∀ entry ∈ added, entry.captured? = none) (config : m.config = n.config)
    (next : ∀ frame, n.outbox = some frame → Ended frame added ∨ m.outbox = some frame ∨
      ∃ count, m.outbox = some { frame with deferrals := count } ∧
        count ≤ n.config.maxDeferrals) : m.Settles := by
  intro later frame sent since
  rw [grown] at since
  obtain ⟨before, rfl, kept⟩ := since.of_append others
  rw [config]
  rcases h before frame sent kept with ended | ⟨count, waits, within⟩
  · exact .inl (ended.mono (List.subset_append_right ..))
  · rcases next _ waits with ended | same | counted
    · exact .inl (ended.of_deferrals.mono (List.subset_append_left ..))
    · exact .inr ⟨count, same, within⟩
    · exact .inr counted

/-! ## How long it waits -/

/-- At the true time `time` the frame that waits has waited for no more periods
than its deferrals, the starts of the grid since it was captured, and `more`. -/
def Within (more time : Nat) (n : Node M) : Prop :=
  ∀ later frame sent, n.journal.Since later frame sent → ∀ waiting, n.outbox = some waiting →
    time ≤ sent +
      (waiting.deferrals.toNat + later.restarts + more) * n.config.layout.period.toNat

/-- What deferrals account for needs no periods besides. -/
theorem Within.grow (h : n.Within more time) (adds : Adds (·.captured? = none) n m)
    (config : m.config = n.config)
    (next : ∀ waiting, m.outbox = some waiting → ∃ frame, n.outbox = some frame ∧
      frame.deferrals.toNat + more ≤ waiting.deferrals.toNat + less) : m.Within less time := by
  obtain ⟨added, grown, others⟩ := adds
  intro later frame sent since waiting waits
  rw [grown] at since
  obtain ⟨before, rfl, kept⟩ := since.of_append others
  obtain ⟨frame, waited, fewer⟩ := next waiting waits
  have bound := h before _ sent kept frame waited
  rw [config, Journal.restarts_append]
  exact Nat.le_trans bound (Nat.add_le_add_left (Nat.mul_le_mul_right _ (by omega)) _)

theorem Within.earlier (h : n.Within more time) {before : Nat} (order : before ≤ time) :
    n.Within more before := fun later frame sent since waiting waits =>
  Nat.le_trans order (h later frame sent since waiting waits)

/-- A frame that was captured now has not waited. -/
theorem capture_within (n : Node M) (frame : QueuedFrame) :
    (n.capture frame).Within 0 n.alarms.now := by
  intro later last sent since waiting _
  rw [(since_capture since).2]
  exact Nat.le_add_right ..

/-- A grid that starts anew accounts for a period. -/
theorem anchored_within (h : n.Within (more + 1) time) : n.anchored.Within more time := by
  intro later frame sent since waiting waits
  have others : ∀ entry ∈ [JournalEntry.gridRestarted n.alarms.now], entry.captured? = none := by
    simp
  obtain ⟨before, rfl, kept⟩ := Journal.Since.of_append (j := n.journal) others since
  have bound := h before frame sent kept waiting waits
  rw [Journal.restarts_append, Journal.restarts_gridRestarted]
  exact Nat.le_trans bound (Nat.add_le_add_left (Nat.mul_le_mul_right _ (by omega)) _)

/-- So does a deferral that is counted. -/
theorem deferWaiting_within (countable : n.config.maxDeferrals.toNat < 65535)
    (h : n.Within (more + 1) time) : n.deferWaiting.Within more time := by
  refine h.grow (deferWaiting_adds (by simp [Posts]) n) n.deferWaiting_config ?_
  intro waiting waits
  rw [deferWaiting_outbox] at waits
  obtain ⟨frame, waited, rfl, within⟩ := Outbox.of_defer waits
  refine ⟨frame, waited, ?_⟩
  have count := frame.toNat_deferred
  rw [UInt16.le_iff_toNat_le] at within
  omega

theorem Within.of_none (none : n.outbox = none) : n.Within more time := by
  intro _ _ _ _ waiting waits
  rw [none] at waits
  cases waits

section Medium

variable [Medium M ε] {kinds : List Deed} {d : Deed}

/-! ## One deed -/

/-- A frame that was handed over was sent, or waits on. -/
theorem Settles.offered (h : n.Settles) {frame : QueuedFrame} (waits : n.outbox = some frame) :
    (n.offered frame).Settles := by
  refine h.grow [.submitted (n.submission .data (n.dataFrame frame) (some frame))]
    (offered_journal n frame) (by simp) (n.offered_same frame).config ?_
  intro waiting waited
  cases waits.symm.trans waited
  rw [offered_outbox]
  split
  · next accepted =>
    exact .inl (.sent _ frame.deferrals (List.mem_singleton.mpr rfl) accepted rfl)
  · exact .inr (.inl waits)

omit [Medium M ε] in
/-- A frame that was deferred waits within the limit, or was reported as
expired. -/
theorem Settles.deferWaiting (h : n.Settles) (waits : n.outbox.isSome) :
    n.deferWaiting.Settles := by
  obtain ⟨frame, waits⟩ := Option.isSome_iff_exists.mp waits
  by_cases within : frame.deferred.deferrals ≤ n.config.maxDeferrals
  · have same : n.deferWaiting =
        { n with outbox := some frame.deferred, stats.deferrals := n.stats.deferrals.bump } := by
      rw [Node.deferWaiting, waits, Outbox.defer_some_of_le within]
    rw [same]
    refine h.grow [] rfl (by simp) rfl fun waiting waited => ?_
    cases waits.symm.trans waited
    exact .inr (.inr ⟨_, rfl, within⟩)
  · have same : n.deferWaiting =
        { n with
          outbox := none
          stats.deferrals := n.stats.deferrals.bump
          stats.expired := n.stats.expired.bump }.post (.sent frame.token .expired 0) := by
      rw [Node.deferWaiting, waits, Outbox.defer_some_of_lt (UInt16.not_le.mp within)]
      rfl
    obtain ⟨entry, grown, about⟩ := post_journal _ (.sent frame.token .expired 0)
    refine h.grow [entry] (same ▸ grown) ?_ n.deferWaiting_config fun waiting waited => ?_
    · rcases about with rfl | rfl <;> simp
    · cases waits.symm.trans waited
      exact .inl (.expired (by simpa [eq_comm] using about))

theorem Step.settles (step : Step d n m) (h : n.Settles) : m.Settles := by
  have kept := step.kept
  have config := step.same.config
  have quiet (captures : d ≠ .capture) (same : m.outbox = n.outbox) : m.Settles := by
    obtain ⟨added, grown, others⟩ := step.adds_uncaptured captures
    exact h.grow added grown others config fun frame waits => .inr (.inl (same ▸ waits))
  cases step with
  | capture frame new =>
    intro later last sent since
    obtain ⟨rfl, -⟩ := since_capture since
    obtain ⟨_, _, _, same⟩ := n.capture_eq last
    refine .inr ⟨last.deferrals, by rw [same], ?_⟩
    rw [new]
    exact UInt16.zero_le
  | offer idle waits owned => exact h.offered waits
  | steal ended idle waits heard => exact h.offered waits
  | defer waits => exact h.deferWaiting waits
  | armSlot delay purpose =>
    rcases armSlotAlarm_outbox (ε := ε) n delay purpose with same | ⟨none, added, grown, others⟩
    · exact quiet (by decide) same
    · refine h.grow (added ++ [.slotAlarm delay purpose false]) (by simpa using grown)
        ?_ config fun frame _ => .inl (.unattended delay purpose (by simp))
      intro entry mem
      rcases List.mem_append.mp mem with old | new
      · exact others entry old
      · rw [List.mem_singleton.mp new]
        rfl
  | _ => exact quiet (by decide) (kept.outbox (by decide))

omit [Medium M ε] in
theorem Within.armSlot (h : n.Within more time) (delay : Ticks) (purpose : Arbitration) :
    (n.armSlotAlarm delay purpose : Reply ε × Node M).2.Within more time := by
  rcases armSlotAlarm_outbox (ε := ε) n delay purpose with same | ⟨none, -⟩
  · refine h.grow (armSlotAlarm_adds (by simp [Posts]) n delay purpose (by simp))
      (n.armSlotAlarm_same delay purpose).config fun waiting waits => ?_
    exact ⟨waiting, same ▸ waits, Nat.le_refl _⟩
  · exact .of_none none

theorem Within.offered (h : n.Within more time) (frame : QueuedFrame) :
    (n.offered frame).Within more time := by
  have outbox := offered_outbox n frame
  split at outbox
  · exact .of_none outbox
  · exact h.grow (.one (offered_journal n frame) rfl) (n.offered_same frame).config
      fun waiting waits => ⟨waiting, outbox ▸ waits, Nat.le_refl _⟩

/-- Nothing that is done to a frame that waits makes it wait for longer than is
accounted for. -/
theorem Step.within (step : Step d n m) (captures : d ≠ .capture) (h : n.Within more time) :
    m.Within more time := by
  have kept := step.kept
  have adds := step.adds_uncaptured captures
  have config := step.same.config
  have quiet (same : m.outbox = n.outbox) : m.Within more time :=
    h.grow adds config fun waiting waits => ⟨waiting, same ▸ waits, Nat.le_refl _⟩
  cases step with
  | capture => exact absurd rfl captures
  | offer => exact h.offered _
  | steal => exact h.offered _
  | defer waits =>
    refine h.grow adds config fun waiting waits => ?_
    rw [deferWaiting_outbox] at waits
    obtain ⟨frame, waited, rfl, -⟩ := Outbox.of_defer waits
    have count := frame.toNat_deferred
    have word := frame.deferrals.toNat_lt
    exact ⟨frame, waited, by omega⟩
  | armSlot delay purpose => exact h.armSlot delay purpose
  | _ => exact quiet (kept.outbox (by decide))

theorem Path.settles (path : Path kinds n m) (h : n.Settles) : m.Settles :=
  path.keeps (fun _ step h => step.settles h) h

theorem Path.within (path : Path kinds n m) (captures : .capture ∉ kinds := by decide)
    (h : n.Within more time) : m.Within more time := by
  refine path.keeps (P := Within more time) (fun mem step h => step.within ?_ h) h
  rintro rfl
  exact captures mem

/-! ## The slot alarm comes -/

/-- With the alarm itself a look inside the slot sends the frame or counts a
deferral. -/
theorem useSlot_within (sound : n.Sound) (countable : n.config.maxDeferrals.toNat < 65535)
    (h : n.Within (more + 1) time) : Yields (n.useSlot true) (Within more time) := by
  rw [useSlot]
  cases waits : n.outbox with
  | none => simpa using Within.of_none waits
  | some frame =>
    simp only [Option.isSome_some, if_true]
    cases flying : n.inFlight with
    | some other =>
      rw [handOver_nothing (.inl (by simp [flying]))]
      exact Yields.ok_iff.mpr (deferWaiting_within countable h)
    | none =>
      rw [handOver_eq sound.room flying waits]
      simp only [bind, Except.bind, Yields.pure_iff]
      have outbox := offered_outbox n frame
      cases accepted : n.accepts .data (n.dataFrame frame) with
      | true => exact .of_none (by simpa [accepted] using outbox)
      | false =>
        have config := (n.offered_same frame).config
        exact deferWaiting_within (config ▸ countable) (h.offered frame)

theorem attendSlot_within (sound : n.Sound) (inside : n.aligned.view.phase = .inside)
    (countable : n.config.maxDeferrals.toNat < 65535) (h : n.Within (more + 1) time) :
    Yields (n.attendSlot true : Except Fault (Reply ε × Node M)) fun out =>
      out.2.Within more time := by
  have inOrder := n.aligned_path.sound sound
  have used : Yields (n.aligned.useSlot true) fun m =>
      Path [.offer, .defer] n.aligned m ∧ m.time = n.aligned.time :=
    useSlot_path inOrder (view_inside_iff.mp inside) true (by decide) (by decide)
  rw [attendSlot]
  rw [placement_eq sound]
  simp only [bind, Except.bind, inside]
  refine (used.and (useSlot_within inOrder countable (n.aligned_path.within (by decide) h))).bind ?_
  rintro m ⟨⟨path, -⟩, within⟩
  have remains := path.sound inOrder
  rw [remains.valid.layout.untilNext_eq remains.slot_lt]
  exact Yields.pure_iff.mpr (within.armSlot _ _)

/-! ## Between operations -/

/-- When the slot alarm comes, the wait will be accounted for with the period that
the alarm was armed for. -/
def Bounded (n : Node M) : Prop := ∀ k ∈ n.alarms.pending .slot, n.Within 1 k.due

/-- The wait is accounted for up to now, or else up to the slot alarm with one
period more. -/
def Covered (n : Node M) : Prop := n.Within 0 n.alarms.now ∨ n.Bounded

omit [Medium M ε] in
/-- A slot alarm that aims at the slot comes within a period. -/
theorem Covered.bounded (h : n.Covered) (aimed : n.Aimed) (slot : n.arbitration ≠ .backingOff) :
    n.Bounded := by
  rcases h with ready | bounded
  · intro k mem later frame sent since waiting waits
    obtain ⟨wait, due, within, -⟩ := aimed slot k mem
    have passed := ready later frame sent since waiting waits
    rw [Nat.add_zero] at passed
    rw [due, Nat.add_mul, Nat.one_mul]
    omega
  · exact bounded

omit [Medium M ε] in
/-- A frame that waits is looked after by an alarm that is not late. -/
theorem Bounded.within_now (h : n.Bounded) (timed : n.Timed) (slot : n.arbitration ≠ .backingOff)
    (attended : n.Attended) : n.Within 1 n.alarms.now := by
  intro later frame sent since waiting waits
  obtain ⟨handle, held⟩ := Option.isSome_iff_exists.mp (attended (by simp [waits]))
  have live : handle ∈ (n.alarms.pending .slot).map (·.handle) := by
    simp [timed.inTime.holds.live, held]
  obtain ⟨k, mem, -⟩ := List.mem_map.mp live
  obtain ⟨wait, due, -⟩ := timed.aimed slot k mem
  exact (h k mem).earlier (by omega) later frame sent since waiting waits

/-- Deeds that arm no slot alarm leave the wait bounded. -/
theorem Path.bounded (path : Path kinds n m)
    (quiet : ∀ d ∈ kinds, d ∉ [.capture, .armSlot, .spendSlot] := by decide) (holds : n.HoldsSlot)
    (h : n.Bounded) : m.Bounded := by
  have kept : m.HoldsSlot ∧ m.Bounded := by
    refine path.keeps (P := fun k => k.HoldsSlot ∧ k.Bounded) ?_ ⟨holds, h⟩
    rintro a b d mem step ⟨holds, bounded⟩
    have plain := quiet d mem
    refine ⟨step.holdsSlot (by grind) holds, ?_⟩
    intro k mem
    rw [step.pending_slot (by grind) holds] at mem
    exact step.within (by grind) (bounded k mem)
  exact kept.2

theorem Restarts.covered {out : Reply ε × Node M} (h : Restarts n out)
    (now : n.Within 1 n.alarms.now) : out.2.Covered := by
  have same : out.2.alarms.now = n.alarms.now := h.path.same.now
  left
  rw [same]
  exact h.path.within (by decide) (anchored_within now)

theorem Broadcasts.covered {out : Reply ε × Node M} (h : Broadcasts n out) (holds : n.HoldsSlot)
    (bounded : n.Bounded) (now : n.Within 1 n.alarms.now) : out.2.Covered := by
  cases h with
  | refused role declined =>
    have tried : Path [.emit] n _ := (Step.emitRefused role declined).path
    exact .inr (tried.bounded (by decide) holds bounded)
  | sent role accepted rest =>
    exact rest.covered (now.grow (.one rfl rfl) rfl fun waiting waits =>
      ⟨waiting, waits, Nat.le_refl _⟩)

/-- However many beacons come, each of them accounts for the period that it makes
the frame wait. -/
theorem Heeds.covered {out : Reply ε × Node M} (h : Heeds n out) (holds : n.HoldsSlot)
    (bounded : n.Bounded) (now : n.Within 1 n.alarms.now) : out.2.Covered := by
  have still {m : Node M} (path : Path Deed.heeding n m) : m.Within 1 m.alarms.now := by
    rw [path.same.now]
    exact path.within (by decide) now
  cases h with
  | arranges path => exact .inr (path.bounded (by decide) holds bounded)
  | follows path _ rest => exact rest.covered (still path)
  | broadcasts path rest =>
    exact rest.covered (path.holdsSlot (by decide) holds) (path.bounded (by decide) holds bounded)
      (still path)

theorem Sends.covered {token : Token} {destination : Address} {bytes : List UInt8}
    {out : Reply ε × Node M} (h : Sends n token destination bytes out) (bounded : n.Bounded) :
    out.2.Covered := by
  cases h with
  | long => exact .inr bounded
  | captured payload same path =>
    have captured : Step .capture n.expireSync _ :=
      .capture { token, destination, payload, queuedAt := n.fineNow }
    left
    rw [path.same.now, captured.same.now]
    exact path.within (by decide) (n.expireSync.capture_within _)

/-- A slot alarm that comes when it is due accounts for the period that it was
armed for. -/
theorem slotFired_covered (sound : n.Sound) (timed : n.Timed)
    (countable : n.config.maxDeferrals.toNat < 65535) (bounded : n.Bounded) {k : Callback}
    (first : n.alarms.first? .slot = some k) (due : k.due = n.alarms.now)
    (slot : n.arbitration ≠ .backingOff) :
    Yields ((n.consumed .slot).alarmFired .slot : Except Fault (Reply ε × Node M)) fun out =>
      out.2.Covered := by
  have expected := expected_of_due timed.inTime first due
  obtain ⟨same, -, -, outbox, -, journal, -⟩ := n.atSlot_spec expected
  have inside := (atSlot_inside sound timed first due slot).1
  have before : n.atSlot.Within (0 + 1) n.alarms.now := by
    have accounted := bounded k (mem_pending_of_first? first)
    rw [due] at accounted
    exact accounted.grow (.none journal) same.config fun waiting waits =>
      ⟨waiting, outbox ▸ waits, Nat.le_refl _⟩
  have looks := attendSlot_within (ε := ε) (sound.of_same same) inside (same.config ▸ countable)
    before
  rw [← alarmFired_atSlot expected slot] at looks
  have fired := alarmFired_spent (ε := ε) (sound.amid (n.alarms.consume .slot) n.medium) .slot
  refine (looks.and fired).mono ?_
  rintro out ⟨within, path, -⟩
  have now : out.2.alarms.now = n.alarms.now := path.same.now.trans same.now
  exact .inl (now ▸ within)

/-- A node between two operations, whose frame does not wait for too long. -/
structure Attentive (config : Config) (n : Node M) : Prop where
  timed : n.Timed
  mannered : n.Mannered config
  attended : n.Attended
  settles : n.Settles
  bounded : n.Bounded

section Attentive

variable {config : Config} {stimulus : Stimulus M}

omit [Medium M ε] in
/-- A node that keeps to its slot never backs off. -/
theorem Attentive.arbitration (h : n.Attentive config) (tdma : config.mode = .tdma) :
    n.arbitration ≠ .backingOff := by
  intro backs
  have contends := h.mannered.contends backs
  rw [h.mannered.settings, tdma] at contends
  cases contends

theorem perform_covered (sound : n.Sound) (h : n.Attentive config) (tdma : config.mode = .tdma)
    {operation : Operation} (timely : n.Timely (.operate operation)) :
    Yields (n.perform operation) fun out => out.2.Covered := by
  have holds := h.timed.inTime.holds
  have bounded := h.bounded
  have now := bounded.within_now h.timed (h.arbitration tdma) h.attended
  have alone {m : Node M} {d : Deed} (step : Step d n m)
      (quiet : d ∉ [.capture, .armSlot, .spendSlot] := by decide) : m.Covered :=
    .inr (Path.bounded (step.path (by simp)) (fun _ mem => List.mem_singleton.mp mem ▸ quiet)
      holds bounded)
  cases operation with
  | start => exact Yields.ok_iff.mpr (.inr (n.start_path.bounded (by decide) holds bounded))
  | send token destination bytes =>
    exact (send_sends sound token destination bytes).bind fun _ sent =>
      Yields.pure_iff.mpr (sent.covered bounded)
  | alarmFired kind =>
    cases kind with
    | slot => exact timely.elim
    | beacon =>
      exact (beaconFired_heeds sound).bind fun _ heeds =>
        Yields.pure_iff.mpr (heeds.covered holds bounded now)
  | receive bytes =>
    rcases receive_cases (ε := ε) n bytes with ⟨header, heard, same⟩ | ⟨-, path⟩
    · rw [perform, same]
      exact (followBeacon_heeds sound header (role_of_heard heard)).bind fun _ heeds =>
        Yields.pure_iff.mpr (heeds.covered holds bounded now)
    · exact path.bind fun _ path =>
        Yields.pure_iff.mpr (.inr (path.bounded (by decide) holds bounded))
  | complete channel completion transmissions => exact Yields.ok_iff.mpr (alone (.complete ..))
  | poll => exact Yields.ok_iff.mpr (alone .fetch)
  | powerOn => exact Yields.ok_iff.mpr (alone (.power Medium.powerOn))
  | powerOff keepOn => exact Yields.ok_iff.mpr (alone (.power (Medium.powerOff · keepOn)))

theorem undergo_covered (sound : n.Sound) (h : n.Attentive config) (tdma : config.mode = .tdma)
    (countable : config.maxDeferrals.toNat < 65535) (timely : n.Timely stimulus) :
    Yields (n.undergo stimulus) fun out => out.2.Covered := by
  have bounded := h.bounded
  have slot := h.arbitration tdma
  have consumed : (n.consumed .beacon).Bounded := by
    intro k mem
    have same : (n.consumed .beacon).alarms.pending .slot = n.alarms.pending .slot :=
      pending_consume_other _ (by decide)
    exact bounded k (same ▸ mem)
  cases stimulus with
  | operate operation =>
    exact (perform_covered sound h tdma timely).bind fun _ done => Yields.pure_iff.mpr done
  | fire kind =>
    refine undergo_fire (Q := Covered) (fun _ => .inr bounded) fun k first => ?_
    cases kind with
    | slot =>
      exact slotFired_covered sound h.timed (h.mannered.settings ▸ countable) bounded first
        (timely k first) slot
    | beacon =>
      refine (beaconFired_heeds (sound.amid _ _)).mono fun _ heeds => ?_
      exact heeds.covered h.timed.consumed.inTime.holds consumed
        (bounded.within_now h.timed slot h.attended)
  | lose kind =>
    cases kind with
    | slot => exact timely.elim
    | beacon => exact Yields.ok_iff.mpr (.inr consumed)
  | clock time => exact Yields.ok_iff.mpr (.inr bounded)
  | refuse kind error =>
    refine Yields.ok_iff.mpr (.inr fun k mem => bounded k ?_)
    rwa [pending_refuse] at mem
  | medium medium => exact Yields.ok_iff.mpr (.inr bounded)

theorem undergo_settles (sound : n.Sound) (settles : n.Settles) (stimulus : Stimulus M) :
    Yields (n.undergo stimulus) fun out => out.2.Settles := by
  refine undergo_yields (Q := fun _ m => m.Settles) (fun _ _ _ => settles) ?_
  intro alarms medium operation _
  exact (perform_yields (sound.amid alarms medium) operation).mono fun _ done =>
    done.1.settles settles

theorem undergo_attentive (sound : n.Sound) (h : n.Attentive config) (tdma : config.mode = .tdma)
    (countable : config.maxDeferrals.toNat < 65535) (timely : n.Timely stimulus) :
    Yields (n.undergo stimulus) fun out => out.2.Attentive config := by
  have kept := (undergo_timed sound h.timed timely).and
    ((undergo_mannered sound h.mannered stimulus).and
      ((undergo_attended sound h.attended stimulus).and
        ((undergo_settles sound h.settles stimulus).and
          (undergo_covered sound h tdma countable timely))))
  refine kept.mono ?_
  rintro out ⟨timed, mannered, attended, settles, covered⟩
  refine ⟨timed, mannered, attended, settles, covered.bounded timed.aimed ?_⟩
  intro backs
  have contends := mannered.contends backs
  rw [mannered.settings, tdma] at contends
  cases contends

end Attentive

end Medium

end Node

open Node

/-- In a node that keeps to its slot, with a host that lets slot alarms come
exactly when they are due, every frame waits for no more periods than one more
than its deferrals and the starts of the grid since it was sent, as long as no
newer frame has taken its place: it waits within the limit of deferrals and that
bound on true time, or it was sent, was reported as expired, or was given up
when a slot alarm was refused. -/
theorem wait_bounded {M ε : Type} [Medium M ε] {config : Config} (valid : config.Valid)
    (tdma : config.mode = .tdma) (countable : config.maxDeferrals.toNat < 65535)
    (address : Address) (medium : M) {alarms : AlarmClock} (unused : alarms.live = [])
    (words : WordSource) (stimuli : List (Stimulus M))
    (timely : (fresh address config medium alarms words).Obeys Timely stimuli) :
    ∃ answers n, lifetime address config medium alarms words stimuli = .ok (.ok (answers, n)) ∧
      ∀ later frame sent earlier, n.journal = later ++ .captured frame sent :: earlier →
        (∃ newer time, .captured newer time ∈ later) ∨ Ended frame later ∨
          ∃ count, n.outbox = some { frame with deferrals := count } ∧
            count ≤ config.maxDeferrals ∧
            n.alarms.now ≤
              sent + (count.toNat + later.restarts + 1) * config.layout.period.toNat := by
  have start : (fresh address config medium alarms words).Attentive config := by
    refine ⟨fresh_timed address config medium unused words, ⟨rfl, nofun, nofun, nofun⟩, nofun, ?_,
      ?_⟩
    · rintro later frame sent ⟨earlier, same, -⟩
      simp [fresh] at same
    · intro k mem
      simp [fresh, AlarmClock.pending, unused] at mem
  rw [← List.append_nil stimuli] at timely
  obtain ⟨answers, n, done, attentive, -⟩ :=
    lifetime_obeys (P := Attentive config)
      (fun m stimulus sound h timely => undergo_attentive sound h tdma countable timely)
      valid start timely
  refine ⟨answers, n, done, ?_⟩
  intro later frame sent earlier split
  have settings := attentive.mannered.settings
  by_cases newer : ∃ entry ∈ later, entry.captured? ≠ none
  · left
    obtain ⟨entry, mem, captures⟩ := newer
    cases entry with
    | captured newer time => exact ⟨newer, time, mem⟩
    | _ => exact absurd rfl captures
  · right
    have since : n.journal.Since later frame sent :=
      ⟨earlier, split, fun entry mem => by_contra fun captures => newer ⟨entry, mem, captures⟩⟩
    rcases attentive.settles later frame sent since with ended | ⟨count, waits, within⟩
    · exact .inl ended
    · have accounted := attentive.bounded.within_now attentive.timed (attentive.arbitration tdma)
        attentive.attended later frame sent since _ waits
      rw [settings] at within accounted
      exact .inr ⟨count, waits, within, accounted⟩

/-- Settings of a member whose coordinator sends a beacon every 800 ms, in a period
of a second. -/
def nagged : Config := { role := .member 0, beaconInterval := 800 }

theorem nagged_valid : nagged.Valid := Config.check_eq_ok_iff.mp rfl

/-- A frame is sent at the beginning, and a beacon comes every 800 ms, thirteen
times. -/
def nagging : List (Stimulus RecordingMedium) :=
  .operate (.send 7 0 [1]) :: (List.range 13).flatMap fun k =>
    [.clock (800000 * (k + 1)), .operate (.receive (Frame.timeReference 0 0).bytes)]

theorem nagging_timely :
    (fresh 5 nagged ({} : RecordingMedium) {} (.cycle [])).Obeys Timely nagging := by
  decide +kernel

/-- Thirteen beacons account for what the frame waited beyond its deferrals, of
which there are none. -/
theorem wait_bounded_nagged :
    ∃ answers n,
      lifetime 5 nagged ({} : RecordingMedium) {} (.cycle []) nagging = .ok (.ok (answers, n)) ∧
      ∀ later frame sent earlier, n.journal = later ++ .captured frame sent :: earlier →
        (∃ newer time, .captured newer time ∈ later) ∨ Ended frame later ∨
          ∃ count, n.outbox = some { frame with deferrals := count } ∧
            count ≤ nagged.maxDeferrals ∧
            n.alarms.now ≤
              sent + (count.toNat + later.restarts + 1) * nagged.layout.period.toNat :=
  wait_bounded nagged_valid rfl (by decide) 5 ({} : RecordingMedium) rfl (.cycle []) nagging
    nagging_timely

/-- The limit of deferrals alone is no limit: with beacons that come ahead of the
slot the frame waits for longer than two periods more than the limit allows, and
no deferral is counted. -/
theorem wait_unlimited :
    nagged.Valid ∧ nagged.mode = .tdma ∧ nagged.maxDeferrals.toNat < 65535 ∧
      (fresh 5 nagged ({} : RecordingMedium) {} (.cycle [])).Obeys Timely nagging ∧
      ∃ answers n,
        lifetime 5 nagged ({} : RecordingMedium) {} (.cycle []) nagging = .ok (.ok (answers, n)) ∧
        n.waiting = some { token := 7, waited := 10400000, deferrals := 0 } ∧
        (nagged.maxDeferrals.toNat + 2) * nagged.layout.period.toNat < n.alarms.now := by
  refine ⟨nagged_valid, rfl, by decide, nagging_timely, exists_lifetime nagged_valid ?_⟩
  decide +kernel

end SlottedMac
