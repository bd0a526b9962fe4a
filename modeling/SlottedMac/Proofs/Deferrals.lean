import SlottedMac.Proofs.OnTime

/-!
# Deferrals, one by one

A deferral is counted by a look at the slot that the slot alarm itself asked for, and only
if a frame waits that misses its slot: the slot is over, or it is open and the frame is not
accepted. One that finds the slot still ahead counts nothing, and neither does anything else
that a node does about the frame. So the deferrals of a frame are exactly the looks at which
it missed its slot since it was captured, and it expires at the first one beyond the limit.

Both counts are words that stop at their largest value. For the frame that matters only
where the limit is the largest count itself: such a frame never expires.
-/

namespace SlottedMac

open Node (Deed)

namespace QueuedFrame

/-- The frame with so many more periods counted. -/
def deferredBy (f : QueuedFrame) (count : Nat) : QueuedFrame :=
  { f with deferrals := UInt16.ofNat (min (f.deferrals.toNat + count) 0xFFFF) }

variable (f : QueuedFrame) (count : Nat)

theorem toNat_deferredBy :
    (f.deferredBy count).deferrals.toNat = min (f.deferrals.toNat + count) 0xFFFF := by
  simp only [deferredBy, UInt16.toNat_ofNat']
  exact Nat.mod_eq_of_lt (by omega)

theorem deferredBy_zero : f.deferredBy 0 = f := by
  have word := f.deferrals.toNat_lt
  have same : (f.deferredBy 0).deferrals = f.deferrals := by
    rw [← UInt16.toNat_inj, toNat_deferredBy]
    omega
  exact congrArg (fun deferrals => { f with deferrals }) same

theorem deferredBy_deferredBy (more : Nat) :
    (f.deferredBy count).deferredBy more = f.deferredBy (count + more) := by
  have same : ((f.deferredBy count).deferredBy more).deferrals =
      (f.deferredBy (count + more)).deferrals := by
    rw [← UInt16.toNat_inj, toNat_deferredBy, toNat_deferredBy, toNat_deferredBy]
    omega
  exact congrArg (fun deferrals => { f with deferrals }) same

theorem deferred_eq : f.deferred = f.deferredBy 1 := by
  have same : f.deferred.deferrals = (f.deferredBy 1).deferrals := by
    rw [← UInt16.toNat_inj, toNat_deferred, toNat_deferredBy]
  exact congrArg (fun deferrals => { f with deferrals }) same

/-- A count that stopped goes no further. -/
theorem deferredBy_full {f : QueuedFrame} (full : f.deferrals = 0xFFFF) :
    f.deferredBy count = f := by
  have same : (f.deferredBy count).deferrals = f.deferrals := by
    have top : (0xFFFF : UInt16).toNat = 0xFFFF := rfl
    rw [← UInt16.toNat_inj, toNat_deferredBy, full]
    omega
  exact congrArg (fun deferrals => { f with deferrals }) same

/-- Where a count that stops at its largest value is beyond a limit, it did not stop. -/
theorem deferredBy_le_iff {limit : UInt16} :
    (f.deferredBy count).deferrals ≤ limit ↔
      f.deferrals.toNat + count ≤ limit.toNat ∨ limit = 0xFFFF := by
  have word := limit.toNat_lt
  have top : limit = 0xFFFF ↔ limit.toNat = 0xFFFF := UInt16.toNat_inj.symm
  rw [UInt16.le_iff_toNat_le, toNat_deferredBy, top]
  omega

end QueuedFrame

/-- Where a grid is moved on to depends on where it starts only. -/
theorem TimeBase.caughtUp_congr {t u : TimeBase} (same : u.origin = t.origin)
    (now period : Ticks) : (u.caughtUp now period).origin = (t.caughtUp now period).origin := by
  rw [caughtUp, caughtUp, same]
  split
  · exact same
  · rfl

/-- Whether a report says that a frame expired. -/
def Event.isExpiry : Event → Bool
  | .sent _ .expired _ => true
  | _ => false

/-- The report that a frame expired, if the deed was that, whether it found room or not. -/
def JournalEntry.expiry? : JournalEntry → Option Event
  | .posted event | .dropped event => if event.isExpiry then some event else none
  | _ => none

theorem Event.makers_of_isExpiry {event : Event} (expired : event.isExpiry = true) :
    event.makers = [.defer] := by
  unfold isExpiry at expired
  split at expired
  · rfl
  · cases expired

theorem JournalEntry.expiry?_eq_none {entry : JournalEntry} {d : Deed}
    (writes : d ∈ entry.writers) (other : d ≠ .defer) : entry.expiry? = none := by
  have reports {event : Event} (makes : d ∈ event.makers) : event.isExpiry = false := by
    refine Bool.eq_false_iff.mpr fun expired => other ?_
    rw [Event.makers_of_isExpiry expired] at makes
    exact List.mem_singleton.mp makes
  cases entry with
  | posted event => simp [expiry?, reports writes]
  | dropped event => simp [expiry?, reports writes]
  | _ => rfl

/-- Reports of frames that expired, oldest first, whether they found room or not. -/
def Journal.expiries (j : Journal) : List Event := j.collect JournalEntry.expiry?

namespace Node

variable {M ε : Type} [Medium M ε] {n m k : Node M} {kinds : List Deed} {d : Deed}
  {frame : QueuedFrame} {stimulus : Stimulus M}

/-! ## What is counted -/

/-- Whether a frame waits that would not be sent now, in the owned slot. -/
def stuck (n : Node M) : Bool :=
  n.outbox.any fun frame => n.inFlight.isSome || !n.accepts .data (n.dataFrame frame)

/-- Whether a frame waits that misses its slot: the slot is over, or it is open and the frame
is not accepted. -/
def misses (n : Node M) : Bool :=
  match n.placement with
  | .error _ => false
  | .ok (placement, _) =>
    match placement.phase with
    | .early => false
    | .inside => n.stuck
    | .late _ => n.outbox.isSome

/-- Whether an operation counts a deferral: the slot alarm comes, not for a backoff, and the
frame that waits misses its slot. -/
def defers (n : Node M) (operation : Operation) : Bool :=
  operation = .alarmFired .slot && n.arbitration != .backingOff && n.misses

/-- Whether a stimulus leads to an operation that counts a deferral. -/
def charges (n : Node M) (stimulus : Stimulus M) : Bool :=
  (n.prompted? stimulus).any (n.facing stimulus).defers

/-- How many deferrals are counted over stimuli. -/
def timesDeferred (n : Node M) (stimuli : List (Stimulus M)) : Nat :=
  (n.encounters stimuli).countP fun (facing, operation) => facing.defers operation

theorem misses_eq (sound : n.Sound) :
    n.misses =
      match n.aligned.view.phase with
      | .early => false
      | .inside => n.stuck
      | .late _ => n.outbox.isSome := by
  rw [misses, placement_eq sound]

omit [Medium M ε] in
/-- Where a node stands against its slot depends on when its grid starts, and not on whether
a beacon stands behind it. -/
theorem Same.view (same : Same n m) (grid : m.time.origin = n.time.origin) : m.view = n.view := by
  rw [Node.view, same.config, same.slot, same.offset grid, grid]
  rfl

omit [Medium M ε] in
theorem Same.aligned_view (same : Same n m) (grid : m.time.origin = n.time.origin) :
    m.aligned.view = n.aligned.view := by
  have kept : Same n.aligned m.aligned :=
    ⟨same.address, same.config, same.slot, same.now, same.interval, same.room⟩
  refine kept.view ?_
  show (m.time.caughtUp (fine m.alarms.now) m.config.layout.period).origin = _
  rw [same.now, same.config]
  exact TimeBase.caughtUp_congr grid _ _

theorem misses_congr (sound : n.Sound) (same : Same n m) (grid : m.time.origin = n.time.origin)
    (outbox : m.outbox = n.outbox) (inFlight : m.inFlight = n.inFlight)
    (medium : m.medium = n.medium) (seq : m.seq = n.seq) : m.misses = n.misses := by
  have stuck : m.stuck = n.stuck := by
    simp only [Node.stuck, accepts, dataFrame, same.address, outbox, inFlight, medium, seq]
  rw [misses_eq sound, misses_eq (sound.of_same same), same.aligned_view grid, stuck, outbox]

/-- What comes with the alarm itself has no part in whether the frame misses its slot. -/
theorem misses_spent (sound : n.Sound) : (n.expireSync.spent .slot).misses = n.misses := by
  have expire : Step .expire n n.expireSync := .expire
  have spend : Step .spendSlot n.expireSync (n.expireSync.spent .slot) := .spendSlot
  have grid : n.expireSync.time.origin = n.time.origin := by
    rcases n.expireSync_time with same | ⟨-, same⟩ <;> rw [same]
  have before := expire.kept
  have after := spend.kept
  refine misses_congr sound (expire.same.trans spend.same) ?_
    ((after.outbox (by decide)).trans (before.outbox (by decide)))
    ((after.inFlight (by decide)).trans (before.inFlight (by decide)))
    ((after.medium (by decide)).trans (before.medium (by decide)))
    ((after.seq (by decide)).trans (before.seq (by decide)))
  rw [after.time (by decide)]
  exact grid

/-! ## A look at the slot -/

/-- A look inside the slot on behalf of the slot alarm hands the frame over if it can, and
counts a deferral if that did not happen. -/
theorem useSlot_charges (sound : n.Sound) (owned : n.OwnsNow) :
    Yields (n.useSlot true) fun m => ∃ k, Path [.align, .offer] n k ∧
      (n.stuck = true → k.outbox = n.outbox) ∧ m = if n.stuck then k.deferWaiting else k := by
  rw [useSlot, stuck]
  cases waits : n.outbox with
  | none => exact Yields.ok_iff.mpr ⟨n, .refl n, fun _ => waits, rfl⟩
  | some frame =>
    simp only [Option.isSome_some, if_true, Option.any_some]
    cases flying : n.inFlight with
    | some other =>
      rw [handOver_nothing (.inl (by simp [flying]))]
      exact Yields.ok_iff.mpr ⟨n, .refl n, fun _ => waits, rfl⟩
    | none =>
      rw [handOver_eq sound.room flying waits]
      have handed : Step .offer n (n.offered frame) := .offer flying waits owned
      refine Yields.ok_iff.mpr ⟨n.offered frame, handed.path, ?_, ?_⟩
      · intro refused
        exact offered_waits waits (by simpa using refused)
      · simp

/-- A look on behalf of the slot alarm counts a deferral exactly if the frame that waits
misses its slot, and then asks for the next slot alarm. -/
theorem attendSlot_charges (sound : n.Sound) :
    Yields (n.attendSlot true : Except Fault (Reply ε × Node M)) fun out =>
      ∃ k delay, Path [.align, .offer] n k ∧ (n.misses = true → k.outbox = n.outbox) ∧
        out = (if n.misses then k.deferWaiting else k).armSlotAlarm delay .awaitingSlot := by
  have first : Path [.align, .offer] n n.aligned := n.aligned_path.mono (by decide)
  have inOrder := first.sound sound
  rw [misses_eq sound, attendSlot, placement_eq sound]
  simp only [bind, Except.bind]
  cases phase : n.aligned.view.phase with
  | early => exact Yields.pure_iff.mpr ⟨n.aligned, _, first, fun _ => rfl, rfl⟩
  | late periods => exact Yields.pure_iff.mpr ⟨n.aligned, _, first, fun _ => rfl, rfl⟩
  | inside =>
    have owned := view_inside_iff.mp phase
    have within : Yields (n.aligned.useSlot true) fun m =>
        Path [.offer, .defer] n.aligned m ∧ m.time = n.aligned.time :=
      useSlot_path inOrder owned true (by decide) (by decide)
    refine ((useSlot_charges inOrder owned).and within).bind ?_
    rintro m ⟨⟨k, path, kept, counted⟩, used, -⟩
    have remains := used.sound inOrder
    rw [remains.valid.layout.untilNext_eq remains.slot_lt]
    exact Yields.pure_iff.mpr ⟨k, _, first.trans path, kept,
      congrArg (Node.armSlotAlarm · _ .awaitingSlot) counted⟩

/-- So does the slot alarm that comes, unless it ends a backoff. -/
theorem slotFired_charges (sound : n.Sound) (slot : n.arbitration ≠ .backingOff) :
    Yields (n.alarmFired .slot : Except Fault (Reply ε × Node M)) fun out =>
      ∃ k delay, Path [.expire, .spendSlot, .align, .offer] n k ∧
        (n.misses = true → k.outbox = n.outbox) ∧
        out = (if n.misses then k.deferWaiting else k).armSlotAlarm delay .awaitingSlot := by
  have expire : Step .expire n n.expireSync := .expire
  have spend : Step .spendSlot n.expireSync (n.expireSync.spent .slot) := .spendSlot
  have path : Path [.expire, .spendSlot, .align, .offer] n (n.expireSync.spent .slot) :=
    ((Path.refl n).snoc expire).snoc spend
  have outbox : (n.expireSync.spent .slot).outbox = n.outbox :=
    (spend.kept.outbox (by decide)).trans (expire.kept.outbox (by decide))
  have arbitration : (n.expireSync.spent .slot).arbitration = n.arbitration :=
    (spend.kept.arbitration (by decide)).trans (expire.kept.arbitration (by decide))
  show Yields (if (n.expireSync.spent .slot).arbitration = .backingOff then
    (n.expireSync.spent .slot).endBackoff else (n.expireSync.spent .slot).attendSlot true) _
  rw [arbitration, if_neg slot]
  refine (attendSlot_charges (path.sound sound)).mono ?_
  rintro out ⟨k, delay, looks, kept, same⟩
  rw [misses_spent sound] at kept same
  exact ⟨k, delay, path.trans (looks.mono (by decide)), outbox ▸ kept, same⟩

/-! ## What an operation counts -/

/-- What waited waits on, or a frame was taken over in its place, or nothing waits any more;
no deferral was counted. -/
structure Spares (taken : Option QueuedFrame) (n m : Node M) : Prop where
  deferrals : m.stats.deferrals = n.stats.deferrals
  expiries : m.journal.expiries = n.journal.expiries
  outbox : m.outbox = taken.or n.outbox ∨ m.outbox = none

/-- A deferral was counted for the frame that waits. Beyond the limit it is reported as
expired, and the report is queued if there is room. Otherwise it waits on, provided that the
slot alarm is granted. -/
structure Charges (frame : QueuedFrame) (n m : Node M) : Prop where
  deferrals : m.stats.deferrals = n.stats.deferrals.bump
  expiries : m.journal.expiries = n.journal.expiries ++
    if frame.deferred.deferrals ≤ n.config.maxDeferrals then [] else [.sent frame.token .expired 0]
  events : ¬ frame.deferred.deferrals ≤ n.config.maxDeferrals → m.events =
    if n.events.length < eventCapacity then n.events ++ [.sent frame.token .expired 0]
    else n.events
  outbox : m.outbox =
    if frame.deferred.deferrals ≤ n.config.maxDeferrals ∧ n.alarms.refusal .slot = none then
      some frame.deferred
    else none

theorem Step.expiries (step : Step d n m) (other : d ≠ .defer) :
    m.journal.expiries = n.journal.expiries :=
  step.adds.collect_eq fun _ writes => JournalEntry.expiry?_eq_none writes other

omit [Medium M ε] in
/-- Asking for a slot alarm counts nothing. -/
theorem armSlotAlarm_spares (n : Node M) (delay : Ticks) (purpose : Arbitration) :
    Spares none n (n.armSlotAlarm delay purpose : Reply ε × Node M).2 := by
  have asks : Adds (·.expiry? = none) n (n.armSlotAlarm delay purpose : Reply ε × Node M).2 :=
    armSlotAlarm_adds (fun _ => ⟨rfl, rfl⟩) n delay purpose fun _ => rfl
  refine ⟨?_, asks.collect_eq fun _ none => none,
    (armSlotAlarm_outbox (ε := ε) n delay purpose).imp_right And.left⟩
  obtain ⟨_, _, _, _, _, _, same⟩ := n.armSlotAlarm_eq (ε := ε) delay purpose
  rw [same]

theorem Step.spares (step : Step d n m) (other : d ∉ [.capture, .defer]) : Spares none n m := by
  have kept := step.kept
  have expiries := step.expiries (by grind)
  refine ⟨kept.deferrals (by grind), expiries, ?_⟩
  cases step with
  | capture | defer => simp at other
  | @offer _ frame | @steal _ frame =>
    show (n.offered frame).outbox = n.outbox ∨ (n.offered frame).outbox = none
    rw [offered_outbox]
    split
    · exact .inr rfl
    · exact .inl rfl
  | armSlot delay purpose => exact (armSlotAlarm_spares (ε := ε) n delay purpose).outbox
  | _ => exact .inl (kept.outbox (by decide))

theorem Spares.trans {taken : Option QueuedFrame} (h : Spares taken n m) (h' : Spares none m k) :
    Spares taken n k where
  deferrals := h'.deferrals.trans h.deferrals
  expiries := h'.expiries.trans h.expiries
  outbox := by
    rcases h'.outbox with same | none
    · rw [same]
      exact h.outbox
    · exact .inr none

theorem Path.spares (path : Path kinds n m)
    (other : ∀ d ∈ kinds, d ∉ [.capture, .defer] := by decide) : Spares none n m :=
  path.keeps (P := Spares none n) (fun mem step so_far => so_far.trans (step.spares (other _ mem)))
    ⟨rfl, rfl, .inl rfl⟩

omit [Medium M ε] in
/-- Only a slot alarm that is refused takes the frame that waits. -/
theorem armSlotAlarm_outbox_eq (n : Node M) (delay : Ticks) (purpose : Arbitration) :
    (n.armSlotAlarm delay purpose : Reply ε × Node M).2.outbox =
      if n.alarms.refusal .slot = none then n.outbox else none := by
  rw [armSlotAlarm, AlarmClock.arm, AlarmClock.release_refusal]
  cases n.alarms.refusal .slot with
  | none => rfl
  | some e => exact abandon_outbox _

omit [Medium M ε] in
theorem armSlotAlarm_events (idle : n.outbox = none) (delay : Ticks) (purpose : Arbitration) :
    (n.armSlotAlarm delay purpose : Reply ε × Node M).2.events = n.events := by
  rw [armSlotAlarm]
  split
  · rfl
  · simp [abandon, Outbox.take, idle]

omit [Medium M ε] in
/-- A frame whose deferral is counted waits on, or is beyond the limit and is reported. -/
theorem deferWaiting_charges {frame : QueuedFrame} (waits : n.outbox = some frame) :
    n.deferWaiting.outbox =
        (if frame.deferred.deferrals ≤ n.config.maxDeferrals then some frame.deferred else none) ∧
      n.deferWaiting.journal.expiries = n.journal.expiries ++
        (if frame.deferred.deferrals ≤ n.config.maxDeferrals then []
          else [.sent frame.token .expired 0]) ∧
      (¬ frame.deferred.deferrals ≤ n.config.maxDeferrals → n.deferWaiting.events =
        if n.events.length < eventCapacity then n.events ++ [.sent frame.token .expired 0]
        else n.events) := by
  by_cases within : frame.deferred.deferrals ≤ n.config.maxDeferrals
  · have same : n.deferWaiting =
        { n with outbox := some frame.deferred, stats.deferrals := n.stats.deferrals.bump } := by
      rw [deferWaiting, waits, Outbox.defer_some_of_le within]
    simp [same, within, Journal.expiries]
  · have same : n.deferWaiting =
        { n with
          outbox := none
          stats.deferrals := n.stats.deferrals.bump
          stats.expired := n.stats.expired.bump }.post (.sent frame.token .expired 0) := by
      rw [deferWaiting, waits, Outbox.defer_some_of_lt (UInt16.not_le.mp within)]
      rfl
    obtain ⟨entry, grown, about⟩ := post_journal _ (.sent frame.token .expired 0)
    have expiry : entry.expiry? = some (.sent frame.token .expired 0) := by
      rcases about with rfl | rfl <;> rfl
    rw [deferWaiting_outbox, waits, Outbox.defer_some_of_lt (UInt16.not_le.mp within), same,
      post_events, Journal.expiries, grown]
    simp [within, expiry, Journal.expiries]

/-- A deferral that was counted for the frame that waits, before the next slot alarm was
asked for. -/
theorem Charges.of_path {delay : Ticks} (path : Path [.expire, .spendSlot, .align, .offer] n k)
    (waits : n.outbox = some frame) (kept : k.outbox = n.outbox) :
    Charges frame n (k.deferWaiting.armSlotAlarm delay .awaitingSlot : Reply ε × Node M).2 := by
  have before := path.spares
  have events : k.events = n.events :=
    path.keeps (P := fun k => k.events = n.events)
      (fun mem step so_far => (step.kept.events (by grind)).trans so_far) rfl
  have counts : Step .defer k k.deferWaiting := .defer (by simp [kept, waits])
  obtain ⟨outbox, expiries, reports⟩ := deferWaiting_charges (kept.trans waits)
  have config : k.config = n.config := path.same.config
  have refusal : k.deferWaiting.alarms.refusal = n.alarms.refusal :=
    counts.refusal.trans path.refusal
  obtain ⟨_, _, _, _, _, counted⟩ := k.deferWaiting_eq
  have armed := armSlotAlarm_spares (ε := ε) k.deferWaiting delay .awaitingSlot
  refine ⟨?_, ?_, ?_, ?_⟩
  · rw [armed.deferrals, ← before.deferrals, counted]
  · rw [armed.expiries, ← before.expiries, ← config]
    exact expiries
  · intro beyond
    rw [← config] at beyond
    rw [if_neg beyond] at outbox
    rw [armSlotAlarm_events outbox, reports beyond, events]
  · rw [armSlotAlarm_outbox_eq, outbox, config, refusal]
    grind

theorem outbox_of_misses (sound : n.Sound) (misses : n.misses = true) :
    ∃ frame, n.outbox = some frame := by
  rw [misses_eq sound, stuck] at misses
  refine Option.isSome_iff_exists.mp ?_
  cases waits : n.outbox with
  | none => split at misses <;> simp [waits] at misses
  | some frame => rfl

theorem Sends.spares {token : Token} {destination : Address} {bytes : List UInt8}
    {out : Reply ε × Node M} (h : Sends n token destination bytes out) :
    Spares ((Operation.send token destination bytes).frame? n.fineNow) n out.2 := by
  cases h with
  | long exceeds => exact ⟨rfl, rfl, .inl (by
      simp [Operation.frame?, Payload.ofBytes?_eq_none_iff.mpr exceeds])⟩
  | captured payload same path =>
    have expire : Step .expire n n.expireSync := .expire
    have capture : Step .capture n.expireSync _ :=
      .capture { token, destination, payload, queuedAt := n.fineNow }
    refine Spares.trans ⟨?_, ?_, .inl ?_⟩ path.spares
    · exact (capture.kept.deferrals (by decide)).trans (expire.kept.deferrals (by decide))
    · exact (capture.expiries (by decide)).trans (expire.expiries (by decide))
    · obtain ⟨_, _, _, taken⟩ :=
        n.expireSync.capture_eq { token, destination, payload, queuedAt := n.fineNow }
      rw [taken, same]
      simp [Operation.frame?]

/-- What an operation counts. -/
theorem perform_charges (sound : n.Sound) (operation : Operation) :
    Yields (n.perform operation) fun out =>
      if n.defers operation then ∃ frame, n.outbox = some frame ∧ Charges frame n out.2
      else Spares (operation.frame? n.fineNow) n out.2 := by
  have plain (uncounted : n.defers operation = false) (taken : operation.frame? n.fineNow = none)
      (calm : ∀ d ∈ n.deeds operation, d ∉ [.capture, .defer]) :
      Yields (n.perform operation) fun out =>
        if n.defers operation then ∃ frame, n.outbox = some frame ∧ Charges frame n out.2
        else Spares (operation.frame? n.fineNow) n out.2 := by
    rw [uncounted, taken]
    exact (perform_yields sound operation).mono fun _ done => done.1.spares calm
  cases operation with
  | send token destination bytes =>
    simp only [defers, reduceCtorEq, decide_false, Bool.false_and, Bool.false_eq_true, if_false]
    exact (send_sends sound token destination bytes).bind fun _ done =>
      Yields.pure_iff.mpr done.spares
  | alarmFired kind =>
    cases kind with
    | beacon => exact plain rfl rfl (by simp only [deeds, firing]; decide)
    | slot =>
      by_cases backs : n.arbitration = .backingOff
      · exact plain (by simp [defers, backs]) rfl (by simp only [deeds, firing, backs]; decide)
      · refine (slotFired_charges sound backs).bind ?_
        rintro _ ⟨k, delay, path, kept, rfl⟩
        refine Yields.pure_iff.mpr ?_
        have counts : n.defers (.alarmFired .slot) = n.misses := by simp [defers, backs]
        rw [counts]
        split
        · next misses =>
          obtain ⟨frame, waits⟩ := outbox_of_misses sound misses
          exact ⟨frame, waits, .of_path path waits (kept misses)⟩
        · exact path.spares.trans (armSlotAlarm_spares k delay _)
  | _ => exact plain rfl rfl (by simp only [deeds]; decide)

/-! ## What a stimulus counts -/

/-- The frame that a stimulus hands over to the node, if it does. -/
def handed? (n : Node M) (stimulus : Stimulus M) : Option QueuedFrame :=
  stimulus.operation?.bind (·.frame? n.fineNow)

omit [Medium M ε] in
theorem handed?_eq (n : Node M) (stimulus : Stimulus M) :
    n.handed? stimulus = (n.prompted? stimulus).bind (·.frame? (n.facing stimulus).fineNow) := by
  cases stimulus with
  | fire kind => cases live : n.alarms.first? kind <;> simp [prompted?, live] <;> rfl
  | _ => rfl

omit [Medium M ε] in
/-- No deferrals are counted for a frame before it is handed over. -/
theorem handed?_deferrals (new : n.handed? stimulus = some frame) : frame.deferrals = 0 := by
  obtain ⟨operation, -, handed⟩ := Option.bind_eq_some_iff.mp new
  unfold Operation.frame? at handed
  split at handed
  · obtain ⟨payload, -, rfl⟩ := Option.map_eq_some_iff.mp handed
    rfl
  · cases handed

/-- What a stimulus counts: a deferral if it leads to an operation that counts one, and
nothing else. -/
theorem undergo_charges (sound : n.Sound) (stimulus : Stimulus M) :
    Yields (n.undergo stimulus) fun out =>
      if n.charges stimulus then ∃ frame, n.outbox = some frame ∧ Charges frame n out.2
      else Spares (n.handed? stimulus) n out.2 := by
  obtain ⟨alarms, medium, facing⟩ := n.facing_amid stimulus
  rw [undergo_eq, charges, handed?_eq]
  cases leads : n.prompted? stimulus with
  | none =>
    rw [facing]
    exact Yields.ok_iff.mpr ⟨rfl, rfl, .inl rfl⟩
  | some operation =>
    have refusal : (n.facing stimulus).alarms.refusal = n.alarms.refusal := by
      cases stimulus with
      | operate | fire => rfl
      | _ => cases leads
    refine (perform_charges (sound.facing stimulus) operation).bind fun out counted => ?_
    rw [facing] at counted refusal ⊢
    refine Yields.pure_iff.mpr ?_
    simp only [Option.any_some, Option.bind_some]
    split
    · next defers =>
      rw [if_pos defers] at counted
      obtain ⟨frame, waits, charged⟩ := counted
      refine ⟨frame, waits, charged.deferrals, charged.expiries, charged.events, ?_⟩
      rw [← refusal]
      exact charged.outbox
    · next defers =>
      rw [if_neg defers] at counted
      exact ⟨counted.deferrals, counted.expiries, counted.outbox⟩

/-! ## What a course counts -/

theorem timesDeferred_cons {rest : List (Stimulus M)} {out : Option (Answer ε) × Node M}
    (done : n.undergo stimulus = .ok out) :
    n.timesDeferred (stimulus :: rest) =
      (n.charges stimulus).toNat + out.2.timesDeferred rest := by
  rw [timesDeferred, encounters_cons done, List.countP_append, encounters_singleton, charges,
    timesDeferred]
  cases n.prompted? stimulus with
  | none => rfl
  | some operation => cases counts : (n.facing stimulus).defers operation <;> simp [counts]

/-- All deferrals together are as many as are counted, unless the counter is full. -/
theorem course_deferrals (sound : n.Sound) (rest : List (Stimulus M)) :
    Yields (n.course rest) fun out =>
      out.2.stats.deferrals.toNat =
        min (n.stats.deferrals.toNat + n.timesDeferred rest) 0xFFFFFFFF := by
  induction rest generalizing n with
  | nil =>
    have word := n.stats.deferrals.toNat_lt
    refine Yields.ok_iff.mpr ?_
    simp only [timesDeferred, encounters, List.countP_nil]
    omega
  | cons stimulus rest ih =>
    obtain ⟨out, done, counted, inOrder⟩ :=
      (undergo_charges sound stimulus).and (undergo_sound sound stimulus)
    rw [course, done]
    refine (ih inOrder).bind fun last total => Yields.pure_iff.mpr ?_
    rw [total, timesDeferred_cons done]
    split at counted
    · next charged =>
      obtain ⟨frame, -, counted⟩ := counted
      rw [counted.deferrals, Counter.toNat_bump, charged, Bool.toNat_true]
      omega
    · next spared =>
      rw [counted.deferrals, Bool.eq_false_iff.mpr spared, Bool.toNat_false]
      omega

/-- What became of a frame that waited, when no newer frame came and so many of its
deferrals were counted since. -/
inductive Waited (frame : QueuedFrame) (count : Nat) (n m : Node M) : Prop where
  /-- It waits on, within the limit. -/
  | waits (outbox : m.outbox = some (frame.deferredBy count))
      (within : (frame.deferredBy count).deferrals ≤ n.config.maxDeferrals)
      (expiries : m.journal.expiries = n.journal.expiries)
  /-- It was sent, or given up for want of an alarm, within the limit. -/
  | left (outbox : m.outbox = none)
      (within : (frame.deferredBy count).deferrals ≤ n.config.maxDeferrals)
      (expiries : m.journal.expiries = n.journal.expiries)
  /-- It expired, with the first deferral beyond the limit. -/
  | expired (outbox : m.outbox = none)
      (beyond : frame.deferrals.toNat + count = n.config.maxDeferrals.toNat + 1)
      (limited : n.config.maxDeferrals ≠ 0xFFFF)
      (expiries : m.journal.expiries = n.journal.expiries ++ [.sent frame.token .expired 0])

/-- What became of the frame so far, and then of the frame as it is by then. -/
theorem Waited.trans {count more : Nat} (config : k.config = n.config)
    (expiries : k.journal.expiries = n.journal.expiries)
    (within : (frame.deferredBy count).deferrals ≤ n.config.maxDeferrals)
    (h : Waited (frame.deferredBy count) more k m) : Waited frame (count + more) n m := by
  rw [QueuedFrame.deferredBy_le_iff] at within
  cases h with
  | waits outbox further same =>
    rw [QueuedFrame.deferredBy_deferredBy] at outbox further
    exact .waits outbox (config ▸ further) (same.trans expiries)
  | left outbox further same =>
    rw [QueuedFrame.deferredBy_deferredBy] at further
    exact .left outbox (config ▸ further) (same.trans expiries)
  | expired outbox beyond limited reported =>
    rw [config] at beyond limited
    refine .expired outbox ?_ limited (by rw [reported, expiries]; rfl)
    -- below the largest limit the count so far did not stop
    have small := within.resolve_right limited
    have word := n.config.maxDeferrals.toNat_lt
    rw [QueuedFrame.toNat_deferredBy] at beyond
    omega

/-- No stimulus hands a frame over: what is sent is too long for that. -/
def Unreplaced (stimuli : List (Stimulus M)) : Prop :=
  ∀ token destination bytes, .operate (.send token destination bytes) ∈ stimuli →
    maxPayload < bytes.length

section Unreplaced

variable {rest : List (Stimulus M)}

omit [Medium M ε] in
theorem Unreplaced.tail (h : Unreplaced (stimulus :: rest)) : Unreplaced rest :=
  fun token destination bytes mem => h token destination bytes (List.mem_cons_of_mem _ mem)

omit [Medium M ε] in
theorem Unreplaced.handed? (h : Unreplaced rest) (mem : stimulus ∈ rest) :
    n.handed? stimulus = none := by
  cases stimulus with
  | operate operation =>
    cases operation with
    | send token destination bytes =>
      have long := h token destination bytes mem
      show ((Payload.ofBytes? bytes).map _) = none
      rw [Payload.ofBytes?_eq_none_iff.mpr long, Option.map_none]
    | _ => rfl
  | _ => rfl

/-- Without a frame that waits nothing is counted. -/
theorem course_idle (sound : n.Sound) (idle : n.outbox = none) (unreplaced : Unreplaced rest) :
    Yields (n.course rest) fun out =>
      out.2.outbox = none ∧ out.2.journal.expiries = n.journal.expiries ∧
        n.timesDeferred rest = 0 := by
  induction rest generalizing n with
  | nil => exact Yields.ok_iff.mpr ⟨idle, rfl, rfl⟩
  | cons stimulus rest ih =>
    obtain ⟨out, done, counted, inOrder⟩ :=
      (undergo_charges sound stimulus).and (undergo_sound sound stimulus)
    rw [unreplaced.handed? List.mem_cons_self, idle] at counted
    split at counted
    · obtain ⟨_, waits, -⟩ := counted
      cases waits
    · next spared =>
      have still : out.2.outbox = none := by
        rcases counted.outbox with same | none
        · rw [same, idle]
          rfl
        · exact none
      rw [course, done]
      refine (ih inOrder still unreplaced.tail).bind ?_
      rintro last ⟨none, same, count⟩
      refine Yields.pure_iff.mpr ⟨none, same.trans counted.expiries, ?_⟩
      rw [timesDeferred_cons done, count, Bool.eq_false_iff.mpr spared]
      rfl

/-- A stimulus that counts a deferral counts it for the frame that waits. -/
theorem undergo_waited (sound : n.Sound) (waits : n.outbox = some frame)
    (within : frame.deferrals ≤ n.config.maxDeferrals) (unreplaced : n.handed? stimulus = none) :
    Yields (n.undergo stimulus) fun out =>
      Waited frame (n.charges stimulus).toNat n out.2 := by
  refine (undergo_charges sound stimulus).mono fun out counted => ?_
  split at counted
  · next charged =>
    obtain ⟨_, waited, counted⟩ := counted
    cases waits.symm.trans waited
    have outbox := counted.outbox
    have expiries := counted.expiries
    rw [charged, Bool.toNat_true]
    rw [QueuedFrame.deferred_eq] at outbox expiries
    by_cases stays : (frame.deferredBy 1).deferrals ≤ n.config.maxDeferrals
    · rw [if_pos stays, List.append_nil] at expiries
      by_cases granted : n.alarms.refusal .slot = none
      · exact .waits (by simpa [stays, granted] using outbox) stays expiries
      · exact .left (by simpa [granted] using outbox) stays expiries
    · rw [if_neg stays] at expiries
      rw [if_neg (fun both => stays both.1)] at outbox
      rw [QueuedFrame.deferredBy_le_iff, not_or] at stays
      rw [UInt16.le_iff_toNat_le] at within
      exact .expired outbox (by omega) stays.2 expiries
  · next spared =>
    rw [unreplaced] at counted
    rw [Bool.eq_false_iff.mpr spared, Bool.toNat_false]
    have still := frame.deferredBy_zero
    rcases counted.outbox with same | none
    · exact .waits (still.symm ▸ same.trans waits) (still.symm ▸ within) counted.expiries
    · exact .left none (still.symm ▸ within) counted.expiries

/-- With a frame that waits each deferral that is counted is one of its own, up to the one
with which it expires. -/
theorem course_waited (sound : n.Sound) (waits : n.outbox = some frame)
    (within : frame.deferrals ≤ n.config.maxDeferrals) (unreplaced : Unreplaced rest) :
    Yields (n.course rest) fun out => Waited frame (n.timesDeferred rest) n out.2 := by
  induction rest generalizing n frame with
  | nil =>
    have still := frame.deferredBy_zero
    exact Yields.ok_iff.mpr (.waits (still.symm ▸ waits) (still.symm ▸ within) rfl)
  | cons stimulus rest ih =>
    obtain ⟨out, done, waited, inOrder, config⟩ :=
      (undergo_waited sound waits within (unreplaced.handed? List.mem_cons_self)).and
        ((undergo_sound sound stimulus).and (undergo_config sound stimulus))
    rw [course, done, timesDeferred_cons done]
    cases waited with
    | waits outbox further same =>
      refine (ih inOrder outbox (config ▸ further) unreplaced.tail).bind fun last waited => ?_
      exact Yields.pure_iff.mpr (.trans config same further waited)
    | left outbox further same =>
      refine (course_idle inOrder outbox unreplaced.tail).bind ?_
      rintro last ⟨none, quiet, count⟩
      rw [count]
      exact Yields.pure_iff.mpr (.left none further (quiet.trans same))
    | expired outbox beyond limited reported =>
      refine (course_idle inOrder outbox unreplaced.tail).bind ?_
      rintro last ⟨none, quiet, count⟩
      rw [count]
      exact Yields.pure_iff.mpr (.expired none beyond limited (quiet.trans reported))

end Unreplaced

/-- In no state that a lifetime leads to has the frame that waits more deferrals than the
limit allows. -/
theorem lifetime_limited {config : Config} (valid : config.Valid) (address : Address) (medium : M)
    (alarms : AlarmClock) (words : WordSource) (past : List (Stimulus M)) :
    ∃ answers, ∃ n : Node M,
      lifetime address config medium alarms words past = .ok (.ok (answers, n)) ∧
        (n.config = config ∧
          ∀ frame, n.outbox = some frame → frame.deferrals ≤ config.maxDeferrals) ∧ n.Sound := by
  refine lifetime_yields (P := fun _ _ n => n.config = config ∧
    ∀ frame, n.outbox = some frame → frame.deferrals ≤ config.maxDeferrals) past valid
    ⟨rfl, nofun⟩ ?_
  rintro _ _ n stimulus - sound ⟨same, limited⟩
  refine ((undergo_charges sound stimulus).and (undergo_config sound stimulus)).mono ?_
  rintro out ⟨counted, config⟩
  refine ⟨config.trans same, fun frame waits => ?_⟩
  split at counted
  · obtain ⟨_, -, charged⟩ := counted
    have outbox := charged.outbox
    rw [waits, same] at outbox
    split at outbox
    · next stays =>
      cases outbox
      exact stays.1
    · cases outbox
  · rcases counted.outbox with kept | none
    · cases handed : n.handed? stimulus with
      | none =>
        rw [handed, waits] at kept
        exact limited frame kept.symm
      | some new =>
        rw [handed, waits] at kept
        cases kept
        rw [handed?_deferrals handed]
        exact UInt16.zero_le
    · rw [waits] at none
      cases none

/-! ## A limit that cannot be passed -/

/-- A slot that is over, with a frame that waits for it and a slot alarm that can come. No
number of deferrals is beyond the limit. -/
structure Stalled (n : Node M) : Prop where
  sound : n.Sound
  endless : n.config.maxDeferrals = 0xFFFF
  waits : n.outbox.isSome
  slot : n.arbitration ≠ .backingOff
  comes : (n.alarms.first? .slot).isSome
  granted : n.alarms.refusal .slot = none
  /-- The grid is up to date. -/
  recent : n.offset < 2 ^ 30
  late : n.view.phase ≠ .early ∧ n.view.phase ≠ .inside

omit [Medium M ε] in
/-- A slot alarm that is granted can come. -/
theorem armSlotAlarm_granted (granted : n.alarms.refusal .slot = none) (delay : Ticks)
    (purpose : Arbitration) :
    let m := (n.armSlotAlarm delay purpose : Reply ε × Node M).2
    m.arbitration = (if n.outbox.isSome then purpose else .idle) ∧
      (m.alarms.first? .slot).isSome ∧ m.alarms.refusal .slot = none := by
  rw [← AlarmClock.release_refusal n.alarms n.slotAlarm] at granted
  simp only [armSlotAlarm, AlarmClock.arm, granted]
  refine ⟨trivial, ?_, granted⟩
  rw [AlarmClock.first?, List.find?_isSome]
  exact ⟨_, List.mem_append_right _ (List.mem_singleton.mpr rfl), rfl⟩

omit [Medium M ε] in
/-- A grid that started shortly ago needs no moving on. -/
theorem aligned_time (recent : n.offset < 2 ^ 30) : n.aligned.time = n.time := by
  have near : n.fineNow.since n.time.origin < TimeBase.catchUpDistance :=
    UInt32.lt_iff_toNat_lt.mpr recent
  rw [aligned, TimeBase.caughtUp, if_pos near]

omit [Medium M ε] in
theorem consumed_same (n : Node M) (kind : AlarmKind) : Same n (n.consumed kind) :=
  ⟨rfl, rfl, rfl, rfl, rfl, id⟩

/-- A grid that started shortly ago stays where it is, unless it is forgotten or started
anew. -/
theorem Path.origin_eq (path : Path kinds n m) (recent : n.offset < 2 ^ 30)
    (other : ∀ d ∈ kinds, d ∉ [.start, .emit, .anchor] := by decide) :
    m.time.origin = n.time.origin := by
  have kept : Same n m ∧ m.time.origin = n.time.origin := by
    refine path.keeps (P := fun k => Same n k ∧ k.time.origin = n.time.origin) ?_
      ⟨.refl n, rfl⟩
    rintro a b d mem step ⟨same, grid⟩
    refine ⟨same.trans step.same, Eq.trans ?_ grid⟩
    have calm := other d mem
    have kept := step.kept
    cases step with
    | start | begin | emit | emitRefused | anchor => simp at calm
    | align => rw [aligned_time (same.offset grid ▸ recent)]
    | expire => rcases a.expireSync_time with same | ⟨-, same⟩ <;> rw [same]
    | _ => rw [kept.time (by decide)]
  exact kept.2

namespace Stalled

omit [Medium M ε] in
theorem unlimited (h : n.Stalled) (count : UInt16) : count ≤ n.config.maxDeferrals := by
  rw [h.endless, UInt16.le_iff_toNat_le]
  exact Nat.le_of_lt_succ count.toNat_lt

theorem misses (h : n.Stalled) : n.misses = true := by
  have still : Same n n.aligned := n.aligned_path.same
  obtain ⟨early, inside⟩ := h.late
  rw [misses_eq h.sound, still.view (congrArg TimeBase.origin (aligned_time h.recent))]
  cases phase : n.view.phase with
  | early => exact absurd phase early
  | inside => exact absurd phase inside
  | late => exact h.waits

/-- The callback has no part in that. -/
theorem misses_consumed (h : n.Stalled) : (n.consumed .slot).misses = true := by
  rw [misses_congr h.sound (n.consumed_same .slot) rfl rfl rfl rfl rfl]
  exact h.misses

theorem charges (h : n.Stalled) : n.charges (.fire .slot) = true := by
  obtain ⟨callback, comes⟩ := Option.isSome_iff_exists.mp h.comes
  have slot : (n.consumed .slot).arbitration ≠ .backingOff := h.slot
  simp [Node.charges, prompted?, comes, facing, defers, h.misses_consumed, slot]

/-- A slot alarm that is asked for after a deferral was counted leaves all as it was, but for
the count. -/
theorem rearmed (h : n.Stalled) {delay : Ticks}
    (path : Path [.expire, .spendSlot, .align, .offer] (n.consumed .slot) k)
    (kept : k.outbox = n.outbox) :
    (k.deferWaiting.armSlotAlarm delay .awaitingSlot : Reply ε × Node M).2.Stalled := by
  obtain ⟨frame, waits⟩ := Option.isSome_iff_exists.mp h.waits
  have counts : Step .defer k k.deferWaiting := .defer (by rw [kept, waits]; rfl)
  have granted : k.deferWaiting.alarms.refusal .slot = none := by
    rw [counts.refusal, path.refusal]
    exact h.granted
  obtain ⟨arbitration, comes, granted⟩ := armSlotAlarm_granted (ε := ε) granted delay .awaitingSlot
  have charged : Charges frame (n.consumed .slot)
      (k.deferWaiting.armSlotAlarm delay .awaitingSlot : Reply ε × Node M).2 :=
    .of_path path waits kept
  have same : Same n (k.deferWaiting.armSlotAlarm delay .awaitingSlot : Reply ε × Node M).2 :=
    (n.consumed_same .slot).trans (path.same.trans (counts.same.trans (armSlotAlarm_same ..)))
  have grid : (k.deferWaiting.armSlotAlarm delay .awaitingSlot : Reply ε × Node M).2.time.origin =
      n.time.origin := by
    obtain ⟨_, _, _, _, _, _, armed⟩ :=
      k.deferWaiting.armSlotAlarm_eq (ε := ε) delay .awaitingSlot
    rw [armed]
    exact (congrArg TimeBase.origin (counts.kept.time (by decide))).trans (path.origin_eq h.recent)
  refine ⟨h.sound.of_same same, same.config ▸ h.endless, ?_, ?_, comes, granted,
    same.offset grid ▸ h.recent, same.view grid ▸ h.late⟩
  · rw [charged.outbox, if_pos ⟨h.unlimited _, h.granted⟩]
    rfl
  · rw [arbitration]
    split <;> decide

/-- With the clock at a stand a slot alarm that comes leaves another one to come. -/
theorem fire (h : n.Stalled) : Yields (n.undergo (.fire .slot)) fun out => out.2.Stalled := by
  obtain ⟨callback, comes⟩ := Option.isSome_iff_exists.mp h.comes
  have inOrder : (n.consumed .slot).Sound := h.sound.amid _ _
  rw [undergo_fire_eq comes]
  refine (slotFired_charges inOrder h.slot).bind ?_
  rintro _ ⟨k, delay, path, kept, rfl⟩
  rw [if_pos h.misses_consumed]
  exact Yields.pure_iff.mpr (h.rearmed path (kept h.misses_consumed))

theorem course (h : n.Stalled) (count : Nat) :
    Yields (n.course (List.replicate count (.fire .slot))) fun out =>
      out.2.Stalled ∧ n.timesDeferred (List.replicate count (.fire .slot)) = count := by
  induction count generalizing n with
  | zero => exact Yields.ok_iff.mpr ⟨h, rfl⟩
  | succ count ih =>
    obtain ⟨out, done, stalled⟩ := h.fire
    rw [List.replicate_succ, Node.course, done, timesDeferred_cons done, h.charges]
    refine (ih stalled).bind ?_
    rintro last ⟨onward, counted⟩
    exact Yields.pure_iff.mpr ⟨onward, by rw [counted, Bool.toNat_true, Nat.add_comm]⟩

/-- The frame waits on, however often its slot passes. -/
theorem course_waits (h : n.Stalled) (waits : n.outbox = some frame) (count : Nat) :
    Yields (n.course (List.replicate count (.fire .slot))) fun out =>
      out.2.Stalled ∧ out.2.outbox = some (frame.deferredBy count) := by
  have unreplaced : Unreplaced (List.replicate count (.fire .slot : Stimulus M)) := by
    intro _ _ _ mem
    cases List.eq_of_mem_replicate mem
  refine ((h.course count).and (course_waited h.sound waits (h.unlimited _) unreplaced)).mono ?_
  rintro out ⟨⟨after, counted⟩, fate⟩
  rw [counted] at fate
  refine ⟨after, ?_⟩
  cases fate with
  | waits outbox => exact outbox
  | left gone =>
    have waits := after.waits
    rw [gone] at waits
    cases waits
  | expired _ _ limited => exact absurd h.endless limited

/-- A count at its largest value stays there. -/
theorem fire_full (h : n.Stalled) (waits : n.outbox = some frame)
    (full : frame.deferrals = 0xFFFF) :
    Yields (n.undergo (.fire .slot)) fun out => out.2.outbox = some frame := by
  refine (undergo_charges h.sound (.fire .slot)).mono fun out counted => ?_
  rw [if_pos h.charges] at counted
  obtain ⟨_, waited, charged⟩ := counted
  cases waits.symm.trans waited
  have same : frame.deferred = frame := by
    rw [QueuedFrame.deferred_eq, QueuedFrame.deferredBy_full _ full]
  rw [charged.outbox, same, if_pos ⟨h.unlimited _, h.granted⟩]

end Stalled

end Node

open Node

variable {M ε : Type} [Medium M ε]

/-- In every state that a lifetime leads to, a stimulus counts a deferral exactly if it brings a
slot alarm, not for a backoff, and the frame that waits misses its slot; then it counts one,
for the node and for that frame. All others leave both counts alone, and a frame that is taken
over begins with none. As long as no other frame takes its place, a frame has as many
deferrals as were counted since; it expires, with one report, with the first one beyond the
limit. Where the limit is the largest count it never does. -/
theorem deferrals_accounted {config : Config} (valid : config.Valid) (address : Address)
    (medium : M) (alarms : AlarmClock) (words : WordSource) (past : List (Stimulus M)) :
    ∃ answers, ∃ n : Node M,
      lifetime address config medium alarms words past = .ok (.ok (answers, n)) ∧
      (∀ frame, n.outbox = some frame → frame.deferrals ≤ config.maxDeferrals) ∧
      (∀ stimulus, Yields (n.undergo stimulus) fun out =>
        if n.charges stimulus then ∃ frame, n.outbox = some frame ∧ Charges frame n out.2
        else Spares (n.handed? stimulus) n out.2) ∧
      (∀ stimulus frame, n.handed? stimulus = some frame → frame.deferrals = 0) ∧
      ∀ rest, Yields (n.course rest) fun out =>
        out.2.stats.deferrals.toNat =
          min (n.stats.deferrals.toNat + n.timesDeferred rest) 0xFFFFFFFF ∧
        ∀ frame, n.outbox = some frame → Unreplaced rest →
          Waited frame (n.timesDeferred rest) n out.2 := by
  obtain ⟨answers, n, lived, ⟨same, limited⟩, sound⟩ :=
    lifetime_limited valid address medium alarms words past
  refine ⟨answers, n, lived, limited, undergo_charges sound, fun _ _ => handed?_deferrals,
    fun rest => ?_⟩
  obtain ⟨out, done, total⟩ := course_deferrals sound rest
  refine ⟨out, done, total, fun frame waits unreplaced => ?_⟩
  exact (course_waited sound waits (same ▸ limited frame waits) unreplaced).of_ok done

/-- A frame that came after its slot, at a node whose frames may wait for one period. -/
def tooLate : List (Stimulus RecordingMedium) := [.clock 700000, .operate (.send 1 0 [1])]

/-- It is kept at the first slot alarm, and expires at the second one. -/
theorem deferrals_accounted_twice :
    ∃ answers, ∃ n : Node RecordingMedium, ∃ replies m, ∃ frame : QueuedFrame,
      lifetime 3 { maxDeferrals := 1 } {} {} (.cycle []) tooLate = .ok (.ok (answers, n)) ∧
        n.outbox = some frame ∧ frame.deferrals = 0 ∧
        n.course [.fire .slot, .fire .slot] = .ok (replies, m) ∧
        m.stats.deferrals = 2 ∧ m.outbox = none ∧
        m.journal.expiries = [.sent 1 .expired 0] := by
  have valid : ({ maxDeferrals := 1 } : Config).Valid := Config.check_eq_ok_iff.mp rfl
  obtain ⟨answers, n, lived, -, -, -, onward⟩ :=
    deferrals_accounted valid 3 ({} : RecordingMedium) {} (.cycle []) tooLate
  obtain ⟨_, _, same, waits, counter, expiries, config, count⟩ :
      ∃ answers, ∃ n : Node RecordingMedium,
        lifetime 3 { maxDeferrals := 1 } {} {} (.cycle []) tooLate = .ok (.ok (answers, n)) ∧
          n.outbox.any (fun frame => frame.token = 1 ∧ frame.deferrals = 0) ∧
          n.stats.deferrals = 0 ∧ n.journal.expiries = [] ∧ n.config.maxDeferrals = 1 ∧
          n.timesDeferred [.fire .slot, .fire .slot] = 2 :=
    exists_lifetime valid (by decide +kernel)
  cases lived.symm.trans same
  obtain ⟨frame, waits, new⟩ := (Option.any_eq_true ..).mp waits
  obtain ⟨token, zero⟩ := of_decide_eq_true new
  obtain ⟨⟨replies, m⟩, done, total, waited⟩ := onward [.fire .slot, .fire .slot]
  rw [counter, count] at total
  have fate := waited frame waits (by simp [Unreplaced])
  rw [count] at fate
  refine ⟨answers, n, replies, m, frame, lived, waits, zero, done, UInt32.toNat_inj.mp total, ?_⟩
  cases fate with
  | expired none beyond limited reported => exact ⟨none, by simpa [expiries, token] using reported⟩
  | waits _ within | left _ within =>
    rw [QueuedFrame.deferredBy_le_iff, zero, config] at within
    exact absurd within (by decide)

/-- So many frames that came after their slot, one after another, that the reports about all
but the last one fill the queue. -/
def tooMany : List (Stimulus RecordingMedium) :=
  .clock 700000 :: (List.range 16).map fun token => .operate (.send (.ofNat token) 0 [1])

/-- A frame that has been deferred as often as can be counted is deferred again, and its count
stays where it is. A frame expires, and the report about that finds no room. -/
theorem deferral_uncounted_and_unreported :
    (∃ answers, ∃ n : Node RecordingMedium, ∃ out, ∃ frame : QueuedFrame,
      lifetime 3 { maxDeferrals := 0xFFFF } {} {} (.cycle [])
          (tooLate ++ List.replicate 65535 (.fire .slot)) = .ok (.ok (answers, n)) ∧
        n.outbox = some frame ∧ frame.deferrals = 0xFFFF ∧ n.charges (.fire .slot) = true ∧
        n.undergo (.fire .slot) = .ok out ∧ out.2.outbox = some frame) ∧
    ∃ answers, ∃ n : Node RecordingMedium,
      lifetime 3 { maxDeferrals := 0 } {} {} (.cycle []) tooMany = .ok (.ok (answers, n)) ∧
        n.outbox.isSome ∧ n.charges (.fire .slot) = true ∧
        (n.undergo (.fire .slot)).toOption.any fun out =>
          out.2.outbox = none ∧ out.2.events.all (!·.isExpiry) := by
  constructor
  · have valid : ({ maxDeferrals := 0xFFFF } : Config).Valid := Config.check_eq_ok_iff.mp rfl
    obtain ⟨before, n, lived, ⟨config, -⟩, sound⟩ :=
      lifetime_limited valid 3 ({} : RecordingMedium) {} (.cycle []) tooLate
    obtain ⟨_, _, same, waits, slot, comes, granted, recent, late⟩ :
        ∃ answers, ∃ n : Node RecordingMedium,
          lifetime 3 { maxDeferrals := 0xFFFF } {} {} (.cycle []) tooLate =
              .ok (.ok (answers, n)) ∧
            n.outbox.isSome ∧ n.arbitration ≠ .backingOff ∧ (n.alarms.first? .slot).isSome ∧
            n.alarms.refusal .slot = none ∧ n.offset < 2 ^ 30 ∧
            n.view.phase ≠ .early ∧ n.view.phase ≠ .inside :=
      exists_lifetime valid (by decide +kernel)
    cases lived.symm.trans same
    have stalled : n.Stalled := ⟨sound, by rw [config], waits, slot, comes, granted, recent, late⟩
    obtain ⟨frame, waits⟩ := Option.isSome_iff_exists.mp waits
    obtain ⟨⟨replies, m⟩, done, after, outbox⟩ := stalled.course_waits waits 65535
    have full : (frame.deferredBy 65535).deferrals = 0xFFFF := by
      rw [← UInt16.toNat_inj, QueuedFrame.toNat_deferredBy]
      exact Nat.min_eq_right (Nat.le_add_left ..)
    obtain ⟨out, fired, still⟩ := after.fire_full outbox full
    exact ⟨_, m, out, _, lifetime_append valid lived done, outbox, full, after.charges, fired,
      still⟩
  · exact exists_lifetime (Config.check_eq_ok_iff.mp rfl) (by decide +kernel)

end SlottedMac
