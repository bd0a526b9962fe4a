import SlottedMac.Proofs.Access

/-!
# What the arbitration state stands for

The arbitration state is written when the slot alarm is asked for, and at no other time; the
frame that waits, the frame in flight and the alarm itself change in between. What it says can
be relied on nevertheless: a node that backs off or awaits its slot has a frame to send and an
alarm that comes for it, whatever was refused on the way.

What it does not say cannot. A frame that is taken over while the alarm already ticks for the
slot may be left to that alarm, and nothing is written then. Until the alarm is next asked for,
the state is that of a node in which nothing waits.
-/

namespace SlottedMac

open Node (Deed)

/-- What a slot alarm was asked for, if the deed was that. -/
def JournalEntry.purpose? : JournalEntry → Option Arbitration
  | .slotAlarm _ purpose _ => some purpose
  | _ => none

theorem JournalEntry.purpose?_eq_none {entry : JournalEntry} {d : Deed}
    (writes : d ∈ entry.writers) (other : d ≠ .armSlot) : entry.purpose? = none := by
  cases entry with
  | slotAlarm delay purpose granted =>
    simp only [writers, List.mem_singleton] at writes
    exact absurd writes other
  | _ => rfl

namespace Journal

/-- What slot alarms were asked for, oldest first. -/
def purposes (j : Journal) : List Arbitration := j.collect JournalEntry.purpose?

theorem purposes_append (later earlier : Journal) :
    purposes (later ++ earlier) = earlier.purposes ++ later.purposes :=
  collect_append later earlier _

end Journal

namespace Node

variable {M ε : Type} {n m k : Node M}

/-- The arbitration state is one that the rest of the node bears out. -/
structure Obliged (n : Node M) : Prop where
  backingOff : n.arbitration = .backingOff →
    n.config.mode = .zmac ∧ n.outbox.isSome ∧ n.inFlight = none ∧ n.slotAlarm.isSome
  awaitingSlot : n.arbitration = .awaitingSlot → n.outbox.isSome ∧ n.slotAlarm.isSome

theorem Obliged.idle (h : n.Obliged) (nothing : n.outbox = none) : n.arbitration = .idle := by
  cases purpose : n.arbitration with
  | idle => rfl
  | awaitingSlot => simpa [nothing] using (h.awaitingSlot purpose).1
  | backingOff => simpa [nothing] using (h.backingOff purpose).2.1

/-- A node that is set up owes nothing. -/
theorem fresh_obliged (address : Address) (config : Config) (medium : M) (alarms : AlarmClock)
    (words : WordSource) : (fresh address config medium alarms words).Obliged where
  backingOff backs := by cases backs
  awaitingSlot awaits := by cases awaits

/-- A frame waits of which the arbitration state does not tell. -/
def Hides (n : Node M) : Prop := n.arbitration = .idle ∧ n.outbox.isSome

/-- A frame that is taken over now is left to the alarm in use, whatever that is for: it is not
time for the slot, and the node does not back off. -/
def LeavesToAlarm (n : Node M) : Prop :=
  n.slotAlarm.isSome ∧ ¬ n.OwnsNow ∧ (n.config.mode = .tdma ∨ n.inFlight.isSome)

/-- An operation by which a frame is left to the alarm in use. -/
def Overlooks (n : Node M) : Operation → Prop
  | .send _ _ bytes => bytes.length ≤ maxPayload ∧ n.LeavesToAlarm
  | _ => False

/-! ## What may become of a wait -/

/-- Nothing is decided anew about the frame that waits. -/
structure Abides (n m : Node M) : Prop where
  config : m.config = n.config
  arbitration : m.arbitration = n.arbitration
  outbox : m.outbox = n.outbox
  slotAlarm : m.slotAlarm = n.slotAlarm
  inFlight : n.inFlight = none → m.inFlight = none
  purposes : m.journal.purposes = n.journal.purposes

namespace Abides

theorem refl (n : Node M) : Abides n n := ⟨rfl, rfl, rfl, rfl, id, rfl⟩

theorem trans (h : Abides n m) (h' : Abides m k) : Abides n k where
  config := h'.config.trans h.config
  arbitration := h'.arbitration.trans h.arbitration
  outbox := h'.outbox.trans h.outbox
  slotAlarm := h'.slotAlarm.trans h.slotAlarm
  inFlight idle := h'.inFlight (h.inFlight idle)
  purposes := h'.purposes.trans h.purposes

theorem obliged (h : Abides n m) (obliged : n.Obliged) : m.Obliged where
  backingOff backs := by
    obtain ⟨mode, waits, idle, held⟩ := obliged.backingOff (h.arbitration ▸ backs)
    exact ⟨h.config ▸ mode, h.outbox ▸ waits, h.inFlight idle, h.slotAlarm ▸ held⟩
  awaitingSlot awaits := by
    obtain ⟨waits, held⟩ := obliged.awaitingSlot (h.arbitration ▸ awaits)
    exact ⟨h.outbox ▸ waits, h.slotAlarm ▸ held⟩

theorem hides_iff (h : Abides n m) : m.Hides ↔ n.Hides := by
  rw [Hides, Hides, h.arbitration, h.outbox]

end Abides

/-- What the slot alarm is asked for: the owned slot, or the end of a backoff of a node that
may steal and has nothing in flight. -/
def Intends (n : Node M) (purpose : Arbitration) : Prop :=
  purpose = .awaitingSlot ∨
    purpose = .backingOff ∧ n.config.mode = .zmac ∧ n.inFlight = none

/-- With the slot alarm asked for, either nothing waits, or a frame waits for what the alarm
is there for. -/
theorem armSlotAlarm_tells (n : Node M) (delay : Ticks) (purpose : Arbitration) :
    let out : Node M := (n.armSlotAlarm delay purpose : Reply ε × Node M).2
    out.outbox = none ∧ out.arbitration = .idle ∨
      out.outbox.isSome ∧ out.arbitration = purpose ∧ out.slotAlarm.isSome ∧
        out.inFlight = n.inFlight := by
  rw [armSlotAlarm]
  split
  · cases waits : n.outbox with
    | none => exact .inl ⟨rfl, rfl⟩
    | some frame => exact .inr ⟨rfl, rfl, rfl, rfl⟩
  · obtain ⟨_, _, _, same⟩ := abandon_eq _
    dsimp only
    rw [same]
    exact .inl ⟨rfl, rfl⟩

theorem armSlotAlarm_purposes (n : Node M) (delay : Ticks) (purpose : Arbitration) :
    (n.armSlotAlarm delay purpose : Reply ε × Node M).2.journal.purposes =
      n.journal.purposes ++ [purpose] := by
  obtain ⟨reports, granted, asked, given⟩ := n.armSlotAlarm_writes (ε := ε) delay purpose
  have none : reports.purposes = [] := by
    refine Journal.collect_eq_nil fun entry mem => ?_
    obtain ⟨token, rfl | rfl⟩ := given entry mem
    · rfl
    · rfl
  rw [asked, Journal.purposes_append, none, List.append_nil]
  exact Journal.collect_cons ..

/-- The deeds that decide about the frame that waits, or use up its alarm. -/
def Deed.deciding : List Deed := [.capture, .offer, .steal, .defer, .armSlot, .spendSlot]

section Medium

variable [Medium M ε] {kinds more : List Deed} {d : Deed}

theorem Step.abides (step : Step d n m) (aside : d ∉ Deed.deciding) : Abides n m := by
  have kept := step.kept
  have other {kinds : List Deed} (sub : kinds ⊆ Deed.deciding := by decide) : d ∉ kinds :=
    fun mem => aside (sub mem)
  have arms : d ∉ [.armSlot] := other
  have arms : d ≠ .armSlot := by simpa using arms
  refine ⟨step.same.config, kept.arbitration arms, kept.outbox other, kept.slotAlarm other, ?_,
    step.adds.collect_eq fun _ writes => JournalEntry.purpose?_eq_none writes arms⟩
  intro idle
  cases step with
  | complete channel completion transmissions =>
    simp [Node.complete, idle]
  | offer | steal => simp [Deed.deciding] at aside
  | _ => exact (kept.inFlight (by decide)).trans idle

theorem Path.abides (path : Path kinds n m)
    (aside : ∀ d ∈ kinds, d ∉ Deed.deciding := by decide) : Abides n m :=
  path.keeps (P := Abides n) (fun mem step so_far => so_far.trans (step.abides (aside _ mem)))
    (.refl n)

/-- Something was decided about the frame that waits: the slot alarm was asked for, and
since then nothing happened. -/
structure Decides (n m : Node M) : Prop where
  obliged : m.Obliged
  shows : ¬ m.Hides
  purposes : n.journal.purposes.length < m.journal.purposes.length

omit [Medium M ε] in
theorem purposes_extend {allowed : JournalEntry → Prop} (grown : Adds allowed n m) :
    n.journal.purposes <+: m.journal.purposes := by
  obtain ⟨added, same, -⟩ := grown
  rw [same, Journal.purposes_append]
  exact List.prefix_append _ _

theorem Decides.after (first : Path kinds n m) (h : Decides m k) : Decides n k :=
  { h with purposes := Nat.lt_of_le_of_lt (purposes_extend first.adds).length_le h.purposes }

omit [Medium M ε] in
theorem armSlotAlarm_decides {purpose : Arbitration} (intends : n.Intends purpose)
    (delay : Ticks) : Decides n (n.armSlotAlarm delay purpose : Reply ε × Node M).2 := by
  have config := (armSlotAlarm_same (ε := ε) n delay purpose).config
  have told := armSlotAlarm_tells (ε := ε) n delay purpose
  have asked : n.journal.purposes.length <
      (n.armSlotAlarm delay purpose : Reply ε × Node M).2.journal.purposes.length := by
    simp [armSlotAlarm_purposes]
  generalize (n.armSlotAlarm delay purpose : Reply ε × Node M).2 = out at *
  rcases told with ⟨none, idle⟩ | ⟨waits, tells, held, flying⟩
  · refine ⟨⟨?_, ?_⟩, ?_, asked⟩
    · simp [idle]
    · simp [idle]
    · simp [Hides, none]
  · rcases intends with rfl | ⟨rfl, mode, free⟩
    · exact ⟨⟨by simp [tells], fun _ => ⟨waits, held⟩⟩, by simp [Hides, tells], asked⟩
    · exact ⟨⟨fun _ => ⟨config ▸ mode, waits, flying.trans free, held⟩, by simp [tells]⟩,
        by simp [Hides, tells], asked⟩

theorem Looks.decides {out : Reply ε × Node M} (h : Looks kinds n out) : Decides n out.2 := by
  obtain ⟨m, first, -, same⟩ := h
  rw [same]
  exact .after first (armSlotAlarm_decides (.inl rfl) _)

/-! ## Operations -/

/-- Nothing was decided about the frame that waits, or it was and that came last. -/
def Minds (n m : Node M) : Prop := Abides n m ∨ Decides n m

theorem Path.minds (path : Path kinds n m)
    (aside : ∀ d ∈ kinds, d ∉ Deed.deciding := by decide) (h : Minds m k) : Minds n k := by
  rcases h with abides | decides
  · exact .inl ((path.abides aside).trans abides)
  · exact .inr (decides.after path)

theorem Restarts.minds {out : Reply ε × Node M} (h : Restarts n out) :
    Minds n.anchored out.2 := by
  rcases h with ⟨-, looks⟩ | ⟨-, rfl⟩
  · exact .inr looks.decides
  · exact .inl (.refl _)

theorem Broadcasts.minds {out : Reply ε × Node M} (h : Broadcasts n out) : Minds n out.2 := by
  cases h with
  | refused role declined =>
    have handed : Path [.emit] n _ := (Step.emitRefused role declined).path
    exact .inl handed.abides
  | sent role accepted rest =>
    have handed : Path [.emit] n n.emitted := (Step.emit role accepted).path
    exact handed.minds (by decide) rest.minds

theorem Heeds.minds {out : Reply ε × Node M} (h : Heeds n out) : Minds n out.2 := by
  cases h with
  | arranges path => exact .inl path.abides
  | follows path role rest =>
    have anchored : Path (.anchor :: Deed.heeding) n _ :=
      (path.mono (by decide)).snoc (.anchor role)
    exact anchored.minds (by decide) rest.minds
  | broadcasts path rest => exact path.minds (by decide) rest.minds

/-- What becomes of a wait in an operation. -/
inductive Arbitrates (n : Node M) (operation : Operation) (m : Node M) : Prop where
  | minds (seen : ¬ n.Overlooks operation) (minds : Minds n m)
  /-- A frame was taken over, and all that the node knew of its alarm is as it was. -/
  | overlooks (overlooked : n.Overlooks operation) (config : m.config = n.config)
      (arbitration : m.arbitration = n.arbitration) (waits : m.outbox.isSome)
      (slotAlarm : m.slotAlarm = n.slotAlarm) (purposes : m.journal.purposes = n.journal.purposes)

theorem arrange_minds (sound : n.Sound) :
    Yields (n.arrange : Except Fault (Reply ε × Node M)) fun out =>
      ¬ n.LeavesToAlarm ∧ Decides n out.2 ∨ n.LeavesToAlarm ∧ out.2 = n.aligned := by
  have inOrder := n.aligned_path.sound sound
  have inside : n.aligned.view.isInside ↔ n.OwnsNow := by
    rw [Placement.isInside_iff, view_inside_iff]
    exact Layout.owns_congr n.aligned_phase
  rw [arrange, placement_eq sound]
  simp only [bind, Except.bind]
  split
  · next contends =>
    obtain ⟨mode, -, free⟩ := contends
    have free : n.inFlight = none := by simpa [aligned] using free
    have drawn : Path [.align, .draw] n _ := (n.aligned_path.mono (by decide)).snoc .draw
    refine Yields.pure_iff.mpr (.inl ⟨?_, .after drawn (armSlotAlarm_decides ?_ _)⟩)
    · rintro ⟨-, -, tdma | flying⟩
      · cases tdma.symm.trans mode
      · simp [free] at flying
    · exact .inr ⟨rfl, mode, free⟩
  · next keeps =>
    split
    · next looks =>
      refine (attendSlot_looks [.align, .offer, .armSlot] inOrder false).mono fun _ looked =>
        .inl ⟨?_, .after n.aligned_path looked.decides⟩
      rintro ⟨held, outside, -⟩
      rcases Bool.or_eq_true_iff.mp looks with none | within
      · exact absurd held (by simpa [aligned] using none)
      · exact outside (inside.mp within)
    · next leaves =>
      obtain ⟨held, outside⟩ := not_or.mp (mt Bool.or_eq_true_iff.mpr leaves)
      refine Yields.pure_iff.mpr (.inr ⟨⟨?_, ?_, ?_⟩, rfl⟩)
      · simpa [aligned, Option.isSome_iff_ne_none] using held
      · exact fun within => outside (inside.mpr within)
      · have within : n.aligned.view.isInside = false := eq_false_of_ne_true outside
        cases mode : n.config.mode with
        | tdma => exact .inl rfl
        | zmac =>
          refine .inr (Option.isSome_iff_ne_none.mpr fun idle => ?_)
          exact keeps ⟨mode, within, Option.isNone_iff_eq_none.mpr idle⟩

omit [Medium M ε] in
/-- Taking a frame over touches nothing that tells who looks after it. -/
theorem capture_keeps (n : Node M) (frame : QueuedFrame) :
    let m := n.expireSync.capture frame
    m.config = n.config ∧ m.arbitration = n.arbitration ∧ m.slotAlarm = n.slotAlarm ∧
      m.journal.purposes = n.journal.purposes ∧ (m.LeavesToAlarm ↔ n.LeavesToAlarm) := by
  have grown : Adds (·.purpose? = none) n.expireSync (n.expireSync.capture frame) :=
    capture_adds (by simp [Posts, JournalEntry.purpose?]) _ frame rfl
  have asked := grown.collect_eq fun _ none => none
  obtain ⟨_, _, _, captured⟩ := n.expireSync.capture_eq frame
  obtain ⟨_, _, expired⟩ := n.expireSync_eq
  dsimp only
  rw [captured] at asked ⊢
  rw [expired] at asked ⊢
  exact ⟨rfl, rfl, rfl, asked, Iff.rfl⟩

theorem send_arbitrates (sound : n.Sound) (token : Token) (destination : Address)
    (bytes : List UInt8) :
    Yields (n.send token destination bytes : Except Fault (Reply ε × Node M)) fun out =>
      Arbitrates n (.send token destination bytes) out.2 := by
  rw [send]
  split
  · next long =>
    have exceeds := Payload.ofBytes?_eq_none_iff.mp long
    exact Yields.ok_iff.mpr (.minds (fun seen => absurd seen.1 (Nat.not_le.mpr exceeds))
      (.inl (.refl n)))
  · next payload fits =>
    have short : bytes.length ≤ maxPayload := by
      rw [Payload.ofBytes?_eq_some_iff.mp fits]
      exact payload.fits
    let frame : QueuedFrame := { token, destination, payload, queuedAt := n.fineNow }
    have captured := n.capture_path frame
    obtain ⟨config, arbitration, slotAlarm, purposes, leaves⟩ := n.capture_keeps frame
    refine (arrange_minds (captured.sound sound)).mono ?_
    rintro out (⟨heeded, decides⟩ | ⟨left, same⟩)
    · exact .minds (fun seen => heeded (leaves.mpr seen.2)) (.inr (.after captured decides))
    · rw [same]
      exact .overlooks ⟨short, leaves.mp left⟩ config arbitration
        (n.expireSync.capture_outbox frame) slotAlarm purposes

theorem perform_arbitrates (sound : n.Sound) (operation : Operation) :
    Yields (n.perform operation) fun out => Arbitrates n operation out.2 := by
  have path := (perform_yields sound operation).mono fun _ done => done.1
  have quiet (seen : ¬ n.Overlooks operation)
      (aside : ∀ d ∈ n.deeds operation, d ∉ Deed.deciding) :
      Yields (n.perform operation) fun out => Arbitrates n operation out.2 :=
    path.mono fun _ path => .minds seen (.inl (path.abides aside))
  cases operation with
  | send token destination bytes =>
    exact (send_arbitrates sound token destination bytes).bind fun _ done =>
      Yields.pure_iff.mpr done
  | alarmFired kind =>
    cases kind with
    | slot =>
      have expired : Path [.expire] n n.expireSync := Step.expire.path
      have spent : Path [.expire, .spendSlot] n (n.expireSync.spent .slot) :=
        (expired.mono (by decide)).snoc .spendSlot
      exact (slotAlarmFired_looks (expired.sound sound)).bind fun _ looks =>
        Yields.pure_iff.mpr (.minds id (.inr (.after spent looks.decides)))
    | beacon =>
      exact (beaconFired_heeds sound).bind fun _ heeds =>
        Yields.pure_iff.mpr (.minds id heeds.minds)
  | receive bytes =>
    rcases receive_cases (ε := ε) n bytes with ⟨header, heard, same⟩ | ⟨-, path⟩
    · rw [perform, same]
      exact (followBeacon_heeds sound header (role_of_heard heard)).bind fun _ heeds =>
        Yields.pure_iff.mpr (.minds id heeds.minds)
    · exact path.bind fun _ path => Yields.pure_iff.mpr (.minds id (.inl path.abides))
  | _ => exact quiet id (by simp only [deeds]; decide)

omit [Medium M ε] in
theorem Arbitrates.obliged {operation : Operation} (h : Arbitrates n operation m)
    (obliged : n.Obliged) : m.Obliged := by
  cases h with
  | minds seen minds => exact minds.elim (·.obliged obliged) (·.obliged)
  | overlooks overlooked config arbitration waits slotAlarm purposes =>
    cases operation with
    | send token destination bytes =>
      obtain ⟨-, held, -, stays⟩ := overlooked
      refine ⟨fun backs => ?_, fun _ => ⟨waits, slotAlarm ▸ held⟩⟩
      obtain ⟨mode, -, idle, -⟩ := obliged.backingOff (arbitration ▸ backs)
      simp [mode, idle] at stays
    | _ => exact overlooked.elim

omit [Medium M ε] in
/-- A frame is hidden from when it is overlooked until the slot alarm is asked for. -/
theorem Arbitrates.hides_iff {operation : Operation} (h : Arbitrates n operation m)
    (obliged : n.Obliged) :
    m.Hides ↔ (n.Overlooks operation ∧ n.outbox = none ∨ n.Hides) ∧
      m.journal.purposes = n.journal.purposes := by
  cases h with
  | minds seen minds =>
    rw [or_iff_right fun slips => seen slips.1]
    rcases minds with abides | decides
    · rw [abides.hides_iff, and_iff_left abides.purposes]
    · refine iff_of_false decides.shows fun same => ?_
      exact Nat.ne_of_gt decides.purposes (congrArg List.length same.2)
  | overlooks overlooked config arbitration waits slotAlarm purposes =>
    rw [and_iff_right overlooked, and_iff_left purposes]
    rw [Hides, Hides, arbitration, and_iff_left waits]
    cases before : n.outbox with
    | none => simp [obliged.idle before]
    | some frame => simp

/-! ## The end of a backoff -/

/-- What became of a frame, by what was written since an earlier state: it was handed to the
medium, once, and is in flight if the medium took it; or somebody was heard instead. -/
def Disposes (frame : QueuedFrame) (added : Journal) (m : Node M) : Prop :=
  (∃ s, added.submissions = [s] ∧ s.channel = .data ∧ s.queued = some frame ∧
    m.inFlight.isSome = s.accepted) ∨
  .sensed false ∈ added ∧ added.submissions = [] ∧ m.inFlight = none

/-- A frame was disposed of since an earlier state. -/
def Disposed (frame : QueuedFrame) (n m : Node M) : Prop :=
  ∃ added, m.journal = added ++ n.journal ∧ Disposes frame added m

omit [Medium M ε] in
/-- What hands no frame over afterwards changes nothing about that. -/
theorem Disposed.grow {frame : QueuedFrame} (h : Disposed frame n m)
    (adds : Adds (·.submission? = none) m k) (inFlight : k.inFlight = m.inFlight) :
    Disposed frame n k := by
  obtain ⟨added, grown, disposes⟩ := h
  obtain ⟨later, same, none⟩ := adds
  have others : Journal.submissions (later ++ added) = added.submissions := by
    rw [Journal.submissions, Journal.collect_append, Journal.collect_eq_nil none, List.append_nil]
    rfl
  refine ⟨later ++ added, by rw [same, grown, List.append_assoc], ?_⟩
  rw [Disposes, others, inFlight]
  exact disposes.imp_right fun ⟨heard, rest⟩ => ⟨List.mem_append_right _ heard, rest⟩

omit [Medium M ε] in
theorem Disposed.arm {frame : QueuedFrame} (h : Disposed frame n m) (delay : Ticks)
    (purpose : Arbitration) :
    Disposed frame n (m.armSlotAlarm delay purpose : Reply ε × Node M).2 := by
  refine h.grow (armSlotAlarm_adds (by simp [Posts]) m delay purpose (by simp)) ?_
  obtain ⟨_, _, _, _, _, _, same⟩ := m.armSlotAlarm_eq (ε := ε) delay purpose
  rw [same]

theorem offered_disposed (idle : n.inFlight = none) (frame : QueuedFrame) :
    Disposed frame n (n.offered frame) := by
  refine ⟨[_], offered_journal n frame, .inl ⟨_, rfl, rfl, rfl, ?_⟩⟩
  rw [offered]
  dsimp only
  split
  · next accepted => exact accepted.symm
  · next refused =>
    have refused : n.accepts .data (n.dataFrame frame) = false := eq_false_of_ne_true refused
    exact (congrArg Option.isSome idle).trans refused.symm

theorem contested_disposed {frame : QueuedFrame} (idle : n.inFlight = none) :
    Disposed frame n (n.contested frame) := by
  rw [contested]
  cases clear : n.sense.1 with
  | false =>
    have heard : n.sense.2.journal = .sensed false :: n.journal := by
      rw [← clear]
      rfl
    exact ⟨[_], heard, .inr ⟨List.mem_singleton_self _, rfl, idle⟩⟩
  | true =>
    obtain ⟨added, grown, disposes⟩ := offered_disposed (n := n.sense.2) idle frame
    refine ⟨added ++ [.sensed n.sense.1], by simpa [stolen, sense] using grown, ?_⟩
    have others : Journal.submissions (added ++ [.sensed n.sense.1]) = added.submissions := by
      simp [Journal.submissions]
    rw [Disposes, others]
    refine disposes.imp_right ?_
    rintro ⟨heard, rest⟩
    exact ⟨List.mem_append_left _ heard, rest⟩

/-- Inside of the slot a frame that nothing keeps back is handed over. -/
theorem attendSlot_disposes {frame : QueuedFrame} (sound : n.Sound) (idle : n.inFlight = none)
    (waits : n.outbox = some frame) (owned : n.OwnsNow) :
    Yields (n.attendSlot false : Except Fault (Reply ε × Node M)) fun out =>
      Disposed frame n out.2 := by
  have inOrder := n.aligned_path.sound sound
  have inside : n.aligned.view.phase = .inside :=
    view_inside_iff.mpr ((Layout.owns_congr n.aligned_phase).mpr owned)
  have offered : Step .offer n.aligned (n.aligned.offered frame) :=
    .offer idle waits (view_inside_iff.mp inside)
  have remains := inOrder.of_same offered.same
  rw [attendSlot, placement_eq sound]
  simp only [bind, Except.bind, inside, useSlot]
  rw [if_pos (by simp [aligned, waits]), handOver_eq inOrder.room idle waits]
  simp only [Bool.false_and, Bool.false_eq_true, if_false, pure, Except.pure]
  rw [remains.valid.layout.untilNext_eq remains.slot_lt]
  exact Yields.ok_iff.mpr (Disposed.arm (n := n) (offered_disposed (n := n.aligned) idle _) _ _)

theorem endBackoff_disposes {frame : QueuedFrame} (sound : n.Sound) (idle : n.inFlight = none)
    (waits : n.outbox = some frame) :
    Yields (n.endBackoff : Except Fault (Reply ε × Node M)) fun out =>
      Disposed frame n out.2 := by
  have inOrder := n.aligned_path.sound sound
  rw [endBackoff, placement_eq sound]
  simp only [bind, Except.bind]
  split
  · next nothing =>
    have inside : n.aligned.view.isInside := by
      simpa [aligned, waits, idle] using nothing
    exact attendSlot_disposes inOrder idle waits
      (view_inside_iff.mp (Placement.isInside_iff.mp inside))
  · rw [trySteal_eq inOrder.room idle waits]
    exact Yields.ok_iff.mpr (Disposed.arm (n := n) (contested_disposed (n := n.aligned) idle) _ _)

/-! ## Runs -/

/-- A frame is taken over while none waits, and is left to the alarm in use. -/
def Slips (n : Node M) (stimulus : Stimulus M) : Prop :=
  ∃ token destination bytes, stimulus = .operate (.send token destination bytes) ∧
    bytes.length ≤ maxPayload ∧ n.LeavesToAlarm ∧ n.outbox = none

theorem slips_iff (n : Node M) (stimulus : Stimulus M) :
    n.Slips stimulus ↔ ∃ operation, n.prompted? stimulus = some operation ∧
      (n.facing stimulus).Overlooks operation ∧ (n.facing stimulus).outbox = none := by
  constructor
  · rintro ⟨token, destination, bytes, rfl, short, leaves, none⟩
    exact ⟨_, rfl, ⟨short, leaves⟩, none⟩
  · rintro ⟨operation, prompted, overlooked, none⟩
    cases operation with
    | send token destination bytes =>
      cases stimulus with
      | operate operation =>
        cases prompted
        exact ⟨token, destination, bytes, rfl, overlooked.1, overlooked.2, none⟩
      | fire kind => simp [prompted?] at prompted
      | _ => cases prompted
    | _ => exact overlooked.elim

/-- What a course keeps, and what it adds. -/
structure Carries (n m : Node M) : Prop where
  sound : m.Sound
  config : m.config = n.config
  obliged : m.Obliged
  purposes : n.journal.purposes <+: m.journal.purposes

theorem undergo_carries (sound : n.Sound) (obliged : n.Obliged) (stimulus : Stimulus M) :
    Yields (n.undergo stimulus) fun out => Carries n out.2 ∧
      (out.2.Hides ↔ (n.Slips stimulus ∨ n.Hides) ∧
        out.2.journal.purposes = n.journal.purposes) := by
  have faces : Abides n (n.facing stimulus) := by
    obtain ⟨alarms, medium, same⟩ := n.facing_amid stimulus
    rw [same]
    exact ⟨rfl, rfl, rfl, rfl, id, rfl⟩
  rw [undergo_eq, slips_iff]
  cases n.prompted? stimulus with
  | none =>
    refine Yields.ok_iff.mpr
      ⟨⟨sound.facing stimulus, faces.config, faces.obliged obliged, ?_⟩, ?_⟩
    · exact faces.purposes ▸ List.prefix_rfl
    · simp [faces.hides_iff, faces.purposes]
  | some operation =>
    have inOrder := sound.facing stimulus
    refine ((perform_arbitrates inOrder operation).and (perform_yields inOrder operation)).bind ?_
    rintro out ⟨arbitrates, path, -⟩
    have obliged := faces.obliged obliged
    refine Yields.pure_iff.mpr
      ⟨⟨path.sound inOrder, path.same.config.trans faces.config, arbitrates.obliged obliged, ?_⟩,
        ?_⟩
    · exact faces.purposes ▸ purposes_extend path.adds
    · show out.2.Hides ↔ (_ ∨ n.Hides) ∧ out.2.journal.purposes = _
      rw [arbitrates.hides_iff obliged, faces.hides_iff, faces.purposes]
      simp

/-- A frame slips in, and the slot alarm is not asked for from then on. -/
def SlipsUnseen (n : Node M) (stimulus : Stimulus M) (m : Node M) : Prop :=
  n.Slips stimulus ∧ m.journal.purposes = n.journal.purposes

/-- Some frame slipped in, and the slot alarm has not been asked for since. -/
def Slipped (n : Node M) (stimuli : List (Stimulus M)) (m : Node M) : Prop :=
  ∃ past stimulus rest, stimuli = past ++ stimulus :: rest ∧
    Yields (n.course past) fun out => out.2.SlipsUnseen stimulus m

theorem course_cons (Q : Node M → Prop) {stimulus : Stimulus M} {rest : List (Stimulus M)}
    {out : Option (Answer ε) × Node M} (next : n.undergo stimulus = .ok out) :
    Yields (n.course (stimulus :: rest)) (fun last => Q last.2) ↔
      Yields (out.2.course rest) fun last => Q last.2 := by
  rw [course, next]
  cases done : (out.2.course rest : Except Fault (List (Answer ε) × Node M)) with
  | error fault => simp [done, bind, Except.bind, Yields]
  | ok last => simp [done, bind, Except.bind, pure, Except.pure]

theorem slipped_cons {stimulus : Stimulus M} {rest : List (Stimulus M)}
    {out : Option (Answer ε) × Node M} (next : n.undergo stimulus = .ok out) :
    Slipped n (stimulus :: rest) m ↔ n.SlipsUnseen stimulus m ∨ Slipped out.2 rest m := by
  constructor
  · rintro ⟨past, slip, later, split, slipped⟩
    cases past with
    | nil =>
      cases split
      obtain ⟨_, ⟨⟩, slipped⟩ := slipped
      exact .inl slipped
    | cons first past =>
      cases split
      exact .inr ⟨past, slip, later, rfl, (course_cons (SlipsUnseen · slip m) next).mp slipped⟩
  · rintro (slips | ⟨past, slip, later, rfl, slipped⟩)
    · exact ⟨[], stimulus, rest, rfl, _, rfl, slips⟩
    · exact ⟨stimulus :: past, slip, later, rfl,
        (course_cons (SlipsUnseen · slip m) next).mpr slipped⟩

/-- What is hidden after a course slipped in during it, or was hidden before. -/
theorem course_carries (sound : n.Sound) (obliged : n.Obliged) (stimuli : List (Stimulus M)) :
    Yields (n.course stimuli) fun out => Carries n out.2 ∧
      (out.2.Hides ↔ Slipped n stimuli out.2 ∨
        n.Hides ∧ out.2.journal.purposes = n.journal.purposes) := by
  induction stimuli generalizing n with
  | nil =>
    refine Yields.ok_iff.mpr ⟨⟨sound, rfl, obliged, List.prefix_rfl⟩, ?_⟩
    simp [Slipped]
  | cons stimulus rest ih =>
    obtain ⟨out, next, first, hides⟩ := undergo_carries sound obliged stimulus
    refine (course_cons (fun m => Carries n m ∧ (m.Hides ↔ Slipped n (stimulus :: rest) m ∨
      n.Hides ∧ m.journal.purposes = n.journal.purposes)) next).mpr ?_
    refine (ih first.sound first.obliged).mono ?_
    rintro ⟨answers, m⟩ ⟨onward, hidden⟩
    refine ⟨⟨onward.sound, onward.config.trans first.config, onward.obliged,
      first.purposes.trans onward.purposes⟩, ?_⟩
    -- nothing was asked for on the whole way just if it was not on either part of it
    have quiet : m.journal.purposes = n.journal.purposes ↔
        out.2.journal.purposes = n.journal.purposes ∧
          m.journal.purposes = out.2.journal.purposes := by
      refine ⟨fun same => ?_, fun ⟨before, after⟩ => after.trans before⟩
      have shorter := onward.purposes.length_le
      rw [same] at shorter
      have before := first.purposes.eq_of_length_le shorter
      exact ⟨before.symm, same.trans before⟩
    rw [hidden, hides, slipped_cons next, SlipsUnseen, quiet]
    grind

omit [Medium M ε] in
/-- What comes with the alarm touches no frame, nor what the alarm was for. -/
theorem spent_keeps (n : Node M) :
    let k := n.expireSync.spent .slot
    k.arbitration = n.arbitration ∧ k.outbox = n.outbox ∧ k.inFlight = n.inFlight ∧
      k.journal = n.journal := by
  obtain ⟨_, _, expired⟩ := n.expireSync_eq
  obtain ⟨_, late⟩ := { n.expireSync with slotAlarm := none }.noteLateness_eq
  dsimp only [spent]
  rw [late, expired]
  exact ⟨rfl, rfl, rfl, rfl⟩

/-- A backoff ends with a frame that waits and none in flight, and the frame is disposed of. -/
theorem undergo_disposes {stimulus : Stimulus M} (sound : n.Sound) (obliged : n.Obliged)
    (comes : n.prompted? stimulus = some (.alarmFired .slot))
    (backs : n.arbitration = .backingOff) :
    let k := (n.facing stimulus).expireSync.spent .slot
    ((n.facing stimulus).alarmFired .slot : Except Fault (Reply ε × Node M)) = k.endBackoff ∧
      ∃ frame, k.outbox = some frame ∧ k.inFlight = none ∧
        Yields (n.undergo stimulus) fun out => Disposed frame n out.2 := by
  obtain ⟨-, waits, idle, -⟩ := obliged.backingOff backs
  obtain ⟨frame, waits⟩ := Option.isSome_iff_exists.mp waits
  obtain ⟨alarms, medium, faces⟩ := n.facing_amid stimulus
  have path : Path [.expire, .spendSlot] (n.facing stimulus)
      ((n.facing stimulus).expireSync.spent .slot) :=
    ((Path.refl _).snoc .expire).snoc .spendSlot
  have inOrder := path.sound (sound.facing stimulus)
  have kept := (n.facing stimulus).spent_keeps
  have unfolded : ((n.facing stimulus).alarmFired .slot : Except Fault (Reply ε × Node M)) =
      let k := (n.facing stimulus).expireSync.spent .slot
      if k.arbitration = .backingOff then k.endBackoff else k.attendSlot true := rfl
  rw [undergo_eq, comes]
  dsimp only [perform] at kept unfolded ⊢
  rw [unfolded]
  generalize (n.facing stimulus).expireSync.spent .slot = k at *
  rw [faces] at kept
  obtain ⟨arbitration, outbox, inFlight, journal⟩ := kept
  rw [if_pos (arbitration.trans backs)]
  have waits := outbox.trans waits
  have idle := inFlight.trans idle
  refine ⟨rfl, frame, waits, idle, ?_⟩
  obtain ⟨⟨reply, m⟩, done, disposed⟩ := endBackoff_disposes inOrder idle waits
  rw [Disposed, journal] at disposed
  rw [done]
  exact Yields.ok_iff.mpr disposed

end Medium

end Node

open Node

/-- Whatever has happened to a node and whatever was refused on the way: while it backs off it
may steal, a frame waits, none is in flight and it holds the slot alarm; while it awaits its
slot a frame waits and it holds the slot alarm. So the end of a backoff finds a frame that
waits and none in flight. The frame is handed to the medium, once, and is in flight afterwards
just if the medium took it; or else somebody was heard, and it was handed over to nobody. -/
theorem arbitration_obligations {M ε : Type} [Medium M ε] {config : Config}
    (valid : config.Valid) (address : Address) (medium : M) (alarms : AlarmClock)
    (words : WordSource) (stimuli : List (Stimulus M)) :
    ∃ answers n,
      lifetime address config medium alarms words stimuli = .ok (.ok (answers, n)) ∧
      (n.arbitration = .backingOff →
        config.mode = .zmac ∧ n.outbox.isSome ∧ n.inFlight = none ∧ n.slotAlarm.isSome) ∧
      (n.arbitration = .awaitingSlot → n.outbox.isSome ∧ n.slotAlarm.isSome) ∧
      ∀ stimulus, n.prompted? stimulus = some (.alarmFired .slot) →
        n.arbitration = .backingOff →
        let k := (n.facing stimulus).expireSync.spent .slot
        ((n.facing stimulus).alarmFired .slot : Except Fault (Reply ε × Node M)) =
            k.endBackoff ∧
          ∃ frame answer m added,
            k.outbox = some frame ∧ k.inFlight = none ∧
            n.undergo stimulus = .ok (answer, m) ∧ m.journal = added ++ n.journal ∧
            ((∃ s, added.submissions = [s] ∧ s.channel = .data ∧ s.queued = some frame ∧
                m.inFlight.isSome = s.accepted) ∨
              .sensed false ∈ added ∧ added.submissions = [] ∧ m.inFlight = none) := by
  have sound := fresh_sound valid address medium alarms words
  obtain ⟨⟨answers, n⟩, done, ⟨inOrder, config, obliged, -⟩, -⟩ :=
    course_carries sound (fresh_obliged ..) stimuli
  refine ⟨answers, n, lifetime_of_course valid done, ?_, obliged.awaitingSlot, ?_⟩
  · intro backs
    obtain ⟨mode, rest⟩ := obliged.backingOff backs
    exact ⟨(congrArg Config.mode config).symm.trans mode, rest⟩
  · intro stimulus comes backs
    obtain ⟨ends, frame, waits, idle, ⟨answer, m⟩, next, added, grown, disposes⟩ :=
      undergo_disposes inOrder obliged comes backs
    exact ⟨ends, frame, answer, m, added, waits, idle, next, grown, disposes⟩

/-- A node that may steal backs off, and its alarm comes. -/
theorem arbitration_obligations_stealing :
    ∃ answers n frame answer m added,
      lifetime 3 { mode := .zmac } ({} : RecordingMedium) {} (.cycle [])
          [.operate (.send 7 0 [1])] = .ok (.ok (answers, n)) ∧
      n.arbitration = .backingOff ∧ n.outbox = some frame ∧
      n.undergo (.fire .slot) = .ok (answer, m) ∧ m.journal = added ++ n.journal ∧
      ((∃ s, added.submissions = [s] ∧ s.channel = .data ∧ s.queued = some frame ∧
          m.inFlight.isSome = s.accepted) ∨
        .sensed false ∈ added ∧ added.submissions = [] ∧ m.inFlight = none) := by
  have valid : ({ mode := .zmac } : Config).Valid := Config.check_eq_ok_iff.mp rfl
  obtain ⟨answers, n, lived, -, -, ends⟩ :=
    arbitration_obligations valid 3 ({} : RecordingMedium) {} (.cycle [])
      [.operate (.send 7 0 [1])]
  obtain ⟨_, _, again, backs, comes⟩ :
      ∃ answers n, lifetime 3 { mode := .zmac } ({} : RecordingMedium) {} (.cycle [])
          [.operate (.send 7 0 [1])] = .ok (.ok (answers, n)) ∧
        n.arbitration = .backingOff ∧ n.prompted? (.fire .slot) = some (.alarmFired .slot) :=
    exists_lifetime valid (by decide +kernel)
  cases lived.symm.trans again
  obtain ⟨-, frame, answer, m, added, waits, -, next, grown, disposes⟩ :=
    ends (.fire .slot) comes backs
  have outbox := ((n.facing (.fire .slot)).spent_keeps).2.1
  exact ⟨answers, n, frame, answer, m, added, lived, backs, outbox.symm.trans waits, next, grown,
    disposes⟩

/-- Whatever has happened to a node: with nothing waiting its arbitration state is idle. It is
idle with a frame waiting exactly if a frame was taken over while none waited, was left to a
slot alarm that was in use already, since it was not time for the slot and the node did not
back off, and the slot alarm has not been asked for since. -/
theorem arbitration_tells {M ε : Type} [Medium M ε] {config : Config}
    (valid : config.Valid) (address : Address) (medium : M) (alarms : AlarmClock)
    (words : WordSource) (stimuli : List (Stimulus M)) :
    ∃ answers n,
      lifetime address config medium alarms words stimuli = .ok (.ok (answers, n)) ∧
      (n.outbox = none → n.arbitration = .idle) ∧
      (n.arbitration = .idle ∧ n.outbox.isSome ↔
        ∃ past token destination bytes rest k,
          stimuli = past ++ .operate (.send token destination bytes) :: rest ∧
          LivedThrough address config medium alarms words past k ∧
          bytes.length ≤ maxPayload ∧ k.outbox = none ∧ k.slotAlarm.isSome ∧ ¬ k.OwnsNow ∧
          (config.mode = .tdma ∨ k.inFlight.isSome) ∧
          n.journal.purposes = k.journal.purposes) := by
  have sound := fresh_sound valid address medium alarms words
  obtain ⟨⟨answers, n⟩, done, ⟨-, -, obliged, -⟩, hides⟩ :=
    course_carries sound (fresh_obliged ..) stimuli
  have settings {past : List (Stimulus M)} {out : List (Answer ε) × Node M}
      (led : (fresh address config medium alarms words).course past = .ok out) :
      out.2.config = config := by
    have carried := (course_carries sound (fresh_obliged ..) past).of_ok led
    exact carried.1.config
  refine ⟨answers, n, lifetime_of_course valid done, obliged.idle, ?_⟩
  refine (hides.trans (or_iff_left ?_)).trans ⟨?_, ?_⟩
  · rintro ⟨⟨-, waits⟩, -⟩
    cases waits
  · rintro ⟨past, _, rest, split, ⟨before, k⟩, led, ⟨token, destination, bytes, rfl, slips⟩, same⟩
    obtain ⟨short, ⟨held, outside, stays⟩, nothing⟩ := slips
    rw [settings led] at stays
    exact ⟨past, token, destination, bytes, rest, k, split, ⟨before, lifetime_of_course valid led⟩,
      short, nothing, held, outside, stays, same⟩
  · rintro ⟨past, token, destination, bytes, rest, k, split, ⟨before, lived⟩, short, nothing, held,
      outside, stays, same⟩
    have led := course_of_lifetime valid lived
    rw [← settings led] at stays
    exact ⟨past, _, rest, split, (before, k), led,
      ⟨token, destination, bytes, rfl, short, ⟨held, outside, stays⟩, nothing⟩, same⟩

/-- A frame was sent in its slot, and while the alarm for the next one ticks another frame is
taken over. -/
def sentAgain : List (Stimulus RecordingMedium) :=
  [.clock 500000, .operate (.send 7 0 [1]), .operate (.complete .data .ok 1), .clock 700000,
    .operate (.send 8 0 [2])]

/-- The second frame is hidden: it was left to the alarm of the first. -/
theorem arbitration_tells_sentAgain :
    ∃ answers n past token destination bytes rest k,
      lifetime 3 {} ({} : RecordingMedium) {} (.cycle []) sentAgain = .ok (.ok (answers, n)) ∧
      sentAgain = past ++ .operate (.send token destination bytes) :: rest ∧
      LivedThrough 3 {} ({} : RecordingMedium) {} (.cycle []) past k ∧
      k.outbox = none ∧ k.slotAlarm.isSome ∧ ¬ k.OwnsNow ∧
      n.journal.purposes = k.journal.purposes := by
  obtain ⟨answers, n, lived, -, told⟩ :=
    arbitration_tells Config.valid_default 3 ({} : RecordingMedium) {} (.cycle []) sentAgain
  obtain ⟨_, _, again, idle⟩ :
      ∃ answers n, lifetime 3 {} ({} : RecordingMedium) {} (.cycle []) sentAgain =
          .ok (.ok (answers, n)) ∧ n.arbitration = .idle ∧ n.outbox.isSome :=
    exists_lifetime Config.valid_default (by decide +kernel)
  cases lived.symm.trans again
  obtain ⟨past, token, destination, bytes, rest, k, split, led, -, nothing, held, outside, -,
    same⟩ := told.mp idle
  exact ⟨answers, n, past, token, destination, bytes, rest, k, lived, split, led, nothing, held,
    outside, same⟩

/-- So the frame waits, and the arbitration state is idle. -/
theorem pending_while_idle :
    ∃ answers n,
      lifetime 3 {} ({} : RecordingMedium) {} (.cycle []) sentAgain = .ok (.ok (answers, n)) ∧
        n.arbitration = .idle ∧ n.outbox.map (·.token) = some 8 ∧ n.slotAlarm.isSome :=
  exists_lifetime Config.valid_default (by decide +kernel)

end SlottedMac
