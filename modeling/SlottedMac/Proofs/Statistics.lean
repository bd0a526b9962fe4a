import SlottedMac.Proofs.Deferrals
import SlottedMac.Proofs.Transmissions

/-!
# What the statistics count

A node counts as it goes, in the branches of the operations that know. What it counts can be
read off its journal, entry by entry: `Journal.tally` is that reading, and the statistics of
a node agree with it after every operation. What the counts have to do with each other is
then a matter of the journal: which entries there can be, and in which order.

Some entries belong to the one before them. A clear channel is made use of at once, and the end
of a transmission is reported at once. Between operations no such entry is the last one.
-/

namespace SlottedMac

open Node (Deed)

namespace JournalEntry

/-- What was heard, if the deed was to listen. -/
@[simp] def sensed? : JournalEntry → Option Bool
  | .sensed clear => some clear
  | _ => none

/-- The same, if the channel was clear or busy as given. -/
def heard? (clear : Bool) (entry : JournalEntry) : Option Bool := entry.sensed?.filter (· == clear)

/-- The data frame that the medium refused, if the deed was that. -/
@[simp] def refusal? : JournalEntry → Option Submission
  | .submitted s => if s.channel = .data ∧ s.accepted = false then some s else none
  | _ => none

/-- The beacon that the medium accepted, if the deed was that. -/
@[simp] def beacon? : JournalEntry → Option Submission
  | .submitted s => if s.channel = .beacon ∧ s.accepted then some s else none
  | _ => none

/-- The frame taken over and the time, if the deed was that. -/
@[simp] def taken? : JournalEntry → Option (QueuedFrame × Nat)
  | .captured frame time => some (frame, time)
  | _ => none

/-- Whether the next entry belongs to this one. -/
def opens : JournalEntry → Bool
  | .sensed clear => clear
  | .completed _ => true
  | _ => false

/-- The data frame that was handed over upon hearing nobody, with the answer of the medium as
given. -/
def steal? (accepted : Bool) (entry : JournalEntry) (earlier : Journal) : Option Submission :=
  match entry, earlier.head? with
  | .submitted s, some (.sensed true) =>
    if s.channel = .data ∧ s.accepted = accepted then some s else none
  | _, _ => none

/-- The report about the transmission that ended just before, queued or turned away. -/
def end? (entry : JournalEntry) (earlier : Journal) : Option Event :=
  match entry, earlier.head? with
  | .posted (.sent token outcome transmissions), some (.completed ended) =>
    if token = ended then some (.sent token outcome transmissions) else none
  | .dropped (.sent token outcome transmissions), some (.completed ended) =>
    if token = ended then some (.sent token outcome transmissions) else none
  | _, _ => none

/-- The time from the capture of a data frame to its acceptance by the medium, if the deed was
that. The frame is the one that was captured last. -/
def delay? (entry : JournalEntry) (earlier : Journal) : Option Ticks := do
  let s ← entry.launch?
  let frame ← s.queued
  let (latest, time) ← earlier.findSome? taken?
  if latest = frame.original then some ((fine s.time).since (fine time)) else none

variable {entry : JournalEntry} {d : Deed}

theorem sensed?_eq_none (writes : d ∈ entry.writers) (other : d ≠ .sense) :
    entry.sensed? = none := by
  cases entry with
  | sensed clear =>
    simp only [writers, List.mem_singleton] at writes
    exact absurd writes other
  | _ => rfl

theorem opens_eq_false (writes : d ∈ entry.writers) (other : d ∉ [.sense, .complete]) :
    entry.opens = false := by
  cases entry with
  | sensed | completed =>
    simp only [writers, List.mem_singleton] at writes
    simp [writes] at other
  | _ => rfl

theorem taken?_eq_none (writes : d ∈ entry.writers) (other : d ≠ .capture) :
    entry.taken? = none := by
  cases entry with
  | captured frame time =>
    simp only [writers, List.mem_singleton] at writes
    exact absurd writes other
  | _ => rfl

end JournalEntry

namespace Stats

/-- The counter with one more, if that is so. -/
def countIf (c : Counter) (more : Bool) : Counter := if more then c.bump else c

/-- The statistics after one more entry of the journal. -/
def note (s : Stats) (entry : JournalEntry) (earlier : Journal) : Stats :=
  { s with
    stealAttempts := countIf s.stealAttempts entry.sensed?.isSome
    channelBusy := countIf s.channelBusy (entry.heard? false).isSome
    steals := countIf s.steals (entry.steal? true earlier).isSome
    refused := countIf s.refused entry.refusal?.isSome
    beaconsSent := countIf s.beaconsSent entry.beacon?.isSome
    expired := countIf s.expired entry.expiry?.isSome
    lastDelay := (entry.delay? earlier).getD s.lastDelay
    maxDelay := (entry.delay? earlier).elim s.maxDelay (max s.maxDelay) }

/-- The statistics about frames that are handed over or given up. The others count what the
journal does not tell. -/
def core (s : Stats) : Stats :=
  { s with
    beaconsReceived := 0
    beaconsSkipped := 0
    syncLost := 0
    deadlineMisses := 0
    deferrals := 0
    decodeErrors := 0
    droppedEvents := 0 }

/-- No counter of what becomes of frames has reached its largest value. -/
def Unsaturated (s : Stats) : Prop :=
  ∀ c ∈ [s.stealAttempts, s.steals, s.channelBusy, s.refused, s.beaconsSent, s.expired],
    c.toNat < 0xFFFFFFFF

-- the counters are looked at one by one, not the values that one can have
instance decidableUnsaturated (s : Stats) : Decidable s.Unsaturated := List.decidableBAll _ _

/-- Most entries count nothing. -/
theorem note_eq_self {entry : JournalEntry} (handed : entry.submission? = none)
    (sensed : entry.sensed? = none) (expiry : entry.expiry? = none) (s : Stats)
    (earlier : Journal) : s.note entry earlier = s := by
  cases entry with
  | submitted | sensed => simp at *
  | _ =>
    simp [note, countIf, JournalEntry.heard?, JournalEntry.steal?, JournalEntry.delay?, expiry]

theorem note_sensed (s : Stats) (clear : Bool) (earlier : Journal) :
    s.note (.sensed clear) earlier =
      { s with
        stealAttempts := s.stealAttempts.bump
        channelBusy := countIf s.channelBusy !clear } := by
  cases clear <;> rfl

theorem note_beacon {handed : Submission} (beacon : handed.channel = .beacon) (s : Stats)
    (earlier : Journal) :
    s.note (.submitted handed) earlier =
      { s with beaconsSent := countIf s.beaconsSent handed.accepted } := by
  have stolen : (JournalEntry.submitted handed).steal? true earlier = none := by
    unfold JournalEntry.steal?
    split
    · simp_all
    · rfl
  cases accepted : handed.accepted <;>
    simp [note, countIf, stolen, beacon, accepted, JournalEntry.heard?, JournalEntry.expiry?,
      JournalEntry.delay?]

end Stats

namespace Journal

/-- What deeds were about in view of all that came before, oldest first. -/
def collectAfter {α : Type} (about : JournalEntry → Journal → Option α) : Journal → List α
  | [] => []
  | entry :: earlier => collectAfter about earlier ++ (about entry earlier).toList

/-- What was heard, oldest first. -/
def sensings (j : Journal) : List Bool := j.collect JournalEntry.sensed?

/-- Times that the channel was heard to be clear or busy as given. -/
def heard (j : Journal) (clear : Bool) : List Bool := j.collect (·.heard? clear)

/-- Data frames that the medium refused, oldest first. -/
def refusals (j : Journal) : List Submission := j.collect JournalEntry.refusal?

/-- Beacons that the medium accepted, oldest first. -/
def beacons (j : Journal) : List Submission := j.collect JournalEntry.beacon?

/-- Data frames handed over upon hearing nobody and accepted or refused as given, oldest
first. -/
def steals (j : Journal) (accepted : Bool) : List Submission :=
  j.collectAfter (JournalEntry.steal? accepted)

/-- Reports about transmissions that ended, oldest first. -/
def ends (j : Journal) : List Event := j.collectAfter JournalEntry.end?

/-- Times from capture to acceptance of the data frames accepted, oldest first. -/
def delays (j : Journal) : List Ticks := j.collectAfter JournalEntry.delay?

/-- The statistics as the journal tells them. -/
def tally : Journal → Stats
  | [] => {}
  | entry :: earlier => (tally earlier).note entry earlier

/-- The last entry stands for itself. -/
def Settled (j : Journal) : Prop := ∀ entry, j.head? = some entry → entry.opens = false

section Cons

variable (entry : JournalEntry) (j : Journal)

@[simp] theorem sensings_cons : sensings (entry :: j) = j.sensings ++ entry.sensed?.toList :=
  collect_cons ..

@[simp] theorem heard_cons (clear : Bool) :
    heard (entry :: j) clear = j.heard clear ++ (entry.heard? clear).toList := collect_cons ..

@[simp] theorem steals_cons (accepted : Bool) :
    steals (entry :: j) accepted = j.steals accepted ++ (entry.steal? accepted j).toList := rfl

@[simp] theorem ends_cons : ends (entry :: j) = j.ends ++ (entry.end? j).toList := rfl

@[simp] theorem delays_cons : delays (entry :: j) = j.delays ++ (entry.delay? j).toList := rfl

@[simp] theorem tally_cons : tally (entry :: j) = j.tally.note entry j := rfl

end Cons

variable {α β : Type} {j added : Journal} {entry : JournalEntry}

theorem collect_eq_collectAfter (j : Journal) (about : JournalEntry → Option α) :
    j.collect about = j.collectAfter fun entry _ => about entry := by
  induction j with
  | nil => rfl
  | cons entry j ih => rw [collect_cons, ih, collectAfter]

theorem length_collectAfter_le {about : JournalEntry → Journal → Option α}
    {other : JournalEntry → Journal → Option β}
    (also : ∀ entry earlier, (about entry earlier).isSome → (other entry earlier).isSome)
    (j : Journal) : (j.collectAfter about).length ≤ (j.collectAfter other).length := by
  induction j with
  | nil => exact Nat.le_refl _
  | cons entry j ih =>
    have here := also entry j
    rw [collectAfter, collectAfter, List.length_append, List.length_append]
    cases found : about entry j with
    | none =>
      rw [Option.toList_none, List.length_nil]
      omega
    | some a =>
      obtain ⟨b, same⟩ := Option.isSome_iff_exists.mp (here (by rw [found, Option.isSome_some]))
      rw [same]
      exact Nat.add_le_add_right ih 1

/-- A counter of entries of a kind tells how many there are, as far as it goes. -/
theorem toNat_tally (field : Stats → Counter) (about : JournalEntry → Journal → Option α)
    (start : field {} = 0)
    (note : ∀ s entry earlier,
      field (s.note entry earlier) = Stats.countIf (field s) (about entry earlier).isSome)
    (j : Journal) :
    (field j.tally).toNat = min (j.collectAfter about).length 0xFFFFFFFF := by
  induction j with
  | nil =>
    rw [tally, start]
    rfl
  | cons entry j ih =>
    rw [tally, note, Stats.countIf, collectAfter, List.length_append, Option.length_toList]
    split
    · rw [Counter.toNat_bump, ih]
      omega
    · rw [ih]
      simp

theorem tally_lastDelay (j : Journal) : j.tally.lastDelay = j.delays.getLast?.getD 0 := by
  induction j with
  | nil => rfl
  | cons entry j ih =>
    rw [tally_cons, delays_cons, Stats.note]
    cases entry.delay? j with
    | none => simpa using ih
    | some delay => simp

theorem tally_maxDelay (j : Journal) : j.tally.maxDelay = j.delays.foldl max 0 := by
  induction j with
  | nil => rfl
  | cons entry j ih =>
    rw [tally_cons, delays_cons, Stats.note, List.foldl_append, ← ih]
    cases entry.delay? j <;> rfl

/-- The channel is heard to be clear or busy. -/
theorem length_sensings (j : Journal) :
    j.sensings.length = (j.heard true).length + (j.heard false).length := by
  induction j with
  | nil => rfl
  | cons entry j ih =>
    rw [sensings_cons, heard_cons, heard_cons, JournalEntry.heard?, JournalEntry.heard?]
    cases entry.sensed? with
    | none => simpa using ih
    | some clear =>
      cases clear with
      | true => simp [Option.filter, ih, Nat.add_right_comm]
      | false => simp [Option.filter, ih, Nat.add_assoc]

/-- What is handed over upon hearing nobody is handed over. -/
theorem length_steals_le {accepted : Bool} {about : JournalEntry → Option Submission}
    (also : ∀ s : Submission, s.channel = .data → s.accepted = accepted →
      (about (.submitted s)).isSome)
    (j : Journal) : (j.steals accepted).length ≤ (j.collect about).length := by
  rw [collect_eq_collectAfter]
  refine length_collectAfter_le (fun entry earlier stolen => ?_) j
  unfold JournalEntry.steal? at stolen
  split at stolen
  · next s _ =>
    split at stolen
    · next both => exact also s both.1 both.2
    · cases stolen
  · cases stolen

theorem length_steals_accepted_le (j : Journal) : (j.steals true).length ≤ j.launches.length :=
  length_steals_le (fun _ data accepted => by simp [data, accepted]) j

theorem length_steals_refused_le (j : Journal) : (j.steals false).length ≤ j.refusals.length :=
  length_steals_le (fun _ data refused => by simp [data, refused]) j

/-! ## What entries change -/

/-- An entry that comes after a settled journal belongs to no other. -/
theorem Settled.steal?_eq_none (settled : j.Settled) (accepted : Bool) (entry : JournalEntry) :
    entry.steal? accepted j = none := by
  unfold JournalEntry.steal?
  split
  · next last => cases settled _ last
  · rfl

theorem Settled.end?_eq_none (settled : j.Settled) (entry : JournalEntry) :
    entry.end? j = none := by
  unfold JournalEntry.end?
  split
  · next last => cases settled _ last
  · next last => cases settled _ last
  · rfl

theorem Settled.cons (closed : entry.opens = false) : Settled (entry :: j) := by
  rintro _ ⟨⟩
  exact closed

end Journal

/-- Entries about nothing that is counted. -/
structure JournalEntry.Quiet (entry : JournalEntry) : Prop where
  submission : entry.submission? = none
  sensed : entry.sensed? = none
  expiry : entry.expiry? = none
  opens : entry.opens = false

/-- The deeds that have to do with what is counted. -/
def Node.Deed.counting : List Deed := [.offer, .sense, .steal, .giveWay, .defer, .emit, .complete]

theorem JournalEntry.quiet_of_writers {entry : JournalEntry} {d : Deed} (writes : d ∈ entry.writers)
    (other : d ∉ Deed.counting) : entry.Quiet := by
  have amongst {ds : List Deed} (sub : ds ⊆ Deed.counting := by decide) : d ∉ ds :=
    fun mem => other (sub mem)
  have apart {c : Deed} (counts : c ∈ Deed.counting := by decide) : d ≠ c :=
    fun same => other (same ▸ counts)
  exact ⟨submission?_eq_none writes amongst, sensed?_eq_none writes apart,
    expiry?_eq_none writes apart, opens_eq_false writes amongst⟩

namespace Node

variable {M ε : Type} {n m : Node M}

/-- The statistics are those of the journal, every clear channel was made use of, every end of
a transmission was reported, and every frame accepted had been taken over before. -/
structure Tallied (n : Node M) : Prop where
  settled : n.journal.Settled
  stats : n.stats.core = n.journal.tally
  used : (n.journal.heard true).length =
    (n.journal.steals true).length + (n.journal.steals false).length
  reported : n.journal.ends.length = n.journal.completed.length
  timed : n.journal.delays.length = n.journal.launches.length
  within : n.stats.expired.toNat ≤ n.stats.deferrals.toNat

/-- The frame that waits is the one taken over last, and carries the reading of that time. -/
def Aged (n : Node M) : Prop :=
  ∀ frame, n.outbox = some frame → ∃ time,
    n.journal.findSome? JournalEntry.taken? = some (frame.original, time) ∧
      frame.queuedAt = fine time

namespace Tallied

/-- An entry that stands for itself is counted in full. -/
theorem add {entry : JournalEntry} (h : n.Tallied) (grown : m.journal = entry :: n.journal)
    (closed : entry.opens = false) (heard : entry.heard? true = none)
    (stats : m.stats.core = n.stats.core.note entry n.journal)
    (timed : (entry.delay? n.journal).toList.length = entry.launch?.toList.length)
    (within : m.stats.expired.toNat ≤ m.stats.deferrals.toNat) : m.Tallied := by
  have ended : entry.completed? = none := by
    cases entry with
    | completed => cases closed
    | _ => rfl
  refine ⟨?_, ?_, ?_, ?_, ?_, within⟩
  · rw [grown]
    exact .cons closed
  · rw [grown, stats, h.stats]
    rfl
  · simp only [grown, Journal.heard_cons, Journal.steals_cons, heard, h.settled.steal?_eq_none,
      Option.toList_none, List.append_nil]
    exact h.used
  · simp only [grown, Journal.ends_cons, Journal.completed_cons, h.settled.end?_eq_none, ended,
      Option.toList_none, List.append_nil]
    exact h.reported
  · rw [grown, Journal.delays_cons, Journal.launches_cons, List.length_append, List.length_append,
      h.timed, timed]

/-- So are entries about nothing that is counted. -/
theorem quiet (h : n.Tallied) (adds : Adds JournalEntry.Quiet n m)
    (core : m.stats.core = n.stats.core)
    (within : m.stats.expired.toNat ≤ m.stats.deferrals.toNat) : m.Tallied := by
  obtain ⟨added, grown, quiet⟩ := adds
  -- by induction on the entries, with the statistics of every journal between
  have kept : ∀ added : Journal, (∀ entry ∈ added, entry.Quiet) →
      ({ m with journal := added ++ n.journal } : Node M).Tallied := by
    intro added quiet
    induction added with
    | nil => exact ⟨h.settled, core.trans h.stats, h.used, h.reported, h.timed, within⟩
    | cons entry added ih =>
      have calm := quiet entry List.mem_cons_self
      have launch : entry.launch? = none := by
        cases entry with
        | submitted => cases calm.submission
        | _ => rfl
      refine (ih fun e mem => quiet e (List.mem_cons_of_mem _ mem)).add rfl calm.opens
        (by rw [JournalEntry.heard?, calm.sensed, Option.filter_none]) ?_ ?_ within
      · exact (Stats.note_eq_self calm.submission calm.sensed calm.expiry _ _).symm
      · simp only [JournalEntry.delay?, launch]
        rfl
  have grows := kept added quiet
  rw [← grown] at grows
  exact grows

/-- A counter tells how many entries of its kind there are, as far as it goes. -/
theorem counts {α : Type} (h : n.Tallied) (field : Stats → Counter)
    (about : JournalEntry → Journal → Option α) (start : field {} = 0)
    (note : ∀ s entry earlier,
      field (s.note entry earlier) = Stats.countIf (field s) (about entry earlier).isSome)
    (core : field n.stats = field n.stats.core) :
    (field n.stats).toNat = min (n.journal.collectAfter about).length 0xFFFFFFFF := by
  rw [core, h.stats]
  exact n.journal.toNat_tally field about start note

/-- Short of their ends, counters are exact. -/
theorem exact (h : n.Tallied) (low : n.stats.Unsaturated) :
    n.stats.stealAttempts.toNat = n.journal.sensings.length ∧
      n.stats.steals.toNat = (n.journal.steals true).length ∧
      n.stats.channelBusy.toNat = (n.journal.heard false).length ∧
      n.stats.refused.toNat = n.journal.refusals.length ∧
      n.stats.beaconsSent.toNat = n.journal.beacons.length ∧
      n.stats.expired.toNat = n.journal.expiries.length := by
  have counts {α : Type} (field : Stats → Counter) (about : JournalEntry → Journal → Option α)
      (start : field {} = 0)
      (note : ∀ s entry earlier,
        field (s.note entry earlier) = Stats.countIf (field s) (about entry earlier).isSome)
      (core : field n.stats = field n.stats.core) (below : (field n.stats).toNat < 0xFFFFFFFF) :
      (field n.stats).toNat = (n.journal.collectAfter about).length := by
    have counted := h.counts field about start note core
    omega
  simp only [Stats.Unsaturated, List.forall_mem_cons] at low
  obtain ⟨lowAttempts, lowSteals, lowBusy, lowRefused, lowBeacons, lowExpired, -⟩ := low
  simp only [Journal.sensings, Journal.heard, Journal.refusals, Journal.beacons, Journal.expiries,
    Journal.collect_eq_collectAfter]
  exact ⟨counts Stats.stealAttempts _ rfl (fun _ _ _ => rfl) rfl lowAttempts,
    counts Stats.steals _ rfl (fun _ _ _ => rfl) rfl lowSteals,
    counts Stats.channelBusy _ rfl (fun _ _ _ => rfl) rfl lowBusy,
    counts Stats.refused _ rfl (fun _ _ _ => rfl) rfl lowRefused,
    counts Stats.beaconsSent _ rfl (fun _ _ _ => rfl) rfl lowBeacons,
    counts Stats.expired _ rfl (fun _ _ _ => rfl) rfl lowExpired⟩

/-- A frame is counted as sent in the slot of another node only if it was sent. -/
theorem steals_le (h : n.Tallied) : n.stats.steals.toNat ≤ n.journal.launches.length := by
  have counted : n.stats.steals.toNat = min (n.journal.steals true).length 0xFFFFFFFF :=
    h.counts Stats.steals (JournalEntry.steal? true) rfl (fun _ _ _ => rfl) rfl
  have accepted := n.journal.length_steals_accepted_le
  omega

/-- Every transmission was reported, but for the one under way. -/
theorem length_launches (h : n.Tallied) (flights : n.Flights) :
    n.journal.launches.length = n.journal.ends.length + n.inFlight.toList.length := by
  have order := congrArg List.length flights.order
  simpa only [List.length_map, List.length_append, h.reported] using order

end Tallied

section Medium

variable [Medium M ε] {d : Deed} {kinds : List Deed}

/-- Only a few deeds count what the journal tells. -/
theorem Step.core (step : Step d n m) (other : d ∉ Deed.counting) :
    m.stats.core = n.stats.core := by
  cases step with
  | offer | sense | steal | giveWay | defer | emitRefused | emit | complete =>
    exact absurd (by decide) other
  | expire =>
    obtain ⟨_, _, same⟩ := n.expireSync_eq
    rw [same]
    rfl
  | capture frame =>
    obtain ⟨_, _, _, same⟩ := n.capture_eq frame
    rw [same]
    rfl
  | armSlot delay purpose =>
    obtain ⟨_, _, _, _, _, _, same⟩ := n.armSlotAlarm_eq (ε := ε) delay purpose
    rw [same]
    rfl
  | armBeacon delay =>
    obtain ⟨_, same⟩ := n.armBeaconAlarm_eq (ε := ε) delay
    rw [same]
  | spendSlot =>
    obtain ⟨_, same⟩ := { n with slotAlarm := none }.noteLateness_eq
    rw [same]
    rfl
  | fetch =>
    obtain ⟨_, _, same⟩ := n.poll_eq
    rw [same]
  | deliver source destination payload =>
    obtain ⟨_, _, _, same⟩ := n.post_eq (.received source destination payload)
    rw [same]
    rfl
  | _ => rfl

/-- What waits is as old as it was, whatever is done about it. -/
theorem Step.aged (step : Step d n m) (captures : d ≠ .capture) (h : n.Aged) : m.Aged := by
  obtain ⟨added, grown, writes⟩ := step.adds
  have latest : m.journal.findSome? JournalEntry.taken? =
      n.journal.findSome? JournalEntry.taken? := by
    rw [grown, List.findSome?_append, List.findSome?_eq_none_iff.mpr, Option.none_or]
    exact fun entry mem => JournalEntry.taken?_eq_none (writes entry mem) captures
  have kept := step.kept
  have keeps (same : ∀ frame, m.outbox = some frame → ∃ before, n.outbox = some before ∧
      frame.original = before.original ∧ frame.queuedAt = before.queuedAt) : m.Aged := by
    intro frame waits
    obtain ⟨before, waited, original, queuedAt⟩ := same frame waits
    rw [latest, original, queuedAt]
    exact h before waited
  have stays (outbox : m.outbox = n.outbox ∨ m.outbox = none) : m.Aged := by
    refine keeps fun frame waits => ?_
    rcases outbox with same | none
    · exact ⟨frame, same ▸ waits, rfl, rfl⟩
    · exact nomatch none.symm.trans waits
  cases step with
  | capture => exact absurd rfl captures
  | @offer _ frame | @steal _ frame =>
    refine stays ?_
    show (n.offered frame).outbox = n.outbox ∨ (n.offered frame).outbox = none
    rw [offered_outbox]
    split
    · exact .inr rfl
    · exact .inl rfl
  | defer =>
    refine keeps fun frame waits => ?_
    rw [deferWaiting_outbox] at waits
    obtain ⟨before, waited, rfl, -⟩ := Outbox.of_defer waits
    exact ⟨before, waited, rfl, rfl⟩
  | armSlot delay purpose =>
    exact stays ((n.armSlotAlarm_outbox (ε := ε) delay purpose).imp_right And.left)
  | _ => exact stays (.inl (kept.outbox (by decide)))

/-- The entry about handing the waiting frame over at this moment. -/
def handing (n : Node M) (frame : QueuedFrame) : JournalEntry :=
  .submitted (n.submission .data (n.dataFrame frame) (some frame))

section Handing

variable {frame : QueuedFrame} (aged : n.Aged) (waits : n.outbox = some frame)
include aged waits

/-- The age of the frame that waits, as its journal tells it. -/
theorem delay?_handing :
    (n.handing frame).delay? n.journal =
      if n.accepts .data (n.dataFrame frame) then some (n.fineNow.since frame.queuedAt)
      else none := by
  obtain ⟨time, latest, queuedAt⟩ := aged frame waits
  simp only [handing, JournalEntry.delay?, JournalEntry.launch?, submission, true_and]
  cases n.accepts .data (n.dataFrame frame) with
  | false => rfl
  | true =>
    simp [latest, queuedAt]
    rfl

theorem length_delay?_handing :
    ((n.handing frame).delay? n.journal).toList.length =
      (n.handing frame).launch?.toList.length := by
  rw [delay?_handing aged waits]
  cases accepted : n.accepts .data (n.dataFrame frame) <;> simp [handing, submission, accepted]

/-- What is counted as the waiting frame is handed over. -/
theorem offered_core (steals : Counter)
    (counted : steals =
      Stats.countIf n.stats.steals ((n.handing frame).steal? true n.journal).isSome) :
    { (n.offered frame).stats with steals }.core =
      n.stats.core.note (n.handing frame) n.journal := by
  rw [Stats.note, delay?_handing aged waits, counted, offered]
  dsimp only
  cases accepted : n.accepts .data (n.dataFrame frame) with
  | true =>
    simp [handing, launch, submitted, submission, accepted, Stats.core, Stats.countIf,
      JournalEntry.heard?, JournalEntry.expiry?]
    exact ⟨rfl, rfl⟩
  | false =>
    simp [handing, submitted, submission, accepted, Stats.core, Stats.countIf,
      JournalEntry.heard?, JournalEntry.expiry?]

omit aged waits in
theorem offered_within (within : n.stats.expired.toNat ≤ n.stats.deferrals.toNat) :
    (n.offered frame).stats.expired.toNat ≤ (n.offered frame).stats.deferrals.toNat := by
  rw [offered]
  dsimp only
  split <;> exact within

/-- A frame that is handed over in the slot is counted. -/
theorem offered_tallied (h : n.Tallied) : (n.offered frame).Tallied := by
  have same : (n.offered frame).stats.steals = n.stats.steals := by
    rw [offered]
    dsimp only
    split <;> rfl
  refine h.add (offered_journal n frame) rfl rfl ?_ (length_delay?_handing aged waits)
    (offered_within h.within)
  refine offered_core aged waits (n.offered frame).stats.steals ?_
  rw [h.settled.steal?_eq_none, same]
  rfl

/-- A frame that is handed over upon hearing nobody is counted together with what was heard. -/
theorem stolen_tallied {k : Node M} (h : k.Tallied)
    (grown : n.journal = .sensed true :: k.journal)
    (core : n.stats.core = k.stats.core.note (.sensed true) k.journal)
    (within : n.stats.expired.toNat ≤ n.stats.deferrals.toNat) : (n.stolen frame).Tallied := by
  have grows : (n.stolen frame).journal = n.handing frame :: n.journal := offered_journal n frame
  have stolen (accepted : Bool) :
      (n.handing frame).steal? accepted n.journal =
        if n.accepts .data (n.dataFrame frame) = accepted then
          some (n.submission .data (n.dataFrame frame) (some frame))
        else none := by
    simp [handing, JournalEntry.steal?, grown, submission]
  have timed := length_delay?_handing aged waits
  refine ⟨?_, ?_, ?_, ?_, ?_, offered_within within⟩
  · rw [grows]
    exact .cons rfl
  · have counted := offered_core aged waits (n.stolen frame).stats.steals (by
      rw [stolen, Node.stolen]
      split <;> rfl)
    rw [grows, Journal.tally_cons, grown, Journal.tally_cons, ← h.stats, ← core, ← grown]
    exact counted
  · have used := h.used
    have first := h.settled.steal?_eq_none
    simp only [grows, Journal.heard_cons, Journal.steals_cons, stolen]
    simp only [grown, Journal.heard_cons, Journal.steals_cons, first]
    cases n.accepts .data (n.dataFrame frame) <;>
      simp [JournalEntry.heard?, Option.filter, handing, used, Nat.add_assoc, Nat.add_comm 1]
  · have reported := h.reported
    have first := h.settled.end?_eq_none
    simp only [grows, Journal.ends_cons, Journal.completed_cons]
    simp only [grown, Journal.ends_cons, Journal.completed_cons, first]
    simpa [JournalEntry.end?, handing] using reported
  · simp only [grows, Journal.delays_cons, Journal.launches_cons, List.length_append, timed]
    simp only [grown, Journal.delays_cons, Journal.launches_cons]
    simp [JournalEntry.delay?, h.timed]

/-- A frame that waits is contended for: what was heard is counted, and what came of it. -/
theorem contested_tallied (h : n.Tallied) : (n.contested frame).Tallied := by
  rw [contested]
  cases heard : n.sense.1 with
  | false =>
    have grown : n.sense.2.journal = .sensed false :: n.journal := by
      rw [← heard]
      rfl
    refine h.add grown rfl rfl ?_ rfl h.within
    rw [Stats.note_sensed]
    rfl
  | true =>
    have grown : n.sense.2.journal = .sensed true :: n.journal := by
      rw [← heard]
      rfl
    rw [if_pos rfl]
    refine stolen_tallied (fun other waits => aged other waits) waits h grown ?_ h.within
    rw [Stats.note_sensed]
    rfl

end Handing

omit [Medium M ε] in
/-- The node after a frame that waits has waited too long, with that still to be reported. -/
def overdue (n : Node M) : Node M :=
  { n with
    outbox := none
    stats.deferrals := n.stats.deferrals.bump
    stats.expired := n.stats.expired.bump }

omit [Medium M ε] in
/-- A period that is counted for a frame is counted, and so is its end. -/
theorem deferWaiting_tallied (h : n.Tallied) (waits : n.outbox.isSome) :
    n.deferWaiting.Tallied := by
  obtain ⟨frame, waits⟩ := Option.isSome_iff_exists.mp waits
  have within := h.within
  by_cases stays : frame.deferred.deferrals ≤ n.config.maxDeferrals
  · have same : n.deferWaiting =
        { n with outbox := some frame.deferred, stats.deferrals := n.stats.deferrals.bump } := by
      rw [deferWaiting, waits, Outbox.defer_some_of_le stays]
    rw [same]
    refine h.quiet .none rfl ?_
    simp only [Counter.toNat_bump]
    have := n.stats.expired.toNat_lt
    omega
  · have same : n.deferWaiting = n.overdue.post (.sent frame.token .expired 0) := by
      rw [deferWaiting, waits, Outbox.defer_some_of_lt (UInt16.not_le.mp stays)]
      rfl
    obtain ⟨entry, grown, about⟩ := post_journal n.overdue (.sent frame.token .expired 0)
    obtain ⟨_, _, _, posted⟩ := post_eq n.overdue (.sent frame.token .expired 0)
    have plain : entry.opens = false ∧ entry.heard? true = none ∧ entry.launch? = none := by
      rcases about with rfl | rfl <;> exact ⟨rfl, rfl, rfl⟩
    have delay : entry.delay? n.journal = none := by
      rw [JournalEntry.delay?, plain.2.2]
      rfl
    rw [same]
    refine h.add grown plain.1 plain.2.1 ?_ (by rw [delay, plain.2.2]; rfl) ?_
    · rw [posted, Stats.note, delay]
      rcases about with rfl | rfl <;> rfl
    · rw [posted]
      simp only [overdue, Counter.toNat_bump]
      omega

theorem emitted_tallied (h : n.Tallied) (accepted : n.accepts .beacon n.reference = true) :
    n.emitted.Tallied := by
  have aired : n.aired.Tallied := by
    have grown : n.aired.journal =
        .submitted (n.submission .beacon n.reference none) :: n.journal := rfl
    refine h.add grown rfl rfl ?_ rfl h.within
    rw [Stats.note_beacon rfl]
    simp only [submission, accepted]
    rfl
  exact aired.quiet (.one rfl ⟨rfl, rfl, rfl, rfl⟩) rfl h.within

theorem submitted_tallied (h : n.Tallied) (refused : n.accepts .beacon n.reference = false) :
    (n.submitted .beacon n.reference none).Tallied := by
  have grown : (n.submitted .beacon n.reference none).journal =
      .submitted (n.submission .beacon n.reference none) :: n.journal := rfl
  refine h.add grown rfl rfl ?_ rfl h.within
  rw [Stats.note_beacon rfl]
  simp only [submission, refused]
  rfl

omit [Medium M ε] in
theorem complete_tallied (h : n.Tallied) (channel : Channel) (completion : Completion)
    (transmissions : UInt8) : (n.complete channel completion transmissions).Tallied := by
  cases channel with
  | beacon => exact h
  | data =>
    cases flies : n.inFlight with
    | none =>
      have same : n.complete .data completion transmissions = n := by simp [complete, flies]
      rwa [same]
    | some frame =>
      obtain ⟨entry, grown, report, -⟩ := complete_journal flies completion transmissions
      obtain ⟨_, _, _, _, same⟩ := n.complete_eq .data completion transmissions
      have lasts : (Event.sent frame.token (.ofCompletion completion frame.synchronized)
          transmissions).isExpiry = false := by
        cases completion <;> cases frame.synchronized <;> rfl
      have quiet : entry.Quiet := by
        rcases report with rfl | rfl
        · exact ⟨rfl, rfl, by simp [JournalEntry.expiry?, lasts], rfl⟩
        · exact ⟨rfl, rfl, by simp [JournalEntry.expiry?, lasts], rfl⟩
      refine ⟨?_, ?_, ?_, ?_, ?_, ?_⟩
      · rw [grown]
        exact .cons quiet.opens
      · rw [grown, Journal.tally_cons, Journal.tally_cons, ← h.stats, same,
          Stats.note_eq_self quiet.submission quiet.sensed quiet.expiry,
          Stats.note_eq_self rfl rfl rfl]
        rfl
      · rw [grown]
        rcases report with rfl | rfl <;>
          simpa [JournalEntry.heard?, JournalEntry.steal?] using h.used
      · rw [grown]
        rcases report with rfl | rfl <;> simpa [JournalEntry.end?] using h.reported
      · rw [grown]
        rcases report with rfl | rfl <;> simpa [JournalEntry.delay?] using h.timed
      · rw [same]
        exact h.within

theorem Step.tallied (step : Step d n m) (other : d ∉ [.sense, .steal, .giveWay]) (aged : n.Aged)
    (h : n.Tallied) : m.Tallied := by
  have quiet (calm : d ∉ Deed.counting) : m.Tallied := by
    have core := step.core calm
    refine h.quiet (step.adds.mono fun entry writes => entry.quiet_of_writers writes calm) core ?_
    have expired : m.stats.expired = n.stats.expired := by
      show m.stats.core.expired = n.stats.core.expired
      rw [core]
    rw [expired, step.kept.deferrals (by rintro rfl; exact calm (by decide))]
    exact h.within
  cases step with
  | sense | steal | giveWay => simp at other
  | offer idle waits owned => exact offered_tallied aged waits h
  | defer waits => exact deferWaiting_tallied h waits
  | emitRefused role refused => exact submitted_tallied h refused
  | emit role accepted => exact emitted_tallied h accepted
  | complete channel completion transmissions =>
    exact complete_tallied h channel completion transmissions
  | _ => exact quiet (by decide)

/-! ## Operations -/

/-- What a node counted, and what it will count for the frame that waits. -/
structure Accountable (n : Node M) : Prop where
  tallied : n.Tallied
  aged : n.Aged

namespace Accountable

omit [Medium M ε] in
theorem congr (h : n.Accountable) (stats : m.stats = n.stats) (journal : m.journal = n.journal)
    (outbox : m.outbox = n.outbox) : m.Accountable := by
  obtain ⟨⟨settled, core, used, reported, timed, within⟩, aged⟩ := h
  rw [← journal] at settled core used reported timed
  rw [← stats] at core within
  refine ⟨⟨settled, core, used, reported, timed, within⟩, ?_⟩
  rw [Aged, journal, outbox]
  exact aged

theorem of_path (path : Path kinds n m)
    (other : ∀ d ∈ kinds, d ∉ [.capture, .sense, .steal, .giveWay]) (h : n.Accountable) :
    m.Accountable := by
  refine path.keeps (fun mem step h => ?_) h
  have calm := other _ mem
  refine ⟨step.tallied (fun mem => calm (List.mem_cons_of_mem _ mem)) h.aged h.tallied,
    step.aged ?_ h.aged⟩
  rintro rfl
  exact calm List.mem_cons_self

end Accountable

omit [Medium M ε] in
theorem capture_aged (n : Node M) {frame : QueuedFrame} (new : frame.deferrals = 0)
    (now : frame.queuedAt = n.fineNow) : (n.capture frame).Aged := by
  obtain ⟨added, grown, others⟩ := n.capture_journal frame
  obtain ⟨_, _, _, same⟩ := n.capture_eq frame
  have quiet : added.findSome? JournalEntry.taken? = none := by
    refine List.findSome?_eq_none_iff.mpr fun entry mem => ?_
    have other := others entry mem
    cases entry with
    | captured => cases other
    | _ => rfl
  intro waiting waits
  have waiting : frame = waiting := by
    rw [same] at waits
    exact Option.some.inj waits
  subst waiting
  refine ⟨n.alarms.now, ?_, now⟩
  rw [grown, List.findSome?_append, quiet, QueuedFrame.original_of_new new]
  rfl

theorem send_accountable (sound : n.Sound) (h : n.Accountable) (token : Token)
    (destination : Address) (bytes : List UInt8) :
    Yields (n.send token destination bytes : Except Fault (Reply ε × Node M)) fun out =>
      out.2.Accountable := by
  refine (send_sends sound token destination bytes).mono ?_
  rintro out (_ | ⟨payload, -, path, -⟩)
  · exact h
  · let frame : QueuedFrame := { token, destination, payload, queuedAt := n.fineNow }
    have expired : Step .expire n n.expireSync := .expire
    have before : n.expireSync.Accountable :=
      ⟨expired.tallied (by decide) h.aged h.tallied, expired.aged (by decide) h.aged⟩
    have captured : Step .capture n.expireSync (n.expireSync.capture frame) := .capture frame
    have reading : n.fineNow = n.expireSync.fineNow := by
      rw [fineNow, fineNow, n.expireSync_held.1]
    refine Accountable.of_path path (by decide) ⟨captured.tallied (by decide) before.aged
      before.tallied, capture_aged _ rfl reading⟩

/-- The end of a backoff counts what was heard and what came of it. -/
theorem endBackoff_accountable (sound : n.Sound) (h : n.Accountable)
    (ended : n.arbitration = .backingOff) :
    Yields (n.endBackoff : Except Fault (Reply ε × Node M)) fun out => out.2.Accountable := by
  have aligned := Accountable.of_path n.aligned_path (by decide) h
  refine (endBackoff_ends sound).mono ?_
  rintro out (looks | @⟨frame, idle, waits⟩)
  · exact Accountable.of_path looks.path (by decide) aligned
  · -- what was heard and what is made of it count together, then the slot alarm is asked for
    obtain ⟨path, time⟩ := contested_path [.sense, .steal, .giveWay] (n := n.aligned) ended idle
      waits (by decide)
    have grid := congrArg TimeBase.origin time
    have contested : (n.aligned.contested frame).Accountable :=
      ⟨contested_tallied aligned.aged waits aligned.tallied,
        path.keeps (fun mem step h => step.aged (by rintro rfl; simp at mem) h) aligned.aged⟩
    have armed : Step .armSlot (n.aligned.contested frame) _ :=
      .armSlot n.aligned.toSlot .awaitingSlot nofun
        (.inr ⟨path.same.current grid (aligned_current sound), (path.same.toSlot grid).symm⟩)
    have last : Path [.armSlot] (n.aligned.contested frame) _ := armed.path
    exact Accountable.of_path last (by decide) contested

theorem perform_accountable (sound : n.Sound) (h : n.Accountable) (operation : Operation) :
    Yields (n.perform operation) fun out => out.2.Accountable := by
  have plain (calm : ∀ d ∈ n.deeds operation, d ∉ [.capture, .sense, .steal, .giveWay]) :
      Yields (n.perform operation) fun out => out.2.Accountable :=
    (perform_yields sound operation).mono fun _ done => .of_path done.1 calm h
  cases operation with
  | send token destination bytes =>
    exact (send_accountable sound h token destination bytes).bind fun _ done =>
      Yields.pure_iff.mpr done
  | alarmFired kind =>
    cases kind with
    | slot =>
      by_cases ended : n.arbitration = .backingOff
      · have spent : Path [.expire, .spendSlot] n (n.expireSync.spent .slot) :=
          ((Path.refl n).snoc .expire).snoc .spendSlot
        have backs : (n.expireSync.spent .slot).arbitration = .backingOff :=
          spent.keeps (P := fun k => k.arbitration = .backingOff)
            (fun mem step backs => (step.kept.arbitration (by rintro rfl; simp at mem)).trans backs)
            ended
        have done : Yields (n.alarmFired .slot : Except Fault (Reply ε × Node M)) fun out =>
            out.2.Accountable := by
          show Yields (if (n.expireSync.spent .slot).arbitration = .backingOff then
            (n.expireSync.spent .slot).endBackoff else
              (n.expireSync.spent .slot).attendSlot true) _
          rw [if_pos backs]
          exact endBackoff_accountable (spent.sound sound) (.of_path spent (by decide) h) backs
        exact done.bind fun _ kept => Yields.pure_iff.mpr kept
      · refine plain ?_
        simp only [deeds, firing, ended, if_false]
        decide
    | beacon => exact plain (by simp only [deeds, firing]; decide)
  | _ => exact plain (by simp [deeds, Deed.following])

end Medium

/-! ## What a recording medium kept -/

/-- What a recording medium was given is what its node handed over; its owner may have taken out
what came first. -/
structure Mirrored (n : Node RecordingMedium) : Prop where
  sensed : n.medium.sensed = n.journal.sensings.length
  sent : n.medium.sent <:+
    (n.journal.submissions.filter (·.accepted)).map fun s => (s.channel, s.bytes)

/-- The owner of a recording medium sets what it does from now on, and may take out frames
that it kept, first ones first. -/
def Tends (n : Node RecordingMedium) : Stimulus RecordingMedium → Prop
  | .medium medium => medium.sensed = n.medium.sensed ∧ medium.sent <:+ n.medium.sent
  | _ => True

instance decidableTends (n : Node RecordingMedium) (stimulus : Stimulus RecordingMedium) :
    Decidable (n.Tends stimulus) :=
  match stimulus with
  | .medium medium =>
    inferInstanceAs (Decidable (medium.sensed = n.medium.sensed ∧ medium.sent <:+ n.medium.sent))
  | .operate _ | .fire _ | .lose _ | .clock _ | .refuse .. => .isTrue trivial

section Recording

variable {n m : Node RecordingMedium} {d : Deed} {kinds : List Deed}

theorem Mirrored.congr (h : n.Mirrored) (sensed : m.medium.sensed = n.medium.sensed)
    (sent : m.medium.sent <:+ n.medium.sent)
    (sensings : m.journal.sensings = n.journal.sensings)
    (submissions : m.journal.submissions = n.journal.submissions) : m.Mirrored := by
  constructor
  · rw [sensed, sensings]
    exact h.sensed
  · rw [submissions]
    exact sent.trans h.sent

/-- A frame that is handed over is kept if it is accepted. -/
theorem submitted_mirrored (h : n.Mirrored) (channel : Channel) (frame : Frame)
    (queued : Option QueuedFrame) : (n.submitted channel frame queued).Mirrored := by
  have sent := h.sent
  have accepts : n.accepts channel frame = !n.medium.refusing := by
    show (RecordingMedium.transmit n.medium channel frame.bytes).1.isOk = _
    rw [RecordingMedium.transmit]
    cases n.medium.refusing <;> rfl
  have next : (n.submitted channel frame queued).medium =
      (RecordingMedium.transmit n.medium channel frame.bytes).2 := rfl
  cases refusing : n.medium.refusing with
  | true =>
    have same : (n.submitted channel frame queued).medium = n.medium := by
      rw [next, RecordingMedium.transmit, if_pos refusing]
    constructor
    · rw [same]
      exact h.sensed.trans (by simp [submitted, Journal.sensings])
    · rw [same]
      simpa [submitted, submission, accepts, refusing] using sent
  | false =>
    have same : (n.submitted channel frame queued).medium =
        { n.medium with sent := n.medium.sent ++ [(channel, frame.bytes)] } := by
      rw [next, RecordingMedium.transmit, if_neg (by simp [refusing])]
    constructor
    · rw [same]
      exact h.sensed.trans (by simp [submitted, Journal.sensings])
    · rw [same]
      obtain ⟨taken, all⟩ := sent
      refine ⟨taken, ?_⟩
      simp [submitted, submission, accepts, refusing, ← all]

theorem Step.mirrored (step : Step d n m) (other : d ≠ .power) (h : n.Mirrored) : m.Mirrored := by
  have quiet (calm : d ∉ [.offer, .sense, .steal, .emit, .power]) : m.Mirrored := by
    have medium := step.kept.medium calm
    refine h.congr (by rw [medium]) (medium ▸ List.suffix_refl _) ?_ ?_
    · exact step.adds.collect_eq fun _ writes =>
        JournalEntry.sensed?_eq_none writes (by rintro rfl; simp at calm)
    · exact step.adds.collect_eq fun _ writes =>
        JournalEntry.submission?_eq_none writes (by grind)
  cases step with
  | power => exact absurd rfl other
  | @offer _ frame | @steal _ frame =>
    have handed := submitted_mirrored h .data (n.dataFrame frame) (some frame)
    rw [offered]
    dsimp only
    split
    · exact ⟨handed.sensed, handed.sent⟩
    · exact ⟨handed.sensed, handed.sent⟩
  | sense =>
    constructor
    · show n.medium.sensed + 1 = (Journal.sensings (.sensed _ :: n.journal)).length
      simp [h.sensed]
    · show n.medium.sent <:+
        List.map _ (List.filter _ (Journal.submissions (.sensed _ :: n.journal)))
      simpa using h.sent
  | emitRefused => exact submitted_mirrored h ..
  | emit =>
    have handed := submitted_mirrored h .beacon n.reference none
    exact handed.congr rfl (List.suffix_refl _) (by simp [emitted, anchored])
      (by simp [emitted, anchored])
  | _ => exact quiet (by decide)

theorem perform_mirrored (sound : n.Sound) (h : n.Mirrored) (operation : Operation) :
    Yields (n.perform operation) fun out => out.2.Mirrored := by
  have plain (calm : .power ∉ n.deeds operation) :
      Yields (n.perform operation) fun out => out.2.Mirrored := by
    refine (perform_yields sound operation).mono fun _ done => ?_
    refine done.1.keeps (fun mem step h => step.mirrored ?_ h) h
    rintro rfl
    exact calm mem
  cases operation with
  | powerOn => exact Yields.ok_iff.mpr (h.congr rfl (List.suffix_refl _) rfl rfl)
  | powerOff keepOn => exact Yields.ok_iff.mpr (h.congr rfl (List.suffix_refl _) rfl rfl)
  | alarmFired kind =>
    exact plain fun mem => absurd (n.deeds_alarmFired kind mem) (by decide)
  | _ => exact plain (by simp [deeds, Deed.following])

/-- Over a recording medium, what was counted is what happened. -/
structure Reconciled (n : Node RecordingMedium) : Prop where
  accountable : n.Accountable
  flights : n.Flights
  mirrored : n.Mirrored

theorem perform_reconciled (sound : n.Sound) (h : n.Reconciled) (operation : Operation) :
    Yields (n.perform operation) fun out => out.2.Reconciled := by
  have flights : Yields (n.perform operation) fun out => out.2.Flights :=
    (perform_yields sound operation).mono fun _ done => done.1.flights h.flights
  exact ((perform_accountable sound h.accountable operation).and
    (flights.and (perform_mirrored sound h.mirrored operation))).mono
    fun _ done => ⟨done.1, done.2.1, done.2.2⟩

theorem undergo_reconciled (sound : n.Sound) (h : n.Reconciled)
    {stimulus : Stimulus RecordingMedium} (tends : n.Tends stimulus) :
    Yields (n.undergo stimulus) fun out => out.2.Reconciled := by
  have facing : (n.facing stimulus).Reconciled := by
    have mirrored : (n.facing stimulus).Mirrored := by
      cases stimulus with
      | medium medium => exact h.mirrored.congr tends.1 tends.2 rfl rfl
      | _ => exact h.mirrored.congr rfl (List.suffix_refl _) rfl rfl
    obtain ⟨alarms, medium, same⟩ := n.facing_amid stimulus
    rw [same] at mirrored ⊢
    exact ⟨h.accountable.congr rfl rfl rfl, h.flights.congr rfl rfl rfl, mirrored⟩
  rw [undergo_eq]
  split
  · exact Yields.ok_iff.mpr facing
  · exact (perform_reconciled (sound.facing stimulus) facing _).bind fun _ done =>
      Yields.pure_iff.mpr done

theorem fresh_reconciled (address : Address) (config : Config) (alarms : AlarmClock)
    (words : WordSource) :
    (fresh address config ({} : RecordingMedium) alarms words).Reconciled :=
  ⟨⟨⟨nofun, rfl, rfl, rfl, rfl, Nat.le_refl _⟩, nofun⟩, ⟨rfl, nofun⟩, ⟨rfl, List.suffix_refl _⟩⟩

end Recording

end Node

open Node

/-- Over every course with a recording medium the statistics agree with what happened. As long
as no counter is at its end, what the medium heard counts as an attempt each time, and once more
as a steal, as a busy channel or as a refusal. Frames refused, beacons accepted and expiries
reported are counted one by one. The end of every data frame accepted was reported, but for the
one in flight, and each of them has a delay, from its capture to its acceptance. -/
theorem statistics_agree {config : Config} (valid : config.Valid) (address : Address)
    (alarms : AlarmClock) (words : WordSource) (stimuli : List (Stimulus RecordingMedium))
    (tended : (fresh address config ({} : RecordingMedium) alarms words).Obeys Tends stimuli) :
    ∃ answers n,
      lifetime address config ({} : RecordingMedium) alarms words stimuli = .ok (.ok (answers, n)) ∧
      (n.stats.Unsaturated →
        n.stats.stealAttempts.toNat = n.medium.sensed ∧
        n.stats.stealAttempts.toNat = n.stats.steals.toNat + n.stats.channelBusy.toNat +
          (n.journal.steals false).length ∧
        (n.journal.steals false).length ≤ n.stats.refused.toNat ∧
        n.stats.refused.toNat = n.journal.refusals.length ∧
        n.stats.beaconsSent.toNat = n.journal.beacons.length ∧
        n.stats.expired.toNat = n.journal.expiries.length) ∧
      n.stats.expired.toNat ≤ n.stats.deferrals.toNat ∧
      n.stats.steals.toNat ≤ n.journal.launches.length ∧
      n.journal.launches.length = n.journal.ends.length + n.inFlight.toList.length ∧
      n.stats.lastDelay = n.journal.delays.getLast?.getD 0 ∧
      n.stats.maxDelay = n.journal.delays.foldl max 0 ∧
      n.journal.delays.length = n.journal.launches.length ∧
      n.medium.sent <:+
        (n.journal.submissions.filter (·.accepted)).map fun s => (s.channel, s.bytes) := by
  rw [← List.append_nil stimuli] at tended
  obtain ⟨answers, n, done, ⟨⟨tallied, -⟩, flights, mirrored⟩, -⟩ :=
    lifetime_obeys
      (fun m _ sound (kept : m.Reconciled) tends => undergo_reconciled sound kept tends) valid
      (fresh_reconciled address config alarms words) tended
  refine ⟨answers, n, done, fun low => ?_, tallied.within, tallied.steals_le,
    tallied.length_launches flights, ?_, ?_, tallied.timed, mirrored.sent⟩
  · obtain ⟨attempts, steals, busy, refused, beacons, expired⟩ := tallied.exact low
    have heard := n.journal.length_sensings
    have used := tallied.used
    have sensed := mirrored.sensed
    have failed := n.journal.length_steals_refused_le
    omega
  · show n.stats.core.lastDelay = _
    rw [tallied.stats, Journal.tally_lastDelay]
  · show n.stats.core.maxDelay = _
    rw [tallied.stats, Journal.tally_maxDelay]

/-- Three frames ahead of the slot: one goes out at once, one is refused and goes out in the slot,
and one is held back because somebody is heard. -/
def threeContested : List (Stimulus RecordingMedium) :=
  [.operate (.send 7 0 [1]), .clock 30000, .fire .slot, .operate (.complete .data .ok 1),
    .medium { refusing := true, sensed := 1 }, .operate (.send 8 0 [2]), .clock 60000,
    .fire .slot, .medium { busy := true, sensed := 2 }, .clock 500100, .fire .slot,
    .operate (.complete .data .ok 1), .clock 700000, .operate (.send 9 0 [3]), .clock 730000,
    .fire .slot]

/-- Each of them counts once as an attempt, and once more for what came of it. -/
theorem statistics_agree_contested :
    ∃ answers n,
      lifetime 3 { mode := .zmac } ({} : RecordingMedium) {} (.cycle [30000]) threeContested =
        .ok (.ok (answers, n)) ∧
      n.medium.sensed = 3 ∧ n.stats.steals = 1 ∧ n.stats.channelBusy = 1 ∧
      n.stats.stealAttempts.toNat = n.medium.sensed ∧
      n.stats.stealAttempts.toNat = n.stats.steals.toNat + n.stats.channelBusy.toNat +
        (n.journal.steals false).length ∧
      n.stats.refused.toNat = n.journal.refusals.length ∧
      n.journal.launches.length = n.journal.ends.length + n.inFlight.toList.length ∧
      n.journal.delays = [30000, 470100] ∧ n.stats.maxDelay = n.journal.delays.foldl max 0 := by
  have valid : ({ mode := .zmac } : Config).Valid := Config.check_eq_ok_iff.mp rfl
  obtain ⟨answers, n, done, counted, -, -, reported, -, slowest, -⟩ :=
    statistics_agree valid 3 {} (.cycle [30000]) threeContested (by decide +kernel)
  obtain ⟨_, _, same, low, sensed, stolen, busy, delays⟩ :
      ∃ answers n,
        lifetime 3 { mode := .zmac } ({} : RecordingMedium) {} (.cycle [30000]) threeContested =
          .ok (.ok (answers, n)) ∧
        n.stats.Unsaturated ∧ n.medium.sensed = 3 ∧ n.stats.steals = 1 ∧ n.stats.channelBusy = 1 ∧
        n.journal.delays = [30000, 470100] :=
    exists_lifetime valid (by decide +kernel)
  cases done.symm.trans same
  obtain ⟨attempts, split, -, refused, -⟩ := counted low
  exact ⟨answers, n, done, sensed, stolen, busy, attempts, split, refused, reported, delays,
    slowest⟩

end SlottedMac
