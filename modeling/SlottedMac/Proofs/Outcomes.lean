import Mathlib.Algebra.Order.Group.Multiset
import Mathlib.Tactic.Abel
import SlottedMac.Proofs.Course
import SlottedMac.Proofs.Node.Journal

/-!
# Every frame has one outcome

A frame that a node took over waits, is in flight, or has been reported, and it
is in one of these states once. The account below says so of the journal of a
node at any point of any operation: the tokens taken over are those reported,
those still owed, and those of a frame that is between the two at the moment.

A report is queued as long as there is room, turned away only when there is none,
and fetched in its turn. This is said of each report at the moment at which it was
made, as the journal tells it.
-/

namespace SlottedMac

/-- The frame that a report is about, if it is about one. -/
def Event.token? : Event → Option Token
  | .sent token _ _ => some token
  | .received .. => none

/-- The frame that an operation hands over, if it is one that fits. -/
def Operation.token? : Operation → Option Token
  | .send token _ bytes => if bytes.length ≤ maxPayload then some token else none
  | _ => none

theorem Operation.token_frame? (operation : Operation) (now : Ticks) :
    (operation.frame? now).map (·.token) = operation.token? := by
  cases operation with
  | send token destination bytes =>
    rw [frame?, Payload.ofBytes?, token?]
    split <;> rfl
  | _ => rfl

/-- The report that an answer brings, if it does. -/
def Answer.fetched? {ε : Type} : Answer ε → Option Event
  | .event fetched => fetched
  | _ => none

/-- The frames that reports are about. -/
def reported (events : List Event) : Multiset Token := ↑(events.filterMap Event.token?)

@[simp] theorem reported_nil : reported [] = 0 := rfl

@[simp] theorem reported_append (events more : List Event) :
    reported (events ++ more) = reported events + reported more := by
  simp [reported]

theorem reported_cons (event : Event) (events : List Event) :
    reported (event :: events) = reported [event] + reported events :=
  reported_append [event] events

@[simp] theorem reported_sent (token : Token) (outcome : Outcome) (transmissions : UInt8) :
    reported [.sent token outcome transmissions] = {token} := rfl

@[simp] theorem reported_received (source destination : Address) (payload : Payload) :
    reported [.received source destination payload] = 0 := rfl

/-! ## The queue of reports, as the journal tells it -/

/-- Whether the deed was about the queue of reports. -/
@[simp] def JournalEntry.isReport : JournalEntry → Bool
  | .posted _ | .dropped _ | .fetched _ => true
  | _ => false

/-- A report is queued if there is room after what was done before, turned away if there
is none, and fetched if it is the oldest one that waits. -/
def JournalEntry.Fits (entry : JournalEntry) (earlier : Journal) : Prop :=
  match entry with
  | .posted _ => earlier.posted.length < earlier.fetched.length + eventCapacity
  | .dropped _ => earlier.posted.length = earlier.fetched.length + eventCapacity
  | .fetched event => earlier.posted[earlier.fetched.length]? = some event
  | _ => True

/-- What was done about reports. The account reads no more of the journal for their order, so
what is done about anything else keeps it. -/
def Journal.reporting (j : Journal) : Journal := j.filter JournalEntry.isReport

namespace Journal

@[simp] theorem reporting_cons (entry : JournalEntry) (j : Journal) :
    reporting (entry :: j) = if entry.isReport then entry :: j.reporting else j.reporting :=
  List.filter_cons

theorem collect_reporting {about : JournalEntry → Option Event}
    (other : ∀ entry, entry.isReport = false → about entry = none) (j : Journal) :
    j.reporting.collect about = j.collect about := by
  induction j with
  | nil => rfl
  | cons entry j ih =>
    rw [reporting_cons, collect_cons, ← ih]
    cases report : entry.isReport with
    | true => exact collect_cons ..
    | false => simp [other entry report]

@[simp] theorem posted_reporting (j : Journal) : j.reporting.posted = j.posted :=
  collect_reporting (fun entry other => by cases entry <;> simp_all) j

@[simp] theorem fetched_reporting (j : Journal) : j.reporting.fetched = j.fetched :=
  collect_reporting (fun entry other => by cases entry <;> simp_all) j

@[simp] theorem dropped_reporting (j : Journal) : j.reporting.dropped = j.dropped :=
  collect_reporting (fun entry other => by cases entry <;> simp_all) j

theorem fits_reporting (j : Journal) (entry : JournalEntry) :
    entry.Fits j.reporting ↔ entry.Fits j := by
  cases entry <;> simp [JournalEntry.Fits]

/-- What is about no report fits anywhere. -/
theorem justified_reporting (j : Journal) :
    Justified JournalEntry.Fits j.reporting ↔ Justified JournalEntry.Fits j := by
  induction j with
  | nil => exact Iff.rfl
  | cons entry j ih =>
    rw [reporting_cons, Justified]
    split
    · rw [Justified, fits_reporting, ih]
    · next other =>
      have free : entry.Fits j := by
        cases entry <;> simp_all [JournalEntry.Fits]
      rw [ih, and_iff_right free]

end Journal

namespace Node

variable {M ε : Type} {n m : Node M} {loose : Multiset Token}

/-- The frames whose end is still to come: the one that waits and the one in
flight. -/
def owed (n : Node M) : Multiset Token :=
  ↑(n.outbox.toList.map (·.token)) + ↑(n.inFlight.toList.map (·.token))

/-- What an account is made of. -/
def books (n : Node M) :=
  (n.journal.captured, n.journal.fetched, n.journal.posted, n.journal.dropped, n.journal.reporting,
    n.events, n.outbox, n.inFlight, n.stats.droppedEvents)

theorem expireSync_books (n : Node M) : n.expireSync.books = n.books := by
  rw [expireSync]
  split
  · split <;> rfl
  · rfl

theorem noteLateness_books (n : Node M) : n.noteLateness.books = n.books := by
  rw [noteLateness]
  split <;> rfl

/-- The account of a node in which the frames `loose` have left the node and are
not reported yet. -/
structure Accounted (loose : Multiset Token) (n : Node M) : Prop where
  outcomes : (↑(n.journal.captured.map (·.token)) : Multiset Token) =
    reported n.journal.fetched + reported n.events + reported n.journal.dropped + n.owed + loose
  order : n.journal.posted = n.journal.fetched ++ n.events
  room : n.events.length ≤ eventCapacity
  fitting : Justified JournalEntry.Fits n.journal.reporting
  turnedAway : n.stats.droppedEvents.toNat = min n.journal.dropped.length (2 ^ 32 - 1)

namespace Accounted

/-- As long as nothing is done about reports, an account is kept but for where the frames are. -/
theorem moved {rest : Multiset Token} (h : Accounted loose n)
    (reporting : m.journal.reporting = n.journal.reporting) (events : m.events = n.events)
    (count : m.stats.droppedEvents = n.stats.droppedEvents)
    (outcomes : (↑(m.journal.captured.map (·.token)) : Multiset Token) =
      reported n.journal.fetched + reported n.events + reported n.journal.dropped + m.owed + rest) :
    Accounted rest m := by
  have posted : m.journal.posted = n.journal.posted := by
    rw [← Journal.posted_reporting, reporting, Journal.posted_reporting]
  have fetched : m.journal.fetched = n.journal.fetched := by
    rw [← Journal.fetched_reporting, reporting, Journal.fetched_reporting]
  have dropped : m.journal.dropped = n.journal.dropped := by
    rw [← Journal.dropped_reporting, reporting, Journal.dropped_reporting]
  constructor
  · rw [fetched, dropped, events, outcomes]
  · rw [posted, fetched, events, h.order]
  · rw [events]
    exact h.room
  · rw [reporting]
    exact h.fitting
  · rw [count, dropped, h.turnedAway]

theorem congr (h : Accounted loose n) (same : m.books = n.books) : Accounted loose m := by
  simp only [books, Prod.mk.injEq] at same
  obtain ⟨captured, -, -, -, reporting, events, outbox, inFlight, count⟩ := same
  refine h.moved reporting events count ?_
  rw [captured, owed, outbox, inFlight]
  exact h.outcomes

/-- A report settles the account of the frame that it is about. -/
theorem post {event : Event} (h : Accounted (loose + reported [event]) n) :
    Accounted loose (n.post event) := by
  obtain ⟨outcomes, order, room, fitting, turnedAway⟩ := h
  have waiting : n.journal.posted.length = n.journal.fetched.length + n.events.length := by
    rw [order, List.length_append]
  rw [Node.post]
  split
  · next events pushed =>
    obtain ⟨less, rfl⟩ := EventQueue.push?_eq_some_iff.mp pushed
    have fits : JournalEntry.Fits (.posted event) n.journal := by
      rw [JournalEntry.Fits, waiting]
      exact Nat.add_lt_add_left less _
    refine ⟨?_, by simp [order], by simpa using Nat.succ_le_of_lt less,
      ⟨(n.journal.fits_reporting _).mpr fits, fitting⟩, by simpa using turnedAway⟩
    simp only [Journal.captured_cons, Journal.fetched_cons, Journal.dropped_cons,
      JournalEntry.captured?, JournalEntry.fetched?, JournalEntry.dropped?, Option.toList_none,
      List.append_nil, reported_append, outcomes]
    show _ = _ + _ + _ + n.owed + _
    abel
  · next full =>
    have most := EventQueue.push?_eq_none_iff.mp full
    have fits : JournalEntry.Fits (.dropped event) n.journal := by
      rw [JournalEntry.Fits, waiting, Nat.le_antisymm room most]
    refine ⟨?_, by simp [order], room, ⟨(n.journal.fits_reporting _).mpr fits, fitting⟩, ?_⟩
    · simp only [Journal.captured_cons, Journal.fetched_cons, Journal.dropped_cons,
        JournalEntry.captured?, JournalEntry.fetched?, JournalEntry.dropped?, Option.toList_none,
        Option.toList_some, List.append_nil, reported_append, outcomes]
      show _ = _ + _ + _ + n.owed + _
      abel
    · simp only [Counter.toNat_bump, turnedAway, Journal.dropped_cons, JournalEntry.dropped?,
        Option.toList_some, List.length_append, List.length_singleton]
      omega

theorem capture (h : Accounted 0 n) (frame : QueuedFrame) : Accounted 0 (n.capture frame) := by
  have taken : Accounted (↑(n.outbox.toList.map (·.token)))
      { n with outbox := some frame, journal := .captured frame n.alarms.now :: n.journal } := by
    refine h.moved (by simp) rfl rfl ?_
    simp only [Journal.captured_cons, JournalEntry.captured?, Option.toList_some, List.map_append,
      ← Multiset.coe_add, h.outcomes, owed]
    abel
  rw [Node.capture]
  dsimp only [Outbox.put]
  cases waits : n.outbox with
  | none => simpa [waits] using taken
  | some previous =>
    apply post
    simpa [waits] using taken

theorem abandon (h : Accounted 0 n) : Accounted 0 n.abandon := by
  have taken : Accounted (↑(n.outbox.toList.map (·.token))) { n with outbox := none } := by
    refine h.moved rfl rfl rfl ?_
    simp only [h.outcomes, owed, Option.toList_none, List.map_nil, Multiset.coe_nil]
    abel
  rw [Node.abandon]
  dsimp only [Outbox.take]
  cases waits : n.outbox with
  | none => simpa [waits] using taken
  | some frame =>
    apply post
    simpa [waits] using taken

theorem deferWaiting (h : Accounted 0 n) (waits : n.outbox.isSome) :
    Accounted 0 n.deferWaiting := by
  obtain ⟨frame, waits⟩ := Option.isSome_iff_exists.mp waits
  have outcomes := h.outcomes
  rw [owed, waits] at outcomes
  rw [Node.deferWaiting]
  rw [waits]
  by_cases stays : frame.deferred.deferrals ≤ n.config.maxDeferrals
  · rw [Outbox.defer_some_of_le stays]
    exact h.moved rfl rfl rfl outcomes
  · rw [Outbox.defer_some_of_lt (UInt16.not_le.mp stays)]
    apply post
    refine h.moved rfl rfl rfl ?_
    rw [outcomes, reported_sent, owed, QueuedFrame.deferred_token]
    simp only [Option.toList_some, List.map_singleton, Multiset.coe_singleton, Option.toList_none,
      List.map_nil, Multiset.coe_nil]
    abel

theorem armSlotAlarm (h : Accounted 0 n) (delay : Ticks) (purpose : Arbitration) :
    Accounted 0 (n.armSlotAlarm delay purpose : Reply ε × Node M).2 := by
  rw [Node.armSlotAlarm]
  split
  · exact h.congr (by simp [books])
  · exact abandon (h.congr (by simp [books]))

theorem armBeaconAlarm (h : Accounted 0 n) (delay : Ticks) :
    Accounted 0 (n.armBeaconAlarm delay : Reply ε × Node M).2 := by
  rw [Node.armBeaconAlarm]
  split
  · exact h.congr (by simp [books])
  · exact h.congr (by simp [books])

theorem complete (h : Accounted 0 n) (channel : Channel) (completion : Completion)
    (transmissions : UInt8) : Accounted 0 (n.complete channel completion transmissions) := by
  unfold Node.complete
  split
  · next frame flies =>
    have outcomes := h.outcomes
    rw [owed, flies] at outcomes
    apply post
    refine h.moved (by simp) rfl rfl ?_
    rw [reported_sent, owed]
    simp only [Journal.captured_cons, JournalEntry.captured?, Option.toList_none,
      Option.toList_some, List.append_nil, List.map_singleton, List.map_nil, Multiset.coe_singleton,
      Multiset.coe_nil, outcomes]
    abel
  · exact h

theorem poll (h : Accounted 0 n) : Accounted 0 n.poll.2 := by
  rw [Node.poll]
  split
  · next event events popped =>
    obtain ⟨outcomes, order, room, fitting, turnedAway⟩ := h
    have split : n.events = event :: events := by
      unfold EventQueue.pop? at popped
      split at popped <;> cases popped
      assumption
    rw [split] at outcomes order room
    have fits : JournalEntry.Fits (.fetched event) n.journal := by
      rw [JournalEntry.Fits, order]
      simp
    refine ⟨?_, by simpa using order, ?_, ⟨(n.journal.fits_reporting _).mpr fits, fitting⟩,
      by simpa using turnedAway⟩
    · rw [reported_cons] at outcomes
      simp only [Journal.captured_cons, Journal.fetched_cons, Journal.dropped_cons,
        JournalEntry.captured?, JournalEntry.fetched?, JournalEntry.dropped?, Option.toList_none,
        Option.toList_some, List.append_nil, reported_append, outcomes]
      show _ = _ + _ + _ + n.owed + _
      abel
    · exact Nat.le_of_succ_le room
  · exact h

variable [Medium M ε]

theorem offered {frame : QueuedFrame} (h : Accounted 0 n) (idle : n.inFlight = none)
    (waits : n.outbox = some frame) : Accounted 0 (n.offered frame) := by
  have outcomes := h.outcomes
  rw [owed, waits, idle] at outcomes
  rw [Node.offered]
  dsimp only
  split
  · refine h.moved (by simp [submitted, launch]) rfl rfl ?_
    simp [submitted, launch, outcomes, owed]
  · refine h.moved (by simp [submitted]) rfl rfl ?_
    simp [submitted, outcomes, owed, waits, idle]

theorem post_received {source destination : Address} {payload : Payload} (h : Accounted 0 n) :
    Accounted 0 (n.post (.received source destination payload)) :=
  post (by simpa using h)

end Accounted

/-- The account is kept by every deed. -/
theorem Step.accounted [Medium M ε] {d : Deed} (step : Step d n m) (h : Accounted 0 n) :
    Accounted 0 m := by
  cases step with
  | begin | align | giveWay | spendBeacon | draw | reject | power | plan => exact h.congr rfl
  | start | follow | anchor => exact h.congr (by simp [books, informed, anchored])
  | sense | emitRefused | emit =>
    exact h.congr (by simp [books, Node.sense, submitted, emitted, anchored])
  | expire => exact h.congr n.expireSync_books
  | capture frame => exact h.capture frame
  | offer idle waits owned => exact h.offered idle waits
  | steal ended idle waits heard => exact (h.offered idle waits).congr rfl
  | defer waits => exact h.deferWaiting waits
  | armSlot delay purpose => exact h.armSlotAlarm delay purpose
  | armBeacon delay => exact h.armBeaconAlarm delay
  | spendSlot => exact h.congr { n with slotAlarm := none }.noteLateness_books
  | complete channel completion transmissions => exact h.complete channel completion transmissions
  | fetch => exact h.poll
  | deliver source destination payload => exact h.post_received

/-! ## What callers see of the account -/

section Medium

variable [Medium M ε] {kinds : List Deed}

/-- A poll answers the oldest report that waits, and takes it from the queue. -/
theorem perform_poll (n : Node M) :
    ∃ m, n.perform .poll = .ok (.event n.events.head?, m) ∧ m.events = n.events.tail := by
  cases waiting : n.events with
  | nil =>
    have idle : n.poll = (none, n) := by rw [poll, waiting, EventQueue.pop?]
    exact ⟨n, by rw [perform, idle]; rfl, waiting⟩
  | cons event rest =>
    have fetched : n.poll =
        (some event, { n with events := rest, journal := .fetched event :: n.journal }) := by
      rw [poll, waiting, EventQueue.pop?]
    exact ⟨_, by rw [perform, fetched]; rfl, rfl⟩

theorem Path.fetched_eq (path : Path kinds n m) (none : .fetch ∉ kinds := by decide) :
    m.journal.fetched = n.journal.fetched := by
  refine path.adds.collect_eq ?_
  rintro entry ⟨d, mem, writes⟩
  cases entry with
  | fetched event =>
    simp only [JournalEntry.writers, List.mem_singleton] at writes
    exact absurd (writes ▸ mem) none
  | _ => rfl

/-- An operation fetches what it answers. -/
theorem perform_fetched (sound : n.Sound) (operation : Operation) :
    Yields (n.perform operation) fun out =>
      out.2.journal.fetched = n.journal.fetched ++ out.1.fetched?.toList := by
  have quiet {kinds : List Deed} {k : Node M} (path : Path kinds n k)
      (none : .fetch ∉ kinds := by decide) : k.journal.fetched = n.journal.fetched ++ [] := by
    rw [path.fetched_eq none, List.append_nil]
  cases operation with
  | start => exact Yields.ok_iff.mpr (quiet n.start_path)
  | send token destination bytes =>
    exact (send_yields sound token destination bytes).bind fun _ done =>
      Yields.pure_iff.mpr (quiet done.1)
  | alarmFired kind =>
    refine (alarmFired_yields sound kind).bind ?_
    rintro out ⟨path, -⟩
    refine Yields.pure_iff.mpr (quiet path fun fetches => ?_)
    exact absurd (n.deeds_alarmFired kind fetches) (by decide)
  | receive bytes =>
    exact (receive_path sound bytes).bind fun _ path => Yields.pure_iff.mpr (quiet path)
  | complete channel completion transmissions =>
    have done : Path [.complete] n _ := (Step.complete channel completion transmissions).path
    exact Yields.ok_iff.mpr (quiet done)
  | poll =>
    refine Yields.ok_iff.mpr ?_
    show n.poll.2.journal.fetched = n.journal.fetched ++ n.poll.1.toList
    rw [poll]
    split
    · simp
    · simp
  | powerOn =>
    have done : Path [.power] n _ := (Step.power Medium.powerOn).path
    exact Yields.ok_iff.mpr (quiet done)
  | powerOff keepOn =>
    have done : Path [.power] n _ := (Step.power (Medium.powerOff · keepOn)).path
    exact Yields.ok_iff.mpr (quiet done)

end Medium

end Node

/-- The frames that stimuli hand over. -/
def taken {M : Type} (stimuli : List (Stimulus M)) : List Token :=
  stimuli.filterMap fun stimulus => stimulus.operation?.bind Operation.token?

theorem taken_snoc {M : Type} (past : List (Stimulus M)) (stimulus : Stimulus M) :
    taken (past ++ [stimulus]) =
      taken past ++ (stimulus.operation?.bind Operation.token?).toList := by
  simp only [taken, List.filterMap_append]
  cases handed : stimulus.operation?.bind Operation.token? <;> simp [handed]

/-- The reports that answers bring. -/
def fetched {ε : Type} (answers : List (Answer ε)) : List Event :=
  answers.filterMap Answer.fetched?

theorem fetched_snoc {ε : Type} (past : List (Answer ε)) (answer : Answer ε) :
    fetched (past ++ [answer]) = fetched past ++ answer.fetched?.toList := by
  simp only [fetched, List.filterMap_append]
  cases brought : answer.fetched? <;> simp [brought]

namespace Node

variable {M ε : Type}

/-- A node whose books agree with what was done to it and what it answered. -/
structure Recorded (past : List (Stimulus M)) (answers : List (Answer ε)) (n : Node M) : Prop where
  accounted : Accounted 0 n
  captured : n.journal.captured.map (·.token) = taken past
  fetched : n.journal.fetched = SlottedMac.fetched answers

theorem undergo_recorded [Medium M ε] {past : List (Stimulus M)} {answers : List (Answer ε)}
    {n : Node M} (sound : n.Sound) (recorded : Recorded past answers n) (stimulus : Stimulus M) :
    Yields (n.undergo stimulus) fun out =>
      Recorded (past ++ [stimulus]) (answers ++ out.1.toList) out.2 := by
  obtain ⟨accounted, captured, got⟩ := recorded
  refine undergo_yields
    (Q := fun answer k => Recorded (past ++ [stimulus]) (answers ++ answer.toList) k) ?_ ?_
  · intro idle alarms medium
    have nothing : stimulus.operation?.bind Operation.token? = none := by
      cases stimulus with
      | operate operation => exact absurd rfl (idle operation)
      | _ => rfl
    refine ⟨accounted.congr rfl, ?_, ?_⟩
    · rw [taken_snoc, nothing]
      exact captured.trans (List.append_nil _).symm
    · exact got.trans (congrArg SlottedMac.fetched (List.append_nil answers).symm)
  · intro alarms medium operation leads
    have inOrder := sound.amid alarms medium
    refine ((perform_yields inOrder operation).and
      ((perform_captures inOrder operation).and (perform_fetched inOrder operation))).mono ?_
    rintro out ⟨⟨path, -⟩, handed, brought⟩
    refine ⟨path.keeps (fun _ step h => step.accounted h) (accounted.congr rfl), ?_, ?_⟩
    · rw [handed, taken_snoc, leads, List.map_append, ← Option.toList_map, operation.token_frame?]
      exact congrArg (· ++ _) captured
    · rw [brought, Option.toList_some, fetched_snoc]
      exact congrArg (· ++ _) got

theorem lifetime_recorded [Medium M ε] {config : Config} (valid : config.Valid)
    (address : Address) (medium : M) (alarms : AlarmClock) (words : WordSource)
    (stimuli : List (Stimulus M)) :
    ∃ answers n, lifetime address config medium alarms words stimuli = .ok (.ok (answers, n)) ∧
      Recorded stimuli answers n ∧ n.Sound :=
  lifetime_yields stimuli valid ⟨⟨rfl, rfl, Nat.zero_le _, trivial, rfl⟩, rfl, rfl⟩
    fun _ _ _ stimulus _ sound recorded => undergo_recorded sound recorded stimulus

end Node

open Node

/-- Every frame that was handed over and fits has one outcome: it is reported
and the report fetched, queued or turned away, or it still waits or is in
flight. Reports are fetched in the order in which they were queued, each was queued while
fewer than fifteen waited and turned away while fifteen did, and the oldest one that waits is
what the next poll brings. -/
theorem one_outcome_each {M ε : Type} [Medium M ε] {config : Config} (valid : config.Valid)
    (address : Address) (medium : M) (alarms : AlarmClock) (words : WordSource)
    (stimuli : List (Stimulus M)) :
    ∃ answers n, lifetime address config medium alarms words stimuli = .ok (.ok (answers, n)) ∧
      (↑(taken stimuli) : Multiset Token) =
        reported (fetched answers) + reported n.events + reported n.journal.dropped +
          ↑(n.outbox.toList.map (·.token)) + ↑(n.inFlight.toList.map (·.token)) ∧
      n.journal.posted = fetched answers ++ n.events ∧
      n.events.length ≤ 15 ∧
      (∀ (later earlier : Journal) event, n.journal = later ++ .posted event :: earlier →
        earlier.posted.length < earlier.fetched.length + 15) ∧
      (∀ (later earlier : Journal) event, n.journal = later ++ .dropped event :: earlier →
        earlier.posted.length = earlier.fetched.length + 15) ∧
      n.stats.droppedEvents.toNat = min n.journal.dropped.length (2 ^ 32 - 1) ∧
      ∃ m, n.perform .poll = .ok (.event n.events.head?, m) ∧ m.events = n.events.tail := by
  obtain ⟨answers, n, done, ⟨accounted, captured, got⟩, -⟩ :=
    lifetime_recorded (ε := ε) valid address medium alarms words stimuli
  have fitting := n.journal.justified_reporting.mp accounted.fitting
  refine ⟨answers, n, done, ?_, ?_, accounted.room, fun _ _ _ => fitting.at_split,
    fun _ _ _ => fitting.at_split, accounted.turnedAway, n.perform_poll⟩
  · rw [← captured, ← got, accounted.outcomes, owed]
    abel
  · rw [accounted.order, got]

/-- Eighteen frames in a row of which each replaces the one before, then one report is fetched,
the last frame is launched in its slot, and another one comes. -/
def crowding : List (Stimulus RecordingMedium) :=
  (List.range 18).map (fun token => .operate (.send (.ofNat token) 0 [1])) ++
    [.operate .poll, .clock 500000, .fire .slot, .operate (.send 18 0 [1])]

/-- Of the seventeen frames that were replaced, the report about the first is fetched, fourteen
are queued, and two found no room. -/
theorem one_outcome_each_crowded :
    ∃ answers n,
      lifetime 3 {} ({} : RecordingMedium) {} (.cycle []) crowding = .ok (.ok (answers, n)) ∧
      fetched answers = [.sent 0 .cancelled 0] ∧
      n.events = (List.range' 1 14).map (fun token => .sent (.ofNat token) .cancelled 0) ∧
      n.journal.dropped = [.sent 15 .cancelled 0, .sent 16 .cancelled 0] ∧
      n.inFlight.map (·.token) = some 17 ∧ n.outbox.map (·.token) = some 18 ∧
      n.stats.droppedEvents = 2 ∧
      (↑(taken crowding) : Multiset Token) =
        reported [.sent 0 .cancelled 0] + reported n.events + reported n.journal.dropped +
          ↑(n.outbox.toList.map (·.token)) + ↑(n.inFlight.toList.map (·.token)) ∧
      ∃ m, n.perform .poll = .ok (.event (some (.sent 1 .cancelled 0)), m) := by
  obtain ⟨answers, n, done, outcomes, order, -, -, -, -, m, polled, -⟩ :=
    one_outcome_each Config.valid_default 3 ({} : RecordingMedium) {} (.cycle []) crowding
  obtain ⟨_, _, same, posted, events, dropped, flies, waits, count⟩ :
      ∃ answers n,
        lifetime 3 {} ({} : RecordingMedium) {} (.cycle []) crowding = .ok (.ok (answers, n)) ∧
        n.journal.posted = [.sent 0 .cancelled 0] ++ n.events ∧
        n.events = (List.range' 1 14).map (fun token => .sent (.ofNat token) .cancelled 0) ∧
        n.journal.dropped = [.sent 15 .cancelled 0, .sent 16 .cancelled 0] ∧
        n.inFlight.map (·.token) = some 17 ∧ n.outbox.map (·.token) = some 18 ∧
        n.stats.droppedEvents = 2 :=
    exists_lifetime Config.valid_default (by decide +kernel)
  cases done.symm.trans same
  have got : fetched answers = [.sent 0 .cancelled 0] :=
    List.append_cancel_right (order.symm.trans posted)
  rw [got] at outcomes
  rw [events] at polled
  exact ⟨answers, n, done, got, events, dropped, flies, waits, count, outcomes, m, polled⟩

end SlottedMac
