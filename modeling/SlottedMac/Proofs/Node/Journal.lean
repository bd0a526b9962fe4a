import SlottedMac.Proofs.Node.Operations

/-!
# What deeds leave in the journal

The journal only grows, and the kind of an entry tells which deeds can have
written it. So an operation that does no deed of the right kind leaves no entry
of that kind.
-/

namespace SlottedMac

open Node (Deed)

/-- The deeds that make a report like this one. A frame that is not sent is given up
for one reason each; every other end is that of a completion. -/
def Event.makers : Event → List Deed
  | .sent _ .cancelled _ => [.capture]
  | .sent _ .expired _ => [.defer]
  | .sent _ .failed _ => [.armSlot, .complete]
  | .sent _ _ _ => [.complete]
  | .received .. => [.deliver]

/-- The deeds that write an entry like this one. -/
def JournalEntry.writers : JournalEntry → List Deed
  | .started _ => [.start]
  | .captured _ _ => [.capture]
  | .submitted submission =>
    match submission.channel with
    | .data => [.offer, .steal]
    | .beacon => [.emit]
  | .sensed _ => [.sense]
  | .followed _ => [.follow]
  | .gridRestarted _ => [.emit, .anchor]
  | .slotAlarm .. => [.armSlot]
  | .beaconAlarm .. => [.armBeacon]
  | .completed _ => [.complete]
  | .posted event => event.makers
  | .dropped event => event.makers
  | .fetched _ => [.fetch]

/-- Only a capture captures. -/
theorem JournalEntry.captured?_eq_none {entry : JournalEntry} {d : Deed}
    (writes : d ∈ entry.writers) (other : d ≠ .capture) : entry.captured? = none := by
  cases entry with
  | captured frame time =>
    simp only [writers, List.mem_singleton] at writes
    exact absurd writes other
  | _ => rfl

/-- Only what hands a frame over submits one. -/
theorem JournalEntry.submission?_eq_none {entry : JournalEntry} {d : Deed}
    (writes : d ∈ entry.writers) (other : d ∉ [.offer, .steal, .emit]) :
    entry.submission? = none := by
  cases entry with
  | submitted s =>
    refine absurd ?_ other
    rw [writers] at writes
    split at writes
    · simp_all
    · simp_all
  | _ => rfl

@[simp] theorem Journal.collect_append {α : Type} (later earlier : Journal)
    (about : JournalEntry → Option α) :
    collect (later ++ earlier) about = earlier.collect about ++ later.collect about := by
  simp [collect]

theorem Journal.collect_eq_nil {α : Type} {j : Journal} {about : JournalEntry → Option α}
    (none : ∀ entry ∈ j, about entry = none) : j.collect about = [] := by
  rw [collect, List.filterMap_eq_nil_iff]
  intro entry mem
  exact none entry (List.mem_reverse.mp mem)

/-- Every entry is one that the entries before it justify. -/
def Justified (ok : JournalEntry → Journal → Prop) : Journal → Prop
  | [] => True
  | entry :: earlier => ok entry earlier ∧ Justified ok earlier

namespace Justified

variable {ok more : JournalEntry → Journal → Prop} {j : Journal}

theorem at_split {entry : JournalEntry} {later earlier : Journal} (h : Justified ok j)
    (split : j = later ++ entry :: earlier) : ok entry earlier := by
  subst split
  induction later with
  | nil => exact h.1
  | cons _ _ ih => exact ih h.2

/-- Entries that need nothing before them may be added. -/
theorem append {later : Journal} (h : Justified ok j)
    (free : ∀ entry ∈ later, ∀ earlier, ok entry earlier) : Justified ok (later ++ j) := by
  induction later with
  | nil => exact h
  | cons entry later ih =>
    exact ⟨free entry List.mem_cons_self _, ih fun e mem => free e (List.mem_cons_of_mem _ mem)⟩

theorem mono (h : Justified ok j)
    (weaken : ∀ entry earlier, (entry :: earlier) <:+ j → ok entry earlier → more entry earlier) :
    Justified more j := by
  induction j with
  | nil => trivial
  | cons entry j ih =>
    refine ⟨weaken entry j (List.suffix_refl _) h.1, ih h.2 fun e earlier part => ?_⟩
    exact weaken e earlier (part.trans (List.suffix_cons entry j))

/-- Entries that are justified on top of a journal extend it. -/
theorem extend {added : Journal} (h : Justified ok j)
    (new : Justified (fun entry rest => ok entry (rest ++ j)) added) :
    Justified ok (added ++ j) := by
  induction added with
  | nil => exact h
  | cons entry added ih => exact ⟨new.1, ih new.2⟩

end Justified

theorem Outbox.of_defer {o : Outbox} {limit : UInt16} {waiting : QueuedFrame}
    (waits : (o.defer limit).1 = some waiting) :
    ∃ frame, o = some frame ∧ waiting = frame.deferred ∧ frame.deferred.deferrals ≤ limit := by
  cases o with
  | none => cases waits
  | some frame =>
    rw [Outbox.defer] at waits
    split at waits
    · next within =>
      cases waits
      exact ⟨frame, rfl, rfl, within⟩
    · cases waits

/-- The frame that an operation hands over at a fine reading, if it does and the bytes
fit. -/
def Operation.frame? (now : Ticks) : Operation → Option QueuedFrame
  | .send token destination bytes =>
    (Payload.ofBytes? bytes).map fun payload => { token, destination, payload, queuedAt := now }
  | _ => none

namespace Node

variable {M ε : Type} {n m k : Node M} {allowed more : JournalEntry → Prop}

/-- The journal grew by entries that are allowed. -/
def Adds (allowed : JournalEntry → Prop) (n m : Node M) : Prop :=
  ∃ added, m.journal = added ++ n.journal ∧ ∀ entry ∈ added, allowed entry

namespace Adds

theorem none (same : m.journal = n.journal := by rfl) : Adds allowed n m := ⟨[], same, nofun⟩

theorem one {entry : JournalEntry} (same : m.journal = entry :: n.journal)
    (ok : allowed entry := by simp [JournalEntry.writers]) : Adds allowed n m :=
  ⟨[entry], same, by simpa using ok⟩

theorem trans (h : Adds allowed n m) (h' : Adds allowed m k) : Adds allowed n k := by
  obtain ⟨earlier, same, old⟩ := h
  obtain ⟨later, same', new⟩ := h'
  refine ⟨later ++ earlier, by rw [same', same, List.append_assoc], ?_⟩
  intro entry mem
  exact (List.mem_append.mp mem).elim (new entry) (old entry)

theorem mono (h : Adds allowed n m) (weaken : ∀ entry, allowed entry → more entry) :
    Adds more n m := by
  obtain ⟨added, same, all⟩ := h
  exact ⟨added, same, fun entry mem => weaken entry (all entry mem)⟩

/-- Entries that are about nothing of a kind leave the account of that kind as it
was. -/
theorem collect_eq {α : Type} {about : JournalEntry → Option α} (h : Adds allowed n m)
    (other : ∀ entry, allowed entry → about entry = Option.none) :
    m.journal.collect about = n.journal.collect about := by
  obtain ⟨added, same, all⟩ := h
  rw [same, Journal.collect_append,
    Journal.collect_eq_nil fun entry mem => other entry (all entry mem), List.append_nil]

end Adds

section Posting

/-- A report may be made, whether it finds room or not. -/
def Posts (allowed : JournalEntry → Prop) (event : Event) : Prop :=
  allowed (.posted event) ∧ allowed (.dropped event)

theorem post_adds {event : Event} (posts : Posts allowed event) (n : Node M) :
    Adds allowed n (n.post event) := by
  rw [post]
  split
  · exact .one rfl posts.1
  · exact .one rfl posts.2

theorem abandon_adds (posts : ∀ token, Posts allowed (.sent token .failed 0)) (n : Node M) :
    Adds allowed n n.abandon := by
  rw [abandon]
  dsimp only [Outbox.take]
  cases n.outbox with
  | none => exact .none
  | some frame =>
    refine .trans ?_ (post_adds (posts frame.token) _)
    exact .none

theorem capture_adds (posts : ∀ token, Posts allowed (.sent token .cancelled 0)) (n : Node M)
    (frame : QueuedFrame) (takes : allowed (.captured frame n.alarms.now)) :
    Adds allowed n (n.capture frame) := by
  rw [capture]
  dsimp only [Outbox.put]
  cases n.outbox with
  | none => exact .one rfl takes
  | some previous =>
    refine .trans ?_ (post_adds (posts previous.token) _)
    exact .one rfl takes

theorem deferWaiting_adds (posts : ∀ token, Posts allowed (.sent token .expired 0)) (n : Node M) :
    Adds allowed n n.deferWaiting := by
  rw [deferWaiting]
  cases n.outbox.defer n.config.maxDeferrals with
  | mk outbox given =>
    cases given with
    | none => exact .none
    | some frame =>
      refine .trans ?_ (post_adds (posts frame.token) _)
      exact .none

theorem armSlotAlarm_adds (posts : ∀ token, Posts allowed (.sent token .failed 0)) (n : Node M)
    (delay : Ticks) (purpose : Arbitration)
    (asks : ∀ granted, allowed (.slotAlarm delay purpose granted)) :
    Adds allowed n (n.armSlotAlarm delay purpose : Reply ε × Node M).2 := by
  rw [armSlotAlarm]
  split
  · exact .one rfl (asks true)
  · refine .trans ?_ (abandon_adds posts _)
    exact .one rfl (asks false)

/-- What is asked of the slot alarm is written down, and then at most that a frame was given
up. -/
theorem armSlotAlarm_writes (n : Node M) (delay : Ticks) (purpose : Arbitration) :
    ∃ reports granted,
      (n.armSlotAlarm delay purpose : Reply ε × Node M).2.journal =
        reports ++ .slotAlarm delay purpose granted :: n.journal ∧
      ∀ entry ∈ reports, ∃ token,
        entry = .posted (.sent token .failed 0) ∨ entry = .dropped (.sent token .failed 0) := by
  rw [armSlotAlarm]
  split
  · exact ⟨[], true, rfl, by simp⟩
  · have grown (k : Node M) : Adds (fun entry => ∃ token,
        entry = .posted (.sent token .failed 0) ∨ entry = .dropped (.sent token .failed 0))
        k k.abandon :=
      abandon_adds (fun token => ⟨⟨token, .inl rfl⟩, ⟨token, .inr rfl⟩⟩) k
    obtain ⟨reports, same, given⟩ := grown _
    exact ⟨reports, false, same, given⟩

theorem complete_adds (n : Node M) (channel : Channel) (completion : Completion)
    (transmissions : UInt8) (ends : ∀ token, allowed (.completed token))
    (posts : ∀ token synchronized,
      Posts allowed (.sent token (.ofCompletion completion synchronized) transmissions)) :
    Adds allowed n (n.complete channel completion transmissions) := by
  unfold complete
  split
  · next frame _ =>
    refine .trans ?_ (post_adds (posts frame.token frame.synchronized) _)
    exact .one rfl (ends frame.token)
  · exact .none

end Posting

theorem capture_captured (n : Node M) (frame : QueuedFrame) :
    (n.capture frame).journal.captured = n.journal.captured ++ [frame] := by
  rw [capture]
  dsimp only [Outbox.put]
  cases n.outbox with
  | none => simp
  | some previous =>
    have grown (k : Node M) (event : Event) : Adds (·.captured? = none) k (k.post event) :=
      post_adds (by simp [Posts]) k
    refine ((grown _ _).collect_eq fun _ none => none).trans ?_
    exact Journal.captured_cons ..

/-! ## The frame that waits -/

theorem deferWaiting_outbox (n : Node M) :
    n.deferWaiting.outbox = (n.outbox.defer n.config.maxDeferrals).1 := by
  rw [deferWaiting]
  cases n.outbox.defer n.config.maxDeferrals with
  | mk outbox given =>
    cases given with
    | none => rfl
    | some frame =>
      obtain ⟨_, _, _, same⟩ := post_eq
        { n with
          outbox
          stats.deferrals := n.stats.deferrals.bump
          stats.expired := n.stats.expired.bump }
        (.sent frame.token .expired 0)
      exact congrArg Node.outbox same

/-- Asking for a slot alarm leaves the frame that waits alone, unless it is
refused. -/
theorem armSlotAlarm_outbox (n : Node M) (delay : Ticks) (purpose : Arbitration) :
    (n.armSlotAlarm delay purpose : Reply ε × Node M).2.outbox = n.outbox ∨
      (n.armSlotAlarm delay purpose : Reply ε × Node M).2.outbox = none ∧
        ∃ added, (n.armSlotAlarm delay purpose : Reply ε × Node M).2.journal =
          added ++ .slotAlarm delay purpose false :: n.journal ∧
            ∀ entry ∈ added, entry.captured? = none := by
  rw [armSlotAlarm]
  split
  · exact .inl rfl
  · exact .inr ⟨abandon_outbox _, abandon_adds (by simp [Posts]) _⟩

theorem capture_journal (n : Node M) (frame : QueuedFrame) :
    ∃ added, (n.capture frame).journal = added ++ .captured frame n.alarms.now :: n.journal ∧
      ∀ entry ∈ added, entry.captured? = none := by
  rw [capture]
  dsimp only [Outbox.put]
  cases n.outbox with
  | none => exact ⟨[], rfl, by simp⟩
  | some previous => exact post_adds (by simp [Posts]) _

theorem post_journal (n : Node M) (event : Event) :
    ∃ entry, (n.post event).journal = [entry] ++ n.journal ∧
      (entry = .posted event ∨ entry = .dropped event) := by
  rw [post]
  split
  · exact ⟨_, rfl, .inl rfl⟩
  · exact ⟨_, rfl, .inr rfl⟩

theorem post_events (n : Node M) (event : Event) :
    (n.post event).events =
      if n.events.length < eventCapacity then n.events ++ [event] else n.events := by
  rw [post, EventQueue.push?]
  split
  · next fits => split at fits <;> simp_all
  · next full => split at full <;> simp_all

section Medium

variable [Medium M ε]

theorem offered_outbox (n : Node M) (frame : QueuedFrame) :
    (n.offered frame).outbox =
      if n.accepts .data (n.dataFrame frame) then none else n.outbox := by
  rw [offered]
  dsimp only
  split <;> rfl

theorem offered_journal (n : Node M) (frame : QueuedFrame) :
    (n.offered frame).journal =
      .submitted (n.submission .data (n.dataFrame frame) (some frame)) :: n.journal := by
  rw [offered]
  dsimp only
  split <;> rfl

/-- A deed leaves no entries but its own. -/
theorem Step.adds {d : Deed} (step : Step d n m) : Adds (d ∈ ·.writers) n m := by
  cases step with
  | begin | plan | align | giveWay | spendBeacon | draw | reject | power => exact .none
  | start | follow | anchor | sense => exact .one rfl
  | expire =>
    obtain ⟨_, _, same⟩ := n.expireSync_eq
    exact .none (by rw [same])
  | spendSlot =>
    obtain ⟨_, same⟩ := { n with slotAlarm := none }.noteLateness_eq
    exact .none (by rw [same])
  | capture frame =>
    exact capture_adds (by simp [Posts, JournalEntry.writers, Event.makers]) n frame
      (by simp [JournalEntry.writers])
  | @offer _ frame =>
    exact .one (offered_journal n frame) (by simp [JournalEntry.writers, submission])
  | @steal _ frame =>
    exact .one (offered_journal n frame) (by simp [JournalEntry.writers, submission])
  | defer => exact deferWaiting_adds (by simp [Posts, JournalEntry.writers, Event.makers]) n
  | armSlot delay purpose =>
    exact armSlotAlarm_adds (by simp [Posts, JournalEntry.writers, Event.makers]) n delay purpose
      (by simp [JournalEntry.writers])
  | armBeacon delay =>
    rw [armBeaconAlarm]
    split <;> exact .one rfl
  | emitRefused => exact .one rfl (by simp [JournalEntry.writers, submission])
  | emit =>
    have handed : Adds (.emit ∈ ·.writers) n (n.submitted .beacon n.reference none) :=
      .one rfl (by simp [JournalEntry.writers, submission])
    exact handed.trans (.one rfl)
  | complete channel completion transmissions =>
    refine complete_adds n channel completion transmissions (by simp [JournalEntry.writers]) ?_
    intro token synchronized
    have makes : Deed.complete ∈ (Event.sent token (.ofCompletion completion synchronized)
        transmissions).makers := by
      cases completion <;> cases synchronized <;> simp [Outcome.ofCompletion, Event.makers]
    exact ⟨makes, makes⟩
  | fetch =>
    rw [poll]
    split
    · exact .one rfl
    · exact .none
  | deliver source destination payload =>
    exact post_adds (by simp [Posts, JournalEntry.writers, Event.makers]) n

theorem Step.adds_uncaptured {d : Deed} (step : Step d n m) (captures : d ≠ .capture) :
    Adds (·.captured? = none) n m :=
  step.adds.mono fun _ writes => JournalEntry.captured?_eq_none writes captures

/-- Deeds leave no entries but those of their kinds. -/
theorem Path.adds {kinds : List Deed} (path : Path kinds n m) :
    Adds (fun entry => ∃ d ∈ kinds, d ∈ entry.writers) n m := by
  refine path.keeps (fun mem step so_far => so_far.trans (step.adds.mono ?_)) .none
  intro _ writes
  exact ⟨_, mem, writes⟩

/-- Frames stay captured. -/
theorem Path.captured_ne {kinds : List Deed} (path : Path kinds n m)
    (some : n.journal.captured ≠ []) : m.journal.captured ≠ [] := by
  obtain ⟨added, same, -⟩ := path.adds
  rw [same, Journal.captured, Journal.collect_append]
  intro none
  exact some (List.append_eq_nil_iff.mp none).1

theorem Path.captured_eq {kinds : List Deed} (path : Path kinds n m)
    (none : .capture ∉ kinds := by decide) : m.journal.captured = n.journal.captured := by
  refine path.adds.collect_eq ?_
  rintro entry ⟨d, mem, writes⟩
  refine entry.captured?_eq_none writes ?_
  rintro rfl
  exact none mem

/-! ## What operations capture -/

theorem mem_deeds_capture {operation : Operation} (captures : .capture ∈ n.deeds operation) :
    ∃ token destination bytes, operation = .send token destination bytes := by
  cases operation with
  | send token destination bytes => exact ⟨token, destination, bytes, rfl⟩
  | alarmFired kind => exact absurd (n.deeds_alarmFired kind captures) (by decide)
  | _ => simp [deeds, Deed.following] at captures

theorem send_captures (sound : n.Sound) (token : Token) (destination : Address)
    (bytes : List UInt8) :
    Yields (n.send token destination bytes : Except Fault (Reply ε × Node M)) fun out =>
      out.2.journal.captured =
        n.journal.captured ++
          ((Operation.send token destination bytes).frame? n.fineNow).toList := by
  refine (send_sends sound token destination bytes).mono ?_
  rintro out (⟨exceeds⟩ | ⟨payload, rfl, path, -⟩)
  · simp [Operation.frame?, Payload.ofBytes?_eq_none_iff.mpr exceeds]
  · have expired : Path [.expire] n n.expireSync := Step.expire.path
    rw [path.captured_eq, capture_captured, expired.captured_eq]
    simp [Operation.frame?]

/-- An operation captures the frame that it hands over, if it does. -/
theorem perform_captures (sound : n.Sound) (operation : Operation) :
    Yields (n.perform operation) fun out =>
      out.2.journal.captured = n.journal.captured ++ (operation.frame? n.fineNow).toList := by
  by_cases captures : .capture ∈ n.deeds operation
  · obtain ⟨token, destination, bytes, rfl⟩ := mem_deeds_capture captures
    exact (send_captures sound token destination bytes).bind fun _ done => Yields.pure_iff.mpr done
  · refine (perform_yields sound operation).mono ?_
    rintro out ⟨path, -⟩
    have none : operation.frame? n.fineNow = none := by
      cases operation with
      | send token destination bytes => simp [deeds] at captures
      | _ => rfl
    rw [path.captured_eq captures, none]
    exact (List.append_nil _).symm

end Medium

end Node

end SlottedMac
