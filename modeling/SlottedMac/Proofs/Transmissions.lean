import SlottedMac.Proofs.Launches
import SlottedMac.Proofs.Outcomes

/-!
# What a node puts on the air

Beacons and data frames are numbered together, and a number is spent whether or
not the medium takes the frame. Every frame is written anew into one buffer,
whose later bytes are those of earlier frames; what the medium is given is the
written frame alone. A data frame carries what was captured last, and what was
launched is never handed over again: the frames launched are among those
captured, in their order.
-/

namespace SlottedMac

open Node (Deed)

/-- What a caller asks to have sent: a token, a destination and bytes. -/
abbrev Request := Token × Address × List UInt8

namespace QueuedFrame

/-- The frame as it was captured, with no deferrals. -/
def original (f : QueuedFrame) : QueuedFrame := { f with deferrals := 0 }

/-- What was asked for. -/
def request (f : QueuedFrame) : Request := (f.token, f.destination, f.payload.bytes)

@[simp] theorem original_deferred (f : QueuedFrame) : f.deferred.original = f.original := rfl

@[simp] theorem request_original (f : QueuedFrame) : f.original.request = f.request := rfl

theorem original_of_new {f : QueuedFrame} (new : f.deferrals = 0) : f.original = f := by
  rw [original, ← new]

end QueuedFrame

/-- What an operation asks to have sent, if it does and the bytes fit. -/
def Operation.request? : Operation → Option Request
  | .send token destination bytes =>
    if bytes.length ≤ maxPayload then some (token, destination, bytes) else none
  | _ => none

theorem Operation.request_frame? (operation : Operation) (now : Ticks) :
    (operation.frame? now).map (·.request) = operation.request? := by
  cases operation with
  | send token destination bytes =>
    rw [frame?, Payload.ofBytes?, request?]
    split <;> rfl
  | _ => rfl

/-- What stimuli ask to have sent. -/
def requests {M : Type} (stimuli : List (Stimulus M)) : List Request :=
  stimuli.filterMap fun stimulus => stimulus.operation?.bind Operation.request?

theorem requests_snoc {M : Type} (past : List (Stimulus M)) (stimulus : Stimulus M) :
    requests (past ++ [stimulus]) =
      requests past ++ (stimulus.operation?.bind Operation.request?).toList := by
  simp only [requests, List.filterMap_append]
  cases asked : stimulus.operation?.bind Operation.request? <;> simp [asked]

/-- A frame that a node at `address` had to hand over, after what it did before. Its
number is the count of frames handed over before it. -/
inductive Faithful (address : Address) (role : Role) (earlier : Journal) (s : Submission) :
    Prop where
  /-- A time reference, from a coordinator. -/
  | reference (channel : s.channel = .beacon) (role : role = .coordinator)
      (bytes : s.bytes = (Frame.timeReference address (.ofNat earlier.submissions.length)).bytes)
  /-- The frame that was captured last. -/
  | waiting (channel : s.channel = .data) (frame : QueuedFrame) (queued : s.queued = some frame)
      (latest : earlier.captured.getLast? = some frame.original)
      (bytes : s.bytes =
        (Frame.data
          { source := address
            destination := frame.destination
            seq := .ofNat earlier.submissions.length }
          frame.payload).bytes)

/-- Frames handed over are faithful. -/
def Honest (address : Address) (role : Role) (entry : JournalEntry) (earlier : Journal) : Prop :=
  ∀ s, entry = .submitted s → Faithful address role earlier s

namespace Node

variable {M ε : Type} {n m : Node M}

/-- What was launched since the journal was `earlier`, and what waits now, waited then or
was captured since, in that order. What waited then is `waiting`. -/
def Stocked (earlier : Journal) (waiting : List QueuedFrame) (n : Node M) : Prop :=
  ∃ taken sent past, n.journal.captured = earlier.captured ++ taken ∧
    n.journal.launches = earlier.launches ++ sent ∧
    waiting ++ taken = past ++ n.outbox.toList.map (·.original) ∧
    List.Sublist (sent.map (·.queued.map (·.original))) (past.map some)

namespace Stocked

variable {earlier : Journal} {waiting : List QueuedFrame}

theorem start (n : Node M) : n.Stocked n.journal (n.outbox.toList.map (·.original)) :=
  ⟨[], [], [], by simp, by simp, by simp, .slnil⟩

/-- A frame that is deferred or given up adds nothing. -/
theorem keep (h : n.Stocked earlier waiting) (captured : m.journal.captured = n.journal.captured)
    (launches : m.journal.launches = n.journal.launches)
    (outbox : m.outbox = none ∨ m.outbox.map (·.original) = n.outbox.map (·.original)) :
    m.Stocked earlier waiting := by
  obtain ⟨taken, sent, past, grown, more, split, among⟩ := h
  rcases outbox with none | same
  · refine ⟨taken, sent, waiting ++ taken, captured.trans grown, launches.trans more,
      by simp [none], among.trans ?_⟩
    rw [split, List.map_append]
    exact List.sublist_append_left ..
  · refine ⟨taken, sent, past, captured.trans grown, launches.trans more, ?_, among⟩
    rw [split, ← Option.toList_map, ← Option.toList_map, same]

theorem capture (h : n.Stocked earlier waiting) (frame : QueuedFrame)
    (new : frame.deferrals = 0) : (n.capture frame).Stocked earlier waiting := by
  have adds : Adds (Deed.capture ∈ ·.writers) n (n.capture frame) :=
    capture_adds (by simp [Posts, JournalEntry.writers, Event.makers]) n frame
      (by simp [JournalEntry.writers])
  have launches : (n.capture frame).journal.launches = n.journal.launches :=
    adds.collect_eq fun _ writes => JournalEntry.launch?_eq_none writes (by decide)
  obtain ⟨taken, sent, past, grown, more, split, among⟩ := h
  obtain ⟨_, _, _, same⟩ := n.capture_eq frame
  refine ⟨taken ++ [frame], sent, waiting ++ taken, ?_, launches.trans more, ?_, among.trans ?_⟩
  · rw [capture_captured, grown, List.append_assoc]
  · rw [same, ← List.append_assoc]
    simp [QueuedFrame.original_of_new new]
  · rw [split, List.map_append]
    exact List.sublist_append_left ..

/-- The frames launched since are among those that waited then or were captured since. -/
theorem launched (h : n.Stocked earlier waiting) :
    ∃ taken sent, n.journal.captured = earlier.captured ++ taken ∧
      n.journal.launches = earlier.launches ++ sent ∧
      List.Sublist (sent.map (·.queued.map (·.request)))
        (((waiting ++ taken).map (·.request)).map some) := by
  obtain ⟨taken, sent, past, grown, more, split, among⟩ := h
  refine ⟨taken, sent, grown, more, ?_⟩
  have asked := among.map (Option.map (·.request))
  simp only [List.map_map, Function.comp_def, Option.map_map, QueuedFrame.request_original,
    Option.map_some] at asked
  apply asked.trans
  rw [split, List.map_append, List.map_append, List.map_map]
  exact List.sublist_append_left ..

end Stocked

/-- What is on its way is what was captured: the frame that waits was captured
last, and those launched were captured before it, in their order. -/
structure Supplied (n : Node M) : Prop where
  numbered : n.seq = UInt8.ofNat n.journal.submissions.length
  stock : n.Stocked [] []

/-- The frames launched are among those captured. -/
theorem Supplied.launched (h : n.Supplied) :
    List.Sublist (n.journal.launches.map (·.queued.map (·.request)))
      ((n.journal.captured.map (·.request)).map some) := by
  obtain ⟨taken, sent, grown, more, among⟩ := h.stock.launched
  rw [grown, more]
  exact among

section Medium

variable [Medium M ε] {d : Deed} {kinds : List Deed} {earlier : Journal}
  {waiting : List QueuedFrame}

theorem offered_stocked (h : n.Stocked earlier waiting) {frame : QueuedFrame}
    (waits : n.outbox = some frame) : (n.offered frame).Stocked earlier waiting := by
  obtain ⟨taken, sent, past, grown, more, split, among⟩ := h
  rw [Stocked, offered_journal, offered_outbox]
  rw [waits] at split
  by_cases accepted : n.accepts .data (n.dataFrame frame)
  · let s := n.submission .data (n.dataFrame frame) (some frame)
    refine ⟨taken, sent ++ [s], past ++ [frame.original], by simpa using grown, ?_,
      by simp [accepted, split], ?_⟩
    · simp [s, submission, accepted, more]
    · simpa [s, submission] using among.append (List.Sublist.refl [some frame.original])
  · refine ⟨taken, sent, past, by simpa using grown, ?_, by simp [accepted, split, waits], among⟩
    simp [submission, accepted, more]

/-- The stock is in order whatever is done. -/
theorem Step.stocked (step : Step d n m) (h : n.Stocked earlier waiting) :
    m.Stocked earlier waiting := by
  have kept := step.kept
  have adds := step.adds
  -- what most deeds leave alone
  have quiet (other : d ∉ [.capture, .offer, .steal])
      (outbox : m.outbox = none ∨ m.outbox.map (·.original) = n.outbox.map (·.original)) :
      m.Stocked earlier waiting := by
    simp only [List.mem_cons, List.not_mem_nil, or_false, not_or] at other
    refine h.keep (adds.collect_eq ?_) (adds.collect_eq ?_) outbox
    · exact fun _ writes => JournalEntry.captured?_eq_none writes other.1
    · exact fun _ writes => JournalEntry.launch?_eq_none writes (by simp [other])
  cases step with
  | capture frame new => exact h.capture frame new
  | offer idle waits => exact offered_stocked h waits
  | steal ended idle waits => exact (offered_stocked h waits).keep rfl rfl (.inr rfl)
  | defer waits =>
    refine quiet (by decide) ?_
    rw [deferWaiting_outbox]
    cases stays : (n.outbox.defer n.config.maxDeferrals).1 with
    | none => exact .inl rfl
    | some waiting =>
      obtain ⟨frame, waited, rfl, -⟩ := Outbox.of_defer stays
      exact .inr (by simp [waited])
  | armSlot delay purpose =>
    refine quiet (by decide) ?_
    rcases n.armSlotAlarm_outbox (ε := ε) delay purpose with same | ⟨none, -⟩
    · exact .inr (congrArg _ same)
    · exact .inl none
  | _ => exact quiet (by decide) (.inr (congrArg _ (kept.outbox (by decide))))

theorem Path.stocked (path : Path kinds n m) (h : n.Stocked earlier waiting) :
    m.Stocked earlier waiting := path.keeps (fun _ step h => step.stocked h) h

/-- Each frame that is handed over takes a number, and nothing else does. -/
theorem Step.numbered (step : Step d n m)
    (h : n.seq = UInt8.ofNat n.journal.submissions.length) :
    m.seq = UInt8.ofNat m.journal.submissions.length := by
  have kept := step.kept
  have adds := step.adds
  have offered (frame : QueuedFrame) :
      (n.offered frame).seq = UInt8.ofNat (n.offered frame).journal.submissions.length := by
    have seq : (n.offered frame).seq = n.seq + 1 := by
      rw [Node.offered]
      dsimp only
      split <;> rfl
    rw [seq, h, offered_journal]
    simp [UInt8.ofNat_add]
  have quiet (other : d ∉ [.offer, .steal, .emit]) :
      m.seq = UInt8.ofNat m.journal.submissions.length := by
    have same : m.journal.submissions = n.journal.submissions :=
      adds.collect_eq fun _ writes => JournalEntry.submission?_eq_none writes other
    rw [kept.seq other, same, h]
  cases step with
  | offer | steal => exact offered _
  | emitRefused | emit => simp [emitted, anchored, submitted, h, UInt8.ofNat_add]
  | _ => exact quiet (by decide)

theorem Step.supplied (step : Step d n m) (h : n.Supplied) : m.Supplied :=
  ⟨step.numbered h.numbered, step.stocked h.stock⟩

/-- The frame that waits is the one that was captured last. -/
theorem Supplied.latest (h : n.Supplied) {frame : QueuedFrame} (waits : n.outbox = some frame) :
    n.journal.captured.getLast? = some frame.original := by
  obtain ⟨taken, -, past, grown, -, split, -⟩ := h.stock
  have all : n.journal.captured = past ++ n.outbox.toList.map (·.original) := grown.trans split
  simp [all, waits]

theorem offered_honest {address : Address} {role : Role} {frame : QueuedFrame}
    (supplied : n.Supplied) (waits : n.outbox = some frame) (own : n.address = address)
    (h : Justified (Honest address role) n.journal) :
    Justified (Honest address role) (n.offered frame).journal := by
  rw [offered_journal]
  refine ⟨?_, h⟩
  rintro s ⟨⟩
  refine .waiting rfl frame rfl (supplied.latest waits) ?_
  rw [← supplied.numbered, ← own]
  rfl

theorem beacon_honest {address : Address} {role : Role} (supplied : n.Supplied)
    (coordinates : role = .coordinator) (own : n.address = address)
    (h : Justified (Honest address role) n.journal) :
    Justified (Honest address role) (n.submitted .beacon n.reference none).journal := by
  refine ⟨?_, h⟩
  rintro s ⟨⟩
  refine .reference rfl coordinates ?_
  rw [← supplied.numbered, ← own]
  rfl

/-- What is on its way and what was handed over, in a node of these settings. -/
structure Truthful (address : Address) (config : Config) (n : Node M) : Prop where
  own : n.address = address
  settings : n.config = config
  supplied : n.Supplied
  honest : Justified (Honest address config.role) n.journal

theorem Step.truthful {address : Address} {config : Config} (step : Step d n m)
    (h : n.Truthful address config) : m.Truthful address config := by
  obtain ⟨own, settings, supplied, honest⟩ := h
  have adds := step.adds
  refine ⟨step.same.address.trans own, step.same.config.trans settings, step.supplied supplied, ?_⟩
  cases step with
  | offer idle waits => exact offered_honest supplied waits own honest
  | steal ended idle waits => exact offered_honest supplied waits own honest
  | emitRefused role => exact beacon_honest supplied (settings ▸ role) own honest
  | emit role => exact ⟨nofun, beacon_honest supplied (settings ▸ role) own honest⟩
  | _ =>
    obtain ⟨added, grown, writes⟩ := adds
    rw [grown]
    refine honest.append fun entry mem earlier s is => ?_
    have none := JournalEntry.submission?_eq_none (writes entry mem) (by decide)
    rw [is] at none
    cases none

end Medium

section Medium

variable [Medium M ε]

/-- A stimulus has what it asks for captured. -/
theorem undergo_requests (sound : n.Sound) (stimulus : Stimulus M) :
    Yields (n.undergo stimulus) fun out =>
      out.2.journal.captured.map (·.request) = n.journal.captured.map (·.request) ++
        (stimulus.operation?.bind Operation.request?).toList := by
  refine undergo_yields (Q := fun _ m => m.journal.captured.map (·.request) =
    n.journal.captured.map (·.request) ++
      (stimulus.operation?.bind Operation.request?).toList) ?_ ?_
  · intro idle alarms medium
    have nothing : stimulus.operation?.bind Operation.request? = none := by
      cases stimulus with
      | operate operation => exact absurd rfl (idle operation)
      | _ => rfl
    rw [nothing]
    exact (List.append_nil _).symm
  · intro alarms medium operation leads
    apply (perform_captures (sound.amid alarms medium) operation).mono
    intro out captured
    rw [captured, leads, List.map_append, ← Option.toList_map, operation.request_frame?]
    rfl

/-- A node of these settings that was asked for what is in the past. -/
structure Transmits (address : Address) (config : Config) (past : List (Stimulus M))
    (n : Node M) : Prop where
  truthful : n.Truthful address config
  flights : n.Flights
  asked : n.journal.captured.map (·.request) = requests past

theorem undergo_transmits {address : Address} {config : Config} {past : List (Stimulus M)}
    (sound : n.Sound) (transmits : n.Transmits address config past) (stimulus : Stimulus M) :
    Yields (n.undergo stimulus) fun out => out.2.Transmits address config (past ++ [stimulus]) := by
  obtain ⟨truthful, flights, asked⟩ := transmits
  have calm (alarms : AlarmClock) (medium : M) : (n.amid alarms medium).Truthful address config :=
    ⟨truthful.own, truthful.settings, ⟨truthful.supplied.numbered, truthful.supplied.stock⟩,
      truthful.honest⟩
  have kept : Yields (n.undergo stimulus) fun out =>
      out.2.Truthful address config ∧ out.2.Flights := by
    refine undergo_yields (Q := fun _ m => m.Truthful address config ∧ m.Flights) ?_ ?_
    · intro _ alarms medium
      exact ⟨calm alarms medium, flights.congr rfl rfl rfl⟩
    · intro alarms medium operation _
      apply (perform_yields (sound.amid alarms medium) operation).mono
      rintro out ⟨path, -⟩
      exact ⟨path.keeps (fun _ step h => step.truthful h) (calm alarms medium),
        path.flights (flights.congr rfl rfl rfl)⟩
  apply (kept.and (undergo_requests sound stimulus)).mono
  rintro out ⟨⟨truthful, flights⟩, captured⟩
  exact ⟨truthful, flights, by rw [captured, asked, requests_snoc]⟩

theorem fresh_transmits (address : Address) (config : Config) (medium : M) (alarms : AlarmClock)
    (words : WordSource) :
    (fresh address config medium alarms words).Transmits address config [] :=
  ⟨⟨rfl, rfl, ⟨rfl, .start _⟩, trivial⟩, ⟨rfl, nofun⟩, rfl⟩

theorem lifetime_transmits {config : Config} (valid : config.Valid) (address : Address) (medium : M)
    (alarms : AlarmClock) (words : WordSource) (stimuli : List (Stimulus M)) :
    ∃ answers n, lifetime address config medium alarms words stimuli = .ok (.ok (answers, n)) ∧
      n.Transmits address config stimuli ∧ n.Sound :=
  lifetime_yields (P := fun past _ n => n.Transmits address config past) stimuli valid
    (fresh_transmits address config medium alarms words)
    fun _ _ _ stimulus _ sound transmits => undergo_transmits sound transmits stimulus

theorem undergo_stocked {earlier : Journal} {waiting : List QueuedFrame} (sound : n.Sound)
    (stocked : n.Stocked earlier waiting) (stimulus : Stimulus M) :
    Yields (n.undergo stimulus) fun out => out.2.Stocked earlier waiting := by
  refine undergo_yields (Q := fun _ m => m.Stocked earlier waiting) (fun _ _ _ => stocked) ?_
  intro alarms medium operation _
  apply (perform_yields (sound.amid alarms medium) operation).mono
  rintro out ⟨path, -⟩
  exact path.stocked stocked

/-- What is launched over stimuli waited before or is asked for by them, in that order and
each at most once. -/
theorem course_stocked (sound : n.Sound) (rest : List (Stimulus M)) :
    Yields (n.course rest) fun out =>
      ∃ sent, out.2.journal.launches = n.journal.launches ++ sent ∧
        List.Sublist (sent.map (·.queued.map (·.request)))
          ((n.outbox.toList.map (·.request) ++ requests rest).map some) := by
  have done : Yields (n.course rest) fun out =>
      (out.2.Stocked n.journal (n.outbox.toList.map (·.original)) ∧
        out.2.journal.captured.map (·.request) =
          n.journal.captured.map (·.request) ++ requests rest) ∧ out.2.Sound := by
    refine course_yields (P := fun past _ m =>
      m.Stocked n.journal (n.outbox.toList.map (·.original)) ∧
        m.journal.captured.map (·.request) = n.journal.captured.map (·.request) ++ requests past)
      sound ⟨.start n, (List.append_nil _).symm⟩ ?_
    rintro past _ m stimulus - sound ⟨stocked, asked⟩
    apply ((undergo_stocked sound stocked stimulus).and (undergo_requests sound stimulus)).mono
    rintro out ⟨stocked, captured⟩
    exact ⟨stocked, by rw [captured, asked, requests_snoc, List.append_assoc]⟩
  apply done.mono
  rintro out ⟨⟨stocked, asked⟩, -⟩
  obtain ⟨taken, sent, grown, more, among⟩ := stocked.launched
  rw [grown, List.map_append, List.append_cancel_left_eq] at asked
  refine ⟨sent, more, ?_⟩
  rwa [List.map_append, asked, List.map_map] at among

/-- Over stimuli that complete no data frame at most one is launched. -/
theorem course_launches {rest : List (Stimulus M)} {m : Node M} {after : List (Answer ε)}
    (sound : n.Sound) (flights : n.Flights) (ends : m.Flights)
    (done : n.course rest = .ok (after, m))
    (none : ∀ completion transmissions,
      .operate (.complete .data completion transmissions) ∉ rest) :
    m.journal.launches.length ≤ n.journal.launches.length + 1 := by
  have same : m.journal.completed = n.journal.completed := by
    refine ((course_yields (P := fun _ _ k => k.journal.completed = n.journal.completed) sound rfl
      ?_).of_ok done).1
    intro _ _ k stimulus mem sound so_far
    refine (undergo_completed sound ?_).mono fun _ kept => kept.trans so_far
    rintro completion transmissions rfl
    exact none completion transmissions mem
  have := flights.length_launches
  have := ends.length_launches
  rw [same] at this
  omega

end Medium

end Node

open Node

/-- Whatever has happened to a node, each frame that it handed to the medium is
the one that it had to hand over, in full and under the number of frames handed
over before it. The data frames that the medium accepted are among those that
were to be sent, in their order and each at most once, and between any two of
them the medium completed a data frame. -/
theorem transmissions_faithful {M ε : Type} [Medium M ε] {config : Config} (valid : config.Valid)
    (address : Address) (medium : M) (alarms : AlarmClock) (words : WordSource)
    (stimuli : List (Stimulus M)) :
    ∃ answers n, lifetime address config medium alarms words stimuli = .ok (.ok (answers, n)) ∧
      (∀ later s earlier, n.journal = later ++ .submitted s :: earlier →
        Faithful address config.role earlier s) ∧
      List.Sublist (n.journal.launches.map (·.queued.map (·.request)))
        ((requests stimuli).map some) ∧
      ∀ past rest, stimuli = past ++ rest →
        (∀ completion transmissions,
          .operate (.complete .data completion transmissions) ∉ rest) →
        ∃ before k, lifetime address config medium alarms words past = .ok (.ok (before, k)) ∧
          n.journal.launches.length ≤ k.journal.launches.length + 1 := by
  obtain ⟨answers, n, done, transmits, -⟩ :=
    lifetime_transmits (ε := ε) valid address medium alarms words stimuli
  refine ⟨answers, n, done, ?_, ?_, ?_⟩
  · intro later s earlier split
    exact transmits.truthful.honest.at_split split s rfl
  · rw [← transmits.asked]
    exact transmits.truthful.supplied.launched
  · rintro past rest rfl none
    obtain ⟨before, after, k, first, sound, onward, -⟩ := lifetime_through valid done
    obtain ⟨_, _, same, begun, -⟩ :=
      lifetime_transmits (ε := ε) valid address medium alarms words past
    cases first.symm.trans same
    exact ⟨before, k, first,
      course_launches sound begun.flights transmits.flights onward none⟩

/-- A frame that waits for its slot is launched there, the first since it was asked
for. -/
theorem transmissions_faithful_in_slot :
    ∃ answers n,
      lifetime 3 {} ({} : RecordingMedium) {} (.cycle [])
          [.operate (.send 7 0 [1]), .clock 500000, .fire .slot] = .ok (.ok (answers, n)) ∧
      (∀ later s earlier, n.journal = later ++ .submitted s :: earlier →
        Faithful 3 (.member 1) earlier s) ∧
      List.Sublist (n.journal.launches.map (·.queued.map (·.request))) [some (7, 0, [1])] ∧
      ∃ before k,
        lifetime 3 {} ({} : RecordingMedium) {} (.cycle []) [.operate (.send 7 0 [1])] =
          .ok (.ok (before, k)) ∧
        n.journal.launches.length ≤ k.journal.launches.length + 1 := by
  obtain ⟨answers, n, done, faithful, sent, alternate⟩ :=
    transmissions_faithful Config.valid_default 3 ({} : RecordingMedium) {} (.cycle [])
      [.operate (.send 7 0 [1]), .clock 500000, .fire .slot]
  refine ⟨answers, n, done, faithful, sent, ?_⟩
  exact alternate [.operate (.send 7 0 [1])] [.clock 500000, .fire .slot] rfl (by simp)

end SlottedMac
