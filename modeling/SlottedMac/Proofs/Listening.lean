import SlottedMac.Proofs.InFlight
import SlottedMac.Proofs.Medium.Sensing

/-!
# Listen before talk, down to the radio

A node listens through its medium, and the medium asks the radio. Between the
answer of the radio that the channel is clear and the frame that is sent on the
strength of it nothing else is asked of the radio. Everything but the end of a
backoff is modest: it sends data in the owned slot only and does not listen.

Nothing is said here about who tells the node of the end of a transmission. A
host that lies about that may make the node hand over a frame too soon, but the
node has listened all the same.
-/

namespace SlottedMac

/-- The call asks to transmit a frame that was handed over, and its answer is what
became of the frame. -/
def RadioCall.Carries {ε : Type} (call : RadioCall ε) (handed : List Submission) : Prop :=
  ∃ s ∈ handed, ∃ answer, call = .startTransmit s.bytes answer ∧ answer.isOk = s.accepted

theorem RadioCall.Carries.mono {ε : Type} {call : RadioCall ε} {handed others : List Submission}
    (h : call.Carries handed) (sub : handed ⊆ others) : call.Carries others := by
  obtain ⟨s, mem, answer, same, accepted⟩ := h
  exact ⟨s, sub mem, answer, same, accepted⟩

namespace Node

variable {R δ : Type} {n m k : Node (RadioMedium R δ)} {calls more : List (RadioCall δ)}
  {handed others : List Submission}

/-- Whether a frame was handed over in the owned slot, by the grid in force. -/
def HandedInSlot {M : Type} (n : Node M) (s : Submission) : Prop :=
  n.config.layout.Owns n.slot ((fine s.time).since s.origin).toNat

/-- A node in order with the settings and the slot that it had. -/
structure Stays (n m : Node (RadioMedium R δ)) : Prop where
  sound : m.Sound
  config : m.config = n.config
  slot : m.slot = n.slot

/-- What was done without stealing: calls to the radio, latest first, and frames
handed over, oldest first. -/
structure Modest (calls : List (RadioCall δ)) (handed : List Submission)
    (n m : Node (RadioMedium R δ)) : Prop where
  stays : Stays n m
  asked : RadioMedium.Asks calls n.medium m.medium
  submitted : m.journal.submissions = n.journal.submissions ++ handed
  carried : ∀ call ∈ calls, call.Aside ∨ call.Carries handed
  inSlot : ∀ s ∈ handed, s.channel = .data → n.HandedInSlot s
  steals : m.stats.steals = n.stats.steals

/-- Something was done without stealing. -/
def Modestly (n m : Node (RadioMedium R δ)) : Prop := ∃ calls handed, Modest calls handed n m

namespace Stays

theorem trans (h : Stays n m) (h' : Stays m k) : Stays n k :=
  ⟨h'.sound, h'.config.trans h.config, h'.slot.trans h.slot⟩

theorem of_same (sound : n.Sound) (same : Same n m) : Stays n m :=
  ⟨sound.of_same same, same.config, same.slot⟩

theorem handedInSlot_iff (h : Stays n m) (s : Submission) :
    m.HandedInSlot s ↔ n.HandedInSlot s := by
  rw [HandedInSlot, HandedInSlot, h.config, h.slot]

end Stays

namespace Modestly

theorem stays (h : Modestly n m) : Stays n m := by
  obtain ⟨_, _, modest⟩ := h
  exact modest.stays

theorem trans (h : Modestly n m) (h' : Modestly m k) : Modestly n k := by
  obtain ⟨calls, handed, first⟩ := h
  obtain ⟨more, others, second⟩ := h'
  refine ⟨more ++ calls, handed ++ others, ?_⟩
  constructor
  · exact first.stays.trans second.stays
  · exact first.asked.trans second.asked
  · rw [second.submitted, first.submitted, List.append_assoc]
  · intro call mem
    rcases List.mem_append.mp mem with new | old
    · exact (second.carried call new).imp_right fun h => h.mono (List.subset_append_right ..)
    · exact (first.carried call old).imp_right fun h => h.mono (List.subset_append_left ..)
  · intro s mem data
    rcases List.mem_append.mp mem with old | new
    · exact first.inSlot s old data
    · exact (first.stays.handedInSlot_iff s).mp (second.inSlot s new data)
  · exact second.steals.trans first.steals

/-- The radio may be asked for other things, outside of any operation. -/
theorem of_aside (sound : n.Sound) (alarms : AlarmClock) {medium : RadioMedium R δ}
    (asked : RadioMedium.AsksAside n.medium medium) : Modestly n (n.amid alarms medium) := by
  obtain ⟨calls, asked, aside⟩ := asked
  refine ⟨calls, [], ⟨sound.amid alarms medium, rfl, rfl⟩, asked, ?_, ?_, nofun, rfl⟩
  · exact (List.append_nil _).symm
  · intro call mem
    exact .inl (aside call mem)

end Modestly

namespace Modest

/-- Nothing was handed over, and the radio was asked nothing. -/
theorem refl (sound : n.Sound) : Modest [] [] n n :=
  ⟨⟨sound, rfl, rfl⟩, .refl _, (List.append_nil _).symm, nofun, nofun, rfl⟩

/-- The clock and the alarms of the host are no matter of the medium. -/
theorem of_alarms (sound : n.Sound) (alarms : AlarmClock) :
    Modest [] [] n (n.amid alarms n.medium) :=
  ⟨⟨sound.amid alarms _, rfl, rfl⟩, .refl _, (List.append_nil _).symm, nofun, nofun, rfl⟩

theorem trans (h : Modest [] [] n m) (h' : Modest [] [] m k) : Modest [] [] n k where
  stays := h.stays.trans h'.stays
  asked := h.asked.trans h'.asked
  submitted := by rw [h'.submitted, h.submitted, List.append_nil]
  carried := nofun
  inSlot := nofun
  steals := h'.steals.trans h.steals

end Modest

section Deeds

variable [Transceiver R δ] {d : Deed} {kinds : List Deed}

/-- A frame that is handed over, in the owned slot if it is data. -/
theorem Modestly.of_submitted (stays : Stays n m) {channel : Channel} {frame : Frame}
    (queued : Option QueuedFrame)
    (medium : m.medium = (n.medium.transmit channel frame.bytes).2)
    (journal : m.journal.submissions =
      n.journal.submissions ++ [n.submission channel frame queued])
    (owned : channel = .data → n.OwnsNow) (steals : m.stats.steals = n.stats.steals) :
    Modestly n m := by
  obtain ⟨calls, asked, only⟩ := n.medium.transmit_asks channel frame.bytes
  refine ⟨calls, _, stays, medium ▸ asked, journal, ?_, ?_, steals⟩
  · rcases only with rfl | ⟨answer, rfl, accepted⟩
    · nofun
    · intro call mem
      cases List.mem_singleton.mp mem
      exact .inr ⟨_, List.mem_singleton_self _, answer, rfl, accepted⟩
  · intro s mem data
    cases List.mem_singleton.mp mem
    exact owned data

theorem offered_medium (n : Node (RadioMedium R δ)) (frame : QueuedFrame) :
    (n.offered frame).medium = (n.medium.transmit .data (n.dataFrame frame).bytes).2 := by
  rw [offered]
  dsimp only
  split <;> rfl

theorem offered_submissions (n : Node (RadioMedium R δ)) (frame : QueuedFrame) :
    (n.offered frame).journal.submissions =
      n.journal.submissions ++ [n.submission .data (n.dataFrame frame) (some frame)] := by
  rw [offered_journal, Journal.submissions_cons]
  rfl

/-- Most deeds have nothing to do with the medium. -/
theorem Step.quiet (step : Step d n m) (other : d ∉ [.offer, .sense, .steal, .emit, .power])
    (sound : n.Sound) : Modest [] [] n m := by
  simp only [List.mem_cons, List.not_mem_nil, or_false, not_or] at other
  refine ⟨.of_same sound step.same, ?_, ?_, nofun, nofun, step.kept.steals other.2.2.1⟩
  · rw [step.kept.medium (by simp [other])]
    exact .refl _
  · rw [List.append_nil]
    apply step.adds.collect_eq
    exact fun _ writes => JournalEntry.submission?_eq_none writes (by simp [other])

theorem Path.quiet (path : Path kinds n m)
    (none : ∀ d ∈ kinds, d ∉ [.offer, .sense, .steal, .emit, .power]) (sound : n.Sound) :
    Modest [] [] n m :=
  path.keeps (P := Modest [] [] n)
    (fun mem step so_far => so_far.trans (step.quiet (none _ mem) so_far.stays.sound)) (.refl sound)

/-- Sending in the owned slot is modest. -/
theorem Step.modestly (step : Step d n m) (other : d ∉ [.sense, .steal, .power])
    (sound : n.Sound) : Modestly n m := by
  have stays := Stays.of_same sound step.same
  by_cases sends : d = .offer ∨ d = .emit
  · cases step with
    | @offer _ frame idle waits owned =>
      have steals : (n.offered frame).stats.steals = n.stats.steals :=
        (Step.offer idle waits owned).kept.steals (by decide)
      exact .of_submitted stays (some frame) (n.offered_medium frame) (n.offered_submissions frame)
        (fun _ => owned) steals
    | emitRefused => exact .of_submitted stays _ rfl (Journal.submissions_cons ..) nofun rfl
    | emit =>
      exact .of_submitted stays _ rfl (by simp [emitted, anchored, submitted]; rfl) nofun rfl
    | _ => simp at sends
  · exact ⟨[], [], step.quiet (by simp_all) sound⟩

theorem Path.modestly (path : Path kinds n m)
    (none : ∀ d ∈ kinds, d ∉ [.sense, .steal, .power]) (sound : n.Sound) : Modestly n m := by
  apply path.keeps (P := Modestly n)
  · intro a b d mem step so_far
    exact so_far.trans (step.modestly (none d mem) so_far.stays.sound)
  · exact ⟨[], [], .refl sound⟩

end Deeds

/-! ## Turns -/

/-- How a turn treats the channel, with its calls to the radio, latest first, and the
frames handed over, oldest first. -/
structure Courteous (calls : List (RadioCall δ)) (handed : List Submission)
    (n m : Node (RadioMedium R δ)) : Prop where
  stays : Stays n m
  asked : RadioMedium.Asks calls n.medium m.medium
  submitted : m.journal.submissions = n.journal.submissions ++ handed
  /-- What the radio is asked to transmit was handed over. If that is data outside of the
  owned slot, the channel was measured just before, by a radio that received. -/
  heard : ∀ later bytes answer earlier, calls = later ++ .startTransmit bytes answer :: earlier →
    (∃ s ∈ handed, s.bytes = bytes ∧ s.accepted = answer.isOk) ∧
    ∀ s ∈ handed, s.bytes = bytes → s.channel = .data → n.HandedInSlot s ∨
      ∃ rssi rest, earlier = .pollRssi (.ok rssi) :: rest ∧ rssi ≤ n.medium.clearThreshold ∧
        activityAfter n.medium.mode.activity rest = .listening
  /-- Nothing is stolen by a node that could not listen. -/
  deaf : (∃ error, .startReceive (.error error) ∈ calls ∨ .pollRssi (.error error) ∈ calls) ∨
      n.medium.mode.activity = .transmitting →
    m.stats.steals = n.stats.steals ∧ ∀ s ∈ handed, s.channel = .data → n.HandedInSlot s
  once : calls.countP RadioCall.measures ≤ 1

/-- The turn treats the channel well. -/
def Courteously (n m : Node (RadioMedium R δ)) : Prop :=
  ∃ calls handed, Courteous calls handed n m

/-- Who does not steal treats the channel well. -/
theorem Modest.courteous (h : Modest calls handed n m) : Courteous calls handed n m where
  stays := h.stays
  asked := h.asked
  submitted := h.submitted
  heard := by
    intro later bytes answer earlier split
    refine ⟨?_, fun s mem _ data => .inl (h.inSlot s mem data)⟩
    have mem : .startTransmit bytes answer ∈ calls := by simp [split]
    rcases h.carried _ mem with aside | ⟨s, given, answer', same, accepted⟩
    · exact aside.elim
    · cases same
      exact ⟨s, given, rfl, accepted.symm⟩
  deaf _ := ⟨h.steals, h.inSlot⟩
  once := by
    have none : calls.countP RadioCall.measures = 0 := by
      rw [List.countP_eq_zero]
      intro call mem measures
      rcases h.carried call mem with aside | ⟨s, _, answer, rfl, _⟩
      · cases call with
        | pollRssi => exact aside
        | _ => cases measures
      · cases measures
    omega

theorem Modestly.courteously (h : Modestly n m) : Courteously n m := by
  obtain ⟨calls, handed, modest⟩ := h
  exact ⟨calls, handed, modest.courteous⟩

/-- What leaves the medium alone does not count. -/
theorem Modest.between {a b : Node (RadioMedium R δ)} (first : Modest [] [] n a)
    (h : Courteous calls handed a b) (last : Modest [] [] b m) : Courteous calls handed n m := by
  have mode : a.medium.mode.activity = n.medium.mode.activity := first.asked.activity
  constructor
  · exact (first.stays.trans h.stays).trans last.stays
  · simpa using (first.asked.trans h.asked).trans last.asked
  · rw [last.submitted, h.submitted, first.submitted, List.append_nil, List.append_nil]
  · intro later bytes answer earlier split
    obtain ⟨handed, heard⟩ := h.heard later bytes answer earlier split
    refine ⟨handed, ?_⟩
    intro s mem same data
    rw [← first.stays.handedInSlot_iff, ← first.asked.threshold, ← mode]
    exact heard s mem same data
  · rw [← mode, last.steals, ← first.steals]
    intro failed
    obtain ⟨steals, owned⟩ := h.deaf failed
    exact ⟨steals, fun s mem data => (first.stays.handedInSlot_iff s).mp (owned s mem data)⟩
  · exact h.once

/-- Listening alone. -/
theorem Courteously.of_senses {clear : Bool}
    (senses : RadioMedium.Senses n.medium (clear, m.medium)) (stays : Stays n m)
    (submitted : m.journal.submissions = n.journal.submissions)
    (steals : m.stats.steals = n.stats.steals) : Courteously n m := by
  obtain ⟨calls, asked, silent, once⟩ : ∃ calls, RadioMedium.Asks calls n.medium m.medium ∧
      (∀ bytes answer, .startTransmit bytes answer ∉ calls) ∧
      calls.countP RadioCall.measures ≤ 1 := by
    generalize m.medium = medium at senses
    cases senses with
    | busy => exact ⟨[], .refl _, nofun, Nat.zero_le _⟩
    | deaf error asked => exact ⟨_, asked, by simp, by simp [RadioCall.measures]⟩
    | measured answer free before tuned listens asked =>
      rcases tuned with rfl | rfl
      · exact ⟨_, asked, by simp, by simp [List.countP_cons, RadioCall.measures]⟩
      · exact ⟨_, asked, by simp, by simp [List.countP_cons, RadioCall.measures]⟩
  refine ⟨calls, [], stays, asked, by rw [submitted, List.append_nil], ?_, ?_, once⟩
  · intro later bytes answer earlier split
    exact absurd (by simp [split]) (silent bytes answer)
  · intro _
    exact ⟨steals, nofun⟩

/-- A node of these settings whose medium knows what the radio does. -/
structure Attuned (config : Config) (clearThreshold : Int) (n : Node (RadioMedium R δ)) : Prop where
  sound : n.Sound
  settings : n.config = config
  threshold : n.medium.clearThreshold = clearThreshold
  inStep : n.medium.InStep

theorem Courteous.attuned {config : Config} {clearThreshold : Int}
    (h : Courteous calls handed n m) (attuned : n.Attuned config clearThreshold) :
    m.Attuned config clearThreshold where
  sound := h.stays.sound
  settings := h.stays.config.trans attuned.settings
  threshold := h.asked.threshold.trans attuned.threshold
  inStep := h.asked.inStep attuned.inStep

theorem armSlotAlarm_modest (sound : n.Sound) (delay : Ticks) (purpose : Arbitration) :
    Modest [] [] n (n.armSlotAlarm delay purpose : Reply (RadioError δ) × _).2 := by
  have grown : Adds (·.submission? = none) n
      (n.armSlotAlarm delay purpose : Reply (RadioError δ) × _).2 :=
    armSlotAlarm_adds (by simp [Posts]) n delay purpose (by simp)
  have stays := Stays.of_same sound (armSlotAlarm_same (ε := RadioError δ) n delay purpose)
  obtain ⟨_, _, _, _, _, _, same⟩ := n.armSlotAlarm_eq (ε := RadioError δ) delay purpose
  refine ⟨stays, ?_, ?_, by simp, by simp, by rw [same]⟩
  · rw [same]
    exact .refl _
  · rw [List.append_nil]
    exact grown.collect_eq fun _ none => none

section Deeds

variable [Transceiver R δ]

/-- What is stolen is stolen right after the channel was heard to be clear. -/
theorem stolen_courteous {a : Node (RadioMedium R δ)} (frame : QueuedFrame) {rssi : Int}
    {before : List (RadioCall δ)} (stays : Stays n a)
    (free : n.medium.mode.activity ≠ .transmitting)
    (tuned : before = [] ∨ before = [.startReceive (.ok ())])
    (listens : activityAfter n.medium.mode.activity before = .listening)
    (low : rssi ≤ n.medium.clearThreshold)
    (asked : RadioMedium.Asks (.pollRssi (.ok rssi) :: before) n.medium a.medium)
    (listened : a.journal.submissions = n.journal.submissions) :
    Courteously n (a.stolen frame) := by
  obtain ⟨calls, sent, only⟩ := a.medium.transmit_asks .data (a.dataFrame frame).bytes
  refine ⟨calls ++ .pollRssi (.ok rssi) :: before,
    [a.submission .data (a.dataFrame frame) (some frame)], ?_⟩
  -- there is no other frame, and no call but these
  have others : ∀ call ∈ .pollRssi (.ok rssi) :: before,
      call = .pollRssi (.ok rssi) ∨ call = .startReceive (.ok ()) := by
    rcases tuned with rfl | rfl <;> simp
  constructor
  · have handed := a.offered_same frame
    exact stays.trans (.of_same stays.sound
      ⟨handed.address, handed.config, handed.slot, handed.now, handed.interval, handed.room⟩)
  · exact asked.trans (a.offered_medium frame ▸ sent)
  · rw [← listened]
    exact a.offered_submissions frame
  · intro later bytes answer earlier split
    rcases only with rfl | ⟨answer', rfl, accepted⟩
    · have mem : .startTransmit bytes answer ∈ .pollRssi (.ok rssi) :: before := by
        rw [List.nil_append] at split
        simp [split]
      rcases others _ mem with same | same <;> cases same
    · cases later with
      | nil =>
        cases split
        refine ⟨⟨_, List.mem_singleton_self _, rfl, accepted.symm⟩, ?_⟩
        intro _ _ _ _
        exact .inr ⟨rssi, before, rfl, low, listens⟩
      | cons _ later =>
        have mem : .startTransmit bytes answer ∈ .pollRssi (.ok rssi) :: before := by
          simp only [List.cons_append, List.nil_append, List.cons.injEq] at split
          simp [split.2]
        rcases others _ mem with same | same <;> cases same
  · rintro (⟨error, failed⟩ | sends)
    · rcases only with rfl | ⟨answer', rfl, accepted⟩
      · rcases tuned with rfl | rfl <;> simp at failed
      · rcases tuned with rfl | rfl <;> simp at failed
    · exact absurd sends free
  · rcases only with rfl | ⟨answer', rfl, accepted⟩
    · rcases tuned with rfl | rfl <;> simp [List.countP_cons, RadioCall.measures]
    · rcases tuned with rfl | rfl <;> simp [List.countP_cons, RadioCall.measures]

/-- A node that contends listens, and sends only on hearing nobody. -/
theorem contested_courteously (sound : n.Sound) (frame : QueuedFrame) :
    Courteously n (n.contested frame) := by
  have senses : RadioMedium.Senses n.medium (n.sense.1, n.sense.2.medium) :=
    n.medium.channelClear_senses
  have stays : Stays n n.sense.2 := .of_same sound ⟨rfl, rfl, rfl, rfl, rfl, id⟩
  have listened : n.sense.2.journal.submissions = n.journal.submissions := by
    rw [sense, Journal.submissions_cons]
    exact List.append_nil _
  rw [contested]
  split
  · next heard =>
    rw [heard] at senses
    cases senses with
    | measured answer free before tuned listens asked weak =>
      obtain ⟨rssi, rfl, low⟩ := weak rfl
      exact stolen_courteous frame stays free tuned listens low asked listened
  · have away : Stays n { n.sense.2 with stats.channelBusy := n.sense.2.stats.channelBusy.bump } :=
      ⟨stays.sound.of_same ⟨rfl, rfl, rfl, rfl, rfl, id⟩, rfl, rfl⟩
    exact .of_senses senses away listened rfl

theorem slotFired_courteously (sound : n.Sound) :
    Yields (n.alarmFired .slot) fun out => Courteously n out.2 := by
  have spent : Path [.expire, .spendSlot] n (n.expireSync.spent .slot) :=
    ((Path.refl n).snoc .expire).snoc .spendSlot
  have quiet : Modest [] [] n (n.expireSync.spent .slot) := spent.quiet (by decide) sound
  have first : Modestly n (n.expireSync.spent .slot) := ⟨[], [], quiet⟩
  apply (slotFired_cases sound).mono
  rintro out (looks | looks | ⟨idle, waits⟩)
  · exact (first.trans (looks.path.modestly (by decide) quiet.stays.sound)).courteously
  · have path := looks.path.mono (show [.align, .offer, .armSlot] ⊆ Deed.servicing by decide)
    have aligned := (aligned_path (n.expireSync.spent .slot)).mono
      (show [.align] ⊆ Deed.servicing by decide)
    exact (first.trans ((aligned.trans path).modestly (by decide) quiet.stays.sound)).courteously
  · have aligned := quiet.trans ((aligned_path _).quiet (by decide) quiet.stays.sound)
    obtain ⟨calls, handed, courteous⟩ := contested_courteously aligned.stays.sound _
    exact ⟨calls, handed, aligned.between courteous
      (armSlotAlarm_modest courteous.stays.sound _ _)⟩

theorem alarmFired_courteously (sound : n.Sound) (kind : AlarmKind) :
    Yields (n.alarmFired kind) fun out => Courteously n out.2 := by
  cases kind with
  | slot => exact slotFired_courteously sound
  | beacon =>
    apply (alarmFired_yields sound .beacon).mono
    rintro out ⟨path, -⟩
    exact (path.modestly (by simp [deeds, firing, Deed.beaconing]) sound).courteously

/-- No operation steals without having listened. -/
theorem perform_courteously (sound : n.Sound) (operation : Operation) :
    Yields (n.perform operation) fun out => Courteously n out.2 := by
  have through (none : ∀ d ∈ n.deeds operation, d ∉ [.sense, .steal, .power]) :
      Yields (n.perform operation) fun out => Courteously n out.2 :=
    (perform_yields sound operation).mono fun _ done => (done.1.modestly none sound).courteously
  cases operation with
  | alarmFired kind =>
    exact (alarmFired_courteously sound kind).bind fun _ done => Yields.pure_iff.mpr done
  | powerOn => exact Yields.ok_iff.mpr (Modestly.of_aside sound _ n.medium.powerOn_asks).courteously
  | powerOff keepOn =>
    exact Yields.ok_iff.mpr (Modestly.of_aside sound _ (n.medium.powerOff_asks keepOn)).courteously
  | _ => exact through (by simp [deeds, Deed.following])

theorem undergo_courteously (sound : n.Sound) {stimulus : Stimulus (RadioMedium R δ)}
    (kept : ∀ medium, stimulus ≠ .medium medium) :
    Yields (n.undergo stimulus) fun out => Courteously n out.2 := by
  have apart (alarms : AlarmClock) : Courteously n (n.amid alarms n.medium) :=
    ⟨[], [], (Modest.of_alarms sound alarms).courteous⟩
  cases stimulus with
  | operate operation =>
    exact (perform_courteously sound operation).bind fun _ done => Yields.pure_iff.mpr done
  | fire kind =>
    apply undergo_fire
    · intro _
      exact apart n.alarms
    · intro _ _
      have taken : Modest [] [] n (n.consumed kind) := .of_alarms sound _
      apply (alarmFired_courteously taken.stays.sound kind).mono
      rintro out ⟨calls, handed, courteous⟩
      exact ⟨calls, handed, taken.between courteous (.refl courteous.stays.sound)⟩
  | medium medium => exact absurd rfl (kept medium)
  | lose kind => exact Yields.ok_iff.mpr (apart _)
  | clock time => exact Yields.ok_iff.mpr (apart _)
  | refuse kind error => exact Yields.ok_iff.mpr (apart _)

/-! ## The host of a radio -/

theorem serviceReceive_modestly (sound : n.Sound) :
    Yields n.serviceReceive fun out => Modestly n out.2 := by
  have heard : Modestly n (n.onMedium (RadioMedium.pollReceive · maxFrame)).2 :=
    .of_aside sound _ (n.medium.pollReceive_asks maxFrame)
  rw [serviceReceive]
  split
  · next same =>
    rw [same] at heard
    exact Yields.ok_iff.mpr heard
  · next same =>
    rw [same] at heard
    exact Yields.ok_iff.mpr heard
  · next reception k same =>
    rw [same] at heard
    apply (receive_path heard.stays.sound reception.bytes).bind
    intro out path
    exact Yields.pure_iff.mpr (heard.trans (path.modestly (by decide) heard.stays.sound))

theorem serviceTransmit_modestly (sound : n.Sound) : Modestly n n.serviceTransmit.2 := by
  have polled : Modestly n (n.amid n.alarms n.medium.pollTransmit.2) :=
    .of_aside sound _ n.medium.pollTransmit_asks
  rw [serviceTransmit_eq]
  generalize n.medium.pollTransmit = out at polled
  obtain ⟨_ | ⟨channel, completion⟩, medium⟩ := out
  · exact polled
  · have completes : Path [.complete] _ _ :=
      (Step.complete (n := n.amid n.alarms medium) channel completion 1).path
    exact polled.trans (completes.modestly (by decide) polled.stays.sound)

/-- Every turn that leaves the medium to the node treats the channel well. -/
theorem take_courteously (sound : n.Sound) {turn : Turn R δ}
    (kept : ∀ medium, turn ≠ .undergo (.medium medium)) :
    Yields (n.take turn) (Courteously n) := by
  cases turn with
  | undergo stimulus =>
    apply (undergo_courteously sound ?_).bind fun _ done => Yields.pure_iff.mpr done
    rintro medium rfl
    exact kept medium rfl
  | service =>
    have sent := serviceTransmit_modestly sound
    have serviced : Yields n.service fun out => Modestly n out.2 :=
      (serviceReceive_modestly sent.stays.sound).bind fun _ received =>
        Yields.pure_iff.mpr (sent.trans received)
    exact serviced.bind fun _ done => Yields.pure_iff.mpr done.courteously
  | serviceTransmit => exact Yields.ok_iff.mpr (serviceTransmit_modestly sound).courteously
  | serviceReceive =>
    exact (serviceReceive_modestly sound).bind fun _ done => Yields.pure_iff.mpr done.courteously
  | listen =>
    exact Yields.ok_iff.mpr
      (.of_senses n.medium.channelClear_senses ⟨sound.amid _ _, rfl, rfl⟩ rfl rfl)
  | pollReceive room =>
    exact Yields.ok_iff.mpr (Modestly.of_aside sound _ (n.medium.pollReceive_asks room)).courteously
  | radio radio =>
    have changed : RadioMedium.AsksAside n.medium { n.medium with radio } :=
      ⟨[], ⟨rfl, rfl, rfl⟩, nofun⟩
    exact Yields.ok_iff.mpr (Modestly.of_aside sound n.alarms changed).courteously

end Deeds

end Node

open Node

/-- Listen before talk. Whatever happens to a node over a radio, whoever talks to it
and whatever the radio answers: when a turn asks the radio to transmit, that is for a
frame handed over in the turn. If it is data and not in the owned slot, the call before
measured the channel and found it clear, in receive mode, into which the radio had been
put by the last call that changed what it does. A node that fails to receive or to
measure, or that transmits, steals nothing, and no turn measures twice. -/
theorem listens_before_talking {R δ : Type} [Transceiver R δ] {config : Config}
    (valid : config.Valid) (address : Address) (radio : R) (clearThreshold : Int)
    (alarms : AlarmClock) (words : WordSource) (turns : List (Turn R δ)) (turn : Turn R δ)
    (kept : ∀ t ∈ turns ++ [turn], ∀ medium, t ≠ .undergo (.medium medium)) :
    ∃ n m calls handed,
      session address config radio clearThreshold alarms words turns = .ok (.ok n) ∧
      n.take turn = .ok m ∧
      m.medium.calls = calls ++ n.medium.calls ∧
      m.journal.submissions = n.journal.submissions ++ handed ∧
      (∀ later bytes answer earlier, calls = later ++ .startTransmit bytes answer :: earlier →
        (∃ s ∈ handed, s.bytes = bytes ∧ s.accepted = answer.isOk) ∧
        ∀ s ∈ handed, s.bytes = bytes → s.channel = .data →
          config.layout.Owns n.slot ((fine s.time).since s.origin).toNat ∨
          ∃ rssi rest, earlier = .pollRssi (.ok rssi) :: rest ∧ rssi ≤ clearThreshold ∧
            activityAfter n.medium.mode.activity rest = .listening ∧
            ∃ since before, rest ++ n.medium.calls = since ++ .startReceive (.ok ()) :: before ∧
              ∀ call ∈ since, call.leadsTo? = none) ∧
      ((∃ error, .startReceive (.error error) ∈ calls ∨ .pollRssi (.error error) ∈ calls) ∨
          (∃ channel, n.medium.mode = .transmitting channel) →
        m.stats.steals = n.stats.steals ∧
        ∀ s ∈ handed, s.channel = .data →
          config.layout.Owns n.slot ((fine s.time).since s.origin).toNat) ∧
      calls.countP RadioCall.measures ≤ 1 := by
  have start : (fresh address config ({ radio, clearThreshold } : RadioMedium R δ) alarms
      words).Attuned config clearThreshold := ⟨fresh_sound valid .., rfl, rfl, rfl⟩
  obtain ⟨n, done, attuned⟩ : Yields (turns.foldlM take _) (Attuned config clearThreshold) :=
    Yields.foldlM start fun n t mem attuned =>
      (take_courteously attuned.sound (kept t (List.mem_append_left _ mem))).mono
        fun _ ⟨_, _, courteous⟩ => courteous.attuned attuned
  obtain ⟨m, taken, calls, handed, courteous⟩ := take_courteously attuned.sound
    (kept turn (List.mem_append_right _ (List.mem_singleton_self _)))
  refine ⟨n, m, calls, handed, ?_, taken, courteous.asked.log, courteous.submitted, ?_, ?_,
    courteous.once⟩
  · simp only [session, create_of_valid valid, bind, Except.bind, pure, Except.pure]
    rw [done]
  · intro later bytes answer earlier split
    obtain ⟨given, heard⟩ := courteous.heard later bytes answer earlier split
    refine ⟨given, ?_⟩
    intro s mem same data
    rcases heard s mem same data with owned | ⟨rssi, rest, just, low, listens⟩
    · exact .inl (attuned.settings ▸ owned)
    · have receives : activityAfter .idle (rest ++ n.medium.calls) = .listening := by
        rw [activityAfter_append, ← attuned.inStep, listens]
      exact .inr ⟨rssi, rest, just, attuned.threshold ▸ low, listens,
        exists_startReceive receives⟩
  · rintro unable
    rw [← attuned.settings]
    apply courteous.deaf
    apply unable.imp_right
    rintro ⟨channel, mode⟩
    rw [mode]
    rfl

/-- A frame for which the slot is far off is sent at the end of the backoff, by a radio
that is made to receive first and then hears nobody. -/
theorem listens_before_talking_stealing :
    ∃ n m : Node (RadioMedium ScriptedRadio String), ∃ calls handed,
      session 3 { mode := .zmac } ({} : ScriptedRadio) (-60) {} (.cycle [])
          [.undergo (.operate (.send 7 0 [1]))] = .ok (.ok n) ∧
      n.take (.undergo (.fire .slot)) = .ok m ∧
      m.medium.calls = calls ++ n.medium.calls ∧
      m.journal.submissions = n.journal.submissions ++ handed ∧
      (∀ later bytes answer earlier, calls = later ++ .startTransmit bytes answer :: earlier →
        (∃ s ∈ handed, s.bytes = bytes ∧ s.accepted = answer.isOk) ∧
        ∀ s ∈ handed, s.bytes = bytes → s.channel = .data →
          Layout.standard.Owns n.slot ((fine s.time).since s.origin).toNat ∨
          ∃ rssi rest, earlier = .pollRssi (.ok rssi) :: rest ∧ rssi ≤ -60 ∧
            activityAfter n.medium.mode.activity rest = .listening ∧
            ∃ since before, rest ++ n.medium.calls = since ++ .startReceive (.ok ()) :: before ∧
              ∀ call ∈ since, call.leadsTo? = none) ∧
      ((∃ error, .startReceive (.error error) ∈ calls ∨ .pollRssi (.error error) ∈ calls) ∨
          (∃ channel, n.medium.mode = .transmitting channel) →
        m.stats.steals = n.stats.steals ∧
        ∀ s ∈ handed, s.channel = .data →
          Layout.standard.Owns n.slot ((fine s.time).since s.origin).toNat) ∧
      calls.countP RadioCall.measures ≤ 1 :=
  listens_before_talking
    (Config.check_eq_ok_iff.mp (rfl : ({ mode := .zmac } : Config).check = .ok ()))
    3 ({} : ScriptedRadio) (-60) {} (.cycle []) _ _ (by simp)

end SlottedMac
