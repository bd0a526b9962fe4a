import SlottedMac.Proofs.Launches
import SlottedMac.Proofs.Medium.Radio

/-!
# A node and its radio

A node knows of a frame in flight, and the medium below it of a transmission;
neither asks the other. They agree as long as each end of a transmission that
the medium reports is passed on to the node, and nobody else tells the node of
one. The host may otherwise use the medium as it likes, and the radio may fail
whenever it is asked for something.
-/

namespace SlottedMac

/-- What can happen between a node, its host and its radio. -/
inductive Turn (R δ : Type) where
  | undergo (stimulus : Stimulus (RadioMedium R δ))
  /-- The host looks after the radio: first what was sent, then what came in. -/
  | service
  /-- The host looks after what was sent only. -/
  | serviceTransmit
  /-- The host looks after what came in only. -/
  | serviceReceive
  /-- The host listens to the channel, outside of any operation. -/
  | listen
  /-- The host takes out what came in, without passing it on. -/
  | pollReceive (room : Nat)
  /-- The radio changes by itself. -/
  | radio (radio : R)

/-- The node hears of the end of a transmission by being passed on what the medium
found, and the medium is not exchanged. -/
def Turn.Relays {R δ : Type} : Turn R δ → Prop
  | .undergo (.operate (.complete _ _ _)) => False
  | .undergo (.medium _) => False
  | _ => True

namespace Node

variable {R δ : Type} {n m : Node (RadioMedium R δ)}

section Turns

variable [Transceiver R δ]

/-- The node after one turn. -/
def take (n : Node (RadioMedium R δ)) : Turn R δ → Except Fault (Node (RadioMedium R δ))
  | .undergo stimulus => return (← n.undergo stimulus).2
  | .service => return (← n.service).2
  | .serviceTransmit => .ok n.serviceTransmit.2
  | .serviceReceive => return (← n.serviceReceive).2
  | .listen => .ok (n.onMedium RadioMedium.channelClear).2
  | .pollReceive room => .ok (n.onMedium (RadioMedium.pollReceive · room)).2
  | .radio radio => .ok { n with medium.radio := radio }

/-- A node set up over a radio that does nothing yet, after turns one by one. -/
def session (address : Address) (config : Config) (radio : R) (clearThreshold : Int)
    (alarms : AlarmClock) (words : WordSource) (turns : List (Turn R δ)) :
    Except Fault (Except (NodeError (RadioError δ)) (Node (RadioMedium R δ))) := do
  match ← create address config ({ radio, clearThreshold } : RadioMedium R δ) alarms words with
  | .error e => return .error e
  | .ok n => return .ok (← turns.foldlM take n)

end Turns

/-- A node and its radio agree on what is in flight. -/
structure Linked (n : Node (RadioMedium R δ)) : Prop where
  agrees : n.inFlight.isSome ↔ n.medium.mode = .transmitting .data
  sending : inProgress n.medium.calls = none ↔ n.medium.Clear
  turns : TakesTurns n.medium.calls
  carries : n.medium.mode = .transmitting .data →
    ∃ s, n.journal.launches.getLast? = some s ∧ inProgress n.medium.calls = some s.bytes
  refuses : ∀ attempt ∈ n.medium.attempts, attempt.channel = .data →
    attempt.answer = .error .busy → attempt.mode = .transmitting .beacon

/-- What leaves a transmission alone keeps the two in agreement. -/
theorem Linked.of_undisturbed (h : n.Linked) (medium : n.medium.Undisturbed m.medium)
    (inFlight : m.inFlight = n.inFlight) (launches : m.journal.launches = n.journal.launches) :
    m.Linked where
  agrees := by rw [inFlight, h.agrees, medium.mode]
  sending := by
    rw [medium.inProgress, h.sending]
    exact forall_congr' fun channel => (not_congr (medium.mode channel)).symm
  turns := medium.takesTurns h.turns
  carries mode := by
    rw [launches, medium.inProgress]
    exact h.carries ((medium.mode .data).mp mode)
  refuses := by
    rw [medium.attempts]
    exact h.refuses

/-- What becomes of a frame that is handed over, whichever channel it is for. A data
frame is handed over only while none is in flight. -/
theorem Linked.attempted (h : n.Linked) {channel : Channel} {bytes : List UInt8}
    {out : Except (RadioError δ) Unit × RadioMedium R δ}
    (given : n.medium.Attempted channel bytes out) (medium : m.medium = out.2)
    (idle : channel = .data → n.inFlight = none)
    (inFlight : m.inFlight.isSome ↔ n.inFlight.isSome ∨ channel = .data ∧ out.1.isOk)
    (launched : channel = .data → out.1.isOk →
      ∃ s, m.journal.launches.getLast? = some s ∧ s.bytes = bytes)
    (quiet : ¬ out.1.isOk → m.journal.launches = n.journal.launches) : m.Linked := by
  obtain ⟨agrees, sending, turns, carries, refuses⟩ := h
  cases given with
  | @busy other mode =>
    refine ⟨?_, medium ▸ sending, medium ▸ turns, ?_, ?_⟩
    · rw [inFlight, medium]
      simpa [Except.isOk, Except.toBool] using agrees
    · rw [quiet (by simp [Except.isOk, Except.toBool]), medium]
      exact carries
    · rw [medium]
      intro attempt mem data answer
      rcases List.mem_cons.mp mem with rfl | old
      · -- a data frame is not in flight, so what goes on is a beacon
        cases other with
        | beacon => exact mode
        | data =>
          have flies := agrees.mpr mode
          rw [idle data] at flies
          cases flies
      · exact refuses attempt old data answer
  | failed clear radio error =>
    have kept : inProgress m.medium.calls = inProgress n.medium.calls := by
      rw [medium]
      rfl
    refine ⟨?_, ?_, ?_, ?_, ?_⟩
    · rw [inFlight, medium]
      simpa [Except.isOk, Except.toBool] using agrees
    · rw [kept, sending, medium]
      rfl
    · rw [medium]
      exact ⟨fun started => absurd started (by simp [RadioCall.started?]), turns⟩
    · rw [kept, quiet (by simp [Except.isOk, Except.toBool]), medium]
      exact carries
    · rw [medium]
      intro attempt mem data answer
      rcases List.mem_cons.mp mem with rfl | old
      · cases answer
      · exact refuses attempt old data answer
  | started clear radio =>
    have none : n.inFlight.isSome = false := by
      rw [← Bool.not_eq_true, agrees]
      exact clear .data
    have now : inProgress m.medium.calls = some bytes := by
      rw [medium]
      rfl
    refine ⟨?_, ?_, ?_, ?_, ?_⟩
    · rw [inFlight, medium]
      simp [none, Except.isOk, Except.toBool]
    · rw [now, medium]
      exact iff_of_false (Option.some_ne_none bytes) fun idle => idle channel rfl
    · rw [medium]
      exact ⟨fun _ => sending.mpr clear, turns⟩
    · intro mode
      rw [medium] at mode
      cases mode
      obtain ⟨s, last, same⟩ := launched rfl rfl
      exact ⟨s, last, same ▸ now⟩
    · rw [medium]
      intro attempt mem data answer
      rcases List.mem_cons.mp mem with rfl | old
      · cases answer
      · exact refuses attempt old data answer

/-- Once a transmission is over nothing is in flight. -/
theorem Linked.landed (h : n.Linked) (radio : R) {call : RadioCall δ} (ends : call.ends)
    (calm : RadioMedium.Undisturbed
      { n.medium with radio, mode := .idle, calls := call :: n.medium.calls } m.medium)
    (landed : m.inFlight = none) : m.Linked := by
  have clear : m.medium.Clear := by
    intro channel mode
    cases (calm.mode channel).mp mode
  have none : call.started? = none := started?_eq_none ends
  refine ⟨?_, ?_, calm.takesTurns ⟨?_, h.turns⟩, fun mode => absurd mode (clear .data), ?_⟩
  · rw [landed]
    exact iff_of_false nofun (clear .data)
  · rw [calm.inProgress]
    exact iff_of_true (inProgress_of_ends ends) clear
  · rw [none]
    nofun
  · rw [calm.attempts]
    exact h.refuses

/-- A node in order that agrees with its radio. -/
structure Coupled (n : Node (RadioMedium R δ)) : Prop where
  sound : n.Sound
  flights : n.Flights
  linked : n.Linked

/-- The circumstances may change as long as no transmission is disturbed. -/
theorem Coupled.amid (h : n.Coupled) (alarms : AlarmClock) {medium : RadioMedium R δ}
    (calm : n.medium.Undisturbed medium) : (n.amid alarms medium).Coupled :=
  ⟨h.sound.amid alarms medium, h.flights.congr rfl rfl rfl,
    h.linked.of_undisturbed calm rfl rfl⟩

theorem fresh_coupled {config : Config} (valid : config.Valid) (address : Address) (radio : R)
    (clearThreshold : Int) (alarms : AlarmClock) (words : WordSource) :
    (fresh address config ({ radio, clearThreshold } : RadioMedium R δ) alarms words).Coupled where
  sound := fresh_sound valid ..
  flights := ⟨rfl, nofun⟩
  linked := ⟨by simp [fresh], iff_of_true rfl nofun, trivial, nofun, nofun⟩

section Deeds

variable [Transceiver R δ]

theorem submitted_beacon_linked (h : n.Linked) :
    (n.submitted .beacon n.reference none).Linked := by
  refine h.attempted (n.medium.transmit_attempted .beacon n.reference.bytes) rfl nofun ?_ nofun ?_
  · simp [submitted]
  · simp [submitted, submission]

theorem offered_linked (h : n.Linked) {frame : QueuedFrame} (idle : n.inFlight = none) :
    (n.offered frame).Linked := by
  have outcome : n.accepts .data (n.dataFrame frame) =
      (n.medium.transmit .data (n.dataFrame frame).bytes).1.isOk := rfl
  refine h.attempted (n.medium.transmit_attempted .data (n.dataFrame frame).bytes) ?_
    (fun _ => idle) ?_ ?_ ?_
  · rw [offered]
    dsimp only
    split <;> rfl
  · rw [offered, ← outcome]
    dsimp only
    split
    · next accepted => simp [launch, accepted]
    · next refused => simp [submitted, refused]
  · rw [← outcome, offered_journal]
    intro _ accepted
    simp [submission, accepted]
  · rw [← outcome, offered_journal]
    intro refused
    simp [submission, refused]

theorem Step.linked {d : Deed} (step : Step d n m) (other : d ∉ [.complete, .power])
    (h : n.Linked) : m.Linked := by
  have kept := step.kept
  have grown := step.adds
  -- what most deeds leave alone
  have quiet (other : d ∉ [.offer, .steal, .emit, .complete])
      (medium : n.medium.Undisturbed m.medium) : m.Linked := by
    simp only [List.mem_cons, List.not_mem_nil, or_false, not_or] at other
    refine h.of_undisturbed medium (kept.inFlight (by simp [other])) (grown.collect_eq ?_)
    exact fun _ writes => JournalEntry.launch?_eq_none writes (by simp [other])
  cases step with
  | complete | power => simp at other
  | offer idle => exact offered_linked h idle
  | steal _ idle =>
    exact (offered_linked h idle).of_undisturbed (.refl _) rfl rfl
  | emitRefused => exact submitted_beacon_linked h
  | emit =>
    refine (submitted_beacon_linked h).of_undisturbed (.refl _) rfl ?_
    simp [emitted, anchored, submitted]
  | sense => exact quiet (by decide) n.medium.channelClear_undisturbed
  | _ =>
    refine quiet (by decide) ?_
    rw [kept.medium (by decide)]
    exact .refl _

theorem Path.coupled {kinds : List Deed} (path : Path kinds n m)
    (none : .complete ∉ kinds ∧ .power ∉ kinds := by decide) (h : n.Coupled) : m.Coupled where
  sound := path.sound h.sound
  flights := path.flights h.flights
  linked := by
    refine path.keeps (fun {_ _ d} mem step => step.linked ?_) h.linked
    simp only [List.mem_cons, List.not_mem_nil, or_false, not_or]
    constructor
    · rintro rfl
      exact none.1 mem
    · rintro rfl
      exact none.2 mem

theorem perform_coupled (h : n.Coupled) {operation : Operation}
    (relayed : ∀ channel completion transmissions,
      operation ≠ .complete channel completion transmissions) :
    Yields (n.perform operation) fun out => out.2.Coupled := by
  have through (none : .complete ∉ n.deeds operation ∧ .power ∉ n.deeds operation) :
      Yields (n.perform operation) fun out => out.2.Coupled :=
    (perform_yields h.sound operation).mono fun _ done => done.1.coupled none h
  cases operation with
  | complete channel completion transmissions => exact (relayed _ _ _ rfl).elim
  | powerOn => exact Yields.ok_iff.mpr (h.amid n.alarms n.medium.powerOn_undisturbed)
  | powerOff keepOn =>
    exact Yields.ok_iff.mpr (h.amid n.alarms (n.medium.powerOff_undisturbed keepOn))
  | alarmFired kind =>
    refine through ⟨fun mem => ?_, fun mem => ?_⟩
    · exact absurd (n.deeds_alarmFired kind mem) (by decide)
    · exact absurd (n.deeds_alarmFired kind mem) (by decide)
  | _ => exact through (by simp [deeds, Deed.following])

theorem undergo_coupled (h : n.Coupled) {stimulus : Stimulus (RadioMedium R δ)}
    (relays : (Turn.undergo stimulus).Relays) :
    Yields (n.undergo stimulus) fun out => out.2.Coupled := by
  cases stimulus with
  | operate operation =>
    refine (perform_coupled h ?_).bind fun _ done => Yields.pure_iff.mpr done
    rintro channel completion transmissions rfl
    exact relays
  | fire kind =>
    refine undergo_fire (fun _ => h) fun callback _ => ?_
    have taken : (n.consumed kind).Coupled := h.amid _ (.refl _)
    refine (alarmFired_yields taken.sound kind).mono ?_
    rintro out ⟨path, -⟩
    refine path.coupled ⟨fun mem => ?_, fun mem => ?_⟩ taken
    · exact absurd (deeds_alarmFired _ kind mem) (by decide)
    · exact absurd (deeds_alarmFired _ kind mem) (by decide)
  | medium medium => exact absurd relays id
  | lose kind => exact Yields.ok_iff.mpr (h.amid _ (.refl _))
  | clock time => exact Yields.ok_iff.mpr (h.amid _ (.refl _))
  | refuse kind error => exact Yields.ok_iff.mpr (h.amid _ (.refl _))

/-! ## The host of a radio -/

theorem serviceTransmit_eq (n : Node (RadioMedium R δ)) :
    n.serviceTransmit =
      match n.medium.pollTransmit with
      | (some (channel, completion), medium) =>
        (some (channel, completion), (n.amid n.alarms medium).complete channel completion 1)
      | (none, medium) => (none, n.amid n.alarms medium) := by
  rw [serviceTransmit, onMedium]
  rcases n.medium.pollTransmit with ⟨_ | ⟨channel, completion⟩, medium⟩ <;> rfl

theorem complete_coupled (h : n.Coupled) {call : RadioCall δ} {radio : R}
    {medium : RadioMedium R δ} (channel : Channel) (mode : n.medium.mode = .transmitting channel)
    (ends : call.ends)
    (calm : RadioMedium.Undisturbed
      { n.medium with radio, mode := .idle, calls := call :: n.medium.calls } medium)
    (completion : Completion) :
    ((n.amid n.alarms medium).complete channel completion 1).Coupled := by
  have inOrder : (n.amid n.alarms medium).Sound := h.sound.amid n.alarms medium
  have account : (n.amid n.alarms medium).Flights := h.flights.congr rfl rfl rfl
  have step : Step .complete (n.amid n.alarms medium)
      ((n.amid n.alarms medium).complete channel completion 1) := .complete channel completion 1
  refine ⟨inOrder.of_same step.same, step.flights account, h.linked.landed radio ends ?_ ?_⟩
  · rw [step.kept.medium (by decide)]
    exact calm
  · cases channel with
    | beacon =>
      -- the radio was sending a beacon, so no data frame was in flight
      show n.inFlight = none
      rw [← Option.not_isSome_iff_eq_none, h.linked.agrees, mode]
      nofun
    | data =>
      obtain ⟨frame, flies⟩ := Option.isSome_iff_exists.mp (h.linked.agrees.mpr mode)
      obtain ⟨_, -, -, landed⟩ :=
        complete_journal (n := n.amid n.alarms medium) flies completion 1
      exact landed

theorem serviceTransmit_coupled (h : n.Coupled) : n.serviceTransmit.2.Coupled := by
  have polled := n.medium.pollTransmit_polled
  rw [serviceTransmit_eq]
  generalize n.medium.pollTransmit = out at polled
  cases polled with
  | nothing calm => exact h.amid n.alarms calm
  | ended mode call ends found radio calm => exact complete_coupled h _ mode ends calm _

/-- The host finds what the medium finds, and to tell the node leaves the medium alone. -/
theorem serviceTransmit_medium (n : Node (RadioMedium R δ)) :
    n.serviceTransmit.1 = n.medium.pollTransmit.1 ∧
      n.serviceTransmit.2.medium = n.medium.pollTransmit.2 := by
  rw [serviceTransmit_eq]
  rcases n.medium.pollTransmit with ⟨_ | ⟨channel, completion⟩, medium⟩
  · exact ⟨rfl, rfl⟩
  · obtain ⟨_, _, _, _, same⟩ := (n.amid n.alarms medium).complete_eq channel completion 1
    exact ⟨rfl, congrArg Node.medium same⟩

/-- No end of a transmission is lost: it is found as soon as the radio tells it. -/
theorem serviceTransmit_eq_some_iff {channel : Channel} {completion : Completion} :
    n.serviceTransmit.1 = some (channel, completion) ↔
      n.medium.mode = .transmitting channel ∧
        Completion.ofCheck? (Transceiver.checkTransmit n.medium.radio).1 = some completion := by
  rw [n.serviceTransmit_medium.1, RadioMedium.pollTransmit_eq_some_iff]

/-- After an end that was found nothing is in flight, and the radio is free. -/
theorem serviceTransmit_lands (h : n.Coupled) {found : Channel × Completion}
    (told : n.serviceTransmit.1 = some found) :
    n.serviceTransmit.2.inFlight = none ∧ n.serviceTransmit.2.medium.Clear := by
  have free : n.serviceTransmit.2.medium.Clear := by
    rw [n.serviceTransmit_medium.1] at told
    rw [n.serviceTransmit_medium.2]
    exact RadioMedium.pollTransmit_clear told
  refine ⟨?_, free⟩
  rw [← Option.not_isSome_iff_eq_none, (serviceTransmit_coupled h).linked.agrees]
  exact free .data

/-- A completion is credited to the frame that was launched last. That is the one on
the air, and the report about it says whether the node was synchronized then. -/
def Credits (completion : Completion) (n k : Node (RadioMedium R δ)) : Prop :=
  ∃ s token entry, n.journal.launches.getLast? = some s ∧ s.token? = some token ∧
    inProgress n.medium.calls = some s.bytes ∧
    k.journal = entry :: .completed token :: n.journal ∧
    (entry = .posted (.sent token (.ofCompletion completion s.synchronized) 1) ∨
      entry = .dropped (.sent token (.ofCompletion completion s.synchronized) 1))

theorem serviceTransmit_credits (h : n.Coupled) {completion : Completion}
    (found : n.serviceTransmit.1 = some (.data, completion)) :
    Credits completion n n.serviceTransmit.2 := by
  have polled := n.medium.pollTransmit_polled
  rw [serviceTransmit_eq] at found ⊢
  generalize n.medium.pollTransmit = out at polled found
  cases polled with
  | nothing calm => cases found
  | @ended _ _ medium mode call ends _ radio calm =>
    cases found
    obtain ⟨frame, flies⟩ := Option.isSome_iff_exists.mp (h.linked.agrees.mpr mode)
    obtain ⟨s, last, token, synchronized⟩ := h.flights.last frame flies
    obtain ⟨s', last', sent⟩ := h.linked.carries mode
    cases last.symm.trans last'
    obtain ⟨entry, grown, report, -⟩ :=
      complete_journal (n := n.amid n.alarms medium) flies completion 1
    rw [← synchronized] at report
    exact ⟨s, frame.token, entry, last, token, sent, grown, report⟩

theorem serviceReceive_coupled (h : n.Coupled) :
    Yields n.serviceReceive fun out => out.2.Coupled := by
  have heard : (n.onMedium (RadioMedium.pollReceive · maxFrame)).2.Coupled :=
    h.amid n.alarms (n.medium.pollReceive_undisturbed maxFrame)
  rw [serviceReceive]
  split
  · next same =>
    rw [same] at heard
    exact Yields.ok_iff.mpr heard
  · next same =>
    rw [same] at heard
    exact Yields.ok_iff.mpr heard
  · next reception k same =>
    rw [same] at heard
    refine (receive_path heard.sound reception.bytes).bind fun out path => ?_
    exact Yields.pure_iff.mpr (path.coupled (by decide) heard)

/-- Every turn keeps a node and its radio in agreement. -/
theorem take_coupled (h : n.Coupled) {turn : Turn R δ} (relays : turn.Relays) :
    Yields (n.take turn) Coupled := by
  cases turn with
  | undergo stimulus =>
    exact (undergo_coupled h relays).bind fun _ done => Yields.pure_iff.mpr done
  | service =>
    refine Yields.bind (P := fun out => out.2.Coupled) ?_ fun _ done => Yields.pure_iff.mpr done
    exact (serviceReceive_coupled (serviceTransmit_coupled h)).bind fun _ done =>
      Yields.pure_iff.mpr done
  | serviceTransmit => exact Yields.ok_iff.mpr (serviceTransmit_coupled h)
  | serviceReceive =>
    exact (serviceReceive_coupled h).bind fun _ done => Yields.pure_iff.mpr done
  | listen => exact Yields.ok_iff.mpr (h.amid n.alarms n.medium.channelClear_undisturbed)
  | pollReceive room =>
    exact Yields.ok_iff.mpr (h.amid n.alarms (n.medium.pollReceive_undisturbed room))
  | radio radio =>
    exact Yields.ok_iff.mpr (h.amid n.alarms ⟨fun _ => .rfl, ⟨[], rfl, nofun⟩, rfl⟩)

theorem foldlM_coupled (h : n.Coupled) {turns : List (Turn R δ)}
    (relays : ∀ turn ∈ turns, turn.Relays) : Yields (turns.foldlM take n) Coupled :=
  Yields.foldlM h fun _ turn mem coupled => take_coupled coupled (relays turn mem)

end Deeds

end Node

open Node

/-- Whatever happens to a node over a radio, and whichever requests to the radio
fail, as long as the node hears of the end of a transmission by being passed on
what its medium found: a data frame is in flight if and only if the radio
transmits one. So no completion is lost: the end of what is on the air is found as soon as the
radio tells it, and leaves nothing in flight and the radio free. Each completion is credited to
the frame that is on the air, the frames completed are those launched but for the one in
flight, a data frame is turned away as untimely only during a beacon, and between two
transmissions that were started the first was found to be over. -/
theorem radio_in_step {R δ : Type} [Transceiver R δ] {config : Config} (valid : config.Valid)
    (address : Address) (radio : R) (clearThreshold : Int) (alarms : AlarmClock)
    (words : WordSource) (turns : List (Turn R δ)) (relays : ∀ turn ∈ turns, turn.Relays) :
    ∃ n, session address config radio clearThreshold alarms words turns = .ok (.ok n) ∧
      (n.inFlight.isSome ↔ n.medium.mode = .transmitting .data) ∧
      (∀ channel completion, n.serviceTransmit.1 = some (channel, completion) ↔
        n.medium.mode = .transmitting channel ∧
          Completion.ofCheck? (Transceiver.checkTransmit n.medium.radio).1 = some completion) ∧
      (n.serviceTransmit.1.isSome →
        n.serviceTransmit.2.inFlight = none ∧
          ∀ channel, n.serviceTransmit.2.medium.mode ≠ .transmitting channel) ∧
      (∀ completion, n.serviceTransmit.1 = some (.data, completion) →
        Credits completion n n.serviceTransmit.2) ∧
      n.journal.launches.map (·.token?) =
        (n.journal.completed ++ n.inFlight.toList.map (·.token)).map some ∧
      (∀ attempt ∈ n.medium.attempts, attempt.channel = .data → attempt.answer = .error .busy →
        attempt.mode = .transmitting .beacon) ∧
      ∀ later next between first earlier,
        n.medium.calls = later ++ .startTransmit next (.ok ()) :: between ++
          .startTransmit first (.ok ()) :: earlier →
        .checkTransmit (.ok true) ∈ between ∨ ∃ error, .checkTransmit (.error error) ∈ between := by
  obtain ⟨n, done, coupled⟩ := foldlM_coupled
    (fresh_coupled valid address radio clearThreshold alarms words) relays
  refine ⟨n, ?_, coupled.linked.agrees, fun _ _ => serviceTransmit_eq_some_iff, fun told => ?_,
    fun _ => serviceTransmit_credits coupled, coupled.flights.order, coupled.linked.refuses, ?_⟩
  · simp only [session, create_of_valid valid, bind, Except.bind, pure, Except.pure]
    rw [done]
  · obtain ⟨found, told⟩ := Option.isSome_iff_exists.mp told
    exact serviceTransmit_lands coupled told
  · intro later next between first earlier split
    have turns := coupled.linked.turns
    rw [split, List.append_assoc] at turns
    obtain ⟨call, mem, ends⟩ := turns.of_append.ended_between rfl rfl
    rcases RadioCall.ends_iff.mp ends with rfl | ⟨error, rfl⟩
    · exact .inl mem
    · exact .inr ⟨error, mem⟩

/-- A radio that at the first look is still transmitting, fails before the second, and then fails
to go on receiving. -/
def failingRadio : ScriptedRadio :=
  { checkTransmit := [.ok false, .error "lost"], startReceive := [.ok (), .error "stuck"] }

/-- A frame is launched in its slot on that radio, and looked after once. -/
def launchAndLook : List (Turn ScriptedRadio String) :=
  [.undergo (.operate .powerOn), .undergo (.operate (.send 7 0 [1])), .undergo (.clock 500000),
    .undergo (.fire .slot), .service]

/-- The frame is still in flight then. The next look finds that the radio failed, credits that
to the frame, and leaves nothing in flight. -/
theorem radio_in_step_failing :
    ∃ n : Node (RadioMedium ScriptedRadio String),
      session 3 {} failingRadio 0 {} (.cycle []) launchAndLook = .ok (.ok n) ∧
      n.inFlight.map (·.token) = some 7 ∧ n.medium.mode = .transmitting .data ∧
      n.serviceTransmit.1 = some (.data, .failed) ∧
      Credits .failed n n.serviceTransmit.2 ∧
      n.serviceTransmit.2.inFlight = none ∧ n.serviceTransmit.2.medium.mode = .idle := by
  obtain ⟨n, done, -, told, lands, credits, -⟩ :=
    radio_in_step Config.valid_default 3 failingRadio 0 {} (.cycle []) launchAndLook
      (by simp [launchAndLook, Turn.Relays])
  have reached : (session 3 {} failingRadio 0 {} (.cycle []) launchAndLook).toOption.any
      fun made => made.toOption.any fun n =>
        n.inFlight.map (·.token) = some 7 ∧ n.medium.mode = .transmitting .data ∧
          Completion.ofCheck? (Transceiver.checkTransmit n.medium.radio).1 = some .failed ∧
          n.serviceTransmit.2.medium.mode = .idle := by
    decide +kernel
  rw [done] at reached
  obtain ⟨flies, mode, fails, idle⟩ := of_decide_eq_true reached
  have found := (told .data .failed).mpr ⟨mode, fails⟩
  exact ⟨n, done, flies, mode, found, credits .failed found,
    (lands (by rw [found]; rfl)).1, idle⟩

end SlottedMac
