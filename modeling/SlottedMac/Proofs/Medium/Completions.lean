import SlottedMac.Proofs.Medium.Sensing

/-!
# One end for each transmission

A host may ask eight things of a radio medium, in any order, and the radio may answer as it
likes. What was asked and answered tells what became of the transmissions: they and their
ends alternate, so the radio is asked for no second one while the first goes on, and no
end is told without one.

Most requests leave a transmission alone, and the power commands wait for its end. Only the
two requests that put the radio into receive mode or to sleep at once do not look whether it
transmits. Granted in the midst of a transmission they are the end of it, and the host is
never told of that end.
-/

namespace SlottedMac

variable {R ε : Type}

/-- What a host may ask of a radio medium. -/
inductive RadioRequest where
  | transmit (channel : Channel) (bytes : List UInt8)
  | receive
  | sleep
  | powerOn
  | powerOff (keepOn : Bool)
  | channelClear
  | pollTransmit
  | pollReceive (room : Nat)
deriving DecidableEq, Repr

/-- What a request, with its answer, means for the transmissions of a radio. -/
inductive Milestone where
  /-- A transmission was accepted. -/
  | accepted (channel : Channel)
  /-- The radio was asked for one and failed to start it. -/
  | failed (channel : Channel)
  /-- The host was told that one is over. -/
  | completed (channel : Channel) (completion : Completion)
  /-- The radio was put into another mode in the midst of one. -/
  | cutShort (channel : Channel)
deriving DecidableEq, Repr

namespace Milestone

/-- The channel of the transmission that ended, if one did. -/
def ended? : Milestone → Option Channel
  | .completed channel _ => some channel
  | .cutShort channel => some channel
  | _ => none

/-- Whether the radio started a transmission, if it was asked to. -/
def tried? : Milestone → Option Bool
  | .accepted _ => some true
  | .failed _ => some false
  | _ => none

/-- What is on the air before a milestone and after it. -/
inductive Moves : Option Channel → Milestone → Option Channel → Prop where
  | accepted (channel : Channel) : Moves none (.accepted channel) (some channel)
  | failed (channel : Channel) : Moves none (.failed channel) none
  | completed (channel : Channel) (completion : Completion) :
      Moves (some channel) (.completed channel completion) none
  | cutShort (channel : Channel) : Moves (some channel) (.cutShort channel) none

/-- What is on the air before milestones, oldest first, and after them. -/
inductive Course : Option Channel → List Milestone → Option Channel → Prop where
  | nil (air : Option Channel) : Course air [] air
  | cons {air next last : Option Channel} {milestone : Milestone} {rest : List Milestone}
      (first : Moves air milestone next) (onward : Course next rest last) :
      Course air (milestone :: rest) last

variable {air mid last : Option Channel} {milestone : Milestone} {earlier later : List Milestone}

namespace Course

theorem single (first : Moves air milestone last) : Course air [milestone] last :=
  .cons first (.nil last)

theorem append (h : Course air earlier mid) (h' : Course mid later last) :
    Course air (earlier ++ later) last := by
  induction h with
  | nil => exact h'
  | cons first _ ih => exact .cons first (ih h')

/-- Milestones pass through what is on the air between any two of them. -/
theorem through (h : Course air (earlier ++ later) last) :
    ∃ mid, Course air earlier mid ∧ Course mid later last := by
  induction earlier generalizing air with
  | nil => exact ⟨air, .nil air, h⟩
  | cons milestone earlier ih =>
    cases h with
    | cons first onward =>
      obtain ⟨mid, before, after⟩ := ih onward
      exact ⟨mid, .cons first before, after⟩

/-- What is on the air in the end is what was accepted last. -/
theorem on_air_iff (h : Course none earlier last) (channel : Channel) :
    last = some channel ↔ earlier.getLast? = some (.accepted channel) := by
  rcases List.eq_nil_or_concat earlier with rfl | ⟨before, milestone, rfl⟩
  · cases h
    simp
  · rw [List.concat_eq_append] at h ⊢
    obtain ⟨mid, -, rest⟩ := h.through
    cases rest with
    | cons first onward =>
      cases onward
      rw [List.getLast?_append]
      cases first <;> simp [eq_comm]

/-- What was accepted comes to an end before anything else happens. -/
theorem ends_next {next : Milestone} {channel : Channel}
    (h : Course air (earlier ++ .accepted channel :: next :: later) last) :
    (∃ completion, next = .completed channel completion) ∨ next = .cutShort channel := by
  obtain ⟨mid, -, rest⟩ := h.through
  cases rest with
  | cons first onward =>
    cases first
    cases onward with
    | cons second onward =>
      cases second with
      | completed _ completion => exact .inl ⟨completion, rfl⟩
      | cutShort => exact .inr rfl

/-- What ends was accepted just before. -/
theorem accepted_before {channel : Channel} (h : Course none (earlier ++ milestone :: later) last)
    (ends : milestone.ended? = some channel) : earlier.getLast? = some (.accepted channel) := by
  obtain ⟨mid, before, rest⟩ := h.through
  rw [← before.on_air_iff]
  cases rest with
  | cons first onward =>
    cases first with
    | accepted | failed => cases ends
    | completed | cutShort => exact ends

end Course

end Milestone

/-- Whether a call started a transmission, if it was to do that. -/
def RadioCall.tried? : RadioCall ε → Option Bool
  | .startTransmit _ answer => some answer.isOk
  | _ => none

theorem RadioCall.Aside.tried? {call : RadioCall ε} (aside : call.Aside) : call.tried? = none := by
  cases call with
  | startTransmit bytes answer => exact aside.elim
  | _ => rfl

namespace RadioMedium

open Milestone (Course)

variable {m k l : RadioMedium R ε} {milestones more : List Milestone}

/-- The channel of the transmission that goes on, if one does. -/
def onAir (m : RadioMedium R ε) : Option Channel :=
  match m.mode with
  | .transmitting channel => some channel
  | _ => none

theorem onAir_eq_some_iff {channel : Channel} :
    m.onAir = some channel ↔ m.mode = .transmitting channel := by
  rw [onAir]
  cases m.mode <;> simp

theorem Clear.onAir (idle : m.Clear) : m.onAir = none := by
  rw [Option.eq_none_iff_forall_ne_some]
  intro channel
  rw [ne_eq, onAir_eq_some_iff]
  exact idle channel

theorem clear_iff_onAir : m.Clear ↔ m.onAir = none := by
  refine ⟨Clear.onAir, fun none channel mode => ?_⟩
  rw [onAir_eq_some_iff.mpr mode] at none
  cases none

theorem Undisturbed.onAir (calm : Undisturbed m k) : k.onAir = m.onAir := by
  ext channel
  exact onAir_eq_some_iff.trans ((calm.mode channel).trans onAir_eq_some_iff.symm)

/-- Whether each of the requests to the radio to transmit was granted, oldest first. -/
def tries (m : RadioMedium R ε) : List Bool := m.calls.reverse.filterMap RadioCall.tried?

/-- Calls that are about something else are no attempts. -/
theorem tries_eq {added : List (RadioCall ε)} (log : k.calls = added ++ m.calls)
    (aside : ∀ call ∈ added, call.tried? = none) : k.tries = m.tries := by
  have none : added.reverse.filterMap RadioCall.tried? = [] :=
    List.filterMap_eq_nil_iff.mpr fun call mem => aside call (List.mem_reverse.mp mem)
  simp [tries, log, none]

/-- Between two states of the medium these milestones were passed, and the radio was asked to
transmit no more often than they say. -/
structure Passes (milestones : List Milestone) (m k : RadioMedium R ε) : Prop where
  course : Course m.onAir milestones k.onAir
  tries : k.tries = m.tries ++ milestones.filterMap Milestone.tried?

namespace Passes

theorem trans (h : Passes milestones m k) (h' : Passes more k l) :
    Passes (milestones ++ more) m l where
  course := h.course.append h'.course
  tries := by rw [h'.tries, h.tries, List.filterMap_append, List.append_assoc]

/-- What leaves a transmission alone and asks for none passes nothing. -/
theorem of_undisturbed (calm : Undisturbed m k) (added : List (RadioCall ε))
    (log : k.calls = added ++ m.calls) (aside : ∀ call ∈ added, call.tried? = none) :
    Passes [] m k where
  course := by
    rw [calm.onAir]
    exact .nil _
  tries := by rw [tries_eq log aside, List.filterMap_nil, List.append_nil]

theorem of_aside (calm : Undisturbed m k) (asked : AsksAside m k) : Passes [] m k := by
  obtain ⟨added, asked, aside⟩ := asked
  exact of_undisturbed calm added asked.log fun call mem => (aside call mem).tried?

end Passes

variable [Transceiver R ε]

/-- What a request comes to, for the transmissions. -/
def milestone? (m : RadioMedium R ε) : RadioRequest → Option Milestone
  | .transmit channel bytes =>
    match (m.transmit channel bytes).1 with
    | .ok () => some (.accepted channel)
    | .error (.device _) => some (.failed channel)
    | .error .busy => none
  | .pollTransmit => m.pollTransmit.1.map fun found => .completed found.1 found.2
  | .receive => if m.receive.1.isOk then m.onAir.map .cutShort else none
  | .sleep => if m.sleep.1.isOk then m.onAir.map .cutShort else none
  | _ => none

/-- The medium after a request. -/
def ask (m : RadioMedium R ε) : RadioRequest → RadioMedium R ε
  | .transmit channel bytes => (m.transmit channel bytes).2
  | .receive => m.receive.2
  | .sleep => m.sleep.2
  | .powerOn => m.powerOn.2
  | .powerOff keepOn => (m.powerOff keepOn).2
  | .channelClear => m.channelClear.2
  | .pollTransmit => m.pollTransmit.2
  | .pollReceive room => (m.pollReceive room).2

/-- The milestones passed by requests one after another, and the medium after them. -/
def serve (m : RadioMedium R ε) : List RadioRequest → List Milestone × RadioMedium R ε
  | [] => ([], m)
  | request :: rest =>
    ((m.milestone? request).toList ++ ((m.ask request).serve rest).1,
      ((m.ask request).serve rest).2)

/-- Requests that put the radio into another mode at once come while it does not
transmit. -/
def Considerate (m : RadioMedium R ε) : List RadioRequest → Prop
  | [] => True
  | request :: rest =>
    (request = .receive ∨ request = .sleep → m.onAir = none) ∧ (m.ask request).Considerate rest

/-! ## One request -/

theorem transmit_passes (m : RadioMedium R ε) (channel : Channel) (bytes : List UInt8) :
    Passes (m.milestone? (.transmit channel bytes)).toList m (m.transmit channel bytes).2 := by
  have given := m.transmit_attempted channel bytes
  rw [milestone?]
  generalize m.transmit channel bytes = out at given
  cases given with
  | busy mode => exact ⟨.nil _, (List.append_nil _).symm⟩
  | failed idle radio error =>
    refine ⟨?_, by simp [tries, RadioCall.tried?, Milestone.tried?, Except.isOk, Except.toBool]⟩
    show Course m.onAir [.failed channel] m.onAir
    rw [idle.onAir]
    exact .single (.failed channel)
  | started idle radio =>
    refine ⟨?_, by simp [tries, RadioCall.tried?, Milestone.tried?, Except.isOk, Except.toBool]⟩
    rw [idle.onAir]
    exact .single (.accepted channel)

theorem pollTransmit_passes (m : RadioMedium R ε) :
    Passes (m.milestone? .pollTransmit).toList m m.pollTransmit.2 := by
  have polled := m.pollTransmit_polled
  have asked := m.pollTransmit_asks
  rw [milestone?]
  generalize m.pollTransmit = out at polled asked
  cases polled with
  | nothing calm => exact .of_aside calm asked
  | ended mode call ends found radio calm =>
    obtain ⟨added, asked, aside⟩ := asked
    refine ⟨?_, ?_⟩
    · rw [calm.onAir, onAir_eq_some_iff.mpr mode]
      exact .single (.completed _ _)
    · rw [tries_eq asked.log fun call mem => (aside call mem).tried?]
      exact (List.append_nil _).symm

/-- What comes of a request to put the radio into a mode in which nothing is transmitted. -/
inductive Switched (m : RadioMedium R ε) : Except (RadioError ε) Unit × RadioMedium R ε → Prop where
  | granted (radio : R) (mode : RadioMode) (call : RadioCall ε)
      (idle : ∀ channel, mode ≠ .transmitting channel) (quiet : call.Quiet)
      (aside : call.tried? = none) :
      Switched m (.ok (), { m with radio, mode, calls := call :: m.calls })
  | denied (radio : R) (error : ε) (call : RadioCall ε) (quiet : call.Quiet)
      (aside : call.tried? = none) :
      Switched m (.error (.device error), { m with radio, calls := call :: m.calls })

theorem receive_switched (m : RadioMedium R ε) : Switched m m.receive := by
  rw [receive]
  dsimp only
  cases (Transceiver.startReceive m.radio).1 with
  | ok _ => exact .granted _ _ _ (by simp) ⟨rfl, rfl⟩ rfl
  | error error => exact .denied _ error _ ⟨rfl, rfl⟩ rfl

theorem sleep_switched (m : RadioMedium R ε) : Switched m m.sleep := by
  rw [sleep]
  dsimp only
  cases (Transceiver.sleep m.radio).1 with
  | ok _ => exact .granted _ _ _ (by simp) ⟨rfl, rfl⟩ rfl
  | error error => exact .denied _ error _ ⟨rfl, rfl⟩ rfl

omit [Transceiver R ε] in
/-- A request of that kind, if it is granted, cuts short what is transmitted. -/
theorem Switched.passes {out : Except (RadioError ε) Unit × RadioMedium R ε}
    (h : Switched m out) :
    Passes (if out.1.isOk then m.onAir.map Milestone.cutShort else none).toList m out.2 := by
  cases h with
  | denied radio error call quiet aside =>
    exact .of_undisturbed (.call call quiet radio m.mode) [call] rfl (by simp [aside])
  | granted radio mode call idle quiet aside =>
    cases air : m.onAir with
    | none =>
      have clear := clear_iff_onAir.mpr air
      refine .of_undisturbed (.call call quiet radio mode fun channel => ?_) [call] rfl
        (by simp [aside])
      exact iff_of_false (idle channel) (clear channel)
    | some channel =>
      refine ⟨?_, ?_⟩
      · have left : RadioMedium.Clear { m with radio, mode, calls := call :: m.calls } := idle
        rw [air, left.onAir]
        exact .single (.cutShort channel)
      · simp [tries, aside, Milestone.tried?, Except.isOk, Except.toBool]

theorem channelClear_passes (m : RadioMedium R ε) : Passes [] m m.channelClear.2 := by
  have calm := m.channelClear_undisturbed
  have senses := m.channelClear_senses
  generalize m.channelClear = out at calm senses
  cases senses with
  | busy sends => exact .of_undisturbed calm [] rfl nofun
  | deaf error asked => exact .of_undisturbed calm _ asked.log (by simp [RadioCall.tried?])
  | measured answer free before tuned listens asked weak =>
    refine .of_undisturbed calm _ asked.log ?_
    rcases tuned with rfl | rfl
    · simp [RadioCall.tried?]
    · simp [RadioCall.tried?]

theorem ask_passes (m : RadioMedium R ε) (request : RadioRequest) :
    Passes (m.milestone? request).toList m (m.ask request) := by
  cases request with
  | transmit channel bytes => exact m.transmit_passes channel bytes
  | receive => exact m.receive_switched.passes
  | sleep => exact m.sleep_switched.passes
  | powerOn => exact .of_aside m.powerOn_undisturbed m.powerOn_asks
  | powerOff keepOn => exact .of_aside (m.powerOff_undisturbed keepOn) (m.powerOff_asks keepOn)
  | channelClear => exact m.channelClear_passes
  | pollTransmit => exact m.pollTransmit_passes
  | pollReceive room => exact .of_aside (m.pollReceive_undisturbed room) (m.pollReceive_asks room)

/-! ## All requests -/

theorem serve_passes (m : RadioMedium R ε) (requests : List RadioRequest) :
    Passes (m.serve requests).1 m (m.serve requests).2 := by
  induction requests generalizing m with
  | nil => exact .of_undisturbed (.refl m) [] rfl nofun
  | cons request rest ih => exact (m.ask_passes request).trans (ih (m.ask request))

/-- A request that puts the radio into another mode is what cuts a transmission short. -/
theorem cuts_of_milestone {request : RadioRequest} {channel : Channel}
    (cut : m.milestone? request = some (.cutShort channel)) :
    (request = .receive ∨ request = .sleep) ∧ m.onAir = some channel := by
  cases request with
  | transmit channel bytes =>
    rw [milestone?] at cut
    split at cut <;> cases cut
  | receive =>
    rw [milestone?] at cut
    split at cut
    · simpa using cut
    · cases cut
  | sleep =>
    rw [milestone?] at cut
    split at cut
    · simpa using cut
    · cases cut
  | pollTransmit => simp [milestone?] at cut
  | _ => cases cut

theorem Considerate.uncut {requests : List RadioRequest} (h : m.Considerate requests)
    (channel : Channel) : .cutShort channel ∉ (m.serve requests).1 := by
  induction requests generalizing m with
  | nil => nofun
  | cons request rest ih =>
    obtain ⟨considerate, onward⟩ := h
    intro mem
    rcases List.mem_append.mp mem with now | later
    · obtain ⟨which, air⟩ := cuts_of_milestone (Option.mem_toList.mp now)
      rw [considerate which] at air
      cases air
    · exact ih onward later

/-- A transmission that is refused changes nothing that the medium remembers. -/
theorem transmit_refused {channel : Channel} {bytes : List UInt8} {error : RadioError ε}
    (refused : (m.transmit channel bytes).1 = .error error) :
    (m.transmit channel bytes).2.mode = m.mode ∧ (m.transmit channel bytes).2.keepOn = m.keepOn ∧
      (m.transmit channel bytes).2.clearThreshold = m.clearThreshold := by
  have given := m.transmit_attempted channel bytes
  generalize m.transmit channel bytes = out at given refused
  cases given with
  | busy => exact ⟨rfl, rfl, rfl⟩
  | failed => exact ⟨rfl, rfl, rfl⟩
  | started => cases refused

end RadioMedium

open RadioMedium

/-- Whatever a host asks of a radio medium, and whatever the radio answers: an accepted
transmission ends before another is accepted or the radio is asked for one, and nothing ends
that was not accepted just before, on the same channel. The end is told to the host, or the
radio was put into another mode in the midst of it; the latter only by a request to receive
or to sleep that comes while it transmits. A poll tells the end of what is transmitted as soon
as the radio tells that it is over, and of nothing else. A transmission that is refused changes
nothing. -/
theorem one_end_each {R ε : Type} [Transceiver R ε] (radio : R) (clearThreshold : Int)
    (requests : List RadioRequest) :
    ∃ milestones m,
      ({ radio, clearThreshold } : RadioMedium R ε).serve requests = (milestones, m) ∧
      (∀ earlier channel next later,
        milestones = earlier ++ .accepted channel :: next :: later →
        (∃ completion, next = .completed channel completion) ∨ next = .cutShort channel) ∧
      (∀ earlier last later channel, milestones = earlier ++ last :: later →
        last.ended? = some channel → earlier.getLast? = some (.accepted channel)) ∧
      (∀ channel, m.mode = .transmitting channel ↔
        milestones.getLast? = some (.accepted channel)) ∧
      m.tries = milestones.filterMap Milestone.tried? ∧
      (({ radio, clearThreshold } : RadioMedium R ε).Considerate requests →
        ∀ channel, .cutShort channel ∉ milestones) ∧
      (∀ channel completion, m.pollTransmit.1 = some (channel, completion) ↔
        m.mode = .transmitting channel ∧
          Completion.ofCheck? (Transceiver.checkTransmit m.radio).1 = some completion) ∧
      ∀ channel bytes error, (m.transmit channel bytes).1 = .error error →
        (m.transmit channel bytes).2.mode = m.mode ∧
          (m.transmit channel bytes).2.keepOn = m.keepOn ∧
          (m.transmit channel bytes).2.clearThreshold = m.clearThreshold := by
  have passes := ({ radio, clearThreshold } : RadioMedium R ε).serve_passes requests
  refine ⟨_, _, rfl, ?_, ?_, ?_, passes.tries, Considerate.uncut,
    fun _ _ => pollTransmit_eq_some_iff, fun _ _ _ => transmit_refused⟩
  · intro earlier channel next later split
    have course := passes.course
    rw [split] at course
    exact course.ends_next
  · intro earlier last later channel split ends
    have course := passes.course
    rw [split] at course
    exact course.accepted_before ends
  · intro channel
    rw [← onAir_eq_some_iff]
    exact passes.course.on_air_iff channel

/-- A radio that fails in a transmission which it was not told to leave: power commands, a look
at the channel and another frame come in the meantime, and the end is told once. -/
theorem one_end_each_commanded :
    ∃ milestones m,
      ({ radio := { checkTransmit := [.ok false, .error "lost"] }, clearThreshold := 0 } :
          RadioMedium ScriptedRadio String).serve
        [.receive, .transmit .data [0xAA], .powerOff false, .channelClear,
          .transmit .beacon [0xBB], .pollTransmit, .powerOn, .pollTransmit, .pollTransmit,
          .sleep] = (milestones, m) ∧
      milestones = [.accepted .data, .completed .data .failed] ∧
      m.mode ≠ .transmitting .data ∧
      ∀ channel, .cutShort channel ∉ milestones := by
  obtain ⟨milestones, m, served, -, -, last, -, uncut, -⟩ :=
    one_end_each (R := ScriptedRadio) { checkTransmit := [.ok false, .error "lost"] } 0
      [.receive, .transmit .data [0xAA], .powerOff false, .channelClear, .transmit .beacon [0xBB],
        .pollTransmit, .powerOn, .pollTransmit, .pollTransmit, .sleep]
  have told : milestones = [.accepted .data, .completed .data .failed] :=
    (congrArg Prod.fst served).symm.trans rfl
  refine ⟨milestones, m, served, told, ?_, uncut ?_⟩
  · rw [ne_eq, last .data, told]
    decide
  · refine ⟨fun _ => rfl, nofun, nofun, nofun, nofun, nofun, nofun, nofun, nofun, fun _ => rfl, ?_⟩
    trivial

/-- A radio that is made to receive while it transmits: the transmission is over, no poll tells
so, and the radio takes the next one. -/
theorem end_untold :
    (({ radio := {}, clearThreshold := 0 } : RadioMedium ScriptedRadio String).serve
        [.transmit .data [0xAA], .receive, .pollTransmit, .transmit .data [0xBB]]).1 =
      [.accepted .data, .cutShort .data, .accepted .data] := rfl

end SlottedMac
