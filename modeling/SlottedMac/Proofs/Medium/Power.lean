import SlottedMac.Proofs.Medium.Completions

/-!
# What becomes of a power command

A power command says what a radio is to do between transmissions: to receive, or to sleep.
Unless it transmits, the radio does so at once, and a command to receive is also met after
every transmission.

A command to sleep is met once only. The medium remembers of it that the radio need not
receive. What uses the radio after that leaves it in a mode of its own: sensing the channel
leaves it receiving, and a transmission leaves it idle. So a radio that was told to sleep
while it transmitted never does.
-/

namespace SlottedMac

variable {R ε : Type}

/-- Whether the radio is to be kept on from now on, if a request says so. -/
def RadioRequest.command? : RadioRequest → Option Bool
  | .powerOn => some true
  | .powerOff keepOn => some keepOn
  | _ => none

/-- What uses the radio otherwise than by a power command. -/
inductive RadioUse where
  /-- The channel was sensed. -/
  | sensed
  /-- A transmission came to its end. -/
  | transmitted
deriving DecidableEq, Repr

/-- What a radio does that transmits nothing, when a power command was the last one and the
radio was used since. -/
def RadioMode.resting (keepOn : Bool) (uses : List RadioUse) : RadioMode :=
  if keepOn then .listening
  else
    match uses.getLast? with
    | none => .sleeping
    | some .sensed => .listening
    | some .transmitted => .idle

theorem RadioMode.activity_eq_listening_iff {mode : RadioMode} :
    mode.activity = .listening ↔ mode = .listening := by
  cases mode <;> simp [activity]

theorem RadioMode.activity_eq_transmitting_iff {mode : RadioMode} :
    mode.activity = .transmitting ↔ ∃ channel, mode = .transmitting channel := by
  cases mode <;> simp [activity]

namespace RadioMedium

variable {m k : RadioMedium R ε} {keepOn : Bool} {used : List RadioUse}

/-- The radio did everything that it was asked to. -/
def Flawless (m : RadioMedium R ε) : Prop := ∀ call ∈ m.calls, call.succeeded

/-- The medium remembers the last power command, and the radio is in the mode that goes with
it and with what it was used for since, unless it transmits. -/
structure Settled (keepOn : Bool) (used : List RadioUse) (m : RadioMedium R ε) : Prop where
  remembers : m.keepOn = keepOn
  rests : m.Clear → m.mode = .resting keepOn used

theorem Flawless.earlier (added : List (RadioCall ε)) (h : k.Flawless)
    (log : k.calls = added ++ m.calls) : m.Flawless := by
  intro call mem
  exact h call (log ▸ List.mem_append_right added mem)

theorem Flawless.latest {call : RadioCall ε} {earlier : List (RadioCall ε)} (h : m.Flawless)
    (log : m.calls = call :: earlier) : call.succeeded :=
  h call (log ▸ List.mem_cons_self)

theorem Settled.congr (h : m.Settled keepOn used) (mode : k.mode = m.mode)
    (memory : k.keepOn = m.keepOn) : k.Settled keepOn used := by
  refine ⟨memory.trans h.remembers, fun clear => ?_⟩
  rw [Clear, mode] at clear
  rw [mode]
  exact h.rests clear

/-- A radio that transmits rests in no mode yet. -/
theorem Settled.of_transmitting (sends : m.isTransmitting) (memory : m.keepOn = keepOn) :
    m.Settled keepOn used := by
  refine ⟨memory, fun clear => ?_⟩
  rw [clear_iff.mp clear] at sends
  cases sends

variable [Transceiver R ε]

/-- What a request uses the radio for, if it comes to that. -/
def use? (m : RadioMedium R ε) : RadioRequest → Option RadioUse
  | .channelClear => if m.onAir.isNone then some .sensed else none
  | .pollTransmit => m.pollTransmit.1.map fun _ => .transmitted
  | _ => none

/-- What requests one after another use the radio for. -/
def uses (m : RadioMedium R ε) : List RadioRequest → List RadioUse
  | [] => []
  | request :: rest => (m.use? request).toList ++ (m.ask request).uses rest

/-! ## Requests to change the mode -/

theorem receive_keepOn (m : RadioMedium R ε) : m.receive.2.keepOn = m.keepOn := by
  rw [receive]
  dsimp only
  split <;> rfl

theorem sleep_keepOn (m : RadioMedium R ε) : m.sleep.2.keepOn = m.keepOn := by
  rw [sleep]
  dsimp only
  split <;> rfl

theorem receive_listens (flawless : m.receive.2.Flawless) : m.receive.2.mode = .listening := by
  rw [receive] at flawless ⊢
  dsimp only at flawless ⊢
  cases answer : (Transceiver.startReceive m.radio).1 with
  | ok _ => rfl
  | error error =>
    rw [answer] at flawless
    cases flawless.latest rfl

theorem sleep_sleeps (flawless : m.sleep.2.Flawless) : m.sleep.2.mode = .sleeping := by
  rw [sleep] at flawless ⊢
  dsimp only at flawless ⊢
  cases answer : (Transceiver.sleep m.radio).1 with
  | ok _ => rfl
  | error error =>
    rw [answer] at flawless
    cases flawless.latest rfl

theorem powerOn_settled (flawless : m.powerOn.2.Flawless) : m.powerOn.2.Settled true [] := by
  by_cases sends : m.isTransmitting
  · have kept : m.powerOn = (true, { m with keepOn := true }) := if_pos sends
    rw [kept]
    exact .of_transmitting sends rfl
  · have done : m.powerOn.2 = { m with keepOn := true }.receive.2 :=
      congrArg Prod.snd (if_neg sends)
    rw [done] at flawless ⊢
    exact ⟨receive_keepOn _, fun _ => receive_listens flawless⟩

theorem powerOff_settled (flawless : (m.powerOff false).2.Flawless) :
    (m.powerOff false).2.Settled false [] := by
  by_cases sends : m.isTransmitting
  · have kept : m.powerOff false = (true, { m with keepOn := false }) := if_pos sends
    rw [kept]
    exact .of_transmitting sends rfl
  · have done : (m.powerOff false).2 = { m with keepOn := false }.sleep.2 :=
      congrArg Prod.snd (if_neg sends)
    rw [done] at flawless ⊢
    exact ⟨sleep_keepOn _, fun _ => sleep_sleeps flawless⟩

/-- A power command is met at once, or remembered. -/
theorem command_settled {command : RadioRequest} (commands : command.command? = some keepOn)
    (flawless : (m.ask command).Flawless) : (m.ask command).Settled keepOn [] := by
  cases command with
  | powerOn =>
    cases commands
    exact powerOn_settled flawless
  | powerOff keep =>
    cases commands
    cases keepOn with
    | true => exact powerOn_settled flawless
    | false => exact powerOff_settled flawless
  | _ => cases commands

/-! ## Other requests -/

/-- A frame that is refused leaves the radio as it was, and one that is accepted is
transmitted. -/
theorem transmit_settled (h : m.Settled keepOn used) (channel : Channel) (bytes : List UInt8) :
    (m.transmit channel bytes).2.Settled keepOn used := by
  have given := m.transmit_attempted channel bytes
  generalize m.transmit channel bytes = out at given
  cases given with
  | busy mode => exact h.congr rfl rfl
  | failed idle radio error => exact h.congr rfl rfl
  | started idle radio => exact .of_transmitting rfl h.remembers

theorem pollReceive_settled (h : m.Settled keepOn used) (room : Nat) :
    (m.pollReceive room).2.Settled keepOn used := by
  rw [pollReceive]
  split
  · exact h
  · dsimp only
    split
    · exact h.congr rfl rfl
    · exact h.congr rfl rfl
    · split
      · exact h.congr rfl rfl
      · exact h.congr rfl rfl

/-- A transmission that is over leaves the radio receiving if it is to be kept on, and idle
otherwise. -/
theorem endTransmission_settled (memory : m.keepOn = keepOn)
    (flawless : m.endTransmission.Flawless) :
    m.endTransmission.Settled keepOn (used ++ [.transmitted]) := by
  rw [endTransmission] at flawless ⊢
  dsimp only at flawless ⊢
  cases keepOn with
  | true =>
    rw [if_pos memory] at flawless ⊢
    exact ⟨(receive_keepOn _).trans memory, fun _ => receive_listens flawless⟩
  | false =>
    rw [if_neg (by simp [memory])]
    exact ⟨memory, fun _ => by simp [RadioMode.resting]⟩

theorem pollTransmit_settled (h : m.Settled keepOn used) (flawless : m.pollTransmit.2.Flawless) :
    m.pollTransmit.2.Settled keepOn (used ++ (m.use? .pollTransmit).toList) := by
  rw [use?]
  generalize same : m.pollTransmit = out at flawless ⊢
  rw [pollTransmit] at same
  split at same
  · dsimp only at same
    split at same
    · rw [← same, Option.map_none, Option.toList_none, List.append_nil]
      exact h.congr rfl rfl
    · rw [← same] at flawless ⊢
      exact endTransmission_settled h.remembers flawless
    · rw [← same] at flawless ⊢
      exact endTransmission_settled h.remembers flawless
  · rw [← same]
    simpa using h

theorem channelClear_keepOn (m : RadioMedium R ε) : m.channelClear.2.keepOn = m.keepOn := by
  have measured (k : RadioMedium R ε) : k.measureClear.2.keepOn = k.keepOn := by
    rw [measureClear]
    dsimp only
    split <;> rfl
  rw [channelClear]
  split
  · rfl
  · exact measured m
  · have received := m.receive_keepOn
    split
    · next k same =>
      rw [same] at received
      exact (measured k).trans received
    · next k same =>
      rw [same] at received
      exact received

/-- To sense the channel the radio is made to receive, and it is left so. -/
theorem channelClear_listens (idle : m.Clear) (flawless : m.channelClear.2.Flawless) :
    m.channelClear.2.mode = .listening := by
  have senses := m.channelClear_senses
  generalize m.channelClear = out at senses flawless ⊢
  cases senses with
  | busy sends =>
    obtain ⟨channel, mode⟩ := RadioMode.activity_eq_transmitting_iff.mp sends
    exact absurd mode (idle channel)
  | deaf error asked => cases flawless.latest asked.log
  | measured answer free before tuned listens asked =>
    exact RadioMode.activity_eq_listening_iff.mp (asked.activity.trans listens)

/-- Sensing the channel is a use of the radio, unless it transmits. -/
theorem channelClear_settled (h : m.Settled keepOn used) (flawless : m.channelClear.2.Flawless) :
    m.channelClear.2.Settled keepOn (used ++ (m.use? .channelClear).toList) := by
  cases air : m.onAir with
  | some channel =>
    have deaf : m.channelClear = (false, m) := by
      rw [channelClear, onAir_eq_some_iff.mp air]
    simpa [use?, air, deaf] using h
  | none =>
    refine ⟨m.channelClear_keepOn.trans h.remembers, fun _ => ?_⟩
    rw [channelClear_listens (clear_iff_onAir.mpr air) flawless]
    simp [use?, air, RadioMode.resting]

/-- What is neither a power command nor a request for a mode leaves the radio settled. -/
theorem ask_settled (h : m.Settled keepOn used) {request : RadioRequest}
    (commands : request.command? = none) (direct : request ≠ .receive ∧ request ≠ .sleep)
    (flawless : (m.ask request).Flawless) :
    (m.ask request).Settled keepOn (used ++ (m.use? request).toList) := by
  have unused (k : RadioMedium R ε) (h : k.Settled keepOn used) :
      k.Settled keepOn (used ++ []) := by rwa [List.append_nil]
  cases request with
  | transmit channel bytes => exact unused _ (transmit_settled h channel bytes)
  | receive => exact absurd rfl direct.1
  | sleep => exact absurd rfl direct.2
  | powerOn => cases commands
  | powerOff keepOn => cases commands
  | channelClear => exact channelClear_settled h flawless
  | pollTransmit => exact pollTransmit_settled h flawless
  | pollReceive room => exact unused _ (pollReceive_settled h room)

/-! ## All requests -/

/-- Calls to the radio are never forgotten. -/
theorem ask_calls (m : RadioMedium R ε) (request : RadioRequest) :
    ∃ added, (m.ask request).calls = added ++ m.calls := by
  have of_aside {k : RadioMedium R ε} (asks : AsksAside m k) :
      ∃ added, k.calls = added ++ m.calls := by
    obtain ⟨added, asked, -⟩ := asks
    exact ⟨added, asked.log⟩
  cases request with
  | transmit channel bytes =>
    obtain ⟨added, asked, -⟩ := m.transmit_asks channel bytes
    exact ⟨added, asked.log⟩
  | receive => exact of_aside m.receive_asks
  | sleep => exact of_aside m.sleep_asks
  | powerOn => exact of_aside m.powerOn_asks
  | powerOff keepOn => exact of_aside (m.powerOff_asks keepOn)
  | channelClear =>
    obtain ⟨added, log, -⟩ := m.channelClear_undisturbed.calls
    exact ⟨added, log⟩
  | pollTransmit => exact of_aside m.pollTransmit_asks
  | pollReceive room => exact of_aside (m.pollReceive_asks room)

theorem serve_calls (m : RadioMedium R ε) (requests : List RadioRequest) :
    ∃ added, (m.serve requests).2.calls = added ++ m.calls := by
  induction requests generalizing m with
  | nil => exact ⟨[], rfl⟩
  | cons request rest ih =>
    obtain ⟨first, log⟩ := m.ask_calls request
    obtain ⟨later, grown⟩ := ih (m.ask request)
    exact ⟨later ++ first, by rw [serve, grown, log, List.append_assoc]⟩

theorem serve_append (m : RadioMedium R ε) (before since : List RadioRequest) :
    (m.serve (before ++ since)).2 = ((m.serve before).2.serve since).2 := by
  induction before generalizing m with
  | nil => rfl
  | cons request rest ih => exact ih (m.ask request)

theorem serve_settled (h : m.Settled keepOn used) {requests : List RadioRequest}
    (plain : ∀ request ∈ requests,
      request.command? = none ∧ request ≠ .receive ∧ request ≠ .sleep)
    (flawless : (m.serve requests).2.Flawless) :
    (m.serve requests).2.Settled keepOn (used ++ m.uses requests) := by
  induction requests generalizing m used with
  | nil => rwa [uses, List.append_nil]
  | cons request rest ih =>
    obtain ⟨commands, direct⟩ := plain request List.mem_cons_self
    obtain ⟨added, log⟩ := (m.ask request).serve_calls rest
    have next := ask_settled h commands direct (flawless.earlier added log)
    rw [uses, ← List.append_assoc]
    exact ih next (fun r mem => plain r (List.mem_cons_of_mem _ mem)) flawless

end RadioMedium

open RadioMedium

/-- Whatever was asked of a radio medium before, as long as the radio does as it is asked: when
nothing is transmitted, a radio that was last told to receive does so, whether it transmitted
or sensed the channel since or was told in the midst of a transmission. A radio that was last
told to sleep does so until it is used: sensing the channel leaves it receiving, and the end
of a transmission, also of one that went on when it was told, leaves it idle. -/
theorem rests_as_commanded {R ε : Type} [Transceiver R ε] (radio : R) (clearThreshold : Int)
    (before since : List RadioRequest) {command : RadioRequest} {keepOn : Bool}
    (commands : command.command? = some keepOn)
    (plain : ∀ request ∈ since,
      request.command? = none ∧ request ≠ .receive ∧ request ≠ .sleep) :
    ∃ k m, (({ radio, clearThreshold } : RadioMedium R ε).serve (before ++ [command])).2 = k ∧
      (({ radio, clearThreshold } : RadioMedium R ε).serve (before ++ command :: since)).2 = m ∧
      ((∀ call ∈ m.calls, call.succeeded) → m.onAir = none →
        m.mode = .resting keepOn (k.uses since)) := by
  let start : RadioMedium R ε := { radio, clearThreshold }
  let m := (start.serve before).2
  have told : (start.serve (before ++ [command])).2 = m.ask command := start.serve_append ..
  have served : (start.serve (before ++ command :: since)).2 = ((m.ask command).serve since).2 :=
    start.serve_append ..
  refine ⟨_, _, told, served, fun flawless idle => ?_⟩
  obtain ⟨added, log⟩ := (m.ask command).serve_calls since
  have settled := command_settled commands (Flawless.earlier added flawless log)
  exact (serve_settled settled plain flawless).rests (clear_iff_onAir.mpr idle)

/-- A radio that is told to receive while it transmits, and then senses the channel and
transmits again. -/
theorem rests_as_commanded_midway :
    ∃ k m,
      (({ radio := {}, clearThreshold := 0 } : RadioMedium ScriptedRadio String).serve
        ([.powerOff false, .transmit .data [0xAA]] ++ [.powerOn])).2 = k ∧
      (({ radio := {}, clearThreshold := 0 } : RadioMedium ScriptedRadio String).serve
        ([.powerOff false, .transmit .data [0xAA]] ++ .powerOn ::
          [.pollTransmit, .channelClear, .transmit .beacon [0xBB], .pollTransmit])).2 = m ∧
      (∀ call ∈ m.calls, call.succeeded) ∧ m.onAir = none ∧
      k.uses [.pollTransmit, .channelClear, .transmit .beacon [0xBB], .pollTransmit] =
        [.transmitted, .sensed, .transmitted] ∧
      m.mode = .listening := by
  obtain ⟨k, m, told, served, rests⟩ :=
    rests_as_commanded (R := ScriptedRadio) {} 0 [.powerOff false, .transmit .data [0xAA]]
      [.pollTransmit, .channelClear, .transmit .beacon [0xBB], .pollTransmit]
      (show RadioRequest.powerOn.command? = some true from rfl) (by simp [RadioRequest.command?])
  have flawless : ∀ call ∈ m.calls, call.succeeded := by
    rw [← served]
    decide
  have idle : m.onAir = none := by
    rw [← served]
    rfl
  have used : k.uses [.pollTransmit, .channelClear, .transmit .beacon [0xBB], .pollTransmit] =
      [.transmitted, .sensed, .transmitted] := by
    rw [← told]
    rfl
  exact ⟨k, m, told, served, flawless, idle, used, rests flawless idle⟩

/-- A radio that does everything it is asked to, told to sleep: in the midst of a transmission,
and before the channel is sensed. It sleeps neither after the one nor after the other. -/
theorem sleep_forgotten :
    (∃ m, (({ radio := {}, clearThreshold := 0 } : RadioMedium ScriptedRadio String).serve
        [.transmit .data [0xAA], .powerOff false, .pollTransmit]).2 = m ∧
      (∀ call ∈ m.calls, call.succeeded) ∧ m.onAir = none ∧ m.mode = .idle) ∧
    ∃ m, (({ radio := {}, clearThreshold := 0 } : RadioMedium ScriptedRadio String).serve
        [.powerOff false, .channelClear]).2 = m ∧
      (∀ call ∈ m.calls, call.succeeded) ∧ m.onAir = none ∧ m.mode = .listening :=
  ⟨⟨_, rfl, by decide, rfl, rfl⟩, ⟨_, rfl, by decide, rfl, rfl⟩⟩

end SlottedMac
