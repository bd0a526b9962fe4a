import SlottedMac.Proofs.Medium.Radio

/-!
# What a radio is set to, and how the channel is sensed

The mode of a radio medium is no secret of the medium: the last call that the
radio granted, among those that change what it does, tells it. So whether the
radio was receiving when something was asked of it can be read off the calls
before.

A channel counts as clear only where the radio said so just now, in receive
mode. Sensing is at most one measurement, and at most one call before it that
goes into receive mode.
-/

namespace SlottedMac

variable {R ε : Type}

/-- What a radio does, whichever channel that is for. -/
inductive Activity where
  | idle
  | listening
  | transmitting
  | sleeping
deriving DecidableEq, Repr

/-- What the radio does in a mode. -/
def RadioMode.activity : RadioMode → Activity
  | .idle => .idle
  | .listening => .listening
  | .transmitting _ => .transmitting
  | .sleeping => .sleeping

namespace RadioCall

/-- What the radio does from this call on, if the call changes that. -/
def leadsTo? : RadioCall ε → Option Activity
  | .startTransmit _ (.ok ()) => some .transmitting
  | .startReceive (.ok ()) => some .listening
  | .sleep (.ok ()) => some .sleeping
  | .checkTransmit (.ok true) => some .idle
  | .checkTransmit (.error _) => some .idle
  | _ => none

/-- Whether the call measures the channel. -/
def measures : RadioCall ε → Bool
  | .pollRssi _ => true
  | _ => false

/-- The call starts no transmission, granted or not, and measures nothing. -/
def Aside : RadioCall ε → Prop
  | .startTransmit _ _ => False
  | .pollRssi _ => False
  | _ => True

theorem eq_startReceive {call : RadioCall ε} (leads : call.leadsTo? = some .listening) :
    call = .startReceive (.ok ()) := by
  unfold leadsTo? at leads
  split at leads
  · cases leads
  · rfl
  all_goals cases leads

end RadioCall

/-- What a radio does after calls, latest first, of which it did `start` before. -/
def activityAfter (start : Activity) (calls : List (RadioCall ε)) : Activity :=
  calls.foldr (fun call before => call.leadsTo?.getD before) start

@[simp] theorem activityAfter_nil (start : Activity) :
    activityAfter start ([] : List (RadioCall ε)) = start := rfl

@[simp] theorem activityAfter_cons (start : Activity) (call : RadioCall ε)
    (calls : List (RadioCall ε)) :
    activityAfter start (call :: calls) = call.leadsTo?.getD (activityAfter start calls) := rfl

theorem activityAfter_append (start : Activity) (later earlier : List (RadioCall ε)) :
    activityAfter start (later ++ earlier) = activityAfter (activityAfter start earlier) later :=
  List.foldr_append

/-- A radio that was idle and now receives was made to receive, and no call since
then has changed what it does. -/
theorem exists_startReceive {calls : List (RadioCall ε)}
    (listens : activityAfter .idle calls = .listening) :
    ∃ since before, calls = since ++ .startReceive (.ok ()) :: before ∧
      ∀ call ∈ since, call.leadsTo? = none := by
  induction calls with
  | nil => cases listens
  | cons call calls ih =>
    rw [activityAfter_cons] at listens
    cases leads : call.leadsTo? with
    | some activity =>
      rw [leads] at listens
      cases listens
      exact ⟨[], calls, by rw [RadioCall.eq_startReceive leads]; rfl, nofun⟩
    | none =>
      rw [leads] at listens
      obtain ⟨since, before, same, quiet⟩ := ih listens
      refine ⟨call :: since, before, by rw [same]; rfl, ?_⟩
      intro c mem
      rcases List.mem_cons.mp mem with rfl | old
      · exact leads
      · exact quiet c old

namespace RadioMedium

variable {m k l : RadioMedium R ε}

/-- The medium asked its radio these calls, latest first, and knows what they made of
the radio. -/
structure Asks (calls : List (RadioCall ε)) (m k : RadioMedium R ε) : Prop where
  log : k.calls = calls ++ m.calls
  activity : k.mode.activity = activityAfter m.mode.activity calls
  threshold : k.clearThreshold = m.clearThreshold

/-- The medium asked its radio something, but not to transmit nor to measure. -/
def AsksAside (m k : RadioMedium R ε) : Prop := ∃ calls, Asks calls m k ∧ ∀ call ∈ calls, call.Aside

/-- The mode of the medium is the one that the calls tell. -/
def InStep (m : RadioMedium R ε) : Prop := m.mode.activity = activityAfter .idle m.calls

namespace Asks

variable {calls more : List (RadioCall ε)}

theorem refl (m : RadioMedium R ε) : Asks [] m m := ⟨rfl, rfl, rfl⟩

theorem trans (h : Asks calls m k) (h' : Asks more k l) : Asks (more ++ calls) m l where
  log := by rw [h'.log, h.log, List.append_assoc]
  activity := by rw [h'.activity, h.activity, activityAfter_append]
  threshold := h'.threshold.trans h.threshold

theorem inStep (h : Asks calls m k) (inStep : m.InStep) : k.InStep := by
  rw [InStep]
  rw [h.activity, inStep, h.log, activityAfter_append]

end Asks

namespace AsksAside

theorem refl (m : RadioMedium R ε) : AsksAside m m := ⟨[], .refl m, nofun⟩

theorem trans (h : AsksAside m k) (h' : AsksAside k l) : AsksAside m l := by
  obtain ⟨calls, asked, old⟩ := h
  obtain ⟨more, asked', new⟩ := h'
  refine ⟨more ++ calls, asked.trans asked', ?_⟩
  intro call mem
  exact (List.mem_append.mp mem).elim (new call) (old call)

/-- One call, and the mode that it leads to. -/
theorem call (c : RadioCall ε) (radio : R) (mode : RadioMode)
    (leads : mode.activity = c.leadsTo?.getD m.mode.activity)
    (aside : c.Aside := by exact trivial) :
    AsksAside m { m with radio, mode, calls := c :: m.calls } :=
  ⟨[c], ⟨rfl, leads, rfl⟩, by simpa using aside⟩

theorem keep (m : RadioMedium R ε) (keepOn : Bool) : AsksAside m { m with keepOn } :=
  ⟨[], ⟨rfl, rfl, rfl⟩, nofun⟩

end AsksAside

variable [Transceiver R ε]

theorem receive_asks (m : RadioMedium R ε) : AsksAside m m.receive.2 := by
  rw [receive]
  dsimp only
  split
  · next granted =>
    rw [granted]
    exact .call _ _ _ rfl
  · next refused =>
    rw [refused]
    exact .call _ _ _ rfl

theorem sleep_asks (m : RadioMedium R ε) : AsksAside m m.sleep.2 := by
  rw [sleep]
  dsimp only
  split
  · next granted =>
    rw [granted]
    exact .call _ _ _ rfl
  · next refused =>
    rw [refused]
    exact .call _ _ _ rfl

theorem powerOn_asks (m : RadioMedium R ε) : AsksAside m m.powerOn.2 := by
  have kept := AsksAside.keep m true
  rw [powerOn]
  dsimp only
  split
  · exact kept
  · exact kept.trans (receive_asks _)

theorem powerOff_asks (m : RadioMedium R ε) (keepOn : Bool) :
    AsksAside m (m.powerOff keepOn).2 := by
  have kept := AsksAside.keep m false
  rw [powerOff]
  split
  · exact m.powerOn_asks
  · dsimp only
    split
    · exact kept
    · exact kept.trans (sleep_asks _)

theorem pollReceive_asks (m : RadioMedium R ε) (room : Nat) :
    AsksAside m (m.pollReceive room).2 := by
  rw [pollReceive]
  split
  · exact .refl m
  · dsimp only
    have checked := AsksAside.call (m := m)
      (.checkReceive true (Transceiver.checkReceive m.radio true).1)
      (Transceiver.checkReceive m.radio true).2 m.mode rfl
    split
    · exact checked
    · exact checked
    · split
      · exact checked.trans (.call _ _ _ rfl)
      · exact checked.trans (.call _ _ _ rfl)

/-- A transmission that is over leaves the radio idle, and then perhaps receiving. -/
theorem endTransmission_asks {c : RadioCall ε} (ended : c.leadsTo? = some .idle) (radio : R)
    (aside : c.Aside := by exact trivial) :
    AsksAside m { m with radio, calls := c :: m.calls }.endTransmission := by
  have idle : AsksAside m { m with radio, mode := .idle, calls := c :: m.calls } :=
    .call c radio .idle (by rw [ended]; rfl) aside
  rw [endTransmission]
  dsimp only
  split
  · exact idle.trans (receive_asks _)
  · exact idle

theorem pollTransmit_asks (m : RadioMedium R ε) : AsksAside m m.pollTransmit.2 := by
  rw [pollTransmit]
  split
  · dsimp only
    split
    · next going =>
      rw [going]
      exact .call _ _ _ rfl
    · next ended =>
      rw [ended]
      exact endTransmission_asks rfl _
    · next failed =>
      rw [failed]
      exact endTransmission_asks rfl _
  · exact .refl m

/-- A frame that the medium is given is one call to the radio, unless a transmission
goes on. -/
theorem transmit_asks (m : RadioMedium R ε) (channel : Channel) (bytes : List UInt8) :
    ∃ calls, Asks calls m (m.transmit channel bytes).2 ∧
      (calls = [] ∨ ∃ answer, calls = [.startTransmit bytes answer] ∧
        answer.isOk = (m.transmit channel bytes).1.isOk) := by
  have given := m.transmit_attempted channel bytes
  generalize m.transmit channel bytes = out at given
  cases given with
  | busy => exact ⟨[], ⟨rfl, rfl, rfl⟩, .inl rfl⟩
  | failed idle radio error => exact ⟨[_], ⟨rfl, rfl, rfl⟩, .inr ⟨_, rfl, rfl⟩⟩
  | started idle radio => exact ⟨[_], ⟨rfl, rfl, rfl⟩, .inr ⟨_, rfl, rfl⟩⟩

/-- What comes of listening to the channel. -/
inductive Senses (m : RadioMedium R ε) : Bool × RadioMedium R ε → Prop where
  /-- A transmission goes on, and the radio is not asked. -/
  | busy (sends : m.mode.activity = .transmitting) : Senses m (false, m)
  /-- The radio fails to receive. -/
  | deaf {k : RadioMedium R ε} (error : ε) (asked : Asks [.startReceive (.error error)] m k) :
      Senses m (false, k)
  /-- The radio receives, and is asked for the strength of the signal. -/
  | measured {clear : Bool} {k : RadioMedium R ε} (answer : Except ε Int)
      (free : m.mode.activity ≠ .transmitting) (before : List (RadioCall ε))
      (tuned : before = [] ∨ before = [.startReceive (.ok ())])
      (listens : activityAfter m.mode.activity before = .listening)
      (asked : Asks (.pollRssi answer :: before) m k)
      (weak : clear = true → ∃ rssi, answer = .ok rssi ∧ rssi ≤ m.clearThreshold) :
      Senses m (clear, k)

theorem measureClear_asks (m : RadioMedium R ε) :
    ∃ answer, Asks [.pollRssi answer] m m.measureClear.2 ∧
      (m.measureClear.1 = true → ∃ rssi, answer = .ok rssi ∧ rssi ≤ m.clearThreshold) := by
  rw [measureClear]
  dsimp only
  split
  · next rssi measured =>
    refine ⟨.ok rssi, ⟨by rw [measured]; rfl, rfl, rfl⟩, ?_⟩
    intro weak
    exact ⟨rssi, rfl, of_decide_eq_true weak⟩
  · next error failed =>
    exact ⟨.error error, ⟨by rw [failed]; rfl, rfl, rfl⟩, by simp⟩

/-- The radio was made to receive first, and is measured then. -/
theorem Senses.of_received (free : m.mode.activity ≠ .transmitting)
    (received : Asks [.startReceive (.ok ())] m k) : Senses m k.measureClear := by
  obtain ⟨answer, asked, weak⟩ := k.measureClear_asks
  rw [received.threshold] at weak
  exact .measured answer free _ (.inr rfl) rfl (received.trans asked) weak

theorem channelClear_senses (m : RadioMedium R ε) : Senses m m.channelClear := by
  rw [channelClear]
  split
  · next mode => exact .busy (by rw [mode]; rfl)
  · next mode =>
    obtain ⟨answer, asked, weak⟩ := m.measureClear_asks
    exact .measured answer (by rw [mode]; decide) [] (.inl rfl) (by rw [mode]; rfl) asked weak
  · next sends _ =>
    have free : m.mode.activity ≠ .transmitting := by
      cases mode : m.mode with
      | transmitting channel => exact absurd mode (sends channel)
      | _ => simp [RadioMode.activity]
    rw [receive]
    dsimp only
    cases received : (Transceiver.startReceive m.radio).1 with
    | error error => exact .deaf error ⟨rfl, rfl, rfl⟩
    | ok _ => exact .of_received free ⟨rfl, rfl, rfl⟩

end RadioMedium

end SlottedMac
