import SlottedMac.Medium.Radio

/-!
# One transmission at a time

What a radio is doing can be read off the calls to it: a transmission goes on
from the call that started it to the call that found it over. The medium above
the radio keeps its mode in step with that, so it starts no transmission before
it has found the last one over. Everything else that it asks of the radio leaves
a transmission alone.
-/

namespace SlottedMac

variable {R ε : Type}

namespace RadioCall

/-- The frame whose transmission the call started, if it did. -/
def started? : RadioCall ε → Option (List UInt8)
  | .startTransmit bytes (.ok ()) => some bytes
  | _ => none

/-- Whether the call found a transmission over. -/
def ends : RadioCall ε → Bool
  | .checkTransmit (.ok ended) => ended
  | .checkTransmit (.error _) => true
  | _ => false

theorem ends_iff {call : RadioCall ε} :
    call.ends ↔
      call = .checkTransmit (.ok true) ∨ ∃ error, call = .checkTransmit (.error error) := by
  cases call with
  | checkTransmit answer => cases answer <;> simp [ends]
  | _ => simp [ends]

/-- The call is about no transmission. -/
def Quiet (call : RadioCall ε) : Prop := call.started? = none ∧ call.ends = false

end RadioCall

/-- The frame on the air after calls, latest first, if a transmission goes on. -/
def inProgress : List (RadioCall ε) → Option (List UInt8)
  | [] => none
  | call :: earlier =>
    match call.started? with
    | some bytes => some bytes
    | none => if call.ends then none else inProgress earlier

/-- Transmissions start only while none goes on. -/
def TakesTurns : List (RadioCall ε) → Prop
  | [] => True
  | call :: earlier => (call.started?.isSome → inProgress earlier = none) ∧ TakesTurns earlier

section Calls

variable {calls added earlier : List (RadioCall ε)} {call : RadioCall ε}

theorem inProgress_of_started {bytes : List UInt8} (started : call.started? = some bytes) :
    inProgress (call :: calls) = some bytes := by
  simp [inProgress, started]

theorem started?_eq_none (ends : call.ends) : call.started? = none := by
  cases call with
  | checkTransmit answer => rfl
  | _ => cases ends

theorem inProgress_of_ends (ends : call.ends) : inProgress (call :: calls) = none := by
  simp [inProgress, started?_eq_none ends, ends]

theorem inProgress_append (quiet : ∀ call ∈ added, call.Quiet) :
    inProgress (added ++ calls) = inProgress calls := by
  induction added with
  | nil => rfl
  | cons call added ih =>
    obtain ⟨none, goesOn⟩ := quiet call List.mem_cons_self
    simp only [List.cons_append, inProgress, none, goesOn, Bool.false_eq_true, if_false]
    exact ih fun c mem => quiet c (List.mem_cons_of_mem _ mem)

namespace TakesTurns

theorem append (h : TakesTurns calls) (quiet : ∀ call ∈ added, call.started? = none) :
    TakesTurns (added ++ calls) := by
  induction added with
  | nil => exact h
  | cons call added ih =>
    refine ⟨?_, ih fun c mem => quiet c (List.mem_cons_of_mem _ mem)⟩
    intro started
    rw [quiet call List.mem_cons_self] at started
    cases started

theorem of_append (h : TakesTurns (added ++ calls)) : TakesTurns calls := by
  induction added with
  | nil => exact h
  | cons _ _ ih => exact ih h.2

/-- Between two calls that start a transmission there is one that finds it over. -/
theorem ended_between {next : RadioCall ε} (h : TakesTurns (next :: added ++ call :: earlier))
    (first : call.started?.isSome) (second : next.started?.isSome) : ∃ c ∈ added, c.ends := by
  have done : inProgress (added ++ call :: earlier) = none := h.1 second
  clear h second
  induction added with
  | nil =>
    obtain ⟨bytes, started⟩ := Option.isSome_iff_exists.mp first
    rw [List.nil_append, inProgress_of_started started] at done
    cases done
  | cons c added ih =>
    by_cases ends : c.ends
    · exact ⟨c, List.mem_cons_self, ends⟩
    · have none : c.started? = none := by
        cases started : c.started? with
        | none => rfl
        | some bytes =>
          rw [List.cons_append, inProgress_of_started started] at done
          cases done
      simp only [List.cons_append, inProgress, none, ends, Bool.false_eq_true, if_false] at done
      obtain ⟨c, mem, ends⟩ := ih done
      exact ⟨c, List.mem_cons_of_mem _ mem, ends⟩

end TakesTurns

end Calls

/-- The end of a transmission that the answer of a radio tells, if it does. A radio that fails
has ended the transmission too. -/
def Completion.ofCheck? : Except ε Bool → Option Completion
  | .ok true => some .ok
  | .ok false => none
  | .error _ => some .failed

namespace RadioMedium

variable {m k l : RadioMedium R ε}

/-- What goes on is left alone: a transmission, and the account of the frames given. -/
structure Undisturbed (m k : RadioMedium R ε) : Prop where
  mode : ∀ channel, k.mode = .transmitting channel ↔ m.mode = .transmitting channel
  calls : ∃ added, k.calls = added ++ m.calls ∧ ∀ call ∈ added, call.Quiet
  attempts : k.attempts = m.attempts

namespace Undisturbed

theorem refl (m : RadioMedium R ε) : Undisturbed m m := ⟨fun _ => .rfl, ⟨[], rfl, nofun⟩, rfl⟩

theorem trans (h : Undisturbed m k) (h' : Undisturbed k l) : Undisturbed m l := by
  obtain ⟨earlier, same, old⟩ := h.calls
  obtain ⟨later, same', new⟩ := h'.calls
  refine ⟨fun channel => (h'.mode channel).trans (h.mode channel),
    ⟨later ++ earlier, by rw [same', same, List.append_assoc], ?_⟩,
    h'.attempts.trans h.attempts⟩
  intro call mem
  exact (List.mem_append.mp mem).elim (new call) (old call)

theorem inProgress (h : Undisturbed m k) : inProgress k.calls = inProgress m.calls := by
  obtain ⟨added, same, quiet⟩ := h.calls
  rw [same, inProgress_append quiet]

theorem takesTurns (h : Undisturbed m k) (turns : TakesTurns m.calls) : TakesTurns k.calls := by
  obtain ⟨added, same, quiet⟩ := h.calls
  rw [same]
  exact turns.append fun call mem => (quiet call mem).1

/-- One call that is about no transmission, perhaps with a change between modes in
which nothing is transmitted. -/
theorem call (c : RadioCall ε) (quiet : c.Quiet) (radio : R) (mode : RadioMode)
    (same : ∀ channel, mode = .transmitting channel ↔ m.mode = .transmitting channel :=
      by exact fun _ => .rfl) :
    Undisturbed m { m with radio, mode, calls := c :: m.calls } :=
  ⟨same, ⟨[c], rfl, by simpa using quiet⟩, rfl⟩

end Undisturbed

/-- Nothing is transmitted. -/
def Clear (m : RadioMedium R ε) : Prop := ∀ channel, m.mode ≠ .transmitting channel

theorem clear_iff : m.Clear ↔ m.isTransmitting = false := by
  unfold Clear isTransmitting
  cases m.mode <;> simp

theorem clear_of_not (idle : ¬ m.isTransmitting) : m.Clear :=
  clear_iff.mpr (Bool.not_eq_true _ ▸ idle)

theorem keep_undisturbed (m : RadioMedium R ε) (keepOn : Bool) :
    Undisturbed m { m with keepOn } := ⟨fun _ => .rfl, ⟨[], rfl, nofun⟩, rfl⟩

variable [Transceiver R ε]

theorem receive_undisturbed (idle : m.Clear) : Undisturbed m m.receive.2 := by
  rw [receive]
  dsimp only
  split
  · exact .call _ ⟨rfl, rfl⟩ _ _ fun channel => iff_of_false nofun (idle channel)
  · exact .call _ ⟨rfl, rfl⟩ _ _

theorem sleep_undisturbed (idle : m.Clear) : Undisturbed m m.sleep.2 := by
  rw [sleep]
  dsimp only
  split
  · exact .call _ ⟨rfl, rfl⟩ _ _ fun channel => iff_of_false nofun (idle channel)
  · exact .call _ ⟨rfl, rfl⟩ _ _

theorem powerOn_undisturbed (m : RadioMedium R ε) : Undisturbed m m.powerOn.2 := by
  have kept := m.keep_undisturbed true
  rw [powerOn]
  dsimp only
  split
  · exact kept
  · next idle => exact kept.trans (receive_undisturbed (clear_of_not idle))

theorem powerOff_undisturbed (m : RadioMedium R ε) (keepOn : Bool) :
    Undisturbed m (m.powerOff keepOn).2 := by
  have kept := m.keep_undisturbed false
  rw [powerOff]
  split
  · exact m.powerOn_undisturbed
  · dsimp only
    split
    · exact kept
    · next idle => exact kept.trans (sleep_undisturbed (clear_of_not idle))

theorem measureClear_undisturbed (m : RadioMedium R ε) : Undisturbed m m.measureClear.2 := by
  rw [measureClear]
  dsimp only
  split <;> exact .call _ ⟨rfl, rfl⟩ _ _

theorem channelClear_undisturbed (m : RadioMedium R ε) : Undisturbed m m.channelClear.2 := by
  rw [channelClear]
  split
  · exact .refl m
  · exact m.measureClear_undisturbed
  · next idle _ =>
    have received := receive_undisturbed (m := m) idle
    split
    · next k same =>
      rw [same] at received
      exact received.trans k.measureClear_undisturbed
    · next k same =>
      rw [same] at received
      exact received

theorem pollReceive_undisturbed (m : RadioMedium R ε) (room : Nat) :
    Undisturbed m (m.pollReceive room).2 := by
  rw [pollReceive]
  split
  · exact .refl m
  · dsimp only
    have checked : Undisturbed m
        { m with
          radio := (Transceiver.checkReceive m.radio true).2
          calls := .checkReceive true (Transceiver.checkReceive m.radio true).1 :: m.calls } :=
      .call _ ⟨rfl, rfl⟩ _ _
    split
    · exact checked
    · exact checked
    · split
      · exact checked.trans (.call _ ⟨rfl, rfl⟩ _ _)
      · exact checked.trans (.call _ ⟨rfl, rfl⟩ _ _)

/-- What becomes of a frame that the medium is given. -/
inductive Attempted (m : RadioMedium R ε) (channel : Channel) (bytes : List UInt8) :
    Except (RadioError ε) Unit × RadioMedium R ε → Prop where
  /-- A transmission goes on, and the radio is not asked. -/
  | busy {other : Channel} (mode : m.mode = .transmitting other) :
      Attempted m channel bytes (.error .busy,
        { m with attempts := ⟨channel, bytes, m.mode, .error .busy⟩ :: m.attempts })
  | failed (idle : m.Clear) (radio : R) (error : ε) :
      Attempted m channel bytes (.error (.device error),
        { m with
          radio
          calls := .startTransmit bytes (.error error) :: m.calls
          attempts := ⟨channel, bytes, m.mode, .error (.device error)⟩ :: m.attempts })
  | started (idle : m.Clear) (radio : R) :
      Attempted m channel bytes (.ok (),
        { m with
          radio
          mode := .transmitting channel
          calls := .startTransmit bytes (.ok ()) :: m.calls
          attempts := ⟨channel, bytes, m.mode, .ok ()⟩ :: m.attempts })

theorem transmit_attempted (m : RadioMedium R ε) (channel : Channel) (bytes : List UInt8) :
    Attempted m channel bytes (m.transmit channel bytes) := by
  by_cases busy : m.isTransmitting
  · have refused : m.transmit channel bytes = (.error .busy,
        { m with attempts := ⟨channel, bytes, m.mode, .error .busy⟩ :: m.attempts }) := by
      simp [transmit, begin, busy]
    unfold isTransmitting at busy
    split at busy
    · next mode =>
      rw [refused]
      exact .busy mode
    · cases busy
  · have idle := clear_of_not busy
    simp only [transmit, begin, busy, Bool.false_eq_true, if_false]
    cases asked : (Transceiver.startTransmit m.radio bytes).1 with
    | ok _ => exact .started idle _
    | error e => exact .failed idle _ e

/-- What a poll finds. -/
inductive Polled (m : RadioMedium R ε) :
    Option (Channel × Completion) × RadioMedium R ε → Prop where
  | nothing {k : RadioMedium R ε} (calm : Undisturbed m k) : Polled m (none, k)
  /-- The transmission is over, for the one reason or the other. -/
  | ended {channel : Channel} {completion : Completion} {k : RadioMedium R ε}
      (mode : m.mode = .transmitting channel) (call : RadioCall ε) (ends : call.ends)
      (found : call = .checkTransmit (.ok true) ∧ completion = .ok ∨
        ∃ error, call = .checkTransmit (.error error) ∧ completion = .failed)
      (radio : R)
      (calm : Undisturbed { m with radio, mode := .idle, calls := call :: m.calls } k) :
      Polled m (some (channel, completion), k)

theorem endTransmission_undisturbed (m : RadioMedium R ε) :
    Undisturbed { m with mode := .idle } m.endTransmission := by
  rw [endTransmission]
  dsimp only
  split
  · exact receive_undisturbed nofun
  · exact .refl _

theorem pollTransmit_polled (m : RadioMedium R ε) : Polled m m.pollTransmit := by
  rw [pollTransmit]
  split
  · next channel mode =>
    dsimp only
    generalize (Transceiver.checkTransmit m.radio).2 = radio
    cases asked : (Transceiver.checkTransmit m.radio).1 with
    | ok ended =>
      cases ended with
      | false => exact .nothing (.call _ ⟨rfl, rfl⟩ _ _)
      | true =>
        refine .ended mode _ rfl (.inl ⟨rfl, rfl⟩) radio ?_
        exact endTransmission_undisturbed
          { m with radio, calls := .checkTransmit (.ok true) :: m.calls }
    | error e =>
      refine .ended mode _ rfl (.inr ⟨e, rfl, rfl⟩) radio ?_
      exact endTransmission_undisturbed
        { m with radio, calls := .checkTransmit (.error e) :: m.calls }
  · exact .nothing (.refl m)

/-- A poll tells an end if and only if something is transmitted and the radio tells that it is
over. -/
theorem pollTransmit_eq_some_iff {channel : Channel} {completion : Completion} :
    m.pollTransmit.1 = some (channel, completion) ↔
      m.mode = .transmitting channel ∧
        Completion.ofCheck? (Transceiver.checkTransmit m.radio).1 = some completion := by
  rw [pollTransmit]
  split
  · next other mode =>
    dsimp only
    rw [mode]
    rcases (Transceiver.checkTransmit m.radio).1 with error | (_ | _) <;>
      simp [Completion.ofCheck?]
  · next idle =>
    exact iff_of_false nofun fun both => idle channel both.1

/-- An end that is told is the end of what was transmitted. -/
theorem pollTransmit_clear {found : Channel × Completion} (told : m.pollTransmit.1 = some found) :
    m.pollTransmit.2.Clear := by
  have polled := m.pollTransmit_polled
  generalize m.pollTransmit = out at polled told
  cases polled with
  | nothing calm => cases told
  | ended mode call ends found radio calm =>
    intro channel mode
    cases (calm.mode channel).mp mode

end RadioMedium

end SlottedMac
