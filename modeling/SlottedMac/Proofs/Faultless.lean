import SlottedMac.Proofs.Course

/-!
# No fault is ever reached

A node is set up with sound settings or not at all, and a node that is set up
stands everything: no quotient or remainder by zero, no difference below zero,
no sum or product beyond a word, no byte written or read outside of a buffer,
and no delay that is cut where it is turned back into a counter word.

Nothing is asked of the readings. The clock of the host may stand still, jump
back and wrap, and its two counters need not agree on what time is. Of the
coarse one a node only takes distances to readings that it kept, so a coarse
counter that goes its own way is one against which these have moved.
-/

namespace SlottedMac

/-- The settings that `check` accepts, field by field over unbounded numbers. -/
theorem Config.valid_iff {c : Config} :
    c.Valid ↔
      1 ≤ c.layout.slotCount.toNat ∧ 1 ≤ c.layout.slotLength.toNat ∧
      c.layout.guard.toNat < c.layout.slotLength.toNat ∧
      c.layout.slotCount.toNat * c.layout.slotLength.toNat ≤ c.layout.period.toNat ∧
      c.layout.period.toNat < 2 ^ 31 ∧
      (c.role ≠ .beaconless → 0 < c.beaconInterval.toNat) ∧
      (c.mode = .zmac → 0 < c.backoffBound.toNat) := by
  have positive (t : Ticks) : 0 < t.toNat ↔ t ≠ 0 := by
    rw [Nat.pos_iff_ne_zero, ne_eq, ne_eq, not_congr]
    exact UInt32.toNat_inj (b := 0)
  simp only [positive]
  constructor
  · rintro ⟨⟨count, guard, slots, period⟩, interval, backoff⟩
    exact ⟨count, Nat.zero_lt_of_lt guard, guard, slots, period, interval, backoff⟩
  · rintro ⟨count, -, guard, slots, period, interval, backoff⟩
    exact ⟨⟨count, guard, slots, period⟩, interval, backoff⟩

/-- What a node keeps of the readings of its coarse counter. -/
structure CoarseMemory where
  /-- Reading at the last beacon. -/
  lastSync : Ticks
  /-- Intended time of the last own beacon. -/
  last : Option Ticks
  /-- Intended time of the next one. -/
  next : Ticks

/-- A stimulus, or a slip of one counter against the other. -/
inductive Moment (M : Type) where
  | stimulus (stimulus : Stimulus M)
  /-- The coarse counter goes its own way. -/
  | slip (memory : CoarseMemory)

namespace Node

variable {M ε : Type}

/-- The node with the coarse counter at another distance to what was kept of it. -/
def slipped (n : Node M) (memory : CoarseMemory) : Node M :=
  { n with
    time.lastSync := memory.lastSync
    cadence.last := memory.last
    cadence.next := memory.next }

/-- The computations of a node, at readings that need have nothing to do with the
state of the node. -/
structure Faultless (n : Node M) : Prop where
  usable : ∃ usable, n.config.layout.usable = .ok usable
  /-- The slot is found, and the delay to it fits into a counter word. -/
  place : ∀ origin now : Ticks, ∃ w,
    n.config.layout.window n.slot (now.since origin).toNat = .ok w ∧
      n.config.layout.place n.slot origin now = .ok (w.place origin) ∧
      (w.place origin).wait.toNat = w.wait
  untilNext : ∀ origin now, ∃ delay, n.config.layout.untilNext n.slot origin now = .ok delay
  catchUp : ∀ (time : TimeBase) now, ∃ later, time.catchUp now n.config.layout.period = .ok later
  advance : n.config.role ≠ .beaconless → ∀ next now, ∃ out,
    { n.cadence with next }.advance now = .ok out
  backoff : n.config.mode = .zmac → ∀ words : WordSource,
    (words.backoff n.config.backoffBound).1 < n.config.backoffBound
  /-- Every frame is written in full, and read back from the buffer. -/
  write : ∀ frame : Frame, ∃ written,
    frame.write n.buffer = .ok (written, frame.bytes.length) ∧
      Fault.front written frame.bytes.length = .ok frame.bytes

section Medium

variable [Medium M ε] {n : Node M}

/-- Meet with what the next moment brings. -/
def meet (n : Node M) : Moment M → Except Fault (Node M)
  | .stimulus stimulus => return (← n.undergo stimulus).2
  | .slip memory => .ok (n.slipped memory)

/-- Set a node up and let moments pass. -/
def existence (address : Address) (config : Config) (medium : M) (alarms : AlarmClock)
    (words : WordSource) (moments : List (Moment M)) :
    Except Fault (Except (NodeError ε) (Node M)) := do
  match ← create address config medium alarms words with
  | .error e => return .error e
  | .ok n => return .ok (← moments.foldlM meet n)

/-- No delay to a slot is longer than a period, and that is a counter word. -/
theorem Sound.toNat_wait (sound : n.Sound) (origin : Ticks) (offset : Nat) :
    ((n.config.layout.windowAt n.slot offset).place origin).wait.toNat =
      (n.config.layout.windowAt n.slot offset).wait := by
  have near := sound.valid.layout.windowAt_wait_le sound.slot_lt offset
  have limit := sound.valid.layout.period_lt
  apply UInt32.toNat_ofNat_of_lt'
  rw [UInt32.size]
  omega

theorem Sound.faultless (sound : n.Sound) : n.Faultless where
  usable := ⟨_, sound.valid.layout.usable_eq⟩
  place origin now :=
    ⟨_, sound.valid.layout.window_eq sound.slot_lt (now.since origin).toNat_lt,
      sound.valid.layout.place_eq sound.slot_lt origin now, sound.toNat_wait origin _⟩
  untilNext origin now := ⟨_, sound.valid.layout.untilNext_eq sound.slot_lt origin now⟩
  catchUp time now := ⟨_, TimeBase.catchUp_eq sound.period_ne time now⟩
  advance beacons next now := by
    have interval := sound.valid.beaconInterval_ne beacons
    rw [← sound.interval] at interval
    obtain ⟨skipped, -, advanced⟩ :=
      Cadence.advance_eq_ok (c := { n.cadence with next }) interval now
    exact ⟨_, advanced⟩
  backoff steals words := words.backoff_lt (sound.valid.backoffBound_ne steals)
  write frame := by
    have room : frame.bytes.length ≤ n.buffer.length := by
      rw [sound.room]
      exact frame.length_bytes_le
    refine ⟨_, Frame.write_of_le room, ?_⟩
    rw [Fault.front_of_le (by simp)]
    simp

/-- A node in order that is the one set up with this address and these settings. -/
structure Remains (address : Address) (config : Config) (n : Node M) : Prop where
  sound : n.Sound
  settings : n.config = config
  slot : config.layout.slotOf address = .ok n.slot

theorem meet_remains {address : Address} {config : Config} (h : n.Remains address config)
    (moment : Moment M) : Yields (n.meet moment) (Remains address config) := by
  cases moment with
  | stimulus stimulus =>
    apply ((undergo_sound h.sound stimulus).and (undergo_settings h.sound stimulus)).bind
    rintro out ⟨sound, same, slot⟩
    exact Yields.pure_iff.mpr ⟨sound, same.trans h.settings, slot ▸ h.slot⟩
  | slip memory =>
    have sound : (n.slipped memory).Sound :=
      ⟨h.sound.valid, h.sound.slot_lt, h.sound.interval, h.sound.room⟩
    exact Yields.ok_iff.mpr ⟨sound, h.settings, h.slot⟩

end Medium

end Node

open Node

/-- Whatever the settings and whatever happens, there is an outcome and not a fault.
The outcome is a node exactly with settings that are sound over unbounded numbers.
It has these settings still, and the slot that its address gives, and none of its
computations can reach a fault at any readings. -/
theorem never_faults {M ε : Type} [Medium M ε] (address : Address) (config : Config) (medium : M)
    (alarms : AlarmClock) (words : WordSource) (moments : List (Moment M)) :
    ∃ outcome, existence address config medium alarms words moments = .ok outcome ∧
      ((∃ n, outcome = .ok n) ↔
        1 ≤ config.layout.slotCount.toNat ∧ 1 ≤ config.layout.slotLength.toNat ∧
        config.layout.guard.toNat < config.layout.slotLength.toNat ∧
        config.layout.slotCount.toNat * config.layout.slotLength.toNat ≤
          config.layout.period.toNat ∧
        config.layout.period.toNat < 2 ^ 31 ∧
        (config.role ≠ .beaconless → 0 < config.beaconInterval.toNat) ∧
        (config.mode = .zmac → 0 < config.backoffBound.toNat)) ∧
      ∀ n, outcome = .ok n →
        n.config = config ∧ config.layout.slotOf address = .ok n.slot ∧ n.Faultless := by
  rw [← Config.valid_iff]
  by_cases valid : config.Valid
  · have start : (fresh address config medium alarms words).Remains address config :=
      ⟨fresh_sound valid address medium alarms words, rfl, valid.layout.slotOf_eq address⟩
    obtain ⟨n, done, remains⟩ : Yields
        (moments.foldlM meet (fresh address config medium alarms words)) (Remains address config) :=
      Yields.foldlM start fun _ moment _ remains => meet_remains remains moment
    refine ⟨.ok n, ?_, iff_of_true ⟨n, rfl⟩ valid, ?_⟩
    · simp only [existence, create_of_valid valid, bind, Except.bind, pure, Except.pure]
      rw [done]
    · intro m same
      cases same
      exact ⟨remains.settings, remains.slot, remains.sound.faultless⟩
  · cases checked : config.check with
    | ok _ => exact absurd (Config.check_eq_ok_iff.mp checked) valid
    | error e =>
      refine ⟨.error (.config e), ?_, iff_of_false ?_ valid, ?_⟩
      · simp [existence, create, checked, bind, Except.bind, pure, Except.pure]
      · rintro ⟨n, made⟩
        cases made
      · intro n made
        cases made

end SlottedMac
