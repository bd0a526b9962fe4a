import SlottedMac.Clock
import SlottedMac.Fault

/-!
# The cadence of beacons

A coordinator intends to send a beacon at fixed distances from its start. Each
firing is charged to the latest intended time that has come, however late it
is, and the next beacon is intended one interval after that. Lateness thus
never adds up; intervals that passed without a firing are reported as skipped.
-/

namespace SlottedMac

/-- The intended beacon times of a coordinator, in milliseconds. -/
structure Cadence where
  /-- Intended time of the last beacon since the start. -/
  last : Option Ticks := none
  /-- Intended time of the next beacon. -/
  next : Ticks := 0
  interval : Ticks
  /-- Time from the start to the first beacon. -/
  initialDelay : Ticks
deriving DecidableEq, Repr

/-- The answer to a firing. -/
structure Cadence.Beat where
  /-- Time until the next beacon. -/
  wait : Ticks
  /-- Whole intervals that passed without a firing. -/
  skipped : UInt32
deriving DecidableEq, Repr

namespace Cadence

/-- Begin anew: the first beacon is intended after the initial delay, which is
also the answer. -/
def start (c : Cadence) (now : Ticks) : Cadence × Ticks :=
  ({ c with last := none, next := now + c.initialDelay }, c.initialDelay)

/-- Whole intervals from the intended time to a firing, none if it is early. -/
def skipped (c : Cadence) (now : Ticks) : Except Fault UInt32 :=
  if now.reached c.next then Fault.quotient (now.since c.next) c.interval else .ok 0

/-- Take note of a firing and intend the next beacon. -/
def advance (c : Cadence) (now : Ticks) : Except Fault (Cadence × Beat) := do
  let skipped ← c.skipped now
  let intended := c.next + skipped * c.interval
  let next := intended + c.interval
  return ({ c with last := some intended, next }, { wait := next.since now, skipped })

@[simp] theorem start_interval (c : Cadence) (now : Ticks) :
    (c.start now).1.interval = c.interval := rfl

@[simp] theorem start_next (c : Cadence) (now : Ticks) :
    (c.start now).1.next = now + c.initialDelay := rfl

theorem skipped_of_early {c : Cadence} {now : Ticks} (h : now.reached c.next = false) :
    c.skipped now = .ok 0 := by
  simp [skipped, h]

theorem skipped_of_reached {c : Cadence} {now : Ticks} (h : now.reached c.next = true)
    (hi : c.interval ≠ 0) : c.skipped now = .ok (now.since c.next / c.interval) := by
  simp [skipped, h, Fault.quotient_of_ne hi]

/-- What a firing does, if it does not fail. -/
theorem advance_cases {c next : Cadence} {beat : Beat} {now : Ticks}
    (h : c.advance now = .ok (next, beat)) :
    ∃ skipped, c.skipped now = .ok skipped ∧
      next =
        { c with
          last := some (c.next + skipped * c.interval)
          next := c.next + skipped * c.interval + c.interval } ∧
      beat = { wait := Ticks.since (c.next + skipped * c.interval + c.interval) now, skipped } := by
  rw [advance] at h
  cases known : c.skipped now with
  | error fault => simp [known, bind, Except.bind] at h
  | ok skipped =>
    simp only [known, bind, Except.bind, pure, Except.pure, Except.ok.injEq, Prod.mk.injEq] at h
    exact ⟨skipped, rfl, h.1.symm, h.2.symm⟩

/-- A positive interval never lets a firing fail. -/
theorem advance_eq_ok {c : Cadence} (hi : c.interval ≠ 0) (now : Ticks) :
    ∃ skipped, c.skipped now = .ok skipped ∧
      c.advance now = .ok
        ({ c with
            last := some (c.next + skipped * c.interval)
            next := c.next + skipped * c.interval + c.interval },
          { wait := Ticks.since (c.next + skipped * c.interval + c.interval) now, skipped }) := by
  have known : ∃ skipped, c.skipped now = .ok skipped := by
    cases reached : now.reached c.next
    · exact ⟨0, skipped_of_early reached⟩
    · exact ⟨_, skipped_of_reached reached hi⟩
  obtain ⟨skipped, h⟩ := known
  exact ⟨skipped, h, by simp [advance, h, bind, Except.bind, pure, Except.pure]⟩

theorem exists_advance {c : Cadence} (hi : c.interval ≠ 0) (now : Ticks) :
    ∃ d beat, c.advance now = .ok (d, beat) := by
  obtain ⟨_, -, advanced⟩ := advance_eq_ok hi now
  exact ⟨_, _, advanced⟩

/-- A firing at the intended time skips nothing and waits for one interval. -/
theorem advance_on_time {c : Cadence} (hi : c.interval ≠ 0) :
    c.advance c.next =
      .ok ({ c with last := some c.next, next := c.next + c.interval },
        { wait := c.interval, skipped := 0 }) := by
  have reached : Ticks.reached c.next c.next = true := by simp [Ticks.reached, Ticks.halfRange]
  have none : c.skipped c.next = .ok 0 := by
    rw [skipped_of_reached reached hi, Ticks.since_self]
    exact congrArg _ (UInt32.zero_div ..)
  simp [advance, none, bind, Except.bind, pure, Except.pure]

end Cadence

end SlottedMac
