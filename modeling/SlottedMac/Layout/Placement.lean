import SlottedMac.Layout

/-!
# Where a reading lies against the owned slot

Offsets are counted from the start of the period grid, in natural numbers, so
that no sum wraps. The owned slot of the current period is either still to
come, open now, or over; when it is over the answer looks ahead to the first
slot that is not. Only the finished answer is turned back into counter words,
relative to a grid start that may itself be close to the wrap.
-/

namespace SlottedMac

/-- Position of a reading relative to the owned slot. -/
inductive Phase where
  /-- Before the slot of the current period. -/
  | early
  /-- In the usable part of the slot. -/
  | inside
  /-- Past the usable part; the slot considered is that many periods on. -/
  | late (periods : Nat)
deriving DecidableEq, Repr

/-- The slot considered at an offset from the grid start, exactly. -/
structure Window where
  phase : Phase
  /-- Offset at which the slot starts. -/
  start : Nat
  /-- Distance from the offset to the slot start, zero inside the slot. -/
  wait : Nat
deriving DecidableEq, Repr

/-- The slot considered at a reading, in counter words. -/
structure Placement where
  phase : Phase
  /-- Reading at which the slot starts. -/
  slotStart : Ticks
  /-- Distance from the reading to the slot start, zero inside the slot. -/
  wait : Ticks
deriving DecidableEq, Repr

/-- The window in counter words, for a grid that starts at `origin`. Only an
invalid layout has distances that do not fit into a word. -/
def Window.place (w : Window) (origin : Ticks) : Placement where
  phase := w.phase
  slotStart := origin + UInt32.ofNat w.start
  wait := UInt32.ofNat w.wait

namespace Placement

/-- Whether a transmission may start now. -/
def isInside (p : Placement) : Bool := p.phase == .inside

theorem isInside_iff {p : Placement} : p.isInside = true ↔ p.phase = .inside := by
  simp [isInside]

end Placement

namespace Layout

/-- Move a slot start on by whole periods while its usable part is over, at
most `bound` times. The answer is the new start and the number of moves. -/
def skip (period usable offset : Nat) (bound start : Nat) : Except Fault (Nat × Nat) := do
  let close ← Fault.sum start usable
  if offset < close then
    return (start, 0)
  match bound with
  | 0 => return (start, 0)
  | bound + 1 =>
    let next ← Fault.sum start period
    let (start, periods) ← skip period usable offset bound next
    let periods ← Fault.sum periods 1
    return (start, periods)

/-- Moves that are enough for a search that begins `past` behind a slot start. -/
def mostMoves (period past : Nat) : Except Fault Nat := do
  let padded ← Fault.sum past period
  let rounded ← Fault.difference padded 1
  let whole ← Fault.quotient rounded period
  Fault.sum whole 1

/-- The window of slot number `slot` at an offset from the grid start. -/
def window (l : Layout) (slot : UInt16) (offset : Nat) : Except Fault Window := do
  let period := l.period.toNat
  let completed ← Fault.quotient offset period
  let begun ← Fault.product completed period
  let ahead ← Fault.product slot.toNat l.slotLength.toNat
  let usable ← l.usable
  let usable := usable.toNat
  let start ← Fault.sum begun ahead
  if offset < start then
    let wait ← Fault.difference start offset
    return { phase := .early, start, wait }
  let close ← Fault.sum start usable
  if offset < close then
    return { phase := .inside, start, wait := 0 }
  let past ← Fault.difference offset start
  let bound ← mostMoves period past
  let (start, periods) ← skip period usable offset bound start
  let wait ← Fault.difference start offset
  return { phase := .late periods, start, wait }

/-- The window of slot number `slot` at the reading `now`, for a grid that
starts at the reading `origin`. -/
def place (l : Layout) (slot : UInt16) (origin now : Ticks) : Except Fault Placement := do
  let window ← l.window slot (now.since origin).toNat
  return window.place origin

/-- Time from `now` to the next start of the owned slot. Inside the slot this
is its start one period on, so that a timer armed for it ticks once a period. -/
def untilNext (l : Layout) (slot : UInt16) (origin now : Ticks) : Except Fault Ticks := do
  let placement ← l.place slot origin now
  match placement.phase with
  | .inside => Fault.difference l.period (now.since placement.slotStart)
  | _ => return placement.wait

/-- A usable part that is not over is where the search ends. -/
theorem skip_of_lt {period usable offset start : Nat} (h : offset < start + usable)
    (word : start + usable < 0x10000000000000000) (bound : Nat) :
    skip period usable offset bound start = .ok (start, 0) := by
  rw [skip.eq_def, Fault.sum_of_lt word]
  exact if_pos h

/-- A usable part that is over, with the next one still ahead, is passed by one
move. -/
theorem skip_once {period usable offset start bound : Nat} (past : start + usable ≤ offset)
    (next : offset < start + period + usable) (word : start + period + usable < 0x10000000000000000) :
    skip period usable offset (bound + 1) start = .ok (start + period, 1) := by
  rw [skip, Fault.sum_of_lt (by omega)]
  simp only [bind, Except.bind]
  rw [if_neg (Nat.not_lt.mpr past), Fault.sum_of_lt (by omega)]
  simp only [skip_of_lt next word]
  rfl

/-- At least one move is granted. -/
theorem mostMoves_eq {period past : Nat} (positive : 0 < period) (word : past + period < 0x10000000000000000) :
    mostMoves period past = .ok ((past + period - 1) / period + 1) := by
  have rounded := Nat.div_le_self (past + period - 1) period
  have whole := Fault.quotient_of_ne (a := past + period - 1) (Nat.pos_iff_ne_zero.mp positive)
  have least : 1 ≤ past + period := by omega
  simp only [mostMoves, Fault.sum_of_lt word, Fault.difference_nat least, whole, bind,
    Except.bind]
  exact Fault.sum_of_lt (by omega)

end Layout

end SlottedMac
