import SlottedMac.Clock
import SlottedMac.Frame.Header

/-!
# The layout of a period

Time is cut into periods of equal length, and the front of each period into
slots of equal length. The tail of each slot is a guard in which nobody starts
to send, so that clocks may disagree by that much. A period may be longer than
its slots together; the slack at its end belongs to nobody.

A layout is plain data and may be wrong. `check` says what is wrong with it,
and its first complaint wins.
-/

namespace SlottedMac

/-- What is wrong with a configuration. -/
inductive ConfigError where
  /-- There is no slot. -/
  | noSlots
  /-- The slots are empty. -/
  | emptySlot
  /-- The guard leaves nothing of a slot. -/
  | guardTooLong
  /-- The slots are longer than the period. -/
  | slotsExceedPeriod
  /-- The period is not shorter than half the clock range. -/
  | periodTooLong
  /-- Beacons are in use and follow each other without a pause. -/
  | noBeaconInterval
  /-- Slots may be stolen, but there is no backoff to draw. -/
  | noBackoff
deriving DecidableEq, Repr

/-- The division of a period into slots, in microseconds. -/
structure Layout where
  /-- Slots in each period. -/
  slotCount : UInt16
  /-- Length of one slot, guard included. -/
  slotLength : Ticks
  /-- Unusable tail of each slot. -/
  guard : Ticks
  /-- Length of the period. -/
  period : Ticks
deriving DecidableEq, Repr

namespace Layout

/-- Slots that share a period evenly, each with the given guard. -/
def even (slotCount : UInt16) (period guard : Ticks) : Layout where
  slotCount
  slotLength := period / slotCount.toUInt32
  guard
  period

/-- Six slots in a second, with a guard of a tenth of a slot. -/
def standard : Layout := even 6 1000000 16666

/-- Accept a layout whose slots are usable, fit into the period, and whose
period keeps two readings of it less than half the clock range apart. -/
def check (l : Layout) : Except ConfigError Unit := do
  if l.slotCount = 0 then throw .noSlots
  if l.slotLength = 0 then throw .emptySlot
  if l.slotLength ≤ l.guard then throw .guardTooLong
  if l.period.toNat < l.slotCount.toNat * l.slotLength.toNat then throw .slotsExceedPeriod
  if Ticks.halfRange ≤ l.period then throw .periodTooLong

/-- What `check` asks of a layout, over unbounded numbers. -/
structure Valid (l : Layout) : Prop where
  slotCount_pos : 0 < l.slotCount.toNat
  guard_lt : l.guard.toNat < l.slotLength.toNat
  slots_le : l.slotCount.toNat * l.slotLength.toNat ≤ l.period.toNat
  period_lt : l.period.toNat < 0x80000000

/-- The part of a slot in which a transmission may start. -/
def usable (l : Layout) : Except Fault Ticks := Fault.difference l.slotLength l.guard

/-- The slot that a node of this address owns. -/
def slotOf (l : Layout) (address : Address) : Except Fault UInt16 :=
  Fault.remainder address l.slotCount

/-- A period without slots has slots without length. -/
@[simp] theorem even_slotLength_zero (period guard : Ticks) :
    (even 0 period guard).slotLength = 0 := by
  simp [even]

theorem check_eq_ok_iff {l : Layout} : l.check = .ok () ↔ l.Valid := by
  have words : l.slotCount = 0 ↔ l.slotCount.toNat = 0 := UInt16.toNat_inj.symm
  have length : l.slotLength = 0 ↔ l.slotLength.toNat = 0 := UInt32.toNat_inj.symm
  have half : Ticks.halfRange.toNat = 0x80000000 := rfl
  rw [check]
  simp only [words, length, UInt32.le_iff_toNat_le, half]
  constructor
  · intro accepted
    repeat (split at accepted; · cases accepted)
    exact ⟨by omega, by omega, by omega, by omega⟩
  · rintro ⟨count, guard, slots, period⟩
    repeat rw [if_neg (by omega)]
    rfl

theorem Valid.slotLength_pos {l : Layout} (h : l.Valid) : 0 < l.slotLength.toNat :=
  Nat.zero_lt_of_lt h.guard_lt

/-- A valid period holds at least one slot. -/
theorem Valid.slotLength_le {l : Layout} (h : l.Valid) :
    l.slotLength.toNat ≤ l.period.toNat :=
  Nat.le_trans (Nat.le_mul_of_pos_left _ h.slotCount_pos) h.slots_le

theorem Valid.period_pos {l : Layout} (h : l.Valid) : 0 < l.period.toNat :=
  Nat.lt_of_lt_of_le h.slotLength_pos h.slotLength_le

theorem Valid.usable_eq {l : Layout} (h : l.Valid) :
    l.usable = .ok (l.slotLength - l.guard) :=
  Fault.difference_of_le (UInt32.le_iff_toNat_le.mpr (Nat.le_of_lt h.guard_lt))

theorem Valid.slotOf_eq {l : Layout} (h : l.Valid) (address : Address) :
    l.slotOf address = .ok (address % l.slotCount) := by
  apply Fault.remainder_of_ne
  intro none
  have := h.slotCount_pos
  simp [none] at this

end Layout

end SlottedMac
