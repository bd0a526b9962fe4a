import SlottedMac.Layout.Placement

/-!
# The windows of a valid layout

With a valid layout the phase of an offset, its remainder by the period, says
all there is to say: the owned slot is ahead, open or over as the phase lies
before, in or behind the usable part of the slot. Looking at the slot never
ends in a fault, and the search for the next slot passes exactly one period.

Usable parts of different slots are a guard apart from each other. That is all
that keeps nodes apart whose grids agree up to a guard.
-/

namespace SlottedMac.Layout

variable {l : Layout} {slot : UInt16}

/-- Phase at which a slot starts. -/
def opening (l : Layout) (slot : UInt16) : Nat := slot.toNat * l.slotLength.toNat

/-- Phase at which the usable part of a slot is over. -/
def closing (l : Layout) (slot : UInt16) : Nat :=
  l.opening slot + l.slotLength.toNat - l.guard.toNat

/-- Length of the usable part of a slot. -/
def span (l : Layout) : Nat := l.slotLength.toNat - l.guard.toNat

/-- Whether a transmission may start in the slot at this distance from the start
of the grid. -/
def Owns (l : Layout) (slot : UInt16) (offset : Nat) : Prop :=
  l.opening slot ≤ offset % l.period.toNat ∧ offset % l.period.toNat < l.closing slot

instance (l : Layout) (slot : UInt16) (offset : Nat) : Decidable (l.Owns slot offset) :=
  inferInstanceAs (Decidable (_ ∧ _))

/-- Whether grids that start this far apart agree, up to a guard. -/
def Tolerates (l : Layout) (shift : Nat) : Prop :=
  shift % l.period.toNat ≤ l.guard.toNat ∨ l.period.toNat ≤ shift % l.period.toNat + l.guard.toNat

instance (l : Layout) (shift : Nat) : Decidable (l.Tolerates shift) :=
  inferInstanceAs (Decidable (_ ∨ _))

/-- The window of a slot at an offset, told by its phase. -/
def windowAt (l : Layout) (slot : UInt16) (offset : Nat) : Window :=
  let phase := offset % l.period.toNat
  let start := offset - phase + l.opening slot
  if phase < l.opening slot then
    { phase := .early, start, wait := l.opening slot - phase }
  else if phase < l.closing slot then
    { phase := .inside, start, wait := 0 }
  else
    { phase := .late 1, start := start + l.period.toNat
      wait := l.opening slot + l.period.toNat - phase }

/-- Time from an offset to the next start of a slot, never zero. -/
def toOpening (l : Layout) (slot : UInt16) (offset : Nat) : Nat :=
  let phase := offset % l.period.toNat
  if phase < l.opening slot then l.opening slot - phase
  else l.opening slot + l.period.toNat - phase

section Phases

variable {offset : Nat}

theorem windowAt_of_early (early : offset % l.period.toNat < l.opening slot) :
    l.windowAt slot offset =
      { phase := .early, start := offset - offset % l.period.toNat + l.opening slot
        wait := l.opening slot - offset % l.period.toNat } := if_pos early

theorem windowAt_of_inside (inside : l.Owns slot offset) :
    l.windowAt slot offset =
      { phase := .inside, start := offset - offset % l.period.toNat + l.opening slot
        wait := 0 } := by
  rw [windowAt]
  rw [if_neg (Nat.not_lt.mpr inside.1), if_pos inside.2]

theorem windowAt_of_late (started : l.opening slot ≤ offset % l.period.toNat)
    (behind : l.closing slot ≤ offset % l.period.toNat) :
    l.windowAt slot offset =
      { phase := .late 1
        start := offset - offset % l.period.toNat + l.opening slot + l.period.toNat
        wait := l.opening slot + l.period.toNat - offset % l.period.toNat } := by
  rw [windowAt]
  rw [if_neg (Nat.not_lt.mpr started), if_neg (Nat.not_lt.mpr behind)]

/-- A phase is before, in or behind the usable part. -/
theorem phase_cases (l : Layout) (slot : UInt16) (offset : Nat) :
    offset % l.period.toNat < l.opening slot ∨ l.Owns slot offset ∨
      l.opening slot ≤ offset % l.period.toNat ∧ l.closing slot ≤ offset % l.period.toNat := by
  rw [Owns]
  omega

/-- A transmission may start exactly where the phase belongs to the slot. -/
theorem windowAt_inside_iff : (l.windowAt slot offset).phase = .inside ↔ l.Owns slot offset := by
  rcases phase_cases l slot offset with early | inside | ⟨started, behind⟩
  · simp [windowAt_of_early early, Owns, Nat.not_le.mpr early]
  · simp [windowAt_of_inside inside, inside]
  · simp [windowAt_of_late started behind, Owns, Nat.not_lt.mpr behind]

theorem toOpening_of_early (early : offset % l.period.toNat < l.opening slot) :
    l.toOpening slot offset = l.opening slot - offset % l.period.toNat := if_pos early

/-- Outside of the slot, the window considered is at the next start of the slot. -/
theorem windowAt_wait (outside : (l.windowAt slot offset).phase ≠ .inside) :
    (l.windowAt slot offset).wait = l.toOpening slot offset := by
  rcases phase_cases l slot offset with early | inside | ⟨started, behind⟩
  · rw [windowAt_of_early early, toOpening, if_pos early]
  · exact absurd (windowAt_inside_iff.mpr inside) outside
  · rw [windowAt_of_late started behind, toOpening, if_neg (Nat.not_lt.mpr started)]

theorem toOpening_of_started (started : l.opening slot ≤ offset % l.period.toNat) :
    l.toOpening slot offset = l.opening slot + l.period.toNat - offset % l.period.toNat :=
  if_neg (Nat.not_lt.mpr started)

end Phases

/-- Only the phase of an offset counts. -/
theorem owns_congr {a b : Nat} (same : a % l.period.toNat = b % l.period.toNat) :
    l.Owns slot a ↔ l.Owns slot b := by
  simp only [Owns, same]

/-- Whole periods later a window is as far away, and all of it later by them. -/
theorem windowAt_add_periods (l : Layout) (slot : UInt16) (offset k : Nat) :
    l.windowAt slot (offset + k * l.period.toNat) =
      { l.windowAt slot offset with
        start := (l.windowAt slot offset).start + k * l.period.toNat } := by
  have phase : (offset + k * l.period.toNat) % l.period.toNat = offset % l.period.toNat :=
    Nat.add_mul_mod_self_right ..
  have passed := Nat.mod_le offset l.period.toNat
  rcases phase_cases l slot offset with early | inside | ⟨started, behind⟩
  · rw [windowAt_of_early early, windowAt_of_early (phase ▸ early), phase]
    simp only [Window.mk.injEq, true_and, and_true]
    omega
  · rw [windowAt_of_inside inside, windowAt_of_inside ((owns_congr phase).mpr inside), phase]
    simp only [Window.mk.injEq, true_and, and_true]
    omega
  · rw [windowAt_of_late started behind, windowAt_of_late (phase ▸ started) (phase ▸ behind), phase]
    simp only [Window.mk.injEq, true_and, and_true]
    omega

theorem toOpening_add_periods (l : Layout) (slot : UInt16) (offset k : Nat) :
    l.toOpening slot (offset + k * l.period.toNat) = l.toOpening slot offset := by
  simp only [toOpening, Nat.add_mul_mod_self_right]

namespace Valid

theorem toNat_usable (h : l.Valid) :
    (l.slotLength - l.guard).toNat = l.slotLength.toNat - l.guard.toNat :=
  UInt32.toNat_sub_of_le _ _ (UInt32.le_iff_toNat_le.mpr (Nat.le_of_lt h.guard_lt))

/-- Every slot ends within its period. -/
theorem opening_add_le (h : l.Valid) (hs : slot.toNat < l.slotCount.toNat) :
    l.opening slot + l.slotLength.toNat ≤ l.period.toNat := by
  have slots : (slot.toNat + 1) * l.slotLength.toNat ≤ l.slotCount.toNat * l.slotLength.toNat :=
    Nat.mul_le_mul_right _ hs
  rw [Nat.succ_mul] at slots
  exact Nat.le_trans slots h.slots_le

theorem closing_eq (h : l.Valid) (slot : UInt16) : l.closing slot = l.opening slot + l.span :=
  Nat.add_sub_assoc (Nat.le_of_lt h.guard_lt) _

theorem closing_le (h : l.Valid) (hs : slot.toNat < l.slotCount.toNat) :
    l.closing slot ≤ l.period.toNat := by
  have := h.opening_add_le hs
  rw [closing]
  omega

theorem opening_lt_closing (h : l.Valid) : l.opening slot < l.closing slot := by
  have := h.guard_lt
  rw [closing]
  omega

theorem opening_lt (h : l.Valid) (hs : slot.toNat < l.slotCount.toNat) :
    l.opening slot < l.period.toNat :=
  Nat.lt_of_lt_of_le h.opening_lt_closing (h.closing_le hs)

/-- A slot starts within a period from any offset. -/
theorem toOpening_bounds (h : l.Valid) (hs : slot.toNat < l.slotCount.toNat) (offset : Nat) :
    0 < l.toOpening slot offset ∧ l.toOpening slot offset ≤ l.period.toNat := by
  have phase := Nat.mod_lt offset h.period_pos
  have starts := h.opening_lt hs
  rw [toOpening]
  split <;> omega

/-- After the time to the next start of the slot the slot starts. -/
theorem add_toOpening_mod (h : l.Valid) (hs : slot.toNat < l.slotCount.toNat) (offset : Nat) :
    (offset + l.toOpening slot offset) % l.period.toNat = l.opening slot := by
  have starts := h.opening_lt hs
  have phase := Nat.mod_lt offset h.period_pos
  have whole := Nat.div_add_mod offset l.period.toNat
  rw [toOpening]
  split
  · next early =>
    have sum : offset + (l.opening slot - offset % l.period.toNat) =
        l.opening slot + l.period.toNat * (offset / l.period.toNat) := by omega
    rw [sum, Nat.add_mul_mod_self_left, Nat.mod_eq_of_lt starts]
  · next started =>
    have sum : offset + (l.opening slot + l.period.toNat - offset % l.period.toNat) =
        l.opening slot + l.period.toNat * (offset / l.period.toNat + 1) := by
      rw [Nat.mul_add, Nat.mul_one]
      omega
    rw [sum, Nat.add_mul_mod_self_left, Nat.mod_eq_of_lt starts]

theorem toNat_toOpening (h : l.Valid) (hs : slot.toNat < l.slotCount.toNat) (offset : Nat) :
    (UInt32.ofNat (l.toOpening slot offset)).toNat = l.toOpening slot offset := by
  have bounds := h.toOpening_bounds hs offset
  have short := h.period_lt
  exact UInt32.toNat_ofNat_of_lt' (by simp only [UInt32.size]; omega)

/-- The slot does not start any sooner. -/
theorem toOpening_le (h : l.Valid) {offset d : Nat} (later : 0 < d)
    (starts : (offset + d) % l.period.toNat = l.opening slot) : l.toOpening slot offset ≤ d := by
  have phase := Nat.mod_lt offset h.period_pos
  have whole := Nat.div_add_mod offset l.period.toNat
  have split := Nat.div_add_mod (offset + d) l.period.toNat
  rw [starts] at split
  -- the start found lies in the period of the offset, or in a later one
  rcases Nat.lt_or_eq_of_le (Nat.div_le_div_right (c := l.period.toNat) (Nat.le_add_right offset d))
    with more | same
  · have := Nat.mul_le_mul_left l.period.toNat more
    rw [Nat.mul_succ] at this
    rw [toOpening]
    split <;> omega
  · rw [← same] at split
    rw [toOpening_of_early (by omega)]
    omega

/-- No window is further away than a period. -/
theorem windowAt_wait_le (h : l.Valid) (hs : slot.toNat < l.slotCount.toNat) (offset : Nat) :
    (l.windowAt slot offset).wait ≤ l.period.toNat := by
  have starts := h.opening_lt hs
  rcases phase_cases l slot offset with early | inside | ⟨started, behind⟩
  · rw [windowAt_of_early early]
    dsimp only
    omega
  · rw [windowAt_of_inside inside]
    exact Nat.zero_le _
  · rw [windowAt_of_late started behind]
    dsimp only
    omega

/-- No time belongs to two slots, not even on grids that are a guard apart: the
usable part of a slot is over that long before the next slot starts. -/
theorem slot_unique (h : l.Valid) {a b : UInt16} {offset shift : Nat}
    (slot_a : a.toNat < l.slotCount.toNat) (slot_b : b.toNat < l.slotCount.toNat)
    (tolerated : l.Tolerates shift) (owns_a : l.Owns a offset)
    (owns_b : l.Owns b (offset + shift)) : a = b := by
  have short := Nat.mod_lt offset h.period_pos
  have rest := Nat.mod_lt shift h.period_pos
  have phase : (offset + shift) % l.period.toNat =
      if offset % l.period.toNat + shift % l.period.toNat < l.period.toNat then
        offset % l.period.toNat + shift % l.period.toNat
      else offset % l.period.toNat + shift % l.period.toNat - l.period.toNat := by
    rw [Nat.add_mod]
    split
    · next within => exact Nat.mod_eq_of_lt within
    · next wraps =>
      rw [Nat.mod_eq_sub_mod (Nat.not_lt.mp wraps), Nat.mod_eq_of_lt (by omega)]
  have guard := h.guard_lt
  have ends_a := h.opening_add_le slot_a
  have ends_b := h.opening_add_le slot_b
  have next {x y : UInt16} (less : x.toNat < y.toNat) :
      l.opening x + l.slotLength.toNat ≤ l.opening y := by
    have := Nat.mul_le_mul_right l.slotLength.toNat less
    rwa [Nat.succ_mul] at this
  rw [Owns, phase] at owns_b
  rw [Owns] at owns_a
  rw [closing] at owns_a owns_b
  rw [Tolerates] at tolerated
  rcases Nat.lt_trichotomy a.toNat b.toNat with less | same | more
  · have := next less
    split at owns_b <;> omega
  · exact UInt16.toNat_inj.mp same
  · have := next more
    split at owns_b <;> omega

/-- The search for a slot finds the window that the phase tells of. No sum on the
way is beyond a word, since both the offset and the period are readings. -/
theorem window_eq (h : l.Valid) (hs : slot.toNat < l.slotCount.toNat) {offset : Nat}
    (near : offset < 0x100000000) : l.window slot offset = .ok (l.windowAt slot offset) := by
  have period := h.period_pos
  have limit := h.period_lt
  have ends := h.opening_add_le hs
  have guard := h.guard_lt
  have whole : offset / l.period.toNat * l.period.toNat + offset % l.period.toNat = offset :=
    Nat.div_add_mod' _ _
  have phase := Nat.mod_lt offset period
  have divides := Fault.quotient_of_ne (a := offset) (Nat.pos_iff_ne_zero.mp period)
  have begun := Fault.product_of_lt (a := offset / l.period.toNat) (b := l.period.toNat) (by omega)
  have ahead : Fault.product slot.toNat l.slotLength.toNat = .ok (l.opening slot) :=
    Fault.product_of_lt (by unfold opening at ends; omega)
  have start := Fault.sum_of_lt (a := offset / l.period.toNat * l.period.toNat)
    (b := l.opening slot) (by omega)
  have close := Fault.sum_of_lt (b := l.slotLength.toNat - l.guard.toNat)
    (a := offset / l.period.toNat * l.period.toNat + l.opening slot) (by omega)
  simp only [window, divides, begun, ahead, start, close, h.usable_eq, h.toNat_usable, bind,
    Except.bind, pure, Except.pure]
  rcases phase_cases l slot offset with early | inside | ⟨started, behind⟩
  · rw [windowAt_of_early early, if_pos (by omega), Fault.difference_nat (by omega)]
    simp only [Except.ok.injEq, Window.mk.injEq, true_and]
    omega
  · rw [windowAt_of_inside inside]
    unfold Owns closing at inside
    rw [if_neg (by omega), if_pos (by omega)]
    simp only [Except.ok.injEq, Window.mk.injEq, true_and, and_true]
    omega
  · rw [windowAt_of_late started behind]
    unfold closing at behind
    rw [if_neg (by omega), if_neg (by omega), Fault.difference_nat (by omega)]
    dsimp only
    rw [mostMoves_eq period (by omega)]
    dsimp only
    -- the usable part is over and the next one is not, so one move passes it
    rw [skip_once (by omega) (by omega) (by omega)]
    dsimp only
    rw [Fault.difference_nat (by omega)]
    simp only [Except.ok.injEq, Window.mk.injEq, true_and]
    omega

theorem place_eq (h : l.Valid) (hs : slot.toNat < l.slotCount.toNat) (origin now : Ticks) :
    l.place slot origin now =
      .ok ((l.windowAt slot (now.since origin).toNat).place origin) := by
  simp only [place, h.window_eq hs (now.since origin).toNat_lt, bind, Except.bind, pure,
    Except.pure]

/-- Inside the slot, the distance from its start is the part of it that has
passed. -/
theorem toNat_since_slotStart {origin now : Ticks} (inside : l.Owns slot (now.since origin).toNat) :
    (now.since ((l.windowAt slot (now.since origin).toNat).place origin).slotStart).toNat =
      (now.since origin).toNat % l.period.toNat - l.opening slot := by
  have phase := Nat.mod_le (now.since origin).toNat l.period.toNat
  have started := inside.1
  simp only [windowAt_of_inside inside, Window.place]
  rw [Ticks.toNat_since_add (by omega)]
  omega

/-- The alarm for the next start of the slot can always be asked for. -/
theorem untilNext_eq (h : l.Valid) (hs : slot.toNat < l.slotCount.toNat) (origin now : Ticks) :
    l.untilNext slot origin now =
      .ok (UInt32.ofNat (l.toOpening slot (now.since origin).toNat)) := by
  have limit := h.period_lt
  simp only [untilNext, h.place_eq hs, bind, Except.bind]
  rcases phase_cases l slot (now.since origin).toNat with early | inside | ⟨started, behind⟩
  · rw [toOpening_of_early early, windowAt_of_early early]
    rfl
  · have passed := toNat_since_slotStart inside
    have ends := h.closing_le hs
    have started := inside.1
    have open_now := inside.2
    rw [toOpening_of_started started]
    rw [show ((l.windowAt slot (now.since origin).toNat).place origin).phase = .inside from
      windowAt_inside_iff.mpr inside]
    dsimp only
    rw [Fault.difference_of_le (by rw [UInt32.le_iff_toNat_le, passed]; omega)]
    apply congrArg
    apply UInt32.toNat_inj.mp
    rw [UInt32.toNat_sub_of_le _ _ (by rw [UInt32.le_iff_toNat_le, passed]; omega), passed,
      UInt32.toNat_ofNat_of_lt' (by simp only [UInt32.size]; omega)]
    omega
  · rw [toOpening_of_started started, windowAt_of_late started behind]
    rfl

end Valid

end SlottedMac.Layout
