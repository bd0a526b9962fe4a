import Mathlib.Order.Bounds.Defs
import SlottedMac.Proofs.Grid

/-!
# Slots, exactly

The phase of a reading, which is the remainder of its distance from the start of
the grid, tells exactly where the reading lies against a slot and how far the next
start of the slot is. The search for that start makes one move at most and never
needs the bound that it is given. A node that brings its grid up to date and waits
for just that long finds itself at the very start of its slot, wherever the counter
wrapped and whether or not the grid has to be moved on again.

Usable parts of different slots lie more than a guard apart, and those of adjacent
slots no further apart than that. So the guard is just the disagreement of grids
that a layout bears.
-/

namespace SlottedMac

namespace Ticks

/-- A distance grows with its later end until it fills the range. -/
theorem toNat_since_later {now mark wait : Ticks}
    (near : (now.since mark).toNat + wait.toNat < 2 ^ 32) :
    (Ticks.since (now + wait) mark).toNat = (now.since mark).toNat + wait.toNat := by
  have split : Ticks.since (now + wait) mark = now.since mark + wait := by
    simp only [since]
    grind
  rw [split, UInt32.toNat_add, Nat.mod_eq_of_lt near]

end Ticks

/-- What the slot computation finds at a reading is exactly what the phase tells. -/
structure Placement.Exact (p : Placement) (l : Layout) (slot : UInt16) (origin now : Ticks) :
    Prop where
  early : p.phase = .early ↔ (now.since origin).toNat % l.period.toNat < l.opening slot
  inside : p.phase = .inside ↔
    l.opening slot ≤ (now.since origin).toNat % l.period.toNat ∧
      (now.since origin).toNat % l.period.toNat < l.opening slot + l.span
  late : p.phase = .late 1 ↔
    l.opening slot + l.span ≤ (now.since origin).toNat % l.period.toNat
  wait_eq_zero : p.wait = 0 ↔ p.phase = .inside
  wait_least : p.phase ≠ .inside →
    IsLeast {d | 1 ≤ d ∧ ((now.since origin).toNat + d) % l.period.toNat = l.opening slot}
      p.wait.toNat
  wait_lt : p.wait.toNat < l.period.toNat
  slotStart_ahead : p.phase ≠ .inside → p.slotStart = now + p.wait
  slotStart_behind : p.phase = .inside →
    p.slotStart =
      now - UInt32.ofNat ((now.since origin).toNat % l.period.toNat - l.opening slot)

namespace Layout

variable {l : Layout} {slot : UInt16}

/-- Inside of the usable part, the slot started as long ago as the phase is past its opening. -/
theorem place_inside {origin now : Ticks} (inside : l.Owns slot (now.since origin).toNat) :
    (l.windowAt slot (now.since origin).toNat).place origin =
      { phase := .inside
        slotStart :=
          now - UInt32.ofNat ((now.since origin).toNat % l.period.toNat - l.opening slot)
        wait := 0 } := by
  have ago := Valid.toNat_since_slotStart inside
  have back (mark : Ticks) : mark = now - now.since mark := by
    simp only [Ticks.since]
    grind
  rw [← ago, UInt32.ofNat_toNat, ← back, windowAt_of_inside inside]
  rfl

namespace Valid

/-- The time to the next start of a slot is the least after which the slot starts. -/
theorem toOpening_isLeast (h : l.Valid) (hs : slot.toNat < l.slotCount.toNat) (offset : Nat) :
    IsLeast {d | 1 ≤ d ∧ (offset + d) % l.period.toNat = l.opening slot}
      (l.toOpening slot offset) :=
  ⟨⟨(h.toOpening_bounds hs offset).1, h.add_toOpening_mod hs offset⟩,
    fun _ starts => h.toOpening_le starts.1 starts.2⟩

/-- Outside of the usable part the next start of the slot is less than a period away. -/
theorem toOpening_lt (h : l.Valid) (hs : slot.toNat < l.slotCount.toNat) {offset : Nat}
    (outside : ¬ l.Owns slot offset) : l.toOpening slot offset < l.period.toNat := by
  have starts := h.opening_lt hs
  have closes : l.opening slot < l.closing slot := h.opening_lt_closing
  rcases phase_cases l slot offset with early | inside | ⟨started, behind⟩
  · rw [toOpening_of_early early]
    omega
  · exact absurd inside outside
  · rw [toOpening_of_started started]
    omega

/-- The window considered is exactly what the phase tells. -/
theorem windowAt_phase (h : l.Valid) (slot : UInt16) (offset : Nat) :
    ((l.windowAt slot offset).phase = .early ↔ offset % l.period.toNat < l.opening slot) ∧
      ((l.windowAt slot offset).phase = .inside ↔
        l.opening slot ≤ offset % l.period.toNat ∧
          offset % l.period.toNat < l.opening slot + l.span) ∧
      ((l.windowAt slot offset).phase = .late 1 ↔
        l.opening slot + l.span ≤ offset % l.period.toNat) := by
  have opens : l.opening slot < l.closing slot := h.opening_lt_closing
  rw [← h.closing_eq]
  rcases phase_cases l slot offset with early | ⟨started, open_now⟩ | ⟨started, behind⟩
  · rw [windowAt_of_early early]
    simp only [reduceCtorEq, true_iff, false_iff]
    omega
  · rw [windowAt_of_inside ⟨started, open_now⟩]
    simp only [reduceCtorEq, true_iff, false_iff]
    omega
  · rw [windowAt_of_late started behind]
    simp only [reduceCtorEq, true_iff, false_iff]
    omega

/-- Outside of the usable part, the slot considered starts once the time to its next start
is over. -/
theorem place_outside (h : l.Valid) {origin now : Ticks}
    (outside : ¬ l.Owns slot (now.since origin).toNat) :
    (l.windowAt slot (now.since origin).toNat).place origin =
      { phase := (l.windowAt slot (now.since origin).toNat).phase
        slotStart := now + UInt32.ofNat (l.toOpening slot (now.since origin).toNat)
        wait := UInt32.ofNat (l.toOpening slot (now.since origin).toNat) } := by
  have out := mt windowAt_inside_iff.mp outside
  have passed := Nat.mod_le (now.since origin).toNat l.period.toNat
  have phase := Nat.mod_lt (now.since origin).toNat h.period_pos
  have start : (l.windowAt slot (now.since origin).toNat).start =
      (now.since origin).toNat + l.toOpening slot (now.since origin).toNat := by
    rcases phase_cases l slot (now.since origin).toNat with early | inside | ⟨started, behind⟩
    · rw [windowAt_of_early early, toOpening_of_early early]
      dsimp only
      omega
    · exact absurd inside outside
    · rw [windowAt_of_late started behind, toOpening_of_started started]
      dsimp only
      omega
  rw [Window.place, windowAt_wait out, start, UInt32.ofNat_add, UInt32.ofNat_toNat,
    ← UInt32.add_assoc, Ticks.add_since]

/-- The slot computation is exact. -/
theorem place_exact (h : l.Valid) (hs : slot.toNat < l.slotCount.toNat) (origin now : Ticks) :
    ∃ p, l.place slot origin now = .ok p ∧ p.Exact l slot origin now := by
  obtain ⟨early, inside, late⟩ := h.windowAt_phase slot (now.since origin).toNat
  have starts := h.toOpening_isLeast hs (now.since origin).toNat
  have word := h.toNat_toOpening hs (now.since origin).toNat
  refine ⟨_, h.place_eq hs origin now, ?_⟩
  by_cases owns : l.Owns slot (now.since origin).toNat
  · rw [place_inside owns]
    have phase := windowAt_inside_iff.mpr owns
    rw [phase] at early inside late
    exact ⟨early, inside, late, by simp, by simp, h.period_pos, by simp, by simp⟩
  · have out := mt windowAt_inside_iff.mp owns
    rw [h.place_outside owns]
    refine ⟨early, inside, late, ?_, ?_, ?_, fun _ => rfl, fun inside => absurd inside out⟩
    · refine ⟨fun zero => ?_, fun inside => absurd inside out⟩
      have none := congrArg UInt32.toNat zero
      have some := starts.1.1
      rw [word] at none
      exact absurd none (Nat.ne_of_gt some)
    · intro _
      rw [word]
      exact starts
    · rw [word]
      exact h.toOpening_lt hs owns

/-- Behind the usable part, the search for the slot makes one move, which is less than it is
granted, and it makes no other with any other grant. -/
theorem search_once (h : l.Valid) (hs : slot.toNat < l.slotCount.toNat) {offset : Nat}
    (near : offset < 2 ^ 32)
    (late : l.opening slot + l.span ≤ offset % l.period.toNat) :
    ∃ grant,
      mostMoves l.period.toNat (offset % l.period.toNat - l.opening slot) = .ok grant ∧
      1 < grant ∧
      ∀ bound, 0 < bound →
        skip l.period.toNat l.span offset bound
            (offset - offset % l.period.toNat + l.opening slot) =
          .ok (offset - offset % l.period.toNat + l.opening slot + l.period.toNat, 1) := by
  have period := h.period_pos
  have limit := h.period_lt
  have ends := h.closing_le hs
  have opens : l.opening slot < l.closing slot := h.opening_lt_closing
  have passed := Nat.mod_le offset l.period.toNat
  have phase := Nat.mod_lt offset period
  rw [h.closing_eq] at ends opens
  refine ⟨_, mostMoves_eq period (by omega), ?_, ?_⟩
  · have whole : 1 ≤ (offset % l.period.toNat - l.opening slot + l.period.toNat - 1) /
        l.period.toNat := (Nat.one_le_div_iff period).mpr (by omega)
    omega
  · intro bound positive
    obtain ⟨more, rfl⟩ := Nat.exists_eq_succ_of_ne_zero (Nat.pos_iff_ne_zero.mp positive)
    exact skip_once (by omega) (by omega) (by omega)

/-- Different slots are open more than a guard apart. -/
theorem guard_lt_of_owns (h : l.Valid) {i j : UInt16} (hi : i.toNat < l.slotCount.toNat)
    (hj : j.toNat < l.slotCount.toNat) (distinct : i ≠ j) {a b : Nat} (owns_i : l.Owns i a)
    (owns_j : l.Owns j b) (order : a ≤ b) : a + l.guard.toNat < b := by
  obtain ⟨shift, rfl⟩ := Nat.exists_eq_add_of_le order
  refine Nat.lt_of_not_le fun near => distinct ?_
  have tolerated : l.Tolerates shift :=
    .inl (Nat.le_trans (Nat.mod_le shift l.period.toNat) (Nat.le_of_add_le_add_left near))
  exact h.slot_unique hi hj tolerated owns_i owns_j

/-- The last tick of the usable part of a slot is a guard and a tick ahead of the next slot. -/
theorem owns_adjacent (h : l.Valid) {i j : UInt16} (adjacent : i.toNat + 1 = j.toNat)
    (hj : j.toNat < l.slotCount.toNat) :
    l.guard.toNat + 1 ≤ l.opening j ∧ l.Owns i (l.opening j - (l.guard.toNat + 1)) ∧
      l.Owns j (l.opening j) := by
  have guard := h.guard_lt
  have starts := h.opening_lt hj
  have next : l.opening j = l.opening i + l.slotLength.toNat := by
    rw [opening, opening, ← adjacent, Nat.succ_mul]
  have opens : l.opening j < l.closing j := h.opening_lt_closing
  refine ⟨by omega, ?_, ?_⟩
  · rw [Owns, closing, Nat.mod_eq_of_lt (by omega)]
    omega
  · rw [Owns, Nat.mod_eq_of_lt starts]
    exact ⟨Nat.le_refl _, opens⟩

end Valid

end Layout

namespace TimeBase

variable {l : Layout} {slot : UInt16}

/-- Whoever waits for the next start of the slot, on a grid that is up to date, is at the
start of the slot then. -/
theorem place_after_untilNext (valid : l.Valid) (owned : slot.toNat < l.slotCount.toNat)
    (t : TimeBase) (now : Ticks) :
    ∃ after wait later there,
      t.catchUp now l.period = .ok after ∧
      l.untilNext slot after.origin now = .ok wait ∧
      after.catchUp (now + wait) l.period = .ok later ∧
      l.place slot later.origin (now + wait) = .ok there ∧
      there.phase = .inside ∧ there.slotStart = now + wait := by
  have nonzero : l.period ≠ 0 := by
    intro zero
    have positive := valid.period_pos
    simp [zero] at positive
  have limit := valid.period_lt
  let after := t.caughtUp now l.period
  let offset := (now.since after.origin).toNat
  let wait := UInt32.ofNat (l.toOpening slot offset)
  have word : wait.toNat = l.toOpening slot offset := valid.toNat_toOpening owned offset
  -- the sum of the distance and the wait does not fill the range, so the phase is the true one
  have arrives : (Ticks.since (now + wait) after.origin).toNat = offset + wait.toNat := by
    have young : offset < max (2 ^ 30) l.period.toNat :=
      t.since_caughtUp_lt now valid.period_pos
    have bounds := valid.toOpening_bounds owned offset
    exact Ticks.toNat_since_later (by omega)
  have phase : (Ticks.since (now + wait) (after.caughtUp (now + wait) l.period).origin).toNat %
      l.period.toNat = l.opening slot := by
    rw [since_caughtUp_mod, arrives, word]
    exact valid.add_toOpening_mod owned offset
  have owns : l.Owns slot
      (Ticks.since (now + wait) (after.caughtUp (now + wait) l.period).origin).toNat := by
    rw [Layout.Owns, phase]
    exact ⟨Nat.le_refl _, valid.opening_lt_closing⟩
  refine ⟨after, wait, _, _, catchUp_eq nonzero t now, valid.untilNext_eq owned _ _,
    catchUp_eq nonzero after _, valid.place_eq owned _ _, ?_⟩
  rw [Layout.place_inside owns, phase]
  simp

end TimeBase

/-- The slot computation is exact. Where a reading lies against its slot, how far the slot is
and where it starts is what the phase of the reading tells; a slot that is over is passed by
one move of the search, which is granted more. The time to the next start is the least after
which the slot starts, and a node that brings its grid up to date and waits for that long is
then at the start of its slot. -/
theorem slot_computation_exact {l : Layout} (valid : l.Valid) {slot : UInt16}
    (owned : slot.toNat < l.slotCount.toNat) (t : TimeBase) (now : Ticks) :
    (∃ p, l.place slot t.origin now = .ok p ∧ p.Exact l slot t.origin now) ∧
      (l.opening slot + l.span ≤ (now.since t.origin).toNat % l.period.toNat →
        ∃ grant,
          Layout.mostMoves l.period.toNat
              ((now.since t.origin).toNat % l.period.toNat - l.opening slot) = .ok grant ∧
          1 < grant ∧
          ∀ bound, 0 < bound →
            Layout.skip l.period.toNat l.span (now.since t.origin).toNat bound
                ((now.since t.origin).toNat - (now.since t.origin).toNat % l.period.toNat +
                  l.opening slot) =
              .ok ((now.since t.origin).toNat - (now.since t.origin).toNat % l.period.toNat +
                l.opening slot + l.period.toNat, 1)) ∧
      (∃ wait, l.untilNext slot t.origin now = .ok wait ∧
        IsLeast
            {d | 1 ≤ d ∧ ((now.since t.origin).toNat + d) % l.period.toNat = l.opening slot}
            wait.toNat ∧
          wait.toNat ≤ l.period.toNat) ∧
      ∃ after wait later there,
        t.catchUp now l.period = .ok after ∧
        l.untilNext slot after.origin now = .ok wait ∧
        after.catchUp (now + wait) l.period = .ok later ∧
        l.place slot later.origin (now + wait) = .ok there ∧
        there.phase = .inside ∧ there.slotStart = now + wait := by
  refine ⟨valid.place_exact owned t.origin now,
    valid.search_once owned (now.since t.origin).toNat_lt, ?_,
    TimeBase.place_after_untilNext valid owned t now⟩
  refine ⟨_, valid.untilNext_eq owned t.origin now, ?_⟩
  rw [valid.toNat_toOpening owned]
  exact ⟨valid.toOpening_isLeast owned _, (valid.toOpening_bounds owned _).2⟩

/-- A reading behind the slot, on a grid that started before the counter wrapped and has to be
moved on. -/
theorem slot_computation_exact_late :
    (∃ p, Layout.standard.place 3 4294967000 1500699704 = .ok p ∧
        p.Exact Layout.standard 3 4294967000 1500699704) ∧
      (∃ grant, Layout.mostMoves 1000000 200002 = .ok grant ∧ 1 < grant ∧
        ∀ bound, 0 < bound →
          Layout.skip 1000000 150000 1500700000 bound 1500499998 = .ok (1501499998, 1)) ∧
      (∃ wait, Layout.standard.untilNext 3 4294967000 1500699704 = .ok wait ∧
        IsLeast {d | 1 ≤ d ∧ (1500700000 + d) % 1000000 = 499998} wait.toNat ∧
        wait.toNat ≤ 1000000) ∧
      ∃ after wait later there,
        ({ TimeBase.initial with origin := 4294967000 } : TimeBase).catchUp 1500699704 1000000 =
          .ok after ∧
        Layout.standard.untilNext 3 after.origin 1500699704 = .ok wait ∧
        after.catchUp (1500699704 + wait) 1000000 = .ok later ∧
        Layout.standard.place 3 later.origin (1500699704 + wait) = .ok there ∧
        there.phase = .inside ∧ there.slotStart = 1500699704 + wait := by
  have owned : (3 : UInt16).toNat < Layout.standard.slotCount.toNat := by decide
  have exact := slot_computation_exact Config.valid_default.layout owned
    { TimeBase.initial with origin := 4294967000 } 1500699704
  exact ⟨exact.1, exact.2.1 (by decide), exact.2.2⟩

/-- No two nodes are inside of different slots at distances that differ by a guard or less,
whatever periods these lie in and whether or not the slots fill the period. One tick more is
too much: for any two adjacent slots there are readings that far apart at which both are
open. -/
theorem guard_tolerance {l : Layout} (valid : l.Valid) :
    (∀ i j : UInt16, i.toNat < l.slotCount.toNat → j.toNat < l.slotCount.toNat → i ≠ j →
      ∀ origin now origin' now' : Ticks,
        (now.since origin).toNat ≤ (now'.since origin').toNat + l.guard.toNat →
        (now'.since origin').toNat ≤ (now.since origin).toNat + l.guard.toNat →
        ∃ p q, l.place i origin now = .ok p ∧ l.place j origin' now' = .ok q ∧
          ¬(p.phase = .inside ∧ q.phase = .inside)) ∧
      ∀ i j : UInt16, i.toNat + 1 = j.toNat → j.toNat < l.slotCount.toNat →
        ∃ origin origin' now p q,
          (Ticks.since now origin').toNat = (Ticks.since now origin).toNat + l.guard.toNat + 1 ∧
          l.place i origin now = .ok p ∧ l.place j origin' now = .ok q ∧
          p.phase = .inside ∧ q.phase = .inside := by
  constructor
  · intro i j hi hj distinct origin now origin' now' behind ahead
    refine ⟨_, _, valid.place_eq hi origin now, valid.place_eq hj origin' now', ?_⟩
    rintro ⟨first, second⟩
    have owns_i := Layout.windowAt_inside_iff.mp first
    have owns_j := Layout.windowAt_inside_iff.mp second
    rcases Nat.le_total (now.since origin).toNat (now'.since origin').toNat with order | order
    · have apart := valid.guard_lt_of_owns hi hj distinct owns_i owns_j order
      omega
    · have apart := valid.guard_lt_of_owns hj hi distinct.symm owns_j owns_i order
      omega
  · intro i j adjacent hj
    obtain ⟨room, owns_i, owns_j⟩ := valid.owns_adjacent adjacent hj
    have short := valid.period_lt
    have starts := valid.opening_lt hj
    have far : (Ticks.since (UInt32.ofNat (l.opening j)) 0).toNat = l.opening j := by
      simp only [Ticks.since, UInt32.sub_zero]
      exact UInt32.toNat_ofNat_of_lt' (by simp only [UInt32.size]; omega)
    have near : (Ticks.since (UInt32.ofNat (l.opening j))
        (0 + UInt32.ofNat (l.guard.toNat + 1))).toNat =
          l.opening j - (l.guard.toNat + 1) := by
      rw [Ticks.toNat_since_add (by omega), far]
    refine ⟨0 + UInt32.ofNat (l.guard.toNat + 1), 0, UInt32.ofNat (l.opening j), _, _, ?_,
      valid.place_eq (by omega) _ _, valid.place_eq hj _ _, ?_, ?_⟩
    · omega
    · rw [← near] at owns_i
      exact Layout.windowAt_inside_iff.mpr owns_i
    · have owned : l.Owns j (Ticks.since (UInt32.ofNat (l.opening j)) 0).toNat := by
        rw [far]
        exact owns_j
      exact Layout.windowAt_inside_iff.mpr owned

/-- A grid that started a guard before the other one: at the last tick of the last slot on
the later grid the period on the earlier grid is about to end, and its first slot is not yet
open. -/
theorem guard_tolerance_standard :
    (∃ p q, Layout.standard.place 5 16666 999995 = .ok p ∧
        Layout.standard.place 0 0 999995 = .ok q ∧ ¬(p.phase = .inside ∧ q.phase = .inside)) ∧
      ∃ origin origin' now p q,
        (Ticks.since now origin').toNat =
          (Ticks.since now origin).toNat + Layout.standard.guard.toNat + 1 ∧
        Layout.standard.place 2 origin now = .ok p ∧
        Layout.standard.place 3 origin' now = .ok q ∧ p.phase = .inside ∧ q.phase = .inside :=
  have tolerance := guard_tolerance Config.valid_default.layout
  ⟨tolerance.1 5 0 (by decide) (by decide) (by decide) 16666 999995 0 999995 (by decide)
    (by decide), tolerance.2 2 3 (by decide) (by decide)⟩

end SlottedMac
