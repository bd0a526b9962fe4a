import Mathlib.Algebra.Group.Nat.Defs
import SlottedMac.Config
import SlottedMac.Proofs.Layout.Window
import SlottedMac.TimeBase

/-!
# Grids on unbounded time

The start of a grid is a counter reading, which tells a time only up to the
range of the counter. A grid that is looked at often enough is unharmed by
that: each look brings it up to date by whole periods, so the distance to its
start never fills the counter, and what is computed from it is what would be
computed from the true start on unbounded time.
-/

namespace SlottedMac

namespace TimeBase

variable {t : TimeBase} {l : Layout} {slot : UInt16} {start now reach : Nat}

/-- The whole periods in a distance. -/
theorem toNat_sub_mod (distance period : Ticks) :
    (distance - distance % period).toNat =
      distance.toNat - distance.toNat % period.toNat := by
  rw [UInt32.toNat_sub_of_le, UInt32.toNat_mod]
  rw [UInt32.le_iff_toNat_le, UInt32.toNat_mod]
  exact Nat.mod_le ..

/-- Distance from the start of a grid that was brought up to date. -/
theorem since_caughtUp (t : TimeBase) (now period : Ticks) :
    (now.since (t.caughtUp now period).origin).toNat =
      if (now.since t.origin).toNat < 2 ^ 30 then (now.since t.origin).toNat
      else (now.since t.origin).toNat % period.toNat := by
  have threshold : now.since t.origin < catchUpDistance ↔ (now.since t.origin).toNat < 2 ^ 30 :=
    UInt32.lt_iff_toNat_lt
  simp only [caughtUp, threshold]
  split
  · rfl
  · have part := Nat.mod_le (now.since t.origin).toNat period.toNat
    have moved := toNat_sub_mod (now.since t.origin) period
    rw [← UInt32.ofNat_toNat (x := now.since t.origin - now.since t.origin % period),
      Ticks.toNat_since_add (by omega)]
    omega

/-- Catching up changes no phase. -/
theorem since_caughtUp_mod (t : TimeBase) (now period : Ticks) :
    (now.since (t.caughtUp now period).origin).toNat % period.toNat =
      (now.since t.origin).toNat % period.toNat := by
  rw [since_caughtUp]
  split
  · rfl
  · exact Nat.mod_mod _ _

/-- A grid that was just brought up to date is no longer than a period or a quarter of the
range old. -/
theorem since_caughtUp_lt (t : TimeBase) (now : Ticks) {period : Ticks}
    (positive : 0 < period.toNat) :
    (now.since (t.caughtUp now period).origin).toNat < max (2 ^ 30) period.toNat := by
  have phase := Nat.mod_lt (now.since t.origin).toNat positive
  rw [since_caughtUp]
  split <;> omega

/-- Catching up moves the start of a grid by whole periods, and not past the
present. -/
theorem caughtUp_origin {t : TimeBase} {start now : Nat} (period : Ticks)
    (origin : t.origin = fine start) (order : start ≤ now) (near : now < start + 2 ^ 32) :
    ∃ k, (t.caughtUp (fine now) period).origin = fine (start + k * period.toNat) ∧
      start + k * period.toNat ≤ now := by
  have since : ((fine now).since t.origin).toNat = now - start := by
    rw [origin]
    exact toNat_since_fine order (by omega)
  rw [caughtUp]
  split
  · exact ⟨0, by simpa using origin, by simpa using order⟩
  · have whole := Nat.div_add_mod' (now - start) period.toNat
    have moved : (fine now).since t.origin - (fine now).since t.origin % period =
        fine ((now - start) / period.toNat * period.toNat) := by
      apply UInt32.toNat_inj.mp
      rw [toNat_sub_mod, since, toNat_fine]
      omega
    refine ⟨(now - start) / period.toNat, ?_, by omega⟩
    rw [fine_add, ← moved]
    exact congrArg (· + _) origin

/-- The grid started whole periods after the true time `start`, at a time which
is less than `reach` before `now`. -/
def Follows (t : TimeBase) (period : Ticks) (start now reach : Nat) : Prop :=
  ∃ k, t.origin = fine (start + k * period.toNat) ∧ start + k * period.toNat ≤ now ∧
    now < start + k * period.toNat + reach

namespace Follows

theorem mono {period : Ticks} {more : Nat} (h : t.Follows period start now reach)
    (wider : reach ≤ more) : t.Follows period start now more := by
  obtain ⟨k, origin, past, close⟩ := h
  exact ⟨k, origin, past, Nat.lt_of_lt_of_le close (Nat.add_le_add_left wider _)⟩

theorem elapse {period : Ticks} {later gap : Nat} (h : t.Follows period start now reach)
    (order : now ≤ later) (near : later ≤ now + gap) :
    t.Follows period start later (reach + gap) := by
  obtain ⟨k, origin, past, close⟩ := h
  exact ⟨k, origin, by omega, by omega⟩

/-- A grid that was just brought up to date started within a period, or within
the distance at which nothing needs to be done yet. -/
theorem caughtUp {period : Ticks} (positive : 0 < period.toNat)
    (h : t.Follows period start now reach) (fits : reach ≤ 2 ^ 32) :
    (t.caughtUp (fine now) period).Follows period start now (max (2 ^ 30) period.toNat) := by
  obtain ⟨k, origin, past, close⟩ := h
  obtain ⟨more, moved, order⟩ := caughtUp_origin period origin past (by omega)
  rw [Nat.add_assoc, ← Nat.add_mul] at moved order
  refine ⟨k + more, moved, order, ?_⟩
  have distance := since_caughtUp t (fine now) period
  rw [moved, toNat_since_fine order (by
    rw [Nat.add_mul] at order ⊢
    omega)] at distance
  have phase := Nat.mod_lt ((fine now).since t.origin).toNat positive
  split at distance <;> omega

/-- The distance that the counter shows differs from the true one by whole
periods. -/
theorem offset (h : t.Follows l.period start now reach) (fits : reach ≤ 2 ^ 32) :
    ∃ k, t.origin = fine (start + k * l.period.toNat) ∧
      now - start = ((fine now).since t.origin).toNat + k * l.period.toNat := by
  obtain ⟨k, origin, past, close⟩ := h
  refine ⟨k, origin, ?_⟩
  rw [origin, toNat_since_fine past (by omega)]
  omega

/-- The slot is found where it is on unbounded time. -/
theorem place (h : t.Follows l.period start now reach) (fits : reach ≤ 2 ^ 32) (valid : l.Valid)
    (hs : slot.toNat < l.slotCount.toNat) :
    l.place slot t.origin (fine now) = .ok
      { phase := (l.windowAt slot (now - start)).phase
        slotStart := fine (start + (l.windowAt slot (now - start)).start)
        wait := UInt32.ofNat (l.windowAt slot (now - start)).wait } := by
  obtain ⟨k, origin, offset⟩ := h.offset fits
  rw [valid.place_eq hs, offset, Layout.windowAt_add_periods]
  generalize l.windowAt slot ((fine now).since t.origin).toNat = window
  have moved : t.origin + fine window.start =
      fine (start + (window.start + k * l.period.toNat)) := by
    rw [origin, ← fine_add]
    exact congrArg fine (by omega)
  simp only [Window.place, Except.ok.injEq, Placement.mk.injEq, true_and, and_true]
  exact moved

theorem untilNext (h : t.Follows l.period start now reach) (fits : reach ≤ 2 ^ 32)
    (valid : l.Valid) (hs : slot.toNat < l.slotCount.toNat) :
    l.untilNext slot t.origin (fine now) =
      .ok (UInt32.ofNat (l.toOpening slot (now - start))) := by
  obtain ⟨k, origin, offset⟩ := h.offset fits
  rw [valid.untilNext_eq hs, offset, Layout.toOpening_add_periods]

end Follows

/-- The grid as it is when the moment number `k` comes: it was brought up to date
at each moment before. -/
def track (t : TimeBase) (period : Ticks) (moment : Nat → Nat) : Nat → Except Fault TimeBase
  | 0 => .ok t
  | k + 1 => do (← t.track period moment k).catchUp (fine (moment k)) period

/-- Moments that follow each other within half the range of the counter never
lose the grid. -/
theorem track_follows {period : Ticks} {moment : Nat → Nat} (positive : 0 < period.toNat)
    (short : period.toNat < 2 ^ 31) (anchored : t.origin = fine start)
    (first : start ≤ moment 0 ∧ moment 0 ≤ start + 2 ^ 31)
    (paced : ∀ k, moment k ≤ moment (k + 1) ∧ moment (k + 1) ≤ moment k + 2 ^ 31) (k : Nat) :
    ∃ before, t.track period moment k = .ok before ∧
      before.Follows period start (moment k) (2 ^ 32) := by
  have nonzero : period ≠ 0 := by
    rintro rfl
    exact Nat.lt_irrefl 0 positive
  induction k with
  | zero =>
    have close : moment 0 < start + 2 ^ 32 := Nat.lt_of_le_of_lt first.2 (by omega)
    exact ⟨t, rfl, 0, by simpa using anchored, by simpa using first.1, by simpa using close⟩
  | succ k ih =>
    obtain ⟨before, tracked, follows⟩ := ih
    have caughtUp := follows.caughtUp positive (Nat.le_refl _)
    have reach : max (2 ^ 30) period.toNat + 2 ^ 31 ≤ 2 ^ 32 := by omega
    refine ⟨before.caughtUp (fine (moment k)) period, ?_, ?_⟩
    · simp only [track, tracked, bind, Except.bind]
      exact catchUp_eq nonzero before _
    · exact (caughtUp.elapse (paced k).1 (paced k).2).mono reach

end TimeBase

/-- A grid that started at a true time and is brought up to date at moments no
more than half the range of the counter apart answers every look as on unbounded
time, however often the counter has wrapped: it finds the window that the phase
of the true time tells of, and the time to the next start of the slot. Bringing
it up to date changes no answer, and leaves its start within a period or within
a quarter of the range. -/
theorem slot_on_unbounded_time {l : Layout} (valid : l.Valid) {slot : UInt16}
    (owned : slot.toNat < l.slotCount.toNat) {t : TimeBase} {start : Nat}
    (anchored : t.origin = fine start) {moment : Nat → Nat}
    (first : start ≤ moment 0 ∧ moment 0 ≤ start + 2 ^ 31)
    (paced : ∀ k, moment k ≤ moment (k + 1) ∧ moment (k + 1) ≤ moment k + 2 ^ 31) (k : Nat) :
    ∃ before after placement wait,
      t.track l.period moment k = .ok before ∧
      before.catchUp (fine (moment k)) l.period = .ok after ∧
      l.place slot after.origin (fine (moment k)) = .ok placement ∧
      l.untilNext slot after.origin (fine (moment k)) = .ok wait ∧
      placement.phase = (l.windowAt slot (moment k - start)).phase ∧
      placement.wait.toNat = (l.windowAt slot (moment k - start)).wait ∧
      placement.slotStart.toNat =
        (start + (l.windowAt slot (moment k - start)).start) % 2 ^ 32 ∧
      0 < wait.toNat ∧
      (moment k - start + wait.toNat) % l.period.toNat = l.opening slot ∧
      (∀ d, 0 < d → (moment k - start + d) % l.period.toNat = l.opening slot → wait.toNat ≤ d) ∧
      l.place slot before.origin (fine (moment k)) = .ok placement ∧
      l.untilNext slot before.origin (fine (moment k)) = .ok wait ∧
      ((fine (moment k)).since after.origin).toNat < max (2 ^ 30) l.period.toNat := by
  have positive := valid.period_pos
  have short := valid.period_lt
  have nonzero : l.period ≠ 0 := by
    intro zero
    simp [zero] at positive
  obtain ⟨before, tracked, follows⟩ := TimeBase.track_follows positive short anchored first paced k
  have near : max (2 ^ 30) l.period.toNat ≤ 2 ^ 32 := by omega
  have caughtUp := follows.caughtUp positive (Nat.le_refl _)
  have starts := valid.toOpening_bounds owned (moment k - start)
  have waits := valid.windowAt_wait_le owned (moment k - start)
  have wait := valid.toNat_toOpening owned (moment k - start)
  refine ⟨before, _, _, _, tracked, TimeBase.catchUp_eq nonzero before _,
    caughtUp.place near valid owned, caughtUp.untilNext near valid owned, rfl, ?_, toNat_fine _, ?_,
    ?_, ?_, follows.place (Nat.le_refl _) valid owned,
    follows.untilNext (Nat.le_refl _) valid owned, ?_⟩
  · exact UInt32.toNat_ofNat_of_lt' (by simp only [UInt32.size]; omega)
  · rw [wait]
    exact starts.1
  · rw [wait]
    exact valid.add_toOpening_mod owned _
  · intro d later opens
    rw [wait]
    exact valid.toOpening_le later opens
  · obtain ⟨j, origin, past, close⟩ := caughtUp
    rw [origin, toNat_since_fine past (by omega)]
    omega

/-- Half the range of the counter goes by between one moment and the next. At the
last of these moments the counter has wrapped three times. -/
theorem slot_on_unbounded_time_wrapped :
    ∃ before after placement wait,
      ({ origin := fine 4000000000, synchronized := true, lastSync := 0 } : TimeBase).track
          Layout.standard.period (4000000001 + 2 ^ 31 * ·) 5 = .ok before ∧
      before.catchUp (fine (4000000001 + 2 ^ 31 * 5)) Layout.standard.period = .ok after ∧
      Layout.standard.place 3 after.origin (fine (4000000001 + 2 ^ 31 * 5)) = .ok placement ∧
      Layout.standard.untilNext 3 after.origin (fine (4000000001 + 2 ^ 31 * 5)) = .ok wait ∧
      placement.phase = (Layout.standard.windowAt 3 (4000000001 + 2 ^ 31 * 5 - 4000000000)).phase ∧
      placement.wait.toNat =
        (Layout.standard.windowAt 3 (4000000001 + 2 ^ 31 * 5 - 4000000000)).wait ∧
      placement.slotStart.toNat = (4000000000 +
        (Layout.standard.windowAt 3 (4000000001 + 2 ^ 31 * 5 - 4000000000)).start) % 2 ^ 32 ∧
      0 < wait.toNat ∧
      (4000000001 + 2 ^ 31 * 5 - 4000000000 + wait.toNat) % Layout.standard.period.toNat =
        Layout.standard.opening 3 ∧
      (∀ d, 0 < d →
        (4000000001 + 2 ^ 31 * 5 - 4000000000 + d) % Layout.standard.period.toNat =
          Layout.standard.opening 3 → wait.toNat ≤ d) ∧
      Layout.standard.place 3 before.origin (fine (4000000001 + 2 ^ 31 * 5)) = .ok placement ∧
      Layout.standard.untilNext 3 before.origin (fine (4000000001 + 2 ^ 31 * 5)) = .ok wait ∧
      ((fine (4000000001 + 2 ^ 31 * 5)).since after.origin).toNat <
        max (2 ^ 30) Layout.standard.period.toNat :=
  slot_on_unbounded_time Config.valid_default.layout (by decide) rfl ⟨by omega, by omega⟩
    (fun _ => ⟨by omega, by omega⟩) 5

end SlottedMac
