import SlottedMac.Clock
import SlottedMac.Fault

/-!
# The shared time reference

The period grid of a node starts at a fine reading, its origin. A beacon moves
the origin and makes the node synchronized; going without beacons for too long
ends that, but keeps the origin as the best guess there is. Far from its origin
a grid is moved on by whole periods, which changes no phase and keeps distances
well inside the range of the counter.
-/

namespace SlottedMac

/-- The period grid of a node and how far it can be trusted. -/
structure TimeBase where
  /-- Fine reading at which a period starts. -/
  origin : Ticks
  /-- Whether a beacon stands behind the origin. -/
  synchronized : Bool
  /-- Coarse reading at the last beacon. -/
  lastSync : Ticks
deriving DecidableEq, Repr

namespace TimeBase

/-- Distance from the origin at which the grid is moved on. -/
def catchUpDistance : Ticks := 0x40000000

/-- Before any beacon, periods start at the zero of the counter. -/
def initial : TimeBase := { origin := 0, synchronized := false, lastSync := 0 }

/-- Start the grid at a beacon that arrives at these readings. -/
def ofBeacon (fine coarse : Ticks) : TimeBase :=
  { origin := fine, synchronized := true, lastSync := coarse }

/-- Whether sync is held although the last beacon is `timeout` or more ago. -/
def isStale (t : TimeBase) (coarse timeout : Ticks) : Bool :=
  t.synchronized && decide (timeout ≤ coarse.since t.lastSync)

/-- End sync once it is stale. The answer tells whether this call ended it. -/
def dropStale (t : TimeBase) (coarse timeout : Ticks) : TimeBase × Bool :=
  if t.isStale coarse timeout then ({ t with synchronized := false }, true) else (t, false)

/-- Move a grid that started long ago on by whole periods, to the start of the
period that holds `now`. -/
def catchUp (t : TimeBase) (now period : Ticks) : Except Fault TimeBase := do
  let since := now.since t.origin
  if since < catchUpDistance then
    return t
  let phase ← Fault.remainder since period
  let whole ← Fault.difference since phase
  return { t with origin := t.origin + whole }

@[simp] theorem dropStale_origin (t : TimeBase) (coarse timeout : Ticks) :
    (t.dropStale coarse timeout).1.origin = t.origin := by
  rw [dropStale]
  split <;> rfl

@[simp] theorem dropStale_lastSync (t : TimeBase) (coarse timeout : Ticks) :
    (t.dropStale coarse timeout).1.lastSync = t.lastSync := by
  rw [dropStale]
  split <;> rfl

theorem dropStale_snd (t : TimeBase) (coarse timeout : Ticks) :
    (t.dropStale coarse timeout).2 = t.isStale coarse timeout := by
  rw [dropStale]
  split <;> simp_all

/-- A second look at the same reading ends nothing more. -/
theorem dropStale_dropStale (t : TimeBase) (coarse timeout : Ticks) :
    (t.dropStale coarse timeout).1.dropStale coarse timeout =
      ((t.dropStale coarse timeout).1, false) := by
  by_cases stale : t.isStale coarse timeout
  · have ended : (t.dropStale coarse timeout).1 = { t with synchronized := false } := by
      simp [dropStale, stale]
    rw [ended]
    simp [dropStale, isStale]
  · simp [dropStale, stale]

theorem catchUp_of_near {t : TimeBase} {now : Ticks} (near : now.since t.origin < catchUpDistance)
    (period : Ticks) : t.catchUp now period = .ok t := by
  simp [catchUp, near, pure, Except.pure]

theorem catchUp_of_far {t : TimeBase} {now period : Ticks}
    (far : catchUpDistance ≤ now.since t.origin) (h : period ≠ 0) :
    t.catchUp now period =
      .ok { t with origin := t.origin + (now.since t.origin - now.since t.origin % period) } := by
  have least : now.since t.origin % period ≤ now.since t.origin := by
    rw [UInt32.le_iff_toNat_le, UInt32.toNat_mod]
    exact Nat.mod_le _ _
  simp [catchUp, UInt32.not_lt.mpr far, Fault.remainder_of_ne h, Fault.difference_of_le least,
    bind, Except.bind, pure, Except.pure]

/-- The grid that `catchUp` leads to, where the period is not zero. -/
def caughtUp (t : TimeBase) (now period : Ticks) : TimeBase :=
  if now.since t.origin < catchUpDistance then t
  else { t with origin := t.origin + (now.since t.origin - now.since t.origin % period) }

theorem catchUp_eq {period : Ticks} (h : period ≠ 0) (t : TimeBase) (now : Ticks) :
    t.catchUp now period = .ok (t.caughtUp now period) := by
  rw [caughtUp]
  split
  · next near => exact catchUp_of_near near period
  · next far => exact catchUp_of_far (UInt32.not_lt.mp far) h

end TimeBase

end SlottedMac
