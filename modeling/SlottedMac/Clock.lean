/-!
# Clock readings on a wrapping counter

A node reads a fine counter in microseconds and a coarse one in milliseconds.
Both are free-running words of 32 bits, so a reading says nothing by itself:
only the distance between two readings does, and it is taken modulo the range.
Shifting both readings by the same amount therefore changes no distance and no
comparison, which is what makes the place of the wrap unobservable.

True time is a natural number of microseconds. `fine` and `coarse` are the
readings that the two counters show at a true time.
-/

namespace SlottedMac

/-- A counter reading, or a distance between two readings. -/
abbrev Ticks := UInt32

namespace Ticks

/-- Readings closer than half the range are ordered. -/
def halfRange : Ticks := 0x80000000

/-- The distance from the reading `mark` forward to the reading `now`. -/
def since (now mark : Ticks) : Ticks := now - mark

/-- Whether the reading `now` is at or after the reading `goal`. The answer is
meaningful while the two are less than half the range apart. -/
def reached (now goal : Ticks) : Bool := now.since goal < halfRange

/-- Product that stops at the largest reading. -/
def mulSat (a b : Ticks) : Ticks := UInt32.ofNat (min (a.toNat * b.toNat) (UInt32.size - 1))

/-- Difference that stops at zero. -/
def subSat (a b : Ticks) : Ticks := if b ≤ a then a - b else 0

@[simp] theorem since_self (t : Ticks) : t.since t = 0 := by
  simp [since]

/-- A common shift of both readings leaves their distance alone. -/
@[simp] theorem since_add_right (now mark shift : Ticks) :
    Ticks.since (now + shift) (mark + shift) = now.since mark := by
  simp only [since]
  grind

@[simp] theorem reached_add_right (now goal shift : Ticks) :
    Ticks.reached (now + shift) (goal + shift) = now.reached goal := by
  simp [reached]

/-- Walking the distance from `mark` arrives at `now`. -/
@[simp] theorem add_since (now mark : Ticks) : mark + now.since mark = now := by
  simp only [since]
  grind

@[simp] theorem since_add_self (mark distance : Ticks) :
    Ticks.since (mark + distance) mark = distance := by
  simp only [since]
  grind

/-- Distances in natural numbers: the subtraction borrows one full range. -/
theorem toNat_since (now mark : Ticks) :
    (now.since mark).toNat = (now.toNat + (0x100000000 - mark.toNat)) % 0x100000000 := by
  simp only [since, UInt32.toNat_sub]
  congr 1
  omega

/-- Moving the mark forward, no further than to `now`, shortens the distance by
as much. -/
theorem toNat_since_add {now mark : Ticks} {d : Nat} (short : d ≤ (now.since mark).toNat) :
    (now.since (mark + UInt32.ofNat d)).toNat = (now.since mark).toNat - d := by
  have word : (UInt32.ofNat d).toNat = d :=
    UInt32.toNat_ofNat_of_lt' (Nat.lt_of_le_of_lt short (now.since mark).toNat_lt)
  have split : now.since (mark + UInt32.ofNat d) = now.since mark - UInt32.ofNat d := by
    simp only [since]
    grind
  rw [split, UInt32.toNat_sub_of_le _ _ (by rwa [UInt32.le_iff_toNat_le, word]), word]

theorem reached_eq_decide (now goal : Ticks) :
    now.reached goal = decide ((now.since goal).toNat < 0x80000000) := by
  simp [reached, halfRange, UInt32.lt_iff_toNat_lt]

theorem toNat_mulSat (a b : Ticks) :
    (a.mulSat b).toNat = min (a.toNat * b.toNat) 0xFFFFFFFF := by
  simp only [mulSat, UInt32.size, UInt32.toNat_ofNat']
  exact Nat.mod_eq_of_lt (by omega)

theorem toNat_subSat (a b : Ticks) : (a.subSat b).toNat = a.toNat - b.toNat := by
  rw [subSat]
  split
  · next h => exact UInt32.toNat_sub_of_le a b h
  · next h =>
    have : a.toNat < b.toNat := by simpa [UInt32.le_iff_toNat_le] using h
    simp
    omega

end Ticks

/-- The microsecond counter at a true time. -/
def fine (time : Nat) : Ticks := UInt32.ofNat time

/-- The millisecond counter at a true time. -/
def coarse (time : Nat) : Ticks := UInt32.ofNat (time / 1000)

@[simp] theorem toNat_fine (time : Nat) : (fine time).toNat = time % 0x100000000 := by
  simp [fine]

@[simp] theorem toNat_coarse (time : Nat) : (coarse time).toNat = time / 1000 % 0x100000000 := by
  simp [coarse]

/-- Two readings tell the true distance as long as it is less than the range,
wherever the counter wrapped in between. -/
theorem toNat_since_fine {earlier later : Nat} (order : earlier ≤ later)
    (near : later - earlier < 0x100000000) :
    ((fine later).since (fine earlier)).toNat = later - earlier := by
  rw [Ticks.toNat_since, toNat_fine, toNat_fine]
  omega

/-- A distance grows with true time until it fills the range. -/
theorem toNat_since_fine_add {mark : Ticks} {time wait : Nat}
    (near : ((fine time).since mark).toNat + wait < 0x100000000) :
    ((fine (time + wait)).since mark).toNat = ((fine time).since mark).toNat + wait := by
  have word := mark.toNat_lt
  simp only [Ticks.toNat_since, toNat_fine] at near ⊢
  omega

/-- Moving true time by whole milliseconds moves both counters by that much,
each modulo its own range. -/
theorem fine_add (time shift : Nat) : fine (time + shift) = fine time + fine shift := by
  simp [fine]

theorem coarse_add_millis (time millis : Nat) :
    coarse (time + 1000 * millis) = coarse time + UInt32.ofNat millis := by
  rw [coarse, Nat.add_mul_div_left _ _ (by decide)]
  simp [coarse]

/-- A beacon alarm shows on the coarse counter after just the delay that it was
armed with. -/
theorem coarse_add_delay (time : Nat) (delay : Ticks) :
    coarse (time + 1000 * delay.toNat) = coarse time + delay := by
  rw [coarse_add_millis, UInt32.ofNat_toNat]

end SlottedMac
