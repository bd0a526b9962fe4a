import Mathlib.Logic.Relation
import SlottedMac.Proofs.Grid
import SlottedMac.Proofs.Node.Step

/-!
# Operations as paths of deeds

In a node that is in order no operation runs into a fault, and what the
operation does is a path of deeds of few kinds. The list of kinds at each
statement is the account of everything that the operation can do: a node that
receives never hands a frame to the medium unless it restarts its grid, and
nothing but the end of a backoff listens to the channel.
-/

namespace SlottedMac.Node

variable {M ε : Type} [Medium M ε] {n m k : Node M}

/-- What keeps a node clear of faults. -/
structure Sound (n : Node M) : Prop where
  valid : n.config.Valid
  slot_lt : n.slot.toNat < n.config.layout.slotCount.toNat
  interval : n.cadence.interval = n.config.beaconInterval
  room : n.buffer.length = maxFrame

theorem Sound.of_same (sound : n.Sound) (same : Same n m) : m.Sound where
  valid := same.config ▸ sound.valid
  slot_lt := by
    rw [same.config, same.slot]
    exact sound.slot_lt
  interval := by
    rw [same.interval, same.config]
    exact sound.interval
  room := same.room sound.room

theorem Sound.period_ne (sound : n.Sound) : n.config.layout.period ≠ 0 := by
  intro zero
  have := sound.valid.layout.period_pos
  simp [zero] at this

/-- Deeds of the given kinds lead from one state to the other. -/
def Path (kinds : List Deed) : Node M → Node M → Prop :=
  Relation.ReflTransGen fun n m => ∃ d ∈ kinds, Step d n m

namespace Path

variable {kinds more : List Deed} {d : Deed}

theorem refl (n : Node M) : Path kinds n n := Relation.ReflTransGen.refl

theorem trans (h : Path kinds n m) (h' : Path kinds m k) : Path kinds n k :=
  Relation.ReflTransGen.trans h h'

theorem mono (h : Path kinds n m) (sub : kinds ⊆ more) : Path more n m := by
  refine Relation.ReflTransGen.mono ?_ _ _ h
  rintro _ _ ⟨d, mem, step⟩
  exact ⟨d, sub mem, step⟩

theorem snoc (h : Path kinds n m) (step : Step d m k) (mem : d ∈ kinds := by decide) :
    Path kinds n k :=
  Relation.ReflTransGen.tail h ⟨d, mem, step⟩

/-- What every deed of these kinds keeps, the path keeps. -/
theorem keeps {P : Node M → Prop} (h : Path kinds n m)
    (step : ∀ {a b : Node M} {d : Deed}, d ∈ kinds → Step d a b → P a → P b) (start : P n) :
    P m := by
  induction h with
  | refl => exact start
  | tail _ last ih =>
    obtain ⟨d, mem, done⟩ := last
    exact step mem done ih

theorem same (h : Path kinds n m) : Same n m :=
  h.keeps (P := Same n) (fun _ step so_far => so_far.trans step.same) (Same.refl n)

theorem sound (h : Path kinds n m) (sound : n.Sound) : m.Sound := sound.of_same h.same

end Path

theorem Step.path {d : Deed} {kinds : List Deed} (step : Step d n m)
    (mem : d ∈ kinds := by decide) : Path kinds n m :=
  Relation.ReflTransGen.single ⟨d, mem, step⟩

/-! ## Looking at the slot -/

/-- Where the node stands against its slot. -/
def view (n : Node M) : Placement :=
  (n.config.layout.windowAt n.slot n.offset).place n.time.origin

theorem placement_eq (sound : n.Sound) : n.placement = .ok (n.aligned.view, n.aligned) := by
  simp only [placement, TimeBase.catchUp_eq sound.period_ne, bind, Except.bind, pure, Except.pure,
    sound.valid.layout.place_eq sound.slot_lt]
  rfl

theorem view_inside_iff : n.view.phase = .inside ↔ n.OwnsNow := Layout.windowAt_inside_iff

/-- Outside of the slot the wait is for its next start. -/
theorem view_wait (outside : n.view.phase ≠ .inside) : n.view.wait = n.toSlot :=
  congrArg UInt32.ofNat (Layout.windowAt_wait outside)

theorem aligned_path (n : Node M) : Path [.align] n n.aligned := Step.align.path

omit [Medium M ε] in
theorem aligned_offset (n : Node M) :
    n.aligned.offset =
      if n.offset < 2 ^ 30 then n.offset else n.offset % n.config.layout.period.toNat :=
  n.time.since_caughtUp n.fineNow n.config.layout.period

omit [Medium M ε] in
/-- Bringing the grid up to date changes no phase. -/
theorem aligned_phase (n : Node M) :
    n.aligned.offset % n.config.layout.period.toNat = n.offset % n.config.layout.period.toNat :=
  n.time.since_caughtUp_mod n.fineNow n.config.layout.period

theorem aligned_current (sound : n.Sound) : n.aligned.Current :=
  n.time.since_caughtUp_lt n.fineNow sound.valid.layout.period_pos

end SlottedMac.Node
