import Mathlib.Data.Nat.ModEq
import SlottedMac.Proofs.Network.Calm

/-!
# Beacon alarms of a prompt host

A host that lets callbacks come exactly when they are due never has a late one.
The beacon alarm is then due just as long after it was armed as it was armed
for, which is what gives beacons, and the want of them, their times.
-/

namespace SlottedMac.Node

open AlarmClock

variable {M ε : Type} {n m : Node M} {e : Nat}

/-! ## Callbacks in time -/

/-- No live callback is late. -/
structure Punctual (n : Node M) : Prop where
  distinct : n.alarms.Distinct
  due : ∀ k ∈ n.alarms.live, n.alarms.now ≤ k.due

theorem Punctual.rearm (h : n.Punctual) (held : Option Nat) (kind : AlarmKind) (delay : Ticks)
    (alarms : m.alarms = ((n.alarms.release held).arm kind delay).2) : m.Punctual := by
  constructor
  · rw [alarms]
    exact (h.distinct.release held).arm kind delay
  · intro k mem
    rw [alarms] at mem ⊢
    rw [arm_now, release_now]
    rcases mem_rearm mem with old | rfl
    · exact h.due k old
    · simp [upcoming]

/-- What the host does to its alarms, short of letting time go on, makes none of
them late. -/
theorem Punctual.amid (h : n.Punctual) {alarms : AlarmClock} (medium : M)
    (now : alarms.now = n.alarms.now) (next : alarms.nextHandle = n.alarms.nextHandle)
    (live : alarms.live.Sublist n.alarms.live) : (n.amid alarms medium).Punctual where
  distinct :=
    ⟨h.distinct.nodup.sublist (live.map _), fun k mem =>
      Nat.lt_of_lt_of_eq (h.distinct.fresh k (live.subset mem)) next.symm⟩
  due k mem := Nat.le_trans (Nat.le_of_eq now) (h.due k (live.subset mem))

section Medium

variable [Medium M ε] {d : Deed}

theorem Step.punctual (step : Step d n m) (h : n.Punctual) : m.Punctual := by
  have kept := step.kept
  cases step with
  | armSlot delay purpose =>
    obtain ⟨_, _, _, _, _, _, same⟩ := n.armSlotAlarm_eq (ε := ε) delay purpose
    rw [same]
    exact h.rearm n.slotAlarm .slot delay rfl
  | armBeacon delay =>
    obtain ⟨_, same⟩ := n.armBeaconAlarm_eq (ε := ε) delay
    rw [same]
    exact h.rearm n.beaconAlarm .beacon delay rfl
  | _ =>
    have alarms := kept.alarms (by decide)
    refine ⟨?_, ?_⟩
    · rw [alarms]
      exact h.distinct
    · rw [alarms]
      exact h.due

/-- As long as the clock is left alone no callback becomes late. -/
theorem undergo_punctual (sound : n.Sound) {stimulus : Stimulus M}
    (still : ∀ time, stimulus ≠ .clock time) :
    Yields (n.undergo stimulus) fun out =>
      Same n out.2 ∧ (n.Punctual → out.2.Punctual) := by
  have performed {k : Node M} (operation : Operation) (sound : k.Sound) :
      Yields (k.perform operation) fun out => Same k out.2 ∧ (k.Punctual → out.2.Punctual) :=
    (perform_yields sound operation).mono fun _ done =>
      ⟨done.1.same, done.1.keeps fun _ step h => step.punctual h⟩
  cases stimulus with
  | operate operation =>
    exact (performed operation sound).bind fun _ done => Yields.pure_iff.mpr done
  | fire kind =>
    refine undergo_fire (Q := fun k => Same n k ∧ (n.Punctual → k.Punctual))
      (fun _ => ⟨.refl n, id⟩) fun _ _ => ?_
    have consumed : Same n (n.consumed kind) := ⟨rfl, rfl, rfl, rfl, rfl, id⟩
    refine (alarmFired_yields (sound.of_same consumed) kind).mono ?_
    rintro out ⟨path, -⟩
    refine ⟨consumed.trans path.same, fun punctual => ?_⟩
    exact path.keeps (fun _ step h => step.punctual h)
      (punctual.amid n.medium rfl rfl List.eraseP_sublist)
  | lose kind =>
    exact Yields.ok_iff.mpr
      ⟨⟨rfl, rfl, rfl, rfl, rfl, id⟩, fun h => h.amid n.medium rfl rfl List.eraseP_sublist⟩
  | clock time => exact absurd rfl (still time)
  | refuse kind error =>
    have live : (n.alarms.refuse kind error).live.Sublist n.alarms.live := by
      rw [refuse_live]
    exact Yields.ok_iff.mpr
      ⟨⟨rfl, rfl, rfl, refuse_now .., rfl, id⟩,
        fun h => h.amid n.medium (refuse_now ..) (refuse_nextHandle ..) live⟩
  | medium medium =>
    exact Yields.ok_iff.mpr
      ⟨⟨rfl, rfl, rfl, rfl, rfl, id⟩, fun h => h.amid medium rfl rfl (List.Sublist.refl _)⟩

end Medium

/-! ## The beacon alarm -/

/-- The one live beacon alarm after arming it is due after the delay. There is
one if alarms are granted. -/
theorem armBeaconAlarm_pending (holds : n.Holds) (delay : Ticks) :
    (∀ k ∈ (n.armBeaconAlarm delay : Reply ε × Node M).2.alarms.pending .beacon,
        k.due = n.alarms.now + 1000 * delay.toNat) ∧
      (n.alarms.beaconRefusal = none → (n.armBeaconAlarm delay : Reply ε × Node M).1 = .ok ()) ∧
      ((n.armBeaconAlarm delay : Reply ε × Node M).1 = .ok () →
        ((n.armBeaconAlarm delay : Reply ε × Node M).2.alarms.pending .beacon).map (·.due) =
          [n.alarms.now + 1000 * delay.toNat]) := by
  have keeps := holds_iff.mp holds .beacon
  cases refusal : n.alarms.refusal .beacon with
  | some e =>
    obtain ⟨refused, none⟩ := rearm_refused keeps.distinct keeps.live delay refusal
    rw [held] at refused none
    simp only [AlarmClock.refusal] at refusal
    simp [armBeaconAlarm, refused, none, refusal]
  | none =>
    obtain ⟨granted, live⟩ := keeps.armBeacon (ε := ε) refusal delay
    have due : (n.alarms.upcoming .beacon delay).due = n.alarms.now + 1000 * delay.toNat := by
      simp [upcoming, AlarmKind.resolution, Nat.mul_comm]
    rw [live]
    refine ⟨?_, fun _ => granted, fun _ => congrArg (fun due => [due]) due⟩
    intro k mem
    rw [List.mem_singleton.mp mem, due]

theorem OnGrid.elapse (h : n.OnGrid e) {time : Nat} (order : n.alarms.now ≤ time) :
    (n.setClock time).OnGrid e := by
  intro near
  obtain ⟨k, origin, start⟩ := h (Nat.lt_of_le_of_lt order near)
  exact ⟨k, origin, start.trans order⟩

/-- A grid that started at this moment is on the grid of this moment. -/
theorem anchored_onGrid (n : Node M) : n.anchored.OnGrid n.alarms.now := fun _ =>
  ⟨0, by simp [anchored, TimeBase.ofBeacon, fineNow], by simp [anchored]⟩

end SlottedMac.Node
