import Mathlib.Data.List.Nodup
import SlottedMac.Proofs.Course

/-!
# The alarms that a node holds

A node holds a handle for each of its two kinds of alarms, or none. As long as
the host takes a callback out just when it lets it come, what a node holds is
what the host has: the one live callback of the kind. Every way of arming an
alarm starts from there and leads back to it.
-/

namespace SlottedMac

namespace AlarmClock

variable {c : AlarmClock} {kind other : AlarmKind} {held : Option Nat}

/-- The live callbacks of a kind. -/
def pending (c : AlarmClock) (kind : AlarmKind) : List Callback := c.live.filter (·.kind == kind)

theorem mem_pending {k : Callback} : k ∈ c.pending kind ↔ k ∈ c.live ∧ k.kind = kind := by
  simp [pending]

theorem pending_refuse (c : AlarmClock) (refused : AlarmKind) (error : Option AlarmError)
    (kind : AlarmKind) : (c.refuse refused error).pending kind = c.pending kind := by
  rw [pending, refuse_live, pending]

/-- Handles tell live callbacks apart, also from those to come. -/
structure Distinct (c : AlarmClock) : Prop where
  nodup : (c.live.map (·.handle)).Nodup
  fresh : ∀ k ∈ c.live, k.handle < c.nextHandle

theorem cancel_live (distinct : c.Distinct) (handle : Nat) :
    (c.cancel handle).live = c.live.filter (·.handle != handle) := by
  have erase : ∀ l : List Callback, (l.map (·.handle)).Nodup →
      l.eraseP (·.handle == handle) = l.filter (·.handle != handle) := by
    intro l nodup
    induction l with
    | nil => rfl
    | cons k l ih =>
      simp only [List.map_cons, List.nodup_cons, List.mem_map, not_exists, not_and] at nodup
      by_cases same : k.handle = handle
      · have rest : l.filter (·.handle != handle) = l := by
          rw [List.filter_eq_self]
          intro k' mem
          simpa [same] using nodup.1 k' mem
        simp [same, rest]
      · simp [same, ih nodup.2]
  rw [cancel]
  split
  · exact erase c.live distinct.nodup
  · next absent =>
    rw [← erase c.live distinct.nodup, List.eraseP_of_forall_not]
    simpa using absent

theorem release_nextHandle (c : AlarmClock) (held : Option Nat) :
    (c.release held).nextHandle = c.nextHandle := by
  cases held with
  | none => rfl
  | some handle =>
    rw [release_some, cancel]
    split <;> rfl

theorem release_refusal (c : AlarmClock) (held : Option Nat) (kind : AlarmKind) :
    (c.release held).refusal kind = c.refusal kind := by
  cases held with
  | none => rfl
  | some handle =>
    rw [release_some, cancel]
    split
    · cases kind <;> rfl
    · rfl

theorem release_upcoming (c : AlarmClock) (held : Option Nat) (kind : AlarmKind) (delay : Ticks) :
    (c.release held).upcoming kind delay = c.upcoming kind delay := by
  rw [upcoming, upcoming, release_nextHandle, release_now]

theorem Distinct.release (distinct : c.Distinct) (held : Option Nat) :
    (c.release held).Distinct := by
  cases held with
  | none => exact distinct
  | some handle =>
    constructor
    · rw [release_some, cancel_live distinct]
      exact distinct.nodup.sublist (List.filter_sublist.map _)
    · intro k mem
      rw [release_nextHandle]
      rw [release_some, cancel_live distinct] at mem
      exact distinct.fresh k (List.mem_of_mem_filter mem)

theorem Distinct.arm (distinct : c.Distinct) (kind : AlarmKind) (delay : Ticks) :
    (c.arm kind delay).2.Distinct := by
  rw [AlarmClock.arm]
  split
  · exact distinct
  · constructor
    · simp only [List.map_append, List.map_singleton]
      rw [List.nodup_append]
      refine ⟨distinct.nodup, List.nodup_singleton _, ?_⟩
      intro a mem b new
      obtain ⟨k, live, rfl⟩ := List.mem_map.mp mem
      rw [List.mem_singleton.mp new]
      exact Nat.ne_of_lt (distinct.fresh k live)
    · intro k mem
      rcases List.mem_append.mp mem with old | new
      · exact Nat.lt_succ_of_lt (distinct.fresh k old)
      · rw [List.mem_singleton.mp new]
        exact Nat.lt_succ_self _

/-- Letting go of what is held leaves nothing of its kind. -/
theorem pending_release (distinct : c.Distinct)
    (holds : (c.pending kind).map (·.handle) = held.toList) :
    (c.release held).pending kind = [] := by
  cases held with
  | none => simpa using holds
  | some handle =>
    rw [release_some, pending, cancel_live distinct, List.filter_filter]
    rw [List.filter_eq_nil_iff]
    intro k mem keeps
    simp only [Bool.and_eq_true, bne_iff_ne] at keeps
    have : k.handle ∈ (c.pending kind).map (·.handle) :=
      List.mem_map_of_mem (List.mem_filter.mpr ⟨mem, keeps.1⟩)
    rw [holds] at this
    exact keeps.2 (by simpa using this)

/-- Cancelling an alarm leaves all kinds that it is not of. -/
theorem pending_release_of_ne (distinct : c.Distinct)
    (others : ∀ k ∈ c.pending kind, held ≠ some k.handle) :
    (c.release held).pending kind = c.pending kind := by
  cases held with
  | none => rfl
  | some handle =>
    rw [release_some, pending, pending, cancel_live distinct, List.filter_filter]
    apply List.filter_congr
    intro k live
    by_cases same : k.kind = kind
    · have ne := others k (List.mem_filter.mpr ⟨live, by simpa using same⟩)
      have : k.handle ≠ handle := fun eq => ne (congrArg some eq.symm)
      simp [this]
    · simp [same]

/-- The alarm of the other kind stays. -/
theorem pending_release_other (distinct : c.Distinct)
    (holds : (c.pending kind).map (·.handle) = held.toList) (ne : other ≠ kind) :
    (c.release held).pending other = c.pending other := by
  refine pending_release_of_ne distinct fun k mem same => ?_
  have armed : k.handle ∈ (c.pending kind).map (·.handle) := by simp [holds, same]
  obtain ⟨k', mem', handle⟩ := List.mem_map.mp armed
  obtain ⟨live, kinds⟩ := List.mem_filter.mp mem
  obtain ⟨live', kinds'⟩ := List.mem_filter.mp mem'
  rw [List.inj_on_of_nodup_map distinct.nodup live' live handle] at kinds'
  exact ne ((eq_of_beq kinds).symm.trans (eq_of_beq kinds'))

theorem pending_arm_other (delay : Ticks) (ne : other ≠ kind) :
    (c.arm kind delay).2.pending other = c.pending other := by
  rw [arm]
  split
  · rfl
  · simp [pending, upcoming, Ne.symm ne]

theorem nextHandle_le_arm (c : AlarmClock) (kind : AlarmKind) (delay : Ticks) :
    c.nextHandle ≤ (c.arm kind delay).2.nextHandle := by
  rw [arm]
  split
  · exact Nat.le_refl _
  · exact Nat.le_succ _

/-- The handle of an alarm that is granted is the next one. -/
theorem arm_toOption (c : AlarmClock) (kind : AlarmKind) (delay : Ticks) {handle : Nat}
    (granted : (c.arm kind delay).1.toOption = some handle) :
    handle = c.nextHandle ∧ handle < (c.arm kind delay).2.nextHandle := by
  rw [arm] at granted ⊢
  split at granted
  · cases granted
  · cases granted
    exact ⟨rfl, Nat.lt_succ_self _⟩

/-- Giving an alarm back and arming another one uses up no handle but the next one. -/
theorem nextHandle_le_rearm (c : AlarmClock) (held : Option Nat) (kind : AlarmKind)
    (delay : Ticks) : c.nextHandle ≤ ((c.release held).arm kind delay).2.nextHandle := by
  rw [← c.release_nextHandle held]
  exact nextHandle_le_arm ..

theorem rearm_toOption {delay : Ticks} {handle : Nat}
    (granted : ((c.release held).arm kind delay).1.toOption = some handle) :
    handle = c.nextHandle ∧ handle < ((c.release held).arm kind delay).2.nextHandle := by
  rw [← c.release_nextHandle held]
  exact arm_toOption _ _ _ granted

theorem arm_refusal (c : AlarmClock) (kind : AlarmKind) (delay : Ticks) (other : AlarmKind) :
    (c.arm kind delay).2.refusal other = c.refusal other := by
  rw [arm]
  split
  · rfl
  · cases other <;> rfl

/-- Giving an alarm back and arming another one adds no callback but that one. -/
theorem mem_rearm {delay : Ticks} {k : Callback}
    (mem : k ∈ ((c.release held).arm kind delay).2.live) :
    k ∈ c.live ∨ k = c.upcoming kind delay := by
  have released : (c.release held).live ⊆ c.live := by
    cases held with
    | none => exact List.Subset.refl _
    | some handle =>
      rw [release_some, cancel]
      split
      · exact List.eraseP_subset
      · exact List.Subset.refl _
  rw [arm] at mem
  split at mem
  · exact .inl (released mem)
  · rcases List.mem_append.mp mem with old | new
    · exact .inl (released old)
    · rw [release_upcoming] at new
      exact .inr (List.mem_singleton.mp new)

theorem arm_refused (delay : Ticks) {e : AlarmError} (refused : c.refusal kind = some e) :
    c.arm kind delay = (.error e, c) := by
  simp [arm, refused]

section Rearm

variable (distinct : c.Distinct) (holds : (c.pending kind).map (·.handle) = held.toList)
include distinct holds

/-- With what was held given back, an alarm that is granted is the only one of its
kind. -/
theorem rearm_granted (delay : Ticks) (granted : c.refusal kind = none) :
    ((c.release held).arm kind delay).1 = .ok c.nextHandle ∧
      ((c.release held).arm kind delay).2.pending kind = [c.upcoming kind delay] := by
  have released := pending_release distinct holds
  rw [← release_refusal c held] at granted
  rw [← release_upcoming c held, ← release_nextHandle c held]
  rw [pending] at released ⊢
  simp [arm, granted, released, upcoming]

/-- An alarm that is refused leaves none. -/
theorem rearm_refused (delay : Ticks) {e : AlarmError} (refused : c.refusal kind = some e) :
    (c.release held).arm kind delay = (.error e, c.release held) ∧
      (c.release held).pending kind = [] :=
  ⟨arm_refused delay ((release_refusal c held kind).trans refused),
    pending_release distinct holds⟩

/-- What the host hands out, or does not, is the live callback of the kind. -/
theorem pending_rearm (delay : Ticks) :
    (((c.release held).arm kind delay).2.pending kind).map (·.handle) =
      ((c.release held).arm kind delay).1.toOption.toList := by
  cases refusal : c.refusal kind with
  | none =>
    obtain ⟨answer, live⟩ := rearm_granted distinct holds delay refusal
    rw [live, answer]
    rfl
  | some e =>
    obtain ⟨refused, none⟩ := rearm_refused distinct holds delay refusal
    rw [refused, none]
    rfl

end Rearm

theorem Distinct.consume (distinct : c.Distinct) (kind : AlarmKind) :
    (c.consume kind).Distinct where
  nodup := distinct.nodup.sublist (List.eraseP_sublist.map _)
  fresh k mem := distinct.fresh k (List.mem_of_mem_eraseP mem)

theorem pending_consume (c : AlarmClock) (kind : AlarmKind) :
    (c.consume kind).pending kind = (c.pending kind).tail := by
  unfold pending consume
  dsimp only
  induction c.live with
  | nil => rfl
  | cons k l ih => by_cases same : k.kind = kind <;> simp [same, ih]

theorem pending_consume_other (c : AlarmClock) (ne : other ≠ kind) :
    (c.consume kind).pending other = c.pending other := by
  unfold pending consume
  dsimp only
  induction c.live with
  | nil => rfl
  | cons k l ih =>
    by_cases same : k.kind = kind
    · simp [same, Ne.symm ne]
    · by_cases also : k.kind = other
      · simp [also, ne, ih]
      · simp [same, also, ih]

theorem mem_pending_of_first? {k : Callback} (first : c.first? kind = some k) :
    k ∈ c.pending kind := by
  rw [first?] at first
  have chosen := List.find?_some first
  exact List.mem_filter.mpr ⟨List.mem_of_find?_eq_some first, chosen⟩

end AlarmClock

namespace Node

open AlarmClock

variable {M ε : Type} {n m : Node M}

/-- The handle that a node holds for alarms of a kind. -/
def held (n : Node M) : AlarmKind → Option Nat
  | .slot => n.slotAlarm
  | .beacon => n.beaconAlarm

theorem held_congr (slot : m.slotAlarm = n.slotAlarm) (beacon : m.beaconAlarm = n.beaconAlarm) :
    m.held = n.held := by
  funext kind
  cases kind with
  | slot => exact slot
  | beacon => exact beacon

/-- The live callbacks are the ones that the node holds. -/
structure Holds (n : Node M) : Prop where
  distinct : n.alarms.Distinct
  live : ∀ kind, (n.alarms.pending kind).map (·.handle) = (n.held kind).toList

theorem Holds.congr (h : n.Holds) (live : m.alarms.live = n.alarms.live)
    (next : m.alarms.nextHandle = n.alarms.nextHandle) (held : m.held = n.held) : m.Holds := by
  refine ⟨⟨?_, ?_⟩, ?_⟩
  · rw [live]
    exact h.distinct.nodup
  · rw [live, next]
    exact h.distinct.fresh
  · intro kind
    rw [pending, live, held]
    exact h.live kind

/-- The live callback of one kind is the one that the node holds. What it holds of
the other kind is none of it, even if it came or was lost long ago. -/
structure Keeps (kind : AlarmKind) (n : Node M) : Prop where
  distinct : n.alarms.Distinct
  live : (n.alarms.pending kind).map (·.handle) = (n.held kind).toList
  apart : ∀ other, other ≠ kind → ∀ handle, n.held other = some handle →
    handle < n.alarms.nextHandle ∧ n.held kind ≠ some handle

namespace Keeps

variable {kind : AlarmKind}

theorem congr (h : n.Keeps kind) (distinct : m.alarms.Distinct)
    (pending : m.alarms.pending kind = n.alarms.pending kind)
    (next : m.alarms.nextHandle = n.alarms.nextHandle) (held : m.held = n.held) :
    m.Keeps kind := by
  refine ⟨distinct, ?_, ?_⟩
  · rw [pending, held]
    exact h.live
  · rw [next, held]
    exact h.apart

/-- Nothing is held, and nothing comes. -/
theorem pending_eq_nil (h : n.Keeps kind) (unheld : n.held kind = none) :
    n.alarms.pending kind = [] := by
  have live := h.live
  rw [unheld] at live
  exact List.map_eq_nil_iff.mp live

theorem held_of_mem (h : n.Keeps kind) {k : Callback} (mem : k ∈ n.alarms.pending kind) :
    n.held kind = some k.handle := by
  have held : k.handle ∈ (n.held kind).toList := h.live ▸ List.mem_map_of_mem mem
  exact Option.mem_toList.mp held

/-- What is held comes. -/
theorem exists_pending (h : n.Keeps kind) {handle : Nat} (held : n.held kind = some handle) :
    ∃ k ∈ n.alarms.pending kind, k.handle = handle := by
  have mem : handle ∈ (n.alarms.pending kind).map (·.handle) := by simp [h.live, held]
  exact List.mem_map.mp mem

/-- The handle that is held is not one to come. -/
theorem held_ne_next (h : n.Keeps kind) : n.held kind ≠ some n.alarms.nextHandle := by
  intro held
  obtain ⟨k, pending, same⟩ := h.exists_pending held
  exact Nat.ne_of_lt (h.distinct.fresh k (List.mem_of_mem_filter pending)) same

section Rearm

variable {armed : AlarmKind} {delay : Ticks} (h : n.Keeps kind)
  (alarms : m.alarms = ((n.alarms.release (n.held armed)).arm armed delay).2)
include h alarms

/-- Arming an alarm of the other kind leaves the callback of this one. -/
theorem pending_rearm_other (other : armed ≠ kind) :
    m.alarms.pending kind = n.alarms.pending kind := by
  rw [alarms]
  refine (pending_arm_other delay other.symm).trans (pending_release_of_ne h.distinct ?_)
  intro k mem held
  exact (h.apart armed other k.handle held).2 (h.held_of_mem mem)

/-- Arming an alarm of either kind keeps what is held in step with the host. -/
theorem rearm
    (answer : m.held armed = ((n.alarms.release (n.held armed)).arm armed delay).1.toOption)
    (others : ∀ other, other ≠ armed → m.held other = n.held other) : m.Keeps kind := by
  have older : n.alarms.nextHandle ≤ m.alarms.nextHandle := alarms ▸ nextHandle_le_rearm ..
  have granted {handle : Nat} (held : m.held armed = some handle) :
      handle = n.alarms.nextHandle ∧ handle < m.alarms.nextHandle :=
    alarms ▸ rearm_toOption (answer.symm.trans held)
  have distinct : m.alarms.Distinct := alarms ▸ (h.distinct.release _).arm armed delay
  by_cases own : armed = kind
  · subst own
    refine ⟨distinct, ?_, fun other ne handle held => ?_⟩
    · rw [alarms, answer]
      exact pending_rearm h.distinct h.live delay
    · have old := (h.apart other ne handle (others other ne ▸ held)).1
      refine ⟨Nat.lt_of_lt_of_le old older, fun same => ?_⟩
      exact Nat.ne_of_lt old (granted same).1
  · have still := others kind (Ne.symm own)
    refine ⟨distinct, ?_, fun other ne handle held => ?_⟩
    · rw [h.pending_rearm_other alarms own, still]
      exact h.live
    · rw [still]
      by_cases new : other = armed
      · subst new
        obtain ⟨next, lt⟩ := granted held
        exact ⟨lt, next ▸ h.held_ne_next⟩
      · obtain ⟨lt, apart⟩ := h.apart other ne handle (others other new ▸ held)
        exact ⟨Nat.lt_of_lt_of_le lt older, apart⟩

end Rearm

/-- The host takes out a callback of the other kind. -/
theorem consume_other (h : n.Keeps kind) {other : AlarmKind} (ne : kind ≠ other) :
    (n.consumed other).Keeps kind :=
  h.congr (h.distinct.consume other) (pending_consume_other _ ne) rfl (held_congr rfl rfl)

/-- A beacon alarm that is granted is the only one to come. -/
theorem armBeacon (h : n.Keeps .beacon) (granted : n.alarms.refusal .beacon = none)
    (delay : Ticks) :
    (n.armBeaconAlarm delay : Reply ε × Node M).1 = .ok () ∧
      (n.armBeaconAlarm delay : Reply ε × Node M).2.alarms.pending .beacon =
        [n.alarms.upcoming .beacon delay] := by
  obtain ⟨answer, live⟩ := rearm_granted h.distinct h.live delay granted
  obtain ⟨_, same⟩ := n.armBeaconAlarm_eq (ε := ε) delay
  constructor
  · rw [armBeaconAlarm]
    split
    · rfl
    · next refused =>
      rw [held, refused] at answer
      cases answer
  · rw [same]
    exact live

end Keeps

/-- Live callbacks of two kinds have different handles, so both kinds are kept where
both are held. -/
theorem holds_iff : n.Holds ↔ ∀ kind, n.Keeps kind := by
  constructor
  · intro h kind
    refine ⟨h.distinct, h.live kind, fun other ne handle held => ?_⟩
    have mem : handle ∈ (n.alarms.pending other).map (·.handle) := by simp [h.live, held]
    obtain ⟨k, pending, same⟩ := List.mem_map.mp mem
    have live := List.mem_of_mem_filter pending
    refine ⟨same ▸ h.distinct.fresh k live, fun also => ?_⟩
    have mem : handle ∈ (n.alarms.pending kind).map (·.handle) := by simp [h.live, also]
    obtain ⟨k', pending', same'⟩ := List.mem_map.mp mem
    have live' := List.mem_of_mem_filter pending'
    have equal := List.inj_on_of_nodup_map h.distinct.nodup live live' (same.trans same'.symm)
    exact ne ((mem_pending.mp pending).2.symm.trans (equal ▸ (mem_pending.mp pending').2))
  · intro h
    exact ⟨(h .slot).distinct, fun kind => (h kind).live⟩

/-- A node that is set up with a host without callbacks. -/
theorem fresh_holds (address : Address) (config : Config) (medium : M) {alarms : AlarmClock}
    (unused : alarms.live = []) (words : WordSource) :
    (fresh address config medium alarms words).Holds := by
  refine ⟨⟨?_, ?_⟩, ?_⟩
  · simp [fresh, unused]
  · simp [fresh, unused]
  · intro kind
    cases kind <;> simp [fresh, unused, AlarmClock.pending, held]

/-- Nothing is held, and nothing comes. -/
theorem Holds.pending_eq_nil (h : n.Holds) {kind : AlarmKind} (unheld : n.held kind = none) :
    n.alarms.pending kind = [] := (holds_iff.mp h kind).pending_eq_nil unheld

section Medium

variable [Medium M ε] {kinds : List Deed} {d : Deed}

/-- Asking for an alarm of a kind. -/
def Deed.arm : AlarmKind → Deed
  | .slot => .armSlot
  | .beacon => .armBeacon

/-- Letting go of an alarm of a kind. -/
def Deed.spend : AlarmKind → Deed
  | .slot => .spendSlot
  | .beacon => .spendBeacon

/-- What a deed does about the alarms: it leaves them, lets go of a handle, or gives
one back and asks for another. -/
theorem Step.alarms_cases (step : Step d n m) :
    m.alarms = n.alarms ∧ m.held = n.held ∨
    (∃ kind, d = .spend kind ∧ m = n.spent kind) ∨
    ∃ kind delay, d = .arm kind ∧
      m.alarms = ((n.alarms.release (n.held kind)).arm kind delay).2 ∧
      m.held kind = ((n.alarms.release (n.held kind)).arm kind delay).1.toOption ∧
      ∀ other, other ≠ kind → m.held other = n.held other := by
  have kept := step.kept
  cases step with
  | spendSlot => exact .inr (.inl ⟨.slot, rfl, rfl⟩)
  | spendBeacon => exact .inr (.inl ⟨.beacon, rfl, rfl⟩)
  | armSlot delay purpose =>
    obtain ⟨_, _, _, _, _, _, same⟩ := n.armSlotAlarm_eq (ε := ε) delay purpose
    rw [same]
    refine .inr (.inr ⟨.slot, delay, rfl, rfl, rfl, fun other ne => ?_⟩)
    cases other with
    | slot => exact absurd rfl ne
    | beacon => rfl
  | armBeacon delay =>
    obtain ⟨_, same⟩ := n.armBeaconAlarm_eq (ε := ε) delay
    rw [same]
    refine .inr (.inr ⟨.beacon, delay, rfl, rfl, rfl, fun other ne => ?_⟩)
    cases other with
    | slot => rfl
    | beacon => exact absurd rfl ne
  | _ =>
    exact .inl ⟨kept.alarms (by decide),
      held_congr (kept.slotAlarm (by decide)) (kept.beaconAlarm (by decide))⟩

theorem spent_held (n : Node M) (kind : AlarmKind) :
    (n.spent kind).held kind = none ∧
      ∀ other, other ≠ kind → (n.spent kind).held other = n.held other := by
  cases kind with
  | slot =>
    obtain ⟨_, same⟩ := { n with slotAlarm := none }.noteLateness_eq
    rw [spent, same]
    refine ⟨rfl, fun other ne => ?_⟩
    cases other with
    | slot => exact absurd rfl ne
    | beacon => rfl
  | beacon =>
    refine ⟨rfl, fun other ne => ?_⟩
    cases other with
    | slot => rfl
    | beacon => exact absurd rfl ne

theorem spent_alarms (n : Node M) (kind : AlarmKind) : (n.spent kind).alarms = n.alarms := by
  cases kind with
  | slot =>
    obtain ⟨_, same⟩ := { n with slotAlarm := none }.noteLateness_eq
    rw [spent, same]
  | beacon => rfl

theorem expireSync_held (n : Node M) :
    n.expireSync.alarms = n.alarms ∧ n.expireSync.held = n.held := by
  obtain ⟨_, _, same⟩ := n.expireSync_eq
  rw [same]
  exact ⟨rfl, held_congr rfl rfl⟩

/-! ## One kind of alarm by itself -/

section Keeps

variable {kind : AlarmKind}

theorem Step.keeps (step : Step d n m) (spends : d ≠ .spend kind) (h : n.Keeps kind) :
    m.Keeps kind := by
  rcases step.alarms_cases with ⟨alarms, held⟩ | ⟨other, rfl, rfl⟩ | ⟨armed, delay, -, alarms,
    answer, others⟩
  · exact h.congr (alarms ▸ h.distinct) (by rw [alarms]) (by rw [alarms]) held
  · -- letting go of the other handle gives up nothing that is live
    have ne : kind ≠ other := fun same => spends (same ▸ rfl)
    obtain ⟨gone, rest⟩ := n.spent_held other
    refine ⟨(n.spent_alarms other).symm ▸ h.distinct, ?_, fun also apart handle held => ?_⟩
    · rw [spent_alarms, rest kind ne]
      exact h.live
    · have before : n.held also = some handle := by
        by_cases same : also = other
        · rw [same, gone] at held
          cases held
        · exact rest also same ▸ held
      rw [spent_alarms, rest kind ne]
      exact h.apart also apart handle before
  · exact h.rearm alarms answer others

/-- Only arming the alarm of a kind changes which of them are to come. -/
theorem Step.pending_eq (step : Step d n m) (arms : d ≠ .arm kind) (h : n.Keeps kind) :
    m.alarms.pending kind = n.alarms.pending kind := by
  rcases step.alarms_cases with ⟨alarms, -⟩ | ⟨other, -, rfl⟩ | ⟨armed, delay, is, alarms, -⟩
  · rw [alarms]
  · rw [spent_alarms]
  · exact h.pending_rearm_other alarms fun same => arms (same ▸ is)

theorem Path.keepsAlarm (path : Path kinds n m) (spends : .spend kind ∉ kinds)
    (h : n.Keeps kind) : m.Keeps kind := by
  refine path.keeps (P := Keeps kind) (fun mem step h => step.keeps ?_ h) h
  rintro rfl
  exact spends mem

/-- A callback that the host takes out and the node lets go of is gone on both
sides. -/
theorem Keeps.spent (h : n.Keeps kind) (fired : AlarmKind)
    (came : m.alarms = n.alarms.consume fired) (held : m.held = n.held) :
    (m.spent fired).Keeps kind := by
  obtain ⟨gone, others⟩ := m.spent_held fired
  have alarms : (m.spent fired).alarms = n.alarms.consume fired := (spent_alarms ..).trans came
  have older {other : AlarmKind} {handle : Nat} (now : (m.spent fired).held other = some handle) :
      n.held other = some handle := by
    by_cases same : other = fired
    · rw [same, gone] at now
      cases now
    · rw [← held, ← others other same]
      exact now
  refine ⟨alarms ▸ h.distinct.consume fired, ?_, fun other ne handle now => ?_⟩
  · rw [alarms]
    by_cases same : kind = fired
    · rw [← same] at gone ⊢
      rw [gone, pending_consume, List.map_tail, h.live]
      cases n.held kind <;> rfl
    · rw [others kind same, pending_consume_other _ same, held]
      exact h.live
  · obtain ⟨before, apart⟩ := h.apart other ne handle (older now)
    rw [alarms]
    exact ⟨before, fun same => apart (older same)⟩

theorem Keeps.fired (h : n.Keeps kind) (fired : AlarmKind) :
    ((n.consumed fired).expireSync.spent fired).Keeps kind := by
  obtain ⟨alarms, held⟩ := (n.consumed fired).expireSync_held
  exact h.spent fired alarms (held.trans (held_congr rfl rfl))

end Keeps

/-! ## Both kinds of alarms -/

theorem Step.holds (step : Step d n m) (spends : d ∉ [.spendSlot, .spendBeacon]) (h : n.Holds) :
    m.Holds := by
  refine holds_iff.mpr fun kind => step.keeps ?_ (holds_iff.mp h kind)
  rintro rfl
  cases kind <;> simp [Deed.spend] at spends

theorem Path.holds (path : Path kinds n m)
    (spends : .spendSlot ∉ kinds ∧ .spendBeacon ∉ kinds := by decide) (h : n.Holds) :
    m.Holds := by
  refine holds_iff.mpr fun kind => path.keepsAlarm ?_ (holds_iff.mp h kind)
  cases kind with
  | slot => exact spends.1
  | beacon => exact spends.2

theorem Holds.spent (h : n.Holds) (kind : AlarmKind) (came : m.alarms = n.alarms.consume kind)
    (held : m.held = n.held) : (m.spent kind).Holds :=
  holds_iff.mpr fun other => (holds_iff.mp h other).spent kind came held

theorem Holds.fired (h : n.Holds) (kind : AlarmKind) :
    ((n.consumed kind).expireSync.spent kind).Holds :=
  holds_iff.mpr fun other => (holds_iff.mp h other).fired kind

/-- A callback that comes leaves the node with what the host has. -/
theorem alarmFired_holds (sound : n.Sound) (h : n.Holds) (kind : AlarmKind) :
    Yields ((n.consumed kind).alarmFired kind : Except Fault (Reply ε × Node M)) fun out =>
      out.2.Holds := by
  have inOrder : (n.consumed kind).Sound := sound.amid _ _
  refine (alarmFired_spent inOrder kind).mono ?_
  rintro out ⟨path, -⟩
  refine path.holds ?_ (h.fired kind)
  cases kind with
  | slot =>
    rw [firing]
    split <;> decide
  | beacon => simp only [firing]; decide

theorem perform_holds (sound : n.Sound) (h : n.Holds) (operation : Operation)
    (other : ∀ kind, operation ≠ .alarmFired kind) :
    Yields (n.perform operation) fun out => out.2.Holds := by
  refine (perform_yields sound operation).mono ?_
  rintro out ⟨path, -⟩
  refine path.holds ?_ h
  cases operation with
  | alarmFired kind => exact absurd rfl (other kind)
  | _ => simp [deeds, Deed.following]

/-! ## Alarms that are granted -/

/-- No alarm is refused. -/
def Granted (n : Node M) : Prop := ∀ kind, n.alarms.refusal kind = none

omit [Medium M ε] in
theorem armSlotAlarm_held (granted : n.Granted) (delay : Ticks) (purpose : Arbitration) :
    (n.armSlotAlarm delay purpose : Reply ε × Node M).2.slotAlarm.isSome := by
  obtain ⟨_, _, _, _, _, _, same⟩ := n.armSlotAlarm_eq (ε := ε) delay purpose
  rw [same]
  simp [arm, release_refusal, granted .slot, Except.toOption]

/-- No deed changes which alarms are refused. -/
theorem Step.refusal (step : Step d n m) : m.alarms.refusal = n.alarms.refusal := by
  funext kind
  rcases step.alarms_cases with ⟨alarms, -⟩ | ⟨other, -, rfl⟩ | ⟨other, delay, -, alarms, -⟩
  · rw [alarms]
  · rw [spent_alarms]
  · rw [alarms, arm_refusal, release_refusal]

theorem Path.refusal (path : Path kinds n m) : m.alarms.refusal = n.alarms.refusal :=
  path.keeps (P := fun k => k.alarms.refusal = n.alarms.refusal)
    (fun _ step so_far => step.refusal.trans so_far) rfl

theorem Step.granted (step : Step d n m) (h : n.Granted) : m.Granted := by
  rw [Granted, step.refusal]
  exact h

theorem Path.granted (path : Path kinds n m) (h : n.Granted) : m.Granted :=
  path.keeps (fun _ step h => step.granted h) h

/-- A slot alarm that is held is given back for another one only. -/
theorem Path.slotAlarm_held (path : Path kinds n m) (spends : .spendSlot ∉ kinds := by decide)
    (granted : n.Granted) (held : n.slotAlarm.isSome) : m.slotAlarm.isSome := by
  have kept : m.Granted ∧ m.slotAlarm.isSome := by
    refine path.keeps (P := fun k => k.Granted ∧ k.slotAlarm.isSome) ?_ ⟨granted, held⟩
    rintro a b d mem step ⟨granted, held⟩
    refine ⟨step.granted granted, ?_⟩
    have kept := step.kept
    cases step with
    | spendSlot => exact absurd mem spends
    | armSlot delay purpose => exact armSlotAlarm_held granted delay purpose
    | _ =>
      rw [kept.slotAlarm (by decide)]
      exact held
  exact kept.2

/-- A look at the slot leaves the node with a slot alarm. -/
theorem Looks.slotAlarm_held {out : Reply ε × Node M} (h : Looks kinds n out)
    (granted : n.Granted) : out.2.slotAlarm.isSome := by
  obtain ⟨m, path, -, same⟩ := h
  rw [same]
  exact armSlotAlarm_held (path.granted granted) _ _

/-- So does a frame that was taken over. -/
theorem arrange_held (sound : n.Sound) (granted : n.Granted) :
    Yields (n.arrange : Except Fault (Reply ε × Node M)) fun out => out.2.slotAlarm.isSome := by
  have inOrder := n.aligned_path.sound sound
  rw [arrange]
  rw [placement_eq sound]
  simp only [bind, Except.bind]
  split
  · have drawn : Step .draw n.aligned _ := .draw
    exact Yields.pure_iff.mpr (armSlotAlarm_held (drawn.granted granted) _ _)
  · split
    · exact (attendSlot_looks [.align, .offer, .armSlot] inOrder false).mono fun _ looks =>
        looks.slotAlarm_held granted
    · next held =>
      simp only [Bool.or_eq_true, not_or, Bool.not_eq_true, Option.isNone_eq_false_iff] at held
      exact Yields.pure_iff.mpr held.1

end Medium

end Node

/-- Stimuli of a host that lets an alarm come exactly when it takes out a
callback. -/
def Stimulus.Disciplined {M : Type} : Stimulus M → Prop
  | .operate (.alarmFired _) => False
  | .lose _ => False
  | _ => True

namespace Node

variable {M ε : Type} [Medium M ε] {n : Node M}

/-- Such a host and its node stay of one mind about what is live. -/
theorem undergo_holds (sound : n.Sound) (holds : n.Holds) {stimulus : Stimulus M}
    (disciplined : stimulus.Disciplined) :
    Yields (n.undergo stimulus) fun out => out.2.Holds := by
  cases stimulus with
  | operate operation =>
    refine (perform_holds sound holds operation ?_).bind fun _ done => Yields.pure_iff.mpr done
    rintro kind rfl
    exact disciplined
  | fire kind =>
    exact undergo_fire (Q := Holds) (fun _ => holds) fun _ _ => alarmFired_holds sound holds kind
  | lose kind => exact disciplined.elim
  | clock time => exact Yields.ok_iff.mpr (holds.congr rfl rfl (held_congr rfl rfl))
  | refuse kind error =>
    have live := n.alarms.refuse_live kind error
    have next := n.alarms.refuse_nextHandle kind error
    exact Yields.ok_iff.mpr (holds.congr live next (held_congr rfl rfl))
  | medium medium => exact Yields.ok_iff.mpr (holds.congr rfl rfl (held_congr rfl rfl))

/-- Whatever happens, a frame that waits is attended to. -/
theorem undergo_attended (sound : n.Sound) (attended : n.Attended) (stimulus : Stimulus M) :
    Yields (n.undergo stimulus) fun out => out.2.Attended := by
  refine undergo_yields (Q := fun _ m => m.Attended) (fun _ _ _ => attended) ?_
  intro alarms medium operation _
  exact (perform_yields (sound.amid alarms medium) operation).mono fun _ done => done.2 attended

end Node

open Node

/-- At the end of every course in which the host lets alarms come as it takes
out callbacks, the live callback of each kind is the one that the node holds, if
it holds one. A frame that waits has a slot alarm that will see to it. -/
theorem alarms_held {M ε : Type} [Medium M ε] {config : Config} (valid : config.Valid)
    (address : Address) (medium : M) {alarms : AlarmClock} (unused : alarms.live = [])
    (words : WordSource) (stimuli : List (Stimulus M))
    (disciplined : ∀ stimulus ∈ stimuli, stimulus.Disciplined) :
    ∃ answers n, lifetime address config medium alarms words stimuli = .ok (.ok (answers, n)) ∧
      (n.alarms.live.filter (·.kind == .slot)).map (·.handle) = n.slotAlarm.toList ∧
      (n.alarms.live.filter (·.kind == .beacon)).map (·.handle) = n.beaconAlarm.toList ∧
      (n.outbox.isSome → n.slotAlarm.isSome) := by
  have start := fresh_holds address config medium unused words
  have idle : (fresh address config medium alarms words).Attended := by
    intro waits
    cases waits
  obtain ⟨answers, n, done, ⟨holds, attended⟩, -⟩ :=
    lifetime_yields (P := fun _ _ m => m.Holds ∧ m.Attended) stimuli valid ⟨start, idle⟩ (by
      rintro past answers m stimulus mem sound ⟨holds, attended⟩
      exact (undergo_holds sound holds (disciplined stimulus mem)).and
        (undergo_attended sound attended stimulus))
  exact ⟨answers, n, done, holds.live .slot, holds.live .beacon, attended⟩

/-- A frame is captured and the slot alarm that looks after it comes, while the
host has no slot alarm left: the frame is given up rather than stranded. -/
theorem alarms_held_refused :
    ∃ answers n,
      lifetime 3 {} ({} : RecordingMedium) {} (.cycle [])
          [.operate (.send 7 0 [1]), .refuse .slot (some .exhausted), .fire .slot] =
        .ok (.ok (answers, n)) ∧
      (n.alarms.live.filter (·.kind == .slot)).map (·.handle) = n.slotAlarm.toList ∧
      (n.alarms.live.filter (·.kind == .beacon)).map (·.handle) = n.beaconAlarm.toList ∧
      (n.outbox.isSome → n.slotAlarm.isSome) :=
  alarms_held Config.valid_default 3 ({} : RecordingMedium) rfl (.cycle [])
    [.operate (.send 7 0 [1]), .refuse .slot (some .exhausted), .fire .slot]
    (by simp [Stimulus.Disciplined])

end SlottedMac
