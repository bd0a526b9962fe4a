import SlottedMac.Proofs.Alarms
import SlottedMac.Proofs.Node.Journal

/-!
# Callbacks that come in batches

A host may take out all callbacks that are due before it tells the node of any of them.
When an alarm comes, the node lets go of the handle that it holds for the kind, since its
host has used the callback up. Inside a batch that need not be so: what was called for
first may have asked for a newer alarm of the other kind, and then the handle of that one
is gone while its callback is live. Nobody can cancel it any more.

The host owes the node a call for every callback that it took out. What it owes and what
is live add up to what the node holds and what went astray, through every deed. So one
kind of call is left that makes callbacks go astray: that for a beacon which moves the
slot alarm while a call for the slot alarm is owed.
-/

namespace SlottedMac

namespace AlarmClock

variable {c : AlarmClock} {kind : AlarmKind} {held : Option Nat}

theorem pending_release_filter (distinct : c.Distinct) :
    (c.release held).pending kind = (c.pending kind).filter (held ≠ some ·.handle) := by
  cases held with
  | none => simp
  | some handle =>
    rw [release_some, pending, pending, cancel_live distinct, List.filter_filter,
      List.filter_filter]
    apply List.filter_congr
    intro k _
    grind

/-- Giving an alarm back and asking for another one leaves the others of the kind, and
adds one or none. -/
theorem rearm_cases (held : Option Nat) (kind : AlarmKind) (distinct : c.Distinct) (delay : Ticks) :
    ((c.release held).arm kind delay).1 = .ok c.nextHandle ∧
        ((c.release held).arm kind delay).2.pending kind =
          (c.pending kind).filter (held ≠ some ·.handle) ++ [c.upcoming kind delay] ∨
      ∃ e, ((c.release held).arm kind delay).1 = .error e ∧
        ((c.release held).arm kind delay).2.pending kind =
          (c.pending kind).filter (held ≠ some ·.handle) := by
  rw [← pending_release_filter distinct, ← release_upcoming c held, ← release_nextHandle c held]
  cases refusal : (c.release held).refusal kind with
  | none =>
    left
    simp [arm, refusal, pending, upcoming]
  | some e => exact .inr ⟨e, by simp [arm_refused delay refusal]⟩

end AlarmClock

/-- The kinds of callbacks that a host owes calls for after an operation. It calls only for what
it owes, and does nothing else to the node before it called for all of them. -/
def Operation.settles (owed : List AlarmKind) : Operation → Option (List AlarmKind)
  | .alarmFired kind => if kind ∈ owed then some (owed.erase kind) else none
  | _ => if owed = [] then some [] else none

namespace Node

open AlarmClock

variable {M ε : Type} {n m : Node M} {kind : AlarmKind}

/-- Handles tell live callbacks apart. The ones that the node holds were given out before, and
each for its kind. -/
structure Orderly (n : Node M) : Prop where
  distinct : n.alarms.Distinct
  older : ∀ kind handle, n.held kind = some handle → handle < n.alarms.nextHandle
  own : ∀ kind, ∀ k ∈ n.alarms.live, n.held kind = some k.handle → k.kind = kind

/-- The live callbacks of a kind that the node has no handle of. -/
def strays (n : Node M) (kind : AlarmKind) : List Callback :=
  (n.alarms.pending kind).filter (n.held kind ≠ some ·.handle)

/-- Whether the node holds a handle of a kind whose callback is live no more. -/
def outlived (n : Node M) (kind : AlarmKind) : Bool :=
  (n.held kind).any fun handle => (n.alarms.pending kind).all (·.handle != handle)

theorem outlived_of_unheld (unheld : n.held kind = none) : n.outlived kind = false := by
  simp [outlived, unheld]

/-- A handle that did not outlive its callback can be used to cancel it. -/
theorem exists_live_of_held {handle : Nat} (held : n.held kind = some handle)
    (lasts : n.outlived kind = false) : ∃ k ∈ n.alarms.live, k.kind = kind ∧ k.handle = handle := by
  simp only [outlived, held, Option.any_some, List.all_eq_false, bne_iff_ne, not_not] at lasts
  obtain ⟨k, mem, same⟩ := lasts
  exact ⟨k, (mem_pending.mp mem).1, (mem_pending.mp mem).2, same⟩

namespace Orderly

theorem congr (h : n.Orderly) (live : m.alarms.live = n.alarms.live)
    (next : m.alarms.nextHandle = n.alarms.nextHandle) (held : m.held = n.held) :
    m.Orderly := by
  refine ⟨⟨?_, ?_⟩, ?_, ?_⟩
  · rw [live]
    exact h.distinct.nodup
  · rw [live, next]
    exact h.distinct.fresh
  · rw [next, held]
    exact h.older
  · rw [live, held]
    exact h.own

theorem consumed (h : n.Orderly) (kind : AlarmKind) : (n.consumed kind).Orderly where
  distinct := h.distinct.consume kind
  older := h.older
  own other k mem held := h.own other k (List.mem_of_mem_eraseP mem) held

/-- Each live callback of a kind is held or went astray. -/
theorem length_pending (h : n.Orderly) (kind : AlarmKind) :
    (n.alarms.pending kind).length + (n.outlived kind).toNat =
      (n.strays kind).length + (n.held kind).toList.length := by
  rw [outlived, strays]
  cases n.held kind with
  | none => simp
  | some handle =>
    have nodup : ((n.alarms.pending kind).map (·.handle)).Nodup :=
      h.distinct.nodup.sublist (List.filter_sublist.map _)
    have found := nodup.count (a := handle)
    have split := List.length_eq_length_filter_add (l := n.alarms.pending kind)
      (some handle ≠ some ·.handle)
    rw [List.count, List.countP_map, List.countP_eq_length_filter] at found
    have same : (n.alarms.pending kind).filter ((· == handle) ∘ (·.handle)) =
        (n.alarms.pending kind).filter fun k => !decide (some handle ≠ some k.handle) :=
      List.filter_congr fun k _ => by grind
    rw [same] at found
    rw [split, found]
    by_cases mem : handle ∈ (n.alarms.pending kind).map (·.handle)
    · have lasts : (n.alarms.pending kind).all (·.handle != handle) = false := by
        simpa using mem
      simp [mem, lasts]
    · have gone : (n.alarms.pending kind).all (·.handle != handle) = true := by
        simpa using mem
      simp [mem, gone]

/-- What is left of the live callbacks of a kind when the held one is given back has an older
handle than the next one. -/
theorem handle_lt_of_mem_strays (h : n.Orderly) {k : Callback} (mem : k ∈ n.strays kind) :
    k.handle < n.alarms.nextHandle :=
  h.distinct.fresh k (mem_pending.mp (List.mem_of_mem_filter mem)).1

section Rearm

variable {armed : AlarmKind} {delay : Ticks} (h : n.Orderly)
  (alarms : m.alarms = ((n.alarms.release (n.held armed)).arm armed delay).2)
include h alarms

/-- Asking for an alarm of one kind leaves the callbacks of the other. -/
theorem pending_rearm_other (ne : kind ≠ armed) :
    m.alarms.pending kind = n.alarms.pending kind := by
  rw [alarms, pending_arm_other delay ne]
  refine pending_release_of_ne h.distinct fun k mem held => ne ?_
  obtain ⟨live, same⟩ := mem_pending.mp mem
  exact same.symm.trans (h.own armed k live held)

variable
  (answer : m.held armed = ((n.alarms.release (n.held armed)).arm armed delay).1.toOption)
include answer

/-- What is held after an alarm was asked for is live, and nothing else goes astray. -/
theorem strays_rearm : m.strays armed = n.strays armed ∧ m.outlived armed = false := by
  rw [strays, outlived, alarms, answer]
  rcases rearm_cases (n.held armed) armed h.distinct delay with
    ⟨granted, live⟩ | ⟨e, refused, live⟩
  · rw [granted, live]
    refine ⟨?_, by simp [upcoming, Except.toOption]⟩
    have kept : (n.strays armed).filter (some n.alarms.nextHandle ≠ some ·.handle) =
        n.strays armed := by
      refine List.filter_eq_self.mpr fun k mem => ?_
      simpa using (Nat.ne_of_lt (h.handle_lt_of_mem_strays mem)).symm
    show List.filter (some n.alarms.nextHandle ≠ some ·.handle) (n.strays armed ++ _) = _
    rw [List.filter_append, kept]
    simp [upcoming]
  · rw [refused, live]
    simp [Except.toOption, strays]

theorem rearm (others : ∀ other, other ≠ armed → m.held other = n.held other) : m.Orderly := by
  have later : n.alarms.nextHandle ≤ m.alarms.nextHandle := alarms ▸ nextHandle_le_rearm ..
  have granted {handle : Nat} (held : m.held armed = some handle) :
      handle = n.alarms.nextHandle ∧ handle < m.alarms.nextHandle :=
    alarms ▸ rearm_toOption (answer.symm.trans held)
  refine ⟨alarms ▸ (h.distinct.release _).arm armed delay, fun kind handle held => ?_,
    fun kind k mem held => ?_⟩
  · by_cases own : kind = armed
    · exact (granted (own ▸ held)).2
    · exact Nat.lt_of_lt_of_le (h.older kind handle (others kind own ▸ held)) later
  · rcases mem_rearm (alarms ▸ mem) with old | rfl
    · by_cases own : kind = armed
      · exact absurd (granted (own ▸ held)).1 (Nat.ne_of_lt (h.distinct.fresh k old))
      · exact h.own kind k old (others kind own ▸ held)
    · by_contra other
      exact Nat.lt_irrefl _ (h.older kind _ (others kind (Ne.symm other) ▸ held))

end Rearm

end Orderly

theorem fresh_orderly (address : Address) (config : Config) (medium : M) {alarms : AlarmClock}
    (unused : alarms.live = []) (words : WordSource) :
    (fresh address config medium alarms words).Orderly := by
  have holds := fresh_holds address config medium unused words
  refine ⟨holds.distinct, fun kind handle held => ?_, fun kind k live => ?_⟩
  · cases kind <;> cases held
  · simp [fresh, unused] at live

/-- No slot alarm was refused so far. -/
def Unrefused (n : Node M) : Prop := ∀ delay purpose, .slotAlarm delay purpose false ∉ n.journal

section Deeds

variable [Medium M ε] {kinds : List Deed} {d : Deed}

theorem Step.orderly (step : Step d n m) (h : n.Orderly) : m.Orderly := by
  rcases step.alarms_cases with ⟨alarms, held⟩ | ⟨other, -, rfl⟩ | ⟨armed, delay, -, alarms,
    answer, others⟩
  · exact h.congr (by rw [alarms]) (by rw [alarms]) held
  · obtain ⟨gone, rest⟩ := n.spent_held other
    have before {kind : AlarmKind} {handle : Nat}
        (held : (n.spent other).held kind = some handle) : n.held kind = some handle := by
      by_cases same : kind = other
      · rw [same, gone] at held
        cases held
      · exact rest kind same ▸ held
    refine ⟨?_, fun kind handle held => ?_, fun kind k mem held => ?_⟩
    · rw [spent_alarms]
      exact h.distinct
    · rw [spent_alarms]
      exact h.older kind handle (before held)
    · rw [spent_alarms] at mem
      exact h.own kind k mem (before held)
  · exact h.rearm alarms answer others

/-- Nothing goes astray but where a handle is let go of. -/
theorem Step.strays (step : Step d n m) (spends : d ≠ .spend kind) (h : n.Orderly) :
    m.strays kind = n.strays kind := by
  rcases step.alarms_cases with ⟨alarms, held⟩ | ⟨other, rfl, rfl⟩ | ⟨armed, delay, -, alarms,
    answer, others⟩
  · rw [Node.strays, alarms, held]
    rfl
  · have ne : kind ≠ other := fun same => spends (same ▸ rfl)
    rw [Node.strays, spent_alarms, (n.spent_held other).2 kind ne]
    rfl
  · by_cases own : kind = armed
    · rw [own]
      exact (h.strays_rearm alarms answer).1
    · rw [Node.strays, h.pending_rearm_other alarms own, others kind own]
      rfl

/-- A handle outlives its callback, or no longer does, only where one of the kind is asked
for or let go of. -/
theorem Step.outlived_eq (step : Step d n m) (spends : d ≠ .spend kind) (arms : d ≠ .arm kind)
    (h : n.Orderly) : m.outlived kind = n.outlived kind := by
  rcases step.alarms_cases with ⟨alarms, held⟩ | ⟨other, rfl, rfl⟩ | ⟨armed, delay, is, alarms,
    -, others⟩
  · rw [outlived, alarms, held]
    rfl
  · have ne : kind ≠ other := fun same => spends (same ▸ rfl)
    rw [outlived, spent_alarms, (n.spent_held other).2 kind ne]
    rfl
  · have ne : kind ≠ armed := fun same => arms (same ▸ is)
    rw [outlived, h.pending_rearm_other alarms ne, others kind ne]
    rfl

theorem Step.not_outlived (step : Step d n m) (spends : d ≠ .spend kind) (h : n.Orderly)
    (lasts : n.outlived kind = false) : m.outlived kind = false := by
  by_cases arms : d = .arm kind
  · subst arms
    rcases step.alarms_cases with ⟨alarms, held⟩ | ⟨other, is, -⟩ | ⟨armed, delay, is, alarms,
      answer, -⟩
    · rw [outlived, alarms, held]
      exact lasts
    · cases kind <;> cases other <;> cases is
    · have same : kind = armed := by cases kind <;> cases armed <;> first | rfl | cases is
      rw [same]
      exact (h.strays_rearm alarms answer).2
  · exact (step.outlived_eq spends arms h).trans lasts

theorem Path.orderly (path : Path kinds n m) (h : n.Orderly) : m.Orderly :=
  path.keeps (fun _ step h => step.orderly h) h

/-- What deeds of these kinds keep at orderly nodes, the path keeps. -/
theorem Path.keeps_orderly {P : Node M → Prop} (path : Path kinds n m)
    (step : ∀ {a b : Node M} {d : Deed}, d ∈ kinds → Step d a b → a.Orderly → P a → P b)
    (h : n.Orderly) (start : P n) : P m := by
  have kept : m.Orderly ∧ P m := by
    refine path.keeps (P := fun k => k.Orderly ∧ P k) ?_ ⟨h, start⟩
    rintro a b d mem deed ⟨orderly, holds⟩
    exact ⟨deed.orderly orderly, step mem deed orderly holds⟩
  exact kept.2

theorem Path.strays (path : Path kinds n m) (spends : .spend kind ∉ kinds) (h : n.Orderly) :
    m.strays kind = n.strays kind := by
  refine path.keeps_orderly (P := fun k => k.strays kind = n.strays kind) ?_ h rfl
  intro a b d mem step orderly same
  exact (step.strays (ne_of_mem_of_not_mem mem spends) orderly).trans same

theorem Path.outlived_eq (path : Path kinds n m) (spends : .spend kind ∉ kinds)
    (arms : .arm kind ∉ kinds) (h : n.Orderly) : m.outlived kind = n.outlived kind := by
  refine path.keeps_orderly (P := fun k => k.outlived kind = n.outlived kind) ?_ h rfl
  intro a b d mem step orderly same
  exact (step.outlived_eq (ne_of_mem_of_not_mem mem spends) (ne_of_mem_of_not_mem mem arms)
    orderly).trans same

theorem Path.not_outlived (path : Path kinds n m) (spends : .spend kind ∉ kinds) (h : n.Orderly)
    (lasts : n.outlived kind = false) : m.outlived kind = false := by
  refine path.keeps_orderly (P := fun k => k.outlived kind = false) ?_ h lasts
  intro a b d mem step orderly lasts
  exact step.not_outlived (ne_of_mem_of_not_mem mem spends) orderly lasts

/-! ## Slot alarms that are refused -/

omit [Medium M ε] in
theorem armSlotAlarm_unrefused {delay : Ticks} {purpose : Arbitration}
    (unrefused : (n.armSlotAlarm delay purpose : Reply ε × Node M).2.Unrefused) :
    (n.armSlotAlarm delay purpose : Reply ε × Node M).2.slotAlarm.isSome := by
  rw [armSlotAlarm] at unrefused ⊢
  split at unrefused
  · rfl
  · next alarms _ =>
    have grown (k : Node M) : Adds (fun _ => True) k k.abandon :=
      abandon_adds (fun _ => ⟨trivial, trivial⟩) k
    obtain ⟨added, same, -⟩ := grown
      { n with
        alarms
        slotAlarm := none
        arbitration := .idle
        journal := .slotAlarm delay purpose false :: n.journal }
    refine absurd ?_ (unrefused delay purpose)
    simp [same]

omit [Medium M ε] in
/-- A slot alarm that was asked for is live or not held at all. -/
theorem armSlotAlarm_strays (h : n.Orderly) (delay : Ticks) (purpose : Arbitration) :
    (n.armSlotAlarm delay purpose : Reply ε × Node M).2.strays .slot = n.strays .slot ∧
      (n.armSlotAlarm delay purpose : Reply ε × Node M).2.outlived .slot = false := by
  obtain ⟨_, _, _, _, _, _, same⟩ := n.armSlotAlarm_eq (ε := ε) delay purpose
  rw [same]
  exact h.strays_rearm rfl rfl

/-- What was written down stays. -/
theorem Path.unrefused (path : Path kinds n m) (unrefused : m.Unrefused) : n.Unrefused := by
  obtain ⟨added, same, -⟩ := path.adds
  intro delay purpose mem
  exact unrefused delay purpose (by simp [same, mem])

/-- A slot alarm in use is let go of only for a call, or for another one. -/
theorem Path.slotAlarm_none (path : Path kinds n m) (spends : .spendSlot ∉ kinds)
    (unrefused : m.Unrefused) (unheld : m.slotAlarm = none) : n.slotAlarm = none := by
  by_contra held
  have kept : m.Unrefused → m.slotAlarm ≠ none := by
    refine path.keeps (P := fun k => k.Unrefused → k.slotAlarm ≠ none) ?_ fun _ => held
    intro a b d mem step holds unrefused
    have kept := step.kept
    have before := holds (Path.unrefused (step.path mem) unrefused)
    cases step with
    | spendSlot => exact absurd mem spends
    | armSlot delay purpose => exact Option.isSome_iff_ne_none.mp (armSlotAlarm_unrefused unrefused)
    | _ =>
      rw [kept.slotAlarm (by decide)]
      exact before
  exact kept unrefused unheld

end Deeds

/-! ## What the host owes -/

/-- A host has taken out callbacks and owes the calls for some of them. Of a kind, as many
callbacks are live or owed as the node holds, and those that were lost to it. -/
structure Balanced (kind : AlarmKind) (lost : Nat) (owed : List AlarmKind) (n : Node M) :
    Prop where
  most : (n.alarms.pending kind).length + owed.count kind ≤ lost + (n.held kind).toList.length
  even : lost = 0 ∨ n.Unrefused →
    (n.alarms.pending kind).length + owed.count kind = lost + (n.held kind).toList.length
  idle : n.Unrefused → n.held kind = none → lost = 0
  owes : n.outlived kind → kind ∈ owed

namespace Balanced

variable {lost more : Nat} {owed rest : List AlarmKind}

theorem congr (h : n.Balanced kind lost owed)
    (pending : m.alarms.pending kind = n.alarms.pending kind) (held : m.held = n.held)
    (journal : m.journal = n.journal) (same : rest.count kind = owed.count kind) :
    m.Balanced kind lost rest := by
  obtain ⟨most, even, idle, owes⟩ := h
  refine ⟨?_, ?_, ?_, ?_⟩
  · rw [pending, held, same]
    exact most
  · rw [Unrefused, pending, held, journal, same]
    exact even
  · rw [Unrefused, held, journal]
    exact idle
  · rw [outlived, pending, held, ← List.count_pos_iff, same, List.count_pos_iff]
    exact owes

/-- A callback that is taken out is owed. -/
theorem consumed {other : AlarmKind} {callback : Callback} (h : n.Balanced kind lost owed)
    (live : n.alarms.first? other = some callback) :
    (n.consumed other).Balanced kind lost (other :: owed) := by
  by_cases same : kind = other
  · subst same
    have some := List.length_pos_of_mem (mem_pending_of_first? live)
    have count : (kind :: owed).count kind = owed.count kind + 1 := List.count_cons_self
    have left : ((n.consumed kind).alarms.pending kind).length + 1 =
        (n.alarms.pending kind).length := by
      show ((n.alarms.consume kind).pending kind).length + 1 = _
      rw [pending_consume, List.length_tail]
      omega
    refine ⟨?_, fun sure => ?_, h.idle, fun _ => List.mem_cons_self⟩
    · have := h.most
      show _ ≤ lost + (n.held kind).toList.length
      omega
    · have := h.even sure
      show _ = lost + (n.held kind).toList.length
      omega
  · refine h.congr (pending_consume_other _ same) rfl rfl ?_
    exact List.count_cons_of_ne (Ne.symm same)

section Operation

variable (h : n.Balanced kind lost owed) (after : m.Orderly) (unrefused : m.Unrefused → n.Unrefused)
include h after unrefused

/-- An operation that lets go of no handle of the kind leaves the account as it was, but for
a callback that is owed and outlived no more. -/
theorem passes (before : n.Orderly) (same : rest.count kind = owed.count kind)
    (strays : m.strays kind = n.strays kind)
    (outlived : (m.outlived kind).toNat + more = (n.outlived kind).toNat)
    (idle : m.Unrefused → m.held kind = none → lost + more = 0) :
    m.Balanced kind (lost + more) rest := by
  have here := before.length_pending kind
  have there := after.length_pending kind
  rw [strays] at there
  refine ⟨?_, ?_, idle, ?_⟩
  · have := h.most
    omega
  · intro sure
    have := h.even (sure.imp (by omega) unrefused)
    omega
  · intro lasts
    have : n.outlived kind = true := by
      simp only [lasts, Bool.toNat_true] at outlived
      cases was : n.outlived kind with
      | false => simp [was] at outlived
      | true => rfl
    have := List.count_pos_iff.mpr (h.owes this)
    exact List.count_pos_iff.mp (same ▸ this)

/-- A call that is owed lets go of the handle, whether its callback is live or not. -/
theorem called (mem : kind ∈ owed) (strays : m.strays kind = n.alarms.pending kind)
    (lasts : m.outlived kind = false) (idle : m.Unrefused → m.held kind = none → lost = 0) :
    m.Balanced kind lost (owed.erase kind) := by
  have there := after.length_pending kind
  have count := List.count_pos_iff.mpr mem
  have one : (n.held kind).toList.length ≤ 1 := by cases n.held kind <;> simp
  rw [strays, lasts, Bool.toNat_false] at there
  refine ⟨?_, ?_, idle, ?_⟩
  · have := h.most
    rw [List.count_erase_self]
    omega
  · intro sure
    have even := h.even (sure.imp id unrefused)
    -- a call is owed only for what was held
    have holds : (n.held kind).toList.length = 1 := by
      by_contra other
      have unheld : n.held kind = none := by
        rw [← Option.toList_eq_nil_iff, ← List.length_eq_zero_iff]
        omega
      have : lost = 0 := sure.elim id fun kept => h.idle (unrefused kept) unheld
      omega
    rw [List.count_erase_self]
    omega
  · simp [lasts]

end Operation

end Balanced

/-- What the host owes for both kinds. No beacon alarm is ever lost. -/
structure Accounts (lost : Nat) (owed : List AlarmKind) (n : Node M) : Prop where
  orderly : n.Orderly
  slot : n.Balanced .slot lost owed
  beacon : n.Balanced .beacon 0 owed

theorem fresh_accounts (address : Address) (config : Config) (medium : M) {alarms : AlarmClock}
    (unused : alarms.live = []) (words : WordSource) :
    (fresh address config medium alarms words).Accounts 0 [] := by
  have holds := fresh_holds address config medium unused words
  have bare (kind : AlarmKind) : (fresh address config medium alarms words).held kind = none := by
    cases kind <;> rfl
  have balanced (kind : AlarmKind) :
      (fresh address config medium alarms words).Balanced kind 0 [] := by
    have nothing := holds.pending_eq_nil (bare kind)
    refine ⟨?_, fun _ => ?_, fun _ _ => rfl, ?_⟩
    · simp [nothing]
    · simp [nothing, bare]
    · simp [outlived_of_unheld (bare kind)]
  exact ⟨fresh_orderly address config medium unused words, balanced .slot, balanced .beacon⟩

namespace Accounts

variable {lost : Nat} {owed : List AlarmKind}

theorem congr (h : n.Accounts lost owed) (live : m.alarms.live = n.alarms.live)
    (next : m.alarms.nextHandle = n.alarms.nextHandle) (held : m.held = n.held)
    (journal : m.journal = n.journal) : m.Accounts lost owed := by
  have pending (kind : AlarmKind) : m.alarms.pending kind = n.alarms.pending kind := by
    rw [AlarmClock.pending, live, AlarmClock.pending]
  exact ⟨h.orderly.congr live next held, h.slot.congr (pending _) held journal rfl,
    h.beacon.congr (pending _) held journal rfl⟩

theorem consumed (h : n.Accounts lost owed) {callback : Callback}
    (live : n.alarms.first? kind = some callback) :
    (n.consumed kind).Accounts lost (kind :: owed) :=
  ⟨h.orderly.consumed kind, h.slot.consumed live, h.beacon.consumed live⟩

end Accounts

section Medium

variable [Medium M ε] {lost : Nat} {owed rest : List AlarmKind}

/-- Whether a call for a beacon comes ahead of the one that is owed for the slot alarm, and
moves the slot alarm. -/
def Overtakes (n : Node M) : Prop :=
  n.config.role = .coordinator ∧ n.alarms.refusal .beacon = none ∧
    n.accepts .beacon n.reference ∧ n.arbitration ≠ .backingOff ∧ n.outlived .slot

instance decidableOvertakes (n : Node M) : Decidable n.Overtakes :=
  inferInstanceAs (Decidable (n.config.role = .coordinator ∧ n.alarms.refusal .beacon = none ∧
    n.accepts .beacon n.reference ∧ n.arbitration ≠ .backingOff ∧ n.outlived .slot))

/-- The slot alarms that the node loses by an operation. -/
def loses (n : Node M) (operation : Operation) : Nat :=
  if operation = .alarmFired .beacon ∧ n.Overtakes then 1 else 0

theorem loses_of_ne {operation : Operation} (other : operation ≠ .alarmFired .beacon) :
    n.loses operation = 0 := if_neg fun both => other both.1

/-- What comes of a call: the handle of the kind is gone, so what was live is astray. -/
theorem expireSync_spent (n : Node M) (kind : AlarmKind) :
    (n.expireSync.spent kind).strays kind = n.alarms.pending kind ∧
      (n.expireSync.spent kind).outlived kind = false := by
  obtain ⟨gone, -⟩ := n.expireSync.spent_held kind
  refine ⟨?_, outlived_of_unheld gone⟩
  rw [strays, gone, spent_alarms, n.expireSync_held.1]
  simp

theorem expireSync_spent_path (n : Node M) (kind : AlarmKind) :
    Path [.expire, .spend kind] n (n.expireSync.spent kind) := by
  have expired : Path [.expire, .spend kind] n n.expireSync := (Path.refl n).snoc .expire (by simp)
  cases kind with
  | slot => exact expired.snoc .spendSlot (by simp [Deed.spend])
  | beacon => exact expired.snoc .spendBeacon (by simp [Deed.spend])

theorem slotFired_accounts (sound : n.Sound) (h : n.Accounts lost owed) (mem : .slot ∈ owed) :
    Yields (n.alarmFired .slot : Except Fault (Reply ε × Node M)) fun out =>
      out.2.Accounts lost (owed.erase .slot) := by
  have expired : Step .expire n n.expireSync := .expire
  have first := n.expireSync_spent_path .slot
  have amid := first.orderly h.orderly
  obtain ⟨strays, lasts⟩ := n.expireSync_spent .slot
  refine (slotAlarmFired_looks (sound.of_same expired.same)).mono fun out looks => ?_
  have arms : .armSlot ∈ n.expireSync.firing .slot := by
    rw [firing]
    split <;> decide
  have others : .spend .slot ∉ n.expireSync.firing .slot ∧
      .spend .beacon ∉ n.expireSync.firing .slot ∧ .arm .beacon ∉ n.expireSync.firing .slot := by
    rw [firing]
    split <;> decide
  have path := looks.path arms
  have after := path.orderly amid
  have unrefused (s : out.2.Unrefused) : n.Unrefused := first.unrefused (path.unrefused s)
  refine ⟨after, ?_, ?_⟩
  · refine h.slot.called after unrefused mem ?_ ?_ ?_
    · exact (path.strays others.1 amid).trans strays
    · exact path.not_outlived others.1 amid lasts
    · intro kept unheld
      obtain ⟨k, -, -, same⟩ := looks
      rw [same] at kept unheld
      exact absurd unheld (Option.isSome_iff_ne_none.mp (armSlotAlarm_unrefused kept))
  · show out.2.Balanced .beacon (0 + 0) (owed.erase .slot)
    refine h.beacon.passes after unrefused h.orderly ?_ ?_ ?_ fun _ _ => rfl
    · exact List.count_erase_of_ne (by decide)
    · rw [path.strays others.2.1 amid, first.strays (by decide) h.orderly]
    · rw [path.outlived_eq others.2.1 others.2.2 amid,
        first.outlived_eq (by decide) (by decide) h.orderly]
      rfl

/-- A grid that starts anew takes the slot alarm with it, unless a backoff is under way. -/
theorem Restarts.outlived_iff {out : Reply ε × Node M} (h : Restarts n out) (orderly : n.Orderly) :
    out.2.outlived .slot ↔ n.outlived .slot ∧ n.arbitration = .backingOff := by
  rcases h with ⟨⟨-, settled⟩, m, path, -, same⟩ | ⟨unmoved, same⟩
  · have there : m.Orderly := path.orderly (orderly.congr rfl rfl (held_congr rfl rfl))
    have gone := (armSlotAlarm_strays (ε := ε) there m.toSlot .awaitingSlot).2
    rw [same, gone]
    simp [settled]
  · have kept : n.anchored.outlived .slot = n.outlived .slot := rfl
    rw [same, kept]
    rcases unmoved with unheld | backs
    · simp [show n.outlived .slot = false from outlived_of_unheld unheld]
    · simp [backs]

theorem Broadcasts.outlived_iff {out : Reply ε × Node M} (h : Broadcasts n out)
    (orderly : n.Orderly) :
    out.2.outlived .slot ↔ n.outlived .slot ∧
      (n.accepts .beacon n.reference → n.arbitration = .backingOff) := by
  cases h with
  | refused role declined =>
    have kept : (n.submitted .beacon n.reference none).outlived .slot = n.outlived .slot := rfl
    simp [declined, kept]
  | sent role accepted rest =>
    have kept : n.aired.outlived .slot = n.outlived .slot := rfl
    have arbitration : n.aired.arbitration = n.arbitration := rfl
    rw [rest.outlived_iff (orderly.congr rfl rfl (held_congr rfl rfl)), kept, arbitration]
    simp [accepted]

omit [Medium M ε] in
theorem armBeaconAlarm_ok_iff {delay : Ticks} :
    (n.armBeaconAlarm delay : Reply ε × Node M).1 = .ok () ↔ n.alarms.refusal .beacon = none := by
  rw [armBeaconAlarm, ← release_refusal n.alarms n.beaconAlarm]
  cases refusal : (n.alarms.release n.beaconAlarm).refusal .beacon with
  | none => simp [arm, refusal]
  | some e => simp [arm, refusal]

/-- A call for a beacon leaves the slot alarm to a call that is owed, unless it overtakes that. -/
theorem beaconFired_outlived (sound : n.Sound) (orderly : n.Orderly) :
    Yields (n.alarmFired .beacon : Except Fault (Reply ε × Node M)) fun out =>
      out.2.outlived .slot ↔ n.outlived .slot ∧ ¬ n.Overtakes := by
  have first := n.expireSync_spent_path .beacon
  have amid := first.orderly orderly
  have same : _ = n.outlived .slot := first.outlived_eq (by decide) (by decide) orderly
  by_cases role : n.config.role = .coordinator
  · have spent : Path [.spendBeacon, .plan, .armBeacon] n (n.spent .beacon) :=
      Step.spendBeacon.path
    rw [alarmFired_beacon role]
    obtain ⟨cadence, beat, next, done⟩ := sendBeacon_yields (spent.sound sound) role
    let planned := (n.spent .beacon).planned cadence beat
    have armed : Path [.spendBeacon, .plan, .armBeacon] n
        (planned.armBeaconAlarm beat.wait : Reply ε × Node M).2 :=
      (spent.snoc (.plan role next)).snoc (.armBeacon _)
    have kept : _ = n.outlived .slot := armed.outlived_eq (by decide) (by decide) orderly
    have refusal : planned.alarms.refusal .beacon = n.alarms.refusal .beacon := rfl
    refine done.mono ?_
    rintro out (⟨⟨error, refused⟩, rfl⟩ | ⟨granted, sent⟩)
    · rw [kept]
      have refuses : n.alarms.refusal .beacon ≠ none := fun none => by
        rw [armBeaconAlarm_ok_iff.mpr (refusal.trans none)] at refused
        cases refused
      simp [Overtakes, refuses]
    · have grants := refusal ▸ armBeaconAlarm_ok_iff.mp granted
      have rest := sent.outlived_iff (armed.orderly orderly)
      obtain ⟨_, same⟩ := planned.armBeaconAlarm_eq (ε := ε) beat.wait
      rw [kept, same] at rest
      rw [rest]
      show n.outlived .slot ∧ (n.accepts .beacon n.reference → n.arbitration = .backingOff) ↔ _
      rw [Overtakes]
      tauto
  · have calm {out : Reply ε × Node M}
        (path : Path [.armBeacon] (n.expireSync.spent .beacon) out.2) :
        out.2.outlived .slot ↔ n.outlived .slot ∧ ¬ n.Overtakes := by
      rw [path.outlived_eq (by decide) (by decide) amid, same]
      simp [Overtakes, role]
    show Yields n.expireSync.beaconAlarmFired _
    have role' : n.expireSync.config.role ≠ .coordinator := by
      rw [(Step.expire (n := n)).same.config]
      exact role
    rw [beaconAlarmFired]
    dsimp only
    split
    · next coordinator => exact absurd coordinator role'
    · rw [Yields.ok_iff]
      split
      · exact calm (Step.armBeacon _).path
      · exact calm (.refl _)
    · exact Yields.ok_iff.mpr (calm (.refl _))

theorem beaconFired_accounts (sound : n.Sound) (h : n.Accounts lost owed) (mem : .beacon ∈ owed) :
    Yields (n.alarmFired .beacon : Except Fault (Reply ε × Node M)) fun out =>
      out.2.Accounts (lost + n.loses (.alarmFired .beacon)) (owed.erase .beacon) := by
  have first := n.expireSync_spent_path .beacon
  have amid := first.orderly h.orderly
  obtain ⟨strays, lasts⟩ := n.expireSync_spent .beacon
  refine ((alarmFired_spent sound .beacon).and (beaconFired_outlived sound h.orderly)).mono ?_
  rintro out ⟨⟨path, -⟩, outlived⟩
  have others : .spend .slot ∉ n.firing .beacon ∧ .spend .beacon ∉ n.firing .beacon := by
    rw [firing]
    decide
  have after := path.orderly amid
  have unrefused (s : out.2.Unrefused) : n.Unrefused := first.unrefused (path.unrefused s)
  refine ⟨after, ?_, ?_⟩
  · refine h.slot.passes after unrefused h.orderly ?_ ?_ ?_ ?_
    · exact List.count_erase_of_ne (by decide)
    · rw [path.strays others.1 amid, first.strays (by decide) h.orderly]
    · by_cases overtakes : n.Overtakes
      · have lasts : out.2.outlived .slot = false := by
          rw [← Bool.not_eq_true, outlived]
          exact fun both => both.2 overtakes
        simp [loses, overtakes, lasts, overtakes.2.2.2.2]
      · have same : out.2.outlived .slot = n.outlived .slot := by
          rw [Bool.eq_iff_iff, outlived]
          simp [overtakes]
        simp [loses, overtakes, same]
    · intro kept unheld
      have before : n.held .slot = none := first.slotAlarm_none (by decide) (path.unrefused kept)
        (path.slotAlarm_none others.1 kept unheld)
      have stays : ¬ n.Overtakes := fun overtakes => by
        have := overtakes.2.2.2.2
        simp [outlived_of_unheld before] at this
      simp [loses, stays, h.slot.idle (unrefused kept) before]
  · refine h.beacon.called after unrefused mem ?_ ?_ fun _ _ => rfl
    · exact (path.strays others.2 amid).trans strays
    · exact path.not_outlived others.2 amid lasts

/-- What is no call is done to a node whose host owes nothing, and loses nothing. -/
theorem Path.accounts (path : Path kinds n m) (h : n.Accounts lost [])
    (spends : ∀ kind, .spend kind ∉ kinds) : m.Accounts lost [] := by
  have after := path.orderly h.orderly
  have passes (kind : AlarmKind) {lost : Nat} (b : n.Balanced kind lost [])
      (idle : m.Unrefused → m.held kind = none → n.held kind = none ∨ lost = 0) :
      m.Balanced kind (lost + 0) [] := by
    have lasts : n.outlived kind = false := by
      rw [← Bool.not_eq_true]
      exact fun gone => List.not_mem_nil (b.owes gone)
    refine b.passes after path.unrefused h.orderly rfl (path.strays (spends kind) h.orderly) ?_ ?_
    · simp [lasts, path.not_outlived (spends kind) h.orderly lasts]
    · intro kept unheld
      rcases idle kept unheld with before | none
      · exact b.idle (path.unrefused kept) before
      · exact none
  refine ⟨after, passes .slot h.slot ?_, passes .beacon h.beacon fun _ _ => .inr rfl⟩
  exact fun kept unheld => .inl (path.slotAlarm_none (spends .slot) kept unheld)

/-- Every operation keeps the account: what is lost is lost by a call that overtakes. -/
theorem perform_accounts (sound : n.Sound) (h : n.Accounts lost owed) {operation : Operation}
    (settles : operation.settles owed = some rest) :
    Yields (n.perform operation) fun out =>
      out.2.Accounts (lost + n.loses operation) rest := by
  cases operation with
  | alarmFired kind =>
    simp only [Operation.settles] at settles
    split at settles
    · next mem =>
      cases settles
      cases kind with
      | slot =>
        exact (slotFired_accounts sound h mem).bind fun _ done => Yields.pure_iff.mpr done
      | beacon =>
        exact (beaconFired_accounts sound h mem).bind fun _ done => Yields.pure_iff.mpr done
    · cases settles
  | _ =>
    simp only [Operation.settles] at settles
    split at settles
    · next nothing =>
      cases settles
      subst nothing
      refine (perform_yields sound _).mono fun out done => ?_
      rw [loses_of_ne]
      · refine done.1.accounts h fun kind => ?_
        cases kind <;> simp [deeds, Deed.spend, Deed.following]
      · simp
    · cases settles

/-! ## Courses of a host that takes callbacks out in batches -/

/-- The kinds of callbacks that a host owes calls for after a stimulus. A callback that comes
alone is taken out and called for at once. -/
def owing (n : Node M) (owed : List AlarmKind) : Stimulus M → Option (List AlarmKind)
  | .operate operation => operation.settles owed
  | .lose kind => some (if (n.alarms.first? kind).isSome then kind :: owed else owed)
  | _ => some owed

/-- The kinds of callbacks that a host owes calls for after stimuli, if it lets no alarm come
without having taken out a callback, and leaves the node alone while it owes calls. -/
def batched (n : Node M) (owed : List AlarmKind) : List (Stimulus M) → Option (List AlarmKind)
  | [] => some owed
  | stimulus :: rest =>
    match n.owing owed stimulus, n.undergo stimulus with
    | some next, .ok out => out.2.batched next rest
    | _, _ => none

/-- The slot alarms that a node loses in the course of stimuli, one by each call that
overtakes. -/
def losses (n : Node M) (stimuli : List (Stimulus M)) : Nat :=
  (n.encounters stimuli).countP fun encounter =>
    encounter.2 = .alarmFired .beacon ∧ encounter.1.Overtakes

theorem losses_cons {stimulus : Stimulus M} {stimuli : List (Stimulus M)}
    {out : Option (Answer ε) × Node M} (done : n.undergo stimulus = .ok out) :
    n.losses (stimulus :: stimuli) = n.losses [stimulus] + out.2.losses stimuli := by
  rw [losses, encounters_cons done, List.countP_append]
  rfl

theorem undergo_accounts (sound : n.Sound) (h : n.Accounts lost owed) {stimulus : Stimulus M}
    (owing : n.owing owed stimulus = some rest) :
    Yields (n.undergo stimulus) fun out => out.2.Accounts (lost + n.losses [stimulus]) rest := by
  rw [losses, encounters_singleton, undergo_eq]
  have answers {k : Node M} {lost : Nat} {operation : Operation}
      (done : Yields (k.perform operation) fun out => out.2.Accounts lost rest) :
      Yields (do return (← k.perform operation).map some id) fun out : Option (Answer ε) × Node M =>
        out.2.Accounts lost rest :=
    done.bind fun _ kept => Yields.pure_iff.mpr kept
  cases stimulus with
  | operate operation =>
    simp only [prompted?, facing, Option.map_some, Option.toList_some, List.countP_singleton,
      decide_eq_true_eq]
    exact answers (perform_accounts sound h owing)
  | fire kind =>
    cases owing
    cases live : n.alarms.first? kind with
    | none =>
      simp only [prompted?, live, Option.map_none, facing, consumed_of_none live]
      exact Yields.ok_iff.mpr h
    | some callback =>
      simp only [prompted?, live, Option.map_some, facing, Option.toList_some,
        List.countP_singleton, decide_eq_true_eq]
      refine answers (perform_accounts (sound.amid _ _) (h.consumed live) ?_)
      simp [Operation.settles]
  | lose kind =>
    cases owing
    refine Yields.ok_iff.mpr ?_
    cases live : n.alarms.first? kind with
    | none =>
      simp only [prompted?, Option.map_none, facing, consumed_of_none live]
      exact h
    | some callback => exact h.consumed live
  | clock time =>
    cases owing
    exact Yields.ok_iff.mpr (h.congr rfl rfl (held_congr rfl rfl) rfl)
  | refuse kind error =>
    cases owing
    have live := n.alarms.refuse_live kind error
    have next := n.alarms.refuse_nextHandle kind error
    exact Yields.ok_iff.mpr (h.congr live next (held_congr rfl rfl) rfl)
  | medium medium =>
    cases owing
    exact Yields.ok_iff.mpr (h.congr rfl rfl (held_congr rfl rfl) rfl)

theorem course_accounts {stimuli : List (Stimulus M)} (sound : n.Sound) (h : n.Accounts lost owed)
    (batched : n.batched owed stimuli = some rest) :
    Yields (n.course stimuli) fun out => out.2.Accounts (lost + n.losses stimuli) rest := by
  induction stimuli generalizing n lost owed with
  | nil =>
    cases batched
    exact Yields.ok_iff.mpr h
  | cons stimulus stimuli ih =>
    rw [Node.batched] at batched
    split at batched
    · next next out owing done =>
      obtain ⟨out', done', kept, inOrder⟩ :=
        (undergo_accounts sound h owing).and (undergo_sound sound stimulus)
      cases done.symm.trans done'
      rw [course, done]
      refine (ih inOrder kept batched).bind fun last counted => Yields.pure_iff.mpr ?_
      rw [losses_cons done, ← Nat.add_assoc]
      exact counted
    · cases batched

end Medium

end Node

open Node

/-- Over every course in which a host takes callbacks out in batches, as many callbacks of the
beacon alarm are live or owed as the node holds, one at most. Of the slot alarm there are as
many more as slot alarms were lost to calls that overtook, and the node gets rid of none of
these unless a slot alarm is refused. What the node holds is live unless its call is owed. -/
theorem live_callbacks {M ε : Type} [Medium M ε] {config : Config} (valid : config.Valid)
    (address : Address) (medium : M) {alarms : AlarmClock} (unused : alarms.live = [])
    (words : WordSource) (stimuli : List (Stimulus M)) {owed : List AlarmKind}
    (batched : (fresh address config medium alarms words).batched [] stimuli = some owed) :
    ∃ answers n, lifetime address config medium alarms words stimuli = .ok (.ok (answers, n)) ∧
      n.alarms.live.countP (·.kind == .beacon) + owed.count .beacon =
        n.beaconAlarm.toList.length ∧
      n.alarms.live.countP (·.kind == .slot) + owed.count .slot ≤
        (fresh address config medium alarms words).losses stimuli + n.slotAlarm.toList.length ∧
      ((fresh address config medium alarms words).losses stimuli = 0 ∨ n.Unrefused →
        n.alarms.live.countP (·.kind == .slot) + owed.count .slot =
          (fresh address config medium alarms words).losses stimuli +
            n.slotAlarm.toList.length) ∧
      ∀ kind ∉ owed, ∀ handle, n.held kind = some handle →
        ∃ k ∈ n.alarms.live, k.kind = kind ∧ k.handle = handle := by
  obtain ⟨⟨answers, n⟩, done, orderly, slot, beacon⟩ :=
    course_accounts (fresh_sound valid address medium alarms words)
      (fresh_accounts address config medium unused words) batched
  simp only [List.countP_eq_length_filter]
  rw [Nat.zero_add] at slot
  refine ⟨answers, n, lifetime_of_course valid done, ?_, slot.most, slot.even, ?_⟩
  · have even := beacon.even (.inl rfl)
    rw [Nat.zero_add] at even
    exact even
  · intro kind settled handle held
    refine exists_live_of_held held ?_
    rw [← Bool.not_eq_true]
    intro gone
    cases kind with
    | slot => exact settled (slot.owes gone)
    | beacon => exact settled (beacon.owes gone)

/-- A coordinator that is given a frame to send before its first beacon, which is due just when
its slot starts. -/
def dueTogether : List (Stimulus RecordingMedium) :=
  [.operate .start, .clock 100000, .operate (.send 7 1 [1]), .clock 1000000]

/-- The host takes out both callbacks and calls for them in the given order. -/
def batch (first second : AlarmKind) : List (Stimulus RecordingMedium) :=
  [.lose .beacon, .lose .slot, .operate (.alarmFired first), .operate (.alarmFired second)]

/-- Called for the slot first, the coordinator has the callbacks that it holds. -/
theorem live_callbacks_slot_first :
    ∃ answers n,
      lifetime 0 { role := .coordinator } ({} : RecordingMedium) {} (.cycle [])
          (dueTogether ++ batch .slot .beacon) = .ok (.ok (answers, n)) ∧
      n.alarms.live.countP (·.kind == .beacon) = n.beaconAlarm.toList.length ∧
      n.alarms.live.countP (·.kind == .slot) = n.slotAlarm.toList.length ∧
      ∀ kind handle, n.held kind = some handle →
        ∃ k ∈ n.alarms.live, k.kind = kind ∧ k.handle = handle := by
  have valid : ({ role := .coordinator } : Config).Valid := Config.check_eq_ok_iff.mp rfl
  have batched : (fresh 0 { role := .coordinator } ({} : RecordingMedium) {} (.cycle [])).batched []
      (dueTogether ++ batch .slot .beacon) = some [] := by
    decide +kernel
  have losses : (fresh 0 { role := .coordinator } ({} : RecordingMedium) {} (.cycle [])).losses
      (dueTogether ++ batch .slot .beacon) = 0 := by
    decide +kernel
  obtain ⟨answers, n, done, beacons, -, slots, live⟩ :=
    live_callbacks valid 0 ({} : RecordingMedium) rfl (.cycle []) _ batched
  rw [losses] at slots
  exact ⟨answers, n, done, beacons, by simpa using slots (.inl rfl), by simpa using live⟩

/-- Called for the beacon first, it moves the slot alarm, lets go of the handle of the moved one
at the call for the slot, and has two callbacks for the slot. -/
theorem callback_lost :
    (∃ answers n,
      lifetime 0 { role := .coordinator } ({} : RecordingMedium) {} (.cycle []) dueTogether =
        .ok (.ok (answers, n)) ∧
      n.alarms.live.map (fun k => (k.kind, k.due)) = [(.beacon, 1000000), (.slot, 1000000)] ∧
      n.alarms.now = 1000000) ∧
    (fresh 0 { role := .coordinator } ({} : RecordingMedium) {} (.cycle [])).batched []
      (dueTogether ++ batch .beacon .slot) = some [] ∧
    ∃ answers n,
      lifetime 0 { role := .coordinator } ({} : RecordingMedium) {} (.cycle [])
          (dueTogether ++ batch .beacon .slot) = .ok (.ok (answers, n)) ∧
      n.alarms.live.countP (·.kind == .slot) = 2 := by
  have valid : ({ role := .coordinator } : Config).Valid := Config.check_eq_ok_iff.mp rfl
  exact ⟨exists_lifetime valid (by decide +kernel), by decide +kernel,
    exists_lifetime valid (by decide +kernel)⟩

end SlottedMac
