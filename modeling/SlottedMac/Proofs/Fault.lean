import SlottedMac.Fault

/-!
# Computations that come to an end

`Yields x Q` says of a computation on words that it reaches no fault and that
`Q` holds of its result. The rules follow the way computations are put together,
so that a property of an operation is proved from those of its parts without a
look at how they work.
-/

namespace SlottedMac

variable {α β : Type}

/-- The computation ends without a fault, in a result of which `Q` holds. -/
def Yields (x : Except Fault α) (Q : α → Prop) : Prop := ∃ a, x = .ok a ∧ Q a

namespace Yields

variable {x : Except Fault α} {f : α → Except Fault β} {P Q : α → Prop} {R : β → Prop}

@[simp] theorem ok_iff {a : α} : Yields (.ok a) Q ↔ Q a := by
  constructor
  · rintro ⟨b, same, hq⟩
    cases same
    exact hq
  · intro hq
    exact ⟨a, rfl, hq⟩

@[simp] theorem pure_iff {a : α} : Yields (pure a) Q ↔ Q a := ok_iff

instance [DecidablePred Q] : Decidable (Yields x Q) :=
  match x with
  | .error _ => .isFalse (by
      rintro ⟨_, done, -⟩
      cases done)
  | .ok a => decidable_of_iff (Q a) ok_iff.symm

theorem mono (h : Yields x P) (weaken : ∀ a, P a → Q a) : Yields x Q := by
  obtain ⟨a, done, hp⟩ := h
  exact ⟨a, done, weaken a hp⟩

/-- What follows a computation may rely on what the computation establishes. -/
theorem bind (first : Yields x P) (second : ∀ a, P a → Yields (f a) R) : Yields (x >>= f) R := by
  obtain ⟨a, done, hp⟩ := first
  rw [done]
  exact second a hp

/-- A computation has one result, so two accounts of it are of the same result. -/
theorem of_ok {a : α} (h : Yields x Q) (done : x = .ok a) : Q a := by
  rw [done] at h
  exact ok_iff.mp h

theorem and (hp : Yields x P) (hq : Yields x Q) : Yields x fun a => P a ∧ Q a := by
  obtain ⟨a, done, hp⟩ := hp
  exact ⟨a, done, hp, hq.of_ok done⟩

/-- What each step keeps holds after all of them. -/
theorem foldlM {f : β → α → Except Fault β} {b : β} {steps : List α} (start : R b)
    (step : ∀ b, ∀ a ∈ steps, R b → Yields (f b a) R) : Yields (steps.foldlM f b) R := by
  induction steps generalizing b with
  | nil => exact pure_iff.mpr start
  | cons a steps ih =>
    rw [List.foldlM_cons]
    apply (step b a List.mem_cons_self start).bind
    intro next kept
    exact ih kept fun c x mem => step c x (List.mem_cons_of_mem _ mem)

end Yields

end SlottedMac
