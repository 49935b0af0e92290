/-
Computations that call each other to a limited depth.

A computation that reaches the limit throws a failure of its own. Given more depth it
does what it did before, unless it has been at the limit. Chains of calls that never
come back to what they are about, of which there are finitely many, have an end.
-/

import LibTabula.Foundation.Effect
import Mathlib.Logic.Relation
import Mathlib.Data.Set.Finite.Basic
import Mathlib.Data.Finset.Card

set_option autoImplicit false

namespace Foundation

/-! ### More depth -/

section Outlasts

variable {ε σ α β : Type} {limit : ε}

/-- The second computation does what the first one does, unless that is at the limit. -/
def Outlasts (limit : ε) (first second : EStateM ε σ α) : Prop :=
  ∀ state, (first.run state).outcome ≠ .error limit → second.run state = first.run state

namespace Outlasts

theorem refl (x : EStateM ε σ α) : Outlasts limit x x := fun _ _ => rfl

theorem throw (second : EStateM ε σ α) :
    Outlasts limit (MonadExcept.throw limit : EStateM ε σ α) second :=
  fun _ inside => absurd rfl inside

theorem bind {x y : EStateM ε σ β} {f g : β → EStateM ε σ α} (first : Outlasts limit x y)
    (rest : ∀ value, Outlasts limit (f value) (g value)) :
    Outlasts limit (x >>= f) (y >>= g) := by
  intro state inside
  cases ran : x.run state with
  | ok value middle =>
      rw [run_bind_of_ok ran] at inside ⊢
      have again : y.run state = .ok value middle := by
        rw [first state (by rw [ran]; exact nofun), ran]
      rw [run_bind_of_ok again]
      exact rest value middle inside
  | error failure middle =>
      rw [run_bind_of_error ran] at inside ⊢
      have other : failure ≠ limit := fun same => inside (congrArg Except.error same)
      have again : y.run state = .error failure middle := by
        rw [first state (by rw [ran]; exact fun same => other (Except.error.inj same)), ran]
      rw [run_bind_of_error again]

theorem trans {x y z : EStateM ε σ α} (first : Outlasts limit x y)
    (second : Outlasts limit y z) : Outlasts limit x z := by
  intro state inside
  have middle := first state inside
  rw [← middle] at inside
  rw [second state inside, middle]

section Depth

variable {x : Nat → EStateM ε σ α} (step : ∀ depth, Outlasts limit (x depth) (x (depth + 1)))

include step

/-- Depth for depth, a computation is outlasted by the deeper ones. -/
theorem of_le {depth more : Nat} (le : depth ≤ more) : Outlasts limit (x depth) (x more) := by
  induction le with
  | refl => exact refl (x depth)
  | step le ih => exact ih.trans (step _)

/-- Two depths that are enough lead to the same. -/
theorem agree {depth other : Nat} {state : σ}
    (inside : ((x depth).run state).outcome ≠ .error limit)
    (otherInside : ((x other).run state).outcome ≠ .error limit) :
    (x depth).run state = (x other).run state := by
  have left := of_le step (Nat.le_max_left depth other) state inside
  have right := of_le step (Nat.le_max_right depth other) state otherInside
  exact left.symm.trans right

end Depth

end Outlasts

/-- A sequence inside the limit has a first part that is. -/
theorem inside_of_bind {x : EStateM ε σ β} {f : β → EStateM ε σ α} {state : σ}
    (inside : ((x >>= f).run state).outcome ≠ .error limit) :
    (x.run state).outcome ≠ .error limit := by
  intro thrown
  apply inside
  rw [run_bind_of_error (EStateM.Result.eq_error thrown)]
  rfl

end Outlasts

/-! ### Chains -/

section Chains

variable {α β : Type} {calls : α → α → Prop} {label : α → β}

/-- From one on which chains never see a label twice, and see labels of a finite set only,
every chain has an end. -/
theorem acc_of_distinct_of_finset (labels : Finset β) (start : α)
    (inside : ∀ b, Relation.TransGen calls start b → label b ∈ labels)
    (distinct : ∀ b c, Relation.TransGen calls start b → Relation.TransGen calls b c →
      label b ≠ label c) : Acc (fun b a => calls a b) start := by
  classical
  -- The labels that are left are fewer after each call.
  induction size : labels.card generalizing labels start with
  | zero =>
      constructor
      intro b called
      have member := inside b (.single called)
      rw [Finset.card_eq_zero.mp size] at member
      cases member
  | succ left ih =>
      constructor
      intro b called
      have member := inside b (.single called)
      apply ih (labels.erase (label b)) b
      · intro c later
        apply Finset.mem_erase.mpr
        exact ⟨(distinct b c (.single called) later).symm, inside c (.head called later)⟩
      · intro c d first second
        exact distinct c d (.head called first) second
      · rw [Finset.card_erase_of_mem member, size]
        rfl

theorem acc_of_distinct {labels : Set β} (finite : labels.Finite) (start : α)
    (inside : ∀ b, Relation.TransGen calls start b → label b ∈ labels)
    (distinct : ∀ b c, Relation.TransGen calls start b → Relation.TransGen calls b c →
      label b ≠ label c) : Acc (fun b a => calls a b) start := by
  apply acc_of_distinct_of_finset finite.toFinset start _ distinct
  intro b later
  exact finite.mem_toFinset.mpr (inside b later)

/-- What is reached from one on which chains have an end does not come back. -/
theorem not_transGen_self_of_acc {start a : α} (ends : Acc (fun b a => calls a b) start)
    (reached : Relation.ReflTransGen calls start a) : ¬ Relation.TransGen calls a a := by
  have accessible : Acc (fun b a => calls a b) a := by
    induction reached with
    | refl => exact ends
    | tail _ called ih => exact ih.inv called
  clear reached
  induction accessible with
  | intro a _ ih =>
      intro back
      obtain ⟨b, called, later⟩ := Relation.TransGen.head'_iff.mp back
      exact ih b called (Relation.TransGen.tail' later called)

end Chains

end Foundation
