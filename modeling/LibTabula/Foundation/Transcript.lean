/-
What is seen of an object.

Two computations are alike under a relation if from related states they have the
same outcome and end in related states. A series of operations that are alike shows
the same from related states on, however long it is.
-/

import LibTabula.Foundation.Effect

set_option autoImplicit false

namespace Foundation

variable {ε σ τ α β ι : Type}

/-- From related states, the same outcome and related states again. -/
def Alike (R : σ → τ → Prop) (x : EStateM ε σ α) (y : EStateM ε τ α) : Prop :=
  ∀ state other, R state other →
    (x.run state).outcome = (y.run other).outcome ∧ R (x.run state).final (y.run other).final

namespace Alike

variable {R : σ → τ → Prop}

theorem pure (value : α) :
    Alike R (Pure.pure value : EStateM ε σ α) (Pure.pure value : EStateM ε τ α) :=
  fun _ _ related => ⟨rfl, related⟩

theorem modify {f : σ → σ} {g : τ → τ}
    (keeps : ∀ state other, R state other → R (f state) (g other)) :
    Alike R (modifyGet fun state => (PUnit.unit, f state) : EStateM ε σ PUnit)
      (modifyGet fun state => (PUnit.unit, g state) : EStateM ε τ PUnit) :=
  fun state other related => ⟨rfl, keeps state other related⟩

theorem lift (result : Except ε α) :
    Alike R (ofExcept result : EStateM ε σ α) (ofExcept result : EStateM ε τ α) := by
  cases result with
  | ok value => exact fun _ _ related => ⟨rfl, related⟩
  | error failure => exact fun _ _ related => ⟨rfl, related⟩

theorem bind {x : EStateM ε σ α} {y : EStateM ε τ α} {f : α → EStateM ε σ β}
    {g : α → EStateM ε τ β} (first : Alike R x y) (rest : ∀ value, Alike R (f value) (g value)) :
    Alike R (x >>= f) (y >>= g) := by
  intro state other related
  obtain ⟨same, after⟩ := first state other related
  cases left : x.run state with
  | ok value middle =>
      rw [left] at same after
      have right := EStateM.Result.eq_ok same.symm
      rw [run_bind_of_ok left, run_bind_of_ok right]
      exact rest value middle _ after
  | error failure middle =>
      rw [left] at same after
      have right := EStateM.Result.eq_error same.symm
      rw [run_bind_of_error left, run_bind_of_error right]
      exact ⟨rfl, after⟩

end Alike

@[simp] theorem outcome_onPart {ρ : Type} (read : σ → ρ) (write : σ → ρ → σ)
    (x : EStateM ε ρ α) (state : σ) :
    ((onPart read write x).run state).outcome = (x.run (read state)).outcome := by
  simp only [onPart, EStateM.run]
  cases x (read state) <;> rfl

/-! ### Series of operations -/

/-- The outcomes of some operations, one after another. -/
def transcript (run : ι → EStateM ε σ α) : List ι → σ → List (Except ε α)
  | [], _ => []
  | op :: rest, state =>
      ((run op).run state).outcome :: transcript run rest ((run op).run state).final

theorem transcript_cons {run : ι → EStateM ε σ α} {op : ι} {state after : σ} {value : α}
    (ran : (run op).run state = .ok value after) (rest : List ι) :
    transcript run (op :: rest) state = .ok value :: transcript run rest after := by
  rw [transcript, ran]
  rfl

/-- The state after some operations, whether they return or throw. -/
def finalState (run : ι → EStateM ε σ α) : List ι → σ → σ
  | [], state => state
  | op :: rest, state => finalState run rest ((run op).run state).final

theorem finalState_invariant {run : ι → EStateM ε σ α} (Inv : σ → Prop)
    (keeps : ∀ op state, Inv state → Inv ((run op).run state).final) (ops : List ι) {state : σ}
    (initially : Inv state) : Inv (finalState run ops state) := by
  induction ops generalizing state with
  | nil => exact initially
  | cons op rest ih => exact ih (keeps op state initially)

/-- Operations that are alike show the same from related states on. -/
theorem transcript_eq_of_alike {R : σ → τ → Prop} {run : ι → EStateM ε σ α}
    {runToo : ι → EStateM ε τ α} (ops : List ι)
    (alike : ∀ op ∈ ops, Alike R (run op) (runToo op)) {state : σ} {other : τ}
    (related : R state other) : transcript run ops state = transcript runToo ops other := by
  induction ops generalizing state other with
  | nil => rfl
  | cons op rest ih =>
      obtain ⟨same, after⟩ := alike op List.mem_cons_self state other related
      rw [transcript, transcript, same,
        ih (fun later member => alike later (List.mem_cons_of_mem op member)) after]

end Foundation
