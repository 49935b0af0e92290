/-
Computations with a state that survives an exception.

`EStateM` without backtracking is the monad of code that changes objects and may
throw on the way: what was changed before the exception stays changed. Added to it
here are the two halves of a result, a flag that is up exactly while a computation
runs, computations on a part of the state, and what a computation may change.
-/

set_option autoImplicit false

namespace EStateM.Result

variable {ε σ α : Type}

/-- What the caller gets: a value or an exception. -/
def outcome : EStateM.Result ε σ α → Except ε α
  | .ok value _ => .ok value
  | .error failure _ => .error failure

def final : EStateM.Result ε σ α → σ
  | .ok _ state => state
  | .error _ state => state

@[simp] theorem outcome_ok (value : α) (state : σ) :
    (EStateM.Result.ok value state : EStateM.Result ε σ α).outcome = .ok value := rfl

@[simp] theorem outcome_error (failure : ε) (state : σ) :
    (EStateM.Result.error failure state : EStateM.Result ε σ α).outcome = .error failure := rfl

@[simp] theorem final_ok (value : α) (state : σ) :
    (EStateM.Result.ok value state : EStateM.Result ε σ α).final = state := rfl

@[simp] theorem final_error (failure : ε) (state : σ) :
    (EStateM.Result.error failure state : EStateM.Result ε σ α).final = state := rfl

theorem eq_ok {result : EStateM.Result ε σ α} {value : α}
    (returned : result.outcome = .ok value) : result = .ok value result.final := by
  cases result with
  | ok other state =>
      simp only [outcome_ok, Except.ok.injEq] at returned
      rw [returned]
      rfl
  | error failure state => cases returned

theorem eq_error {result : EStateM.Result ε σ α} {failure : ε}
    (thrown : result.outcome = .error failure) : result = .error failure result.final := by
  cases result with
  | ok value state => cases thrown
  | error other state =>
      simp only [outcome_error, Except.error.injEq] at thrown
      rw [thrown]
      rfl

end EStateM.Result

namespace Foundation

variable {ε σ τ α β : Type}

@[simp] theorem run_ofExcept_ok (value : α) (state : σ) :
    (ofExcept (.ok value) : EStateM ε σ α).run state = .ok value state := rfl

@[simp] theorem run_ofExcept_error (failure : ε) (state : σ) :
    (ofExcept (.error failure) : EStateM ε σ α).run state = .error failure state := rfl

/-- Raises a flag, computes, and lowers the flag on every way out. -/
def flagged (raise lower : σ → σ) (x : EStateM ε σ α) : EStateM ε σ α := fun state =>
  match x.run (raise state) with
  | .ok value state => .ok value (lower state)
  | .error failure state => .error failure (lower state)

@[simp] theorem outcome_flagged (raise lower : σ → σ) (x : EStateM ε σ α) (state : σ) :
    ((flagged raise lower x).run state).outcome = (x.run (raise state)).outcome := by
  simp only [flagged, EStateM.run]
  cases x (raise state) <;> rfl

@[simp] theorem final_flagged (raise lower : σ → σ) (x : EStateM ε σ α) (state : σ) :
    ((flagged raise lower x).run state).final = lower (x.run (raise state)).final := by
  simp only [flagged, EStateM.run]
  cases x (raise state) <;> rfl

theorem run_flagged_of_ok {raise : σ → σ} (lower : σ → σ) {x : EStateM ε σ α} {value : α}
    {before after : σ} (inner : x.run (raise before) = .ok value after) :
    (flagged raise lower x).run before = .ok value (lower after) := by
  simp only [flagged, EStateM.run] at inner ⊢
  rw [inner]

theorem run_flagged_of_error {raise : σ → σ} (lower : σ → σ) {x : EStateM ε σ α} {failure : ε}
    {before after : σ} (inner : x.run (raise before) = .error failure after) :
    (flagged raise lower x).run before = .error failure (lower after) := by
  simp only [flagged, EStateM.run] at inner ⊢
  rw [inner]

def onPart (read : σ → τ) (write : σ → τ → σ) (x : EStateM ε τ α) : EStateM ε σ α :=
  fun state =>
    match x.run (read state) with
    | .ok value part => .ok value (write state part)
    | .error failure part => .error failure (write state part)

@[simp] theorem final_onPart (read : σ → τ) (write : σ → τ → σ) (x : EStateM ε τ α)
    (state : σ) :
    ((onPart read write x).run state).final = write state (x.run (read state)).final := by
  simp only [onPart, EStateM.run]
  cases x (read state) <;> rfl

theorem run_onPart_of_ok {read : σ → τ} (write : σ → τ → σ) {x : EStateM ε τ α} {value : α}
    {state : σ} {after : τ} (inner : x.run (read state) = .ok value after) :
    (onPart read write x).run state = .ok value (write state after) := by
  simp only [onPart, EStateM.run] at inner ⊢
  rw [inner]

theorem run_onPart_of_error {read : σ → τ} (write : σ → τ → σ) {x : EStateM ε τ α} {failure : ε}
    {state : σ} {after : τ} (inner : x.run (read state) = .error failure after) :
    (onPart read write x).run state = .error failure (write state after) := by
  simp only [onPart, EStateM.run] at inner ⊢
  rw [inner]

theorem ok_ne_error {value : α} {failure : ε} : (.ok value : Except ε α) ≠ .error failure := by
  intro impossible
  cases impossible

theorem error_ne_ok {failure : ε} {value : α} : (.error failure : Except ε α) ≠ .ok value := by
  intro impossible
  cases impossible

theorem run_bind_of_ok {x : EStateM ε σ α} {f : α → EStateM ε σ β} {value : α}
    {before after : σ} (first : x.run before = .ok value after) :
    (x >>= f).run before = (f value).run after := by
  rw [EStateM.run_bind, first]

theorem run_bind_of_error {x : EStateM ε σ α} {f : α → EStateM ε σ β} {failure : ε}
    {before after : σ} (first : x.run before = .error failure after) :
    (x >>= f).run before = .error failure after := by
  rw [EStateM.run_bind, first]

/-- A sequence that returns has a first part that did, and the rest went on from there. -/
theorem exists_of_run_bind_ok {x : EStateM ε σ α} {f : α → EStateM ε σ β} {value : β}
    {before after : σ} (ran : (x >>= f).run before = .ok value after) :
    ∃ middle between, x.run before = .ok middle between ∧
      (f middle).run between = .ok value after := by
  cases first : x.run before with
  | ok middle between =>
      rw [run_bind_of_ok first] at ran
      exact ⟨middle, between, rfl, ran⟩
  | error failure between =>
      rw [run_bind_of_error first] at ran
      cases ran

theorem exists_of_bind_ok {x : Except ε α} {f : α → Except ε β} {value : β}
    (returned : x >>= f = .ok value) : ∃ middle, x = .ok middle ∧ f middle = .ok value := by
  cases x with
  | ok middle => exact ⟨middle, rfl, returned⟩
  | error failure => cases returned

theorem exists_of_map_ok {x : Except ε α} {f : α → β} {value : β}
    (returned : x.map f = .ok value) : ∃ middle, x = .ok middle ∧ f middle = value := by
  cases x with
  | ok middle => exact ⟨middle, rfl, Except.ok.inj returned⟩
  | error failure => cases returned

theorem exists_of_run_ofExcept_bind {x : Except ε α} {f : α → EStateM ε σ β} {value : β}
    {before after : σ} (ran : (ofExcept x >>= f).run before = .ok value after) :
    ∃ middle, x = .ok middle ∧ (f middle).run before = .ok value after := by
  cases x with
  | ok middle => exact ⟨middle, rfl, ran⟩
  | error failure => cases ran

/-! ### What a computation leaves alone -/

/-- Whatever happens, what is read from the state stays the same. -/
def Preserves {ρ : Type} (read : σ → ρ) (x : EStateM ε σ α) : Prop :=
  ∀ state, read (x.run state).final = read state

namespace Preserves

variable {ρ : Type} {read : σ → ρ}

/-- What follows a first part and preserves something leaves it as the first part
made it. -/
theorem after {x : EStateM ε σ α} {f : α → EStateM ε σ β}
    (rest : ∀ value, Preserves read (f value)) (state : σ) :
    read ((x >>= f).run state).final = read (x.run state).final := by
  cases first : x.run state with
  | ok value middle =>
      rw [run_bind_of_ok first]
      exact rest value middle
  | error failure middle => rw [run_bind_of_error first]; rfl

theorem bind {x : EStateM ε σ α} {f : α → EStateM ε σ β} (first : Preserves read x)
    (rest : ∀ value, Preserves read (f value)) : Preserves read (x >>= f) := by
  intro state
  rw [after rest]
  exact first state

theorem pure (value : α) : Preserves read (Pure.pure value : EStateM ε σ α) :=
  fun _ => rfl

theorem get : Preserves read (MonadState.get : EStateM ε σ σ) :=
  fun _ => rfl

theorem throw (failure : ε) : Preserves read (MonadExcept.throw failure : EStateM ε σ α) :=
  fun _ => rfl

theorem modify {f : σ → σ} (same : ∀ state, read (f state) = read state) :
    Preserves read (modifyGet fun state => (PUnit.unit, f state) : EStateM ε σ PUnit) :=
  same

end Preserves

/-! ### What a computation returns -/

/-- Every value that is returned satisfies the condition. -/
def Yields (post : α → Prop) (x : EStateM ε σ α) : Prop :=
  ∀ state value, (x.run state).outcome = .ok value → post value

namespace Yields

variable {post : α → Prop}

theorem pure {value : α} (holds : post value) : Yields post (Pure.pure value : EStateM ε σ α) := by
  intro _ returned same
  cases same
  exact holds

theorem throw (failure : ε) : Yields post (MonadExcept.throw failure : EStateM ε σ α) :=
  nofun

/-- What the first part of a sequence returns is what the rest may rely on. -/
theorem chain {pre : β → Prop} {x : EStateM ε σ β} {f : β → EStateM ε σ α}
    (first : Yields pre x) (rest : ∀ value, pre value → Yields post (f value)) :
    Yields post (x >>= f) := by
  intro state value returned
  obtain ⟨middle, after, begun, ended⟩ := exists_of_run_bind_ok (EStateM.Result.eq_ok returned)
  have holds : pre middle := first state middle (by rw [begun]; rfl)
  exact rest middle holds after value (by rw [ended]; rfl)

/-- Only the last part of a sequence decides what is returned. -/
theorem bind {x : EStateM ε σ β} {f : β → EStateM ε σ α} (rest : ∀ value, Yields post (f value)) :
    Yields post (x >>= f) :=
  have anything : Yields (fun _ => True) x := fun _ _ _ => trivial
  chain anything fun value _ => rest value

end Yields

/-! ### Where a computation may lead -/

/-- Whatever happens, the state in the end is related to the one at the beginning. -/
def Advances (related : σ → σ → Prop) (x : EStateM ε σ α) : Prop :=
  ∀ state, related state (x.run state).final

namespace Advances

variable {related : σ → σ → Prop}

section Leaf

variable (refl : ∀ state, related state state)

include refl

theorem pure (value : α) : Advances related (Pure.pure value : EStateM ε σ α) :=
  refl

theorem throw (failure : ε) : Advances related (MonadExcept.throw failure : EStateM ε σ α) :=
  refl

theorem get : Advances related (MonadState.get : EStateM ε σ σ) :=
  refl

theorem lift (result : Except ε α) :
    Advances related (ofExcept result : EStateM ε σ α) := by
  cases result with
  | ok value => exact refl
  | error failure => exact refl

end Leaf

theorem bind (trans : ∀ a b c, related a b → related b c → related a c)
    {x : EStateM ε σ β} {f : β → EStateM ε σ α} (first : Advances related x)
    (rest : ∀ value, Advances related (f value)) : Advances related (x >>= f) := by
  intro state
  have led := first state
  cases ran : x.run state with
  | ok value middle =>
      rw [ran] at led
      rw [run_bind_of_ok ran]
      exact trans _ _ _ led (rest value middle)
  | error failure middle =>
      rw [ran] at led
      rw [run_bind_of_error ran]
      exact led

end Advances

end Foundation
