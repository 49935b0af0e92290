/-
The driver's options.

A driver owns the options it is given: it keeps them in a list of applied and a
list of pending ones, or deletes them. An option is its address, and 0 is the null
pointer. The setters of the driver are a parameter: a setter sees whether the
driver counts as connected, and may answer anything or throw. What the language
does not define (a call through a null or deleted pointer, an iterator that the
list has invalidated, a copy past the end of a list) is a failure of its own.
-/

import LibTabula.Foundation.Effect
import LibTabula.Foundation.Run
import Mathlib.Data.List.Perm.Basic
import Mathlib.Tactic.SplitIfs

set_option autoImplicit false

namespace LibTabula

open Foundation

abbrev OptionPtr := Nat

/-- `Option::Error`. -/
inductive OptionError
  | none
  | apiLimit
  | apiReject
  | connected
  | disconnected
deriving DecidableEq, Repr

inductive OptionFailure
  | thrown
  | undefined
deriving DecidableEq, Repr

/-- One call of a setter; it has no answer when it throws. -/
structure Handing where
  option : OptionPtr
  connected : Bool
  answer : Option OptionError
deriving DecidableEq, Repr

structure OptionDriver (σ : Type) where
  applied : List OptionPtr
  pending : List OptionPtr
  optionError : OptionError
  isConnected : Bool
  /-- The options deleted so far, in order. -/
  deleted : List OptionPtr
  /-- The options the driver was ever given. -/
  passed : List OptionPtr
  handed : List Handing
  /-- Whatever else the setters depend on. -/
  world : σ

/-- `o->set(this)`, by the option, by `connected()` and by the rest of the world. -/
abbrev Setters (σ : Type) := OptionPtr → Bool → σ → Option OptionError × σ

namespace OptionDriver

variable {σ : Type} (setters : Setters σ)

def new (world : σ) : OptionDriver σ :=
  { applied := [], pending := [], optionError := .none, isConnected := false
    deleted := [], passed := [], handed := [], world := world }

/-- The driver after a setter has been called. -/
def called (self : OptionDriver σ) (o : OptionPtr) : OptionDriver σ :=
  let answered := setters o self.isConnected self.world
  { self with
    handed := self.handed ++ [{ option := o, connected := self.isConnected
                                answer := answered.1 }]
    optionError := answered.1.getD self.optionError
    world := answered.2 }

def keepApplied (self : OptionDriver σ) (o : OptionPtr) : OptionDriver σ :=
  { self with applied := self.applied ++ [o] }

def enqueue (self : OptionDriver σ) (o : OptionPtr) : OptionDriver σ :=
  { self with pending := self.pending ++ [o] }

def delete (self : OptionDriver σ) (o : OptionPtr) : OptionDriver σ :=
  { self with deleted := self.deleted ++ [o] }

/-- The option is deleted on every way out that does not store it. -/
def setOption (o : OptionPtr) : EStateM OptionFailure (OptionDriver σ) Bool := do
  let self ← get
  if o = 0 ∨ o ∈ self.deleted then throw .undefined
  let after := self.called setters o
  match (setters o self.isConnected self.world).1 with
  | some .none => do
      set (after.keepApplied o)
      pure true
  | some .disconnected => do
      set (after.enqueue o)
      pure true
  | some _ => do
      set (after.delete o)
      pure false
  | none => do
      set (after.delete o)
      throw .thrown

/-- The loop over the pending options, with those that failed so far. There is no
result where it quits early. An option that is queued again grows the list the
loop goes through, after which its iterator is not valid any more. -/
def applyLoop (quitOnFirstFailure : Bool) :
    List OptionPtr → List OptionPtr →
      EStateM OptionFailure (OptionDriver σ) (Option (List OptionPtr))
  | [], failedOptions => pure (some failedOptions)
  | o :: rest, failedOptions => do
      let before ← get
      let wasSet ← setOption setters o
      let after ← get
      if after.pending.length ≠ before.pending.length then throw .undefined
      if wasSet then applyLoop quitOnFirstFailure rest failedOptions
      else if quitOnFirstFailure then pure none
      else applyLoop quitOnFirstFailure rest (failedOptions ++ [o])

/-- `option_error_ = Option::err_NONE;` -/
def clearError (self : OptionDriver σ) : OptionDriver σ := { self with optionError := .none }

/-- The end of `apply_pending_options()`: `copy()` writes over the pending options from
the first one on, and does not make the list longer. -/
def keepFailed (failedOptions : List OptionPtr) : EStateM OptionFailure (OptionDriver σ) Bool := do
  let self ← get
  if failedOptions = [] then do
    set { self with pending := [] }
    pure true
  else if failedOptions.length ≤ self.pending.length then do
    set { self with pending := failedOptions ++ self.pending.drop failedOptions.length }
    pure true
  else throw .undefined

/-- `failed_options` is made with as many null pointers as there are options
pending, and what fails goes behind them. -/
def applyPendingOptions (quitOnFirstFailure : Bool) :
    EStateM OptionFailure (OptionDriver σ) Bool := do
  let self ← get
  set self.clearError
  match ← applyLoop setters quitOnFirstFailure self.pending
      (List.replicate self.pending.length 0) with
  | none => pure false
  | some failedOptions => keepFailed failedOptions

/-- The destructor deletes the options that are applied. The list of the pending ones
goes without them. -/
def destroy (self : OptionDriver σ) : OptionDriver σ :=
  { self with applied := [], pending := [], deleted := self.deleted ++ self.applied }

/-! ### Setting one option -/

/-- What `set_option()` can do: it stores the option in one of the lists, deletes it
and says so or throws, or the pointer is no option. -/
theorem setOption_cases (o : OptionPtr) (self : OptionDriver σ) :
    ((o = 0 ∨ o ∈ self.deleted) ∧ (setOption setters o).run self = .error .undefined self) ∨
    (setOption setters o).run self = .ok true ((self.called setters o).keepApplied o) ∨
    (setOption setters o).run self = .ok true ((self.called setters o).enqueue o) ∨
    (setOption setters o).run self = .ok false ((self.called setters o).delete o) ∨
    (setOption setters o).run self = .error .thrown ((self.called setters o).delete o) := by
  have start : (get : EStateM OptionFailure (OptionDriver σ) _).run self = .ok self self := rfl
  rw [setOption, run_bind_of_ok start]
  by_cases bad : o = 0 ∨ o ∈ self.deleted
  · rw [if_pos bad]
    exact .inl ⟨bad, rfl⟩
  · rw [if_neg bad]
    refine .inr ?_
    cases answer : (setters o self.isConnected self.world).1 with
    | none => exact .inr (.inr (.inr rfl))
    | some error =>
        cases error with
        | none => exact .inl rfl
        | disconnected => exact .inr (.inl rfl)
        | apiLimit | apiReject | connected => exact .inr (.inr (.inl rfl))

/-! ### Who owns an option -/

/-- Every option that was given is in one place: applied, pending or deleted. -/
structure Owned (driver : OptionDriver σ) : Prop where
  distinct : driver.passed.Nodup
  notNull : 0 ∉ driver.passed
  partition : (driver.applied ++ driver.pending ++ driver.deleted).Perm driver.passed

/-- The driver is given one more option. -/
def pass (self : OptionDriver σ) (o : OptionPtr) : OptionDriver σ :=
  { self with passed := self.passed ++ [o] }

namespace Owned

variable {self : OptionDriver σ}

theorem new (world : σ) : Owned (OptionDriver.new world) where
  distinct := List.nodup_nil
  notNull := List.not_mem_nil
  partition := .refl []

theorem nodup (owned : Owned self) : (self.applied ++ self.pending ++ self.deleted).Nodup :=
  owned.partition.nodup_iff.mpr owned.distinct

theorem mem_passed (owned : Owned self) {o : OptionPtr}
    (member : o ∈ self.applied ++ self.pending ++ self.deleted) : o ∈ self.passed :=
  owned.partition.mem_iff.mp member

theorem pending_ne_zero (owned : Owned self) {o : OptionPtr} (member : o ∈ self.pending) :
    o ≠ 0 := by
  intro same
  subst same
  exact owned.notNull
    (owned.mem_passed (List.mem_append_left _ (List.mem_append_right _ member)))

theorem not_deleted_of_pending (owned : Owned self) {o : OptionPtr} (member : o ∈ self.pending) :
    o ∉ self.deleted := by
  intro deleted
  have apart := (List.nodup_append.mp owned.nodup).2.2
  exact apart o (List.mem_append_right _ member) o deleted rfl

/-- One more option, in one of the places. -/
theorem add {after : OptionDriver σ} (owned : Owned self) {o : OptionPtr} (notNull : o ≠ 0)
    (fresh : o ∉ self.passed) (passed : after.passed = self.passed ++ [o])
    (placed : (after.applied ++ after.pending ++ after.deleted).Perm
      (o :: (self.applied ++ self.pending ++ self.deleted))) : Owned after where
  distinct := by
    rw [passed]
    refine List.nodup_append.mpr ⟨owned.distinct, List.pairwise_singleton _ o, ?_⟩
    intro left leftMember right rightMember same
    apply fresh
    rw [List.mem_singleton.mp rightMember] at same
    exact same ▸ leftMember
  notNull := by
    rw [passed]
    simp only [List.mem_append, List.mem_singleton, not_or]
    exact ⟨owned.notNull, notNull.symm⟩
  partition := by
    rw [passed]
    exact placed.trans ((owned.partition.cons o).trans (List.perm_append_singleton o _).symm)

/-- Whatever a setter answers, the option it was asked about has one place. -/
theorem setOption (owned : Owned self) {o : OptionPtr} (notNull : o ≠ 0) (fresh : o ∉ self.passed) :
    ((OptionDriver.setOption setters o).run (self.pass o)).outcome ≠ .error .undefined ∧
      Owned ((OptionDriver.setOption setters o).run (self.pass o)).final := by
  rcases setOption_cases setters o (self.pass o) with
    ⟨bad, _⟩ | ran | ran | ran | ran
  · rcases bad with null | deleted
    · exact absurd null notNull
    · exact absurd (owned.mem_passed (List.mem_append_right _ deleted)) fresh
  · rw [ran]
    refine ⟨nofun, owned.add notNull fresh rfl ?_⟩
    simp only [EStateM.Result.final_ok, keepApplied, called, pass, List.append_assoc,
      List.singleton_append]
    exact List.perm_middle
  · rw [ran]
    refine ⟨nofun, owned.add notNull fresh rfl ?_⟩
    simp only [EStateM.Result.final_ok, enqueue, called, pass, List.append_assoc,
      List.singleton_append]
    rw [← List.append_assoc, ← List.append_assoc]
    exact List.perm_middle
  · rw [ran]
    refine ⟨nofun, owned.add notNull fresh rfl ?_⟩
    simp only [EStateM.Result.final_ok, OptionDriver.delete, called, pass]
    rw [← List.append_assoc]
    exact List.perm_append_singleton _ _
  · rw [ran]
    refine ⟨nofun, owned.add notNull fresh rfl ?_⟩
    simp only [EStateM.Result.final_error, OptionDriver.delete, called, pass]
    rw [← List.append_assoc]
    exact List.perm_append_singleton _ _

/-- The destructor deletes everything once exactly where nothing is pending. -/
theorem destroyed_iff (owned : Owned self) :
    self.destroy.deleted.Perm self.passed ↔ self.pending = [] := by
  constructor
  · intro all
    have sizes := all.length_eq
    have places := owned.partition.length_eq
    simp only [destroy, List.length_append] at sizes places
    exact List.eq_nil_of_length_eq_zero (by omega)
  · intro nothing
    have places := owned.partition
    rw [nothing, List.append_nil] at places
    exact List.perm_append_comm.trans places

end Owned

/-! ### Applying what is pending -/

theorem applyLoop_step {quit wasSet : Bool} {o : OptionPtr} {rest failed : List OptionPtr}
    {self after : OptionDriver σ} (ran : (setOption setters o).run self = .ok wasSet after)
    (kept : after.pending = self.pending) :
    (applyLoop setters quit (o :: rest) failed).run self =
      if wasSet then (applyLoop setters quit rest failed).run after
      else if quit then .ok none after
      else (applyLoop setters quit rest (failed ++ [o])).run after := by
  have start : (get : EStateM OptionFailure (OptionDriver σ) _).run self = .ok self self := rfl
  have behind : (get : EStateM OptionFailure (OptionDriver σ) _).run after = .ok after after := rfl
  have same : ¬ after.pending.length ≠ self.pending.length := by rw [kept]; exact not_not.mpr rfl
  rw [applyLoop, run_bind_of_ok start, run_bind_of_ok ran, run_bind_of_ok behind, if_neg same]
  cases wasSet with
  | true => rfl
  | false => cases quit <;> rfl

theorem applyLoop_queued {quit wasSet : Bool} {o : OptionPtr} {rest failed : List OptionPtr}
    {self after : OptionDriver σ} (ran : (setOption setters o).run self = .ok wasSet after)
    (grown : after.pending.length ≠ self.pending.length) :
    (applyLoop setters quit (o :: rest) failed).run self = .error .undefined after := by
  have start : (get : EStateM OptionFailure (OptionDriver σ) _).run self = .ok self self := rfl
  have behind : (get : EStateM OptionFailure (OptionDriver σ) _).run after = .ok after after := rfl
  rw [applyLoop, run_bind_of_ok start, run_bind_of_ok ran, run_bind_of_ok behind, if_pos grown]
  rfl

theorem applyLoop_stop {quit : Bool} {o : OptionPtr} {rest failed : List OptionPtr}
    {self after : OptionDriver σ} {failure : OptionFailure}
    (ran : (setOption setters o).run self = .error failure after) :
    (applyLoop setters quit (o :: rest) failed).run self = .error failure after := by
  have start : (get : EStateM OptionFailure (OptionDriver σ) _).run self = .ok self self := rfl
  rw [applyLoop, run_bind_of_ok start, run_bind_of_error ran]

/-- What the loop can come to. Either it is undefined, or it stops at an option that
it has deleted although that is still in the list, or it goes through. -/
theorem applyLoop_cases (quit : Bool) (todo failed : List OptionPtr) (self : OptionDriver σ) :
    ((applyLoop setters quit todo failed).run self).outcome = .error .undefined ∨
    ((((applyLoop setters quit todo failed).run self).outcome = .error .thrown ∨
        ((applyLoop setters quit todo failed).run self).outcome = .ok none) ∧
      ((applyLoop setters quit todo failed).run self).final.pending = self.pending ∧
      ∃ o ∈ todo, o ∈ ((applyLoop setters quit todo failed).run self).final.deleted) ∨
    (∃ more, ((applyLoop setters quit todo failed).run self).outcome = .ok (some (failed ++ more)) ∧
      ((applyLoop setters quit todo failed).run self).final.pending = self.pending) := by
  induction todo generalizing failed self with
  | nil =>
      refine .inr (.inr ⟨[], ?_, rfl⟩)
      rw [applyLoop, List.append_nil]
      rfl
  | cons o rest ih =>
      rcases setOption_cases setters o self with
        ⟨_, ran⟩ | ran | ran | ran | ran
      · rw [applyLoop_stop setters ran]
        exact .inl rfl
      · rw [applyLoop_step setters ran rfl, if_pos rfl]
        rcases ih failed ((self.called setters o).keepApplied o) with
          undefined | ⟨stopped, pending, other, member, deleted⟩ | through
        · exact .inl undefined
        · exact .inr (.inl ⟨stopped, pending, other, List.mem_cons_of_mem o member, deleted⟩)
        · exact .inr (.inr through)
      · have longer : ((self.called setters o).enqueue o).pending.length ≠ self.pending.length := by
          simp [enqueue, called]
        rw [applyLoop_queued setters ran longer]
        exact .inl rfl
      · rw [applyLoop_step setters ran rfl, if_neg Bool.false_ne_true]
        cases quit with
        | true =>
            refine .inr (.inl ⟨.inr rfl, rfl, o, List.mem_cons_self, ?_⟩)
            exact List.mem_append_right _ List.mem_cons_self
        | false =>
            rw [if_neg Bool.false_ne_true]
            rcases ih (failed ++ [o]) ((self.called setters o).delete o) with
              undefined | ⟨stopped, pending, other, member, deleted⟩ | ⟨more, through, pending⟩
            · exact .inl undefined
            · exact .inr (.inl ⟨stopped, pending, other, List.mem_cons_of_mem o member, deleted⟩)
            · rw [List.append_assoc] at through
              exact .inr (.inr ⟨[o] ++ more, through, pending⟩)
      · rw [applyLoop_stop setters ran]
        refine .inr (.inl ⟨.inl rfl, rfl, o, List.mem_cons_self, ?_⟩)
        exact List.mem_append_right _ List.mem_cons_self

/-- With the null pointers in front, only they can be copied, and only over all of
the list. -/
theorem keepFailed_nulls {n : Nat} (more : List OptionPtr) (self : OptionDriver σ)
    (size : self.pending.length = n) (positive : 0 < n) :
    ((keepFailed (List.replicate n 0 ++ more)).run self).outcome = .error .undefined ∨
    (((keepFailed (List.replicate n 0 ++ more)).run self).outcome = .ok true ∧
      ((keepFailed (List.replicate n 0 ++ more)).run self).final.pending =
        List.replicate n 0) := by
  have start : (get : EStateM OptionFailure (OptionDriver σ) _).run self = .ok self self := rfl
  have present : List.replicate n 0 ++ more ≠ [] := by
    intro nothing
    have sizes := congrArg List.length nothing
    rw [List.length_append, List.length_replicate, List.length_nil] at sizes
    omega
  rw [keepFailed, run_bind_of_ok start, if_neg present]
  by_cases fits : (List.replicate n 0 ++ more).length ≤ self.pending.length
  · rw [if_pos fits]
    refine .inr ⟨rfl, ?_⟩
    have none : more = [] := by
      rw [List.length_append, List.length_replicate, size] at fits
      exact List.eq_nil_of_length_eq_zero (by omega)
    change (List.replicate n 0 ++ more) ++ self.pending.drop _ = _
    rw [none, List.append_nil, List.length_replicate, ← size, List.drop_length, List.append_nil]
  · rw [if_neg fits]
    exact .inl rfl

/-- With something pending the call is undefined, or an option is deleted and still
pending, or the pending options are replaced by null pointers. -/
theorem applyPendingOptions_cases (quit : Bool) {self : OptionDriver σ}
    (waiting : self.pending ≠ []) :
    ((applyPendingOptions setters quit).run self).outcome = .error .undefined ∨
    (((applyPendingOptions setters quit).run self).outcome ≠ .ok true ∧
      ∃ o ∈ ((applyPendingOptions setters quit).run self).final.pending,
        o ∈ ((applyPendingOptions setters quit).run self).final.deleted) ∨
    (((applyPendingOptions setters quit).run self).outcome = .ok true ∧
      ((applyPendingOptions setters quit).run self).final.pending =
        List.replicate self.pending.length 0) := by
  have start : (get : EStateM OptionFailure (OptionDriver σ) _).run self = .ok self self := rfl
  have cleared : (set self.clearError : EStateM OptionFailure (OptionDriver σ) PUnit).run self =
      .ok () self.clearError := rfl
  rw [applyPendingOptions, run_bind_of_ok start, run_bind_of_ok cleared]
  have positive : 0 < self.pending.length := List.length_pos_iff.mpr waiting
  rcases applyLoop_cases setters quit self.pending (List.replicate self.pending.length 0)
    self.clearError with
    undefined | ⟨stopped, pending, o, member, deleted⟩ | ⟨more, through, pending⟩
  · rw [run_bind_of_error (EStateM.Result.eq_error undefined)]
    exact .inl rfl
  · refine .inr (.inl ?_)
    have inside : o ∈ self.clearError.pending := member
    rw [← pending] at inside
    rcases stopped with thrown | early
    · rw [run_bind_of_error (EStateM.Result.eq_error thrown)]
      exact ⟨nofun, o, inside, deleted⟩
    · rw [run_bind_of_ok (EStateM.Result.eq_ok early)]
      exact ⟨nofun, o, inside, deleted⟩
  · rw [run_bind_of_ok (EStateM.Result.eq_ok through)]
    refine .imp_right .inr (keepFailed_nulls more _ ?_ ?_)
    · rw [pending]
      rfl
    · exact positive

theorem applyPendingOptions_nothing (quit : Bool) {self : OptionDriver σ}
    (nothing : self.pending = []) :
    (applyPendingOptions setters quit).run self = .ok true self.clearError := by
  have start : (get : EStateM OptionFailure (OptionDriver σ) _).run self = .ok self self := rfl
  have cleared : (set self.clearError : EStateM OptionFailure (OptionDriver σ) PUnit).run self =
      .ok () self.clearError := rfl
  rw [applyPendingOptions, run_bind_of_ok start, run_bind_of_ok cleared, nothing]
  have same : { self.clearError with pending := [] } = self.clearError := by
    rw [clearError, nothing]
  exact congrArg (EStateM.Result.ok true) same

/-- What is expected of `apply_pending_options()`: every option keeps one owner, and
if all have been tried, what succeeded is applied and the rest is still pending. -/
def ApplyKeepsOwners (quit : Bool) (self : OptionDriver σ) : Prop :=
  ((applyPendingOptions setters quit).run self).outcome ≠ .error .undefined ∧
    Owned ((applyPendingOptions setters quit).run self).final ∧
    (quit = false → ((applyPendingOptions setters quit).run self).outcome = .ok true →
      ∃ tried, ((applyPendingOptions setters quit).run self).final.handed = self.handed ++ tried ∧
        (∀ call ∈ tried, call.answer = some .none →
          call.option ∈ ((applyPendingOptions setters quit).run self).final.applied) ∧
        ∀ o ∈ ((applyPendingOptions setters quit).run self).final.pending,
          o ∈ self.pending ∧ ∀ call ∈ tried, call.option = o → call.answer ≠ some .none)

theorem applyKeepsOwners_iff (quit : Bool) {self : OptionDriver σ} (owned : Owned self) :
    ApplyKeepsOwners setters quit self ↔ self.pending = [] := by
  constructor
  · intro found
    obtain ⟨defined, kept, _⟩ := found
    by_contra waiting
    rcases applyPendingOptions_cases setters quit waiting with
      undefined | ⟨_, o, pending, deleted⟩ | ⟨_, nulls⟩
    · exact defined undefined
    · exact kept.not_deleted_of_pending pending deleted
    · have null : (0 : OptionPtr) ∈ List.replicate self.pending.length 0 :=
        List.mem_replicate.mpr ⟨mt List.eq_nil_of_length_eq_zero waiting, rfl⟩
      rw [← nulls] at null
      exact kept.pending_ne_zero null rfl
  · intro nothing
    have ran := applyPendingOptions_nothing setters quit nothing
    unfold ApplyKeepsOwners
    rw [ran]
    refine ⟨nofun, ⟨owned.distinct, owned.notNull, owned.partition⟩, fun _ _ => ?_⟩
    refine ⟨[], (List.append_nil _).symm, nofun, ?_⟩
    intro o member
    change o ∈ self.pending at member
    rw [nothing] at member
    cases member

/-! ### Runs -/

inductive OptionEvent (σ : Type)
  | setOption (o : OptionPtr)
  | applyPendingOptions (quit : Bool)
  /-- Whatever else happens to the driver and around it. -/
  | other (isConnected : Bool) (world : σ)

/-- A new option is given to the driver, or nothing is pending when the pending ones
are applied. What a call throws, its caller may catch. -/
inductive SafeStep : OptionDriver σ → OptionEvent σ → OptionDriver σ → Prop
  | setOption {before : OptionDriver σ} {o : OptionPtr} (notNull : o ≠ 0)
      (fresh : o ∉ before.passed) :
      SafeStep before (.setOption o)
        ((OptionDriver.setOption setters o).run (before.pass o)).final
  | applyPendingOptions {before : OptionDriver σ} {quit : Bool} (nothing : before.pending = []) :
      SafeStep before (.applyPendingOptions quit)
        ((OptionDriver.applyPendingOptions setters quit).run before).final
  | other {before : OptionDriver σ} {isConnected : Bool} {world : σ} :
      SafeStep before (.other isConnected world)
        { before with isConnected := isConnected, world := world }

theorem owned_of_step {before after : OptionDriver σ} {event : OptionEvent σ}
    (owned : Owned before) (step : SafeStep setters before event after) : Owned after := by
  cases step with
  | setOption notNull fresh => exact (owned.setOption setters notNull fresh).2
  | @applyPendingOptions quit nothing =>
      exact ((applyKeepsOwners_iff setters quit owned).mpr nothing).2.1
  | other => exact ⟨owned.distinct, owned.notNull, owned.partition⟩

/-- In a run that applies pending options only where there are none, every option has
one owner. What may come next keeps that exactly where nothing is pending. -/
theorem run_owned_and_next_iff {world : σ} {events : List (OptionEvent σ)} {self : OptionDriver σ}
    (run : Run (SafeStep setters) (new world) events self) :
    Owned self ∧
      (∀ o, o ≠ 0 → o ∉ self.passed →
        ((setOption setters o).run (self.pass o)).outcome ≠ .error .undefined ∧
          Owned ((setOption setters o).run (self.pass o)).final) ∧
      (∀ quit, ApplyKeepsOwners setters quit self ↔ self.pending = []) ∧
      (self.destroy.deleted.Perm self.passed ↔ self.pending = []) := by
  have owned : Owned self := by
    refine run.invariant Owned ?_ (.new world)
    exact fun before event after owned step => owned_of_step setters owned step
  refine ⟨owned, ?_, fun quit => applyKeepsOwners_iff setters quit owned, owned.destroyed_iff⟩
  exact fun o notNull fresh => owned.setOption setters notNull fresh

theorem run_owned_and_next_iff_oneOption :
    ∃ self : OptionDriver Unit,
      Run (SafeStep fun _ _ world => (some .none, world)) (new ()) [.setOption 7] self ∧
        Owned self ∧ self.applied = [7] := by
  have run : Run (SafeStep fun _ _ world => (some .none, world)) (new ()) [.setOption 7] _ :=
    .single (.setOption (by decide) (by decide))
  exact ⟨_, run, (run_owned_and_next_iff _ run).1, rfl⟩

/-- An option is queued and can be set when the pending ones are applied: it is
applied then, and a null pointer is pending in its place. -/
theorem queued_option_becomes_null :
    let setters : Setters Bool := fun _ _ up => (some (if up then .none else .disconnected), up)
    let queued := ((setOption setters 7).run ((new false).pass 7)).final
    let applied := ((applyPendingOptions setters false).run { queued with world := true }).final
    queued.pending = [7] ∧ applied.applied = [7] ∧ applied.pending = [0] := by
  decide +kernel

end OptionDriver

/-! ### Connecting -/

/-- The C library's side of a connection. -/
structure MySQLServer (σ : Type) where
  realConnect : σ → Bool × σ
  close : σ → σ

namespace OptionDriver

variable {σ : Type} (setters : Setters σ) (server : MySQLServer σ)

def disconnect (self : OptionDriver σ) : OptionDriver σ :=
  if self.isConnected then
    { self with isConnected := false, world := server.close self.world }
  else self

/-- After an attempt to connect. -/
def attempted (self : OptionDriver σ) : OptionDriver σ :=
  { self with world := (server.realConnect self.world).2 }

def mysqlRealConnect : EStateM OptionFailure (OptionDriver σ) Bool := do
  let self ← get
  set (self.attempted server)
  pure (server.realConnect self.world).1

/-- What the flag of the connection is set to, once all of it has been computed. -/
def establish : EStateM OptionFailure (OptionDriver σ) Bool := do
  if ← applyPendingOptions setters false then
    if ← mysqlRealConnect server then applyPendingOptions setters true else pure false
  else pure false

/-- `MySQLDriver::connect()`. -/
def connect : EStateM OptionFailure (OptionDriver σ) Bool := do
  modify (disconnect server)
  let connected ← establish setters server
  modify fun self => { self with isConnected := connected }
  pure connected

/-- The calls of setters that found the driver connected. -/
def calledConnected (self : OptionDriver σ) : List Handing := self.handed.filter (·.connected)

/-- As long as the flag is down, what setters are called is no call while connected. -/
def downLog (self : OptionDriver σ) : Bool × List Handing :=
  (self.isConnected, if self.isConnected then [] else self.calledConnected)

theorem preserves_setOption (o : OptionPtr) : Preserves downLog (setOption setters o) := by
  intro self
  have same : (self.called setters o).downLog = self.downLog := by
    cases down : self.isConnected with
    | true => simp only [downLog, called, down, if_true]
    | false =>
        simp only [downLog, called, calledConnected, down, Bool.false_eq_true, if_false,
          List.filter_append, List.filter_cons, List.filter_nil, List.append_nil]
  rcases setOption_cases setters o self with ⟨_, ran⟩ | ran | ran | ran | ran
  · rw [ran]
    rfl
  all_goals
    rw [ran]
    exact same

theorem preserves_applyLoop (quit : Bool) (todo failed : List OptionPtr) :
    Preserves downLog (applyLoop setters quit todo failed) := by
  induction todo generalizing failed with
  | nil => exact Preserves.pure _
  | cons o rest ih =>
      rw [applyLoop]
      refine Preserves.bind Preserves.get fun before => ?_
      refine Preserves.bind (preserves_setOption setters o) fun wasSet => ?_
      refine Preserves.bind Preserves.get fun after => ?_
      by_cases grown : after.pending.length ≠ before.pending.length
      · rw [if_pos grown]
        exact fun _ => rfl
      · rw [if_neg grown]
        cases wasSet with
        | true => exact ih failed
        | false =>
            cases quit with
            | true => exact Preserves.pure _
            | false => exact ih (failed ++ [o])

theorem preserves_keepFailed (failed : List OptionPtr) :
    Preserves (downLog (σ := σ)) (keepFailed failed) := by
  intro self
  have start : (get : EStateM OptionFailure (OptionDriver σ) _).run self = .ok self self := rfl
  rw [keepFailed, run_bind_of_ok start]
  split_ifs <;> rfl

theorem preserves_applyPendingOptions (quit : Bool) :
    Preserves downLog (applyPendingOptions setters quit) := by
  refine fun self => ?_
  have start : (get : EStateM OptionFailure (OptionDriver σ) _).run self = .ok self self := rfl
  have cleared : (set self.clearError : EStateM OptionFailure (OptionDriver σ) PUnit).run self =
      .ok () self.clearError := rfl
  rw [applyPendingOptions, run_bind_of_ok start, run_bind_of_ok cleared]
  refine Preserves.bind (preserves_applyLoop setters quit _ _) (fun looped => ?_) self.clearError
  cases looped with
  | none => exact Preserves.pure _
  | some failed => exact preserves_keepFailed failed

theorem preserves_establish : Preserves downLog (establish setters server) := by
  refine Preserves.bind (preserves_applyPendingOptions setters false) fun first => ?_
  cases first with
  | false => exact Preserves.pure _
  | true =>
      refine Preserves.bind (fun _ => rfl) fun accepted => ?_
      cases accepted with
      | false => exact Preserves.pure _
      | true => exact preserves_applyPendingOptions setters true

theorem disconnect_down (self : OptionDriver σ) :
    (disconnect server self).isConnected = false ∧
      (disconnect server self).pending = self.pending ∧
      (disconnect server self).handed = self.handed := by
  unfold disconnect
  split_ifs with up
  · exact ⟨rfl, rfl, rfl⟩
  · exact ⟨Bool.eq_false_iff.mpr up, rfl, rfl⟩

/-- No setter is called while the driver counts as connected: the flag is set when
all of them have been called. -/
theorem connect_calledConnected (self : OptionDriver σ) :
    ((connect setters server).run self).final.calledConnected = self.calledConnected := by
  have down : (modify (disconnect server) : EStateM OptionFailure (OptionDriver σ) PUnit).run self =
      .ok () (disconnect server self) := rfl
  obtain ⟨flag, _, same⟩ := disconnect_down server self
  have kept := preserves_establish setters server (disconnect server self)
  rw [connect, run_bind_of_ok down]
  simp only [downLog, flag, Bool.false_eq_true, if_false, Prod.mk.injEq] at kept
  obtain ⟨still, log⟩ := kept
  simp only [still, Bool.false_eq_true, if_false] at log
  have before : (disconnect server self).calledConnected = self.calledConnected := by
    rw [calledConnected, same, calledConnected]
  rw [← before, ← log]
  cases ran : (establish setters server).run (disconnect server self) with
  | ok connected after =>
      rw [run_bind_of_ok ran]
      rfl
  | error failure after => rw [run_bind_of_error ran]

theorem applyPendingOptions_null (quit : Bool) {self : OptionDriver σ} {rest : List OptionPtr}
    (null : self.pending = 0 :: rest) :
    ((applyPendingOptions setters quit).run self).outcome = .error .undefined := by
  have start : (get : EStateM OptionFailure (OptionDriver σ) _).run self = .ok self self := rfl
  have cleared : (set self.clearError : EStateM OptionFailure (OptionDriver σ) PUnit).run self =
      .ok () self.clearError := rfl
  have call : (setOption setters 0).run self.clearError = .error .undefined self.clearError := by
    have begin : (get : EStateM OptionFailure (OptionDriver σ) _).run self.clearError =
        .ok self.clearError self.clearError := rfl
    rw [setOption, run_bind_of_ok begin, if_pos (.inl rfl)]
    rfl
  rw [applyPendingOptions, run_bind_of_ok start, run_bind_of_ok cleared, null]
  rw [run_bind_of_error (applyLoop_stop setters call)]
  rfl

/-- With an option queued there is no successful connection. -/
theorem establish_ne_true {self : OptionDriver σ} (waiting : self.pending ≠ []) :
    ((establish setters server).run self).outcome ≠ .ok true := by
  rw [establish]
  rcases applyPendingOptions_cases setters false waiting with
    undefined | ⟨unsuccessful, _⟩ | ⟨first, nulls⟩
  · rw [run_bind_of_error (EStateM.Result.eq_error undefined)]
    nofun
  · cases ran : (applyPendingOptions setters false).run self with
    | error failure after =>
        rw [run_bind_of_error ran]
        nofun
    | ok first after =>
        rw [ran] at unsuccessful
        cases first with
        | true => exact absurd rfl unsuccessful
        | false =>
            rw [run_bind_of_ok ran]
            nofun
  · rw [run_bind_of_ok (EStateM.Result.eq_ok first), if_pos rfl]
    cases size : self.pending.length with
    | zero => exact absurd (List.eq_nil_of_length_eq_zero size) waiting
    | succ n =>
        rw [size, List.replicate_succ] at nulls
        cases accepted : (mysqlRealConnect server).run
            ((applyPendingOptions setters false).run self).final with
        | error failure after => cases accepted
        | ok up after =>
            have pending : after.pending = 0 :: List.replicate n 0 := by
              cases accepted
              exact nulls
            rw [run_bind_of_ok accepted]
            cases up with
            | false => nofun
            | true =>
                rw [if_pos rfl, applyPendingOptions_null setters true pending]
                nofun

/-- What is expected of `connect()` with a server that accepts: each queued option has
been handed to its setter while connected, is applied or has failed, and none is left. -/
def DeferredTakeEffect (self : OptionDriver σ) : Prop :=
  ((connect setters server).run self).outcome = .ok true ∧
    ((connect setters server).run self).final.pending = [] ∧
    ∀ o ∈ self.pending,
      (∃ call ∈ ((connect setters server).run self).final.calledConnected, call.option = o) ∧
      (o ∈ ((connect setters server).run self).final.applied ∨
        ∃ call ∈ ((connect setters server).run self).final.calledConnected, call.option = o ∧
          call.answer ≠ some .none ∧ call.answer ≠ some .disconnected)

theorem deferredTakeEffect_iff (self : OptionDriver σ)
    (accepts : ∀ world, (server.realConnect world).1 = true) :
    DeferredTakeEffect setters server self ↔ self.pending = [] := by
  have down : (modify (disconnect server) : EStateM OptionFailure (OptionDriver σ) PUnit).run self =
      .ok () (disconnect server self) := rfl
  obtain ⟨_, same, _⟩ := disconnect_down server self
  constructor
  · intro both
    obtain ⟨connected, _⟩ := both
    by_contra waiting
    have stillWaiting : (disconnect server self).pending ≠ [] := by rwa [same]
    have failed := establish_ne_true setters server stillWaiting
    rw [connect, run_bind_of_ok down] at connected
    obtain ⟨up, after, ran, ended⟩ := exists_of_run_bind_ok (EStateM.Result.eq_ok connected)
    have isUp : up = true := Except.ok.inj (congrArg EStateM.Result.outcome ended)
    rw [ran, isUp] at failed
    exact failed rfl
  · intro nothing
    rw [nothing] at same
    have first := applyPendingOptions_nothing setters false same
    have accepted : (mysqlRealConnect server).run (disconnect server self).clearError =
        .ok true ((disconnect server self).clearError.attempted server) :=
      congrArg (fun up => EStateM.Result.ok up _) (accepts (disconnect server self).world)
    have noneLeft : ((disconnect server self).clearError.attempted server).pending = [] := same
    have second := applyPendingOptions_nothing setters true noneLeft
    have ran : (establish setters server).run (disconnect server self) =
        .ok true ((disconnect server self).clearError.attempted server).clearError := by
      rw [establish, run_bind_of_ok first, if_pos rfl, run_bind_of_ok accepted, if_pos rfl, second]
    have all : (connect setters server).run self = .ok true
        { ((disconnect server self).clearError.attempted server).clearError with
          isConnected := true } := by
      rw [connect, run_bind_of_ok down, run_bind_of_ok ran]
      rfl
    unfold DeferredTakeEffect
    rw [all, nothing]
    exact ⟨rfl, same, nofun⟩

/-- Whatever is queued, `connect()` calls no setter while connected; with a server
that accepts, deferred options take effect exactly where there are none. -/
theorem connect_deferred_iff (self : OptionDriver σ)
    (accepts : ∀ world, (server.realConnect world).1 = true) :
    ((connect setters server).run self).final.calledConnected = self.calledConnected ∧
      (DeferredTakeEffect setters server self ↔ self.pending = []) :=
  ⟨connect_calledConnected setters server self, deferredTakeEffect_iff setters server self accepts⟩

/-- A server that accepts, and setters that only work on a connected driver. -/
def acceptingServer : MySQLServer Unit := { realConnect := fun _ => (true, ()), close := id }

def connectedOnly : Setters Unit := fun _ connected world =>
  (some (if connected then .none else .disconnected), world)

theorem connect_deferred_iff_queued :
    let queued := ((setOption connectedOnly 7).run ((new ()).pass 7)).final
    queued.pending = [7] ∧
      ((connect connectedOnly acceptingServer).run queued).final.calledConnected = [] ∧
      ¬ DeferredTakeEffect connectedOnly acceptingServer queued := by
  intro queued
  have waits : queued.pending = [7] := by decide +kernel
  have uncalled : queued.calledConnected = [] := by decide +kernel
  obtain ⟨called, effect⟩ :=
    connect_deferred_iff connectedOnly acceptingServer queued fun _ => rfl
  rw [uncalled] at called
  rw [waits] at effect
  exact ⟨waits, called, fun deferred => List.cons_ne_nil _ _ (effect.mp deferred)⟩

/-- An option that waits for the connection is asked again before there is one, and
queued into the list that is gone through. -/
theorem waiting_option_stops_connect :
    let queued := ((setOption connectedOnly 7).run ((new ()).pass 7)).final
    queued.pending = [7] ∧
      ((connect connectedOnly acceptingServer).run queued).outcome = .error .undefined ∧
      ((connect connectedOnly acceptingServer).run queued).final.calledConnected = [] := by
  decide +kernel

end OptionDriver

end LibTabula
