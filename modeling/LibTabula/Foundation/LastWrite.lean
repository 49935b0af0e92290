/-
Writing to the parts of a record.

A list of items is worked off from left to right, and each item is refused or writes to
some parts of a record. What a part has in the end is what was written to it last.
-/

import LibTabula.Foundation.Run
import Mathlib.Logic.Basic

set_option autoImplicit false

namespace Foundation

variable {α β σ ε : Type}

/-- What the items write to a part last, if one of them writes to it. -/
def lastWritten (writes : α → Option β) (items : List α) : Option β :=
  (items.filterMap writes).getLast?

theorem lastWritten_nil (writes : α → Option β) : lastWritten writes [] = none := rfl

theorem lastWritten_cons (writes : α → Option β) (item : α) (items : List α) :
    lastWritten writes (item :: items) = (lastWritten writes items).or (writes item) := by
  unfold lastWritten
  cases written : writes item with
  | none => rw [List.filterMap_cons_none written, Option.or_none]
  | some value =>
      rw [List.filterMap_cons_some written, List.getLast?_cons]
      cases (items.filterMap writes).getLast? <;> rfl

theorem lastWritten_never (items : List α) :
    lastWritten (fun _ => (none : Option β)) items = none := by
  induction items with
  | nil => rfl
  | cons item items ih => rw [lastWritten_cons, ih, Option.or_none]

theorem lastWritten_map {γ : Type} (writes : α → Option β) (f : β → γ) (items : List α) :
    lastWritten (fun item => (writes item).map f) items = (lastWritten writes items).map f := by
  induction items with
  | nil => rfl
  | cons item items ih =>
      rw [lastWritten_cons, lastWritten_cons, ih]
      cases lastWritten writes items <;> rfl

/-- A flag is up in the end if an item raises it. -/
theorem lastWritten_flag (raises : α → Prop) [DecidablePred raises] (items : List α) :
    (lastWritten (fun item => if raises item then some true else none) items).getD false = true ↔
      ∃ item ∈ items, raises item := by
  induction items with
  | nil => simp only [lastWritten_nil, Option.getD_none, Bool.false_eq_true, List.not_mem_nil,
      false_and, exists_false]
  | cons item items ih =>
      have split_ : (∃ other ∈ item :: items, raises other) ↔
          raises item ∨ ∃ other ∈ items, raises other := by
        simp only [List.mem_cons, exists_eq_or_imp]
      rw [lastWritten_cons, split_, ← ih]
      by_cases raised : raises item
      · rw [if_pos raised]
        refine iff_of_true ?_ (Or.inl raised)
        cases last : lastWritten (fun item => if raises item then some true else none) items with
        | none => rfl
        | some value =>
            have member := List.mem_of_getLast? last
            obtain ⟨other, -, written⟩ := List.mem_filterMap.mp member
            split at written
            · exact (Option.some.inj written).symm
            · cases written
      · rw [if_neg raised, Option.or_none, or_iff_right raised]

/-- What a part has in the end is what was written to it last, or what it had. -/
theorem part_of_foldlM {step : σ → α → Except ε σ} (part : σ → β) (writes : α → Option β)
    (stepWrites : ∀ {state item next}, step state item = .ok next →
      part next = (writes item).getD (part state))
    {items : List α} {start last : σ} (ran : items.foldlM step start = .ok last) :
    part last = (lastWritten writes items).getD (part start) := by
  induction items generalizing start with
  | nil =>
      cases ran
      rfl
  | cons item items ih =>
      rw [List.foldlM_cons] at ran
      cases first : step start item with
      | error failure =>
          rw [first] at ran
          cases ran
      | ok next =>
          rw [first] at ran
          rw [ih ran, stepWrites first, lastWritten_cons]
          cases lastWritten writes items <;> rfl

theorem part_of_foldl {step : σ → α → σ} (part : σ → β) (writes : α → Option β)
    {items : List α} (stepWrites : ∀ item ∈ items, ∀ state,
      part (step state item) = (writes item).getD (part state)) (start : σ) :
    part (items.foldl step start) = (lastWritten writes items).getD (part start) := by
  induction items generalizing start with
  | nil => rfl
  | cons item items ih =>
      have later := ih fun other member => stepWrites other (List.mem_cons_of_mem item member)
      rw [List.foldl_cons, later, stepWrites item List.mem_cons_self, lastWritten_cons]
      cases lastWritten writes items <;> rfl

/-- The same of a run whose states have an invariant that its steps rely on. -/
theorem part_of_run {step : σ → α → σ → Prop} {Inv : σ → Prop} (part : σ → β)
    (writes : α → Option β) {items : List α}
    (stepWrites : ∀ item ∈ items, ∀ before after, Inv before → step before item after →
      Inv after ∧ part after = (writes item).getD (part before))
    {start last : σ} (run : Run step start items last) (initially : Inv start) :
    part last = (lastWritten writes items).getD (part start) := by
  induction run with
  | nil => rfl
  | @cons _ _ _ item items first _ ih =>
      obtain ⟨kept, written⟩ := stepWrites item List.mem_cons_self _ _ initially first
      have later := ih (fun other member => stepWrites other (List.mem_cons_of_mem _ member)) kept
      rw [later, written, lastWritten_cons]
      cases lastWritten writes items <;> rfl

/-- The loop ends well if no item is refused, when that depends on the item alone. -/
theorem exists_foldlM_iff (step : σ → α → Except ε σ) {accepted : α → Prop}
    (accepts : ∀ state item, (∃ next, step state item = .ok next) ↔ accepted item)
    (items : List α) (start : σ) :
    (∃ last, items.foldlM step start = .ok last) ↔ ∀ item ∈ items, accepted item := by
  induction items generalizing start with
  | nil => exact iff_of_true ⟨start, rfl⟩ nofun
  | cons item items ih =>
      rw [List.forall_mem_cons, ← accepts start item, List.foldlM_cons]
      cases first : step start item with
      | error failure =>
          refine iff_of_false ?_ ?_
          · intro both
            obtain ⟨last, ran⟩ := both
            cases ran
          · intro given
            obtain ⟨⟨next, accepted⟩, -⟩ := given
            cases accepted
      | ok next =>
          have found : ∃ after, Except.ok (ε := ε) next = .ok after := ⟨next, rfl⟩
          rw [and_iff_right found]
          exact ih next

end Foundation
