/-
Owners of memory cells.

Every owner holds one cell, and every cell that is not freed has one owner. Addresses are
given out in order and not again. Making an owner with a cell of its own, writing to a cell
and dropping an owner together with its cell keep that.
-/

import Mathlib.Logic.Function.Basic

set_option autoImplicit false

namespace Foundation

open Function

variable {Owner Cell : Type}

structure Owned (holds : Owner → Option Nat) (cells : Nat → Option Cell) (next : Nat)
    (freed : List Nat) : Prop where
  owns : ∀ c p, holds c = some p → cells p ≠ none
  apart : ∀ c other p, holds c = some p → holds other = some p → c = other
  held : ∀ p, cells p ≠ none → ∃ c, holds c = some p
  known : ∀ p, cells p ≠ none ∨ p ∈ freed ↔ p < next
  kept : ∀ p ∈ freed, cells p = none
  once : freed.Nodup

namespace Owned

theorem initial : Owned (fun _ : Owner => none) (fun _ => (none : Option Cell)) 0 [] where
  owns := by
    intro c p impossible
    cases impossible
  apart := by
    intro c other p impossible
    cases impossible
  held := by
    intro p live
    exact absurd rfl live
  known := by
    intro p
    constructor
    · intro either
      rcases either with live | gone
      · exact absurd rfl live
      · cases gone
    · intro impossible
      exact absurd impossible (Nat.not_lt_zero p)
  kept := by
    intro p impossible
    cases impossible
  once := List.nodup_nil

variable {holds : Owner → Option Nat} {cells : Nat → Option Cell} {next : Nat} {freed : List Nat}

theorem lt_next (owned : Owned holds cells next freed) {c : Owner} {p : Nat}
    (holding : holds c = some p) : p < next :=
  (owned.known p).mp (.inl (owned.owns c p holding))

/-- What is in a cell does not matter. -/
theorem write (owned : Owned holds cells next freed) {p : Nat} (live : cells p ≠ none)
    (cell : Cell) : Owned holds (update cells p (some cell)) next freed := by
  have same : ∀ q, update cells p (some cell) q ≠ none ↔ cells q ≠ none := by
    intro q
    by_cases here : q = p
    · subst here
      rw [update_self]
      exact iff_of_true (Option.some_ne_none cell) live
    · rw [update_of_ne here]
  constructor
  · intro c q holding
    exact (same q).mpr (owned.owns c q holding)
  · exact owned.apart
  · intro q lives
    exact owned.held q ((same q).mp lives)
  · intro q
    rw [same q]
    exact owned.known q
  · intro q gone
    have other : q ≠ p := by
      intro here
      rw [here] at gone
      exact live (owned.kept p gone)
    rw [update_of_ne other]
    exact owned.kept q gone
  · exact owned.once

/-- Without owners every cell that there was is freed, each once. -/
theorem all_freed (owned : Owned holds cells next freed) (nobody : ∀ c, holds c = none) :
    (∀ p, cells p = none) ∧ (∀ p, p ∈ freed ↔ p < next) ∧ freed.Nodup := by
  have none_ : ∀ p, cells p = none := by
    intro p
    cases live : cells p with
    | none => rfl
    | some cell =>
        obtain ⟨c, holding⟩ := owned.held p (by rw [live]; exact Option.some_ne_none cell)
        rw [nobody c] at holding
        cases holding
  refine ⟨none_, ?_, owned.once⟩
  intro p
  rw [← owned.known p]
  constructor
  · intro gone
    exact .inr gone
  · intro either
    rcases either with live | gone
    · exact absurd (none_ p) live
    · exact gone

variable [DecidableEq Owner]

/-- A new owner with a new cell. -/
theorem acquire (owned : Owned holds cells next freed) {c : Owner} (vacant : holds c = none)
    (cell : Cell) :
    Owned (update holds c (some next)) (update cells next (some cell)) (next + 1) freed := by
  have elsewhere : ∀ {other p}, other ≠ c → holds other = some p → p ≠ next := by
    intro other p _ holding same
    have below := owned.lt_next holding
    omega
  constructor
  · intro other p holding
    by_cases here : p = next
    · rw [here, update_self]
      exact Option.some_ne_none cell
    · rw [update_of_ne here]
      by_cases new : other = c
      · rw [new, update_self] at holding
        exact absurd (Option.some.inj holding).symm here
      · rw [update_of_ne new] at holding
        exact owned.owns other p holding
  · intro first second p left right
    by_cases firstNew : first = c
    · by_cases secondNew : second = c
      · rw [firstNew, secondNew]
      · rw [firstNew, update_self] at left
        rw [update_of_ne secondNew] at right
        exact absurd (Option.some.inj left).symm (elsewhere secondNew right)
    · rw [update_of_ne firstNew] at left
      by_cases secondNew : second = c
      · rw [secondNew, update_self] at right
        exact absurd (Option.some.inj right).symm (elsewhere firstNew left)
      · rw [update_of_ne secondNew] at right
        exact owned.apart first second p left right
  · intro p live
    by_cases here : p = next
    · exact ⟨c, by rw [here, update_self]⟩
    · rw [update_of_ne here] at live
      obtain ⟨other, holding⟩ := owned.held p live
      have old : other ≠ c := by
        intro same
        rw [same, vacant] at holding
        cases holding
      exact ⟨other, by rw [update_of_ne old, holding]⟩
  · intro p
    by_cases here : p = next
    · rw [here, update_self]
      exact iff_of_true (.inl (Option.some_ne_none cell)) (Nat.lt_succ_self next)
    · rw [update_of_ne here, owned.known p]
      omega
  · intro p gone
    have below := (owned.known p).mp (.inr gone)
    rw [update_of_ne (Nat.ne_of_lt below)]
    exact owned.kept p gone
  · exact owned.once

/-- An owner goes, and its cell with it. -/
theorem release (owned : Owned holds cells next freed) {c : Owner} {p : Nat}
    (holding : holds c = some p) :
    Owned (update holds c none) (update cells p none) next (p :: freed) := by
  have live := owned.owns c p holding
  constructor
  · intro other q another
    by_cases here : other = c
    · rw [here, update_self] at another
      cases another
    · rw [update_of_ne here] at another
      have apart : q ≠ p := by
        intro same
        rw [same] at another
        exact here (owned.apart other c p another holding)
      rw [update_of_ne apart]
      exact owned.owns other q another
  · intro first second q left right
    by_cases firstGone : first = c
    · rw [firstGone, update_self] at left
      cases left
    · by_cases secondGone : second = c
      · rw [secondGone, update_self] at right
        cases right
      · rw [update_of_ne firstGone] at left
        rw [update_of_ne secondGone] at right
        exact owned.apart first second q left right
  · intro q lives
    by_cases here : q = p
    · rw [here, update_self] at lives
      exact absurd rfl lives
    · rw [update_of_ne here] at lives
      obtain ⟨other, another⟩ := owned.held q lives
      have stays : other ≠ c := by
        intro same
        rw [same, holding] at another
        exact here (Option.some.inj another).symm
      exact ⟨other, by rw [update_of_ne stays, another]⟩
  · intro q
    by_cases here : q = p
    · rw [here]
      exact iff_of_true (.inr List.mem_cons_self) (owned.lt_next holding)
    · rw [update_of_ne here, List.mem_cons, or_iff_right here]
      exact owned.known q
  · intro q gone
    by_cases here : q = p
    · rw [here, update_self]
    · rw [update_of_ne here]
      exact owned.kept q (List.mem_of_ne_of_mem here gone)
  · rw [List.nodup_cons]
    constructor
    · intro gone
      exact live (owned.kept p gone)
    · exact owned.once

end Owned

end Foundation
