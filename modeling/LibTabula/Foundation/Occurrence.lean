/-
The next place of a text, from a position on, where a condition holds.

A search by positions is read as a cut of the text: what is before the place does not
meet the condition, and the text goes on behind it.
-/

import Mathlib.Data.List.Basic

set_option autoImplicit false

namespace Foundation.Occurrence

variable {α : Type} {holds : α → Bool}

def next (holds : α → Bool) (text : List α) (pos : Nat) : Option Nat :=
  ((text.drop pos).findIdx? holds).map fun further => pos + further

theorem next_of_none {text : List α} (nowhere : ∀ c ∈ text, holds c = false) :
    next holds text 0 = none := by
  have notFound : text.findIdx? holds = none := List.findIdx?_eq_none_iff.mpr nowhere
  rw [next, List.drop_zero, notFound]
  rfl

theorem next_append_cons {front : List α} {c : α} (before : ∀ d ∈ front, holds d = false)
    (here : holds c = true) (back : List α) :
    next holds (front ++ c :: back) 0 = some front.length := by
  have notBefore : front.findIdx? holds = none := List.findIdx?_eq_none_iff.mpr before
  rw [next, List.drop_zero, List.findIdx?_append, notBefore, List.findIdx?_cons, if_pos here]
  exact congrArg some ((Nat.zero_add _).trans (Nat.zero_add _))

/-- There is one way to cut a text at its first place. -/
theorem cut_unique {front other back otherBack : List α} {c d : α}
    (before : ∀ e ∈ front, holds e = false) (here : holds c = true)
    (otherBefore : ∀ e ∈ other, holds e = false) (there : holds d = true)
    (same : front ++ c :: back = other ++ d :: otherBack) :
    front = other ∧ c = d ∧ back = otherBack := by
  have place := next_append_cons before here back
  rw [same, next_append_cons otherBefore there otherBack] at place
  obtain ⟨fronts, tails⟩ := List.append_inj same (Option.some.inj place).symm
  exact ⟨fronts, List.cons.inj tails⟩

/-- Each text has no such place, or is cut at the first one. -/
theorem exists_cut (holds : α → Bool) (text : List α) :
    (∀ c ∈ text, holds c = false) ∨
      ∃ front c back, text = front ++ c :: back ∧ holds c = true ∧
        ∀ d ∈ front, holds d = false := by
  induction text with
  | nil => exact Or.inl (List.forall_mem_nil _)
  | cons c text ih =>
      by_cases here : holds c = true
      · exact Or.inr ⟨[], c, text, rfl, here, List.forall_mem_nil _⟩
      · have notHere : holds c = false := Bool.eq_false_iff.mpr here
        rcases ih with nowhere | ⟨front, d, back, rfl, there, before⟩
        · exact Or.inl (List.forall_mem_cons.mpr ⟨notHere, nowhere⟩)
        · exact Or.inr ⟨c :: front, d, back, rfl, there,
            List.forall_mem_cons.mpr ⟨notHere, before⟩⟩

theorem next_eq_none_iff (text : List α) (pos : Nat) :
    next holds text pos = none ↔ ∀ c ∈ text.drop pos, holds c = false := by
  rw [next, Option.map_eq_none_iff, List.findIdx?_eq_none_iff]

/-- The search ends where it begins if the element there meets the condition. -/
theorem next_eq_self_iff (text : List α) (pos : Nat) :
    next holds text pos = some pos ↔ ∃ c, (text.drop pos).head? = some c ∧ holds c = true := by
  rw [next]
  cases text.drop pos with
  | nil => exact iff_of_false nofun nofun
  | cons c rest =>
      rw [List.findIdx?_cons]
      by_cases here : holds c = true
      · rw [if_pos here]
        exact iff_of_true rfl ⟨c, rfl, here⟩
      · rw [if_neg here]
        constructor
        · intro found
          obtain ⟨further, place, same⟩ := Option.map_eq_some_iff.mp found
          obtain ⟨behind, _, rfl⟩ := Option.map_eq_some_iff.mp place
          omega
        · intro ⟨d, same, there⟩
          rw [Option.some.inj same] at here
          exact absurd there here

/-- A second place behind the first one. -/
def twice (holds : α → Bool) (text : List α) : Bool :=
  match next holds text 0 with
  | none => false
  | some pos => (next holds text (pos + 1)).isSome

theorem countP_eq_zero_of_none {text : List α} (nowhere : ∀ c ∈ text, holds c = false) :
    text.countP holds = 0 :=
  List.countP_eq_zero.mpr fun c member => Bool.eq_false_iff.mp (nowhere c member)

theorem twice_iff (text : List α) : twice holds text = true ↔ 2 ≤ text.countP holds := by
  rcases exists_cut holds text with nowhere | ⟨front, c, back, rfl, here, before⟩
  · rw [twice, next_of_none nowhere, countP_eq_zero_of_none nowhere]
    exact iff_of_false nofun (by omega)
  · have behind : (front ++ c :: back).drop (front.length + 1) = back := by
      rw [List.append_cons]
      exact List.drop_left' List.length_append
    have count : (front ++ c :: back).countP holds = back.countP holds + 1 := by
      rw [List.countP_append, countP_eq_zero_of_none before, List.countP_cons_of_pos here,
        Nat.zero_add]
    simp only [twice, next_append_cons before here back]
    rw [count, Option.isSome_iff_ne_none, Ne, next_eq_none_iff, behind]
    constructor
    · intro somewhere
      by_contra few
      have none : back.countP holds = 0 := by omega
      exact somewhere fun d member => Bool.eq_false_iff.mpr (List.countP_eq_zero.mp none d member)
    · intro many nowhere
      rw [countP_eq_zero_of_none nowhere] at many
      omega

end Foundation.Occurrence
