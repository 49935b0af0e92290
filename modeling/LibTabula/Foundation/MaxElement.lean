/-
The linear search for a largest element.

The search keeps the position of the best node so far and moves on only to a
strictly larger one, so of several largest nodes it returns the first. A strict
order is enough for the result to have nothing above it.
-/

import Mathlib.Order.Defs.Unbundled

set_option autoImplicit false

namespace Foundation

variable {α : Type}

/-- The loop of `std::max_element` over the nodes still ahead: `best` is the
position of `node` and `index` the position of the next node. -/
def maxElementFrom (lt : α → α → Bool) (best : Nat) (node : α) (index : Nat) :
    List α → Nat
  | [] => best
  | candidate :: rest =>
      if lt node candidate then maxElementFrom lt index candidate (index + 1) rest
      else maxElementFrom lt best node (index + 1) rest

/-- `std::max_element(begin(), end())`, with `none` for `end()`. -/
def maxElement (lt : α → α → Bool) : List α → Option Nat
  | [] => none
  | node :: rest => some (maxElementFrom lt 0 node 1 rest)

theorem maxElement_eq_none_iff (lt : α → α → Bool) (items : List α) :
    maxElement lt items = none ↔ items = [] := by
  cases items with
  | nil => simp [maxElement]
  | cons node rest => simp [maxElement]

section Order

variable (lt : α → α → Bool) [IsStrictOrder α (fun left right => lt left right = true)]

/-- The loop invariant is that nothing seen so far lies above the best node. -/
theorem maxElementFrom_spec (seen rest : List α) (best : Nat) (node : α)
    (atBest : seen[best]? = some node)
    (above : ∀ other ∈ seen, lt node other = false) :
    ∃ found, (seen ++ rest)[maxElementFrom lt best node seen.length rest]? = some found ∧
      ∀ other ∈ seen ++ rest, lt found other = false := by
  induction rest generalizing seen best node with
  | nil =>
      refine ⟨node, ?_, ?_⟩
      · simpa [maxElementFrom] using atBest
      · simpa using above
  | cons candidate rest ih =>
      have longer : seen ++ candidate :: rest = (seen ++ [candidate]) ++ rest := by simp
      have counted : seen.length + 1 = (seen ++ [candidate]).length := by simp
      rw [longer, maxElementFrom, counted]
      by_cases larger : lt node candidate = true
      · rw [if_pos larger]
        refine ih (seen ++ [candidate]) seen.length candidate (by simp) ?_
        intro other member
        rw [List.mem_append, List.mem_singleton] at member
        rw [Bool.eq_false_iff]
        intro beyond
        rcases member with earlier | same
        · have chain : lt node other = true :=
            trans_of (fun left right => lt left right = true) larger beyond
          rw [above other earlier] at chain
          cases chain
        · subst other
          exact irrefl_of (fun left right => lt left right = true) candidate beyond
      · rw [if_neg larger]
        have bound : best < seen.length := (List.getElem?_eq_some_iff.mp atBest).1
        refine ih (seen ++ [candidate]) best node ?_ ?_
        · rw [List.getElem?_append_left bound, atBest]
        · intro other member
          rw [List.mem_append, List.mem_singleton] at member
          rcases member with earlier | same
          · exact above other earlier
          · subst other
            exact Bool.eq_false_iff.mpr larger

/-- What the search returns is in the list and has nothing above it. -/
theorem maxElement_spec {items : List α} {position : Nat}
    (found : maxElement lt items = some position) :
    ∃ node, items[position]? = some node ∧ ∀ other ∈ items, lt node other = false := by
  cases items with
  | nil => cases found
  | cons head rest =>
      simp only [maxElement, Option.some.injEq] at found
      subst position
      refine maxElementFrom_spec lt [head] rest 0 head (by simp) ?_
      intro other member
      rw [List.mem_singleton] at member
      subst other
      exact Bool.eq_false_iff.mpr
        (irrefl_of (fun left right => lt left right = true) head)

end Order

end Foundation
