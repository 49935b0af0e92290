/-
Iterator loops over a doubly linked list.

An iterator splits the list into the nodes before it and the nodes from it on.
Erasing through `erase(it++)` leaves the iterator on the following node. The two
erasing loops below, one testing every node and one restarting a search, visit
each node once: both return the selected nodes in order and keep the others in
order.
-/

import Mathlib.Data.List.Basic

set_option autoImplicit false

namespace Foundation

variable {α : Type}

/-- A list seen from an iterator; `after` is empty when the iterator is `end()`. -/
structure Cursor (α : Type) where
  before : List α
  after : List α
deriving DecidableEq, Repr

namespace Cursor

def start (items : List α) : Cursor α := ⟨[], items⟩

def toList (cursor : Cursor α) : List α := cursor.before ++ cursor.after

/-- `++it`, which leaves `end()` alone. -/
def next (cursor : Cursor α) : Cursor α :=
  match cursor.after with
  | [] => cursor
  | node :: rest => ⟨cursor.before ++ [node], rest⟩

/-- `erase(it++)`: the node goes and the iterator is on its successor. -/
def erase (cursor : Cursor α) : Cursor α :=
  ⟨cursor.before, cursor.after.tail⟩

/-- `std::find_if(it, end, p)`. -/
def findIf (p : α → Bool) (cursor : Cursor α) : Cursor α :=
  ⟨cursor.before ++ cursor.after.takeWhile (fun node => !p node),
    cursor.after.dropWhile (fun node => !p node)⟩

theorem findIf_nil (p : α → Bool) (before : List α) :
    findIf p ⟨before, []⟩ = ⟨before, []⟩ := by
  simp [findIf]

theorem findIf_hit (p : α → Bool) (before rest : List α) (node : α)
    (hit : p node = true) : findIf p ⟨before, node :: rest⟩ = ⟨before, node :: rest⟩ := by
  simp [findIf, hit]

theorem findIf_miss (p : α → Bool) (before rest : List α) (node : α)
    (miss : p node = false) :
    findIf p ⟨before, node :: rest⟩ = findIf p ⟨before ++ [node], rest⟩ := by
  simp [findIf, miss]

/-- A search from `begin()` reaches the end of a list without a hit, or stops on
the first hit. -/
theorem findIf_start_cases (p : α → Bool) (items : List α) :
    ((∀ node ∈ items, p node = false) ∧ findIf p (start items) = ⟨items, []⟩) ∨
      ∃ front node back,
        items = front ++ node :: back ∧ p node = true ∧
          (∀ other ∈ front, p other = false) ∧
          findIf p (start items) = ⟨front, node :: back⟩ := by
  have search : ∀ before rest : List α,
      ((∀ node ∈ rest, p node = false) ∧ findIf p ⟨before, rest⟩ = ⟨before ++ rest, []⟩) ∨
        ∃ front node back,
          rest = front ++ node :: back ∧ p node = true ∧
            (∀ other ∈ front, p other = false) ∧
            findIf p ⟨before, rest⟩ = ⟨before ++ front, node :: back⟩ := by
    intro before rest
    induction rest generalizing before with
    | nil => exact Or.inl ⟨by simp, by simp [findIf_nil]⟩
    | cons head tail ih =>
        cases selected : p head with
        | true =>
            exact Or.inr ⟨[], head, tail, rfl, selected, by simp,
              by simp [findIf_hit p before tail head selected]⟩
        | false =>
            rw [findIf_miss p before tail head selected]
            rcases ih (before ++ [head]) with ⟨none, ended⟩ |
              ⟨front, node, back, shape, hit, first, stopped⟩
            · refine Or.inl ⟨?_, by simp [ended]⟩
              intro node member
              rcases List.mem_cons.mp member with same | later
              · rw [same, selected]
              · exact none node later
            · refine Or.inr ⟨head :: front, node, back, by simp [shape], hit, ?_,
                by simp [stopped]⟩
              intro other member
              rcases List.mem_cons.mp member with same | later
              · rw [same, selected]
              · exact first other later
  simpa [start] using search [] items

theorem findIf_after_length_le (p : α → Bool) (cursor : Cursor α) :
    (findIf p cursor).after.length ≤ cursor.after.length :=
  (List.dropWhile_suffix _).length_le

/-- `while (it != end) { if (p(*it)) erase(it++); else ++it; }`, with the erased
nodes in the order they went. -/
def eraseEach (p : α → Bool) (cursor : Cursor α) (erased : List α) : List α × List α :=
  match _shape : cursor.after with
  | [] => (erased, cursor.toList)
  | node :: _ =>
      if p node then eraseEach p cursor.erase (erased ++ [node])
      else eraseEach p cursor.next erased
termination_by cursor.after.length
decreasing_by
  · simp [erase, _shape]
  · simp [next, _shape]

/-- `while ((it = find_if(it, end, p)) != end) erase(it++);`. -/
def eraseFound (p : α → Bool) (cursor : Cursor α) (erased : List α) : List α × List α :=
  match _shape : (cursor.findIf p).after with
  | [] => (erased, (cursor.findIf p).toList)
  | node :: _ => eraseFound p (cursor.findIf p).erase (erased ++ [node])
termination_by cursor.after.length
decreasing_by
  have shorter := findIf_after_length_le p cursor
  rw [_shape] at shorter
  simp only [erase, _shape, List.tail_cons]
  simp only [List.length_cons] at shorter
  omega

theorem eraseEach_eq (p : α → Bool) (before after erased : List α) :
    eraseEach p ⟨before, after⟩ erased =
      (erased ++ after.filter p, before ++ after.filter (fun node => !p node)) := by
  induction after generalizing before erased with
  | nil => simp [eraseEach, toList]
  | cons node rest ih =>
      rw [eraseEach]
      cases selected : p node with
      | true => simp [erase, selected, ih]
      | false => simp [next, selected, ih]

/-- The restarted search erases what the plain loop erases. -/
theorem eraseFound_eq (p : α → Bool) (before after erased : List α) :
    eraseFound p ⟨before, after⟩ erased =
      (erased ++ after.filter p, before ++ after.filter (fun node => !p node)) := by
  induction after generalizing before erased with
  | nil => rw [eraseFound]; simp [findIf, toList]
  | cons node rest ih =>
      cases selected : p node with
      | true =>
          rw [eraseFound, findIf_hit p before rest node selected]
          simp [erase, selected, ih]
      | false =>
          have same : eraseFound p ⟨before, node :: rest⟩ erased =
              eraseFound p ⟨before ++ [node], rest⟩ erased := by
            rw [eraseFound, eraseFound, findIf_miss p before rest node selected]
          rw [same, ih]
          simp [selected]

theorem eraseEach_start (p : α → Bool) (items : List α) :
    eraseEach p (start items) [] =
      (items.filter p, items.filter (fun node => !p node)) := by
  simp [start, eraseEach_eq]

theorem eraseFound_start (p : α → Bool) (items : List α) :
    eraseFound p (start items) [] =
      (items.filter p, items.filter (fun node => !p node)) := by
  simp [start, eraseFound_eq]

end Cursor

end Foundation
