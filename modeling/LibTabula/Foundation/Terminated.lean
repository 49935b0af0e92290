/-
Texts that end at a terminator.

The terminator is the least element of a linear order, and a text that is read up to
it is cut at the first one. What the parts before the terminators say of the
lexicographic order holds of the texts themselves, also where one of them was cut to
a number of elements first.
-/

import Mathlib.Data.List.Lex
import Mathlib.Data.List.Infix
import Mathlib.Data.List.TakeWhile
import Mathlib.Order.Lattice

set_option autoImplicit false

namespace Foundation.Terminated

variable {α : Type} {stop : α}

section Reading

variable [DecidableEq α]

/-- What stands before the first terminator. -/
def upTo (stop : α) (text : List α) : List α := text.takeWhile fun c => decide (c ≠ stop)

theorem upTo_stop (rest : List α) : upTo stop (stop :: rest) = [] :=
  List.takeWhile_cons_of_neg (by rw [decide_eq_true_iff, not_not])

theorem upTo_cons {c : α} (goesOn : c ≠ stop) (rest : List α) :
    upTo stop (c :: rest) = c :: upTo stop rest :=
  List.takeWhile_cons_of_pos (by rw [decide_eq_true_iff]; exact goesOn)

theorem upTo_of_not_mem {text : List α} (whole : stop ∉ text) : upTo stop text = text := by
  induction text with
  | nil => rfl
  | cons c rest ih =>
      have goesOn : c ≠ stop := fun same => whole (same ▸ List.mem_cons_self)
      rw [upTo_cons goesOn, ih fun member => whole (List.mem_cons_of_mem c member)]

theorem upTo_prefix (stop : α) (text : List α) : upTo stop text <+: text :=
  List.takeWhile_prefix _

theorem not_mem_upTo (text : List α) : stop ∉ upTo stop text := by
  intro member
  have goesOn := List.mem_takeWhile_imp (p := fun c => decide (c ≠ stop)) member
  exact of_decide_eq_true goesOn rfl

theorem upTo_map {β : Type} [DecidableEq β] {f : α → β} (injective : f.Injective)
    (text : List α) : upTo (f stop) (text.map f) = (upTo stop text).map f := by
  induction text with
  | nil => rfl
  | cons c rest ih =>
      by_cases same : c = stop
      · subst same
        rw [List.map_cons, upTo_stop, upTo_stop, List.map_nil]
      · have goesOn : f c ≠ f stop := fun mapped => same (injective mapped)
        rw [List.map_cons, upTo_cons goesOn, upTo_cons same, List.map_cons, ih]

theorem upTo_eq_nil_iff (text : List α) : upTo stop text = [] ↔ text.headD stop = stop := by
  cases text with
  | nil => exact iff_of_true rfl rfl
  | cons c rest =>
      by_cases same : c = stop
      · subst same
        exact iff_of_true (upTo_stop rest) rfl
      · rw [upTo_cons same]
        exact iff_of_false (List.cons_ne_nil _ _) same

/-- A text up to its terminator is that of another, cut to its length, if the other has
the same up to the terminator, or, without one, goes on from it. -/
theorem upTo_eq_upTo_take_iff (a b : List α) :
    upTo stop a = upTo stop (b.take a.length) ↔
      stop ∈ a ∧ upTo stop a = upTo stop b ∨ stop ∉ a ∧ a <+: b := by
  induction a generalizing b with
  | nil =>
      rw [List.length_nil, List.take_zero]
      exact iff_of_true rfl (Or.inr ⟨List.not_mem_nil, List.nil_prefix⟩)
  | cons c more ih =>
      by_cases stops : c = stop
      · subst stops
        rw [upTo_stop]
        cases b with
        | nil => exact iff_of_true rfl (Or.inl ⟨List.mem_cons_self, rfl⟩)
        | cons d rest =>
            rw [List.length_cons, List.take_succ_cons]
            by_cases ends : d = c
            · subst ends
              rw [upTo_stop]
              exact iff_of_true rfl (Or.inl ⟨List.mem_cons_self, (upTo_stop rest).symm⟩)
            · rw [upTo_cons ends]
              refine iff_of_false (List.cons_ne_nil _ _).symm ?_
              rintro (⟨_, same⟩ | ⟨whole, _⟩)
              · rw [upTo_cons ends] at same
                exact absurd same.symm (List.cons_ne_nil _ _)
              · exact absurd List.mem_cons_self whole
      · have memIff : stop ∈ c :: more ↔ stop ∈ more :=
          ⟨fun member => (List.mem_cons.mp member).resolve_left (Ne.symm stops),
            List.mem_cons_of_mem c⟩
        rw [upTo_cons stops, memIff]
        cases b with
        | nil =>
            refine iff_of_false (List.cons_ne_nil _ _) ?_
            rintro (⟨_, same⟩ | ⟨_, begins⟩)
            · exact absurd same (List.cons_ne_nil _ _)
            · exact absurd (List.prefix_nil.mp begins) (List.cons_ne_nil _ _)
        | cons d rest =>
            rw [List.length_cons, List.take_succ_cons, List.cons_prefix_cons]
            by_cases ends : d = stop
            · rw [ends, upTo_stop, upTo_stop]
              refine iff_of_false (List.cons_ne_nil _ _) ?_
              rintro (⟨_, same⟩ | ⟨_, same, _⟩)
              · exact absurd same (List.cons_ne_nil _ _)
              · exact absurd same stops
            · rw [upTo_cons ends, upTo_cons ends, List.cons.injEq, List.cons.injEq, ih rest]
              constructor
              · intro found
                obtain ⟨same, ⟨member, equal⟩ | ⟨whole, begins⟩⟩ := found
                · exact Or.inl ⟨member, same, equal⟩
                · exact Or.inr ⟨whole, same, begins⟩
              · rintro (⟨member, same, equal⟩ | ⟨whole, same, begins⟩)
                · exact ⟨same, Or.inl ⟨member, equal⟩⟩
                · exact ⟨same, Or.inr ⟨whole, begins⟩⟩

end Reading

section Order

variable [LinearOrder α] (least : ∀ c, stop ≤ c)
include least

theorem lt_of_upTo_lt_upTo_take (a b : List α) (num : Nat)
    (less : upTo stop a < upTo stop (b.take num)) : a < b := by
  induction a generalizing b num with
  | nil =>
      cases b with
      | nil =>
          rw [List.take_nil] at less
          exact less
      | cons d rest => exact List.nil_lt_cons d rest
  | cons c more ih =>
      cases num with
      | zero => exact absurd less (List.not_lt_nil _)
      | succ num =>
          cases b with
          | nil => exact absurd less (List.not_lt_nil _)
          | cons d rest =>
              rw [List.take_succ_cons] at less
              rw [List.cons_lt_cons_iff]
              by_cases ends : d = stop
              · rw [ends, upTo_stop] at less
                exact absurd less (List.not_lt_nil _)
              by_cases stops : c = stop
              · subst stops
                exact Or.inl (lt_of_le_of_ne (least d) (Ne.symm ends))
              rw [upTo_cons stops, upTo_cons ends, List.cons_lt_cons_iff] at less
              rcases less with first | ⟨same, behind⟩
              · exact Or.inl first
              · exact Or.inr ⟨same, ih rest num behind⟩

theorem lt_of_upTo_take_lt_upTo (a b : List α) {num : Nat} (fits : a.length ≤ num)
    (less : upTo stop (b.take num) < upTo stop a) : b < a := by
  induction a generalizing b num with
  | nil => exact absurd less (List.not_lt_nil _)
  | cons c more ih =>
      cases num with
      | zero => exact absurd fits (Nat.not_succ_le_zero _)
      | succ num =>
          cases b with
          | nil => exact List.nil_lt_cons c more
          | cons d rest =>
              rw [List.take_succ_cons] at less
              rw [List.cons_lt_cons_iff]
              by_cases stops : c = stop
              · rw [stops, upTo_stop] at less
                exact absurd less (List.not_lt_nil _)
              by_cases ends : d = stop
              · subst ends
                exact Or.inl (lt_of_le_of_ne (least c) (Ne.symm stops))
              rw [upTo_cons stops, upTo_cons ends, List.cons_lt_cons_iff] at less
              rcases less with first | ⟨same, behind⟩
              · exact Or.inl first
              · exact Or.inr ⟨same, ih rest (Nat.le_of_succ_le_succ fits) behind⟩

end Order

end Foundation.Terminated
