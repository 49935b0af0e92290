/-
Ordered sets without repetitions.

A set is a list in strictly increasing order of a given relation. The order is a
field, so that inserting is the only way to add a member and two sets with the
same members are equal.
-/

import Mathlib.Data.List.Sort

set_option autoImplicit false

namespace Foundation

variable {α : Type}

structure SortedSet (r : α → α → Prop) where
  elems : List α
  sorted : elems.Pairwise r

namespace SortedSet

variable (r : α → α → Prop) [DecidableRel r]

def empty : SortedSet r := ⟨[], List.Pairwise.nil⟩

def insertInto (item : α) : List α → List α
  | [] => [item]
  | head :: rest =>
      if r item head then item :: head :: rest
      else if r head item then head :: insertInto item rest
      else head :: rest

section StrictTotal

variable [Std.Trichotomous r]

theorem mem_insertInto (item other : α) (items : List α) :
    other ∈ insertInto r item items ↔ other = item ∨ other ∈ items := by
  induction items with
  | nil => simp [insertInto]
  | cons head rest ih =>
      unfold insertInto
      by_cases before : r item head
      · rw [if_pos before]
        simp only [List.mem_cons]
      · rw [if_neg before]
        by_cases after : r head item
        · rw [if_pos after, List.mem_cons, ih, List.mem_cons]
          tauto
        · have same : item = head := by
            rcases trichotomous_of r item head with less | equal | greater
            · exact absurd less before
            · exact equal
            · exact absurd greater after
          rw [if_neg after, same, List.mem_cons]
          tauto

variable [IsTrans α r]

theorem insertInto_sorted (item : α) {items : List α} (sorted : items.Pairwise r) :
    (insertInto r item items).Pairwise r := by
  induction items with
  | nil => exact List.pairwise_singleton r item
  | cons head rest ih =>
      have ⟨above, tail⟩ := List.pairwise_cons.mp sorted
      unfold insertInto
      by_cases before : r item head
      · rw [if_pos before]
        refine List.pairwise_cons.mpr ⟨?_, sorted⟩
        intro other member
        rcases List.mem_cons.mp member with same | later
        · rw [same]
          exact before
        · exact trans_of r before (above other later)
      · rw [if_neg before]
        by_cases after : r head item
        · rw [if_pos after]
          refine List.pairwise_cons.mpr ⟨?_, ih tail⟩
          intro other member
          rcases (mem_insertInto r item other rest).mp member with same | later
          · rw [same]
            exact after
          · exact above other later
        · rw [if_neg after]
          exact sorted

/-- Adds a member, or nothing when it is there. -/
def insert (items : SortedSet r) (item : α) : SortedSet r :=
  ⟨insertInto r item items.elems, insertInto_sorted r item items.sorted⟩

theorem mem_foldl_insert (items : List α) (start : SortedSet r) (other : α) :
    other ∈ (items.foldl (insert r) start).elems ↔ other ∈ start.elems ∨ other ∈ items := by
  induction items generalizing start with
  | nil => simp
  | cons head rest ih =>
      rw [List.foldl_cons, ih]
      simp only [insert, mem_insertInto, List.mem_cons]
      tauto

variable [Std.Irrefl r]

theorem nodup {r : α → α → Prop} [Std.Irrefl r] (items : SortedSet r) : items.elems.Nodup :=
  items.sorted.imp (fun {left right} less same => by
    rw [same] at less
    exact irrefl_of r right less)

end StrictTotal

theorem ext_mem {r : α → α → Prop} [Std.Antisymm r] [Std.Irrefl r] {left right : SortedSet r}
    (same : ∀ item, item ∈ left.elems ↔ item ∈ right.elems) : left = right := by
  obtain ⟨leftElems, leftSorted⟩ := left
  obtain ⟨rightElems, rightSorted⟩ := right
  have equal : leftElems = rightElems :=
    List.Pairwise.eq_of_mem_iff leftSorted rightSorted same
  subst equal
  rfl

end SortedSet

end Foundation
