/-
Rows with nulls, conditions with three truth values, and assignments.

A value of a row is `none` where it is null. A comparison with a null is neither
true nor false, and a conjunction is as true as its least true part.
-/

import Mathlib.Logic.Function.Basic
import Mathlib.Data.List.Nodup

set_option autoImplicit false

namespace Foundation.Relational

/-- `none` is neither true nor false. -/
abbrev Truth := Option Bool

namespace Truth

def and : Truth → Truth → Truth
  | some false, _ => some false
  | _, some false => some false
  | some true, some true => some true
  | none, _ => none
  | _, none => none

def all (truths : List Truth) : Truth := truths.foldr and (some true)

theorem and_eq_true_iff (left right : Truth) :
    left.and right = some true ↔ left = some true ∧ right = some true := by
  rcases left with _ | _ | _ <;> rcases right with _ | _ | _ <;> decide

theorem all_eq_true_iff (truths : List Truth) :
    all truths = some true ↔ ∀ truth ∈ truths, truth = some true := by
  induction truths with
  | nil => exact ⟨fun _ => List.forall_mem_nil _, fun _ => rfl⟩
  | cons first rest ih =>
      rw [all, List.foldr_cons, and_eq_true_iff, List.forall_mem_cons]
      exact and_congr_right fun _ => ih

end Truth

variable {κ ν : Type}

/-- `left = right`. -/
def equals (equal : ν → ν → Bool) : Option ν → Option ν → Truth
  | some left, some right => some (equal left right)
  | _, _ => none

/-- `column = value AND ...`. -/
def satisfies (equal : ν → ν → Bool) (row : κ → Option ν) (conditions : List (κ × Option ν)) :
    Truth :=
  Truth.all (conditions.map fun condition => equals equal (row condition.1) condition.2)

theorem satisfies_eq_true_iff (equal : ν → ν → Bool) (row : κ → Option ν)
    (conditions : List (κ × Option ν)) :
    satisfies equal row conditions = some true ↔
      ∀ condition ∈ conditions, equals equal (row condition.1) condition.2 = some true := by
  rw [satisfies, Truth.all_eq_true_iff, List.forall_mem_map]

/-- `SET column = value, ...`: one assignment after the other. -/
def assign [DecidableEq κ] (row : κ → Option ν) (assignments : List (κ × Option ν)) :
    κ → Option ν :=
  assignments.foldl (fun row assignment => Function.update row assignment.1 assignment.2) row

theorem assign_of_not_mem [DecidableEq κ] (row : κ → Option ν)
    (assignments : List (κ × Option ν)) {column : κ}
    (absent : column ∉ assignments.map Prod.fst) : assign row assignments column = row column := by
  induction assignments generalizing row with
  | nil => rfl
  | cons first rest ih =>
      rw [List.map_cons, List.mem_cons, not_or] at absent
      rw [assign, List.foldl_cons]
      exact (ih (Function.update row first.1 first.2) absent.2).trans
        (Function.update_of_ne absent.1 _ _)

/-- With distinct columns every assignment is the last one to its column. -/
theorem assign_of_mem [DecidableEq κ] (row : κ → Option ν) {assignments : List (κ × Option ν)}
    (distinct : (assignments.map Prod.fst).Nodup) {assignment : κ × Option ν}
    (member : assignment ∈ assignments) :
    assign row assignments assignment.1 = assignment.2 := by
  induction assignments generalizing row with
  | nil => cases member
  | cons first rest ih =>
      rw [List.map_cons, List.nodup_cons] at distinct
      rw [assign, List.foldl_cons]
      rcases List.mem_cons.mp member with rfl | later
      · exact (assign_of_not_mem (Function.update row assignment.1 assignment.2) rest
          distinct.1).trans (Function.update_self _ _ _)
      · exact ih (Function.update row first.1 first.2) distinct.2 later

end Foundation.Relational
