/-
Counts that are shared by their holders.

A holder is a mention of a cell in a list, one for each party that holds it. The
cells are tallied when every cell that is held is allocated and counts its
holders, and no other cell is allocated. What allocates, retains and releases
cells one holder at a time keeps that, and the last holder finds the count at one.
-/

import Mathlib.Data.List.Basic
import Mathlib.Logic.Function.Basic
import Mathlib.Tactic.SplitIfs

set_option autoImplicit false

namespace Foundation

variable {κ : Type} [DecidableEq κ]

def Tallied (holders : List κ) (cells : κ → Option Nat) : Prop :=
  ∀ cell, cells cell =
    if holders.count cell = 0 then none else some (holders.count cell)

namespace Tallied

variable {holders : List κ} {cells : κ → Option Nat}

theorem nil : Tallied ([] : List κ) fun _ => none := fun _ => rfl

theorem perm {other : List κ} (same : holders.Perm other) (tallied : Tallied holders cells) :
    Tallied other cells := by
  intro cell
  rw [← same.count_eq cell]
  exact tallied cell

theorem not_mem_of_free (tallied : Tallied holders cells) {cell : κ} (free : cells cell = none) :
    cell ∉ holders := by
  intro member
  have held := List.count_pos_iff.mpr member
  rw [tallied cell, if_neg (by omega)] at free
  cases free

theorem count_of_mem (tallied : Tallied holders cells) {cell : κ} (member : cell ∈ holders) :
    cells cell = some (holders.count cell) := by
  have held := List.count_pos_iff.mpr member
  rw [tallied cell, if_neg (by omega)]

theorem allocate (tallied : Tallied holders cells) {cell : κ} (free : cells cell = none) :
    Tallied (cell :: holders) (Function.update cells cell (some 1)) := by
  intro other
  by_cases same : other = cell
  · have fresh := List.count_eq_zero.mpr (tallied.not_mem_of_free free)
    rw [same, Function.update_self, List.count_cons_self, fresh]
    rfl
  · rw [Function.update_of_ne same, List.count_cons_of_ne (Ne.symm same)]
    exact tallied other

theorem retain (tallied : Tallied holders cells) {cell : κ} {n : Nat}
    (counted : cells cell = some n) :
    Tallied (cell :: holders) (Function.update cells cell (some (n + 1))) := by
  have held : holders.count cell = n := by
    rw [tallied cell] at counted
    split_ifs at counted with none
    exact Option.some.inj counted
  intro other
  by_cases same : other = cell
  · rw [same, Function.update_self, List.count_cons_self, held, if_neg (Nat.succ_ne_zero n)]
  · rw [Function.update_of_ne same, List.count_cons_of_ne (Ne.symm same)]
    exact tallied other

theorem release {cell : κ} (tallied : Tallied (cell :: holders) cells) :
    Tallied holders (Function.update cells cell
      (if holders.count cell = 0 then none else some (holders.count cell))) := by
  intro other
  by_cases same : other = cell
  · rw [same, Function.update_self]
  · rw [Function.update_of_ne same, tallied other, List.count_cons_of_ne (Ne.symm same)]

end Tallied

end Foundation
