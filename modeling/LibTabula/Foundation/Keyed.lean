/-
Values compared by a key.

Values that are compared by a key in a linear order are in a strict total order if and only
if the key tells them apart. A packed key has a low part of some bits and a high part above
it, and what the width of the key has no room for is cut off.
-/

import Mathlib.Order.Defs.LinearOrder
import Mathlib.Order.Defs.Unbundled
import Mathlib.Order.Lattice
import Mathlib.Algebra.Group.Nat.Defs

set_option autoImplicit false

namespace Foundation.Keyed

/-! ### The order of the keys -/

section Order

variable {α κ : Type} [LinearOrder κ] (key : α → κ)

theorem isStrictOrder : IsStrictOrder α (InvImage (· < ·) key) where
  irrefl a := lt_irrefl (key a)
  trans _ _ _ := lt_trans

theorem isStrictTotalOrder_iff :
    IsStrictTotalOrder α (InvImage (· < ·) key) ↔ Function.Injective key := by
  constructor
  · intro order a b same
    apply order.trichotomous
    · exact same.not_lt
    · exact same.not_gt
  · intro apart
    have total : ∀ a b, ¬ key a < key b → ¬ key b < key a → a = b := by
      intro a b notLess notGreater
      apply apart
      exact le_antisymm (not_lt.mp notGreater) (not_lt.mp notLess)
    exact { isStrictOrder key with trichotomous := total }

end Order

/-! ### Packed keys -/

section Packed

variable {low low' k : Nat}

theorem packed_mod (small : low < 2 ^ k) (high m : Nat) :
    (high <<< k ||| low) % 2 ^ (k + m) = low + 2 ^ k * (high % 2 ^ m) := by
  have sum : high <<< k ||| low = low + 2 ^ k * high := by
    rw [← Nat.shiftLeft_add_eq_or_of_lt small, Nat.shiftLeft_eq, Nat.mul_comm, Nat.add_comm]
  rw [sum, Nat.pow_add, Nat.mod_mul, Nat.add_mul_mod_self_left, Nat.mod_eq_of_lt small,
    Nat.add_mul_div_left _ _ (Nat.two_pow_pos k), Nat.div_eq_of_lt small, Nat.zero_add]

/-- Of the high part, the bits that the key has room for are compared. -/
theorem packed_eq_iff (small : low < 2 ^ k) (small' : low' < 2 ^ k) (high high' m : Nat) :
    (high <<< k ||| low) % 2 ^ (k + m) = (high' <<< k ||| low') % 2 ^ (k + m) ↔
      low = low' ∧ high % 2 ^ m = high' % 2 ^ m := by
  rw [packed_mod small, packed_mod small']
  constructor
  · intro same
    have sameLow : low = low' := by
      have cut := congrArg (· % 2 ^ k) same
      simp only [Nat.add_mul_mod_self_left] at cut
      rwa [Nat.mod_eq_of_lt small, Nat.mod_eq_of_lt small'] at cut
    rw [sameLow, Nat.add_left_cancel_iff] at same
    exact ⟨sameLow, Nat.eq_of_mul_eq_mul_left (Nat.two_pow_pos k) same⟩
  · intro both
    rw [both.1, both.2]

end Packed

end Foundation.Keyed
