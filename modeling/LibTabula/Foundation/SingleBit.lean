/-
Words with a single bit.

A word has a single bit if and only if it is a power of two. Read as a signed number it is
one too, unless the bit is that of the sign, and a signed number is a power of two if and
only if its half is, or it is one.
-/

import Mathlib.Algebra.Group.Nat.Defs
import Mathlib.Algebra.Group.Int.Defs
import Mathlib.Logic.ExistsUnique

set_option autoImplicit false

namespace Foundation

/-! ### Powers of two -/

def PowerOfTwo (n : Int) : Prop := ∃ k : Nat, n = 2 ^ k

theorem powerOfTwo_one : PowerOfTwo 1 := ⟨0, rfl⟩

theorem PowerOfTwo.pos {n : Int} (power : PowerOfTwo n) : 0 < n := by
  obtain ⟨k, same⟩ := power
  rw [same]
  exact Int.pow_pos (by decide)

theorem powerOfTwo_two_mul_iff (n : Int) : PowerOfTwo (2 * n) ↔ PowerOfTwo n := by
  constructor
  · intro power
    obtain ⟨k, same⟩ := power
    cases k with
    | zero =>
        rw [Int.pow_zero] at same
        omega
    | succ k =>
        rw [Int.pow_succ] at same
        exact ⟨k, by omega⟩
  · intro power
    obtain ⟨k, same⟩ := power
    refine ⟨k + 1, ?_⟩
    rw [same, Int.pow_succ, Int.mul_comm]

theorem powerOfTwo_odd_iff {n : Int} (odd : n % 2 = 1) : PowerOfTwo n ↔ n = 1 := by
  constructor
  · intro power
    obtain ⟨k, same⟩ := power
    cases k with
    | zero => exact same
    | succ k =>
        rw [Int.pow_succ] at same
        omega
  · intro one
    rw [one]
    exact powerOfTwo_one

/-! ### Words -/

section Words

variable {w : Nat} (x : BitVec w)

/-- Exactly one bit is set. -/
def SingleBit : Prop := ∃! bit, x.getLsbD bit = true

theorem singleBit_iff : SingleBit x ↔ ∃ bit < w, x = BitVec.twoPow w bit := by
  constructor
  · intro single
    obtain ⟨bit, isSet, only⟩ := single
    have inWord := BitVec.lt_of_getLsbD isSet
    refine ⟨bit, inWord, BitVec.eq_of_getLsbD_eq ?_⟩
    intro other _
    rw [BitVec.getLsbD_twoPow, decide_eq_true inWord, Bool.true_and]
    by_cases same : bit = other
    · rw [← same, isSet, decide_eq_true rfl]
    · rw [decide_eq_false same, Bool.eq_false_iff]
      intro otherSet
      exact same (only other otherSet).symm
  · intro power
    obtain ⟨bit, inWord, same⟩ := power
    have read : ∀ other, x.getLsbD other = decide (bit = other) := by
      intro other
      rw [same, BitVec.getLsbD_twoPow, decide_eq_true inWord, Bool.true_and]
    refine ⟨bit, ?_, ?_⟩
    · exact (read bit).trans (decide_eq_true rfl)
    · intro other otherSet
      exact (of_decide_eq_true ((read other).symm.trans otherSet)).symm

/-- A word that is a power of two as a signed number has its bit below the sign. -/
theorem powerOfTwo_toInt_iff :
    PowerOfTwo x.toInt ↔ ∃ bit, bit + 1 < w ∧ x = BitVec.twoPow w bit := by
  constructor
  · intro power
    have half : 2 * x.toNat < 2 ^ w := BitVec.toInt_pos_iff.mp (Int.le_of_lt power.pos)
    obtain ⟨bit, same⟩ := power
    rw [BitVec.toInt_eq_toNat_of_lt half] at same
    have value : x.toNat = 2 ^ bit := by exact_mod_cast same
    have below : bit + 1 < w := by
      rw [value, ← Nat.pow_succ'] at half
      exact (Nat.pow_lt_pow_iff_right (by decide)).mp half
    refine ⟨bit, below, BitVec.eq_of_toNat_eq ?_⟩
    rw [BitVec.toNat_twoPow_of_lt (by omega), value]
  · intro power
    obtain ⟨bit, below, same⟩ := power
    have value : x.toNat = 2 ^ bit := by
      rw [same, BitVec.toNat_twoPow_of_lt (by omega)]
    have half : 2 * x.toNat < 2 ^ w := by
      rw [value, ← Nat.pow_succ']
      exact Nat.pow_lt_pow_right (by decide) below
    refine ⟨bit, ?_⟩
    rw [BitVec.toInt_eq_toNat_of_lt half, value]
    exact_mod_cast rfl

end Words

/-! ### Halving a word -/

section Halving

variable {w : Nat}

/-- The sign does not count for the lowest bit. -/
theorem toInt_emod_two (x : BitVec (w + 1)) : x.toInt % 2 = 0 ↔ x &&& 1 = 0 := by
  have one : (1 : BitVec (w + 1)).toNat = 1 := BitVec.toNat_one (Nat.succ_pos w)
  have lowest : (x &&& 1).toNat = x.toNat % 2 := by
    rw [BitVec.toNat_and, one, Nat.and_one_is_mod]
  have zero : (0 : BitVec (w + 1)).toNat = 0 := BitVec.toNat_zero
  have sign := BitVec.toInt_eq_toNat_cond x
  rw [Nat.pow_succ] at sign
  rw [← BitVec.toNat_inj, lowest, zero]
  split at sign <;> omega

theorem toInt_eq_two_mul {x : BitVec (w + 1)} (even : x &&& 1 = 0) :
    x.toInt = 2 * (x.sshiftRight 1).toInt := by
  have divides := (toInt_emod_two x).mpr even
  rw [BitVec.toInt_sshiftRight, Int.shiftRight_eq_div_pow]
  omega

end Halving

end Foundation
