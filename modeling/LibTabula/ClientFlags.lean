/-
The driver's setting of client flags.

A flag is one bit of the client library's flag word, an `unsigned long`, which has 32 bits
or more. The option value is an `unsigned int` of 32 bits. Whether it is a single bit is
found out by shifting a signed copy. To clear the flag, the complement of the option value
is taken in its own 32 bits, and widened with zeros.
-/

import LibTabula.Foundation.SingleBit
import Mathlib.Algebra.Order.Group.Unbundled.Int

set_option autoImplicit false

namespace LibTabula

open Foundation

/-! ### The setter -/

def clientLongPassword : BitVec 32 := 1

def clientFoundRows : BitVec 32 := 2

/-- The highest flag that is accepted. -/
def clientMultiResults : BitVec 32 := 1 <<< 17

namespace MySQLDriver

theorem natAbs_sshiftRight_lt {n : BitVec 32} (low : n ≠ 0 ∧ n &&& 1 = 0) :
    (n.sshiftRight 1).toInt.natAbs < n.toInt.natAbs := by
  have half := toInt_eq_two_mul low.2
  have nonzero : n.toInt ≠ 0 := by
    intro zero
    exact low.1 (BitVec.eq_of_toInt_eq zero)
  omega

/-- The loop. Its shift keeps the sign. -/
def shiftDown (n : BitVec 32) : BitVec 32 :=
  if _low : n ≠ 0 ∧ n &&& 1 = 0 then shiftDown (n.sshiftRight 1) else n
termination_by n.toInt.natAbs
decreasing_by exact natAbs_sshiftRight_lt _low

/-- `set_option_internal()` of a flag: the answer, and `client_flag` after it. -/
def setOptionInternal {extra : Nat} (clientFlag : BitVec (32 + extra)) (o : BitVec 32)
    (arg : Bool) : Bool × BitVec (32 + extra) :=
  if shiftDown o = 1 ∧ o ≥ clientLongPassword ∧ o ≤ clientMultiResults then
    if arg then (true, clientFlag ||| o.setWidth (32 + extra))
    else (true, clientFlag &&& (~~~o).setWidth (32 + extra))
  else (false, clientFlag)

/-- The option value is a single flag that may be set. -/
structure IsFlag (o : BitVec 32) : Prop where
  single : SingleBit o
  least : clientLongPassword ≤ o
  most : o ≤ clientMultiResults

/-- Only a flag is accepted, it alone is changed, and without one nothing is. -/
structure SetsFlag {w : Nat} (before : BitVec w) (o : BitVec 32) (arg answer : Bool)
    (after : BitVec w) : Prop where
  accepted : answer = true ↔ IsFlag o
  changed : answer = true → ∀ bit,
    after.getLsbD bit = if o.getLsbD bit then arg else before.getLsbD bit
  unchanged : answer = false → after = before

/-! ### The loop -/

/-- What the loop leaves is one if and only if there was one bit, below the sign. -/
theorem shiftDown_eq_one_iff (n : BitVec 32) : shiftDown n = 1 ↔ PowerOfTwo n.toInt := by
  induction n using shiftDown.induct with
  | case1 n low ih =>
      rw [shiftDown, dif_pos low, ih, toInt_eq_two_mul low.2, powerOfTwo_two_mul_iff]
  | case2 n stop =>
      rw [shiftDown, dif_neg stop]
      by_cases zero : n = 0
      · rw [zero]
        apply iff_of_false
        · decide
        · intro power
          exact absurd power.pos (by decide)
      · have odd : n.toInt % 2 = 1 := by
          have notEven : ¬ n.toInt % 2 = 0 := fun even =>
            stop ⟨zero, (toInt_emod_two n).mp even⟩
          omega
        rw [powerOfTwo_odd_iff odd, ← BitVec.toInt_inj]
        rfl

theorem accepted_iff (o : BitVec 32) :
    (shiftDown o = 1 ∧ o ≥ clientLongPassword ∧ o ≤ clientMultiResults) ↔ IsFlag o := by
  rw [shiftDown_eq_one_iff, powerOfTwo_toInt_iff]
  constructor
  · intro both
    obtain ⟨⟨bit, below, same⟩, least, most⟩ := both
    exact ⟨(singleBit_iff o).mpr ⟨bit, by omega, same⟩, least, most⟩
  · intro flag
    obtain ⟨bit, inWord, same⟩ := (singleBit_iff o).mp flag.single
    refine ⟨⟨bit, ?_, same⟩, flag.least, flag.most⟩
    -- The bit of the sign is out of range.
    have bound : o.toNat ≤ clientMultiResults.toNat := flag.most
    rw [same, BitVec.toNat_twoPow_of_lt inWord] at bound
    have small : bit < 18 := (Nat.pow_lt_pow_iff_right (by decide)).mp
      (Nat.lt_of_le_of_lt bound (by decide : clientMultiResults.toNat < 2 ^ 18))
    omega

/-! ### The flag word -/

section FlagWord

variable {extra : Nat} (clientFlag : BitVec (32 + extra)) (o : BitVec 32)

theorem getLsbD_set (bit : Nat) :
    (clientFlag ||| o.setWidth (32 + extra)).getLsbD bit =
      if o.getLsbD bit then true else clientFlag.getLsbD bit := by
  rw [BitVec.getLsbD_or, BitVec.getLsbD_setWidth]
  cases isSet : o.getLsbD bit with
  | true =>
      have inWord := BitVec.lt_of_getLsbD isSet
      rw [decide_eq_true (by omega), if_pos rfl, Bool.and_self, Bool.or_true]
  | false => rw [Bool.and_false, Bool.or_false, if_neg Bool.false_ne_true]

/-- The complement has no bits from 32 on. -/
theorem getLsbD_clear (bit : Nat) :
    (clientFlag &&& (~~~o).setWidth (32 + extra)).getLsbD bit =
      if o.getLsbD bit then false else clientFlag.getLsbD bit && decide (bit < 32) := by
  rw [BitVec.getLsbD_and, BitVec.getLsbD_setWidth, BitVec.getLsbD_not]
  cases o.getLsbD bit with
  | true => rw [Bool.not_true, Bool.and_false, Bool.and_false, Bool.and_false, if_pos rfl]
  | false =>
      rw [if_neg Bool.false_ne_true, Bool.not_false, Bool.and_true]
      by_cases inWord : bit < 32
      · rw [decide_eq_true inWord, decide_eq_true (by omega), Bool.and_self]
      · rw [decide_eq_false inWord, Bool.and_false]

theorem toNat_lt_iff :
    clientFlag.toNat < 2 ^ 32 ↔ ∀ bit, 32 ≤ bit → clientFlag.getLsbD bit = false := by
  constructor
  · intro small bit high
    apply Nat.testBit_lt_two_pow
    exact Nat.lt_of_lt_of_le small (Nat.pow_le_pow_right (by decide) high)
  · intro clear
    exact Nat.lt_pow_two_of_testBit clientFlag.toNat clear

end FlagWord

/-! ### What a call does -/

section Calls

variable {extra : Nat} {clientFlag : BitVec (32 + extra)} {o : BitVec 32} {arg : Bool}

theorem setOptionInternal_rejected (rejected : ¬ IsFlag o) :
    setOptionInternal clientFlag o arg = (false, clientFlag) := by
  rw [setOptionInternal, if_neg (mt (accepted_iff o).mp rejected)]

theorem setOptionInternal_set (accepted : IsFlag o) :
    setOptionInternal clientFlag o true = (true, clientFlag ||| o.setWidth (32 + extra)) := by
  rw [setOptionInternal, if_pos ((accepted_iff o).mpr accepted), if_pos rfl]

theorem setOptionInternal_clear (accepted : IsFlag o) :
    setOptionInternal clientFlag o false =
      (true, clientFlag &&& (~~~o).setWidth (32 + extra)) := by
  rw [setOptionInternal, if_pos ((accepted_iff o).mpr accepted), if_neg Bool.false_ne_true]

theorem setsFlag_rejected (rejected : ¬ IsFlag o) :
    SetsFlag clientFlag o arg false clientFlag where
  accepted := iff_of_false Bool.false_ne_true rejected
  changed impossible := by cases impossible
  unchanged _ := rfl

theorem setsFlag_set (accepted : IsFlag o) :
    SetsFlag clientFlag o true true (clientFlag ||| o.setWidth (32 + extra)) where
  accepted := iff_of_true rfl accepted
  changed _ := getLsbD_set clientFlag o
  unchanged impossible := by cases impossible

/-- Where the complement has no bits, there must have been none. -/
theorem setsFlag_clear_iff (accepted : IsFlag o) :
    SetsFlag clientFlag o false true (clientFlag &&& (~~~o).setWidth (32 + extra)) ↔
      clientFlag.toNat < 2 ^ 32 := by
  rw [toNat_lt_iff]
  constructor
  · intro sets bit high
    have changed := sets.changed rfl bit
    rw [getLsbD_clear, BitVec.getLsbD_of_ge o bit high, if_neg Bool.false_ne_true,
      if_neg Bool.false_ne_true, decide_eq_false (Nat.not_lt.mpr high),
      Bool.and_false] at changed
    exact changed.symm
  · intro clear
    constructor
    · exact iff_of_true rfl accepted
    · intro _ bit
      rw [getLsbD_clear]
      by_cases low : bit < 32
      · rw [decide_eq_true low, Bool.and_true]
      · rw [clear bit (Nat.not_lt.mp low), Bool.false_and]
    · intro impossible
      cases impossible

theorem setsFlag_of_cleared_small
    (small : IsFlag o → arg = false → clientFlag.toNat < 2 ^ 32) :
    SetsFlag clientFlag o arg (setOptionInternal clientFlag o arg).1
      (setOptionInternal clientFlag o arg).2 := by
  by_cases accepted : IsFlag o
  · cases arg with
    | true =>
        rw [setOptionInternal_set accepted]
        exact setsFlag_set accepted
    | false =>
        rw [setOptionInternal_clear accepted]
        exact (setsFlag_clear_iff accepted).mpr (small accepted rfl)
  · rw [setOptionInternal_rejected accepted]
    exact setsFlag_rejected accepted

/-- Where an `unsigned long` has 32 bits, every call does what it should. -/
theorem setsFlag_narrow (clientFlag : BitVec (32 + 0)) (o : BitVec 32) (arg : Bool) :
    SetsFlag clientFlag o arg (setOptionInternal clientFlag o arg).1
      (setOptionInternal clientFlag o arg).2 := by
  apply setsFlag_of_cleared_small
  intro _ _
  exact clientFlag.isLt

end Calls

/-- A call does what it should unless it clears a flag of a word that has bits from 32 on. -/
theorem setOptionInternal_iff {extra : Nat} (clientFlag : BitVec (32 + extra)) (o : BitVec 32)
    (arg : Bool) :
    SetsFlag clientFlag o arg (setOptionInternal clientFlag o arg).1
        (setOptionInternal clientFlag o arg).2 ↔
      (IsFlag o → arg = false → clientFlag.toNat < 2 ^ 32) := by
  constructor
  · intro sets flag cleared
    rw [cleared, setOptionInternal_clear flag] at sets
    exact (setsFlag_clear_iff flag).mp sets
  · intro small
    exact setsFlag_of_cleared_small small

/-- `FoundRowsOption(false)` also clears bit 32 of a flag word of 64 bits. -/
theorem foundRows_clears_high :
    ¬ SetsFlag (BitVec.ofNat (32 + 32) (2 ^ 32)) clientFoundRows false
      (setOptionInternal (BitVec.ofNat (32 + 32) (2 ^ 32)) clientFoundRows false).1
      (setOptionInternal (BitVec.ofNat (32 + 32) (2 ^ 32)) clientFoundRows false).2 := by
  have single : SingleBit clientFoundRows := (singleBit_iff _).mpr ⟨1, by decide, by decide⟩
  have accepted : IsFlag clientFoundRows := ⟨single, by decide, by decide⟩
  rw [setOptionInternal_clear accepted]
  intro sets
  exact absurd (sets.changed rfl 32) (by decide)

end MySQLDriver

end LibTabula
