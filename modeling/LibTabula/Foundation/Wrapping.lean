/-
Integers that wrap around, and division before and after that.

A number is reduced to some bits by dropping the higher ones. Sums, products and whatever
works bit by bit may be taken before or after; quotients and remainders may not, since
there the size of the divisor matters.
-/

import Mathlib.Data.Int.ModEq

set_option autoImplicit false

namespace Foundation.Wrapping

/-! ### Reduction to some bits -/

theorem ofInt_eq_iff (width : Nat) (a b : Int) :
    BitVec.ofInt width a = BitVec.ofInt width b ↔ a ≡ b [ZMOD 2 ^ width] := by
  have positive : (0 : Int) < 2 ^ width := Int.pow_pos (by decide)
  rw [← BitVec.toNat_inj, BitVec.toNat_ofInt, BitVec.toNat_ofInt, Int.ModEq]
  have left := Int.emod_nonneg a positive.ne'
  have right := Int.emod_nonneg b positive.ne'
  push_cast
  omega

theorem toInt_modEq {width : Nat} (bits : BitVec width) :
    bits.toInt ≡ bits.toNat [ZMOD 2 ^ width] := by
  rw [BitVec.toInt_eq_toNat_cond]
  split
  · rfl
  · push_cast
    exact (Int.modEq_sub_modulus_iff.mpr rfl).symm

theorem toNat_ofInt_modEq (width : Nat) (n : Int) :
    ((BitVec.ofInt width n).toNat : Int) ≡ n [ZMOD 2 ^ width] := by
  rw [← ofInt_eq_iff, BitVec.ofInt_natCast, BitVec.ofNat_toNat, BitVec.setWidth_eq]

/-- Reading all bits as a signed number does not matter for the lower ones. -/
theorem ofInt_toInt_eq_setWidth {narrow wide : Nat} (le : narrow ≤ wide) (bits : BitVec wide) :
    BitVec.ofInt narrow bits.toInt = bits.setWidth narrow := by
  have divides : (2 : Int) ^ narrow ∣ 2 ^ wide := pow_dvd_pow 2 le
  have same : BitVec.ofInt narrow bits.toInt = BitVec.ofInt narrow bits.toNat :=
    (ofInt_eq_iff narrow _ _).mpr ((toInt_modEq bits).of_dvd divides)
  rw [same, BitVec.ofInt_natCast, BitVec.ofNat_toNat]

theorem setWidth_ofInt {narrow wide : Nat} (le : narrow ≤ wide) (n : Int) :
    (BitVec.ofInt wide n).setWidth narrow = BitVec.ofInt narrow n := by
  have divides : (2 : Int) ^ narrow ∣ 2 ^ wide := pow_dvd_pow 2 le
  rw [← ofInt_toInt_eq_setWidth le, ofInt_eq_iff]
  have same : BitVec.ofInt wide (BitVec.ofInt wide n).toInt = BitVec.ofInt wide n :=
    BitVec.ofInt_toInt
  exact ((ofInt_eq_iff wide _ _).mp same).of_dvd divides

/-! ### Quotients and remainders -/

section Division

variable {a b : Int}

theorem tdiv_eq_zero_iff (nonzero : b ≠ 0) : a.tdiv b = 0 ↔ a.natAbs < b.natAbs := by
  have positive : 0 < b.natAbs := Int.natAbs_pos.mpr nonzero
  rw [← Int.natAbs_eq_zero, Int.natAbs_tdiv]
  exact Nat.div_eq_zero_iff_lt positive

theorem natAbs_mul_tdiv_le (a b : Int) : (b * a.tdiv b).natAbs ≤ a.natAbs := by
  rw [Int.natAbs_mul, Int.natAbs_tdiv]
  exact Nat.mul_div_le a.natAbs b.natAbs

/-- A quotient of a number below the modulus is zero or stays so. -/
theorem tdiv_modEq_zero_iff {m : Nat} (small : a.natAbs < m) (nonzero : b ≠ 0) :
    a.tdiv b ≡ 0 [ZMOD m] ↔ a.natAbs < b.natAbs := by
  rw [← tdiv_eq_zero_iff nonzero, Int.modEq_zero_iff_dvd]
  constructor
  · intro divides
    apply Int.eq_zero_of_dvd_of_natAbs_lt_natAbs divides
    have le := Int.natAbs_tdiv_le_natAbs a b
    rw [Int.natAbs_natCast]
    omega
  · intro zero
    rw [zero]
    exact Int.dvd_zero _

/-- A remainder is the number itself if it is so before the reduction. -/
theorem tmod_modEq_self_iff {m : Nat} (small : a.natAbs < m) (nonzero : b ≠ 0) :
    a.tmod b ≡ a [ZMOD m] ↔ a.natAbs < b.natAbs := by
  rw [← tdiv_eq_zero_iff nonzero, Int.tmod_def]
  constructor
  · intro same
    have divides : (m : Int) ∣ b * a.tdiv b := by
      have difference := Int.modEq_iff_dvd.mp same
      rw [Int.sub_sub_self] at difference
      exact difference
    have product : b * a.tdiv b = 0 := by
      apply Int.eq_zero_of_dvd_of_natAbs_lt_natAbs divides
      have le := natAbs_mul_tdiv_le a b
      rw [Int.natAbs_natCast]
      omega
    exact (Int.mul_eq_zero.mp product).resolve_left nonzero
  · intro zero
    rw [zero, Int.mul_zero, Int.sub_zero]

end Division

/-- Divisors that make up a modulus leave the same remainder of what is below it if both are
taken out and one divides the other. -/
theorem mod_eq_mod_iff {a n m x : Nat} (sum : a + n = m) (small : x < m) (positive : 0 < a)
    (le : a ≤ x) : x % n = x % a ↔ n ≤ x ∧ (a ∣ n ∨ n ∣ a) := by
  -- What is taken out once leaves less than the larger of the two.
  have once : ∀ {big little}, big + little = m → big ≤ x → little ≤ big → x % big = x - big := by
    intro big little whole taken larger
    rw [Nat.mod_eq_sub_mod taken, Nat.mod_eq_of_lt (by omega)]
  have both : ∀ {big little}, big + little = m → big ≤ x → little ≤ big → 0 < little →
      (x % little = x - big ↔ little ∣ big) := by
    intro big little whole taken larger some_
    have split : x = x - big + big := by omega
    constructor
    · intro same
      have divides := Nat.dvd_sub_mod (k := x) (n := little)
      rw [same] at divides
      have rest : x - (x - big) = big := by omega
      rw [rest] at divides
      exact divides
    · intro divides
      obtain ⟨count, rfl⟩ := divides
      have lower : x - little * count < little := by omega
      calc x % little = (x - little * count + little * count) % little := by rw [← split]
        _ = (x - little * count) % little := Nat.add_mul_mod_self_left _ _ _
        _ = x - little * count := Nat.mod_eq_of_lt lower
  by_cases taken : n ≤ x
  · rw [and_iff_right taken]
    by_cases larger : a ≤ n
    · rw [once (by omega) taken larger, eq_comm, both (by omega) taken larger positive]
      constructor
      · exact Or.inl
      · intro either
        rcases either with divides | divides
        · exact divides
        · exact (Nat.le_antisymm larger (Nat.le_of_dvd positive divides)) ▸ Nat.dvd_refl a
    · have less : n ≤ a := Nat.le_of_not_le larger
      have some_ : 0 < n := by omega
      rw [once sum le less, both sum le less some_]
      constructor
      · exact Or.inr
      · intro either
        rcases either with divides | divides
        · exact absurd (Nat.le_of_dvd some_ divides) larger
        · exact divides
  · refine iff_of_false ?_ fun given => taken given.1
    rw [Nat.mod_eq_of_lt (Nat.lt_of_not_le taken)]
    have less := Nat.mod_lt x positive
    omega

/-- Divisors that make up a modulus give quotients that make it up as well only where one of
them is one and the number is as large as can be. -/
theorem div_add_div_eq_iff {a n m x : Nat} (sum : a + n = m) (small : x < m) (positive : 0 < a)
    (some_ : 0 < n) : x / n + x / a = m ↔ x + 1 = m ∧ (a = 1 ∨ n = 1) := by
  -- One and the rest of the modulus, whichever of the two is one.
  have byOne : ∀ rest, 1 + rest = m → 0 < rest → (x / rest + x / 1 = m ↔ x + 1 = m) := by
    intro rest whole nonzero
    rw [Nat.div_one]
    by_cases less : x < rest
    · rw [Nat.div_eq_of_lt less]
      omega
    · have same : x = rest := by omega
      rw [same, Nat.div_self nonzero, Nat.add_comm]
  by_cases first : a = 1
  · subst first
    rw [byOne n sum some_, and_iff_left (Or.inl rfl)]
  · by_cases second : n = 1
    · subst second
      rw [Nat.add_comm (x / 1), byOne a (by omega) positive, and_iff_left (Or.inr rfl)]
    · constructor
      · intro same
        have left : x / n ≤ x / 2 := Nat.div_le_div_left (by omega) (by decide)
        have right : x / a ≤ x / 2 := Nat.div_le_div_left (by omega) (by decide)
        omega
      · intro given
        omega

section Opposite

variable {a n m x : Nat} (sum : a + n = m) (small : x < m) (positive : 0 < a) (le : a ≤ x)
include sum small positive le

/-- A negative divisor and what it becomes when it wraps around. -/
theorem tdiv_neg_modEq_iff :
    (x : Int).tdiv n ≡ (x : Int).tdiv (-(a : Int)) [ZMOD m] ↔ x + 1 = m ∧ (a = 1 ∨ n = 1) := by
  have some_ : 0 < n := by omega
  rw [← div_add_div_eq_iff sum small positive some_, Int.tdiv_neg, ← Int.ofNat_tdiv,
    ← Int.ofNat_tdiv, Int.modEq_comm, Int.modEq_iff_dvd, Int.sub_neg]
  have left : x / n ≤ x := Nat.div_le_self x n
  have right : x / a ≤ x := Nat.div_le_self x a
  have once : 0 < x / a := Nat.div_pos le positive
  constructor
  · intro divides
    have whole : m ∣ x / n + x / a := Int.natCast_dvd_natCast.mp divides
    obtain ⟨count, same⟩ := whole
    have one : count = 1 := by
      have lower : 0 < count := by
        apply Nat.pos_of_ne_zero
        intro zero
        rw [zero, Nat.mul_zero] at same
        exact once.ne' (Nat.eq_zero_of_add_eq_zero_left same)
      have upper : count < 2 := by
        apply Nat.lt_of_mul_lt_mul_left (a := m)
        rw [← same]
        omega
      omega
    rw [same, one, Nat.mul_one]
  · intro same
    rw [← Int.natCast_add, same]

theorem tmod_neg_modEq_iff :
    (x : Int).tmod n ≡ (x : Int).tmod (-(a : Int)) [ZMOD m] ↔
      n ≤ x ∧ (a ∣ n ∨ n ∣ a) := by
  rw [← mod_eq_mod_iff sum small positive le, Int.tmod_neg, ← Int.ofNat_tmod,
    ← Int.ofNat_tmod, Int.natCast_modEq_iff]
  have left : x % n ≤ x := Nat.mod_le x n
  have right : x % a ≤ x := Nat.mod_le x a
  constructor
  · intro same
    exact same.eq_of_lt_of_lt (by omega) (by omega)
  · intro same
    rw [same]

end Opposite

end Foundation.Wrapping
