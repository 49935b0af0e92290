/-
Numbers as decimal digits.

Digits stand most significant first, as a printer writes them, and zero has one
digit. A padded number has at least the given width: padding never cuts digits
off, so that a number which is too large for the width takes more room. Reading
the digits gives the number back whatever the padding.
-/

import Mathlib.Data.Nat.Digits.Lemmas

set_option autoImplicit false

namespace Foundation.Decimal

def digits (n : Nat) : List Nat := if n = 0 then [0] else (Nat.digits 10 n).reverse

def padded (width n : Nat) : List Nat :=
  List.replicate (width - (digits n).length) 0 ++ digits n

def value (read : List Nat) : Nat := read.foldl (fun sum digit => 10 * sum + digit) 0

@[simp] theorem value_nil : value [] = 0 := rfl

theorem value_concat (read : List Nat) (digit : Nat) :
    value (read ++ [digit]) = 10 * value read + digit := by
  simp only [value, List.foldl_append, List.foldl_cons, List.foldl_nil]

theorem value_reverse (read : List Nat) : value read.reverse = Nat.ofDigits 10 read := by
  induction read with
  | nil => rfl
  | cons digit read ih =>
      rw [List.reverse_cons, value_concat, ih, Nat.ofDigits_cons]
      omega

theorem value_eq_ofDigits (read : List Nat) : value read = Nat.ofDigits 10 read.reverse := by
  rw [← value_reverse, List.reverse_reverse]

theorem value_cons (digit : Nat) (read : List Nat) :
    value (digit :: read) = 10 ^ read.length * digit + value read := by
  rw [value_eq_ofDigits, value_eq_ofDigits, List.reverse_cons, Nat.ofDigits_append,
    List.length_reverse, Nat.ofDigits_singleton, Nat.add_comm]

theorem value_lt_pow {read : List Nat} (small : ∀ digit ∈ read, digit < 10) :
    value read < 10 ^ read.length := by
  rw [value_eq_ofDigits, ← List.length_reverse]
  exact Nat.ofDigits_lt_base_pow_length (by decide)
    fun digit member => small digit (List.mem_reverse.mp member)

/-- Of two numbers with equally many digits, the first different digit decides. -/
theorem value_cons_lt_of_lt {x y : Nat} (below : x < y) {a b : List Nat}
    (same : a.length = b.length) (small : ∀ digit ∈ a, digit < 10) :
    value (x :: a) < value (y :: b) := by
  calc value (x :: a) = 10 ^ a.length * x + value a := value_cons x a
    _ < 10 ^ a.length * x + 10 ^ a.length := Nat.add_lt_add_left (value_lt_pow small) _
    _ = 10 ^ a.length * (x + 1) := (Nat.mul_succ _ x).symm
    _ ≤ 10 ^ a.length * y := Nat.mul_le_mul_left _ below
    _ ≤ 10 ^ a.length * y + value b := Nat.le_add_right _ _
    _ = value (y :: b) := by rw [value_cons, same]

theorem value_digits (n : Nat) : value (digits n) = n := by
  unfold digits
  by_cases zero : n = 0
  · rw [if_pos zero, zero]
    rfl
  · rw [if_neg zero, value_reverse, Nat.ofDigits_digits]

/-- A number with a last digit, over one that does not vanish. -/
theorem digits_concat {n : Nat} (positive : 0 < n) {digit : Nat} (small : digit < 10) :
    digits (10 * n + digit) = digits n ++ [digit] := by
  have nonzero : n ≠ 0 := by omega
  have together : 10 * n + digit ≠ 0 := by omega
  have step := Nat.digits_add 10 (by decide) digit n small (.inr nonzero)
  rw [Nat.add_comm] at step
  simp only [digits, if_neg nonzero, if_neg together, step, List.reverse_cons]

theorem digit_lt_ten {n digit : Nat} (member : digit ∈ digits n) : digit < 10 := by
  unfold digits at member
  split_ifs at member with zero
  · rw [List.mem_singleton.mp member]
    decide
  · exact Nat.digits_lt_base (by decide) (List.mem_reverse.mp member)

theorem head?_digits {n : Nat} (positive : n ≠ 0) : (digits n).head? ≠ some 0 := by
  have some_ : Nat.digits 10 n ≠ [] := Nat.digits_ne_nil_iff_ne_zero.mpr positive
  rw [digits, if_neg positive, List.head?_reverse, List.getLast?_eq_some_getLast some_]
  intro zero
  exact Nat.getLast_digit_ne_zero 10 positive (Option.some.inj zero)

theorem digits_length_le_iff {width : Nat} (positive : 0 < width) (n : Nat) :
    (digits n).length ≤ width ↔ n < 10 ^ width := by
  unfold digits
  by_cases zero : n = 0
  · have room : 0 < 10 ^ width := Nat.pow_pos (by decide)
    rw [if_pos zero, zero, List.length_singleton]
    exact ⟨fun _ => room, fun _ => positive⟩
  · rw [if_neg zero, List.length_reverse]
    exact Nat.digits_length_le_iff (by decide) n

theorem value_replicate_zero (count : Nat) (read : List Nat) :
    value (List.replicate count 0 ++ read) = value read := by
  induction count with
  | zero => rfl
  | succ count ih =>
      rw [List.replicate_succ, List.cons_append]
      exact ih

theorem value_padded (width n : Nat) : value (padded width n) = n := by
  rw [padded, value_replicate_zero, value_digits]

theorem padded_digit_lt_ten {width n digit : Nat} (member : digit ∈ padded width n) :
    digit < 10 := by
  rcases List.mem_append.mp member with zero | member
  · rw [List.eq_of_mem_replicate zero]
    decide
  · exact digit_lt_ten member

theorem padded_length {width n : Nat} (positive : 0 < width) (fits : n < 10 ^ width) :
    (padded width n).length = width := by
  have short := (digits_length_le_iff positive n).mpr fits
  rw [padded, List.length_append, List.length_replicate]
  omega

/-- What is as long as the width is printed without padding. -/
theorem padded_of_length_le {width n : Nat} (long : width ≤ (digits n).length) :
    padded width n = digits n := by
  rw [padded, Nat.sub_eq_zero_of_le long]
  rfl

/-- A number one digit too long for the width is printed as the number without its
last digit, which fills the width, and that digit. -/
theorem padded_overflow {width n : Nat} (positive : 0 < width) (long : 10 ^ width ≤ n) :
    padded width n = padded width (n / 10) ++ [n % 10] := by
  have tooLong : width < (digits n).length := by
    by_contra short
    have fits := (digits_length_le_iff positive n).mp (Nat.le_of_not_lt short)
    omega
  have ten : 10 ≤ n := by
    calc 10 = 10 ^ 1 := rfl
      _ ≤ 10 ^ width := Nat.pow_le_pow_right (by decide) positive
      _ ≤ n := long
  have split := digits_concat (n := n / 10) (by omega) (Nat.mod_lt n (by decide))
  rw [Nat.div_add_mod] at split
  have enough : width ≤ (digits (n / 10)).length := by
    rw [split, List.length_append, List.length_singleton] at tooLong
    omega
  rw [padded_of_length_le tooLong.le, padded_of_length_le enough, split]

end Foundation.Decimal
