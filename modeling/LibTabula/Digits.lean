/-
Digits as characters, and what the C library reads from them.
-/

import LibTabula.Foundation.Decimal
import LibTabula.QueryTemplate
import Mathlib.Data.List.TakeWhile

set_option autoImplicit false

namespace LibTabula

open Foundation
open Query (isdigit atoi)

def digitChar (digit : Nat) : UInt8 := UInt8.ofNat ((byte '0').toNat + digit)

/-- In the C locale. -/
def isspace (c : UInt8) : Bool := c = byte ' ' || 9 ≤ c && c ≤ 13

/-- `strtol(num, 0, 10)` on a text too short to overflow. -/
def strtol (num : Bytes) : Int :=
  match num.dropWhile isspace with
  | [] => 0
  | c :: rest =>
      if c = byte '-' then -(atoi (rest.takeWhile isdigit) : Int)
      else if c = byte '+' then atoi (rest.takeWhile isdigit)
      else atoi ((c :: rest).takeWhile isdigit)

/-- `atoi()` of any text, as the C library has it: a number that is no `long` is the
nearest one, and of the `long` the `int` keeps the low bits. -/
def strToInt (num : Bytes) : Int32 := Int32.ofInt (max (-2 ^ 63) (min (strtol num) (2 ^ 63 - 1)))

theorem digitChar_spec {digit : Nat} (small : digit < 10) :
    (digitChar digit).toNat = 48 + digit ∧ isdigit (digitChar digit) = true ∧
      isspace (digitChar digit) = false ∧ digitChar digit ≠ byte '-' ∧
      digitChar digit ≠ byte '+' ∧ digitChar digit ≠ byte ':' := by
  interval_cases digit <;> decide

theorem takeWhile_isdigit (read : List Nat) (small : ∀ digit ∈ read, digit < 10) :
    (read.map digitChar).takeWhile isdigit = read.map digitChar := by
  rw [List.takeWhile_eq_self_iff]
  intro c member
  obtain ⟨digit, found, rfl⟩ := List.mem_map.mp member
  exact (digitChar_spec (small digit found)).2.1

theorem atoi_digits (read : List Nat) (small : ∀ digit ∈ read, digit < 10) :
    atoi (read.map digitChar) = Decimal.value read := by
  induction read using List.reverseRecOn with
  | nil => rfl
  | append_singleton read digit ih =>
      have last := (digitChar_spec (small digit (by simp))).1
      have before := ih fun digit found => small digit (List.mem_append_left _ found)
      unfold atoi at before ⊢
      rw [List.map_append, List.foldl_append, before, Decimal.value_concat]
      simp only [List.map_cons, List.map_nil, List.foldl_cons, List.foldl_nil, last]
      have zero : (byte '0').toNat = 48 := rfl
      omega

/-- Reading ends at the first character that is no digit. -/
theorem strtol_digits_append {read : List Nat} (nonempty : read ≠ [])
    (small : ∀ digit ∈ read, digit < 10) {rest : Bytes} (ended : rest.takeWhile isdigit = []) :
    strtol (read.map digitChar ++ rest) = Decimal.value read := by
  have number := atoi_digits read small
  have every : ∀ c ∈ read.map digitChar, isdigit c = true :=
    List.takeWhile_eq_self_iff.mp (takeWhile_isdigit read small)
  have all : (read.map digitChar ++ rest).takeWhile isdigit = read.map digitChar := by
    rw [List.takeWhile_append_of_pos every, ended, List.append_nil]
  cases read with
  | nil => exact absurd rfl nonempty
  | cons digit read =>
      obtain ⟨_, _, notSpace, notMinus, notPlus, _⟩ := digitChar_spec (small digit (by simp))
      rw [List.map_cons, List.cons_append] at all ⊢
      rw [List.map_cons] at number
      have start : (digitChar digit :: (read.map digitChar ++ rest)).dropWhile isspace =
          digitChar digit :: (read.map digitChar ++ rest) := by
        rw [List.dropWhile_cons_of_neg (by simp [notSpace])]
      simp only [strtol, start, if_neg notMinus, if_neg notPlus, all, number]

theorem strtol_digits (read : List Nat) (small : ∀ digit ∈ read, digit < 10) :
    strtol (read.map digitChar) = Decimal.value read := by
  by_cases nonempty : read = []
  · rw [nonempty]
    rfl
  · have ended : ([] : Bytes).takeWhile isdigit = [] := rfl
    have all := strtol_digits_append nonempty small ended
    rw [List.append_nil] at all
    exact all

theorem exists_digit {c : UInt8} (digit : isdigit c = true) :
    ∃ value, value < 10 ∧ digitChar value = c := by
  simp only [isdigit, Bool.and_eq_true, decide_eq_true_eq, UInt8.le_iff_toNat_le] at digit
  have lower : (byte '0').toNat = 48 := rfl
  have upper : (byte '9').toNat = 57 := rfl
  refine ⟨c.toNat - 48, by omega, ?_⟩
  rw [digitChar, lower, Nat.add_sub_cancel' (by omega), UInt8.ofNat_toNat]

end LibTabula
