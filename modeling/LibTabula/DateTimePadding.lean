/-
Dates and times whose components are not padded.

`convert()` takes two characters for a month and for all that follows. Of a component
with one digit the second of them is the separator, or the NUL, at which `strtol()`
stops. The pointer stands on the next component then, and no separator is passed over.
-/

import LibTabula.DateTimeBounds

set_option autoImplicit false

namespace LibTabula

open Foundation
open Query (isdigit)

structure WrittenYear where
  value : UInt16
  least : 1000 ≤ value.toNat
  most : value.toNat ≤ 9999

/-- A component of one or two digits, with or without the zero that pads it. -/
structure WrittenComponent where
  value : UInt8
  bound : value.toNat < 100
  padded : Bool

namespace WrittenComponent

def text (self : WrittenComponent) : Bytes := setw (if self.padded then 2 else 1) self.value.toNat

end WrittenComponent

def dateText (year : WrittenYear) (month day : WrittenComponent) : Bytes :=
  setw 4 year.value.toNat ++ byte '-' :: (month.text ++ byte '-' :: day.text)

def timeText (hour minute second : WrittenComponent) : Bytes :=
  hour.text ++ byte ':' :: (minute.text ++ byte ':' :: second.text)

example : timeText ⟨7, by decide, false⟩ ⟨5, by decide, true⟩ ⟨42, by decide, false⟩ =
    ascii "7:05:42" := by decide +kernel

/-! ### One component -/

/-- The pointer is on the character behind a component, or has gone past it. -/
def AtOrPast (stop : UInt8) (rest left : Bytes) : Prop := left = stop :: rest ∨ left = rest

def StartsWithDigit (text : Bytes) : Prop := ∃ c rest, text = c :: rest ∧ isdigit c = true

theorem setw_cases {n : Nat} (bound : n < 100) :
    setw 1 n = setw 2 n ∨ n < 10 ∧ setw 1 n = [digitChar n] := by
  by_cases small : n < 10
  · refine .inr ⟨small, ?_⟩
    have alone : Decimal.digits n = [n] := by
      rw [Decimal.digits]
      by_cases zero : n = 0
      · rw [if_pos zero, zero]
      · rw [if_neg zero, Nat.digits_of_lt 10 n zero small]
        rfl
    have noRoom : (1 : Nat) ≤ (Decimal.digits n).length := by
      rw [alone, List.length_singleton]
    rw [setw, Decimal.padded_of_length_le noRoom, alone]
    rfl
  · have long : 1 < (Decimal.digits n).length := by
      by_contra short
      have fits := (Decimal.digits_length_le_iff (by decide) n).mp (Nat.le_of_not_lt short)
      omega
    exact .inl (by rw [setw, setw, Decimal.padded_of_length_le long.le,
      Decimal.padded_of_length_le long])

theorem startsWithDigit_setw (width n : Nat) (rest : Bytes) :
    StartsWithDigit (setw width n ++ rest) := by
  have small : ∀ digit ∈ Decimal.padded width n, digit < 10 :=
    fun _ => Decimal.padded_digit_lt_ten
  cases written : Decimal.padded width n with
  | nil =>
      have nothing : Decimal.digits n = [] := (List.append_eq_nil_iff.mp written).2
      have zero := Decimal.value_digits n
      rw [nothing, Decimal.value_nil] at zero
      subst zero
      cases nothing
  | cons digit others =>
      rw [written] at small
      have first := small digit (List.mem_cons_self ..)
      refine ⟨digitChar digit, others.map digitChar ++ rest, ?_, (digitChar_spec first).2.1⟩
      rw [setw, written]
      rfl

theorem skip_atOrPast {stop : UInt8} {rest left : Bytes} (notDigit : isdigit stop = false)
    (next : StartsWithDigit rest) (reached : AtOrPast stop rest left) :
    (skip stop).run left = .ok () rest := by
  rcases reached with rfl | rfl
  · exact skip_separator stop rest
  · obtain ⟨c, others, rfl, digit⟩ := next
    have other : c ≠ stop := by
      intro same
      rw [same, notDigit] at digit
      cases digit
    exact skip_other other others

/-- Of one digit, `num` holds the digit and the separator. -/
theorem readField_digit {digit : Nat} (small : digit < 10) {stop : UInt8}
    (notDigit : isdigit stop = false) (rest : Bytes) :
    (readField 2).run (digitChar digit :: stop :: rest) = .ok (digit : Int) rest := by
  have chars := readChars_append [digitChar digit, stop] rest
  have ended : [stop].takeWhile isdigit = [] := by
    rw [List.takeWhile_cons_of_neg (by rw [notDigit]; decide)]
  have number := strtol_digits_append (List.cons_ne_nil digit [])
    (fun other member => List.mem_singleton.mp member ▸ small) ended
  have value : Decimal.value [digit] = digit := by
    rw [Decimal.value, List.foldl_cons, List.foldl_nil, Nat.mul_zero, Nat.zero_add]
  rw [value] at number
  refine (run_bind_of_ok chars).trans ?_
  exact congrArg (fun read => EStateM.Result.ok read rest) number

namespace WrittenComponent

theorem startsWithDigit (self : WrittenComponent) (rest : Bytes) :
    StartsWithDigit (self.text ++ rest) :=
  startsWithDigit_setw _ _ rest

theorem readField_text (self : WrittenComponent) {stop : UInt8}
    (notDigit : isdigit stop = false) (rest : Bytes) :
    ∃ left, (readField 2).run (self.text ++ stop :: rest) = .ok (self.value.toNat : Int) left ∧
      AtOrPast stop rest left := by
  have whole : (readField 2).run (setw 2 self.value.toNat ++ stop :: rest) =
      .ok (self.value.toNat : Int) (stop :: rest) :=
    readField_setw (by decide) self.bound (stop :: rest)
  cases self with
  | mk value bound padded =>
      cases padded with
      | true => exact ⟨stop :: rest, whole, .inl rfl⟩
      | false =>
          rcases setw_cases bound with full | ⟨small, single⟩
          · refine ⟨stop :: rest, ?_, .inl rfl⟩
            rw [text, if_neg Bool.false_ne_true, full]
            exact whole
          · refine ⟨rest, ?_, .inr rfl⟩
            rw [text, if_neg Bool.false_ne_true, single]
            exact readField_digit small notDigit rest

/-- A component and the separator behind it are read, whichever of the two reads takes the
separator. -/
theorem run_readField_skip (self : WrittenComponent) {α : Type} {separator : UInt8}
    (notDigit : isdigit separator = false) {rest : Bytes} (next : StartsWithDigit rest)
    (further : Int → EStateM Failure Bytes α) :
    (readField 2 >>= fun n => skip separator >>= fun _ => further n).run
        (self.text ++ separator :: rest) =
      (further self.value.toNat).run rest := by
  obtain ⟨left, read, reached⟩ := self.readField_text notDigit rest
  rw [run_bind_of_ok read, run_bind_of_ok (skip_atOrPast notDigit next reached)]

end WrittenComponent

/-! ### Whole texts -/

/-- A text before a character that is no digit, which may be the NUL. -/
theorem Date.convert_text (year : WrittenYear) (month day : WrittenComponent) {stop : UInt8}
    (notDigit : isdigit stop = false) (rest : Bytes) :
    ∃ left, Date.convert.run (dateText year month day ++ stop :: rest) =
        .ok ⟨year.value, month.value, day.value⟩ left ∧
      AtOrPast stop rest left := by
  have fits : year.value.toNat < 10 ^ 4 := Nat.lt_succ_of_le year.most
  obtain ⟨left, read, reached⟩ := day.readField_text notDigit rest
  refine ⟨left, ?_, reached⟩
  simp only [dateText, List.append_assoc, List.cons_append, Date.convert]
  rw [run_bind_of_ok (readField_setw (by decide) fits _), run_bind_of_ok (skip_separator _ _),
    month.run_readField_skip (by decide) (day.startsWithDigit _), run_bind_of_ok read,
    uint16_ofInt_toNat, uint8_ofInt_toNat, uint8_ofInt_toNat]
  rfl

theorem Time.convert_text (hour minute second : WrittenComponent) {stop : UInt8}
    (notDigit : isdigit stop = false) (rest : Bytes) :
    ∃ left, Time.convert.run (timeText hour minute second ++ stop :: rest) =
        .ok ⟨hour.value, minute.value, second.value⟩ left ∧
      AtOrPast stop rest left := by
  obtain ⟨left, read, reached⟩ := second.readField_text notDigit rest
  refine ⟨left, ?_, reached⟩
  simp only [timeText, List.append_assoc, List.cons_append, Time.convert]
  rw [hour.run_readField_skip (by decide) (minute.startsWithDigit _),
    minute.run_readField_skip (by decide) (second.startsWithDigit _), run_bind_of_ok read,
    uint8_ofInt_toNat, uint8_ofInt_toNat, uint8_ofInt_toNat]
  rfl

/-- The components come back whatever of them is padded. -/
theorem unpadded_texts_convert (year : WrittenYear)
    (month day hour minute second : WrittenComponent) :
    Date.ofString (dateText year month day) =
        .ok ⟨year.value, month.value, day.value⟩ ∧
      Time.ofString (timeText hour minute second) =
        .ok ⟨hour.value, minute.value, second.value⟩ ∧
      DateTime.ofString (dateText year month day ++ byte ' ' :: timeText hour minute second) =
        .ok (.ofFields year.value month.value day.value hour.value minute.value second.value) := by
  obtain ⟨leftTime, time, _⟩ :=
    Time.convert_text hour minute second (by decide : isdigit 0 = false) []
  refine ⟨?_, ?_, ?_⟩
  · obtain ⟨left, date, _⟩ := Date.convert_text year month day (by decide : isdigit 0 = false) []
    rw [Date.ofString, date]
    rfl
  · rw [Time.ofString, time]
    rfl
  · have next : StartsWithDigit (timeText hour minute second ++ [0]) := by
      rw [timeText, List.append_assoc]
      exact hour.startsWithDigit _
    obtain ⟨left, date, reached⟩ := Date.convert_text year month day
      (by decide : isdigit (byte ' ') = false) (timeText hour minute second ++ [0])
    rw [DateTime.ofString, DateTime.convert, List.append_assoc, List.cons_append,
      run_bind_of_ok date, run_bind_of_ok (skip_atOrPast (by decide) next reached),
      run_bind_of_ok time]
    rfl

end LibTabula
