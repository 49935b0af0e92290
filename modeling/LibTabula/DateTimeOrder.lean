/-
The order of dates with times, and that of their texts.

What has a text of fixed width is ordered as the text is. The comparison knows the
current time only against itself: against anything else its fields decide, and they
are zero.
-/

import LibTabula.DateTimeBounds

set_option autoImplicit false

namespace LibTabula

open Foundation Foundation.ThreeWay

/-! ### The operators -/

namespace Comparable

variable {α : Type} (compare : α → α → Int)

/-- `operator ==`, which is `!compare(other)`. -/
def eq (self other : α) : Bool := compare self other = 0

def ne (self other : α) : Bool := compare self other ≠ 0

def lt (self other : α) : Bool := compare self other < 0

def le (self other : α) : Bool := compare self other ≤ 0

def gt (self other : α) : Bool := compare self other > 0

def ge (self other : α) : Bool := compare self other ≥ 0

/-- The six operators are those of a linear order. -/
def Agree [LinearOrder α] : Prop :=
  ∀ a b : α, (eq compare a b ↔ a = b) ∧ (ne compare a b ↔ a ≠ b) ∧ (lt compare a b ↔ a < b) ∧
    (le compare a b ↔ a ≤ b) ∧ (gt compare a b ↔ a > b) ∧ (ge compare a b ↔ a ≥ b)

end Comparable

/-- A comparison by a key that tells all values apart gives them the order of the keys. -/
theorem Comparable.agree_of_byKey {α γ : Type} [LinearOrder γ] {cmp : α → α → Int} {key : α → γ}
    (byKey : ByKey cmp key) (apart : Function.Injective key) :
    ∃ _ : LinearOrder α, Comparable.Agree cmp := by
  refine ⟨LinearOrder.lift' key apart, fun a b => ?_⟩
  have equal : cmp a b = 0 ↔ a = b := (byKey.equal_iff a b).trans apart.eq_iff
  refine ⟨?_, ?_, ?_, ?_, ?_, ?_⟩
  · exact decide_eq_true_iff.trans equal
  · exact decide_eq_true_iff.trans (not_congr equal)
  · exact decide_eq_true_iff.trans (byKey.less_iff a b)
  · exact decide_eq_true_iff.trans (byKey.le_iff a b)
  · exact decide_eq_true_iff.trans (byKey.greater_iff a b)
  · have notLess : cmp a b ≥ 0 ↔ ¬ cmp a b < 0 := Int.not_lt.symm
    refine decide_eq_true_iff.trans (notLess.trans ?_)
    rw [byKey.less_iff]
    exact not_lt

/-! ### Values -/

/-- `struct tm`, as far as it is read. -/
structure Tm where
  tm_year : Int
  tm_mon : Int
  tm_mday : Int
  tm_hour : Int
  tm_min : Int
  tm_sec : Int

namespace DateTime

/-- The constructor from a `time_t`, behind `safe_localtime()`. -/
def ofTm (tm : Tm) : DateTime :=
  ofFields (.ofInt (tm.tm_year + 1900)) (.ofInt (tm.tm_mon + 1)) (.ofInt tm.tm_mday)
    (.ofInt tm.tm_hour) (.ofInt tm.tm_min) (.ofInt tm.tm_sec)

def setYear (self : DateTime) (y : UInt16) : DateTime :=
  { self with year := y, now := false, unset := nofun }

def setMonth (self : DateTime) (m : UInt8) : DateTime :=
  { self with month := m, now := false, unset := nofun }

def setDay (self : DateTime) (d : UInt8) : DateTime :=
  { self with day := d, now := false, unset := nofun }

def setHour (self : DateTime) (h : UInt8) : DateTime :=
  { self with hour := h, now := false, unset := nofun }

def setMinute (self : DateTime) (m : UInt8) : DateTime :=
  { self with minute := m, now := false, unset := nofun }

def setSecond (self : DateTime) (s : UInt8) : DateTime :=
  { self with second := s, now := false, unset := nofun }

end DateTime

/-- Every field has a number that fits the width it is written with. -/
def Date.FitsWidths (d : Date) : Prop :=
  d.year.toNat < 10 ^ 4 ∧ d.month.toNat < 10 ^ 2 ∧ d.day.toNat < 10 ^ 2

def Time.FitsWidths (t : Time) : Prop :=
  t.hour.toNat < 10 ^ 2 ∧ t.minute.toNat < 10 ^ 2 ∧ t.second.toNat < 10 ^ 2

def DateTime.FitsWidths (dt : DateTime) : Prop := dt.toDate.FitsWidths ∧ dt.toTime.FitsWidths

/-- What the constructors and the setters make of arguments in their documented ranges. A
string may name whatever its format has room for, a zero date too, and a `time_t` may be a
leap second. -/
inductive DateTime.Reachable : DateTime → Prop
  | default : Reachable default
  | fields {y : UInt16} {mon d h min s : UInt8}
      (documented : (ofFields y mon d h min s).Documented) :
      Reachable (ofFields y mon d h min s)
  | string {str : Bytes} {dt : DateTime} (read : ofString str = .ok dt)
      (inFormat : dt.FitsWidths) : Reachable dt
  | time {tm : Tm} (inFormat : (ofTm tm).FitsWidths) : Reachable (ofTm tm)
  | year {dt : DateTime} (before : Reachable dt) {y : UInt16} (range : 1000 ≤ y ∧ y ≤ 9999) :
      Reachable (dt.setYear y)
  | month {dt : DateTime} (before : Reachable dt) {m : UInt8} (range : 1 ≤ m ∧ m ≤ 12) :
      Reachable (dt.setMonth m)
  | day {dt : DateTime} (before : Reachable dt) {d : UInt8} (range : 1 ≤ d ∧ d ≤ 31) :
      Reachable (dt.setDay d)
  | hour {dt : DateTime} (before : Reachable dt) {h : UInt8} (range : h ≤ 23) :
      Reachable (dt.setHour h)
  | minute {dt : DateTime} (before : Reachable dt) {m : UInt8} (range : m ≤ 59) :
      Reachable (dt.setMinute m)
  | second {dt : DateTime} (before : Reachable dt) {s : UInt8} (range : s ≤ 59) :
      Reachable (dt.setSecond s)

/-- A value in use. -/
abbrev DateTime.Reached : Type := { dt : DateTime // dt.Reachable }

/-! ### What is expected -/

/-- Among these values, C++ order and database order are one. -/
structure DateTime.OrdersRight (values : Set Reached) : Prop where
  operators : ∃ _ : LinearOrder values, Comparable.Agree fun a b : values =>
    DateTime.compare a.1 b.1
  text : ∀ a ∈ values, ∀ b ∈ values,
    Comparable.eq DateTime.compare a.1 b.1 ↔ a.1.str = b.1.str
  database : ∀ a ∈ values, ∀ b ∈ values, a.1.now = false → b.1.now = false →
    (a.1.compare b).sign = (stdCompare a.1.str b.1.str).sign

/-! ### Widths -/

namespace DateTime

theorem Reachable.fitsWidths {dt : DateTime} (reachable : dt.Reachable) : dt.FitsWidths := by
  induction reachable with
  | default => exact ⟨⟨by decide, by decide, by decide⟩, by decide, by decide, by decide⟩
  | fields documented =>
      obtain ⟨date, hour, time⟩ := documented
      have hour : _ ≤ (99 : UInt8) := UInt8.le_trans hour (by decide)
      exact ⟨Date.fits_of_documented date, Time.fits_of_documented time hour⟩
  | string _ inFormat => exact inFormat
  | time inFormat => exact inFormat
  | year _ range ih =>
      have bound := UInt16.le_iff_toNat_le.mp range.2
      exact ⟨⟨Nat.lt_succ_of_le bound, ih.1.2⟩, ih.2⟩
  | month _ range ih =>
      have bound := UInt8.le_iff_toNat_le.mp range.2
      exact ⟨⟨ih.1.1, Nat.lt_of_le_of_lt bound (by decide), ih.1.2.2⟩, ih.2⟩
  | day _ range ih =>
      have bound := UInt8.le_iff_toNat_le.mp range.2
      exact ⟨⟨ih.1.1, ih.1.2.1, Nat.lt_of_le_of_lt bound (by decide)⟩, ih.2⟩
  | hour _ range ih =>
      have bound := UInt8.le_iff_toNat_le.mp range
      exact ⟨ih.1, Nat.lt_of_le_of_lt bound (by decide), ih.2.2⟩
  | minute _ range ih =>
      have bound := UInt8.le_iff_toNat_le.mp range
      exact ⟨ih.1, ih.2.1, Nat.lt_of_le_of_lt bound (by decide), ih.2.2.2⟩
  | second _ range ih =>
      have bound := UInt8.le_iff_toNat_le.mp range
      exact ⟨ih.1, ih.2.1, ih.2.2.1, Nat.lt_of_le_of_lt bound (by decide)⟩

end DateTime

/-! ### The order of the texts -/

/-- Behind parts of equal length that are equal, the rest decides. -/
theorem stdCompare_append {a b : Bytes} (same : a.length = b.length) (x y : Bytes) :
    stdCompare (a ++ x) (b ++ y) =
      if stdCompare a b = 0 then stdCompare x y else stdCompare a b := by
  induction a generalizing b with
  | nil =>
      rw [List.eq_nil_of_length_eq_zero same.symm]
      rfl
  | cons c a ih =>
      cases b with
      | nil => cases same
      | cons d b =>
          simp only [List.cons_append, stdCompare]
          by_cases equal : c = d
          · simp only [if_pos equal]
            exact ih (Nat.succ.inj same)
          · simp only [if_neg equal]
            by_cases less : c < d
            · simp only [if_pos less]
              rfl
            · simp only [if_neg less]
              rfl

theorem sign_stdCompare_digits {a b : List Nat} (same : a.length = b.length)
    (smallA : ∀ digit ∈ a, digit < 10) (smallB : ∀ digit ∈ b, digit < 10) :
    (stdCompare (a.map digitChar) (b.map digitChar)).sign =
      ((Decimal.value a : Int) - Decimal.value b).sign := by
  induction a generalizing b with
  | nil =>
      rw [List.eq_nil_of_length_eq_zero same.symm]
      rfl
  | cons x a ih =>
      cases b with
      | nil => cases same
      | cons y b =>
          rw [List.forall_mem_cons] at smallA smallB
          have tails : a.length = b.length := Nat.succ.inj same
          have rest := ih tails smallA.2 smallB.2
          have charX := (digitChar_spec smallA.1).1
          have charY := (digitChar_spec smallB.1).1
          simp only [List.map_cons, stdCompare]
          rw [sign_eq_sign_iff] at rest ⊢
          rcases Nat.lt_trichotomy x y with less | rfl | greater
          · have below := Decimal.value_cons_lt_of_lt less tails smallA.2
            have different : digitChar x ≠ digitChar y := by
              intro equal
              rw [equal] at charX
              omega
            have lower : digitChar x < digitChar y := by
              rw [UInt8.lt_iff_toNat_lt]
              omega
            rw [if_neg different, if_pos lower]
            omega
          · rw [if_pos rfl, Decimal.value_cons, Decimal.value_cons, tails]
            omega
          · have above := Decimal.value_cons_lt_of_lt greater tails.symm smallB.2
            have different : digitChar x ≠ digitChar y := by
              intro equal
              rw [equal] at charX
              omega
            have notLower : ¬ digitChar x < digitChar y := by
              rw [UInt8.lt_iff_toNat_lt]
              omega
            rw [if_neg different, if_neg notLower]
            omega

theorem sign_stdCompare_setw {width m n : Nat} (positive : 0 < width) (fitsM : m < 10 ^ width)
    (fitsN : n < 10 ^ width) :
    (stdCompare (setw width m) (setw width n)).sign = ((m : Int) - n).sign := by
  have same : (Decimal.padded width m).length = (Decimal.padded width n).length := by
    rw [Decimal.padded_length positive fitsM, Decimal.padded_length positive fitsN]
  have digits := sign_stdCompare_digits same (fun _ => Decimal.padded_digit_lt_ten)
    fun _ => Decimal.padded_digit_lt_ten
  rw [Decimal.value_padded, Decimal.value_padded] at digits
  exact digits

/-- A field with a separator behind it decides unless it is equal. -/
theorem sign_stdCompare_field {width m n : Nat} (positive : 0 < width) (fitsM : m < 10 ^ width)
    (fitsN : n < 10 ^ width) (separator : UInt8) {x y : Bytes} {further : Int}
    (rest : (stdCompare x y).sign = further.sign) :
    (stdCompare (setw width m ++ separator :: x) (setw width n ++ separator :: y)).sign =
      (if m ≠ n then (m : Int) - n else further).sign := by
  have same : (setw width m).length = (setw width n).length := by
    rw [length_setw positive fitsM, length_setw positive fitsN]
  have first := sign_stdCompare_setw positive fitsM fitsN
  have behind : stdCompare (separator :: x) (separator :: y) = stdCompare x y := if_pos rfl
  rw [stdCompare_append same, behind]
  rw [sign_eq_sign_iff] at first rest ⊢
  split_ifs <;> omega

theorem Date.sign_compare {d other : Date} (fits : d.FitsWidths) (otherFits : other.FitsWidths) :
    (stdCompare d.str other.str).sign = (d.compare other).sign := by
  obtain ⟨year, month, day⟩ := fits
  obtain ⟨otherYear, otherMonth, otherDay⟩ := otherFits
  have days := sign_stdCompare_setw (by decide) day otherDay
  have months := sign_stdCompare_field (by decide) month otherMonth (byte '-') days
  have years := sign_stdCompare_field (by decide) year otherYear (byte '-') months
  simp only [Date.compare, ne_eq, ← UInt16.toNat_inj, ← UInt8.toNat_inj]
  exact years

theorem Time.sign_compare {t other : Time} (fits : t.FitsWidths) (otherFits : other.FitsWidths) :
    (stdCompare t.str other.str).sign = (t.compare other).sign := by
  obtain ⟨hour, minute, second⟩ := fits
  obtain ⟨otherHour, otherMinute, otherSecond⟩ := otherFits
  have seconds := sign_stdCompare_setw (by decide) second otherSecond
  have minutes := sign_stdCompare_field (by decide) minute otherMinute (byte ':') seconds
  have hours := sign_stdCompare_field (by decide) hour otherHour (byte ':') minutes
  simp only [Time.compare, ne_eq, ← UInt8.toNat_inj]
  exact hours

namespace DateTime

theorem sign_compare {dt other : DateTime} (fits : dt.FitsWidths) (otherFits : other.FitsWidths)
    (given : dt.now = false) (otherGiven : other.now = false) :
    (dt.compare other).sign = (stdCompare dt.str other.str).sign := by
  have same : dt.toDate.str.length = other.toDate.str.length := by
    rw [Date.length_str fits.1.1 fits.1.2.1 fits.1.2.2,
      Date.length_str otherFits.1.1 otherFits.1.2.1 otherFits.1.2.2]
  have dates := Date.sign_compare fits.1 otherFits.1
  have times := Time.sign_compare fits.2 otherFits.2
  have behind : stdCompare (byte ' ' :: dt.toTime.str) (byte ' ' :: other.toTime.str) =
      stdCompare dt.toTime.str other.toTime.str := if_pos rfl
  simp only [compare, str, given, otherGiven, Bool.and_self, Bool.false_eq_true, if_false]
  rw [stdCompare_append same, behind]
  rw [sign_eq_sign_iff] at dates times ⊢
  split_ifs <;> omega

/-! ### The current time -/

theorem str_of_now {dt : DateTime} (now : dt.now = true) : dt.str = ascii "NOW()" := if_pos now

theorem eq_default_of_now {dt : DateTime} (now : dt.now = true) : dt = default := by
  cases dt with
  | mk year month day hour minute second flag unset =>
      simp only at now
      subst now
      obtain ⟨rfl, rfl, rfl, rfl, rfl, rfl⟩ := unset rfl
      rfl

/-- A text that is not the current time is longer. -/
theorem str_ne_of_given {dt : DateTime} (fits : dt.FitsWidths) (given : dt.now = false) :
    dt.str ≠ ascii "NOW()" := by
  intro same
  have length := congrArg List.length same
  rw [str, if_neg (by rw [given]; decide), List.length_append,
    Date.length_str fits.1.1 fits.1.2.1 fits.1.2.2] at length
  have short : (ascii "NOW()").length = 5 := rfl
  omega

theorem eq_of_key_eq {a b : DateTime} (given : a.now = false) (otherGiven : b.now = false)
    (same : a.key = b.key) : a = b := by
  have month := And.intro a.month.toNat_lt b.month.toNat_lt
  have day := And.intro a.day.toNat_lt b.day.toNat_lt
  have hour := And.intro a.hour.toNat_lt b.hour.toNat_lt
  have minute := And.intro a.minute.toNat_lt b.minute.toNat_lt
  have second := And.intro a.second.toNat_lt b.second.toNat_lt
  simp only [key, Date.key, Time.key, toDate, toTime] at same
  rw [← ofFields_of_not_now a given, ← ofFields_of_not_now b otherGiven]
  congr 1
  · exact UInt16.toNat_inj.mp (by omega)
  · exact UInt8.toNat_inj.mp (by omega)
  · exact UInt8.toNat_inj.mp (by omega)
  · exact UInt8.toNat_inj.mp (by omega)
  · exact UInt8.toNat_inj.mp (by omega)
  · exact UInt8.toNat_inj.mp (by omega)

/-- All fields zero, but not the current time. -/
def zero : DateTime := ofFields 0 0 0 0 0 0

/-- The key does not tell the current time from zero, and nothing else from anything. -/
theorem eq_of_key_eq_of_unmixed {a b : DateTime} (same : a.key = b.key)
    (unmixed : ¬ (a.now = true ∧ b = zero)) (unmixedBack : ¬ (b.now = true ∧ a = zero)) :
    a = b := by
  cases now : a.now with
  | true =>
      cases otherNow : b.now with
      | true => rw [eq_default_of_now now, eq_default_of_now otherNow]
      | false =>
          have keyZero : b.key = zero.key := same.symm.trans (key_of_now now)
          exact absurd ⟨now, eq_of_key_eq otherNow rfl keyZero⟩ unmixed
  | false =>
      cases otherNow : b.now with
      | true =>
          have keyZero : a.key = zero.key := same.trans (key_of_now otherNow)
          exact absurd ⟨otherNow, eq_of_key_eq now rfl keyZero⟩ unmixedBack
      | false => exact eq_of_key_eq now otherNow same

/-- Different values have different texts, the current time and zero too. -/
theorem eq_of_str_eq {a b : DateTime} (fits : a.FitsWidths) (otherFits : b.FitsWidths)
    (same : a.str = b.str) : a = b := by
  cases now : a.now with
  | true =>
      cases otherNow : b.now with
      | true => rw [eq_default_of_now now, eq_default_of_now otherNow]
      | false =>
          rw [str_of_now now] at same
          exact absurd same.symm (str_ne_of_given otherFits otherNow)
  | false =>
      cases otherNow : b.now with
      | true =>
          rw [str_of_now otherNow] at same
          exact absurd same (str_ne_of_given fits now)
      | false =>
          have signs := sign_compare fits otherFits now otherNow
          rw [(stdCompare_eq_zero_iff _ _).mpr same] at signs
          have equal : a.compare b = 0 := Int.sign_eq_zero_iff_zero.mp signs
          exact eq_of_key_eq now otherNow ((compare_byKey.equal_iff a b).mp equal)

/-- Both the current time and zero are among the values. -/
def Mixed (values : Set Reached) : Prop :=
  (∃ a ∈ values, a.1.now = true) ∧ ∃ b ∈ values, b.1 = zero

theorem ordersRight_iff (values : Set Reached) : OrdersRight values ↔ ¬ Mixed values := by
  constructor
  · rintro right ⟨⟨a, memberA, now⟩, b, memberB, isZero⟩
    have sameKey : a.1.key = b.1.key := by
      rw [key_of_now now, isZero]
      rfl
    have equal := (compare_byKey.equal_iff a.1 b.1).mpr sameKey
    have sameText := (right.text a memberA b memberB).mp (decide_eq_true equal)
    rw [str_of_now now] at sameText
    have given : b.1.now = false := congrArg DateTime.now isZero
    exact str_ne_of_given b.2.fitsWidths given sameText.symm
  · intro unmixed
    have apart : ∀ a ∈ values, ∀ b ∈ values, a.1.key = b.1.key → a.1 = b.1 := by
      intro a memberA b memberB same
      apply eq_of_key_eq_of_unmixed same
      · exact fun both => unmixed ⟨⟨a, memberA, both.1⟩, b, memberB, both.2⟩
      · exact fun both => unmixed ⟨⟨b, memberB, both.1⟩, a, memberA, both.2⟩
    constructor
    case operators =>
      have byKey : ByKey (fun a b : values => DateTime.compare a.1 b.1) fun a => a.1.1.key :=
        fun a b => compare_byKey a.1.1 b.1.1
      apply Comparable.agree_of_byKey byKey
      intro a b same
      exact Subtype.ext (Subtype.ext (apart a.1 a.2 b.1 b.2 same))
    case text =>
      intro a memberA b memberB
      refine decide_eq_true_iff.trans ((compare_byKey.equal_iff a.1 b.1).trans ?_)
      constructor
      · exact fun same => congrArg DateTime.str (apart a memberA b memberB same)
      · exact fun same =>
          congrArg DateTime.key (eq_of_str_eq a.2.fitsWidths b.2.fitsWidths same)
    case database =>
      intro a _ b _ given otherGiven
      exact sign_compare a.2.fitsWidths b.2.fitsWidths given otherGiven

/-- `DateTime dt; dt.hour(0);` is equal to `NOW()`, and another text. -/
theorem now_equals_zero :
    default.compare (default.setHour 0) = 0 ∧
      default.str = ascii "NOW()" ∧
      (default.setHour 0).str = ascii "0000-00-00 00:00:00" ∧
      ¬ OrdersRight {⟨default, .default⟩, ⟨default.setHour 0, .hour .default (by decide)⟩} := by
  refine ⟨rfl, rfl, by decide +kernel, ?_⟩
  intro right
  have sameText := (right.text _ (.inl rfl) _ (.inr rfl)).mp rfl
  revert sameText
  decide +kernel

end DateTime

end LibTabula
