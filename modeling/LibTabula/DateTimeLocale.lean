/-
The text of dates and times in a locale, read back.

A stream groups the digits of the fields as its locale wants it, and `str()` takes the
global locale. A field is read back if it is not grouped and not wider than what is read
of it. Of any other field fewer digits are read than it has.
-/

import LibTabula.LocaleText

set_option autoImplicit false

namespace LibTabula

open Foundation
open Query (isdigit)

/-! ### One field -/

section Field

variable {loc : Locale} {width n : Nat}

/-- Some of the digits of a number, and not all of them. -/
structure SomeDigits (front : List Nat) (n : Nat) : Prop where
  short : front <+: Decimal.digits n
  shorter : front.length < (Decimal.digits n).length
  some_ : front ≠ []

theorem someDigits_take {count : Nat} (positive : 0 < count)
    (more : count < (Decimal.digits n).length) : SomeDigits ((Decimal.digits n).take count) n := by
  have lengths : ((Decimal.digits n).take count).length = count := by
    rw [List.length_take]
    omega
  constructor
  · exact List.take_prefix _ _
  · rw [lengths]
    exact more
  · rw [← List.length_pos_iff, lengths]
    exact positive

theorem SomeDigits.digit_lt {front : List Nat} (someDigits : SomeDigits front n) :
    ∀ digit ∈ front, digit < 10 :=
  fun _ member => Decimal.digit_lt_ten (someDigits.short.subset member)

/-- They make a smaller number. -/
theorem SomeDigits.value_lt {front : List Nat} (someDigits : SomeDigits front n) :
    Decimal.value front < n := by
  have positive : 0 < front.length := List.length_pos_iff.mpr someDigits.some_
  have below : Decimal.value front < 10 ^ front.length := Decimal.value_lt_pow someDigits.digit_lt
  have above : ¬ n < 10 ^ front.length := by
    rw [← Decimal.digits_length_le_iff positive]
    exact Nat.not_le_of_lt someDigits.shorter
  omega

/-- A number that is grouped begins with some of its digits and a separator. -/
theorem exists_cut_of_not_fits (plain : isdigit loc.thousandsSep = false)
    (grouped : ¬ loc.Fits n) :
    ∃ count rest, 0 < count ∧ count < (Decimal.digits n).length ∧
      loc.digits n =
        ((Decimal.digits n).take count).map digitChar ++ loc.thousandsSep :: rest := by
  obtain ⟨limit, limited, tooLong⟩ : ∃ limit, loc.groupSize 0 = some limit ∧
      limit < (Decimal.digits n).length := by
    by_contra none_
    apply grouped
    intro limit limited
    by_contra tooLong
    exact none_ ⟨limit, limited, Nat.lt_of_not_le tooLong⟩
  have longer : limit < ((Decimal.digits n).map digitChar).length := by
    rw [List.length_map]
    exact tooLong
  obtain ⟨text, rest, separated, isPrefix, shorter⟩ :=
    Grouping.exists_cut loc.thousandsSep limited (loc.groupSize_pos limited) longer
  have isText : text = ((Decimal.digits n).take text.length).map digitChar := by
    rw [List.map_take]
    exact List.prefix_iff_eq_take.mp isPrefix
  rw [List.length_map] at shorter
  refine ⟨text.length, rest, ?_, shorter, ?_⟩
  · -- The first character is a digit, which the separator is not.
    apply List.length_pos_iff.mpr
    intro nothing
    have heads : (Grouping.grouped loc.thousandsSep loc.groupSize
        ((Decimal.digits n).map digitChar)).head? = _ := Grouping.head?_grouped _
    rw [separated, nothing, List.nil_append, List.head?_cons, List.head?_map] at heads
    obtain ⟨digit, first, isSep⟩ := Option.map_eq_some_iff.mp heads.symm
    have isDigit := (digitChar_spec (Decimal.digit_lt_ten (List.mem_of_head? first))).2.1
    rw [isSep, plain] at isDigit
    cases isDigit
  · rw [← isText]
    exact separated

/-- The beginning of a number that is grouped, or that is longer than what is read of it. -/
theorem exists_take_digits (plain : isdigit loc.thousandsSep = false) (positive : 0 < width)
    (cut : ¬ (loc.Fits n ∧ (Decimal.digits n).length ≤ width)) :
    ∃ front behind, (loc.digits n).take width = front.map digitChar ++ behind ∧
      SomeDigits front n ∧ behind.takeWhile isdigit = [] := by
  by_cases fits : loc.Fits n
  · have same : loc.digits n = (Decimal.digits n).map digitChar := by
      rw [(loc.digits_eq_iff n).mpr fits, Locale.digits_classic]
    have more : width < (Decimal.digits n).length := by
      apply Nat.lt_of_not_le
      intro enough
      exact cut ⟨fits, enough⟩
    refine ⟨_, [], ?_, someDigits_take positive more, rfl⟩
    rw [same, List.append_nil, List.map_take]
  · obtain ⟨count, rest, some_, fewer, separated⟩ := exists_cut_of_not_fits plain fits
    have lengths : (((Decimal.digits n).take count).map digitChar).length = count := by
      rw [List.length_map, List.length_take]
      omega
    by_cases within : width ≤ count
    · refine ⟨_, [], ?_, someDigits_take positive (Nat.lt_of_le_of_lt within fewer), rfl⟩
      rw [separated, List.take_append_of_le_length (by omega), List.append_nil, ← List.map_take,
        List.take_take, Nat.min_eq_left within]
    · obtain ⟨more, isMore⟩ := Nat.exists_eq_succ_of_ne_zero
        (Nat.sub_ne_zero_of_lt (Nat.lt_of_not_le within))
      refine ⟨_, (loc.thousandsSep :: rest).take (width - count), ?_,
        someDigits_take some_ fewer, ?_⟩
      · rw [separated, List.take_append, List.take_of_length_le (by omega), lengths]
      · rw [isMore, List.take_succ_cons, List.takeWhile_cons_of_neg]
        rw [plain]
        exact Bool.false_ne_true

/-- Of a field that is cut off or grouped a smaller number is read. -/
theorem readField_cut (plain : isdigit loc.thousandsSep = false) (positive : 0 < width)
    (long : width ≤ (Decimal.digits n).length)
    (cut : ¬ (loc.Fits n ∧ (Decimal.digits n).length ≤ width)) (rest : Bytes) :
    ∃ v behind, (readField width).run ((StreamPiece.number width n).put loc ++ rest) =
      .ok ((v : Nat) : Int) behind ∧ v < n := by
  obtain ⟨front, behind, taken, someDigits, ended⟩ := exists_take_digits plain positive cut
  have longer : width ≤ (loc.digits n).length := by
    have more := loc.length_digits_classic_le n
    rw [Locale.digits_classic, List.length_map] at more
    omega
  have written : (StreamPiece.number width n).put loc = loc.digits n := by
    have natural : ¬ ((n : Int) < 0) := by omega
    rw [StreamPiece.put, if_neg natural, List.nil_append, Int.natAbs_natCast, Grouping.padTo,
      Nat.sub_eq_zero_of_le longer]
    rfl
  have chars := readChars_append ((loc.digits n).take width) ((loc.digits n).drop width ++ rest)
  rw [List.length_take, Nat.min_eq_left longer, ← List.append_assoc,
    List.take_append_drop] at chars
  refine ⟨Decimal.value front, (loc.digits n).drop width ++ rest, ?_, someDigits.value_lt⟩
  rw [written, readField, run_bind_of_ok chars, taken,
    strtol_digits_append someDigits.some_ someDigits.digit_lt ended]
  rfl

theorem readField_put (positive : 0 < width) (fits : loc.Fits n) (small : n < 10 ^ width)
    (rest : Bytes) :
    (readField width).run ((StreamPiece.number width n).put loc ++ rest) = .ok (n : Int) rest := by
  rw [(StreamPiece.put_number_eq_iff loc width n).mpr fits, SqlValue.put_classic_natCast]
  exact readField_setw positive small rest

/-- No field is read as more than it is, and as what it is only if it is neither grouped nor
cut off. -/
theorem readField_cases (plain : isdigit loc.thousandsSep = false) (positive : 0 < width)
    (enough : n < 10 ∨ width ≤ (Decimal.digits n).length) (rest : Bytes) :
    ∃ v behind, (readField width).run ((StreamPiece.number width n).put loc ++ rest) =
        .ok ((v : Nat) : Int) behind ∧ v ≤ n ∧
      (v = n → loc.Fits n ∧ n < 10 ^ width ∧ behind = rest) := by
  by_cases whole : loc.Fits n ∧ (Decimal.digits n).length ≤ width
  · have small := (Decimal.digits_length_le_iff positive n).mp whole.2
    exact ⟨n, rest, readField_put positive whole.1 small rest, Nat.le_refl n,
      fun _ => ⟨whole.1, small, rfl⟩⟩
  · have long : width ≤ (Decimal.digits n).length := by
      rcases enough with small | long
      · have one : (Decimal.digits n).length ≤ 1 :=
          (Decimal.digits_length_le_iff Nat.one_pos n).mpr (by omega)
        exact absurd ⟨loc.fits_of_small small, Nat.le_trans one positive⟩ whole
      · exact long
    obtain ⟨v, behind, ran, less⟩ := readField_cut plain positive long whole rest
    exact ⟨v, behind, ran, Nat.le_of_lt less, fun same => absurd same (Nat.ne_of_lt less)⟩

theorem enough_of_two (n : Nat) : n < 10 ∨ 2 ≤ (Decimal.digits n).length := by
  by_cases small : n < 10
  · exact Or.inl small
  · right
    by_contra short
    have one := (Decimal.digits_length_le_iff Nat.one_pos n).mp (by omega)
    omega

/-- A smaller number fits as well. -/
theorem Locale.Fits.mono {m : Nat} (fits : loc.Fits n) (le : m ≤ n) : loc.Fits m := by
  intro size limited
  have positive := loc.groupSize_pos limited
  have small := (Decimal.digits_length_le_iff positive n).mp (fits size limited)
  exact (Decimal.digits_length_le_iff positive m).mpr (Nat.lt_of_le_of_lt le small)

end Field

/-! ### Dates -/

/-- A text is read back under a condition, and, unless the separator is itself a digit, only
under it. -/
structure ReadBackIf (loc : Locale) (condition readBack : Prop) : Prop where
  enough : condition → readBack
  needed : isdigit loc.thousandsSep = false → readBack → condition

namespace Date

theorem stream2string_date (loc : Locale) (d : Date) :
    (SqlValue.date d).stream2string loc = (StreamPiece.number 4 d.year.toNat).put loc ++
      byte '-' :: ((StreamPiece.number 2 d.month.toNat).put loc ++
        byte '-' :: (StreamPiece.number 2 d.day.toNat).put loc) := by
  simp only [SqlValue.stream2string, SqlValue.insertions, Date.insertions, List.flatMap_cons,
    List.flatMap_nil, List.append_nil]
  rfl

theorem numbers_date (d : Date) :
    (SqlValue.date d).numbers = [d.year.toNat, d.month.toNat, d.day.toNat] := rfl

theorem year_of_convert {text rest : Bytes} {year : Int} {d : Date}
    (first : (readField 4).run text = .ok year rest)
    (returned : (convert.run text).outcome = .ok d) : d.year = .ofInt year := by
  rw [convert, run_bind_of_ok first] at returned
  have kept : Yields (fun d : Date => d.year = .ofInt year) (do
      skip (byte '-')
      let month ← readField 2
      skip (byte '-')
      let day ← readField 2
      pure { year := .ofInt year, month := .ofInt month, day := .ofInt day } :
      EStateM Failure Bytes Date) :=
    .bind fun _ => .bind fun _ => .bind fun _ => .bind fun _ => .pure rfl
  exact kept rest d returned

/-- The year is the longest number of a date. -/
theorem fits_of_convert {loc : Locale} (plain : isdigit loc.thousandsSep = false) {d : Date}
    (documented : d.Documented) {rest : Bytes}
    (returned : (convert.run ((SqlValue.date d).stream2string loc ++ rest)).outcome = .ok d) :
    loc.Fits d.year.toNat := by
  have thousand := UInt16.le_iff_toNat_le.mp documented.1
  simp only [UInt16.reduceToNat] at thousand
  have long : 4 ≤ (Decimal.digits d.year.toNat).length := by
    by_contra short
    have small := (Decimal.digits_length_le_iff (by decide : 0 < 3) d.year.toNat).mp (by omega)
    omega
  rw [stream2string_date, List.append_assoc] at returned
  obtain ⟨v, behind, ran, le, whole⟩ :=
    readField_cases plain (by decide : 0 < 4) (Or.inr long) _
  have year := congrArg UInt16.toNat (year_of_convert ran returned)
  have bound := d.year.toNat_lt
  rw [toNat_uint16_ofInt (by omega)] at year
  exact (whole year.symm).1

theorem roundTrip (loc : Locale) {d : Date} (documented : d.Documented) :
    ReadBackIf loc (∀ n ∈ (SqlValue.date d).numbers, loc.Fits n)
      (ofString ((SqlValue.date d).stream2string loc) = .ok d) where
  enough fits := by
    rw [(SqlValue.stream2string_eq_iff loc _).mpr fits, SqlValue.inQuery_date, ofString,
      convert_str_of_documented documented]
    rfl
  needed plain returned := by
    have year := fits_of_convert plain documented returned
    obtain ⟨low, _, _, month, _, day⟩ := documented
    have low := UInt16.le_iff_toNat_le.mp low
    have month := UInt8.le_iff_toNat_le.mp month
    have day := UInt8.le_iff_toNat_le.mp day
    simp only [UInt16.reduceToNat, UInt8.reduceToNat] at low month day
    rw [numbers_date]
    intro n member
    simp only [List.mem_cons, List.not_mem_nil, or_false] at member
    rcases member with rfl | rfl | rfl
    · exact year
    · exact year.mono (by omega)
    · exact year.mono (by omega)

/-- A separator that is a digit is read as one, which may come out right. -/
example :
    let ones : Locale := { thousandsSep := byte '1', grouping := [3] }
    (SqlValue.date ⟨1111, 1, 1⟩).stream2string ones = ascii "11111-01-01" ∧
      ofString ((SqlValue.date ⟨1111, 1, 1⟩).stream2string ones) = .ok ⟨1111, 1, 1⟩ := by
  decide +kernel

end Date

/-! ### Times -/

namespace Time

theorem stream2string_time (loc : Locale) (t : Time) :
    (SqlValue.time t).stream2string loc = (StreamPiece.number 2 t.hour.toNat).put loc ++
      byte ':' :: ((StreamPiece.number 2 t.minute.toNat).put loc ++
        byte ':' :: (StreamPiece.number 2 t.second.toNat).put loc) := by
  simp only [SqlValue.stream2string, SqlValue.insertions, Time.insertions, List.flatMap_cons,
    List.flatMap_nil, List.append_nil]
  rfl

theorem numbers_time (t : Time) :
    (SqlValue.time t).numbers = [t.hour.toNat, t.minute.toNat, t.second.toNat] := rfl

theorem eq_of_uint8 {n : UInt8} {v : Nat} (le : v ≤ n.toNat) (same : n = .ofInt (v : Int)) :
    v = n.toNat := by
  have bound := n.toNat_lt
  have values := congrArg UInt8.toNat same
  rw [toNat_uint8_ofInt (by omega)] at values
  exact values.symm

/-- Field by field, as they are read. -/
theorem fits_of_convert {loc : Locale} (plain : isdigit loc.thousandsSep = false) {t : Time}
    {rest : Bytes}
    (returned : (convert.run ((SqlValue.time t).stream2string loc ++ rest)).outcome = .ok t) :
    (loc.Fits t.hour.toNat ∧ t.hour.toNat < 10 ^ 2) ∧ loc.Fits t.minute.toNat ∧
      loc.Fits t.second.toNat := by
  have two : 0 < 2 := by decide
  rw [stream2string_time, List.append_assoc] at returned
  obtain ⟨hour, behind, ranHour, leHour, wholeHour⟩ :=
    readField_cases plain two (enough_of_two t.hour.toNat) _
  obtain ⟨fitsHour, small, rfl⟩ :=
    wholeHour (eq_of_uint8 leHour (hour_of_convert ranHour returned))
  rw [convert, run_bind_of_ok ranHour, List.cons_append, run_bind_of_ok (skip_separator _ _),
    List.append_assoc] at returned
  obtain ⟨minute, behind, ranMinute, leMinute, wholeMinute⟩ :=
    readField_cases plain two (enough_of_two t.minute.toNat) _
  rw [run_bind_of_ok ranMinute] at returned
  have keptMinute : Yields (fun t : Time => t.minute = .ofInt minute) (do
      skip (byte ':')
      let second ← readField 2
      pure { hour := .ofInt hour, minute := .ofInt minute, second := .ofInt second } :
      EStateM Failure Bytes Time) :=
    .bind fun _ => .bind fun _ => .pure rfl
  obtain ⟨fitsMinute, _, rfl⟩ := wholeMinute (eq_of_uint8 leMinute (keptMinute _ _ returned))
  rw [List.cons_append, run_bind_of_ok (skip_separator _ _)] at returned
  obtain ⟨second, behind, ranSecond, leSecond, wholeSecond⟩ :=
    readField_cases plain two (enough_of_two t.second.toNat) rest
  rw [run_bind_of_ok ranSecond] at returned
  have keptSecond : Yields (fun t : Time => t.second = .ofInt second)
      (pure { hour := .ofInt hour, minute := .ofInt minute, second := .ofInt second } :
        EStateM Failure Bytes Time) := .pure rfl
  obtain ⟨fitsSecond, _, _⟩ := wholeSecond (eq_of_uint8 leSecond (keptSecond _ _ returned))
  exact ⟨⟨fitsHour, small⟩, fitsMinute, fitsSecond⟩

theorem roundTrip (loc : Locale) {t : Time} (documented : t.Documented) :
    ReadBackIf loc (t.hour ≤ 99 ∧ ∀ n ∈ (SqlValue.time t).numbers, loc.Fits n)
      (ofString ((SqlValue.time t).stream2string loc) = .ok t) where
  enough given := by
    obtain ⟨hour, fits⟩ := given
    rw [(SqlValue.stream2string_eq_iff loc _).mpr fits, SqlValue.inQuery_time, ofString,
      convert_str_of_documented documented hour]
    rfl
  needed plain returned := by
    obtain ⟨⟨hour, small⟩, minute, second⟩ := fits_of_convert plain returned
    constructor
    · rw [UInt8.le_iff_toNat_le]
      simp only [UInt8.reduceToNat]
      omega
    · rw [numbers_time]
      intro n member
      simp only [List.mem_cons, List.not_mem_nil, or_false] at member
      rcases member with rfl | rfl | rfl
      · exact hour
      · exact minute
      · exact second

end Time

/-! ### Both -/

namespace DateTime

theorem stream2string_dateTime {loc : Locale} {dt : DateTime} (given : dt.now = false) :
    (SqlValue.dateTime dt).stream2string loc = (SqlValue.date dt.toDate).stream2string loc ++
      byte ' ' :: (SqlValue.time dt.toTime).stream2string loc := by
  simp only [SqlValue.stream2string, SqlValue.insertions, DateTime.insertions, given,
    Bool.false_eq_true, if_false, List.flatMap_append, List.flatMap_cons]
  rfl

theorem numbers_dateTime {dt : DateTime} (given : dt.now = false) :
    (SqlValue.dateTime dt).numbers =
      (SqlValue.date dt.toDate).numbers ++ (SqlValue.time dt.toTime).numbers := by
  simp only [SqlValue.numbers, SqlValue.insertions, DateTime.insertions, given,
    Bool.false_eq_true, if_false, List.filterMap_append, List.filterMap_cons]

theorem date_of_convert {text : Bytes} {dt : DateTime}
    (returned : (convert.run text).outcome = .ok dt) :
    (Date.convert.run text).outcome = .ok dt.toDate := by
  rw [convert] at returned
  cases ran : Date.convert.run text with
  | ok d rest =>
      rw [run_bind_of_ok ran] at returned
      have kept : Yields (fun dt : DateTime => dt.toDate = d) (do
          skip (byte ' ')
          let t ← Time.convert
          pure (.ofFields d.year d.month d.day t.hour t.minute t.second) :
          EStateM Failure Bytes DateTime) :=
        .bind fun _ => .bind fun _ => .pure rfl
      rw [kept rest dt returned]
      rfl
  | error failure rest =>
      rw [run_bind_of_error ran] at returned
      cases returned

/-- Beside the year of a documented value every other number is small. -/
theorem small_of_documented {dt : DateTime} (date : dt.toDate.Documented) (hour : dt.hour ≤ 23)
    (time : dt.toTime.Documented) :
    1000 ≤ dt.toDate.year.toNat ∧ dt.toDate.month.toNat ≤ 12 ∧ dt.toDate.day.toNat ≤ 31 ∧
      dt.toTime.hour.toNat ≤ 23 ∧ dt.toTime.minute.toNat ≤ 59 ∧ dt.toTime.second.toNat ≤ 59 := by
  obtain ⟨year, _, _, month, _, day⟩ := date
  exact ⟨UInt16.le_iff_toNat_le.mp year, UInt8.le_iff_toNat_le.mp month,
    UInt8.le_iff_toNat_le.mp day, UInt8.le_iff_toNat_le.mp hour,
    UInt8.le_iff_toNat_le.mp time.1, UInt8.le_iff_toNat_le.mp time.2⟩

theorem roundTrip (loc : Locale) {dt : DateTime} (given : dt.now = false)
    (documented : dt.Documented) :
    ReadBackIf loc (∀ n ∈ (SqlValue.dateTime dt).numbers, loc.Fits n)
      (ofString ((SqlValue.dateTime dt).stream2string loc) = .ok dt) where
  enough fits := by
    rw [(SqlValue.stream2string_eq_iff loc _).mpr fits, SqlValue.inQuery_dateTime, ofString,
      convert_str given documented]
    rfl
  needed plain returned := by
    obtain ⟨date, hour, time⟩ := documented
    rw [ofString, stream2string_dateTime given, List.append_assoc] at returned
    have year := Date.fits_of_convert plain date (date_of_convert returned)
    have small := small_of_documented date hour time
    rw [numbers_dateTime given, Date.numbers_date, Time.numbers_time]
    intro n member
    simp only [List.cons_append, List.nil_append, List.mem_cons, List.not_mem_nil,
      or_false] at member
    rcases member with rfl | rfl | rfl | rfl | rfl | rfl
    · exact year
    all_goals
      apply year.mono
      omega

end DateTime

/-- Where the text that a stream of some locale has of a date, a time or both, which is `str()`
if that is the global locale, is read back. -/
theorem text_round_trip_iff (loc : Locale) (d : Date) (t : Time) (dt : DateTime) :
    (d.Documented → ReadBackIf loc (∀ n ∈ (SqlValue.date d).numbers, loc.Fits n)
      (Date.ofString ((SqlValue.date d).stream2string loc) = .ok d)) ∧
    (t.Documented → ReadBackIf loc
      (t.hour ≤ 99 ∧ ∀ n ∈ (SqlValue.time t).numbers, loc.Fits n)
      (Time.ofString ((SqlValue.time t).stream2string loc) = .ok t)) ∧
    (dt.now = false → dt.Documented → ReadBackIf loc
      (∀ n ∈ (SqlValue.dateTime dt).numbers, loc.Fits n)
      (DateTime.ofString ((SqlValue.dateTime dt).stream2string loc) = .ok dt)) :=
  ⟨Date.roundTrip loc, Time.roundTrip loc, DateTime.roundTrip loc⟩

/-- A time of a hundred hours is read back as one of ten hours, and a year whose thousands are
set apart as their number. -/
theorem text_round_trip_fails :
    let german : Locale := { thousandsSep := byte '.', grouping := [3, 3] }
    (¬ ∀ t : Time, t.Documented →
      Time.ofString ((SqlValue.time t).stream2string .classic) = .ok t) ∧
    ¬ ∀ d : Date, d.Documented →
      Date.ofString ((SqlValue.date d).stream2string german) = .ok d := by
  intro german
  constructor
  · intro claim
    have parsed := claim ⟨100, 0, 0⟩ ⟨by decide, by decide⟩
    have read : Time.ofString ((SqlValue.time ⟨100, 0, 0⟩).stream2string .classic) =
        .ok ⟨10, 0, 0⟩ := by decide +kernel
    rw [read] at parsed
    cases parsed
  · intro claim
    have parsed := claim ⟨2024, 1, 2⟩ (by unfold Date.Documented; decide)
    have read : Date.ofString ((SqlValue.date ⟨2024, 1, 2⟩).stream2string german) =
        .ok ⟨2, 4, 1⟩ := by decide +kernel
    rw [read] at parsed
    cases parsed

end LibTabula
