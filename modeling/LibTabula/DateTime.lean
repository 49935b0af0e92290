/-
Dates and times, and their text.

`operator <<` pads every field to a width, and never cuts one off. The texts here are
those of the classic locale, which does not group digits. `convert()`
reads a fixed number of characters for every field and passes over one separator
behind it where there is one. A pointer into a C string is the list of the
characters from there on, the closing NUL included; what is read behind that is
out of bounds.
-/

import LibTabula.Digits
import LibTabula.Foundation.Effect

set_option autoImplicit false

namespace LibTabula

open Foundation

structure Date where
  year : UInt16
  month : UInt8
  day : UInt8
deriving DecidableEq, Repr

structure Time where
  hour : UInt8
  minute : UInt8
  second : UInt8
deriving DecidableEq, Repr

structure DateTime where
  year : UInt16
  month : UInt8
  day : UInt8
  hour : UInt8
  minute : UInt8
  second : UInt8
  now : Bool
  /-- Only the default constructor makes a value mean the current time; whatever
  sets a field takes that back. -/
  unset : now = true →
    year = 0 ∧ month = 0 ∧ day = 0 ∧ hour = 0 ∧ minute = 0 ∧ second = 0
deriving DecidableEq, Repr

namespace DateTime

def default : DateTime :=
  { year := 0, month := 0, day := 0, hour := 0, minute := 0, second := 0
    now := true
    unset := fun _ => ⟨rfl, rfl, rfl, rfl, rfl, rfl⟩ }

def ofFields (y : UInt16) (mon d h min s : UInt8) : DateTime :=
  { year := y, month := mon, day := d, hour := h, minute := min, second := s
    now := false
    unset := nofun }

def toDate (other : DateTime) : Date := ⟨other.year, other.month, other.day⟩

def toTime (other : DateTime) : Time := ⟨other.hour, other.minute, other.second⟩

theorem ofFields_of_not_now (dt : DateTime) (given : dt.now = false) :
    ofFields dt.year dt.month dt.day dt.hour dt.minute dt.second = dt := by
  cases dt with
  | mk year month day hour minute second now unset =>
      simp only at given
      subst given
      rfl

end DateTime

/-! ### Comparing -/

def Date.compare (self other : Date) : Int :=
  if self.year ≠ other.year then self.year.toNat - other.year.toNat
  else if self.month ≠ other.month then self.month.toNat - other.month.toNat
  else self.day.toNat - other.day.toNat

def Time.compare (self other : Time) : Int :=
  if self.hour ≠ other.hour then self.hour.toNat - other.hour.toNat
  else if self.minute ≠ other.minute then self.minute.toNat - other.minute.toNat
  else self.second.toNat - other.second.toNat

def DateTime.compare (self other : DateTime) : Int :=
  if self.now && other.now then 0
  else if self.toDate.compare other.toDate ≠ 0 then self.toDate.compare other.toDate
  else self.toTime.compare other.toTime

/-! ### Writing -/

/-- `os << setw(width) << n` with the fill character `'0'`. -/
def setw (width n : Nat) : Bytes := (Decimal.padded width n).map digitChar

/-- `operator <<` on a stream with the classic locale, which is also `str()` while that is
the global one. -/
def Date.str (d : Date) : Bytes :=
  setw 4 d.year.toNat ++ byte '-' :: (setw 2 d.month.toNat ++ byte '-' :: setw 2 d.day.toNat)

def Time.str (t : Time) : Bytes :=
  setw 2 t.hour.toNat ++ byte ':' :: (setw 2 t.minute.toNat ++ byte ':' :: setw 2 t.second.toNat)

def DateTime.str (dt : DateTime) : Bytes :=
  if dt.now then ascii "NOW()" else dt.toDate.str ++ byte ' ' :: dt.toTime.str

/-! ### Reading -/

/-- `num[0] = *str++; num[1] = *str++;` and so on. -/
def readChars : Nat → EStateM Failure Bytes Bytes
  | 0 => pure []
  | count + 1 => do
      match ← get with
      | [] => throw .outOfBounds
      | c :: rest =>
          set rest
          let num ← readChars count
          pure (c :: num)

def readField (width : Nat) : EStateM Failure Bytes Int := do
  let num ← readChars width
  pure (strtol num)

/-- `if (*str == separator) str++;` -/
def skip (separator : UInt8) : EStateM Failure Bytes Unit := do
  match ← get with
  | [] => throw .outOfBounds
  | c :: rest => if c = separator then set rest else pure ()

def Date.convert : EStateM Failure Bytes Date := do
  let year ← readField 4
  skip (byte '-')
  let month ← readField 2
  skip (byte '-')
  let day ← readField 2
  pure { year := .ofInt year, month := .ofInt month, day := .ofInt day }

def Time.convert : EStateM Failure Bytes Time := do
  let hour ← readField 2
  skip (byte ':')
  let minute ← readField 2
  skip (byte ':')
  let second ← readField 2
  pure { hour := .ofInt hour, minute := .ofInt minute, second := .ofInt second }

def DateTime.convert : EStateM Failure Bytes DateTime := do
  let d ← Date.convert
  skip (byte ' ')
  let t ← Time.convert
  pure (.ofFields d.year d.month d.day t.hour t.minute t.second)

/-- The constructor from a string. -/
def Date.ofString (str : Bytes) : Except Failure Date := (convert.run (str ++ [0])).outcome

def Time.ofString (str : Bytes) : Except Failure Time := (convert.run (str ++ [0])).outcome

def DateTime.ofString (str : Bytes) : Except Failure DateTime :=
  (convert.run (str ++ [0])).outcome

/-! ### Reading one field -/

theorem readChars_append (read rest : Bytes) :
    (readChars read.length).run (read ++ rest) = .ok read rest := by
  induction read with
  | nil => rfl
  | cons c read ih =>
      rw [List.length_cons, readChars, run_bind_of_ok (EStateM.run_get _)]
      change ((set (read ++ rest) >>= fun _ => _ : EStateM Failure Bytes Bytes).run _) = _
      rw [run_bind_of_ok (EStateM.run_set _ _), run_bind_of_ok ih, EStateM.run_pure]

theorem readField_digits (read : List Nat) (small : ∀ digit ∈ read, digit < 10) (rest : Bytes) :
    (readField read.length).run (read.map digitChar ++ rest) =
      .ok (Decimal.value read : Int) rest := by
  have chars := readChars_append (read.map digitChar) rest
  rw [List.length_map] at chars
  rw [readField, run_bind_of_ok chars, strtol_digits read small]
  rfl

/-- A field that fits its width is read back. -/
theorem readField_setw {width n : Nat} (positive : 0 < width) (fits : n < 10 ^ width)
    (rest : Bytes) :
    (readField width).run (setw width n ++ rest) = .ok (n : Int) rest := by
  have all := readField_digits (Decimal.padded width n)
    (fun _ => Decimal.padded_digit_lt_ten) rest
  rw [Decimal.padded_length positive fits, Decimal.value_padded] at all
  exact all

/-- Of a field that takes one digit more than its width, the last digit is left
for the next field. -/
theorem readField_setw_overflow {width n : Nat} (positive : 0 < width) (long : 10 ^ width ≤ n)
    (bound : n < 10 ^ (width + 1)) (rest : Bytes) :
    (readField width).run (setw width n ++ rest) =
      .ok ((n / 10 : Nat) : Int) (digitChar (n % 10) :: rest) := by
  have fits : n / 10 < 10 ^ width := by
    rw [Nat.pow_succ] at bound
    omega
  have front := readField_setw positive fits (digitChar (n % 10) :: rest)
  have split : setw width n ++ rest = setw width (n / 10) ++ digitChar (n % 10) :: rest := by
    rw [setw, Decimal.padded_overflow positive long, List.map_append, List.append_assoc]
    rfl
  rw [split]
  exact front

theorem skip_separator (separator : UInt8) (rest : Bytes) :
    (skip separator).run (separator :: rest) = .ok () rest := by
  rw [skip, run_bind_of_ok (EStateM.run_get _)]
  change (if separator = separator then set rest else pure () :
    EStateM Failure Bytes Unit).run _ = _
  rw [if_pos rfl, EStateM.run_set]

/-! ### Reading what was written -/

theorem toNat_uint8_ofInt {n : Nat} (bound : n < 2 ^ 8) : (UInt8.ofInt (n : Int)).toNat = n := by
  have same : ((n : Int) % 2 ^ 8).toNat = n := by omega
  rw [UInt8.ofInt, same, UInt8.toNat_ofNat_of_lt' bound]

theorem uint8_ofInt_toNat (n : UInt8) : UInt8.ofInt (n.toNat : Int) = n :=
  UInt8.toNat_inj.mp (toNat_uint8_ofInt n.toNat_lt)

theorem toNat_uint16_ofInt {n : Nat} (bound : n < 2 ^ 16) :
    (UInt16.ofInt (n : Int)).toNat = n := by
  have same : ((n : Int) % 2 ^ 16).toNat = n := by omega
  rw [UInt16.ofInt, same, UInt16.toNat_ofNat_of_lt' bound]

theorem uint16_ofInt_toNat (n : UInt16) : UInt16.ofInt (n.toNat : Int) = n :=
  UInt16.toNat_inj.mp (toNat_uint16_ofInt n.toNat_lt)

namespace Date

/-- The ranges the constructor documents. -/
def Documented (d : Date) : Prop :=
  1000 ≤ d.year ∧ d.year ≤ 9999 ∧ 1 ≤ d.month ∧ d.month ≤ 12 ∧ 1 ≤ d.day ∧ d.day ≤ 31

theorem convert_str {d : Date} (year : d.year.toNat < 10 ^ 4) (month : d.month.toNat < 10 ^ 2)
    (day : d.day.toNat < 10 ^ 2) (rest : Bytes) :
    convert.run (d.str ++ rest) = .ok d rest := by
  simp only [str, List.append_assoc, List.cons_append, convert]
  rw [run_bind_of_ok (readField_setw (by decide) year _),
    run_bind_of_ok (skip_separator _ _),
    run_bind_of_ok (readField_setw (by decide) month _),
    run_bind_of_ok (skip_separator _ _),
    run_bind_of_ok (readField_setw (by decide) day _),
    uint16_ofInt_toNat, uint8_ofInt_toNat, uint8_ofInt_toNat]
  rfl

theorem fits_of_documented {d : Date} (documented : d.Documented) :
    d.year.toNat < 10 ^ 4 ∧ d.month.toNat < 10 ^ 2 ∧ d.day.toNat < 10 ^ 2 := by
  obtain ⟨_, year, _, month, _, day⟩ := documented
  have year := UInt16.le_iff_toNat_le.mp year
  have month := UInt8.le_iff_toNat_le.mp month
  have day := UInt8.le_iff_toNat_le.mp day
  simp only [UInt16.reduceToNat, UInt8.reduceToNat] at year month day
  omega

theorem convert_str_of_documented {d : Date} (documented : d.Documented) (rest : Bytes) :
    convert.run (d.str ++ rest) = .ok d rest := by
  obtain ⟨year, month, day⟩ := fits_of_documented documented
  exact convert_str year month day rest

end Date

namespace Time

/-- The ranges the constructor documents, 0 to 255 for the hour. -/
def Documented (t : Time) : Prop := t.minute ≤ 59 ∧ t.second ≤ 59

theorem convert_str {t : Time} (hour : t.hour.toNat < 10 ^ 2) (minute : t.minute.toNat < 10 ^ 2)
    (second : t.second.toNat < 10 ^ 2) (rest : Bytes) :
    convert.run (t.str ++ rest) = .ok t rest := by
  simp only [str, List.append_assoc, List.cons_append, convert]
  rw [run_bind_of_ok (readField_setw (by decide) hour _),
    run_bind_of_ok (skip_separator _ _),
    run_bind_of_ok (readField_setw (by decide) minute _),
    run_bind_of_ok (skip_separator _ _),
    run_bind_of_ok (readField_setw (by decide) second _),
    uint8_ofInt_toNat, uint8_ofInt_toNat, uint8_ofInt_toNat]
  rfl

theorem fits_of_documented {t : Time} (documented : t.Documented) (hour : t.hour ≤ 99) :
    t.hour.toNat < 10 ^ 2 ∧ t.minute.toNat < 10 ^ 2 ∧ t.second.toNat < 10 ^ 2 := by
  obtain ⟨minute, second⟩ := documented
  have hour := UInt8.le_iff_toNat_le.mp hour
  have minute := UInt8.le_iff_toNat_le.mp minute
  have second := UInt8.le_iff_toNat_le.mp second
  simp only [UInt8.reduceToNat] at hour minute second
  omega

theorem convert_str_of_documented {t : Time} (documented : t.Documented) (hour : t.hour ≤ 99)
    (rest : Bytes) : convert.run (t.str ++ rest) = .ok t rest := by
  obtain ⟨hour, minute, second⟩ := fits_of_documented documented hour
  exact convert_str hour minute second rest

/-- The hour of a time that was read is what the first field held. -/
theorem hour_of_convert {text rest : Bytes} {hour : Int} {t : Time}
    (first : (readField 2).run text = .ok hour rest)
    (returned : (convert.run text).outcome = .ok t) : t.hour = .ofInt hour := by
  rw [convert, run_bind_of_ok first] at returned
  have kept : Yields (fun t : Time => t.hour = .ofInt hour) (do
      skip (byte ':')
      let minute ← readField 2
      skip (byte ':')
      let second ← readField 2
      pure { hour := .ofInt hour, minute := .ofInt minute, second := .ofInt second } :
      EStateM Failure Bytes Time) :=
    .bind fun _ => .bind fun _ => .bind fun _ => .bind fun _ => .pure rfl
  exact kept rest t returned

/-- Of an hour of three digits the last one is taken for the minute. -/
theorem ofString_str_of_hour_ge {t : Time} (long : 100 ≤ t.hour.toNat) :
    ofString t.str ≠ .ok t := by
  intro returned
  have bound := t.hour.toNat_lt
  have first := readField_setw_overflow (by decide : 0 < 2) long (by omega)
    (byte ':' :: (setw 2 t.minute.toNat ++ byte ':' :: (setw 2 t.second.toNat ++ [0])))
  simp only [ofString, str, List.append_assoc, List.cons_append] at returned
  have kept := congrArg UInt8.toNat (hour_of_convert first returned)
  rw [toNat_uint8_ofInt (by omega)] at kept
  omega

theorem ofString_str_iff {t : Time} (documented : t.Documented) :
    ofString t.str = .ok t ↔ t.hour ≤ 99 := by
  constructor
  · intro returned
    by_contra long
    rw [UInt8.le_iff_toNat_le] at long
    have hundred : 100 ≤ t.hour.toNat := Nat.lt_of_not_le long
    exact ofString_str_of_hour_ge hundred returned
  · intro hour
    rw [ofString, convert_str_of_documented documented hour]
    rfl

end Time

namespace DateTime

/-- The ranges the constructor documents. -/
def Documented (dt : DateTime) : Prop :=
  dt.toDate.Documented ∧ dt.hour ≤ 23 ∧ dt.toTime.Documented

theorem convert_str {dt : DateTime} (given : dt.now = false) (documented : dt.Documented)
    (rest : Bytes) : convert.run (dt.str ++ rest) = .ok dt rest := by
  obtain ⟨date, hour, time⟩ := documented
  have hour : dt.toTime.hour ≤ 99 := UInt8.le_trans hour (by decide)
  rw [str, given, if_neg (by decide), convert, List.append_assoc, List.cons_append,
    run_bind_of_ok (Date.convert_str_of_documented date _),
    run_bind_of_ok (skip_separator _ _),
    run_bind_of_ok (Time.convert_str_of_documented time hour _)]
  exact congrArg (fun value => EStateM.Result.ok value rest) (ofFields_of_not_now dt given)

end DateTime

end LibTabula
