/-
What `convert()` reads of a C string.

The three parsers take fixed numbers of characters and test for nothing but the
separators. `String` hands its text to them as it is, as soon as it has a buffer.
-/

import LibTabula.DateTime
import LibTabula.Foundation.FixedFields
import LibTabula.StringCompare
import LibTabula.TypeAdapter

set_option autoImplicit false

namespace LibTabula

open Foundation Foundation.FixedFields

/-- A C string: its characters, and the NUL that ends it in memory. -/
structure CString where
  chars : Bytes
  noNul : 0 ∉ chars

def CString.memory (self : CString) : Bytes := self.chars ++ [0]

/-- The C string at the beginning of some data, behind which a NUL is put. -/
def CString.ofData (data : Bytes) : CString :=
  { chars := beforeNul data, noNul := Terminated.not_mem_upTo data }

/-- What comes of a conversion of a `String`: the value of the default constructor, a read
through a null pointer, or what `convert()` makes of the C string. -/
inductive Conv (α : Type)
  | initial (value : α)
  | nullRead
  | converted (result : EStateM.Result Failure Bytes α)

namespace StringObject

variable {α : Type}

/-- `buffer_ ? T(c_str()) : T()`. -/
def conv (self : StringObject) (initial : α) (convert : EStateM Failure Bytes α) : Conv α :=
  match self.buffer with
  | none => .initial initial
  | some buffer =>
      match buffer.data with
      | none => .nullRead
      | some data => .converted (convert.run (CString.ofData data).memory)

def convDate (self : StringObject) : Conv Date := self.conv ⟨0, 0, 0⟩ Date.convert

def convTime (self : StringObject) : Conv Time := self.conv ⟨0, 0, 0⟩ Time.convert

def convDateTime (self : StringObject) : Conv DateTime :=
  self.conv DateTime.default DateTime.convert

end StringObject

/-! ### What is expected -/

inductive Temporal
  | date | time | dateTime
deriving DecidableEq, Repr

/-- No character behind the NUL was read and the pointer that is returned is not
behind it. -/
def Conv.Inside {α : Type} : Conv α → Prop
  | .initial _ => True
  | .nullRead => False
  | .converted result => FixedFields.Inside result

namespace Temporal

def ConvertInside (self : Temporal) (str : CString) : Prop :=
  match self with
  | .date => Inside (Date.convert.run str.memory)
  | .time => Inside (Time.convert.run str.memory)
  | .dateTime => Inside (DateTime.convert.run str.memory)

def ConvInside (self : Temporal) (field : StringObject) : Prop :=
  match self with
  | .date => field.convDate.Inside
  | .time => field.convTime.Inside
  | .dateTime => field.convDateTime.Inside

/-- Three fields with a separator between them, or none. -/
def fields (first : Nat) (separator : UInt8) : List (Piece UInt8) :=
  [.field first, .separator separator, .field 2, .separator separator, .field 2]

def layout : Temporal → List (Piece UInt8)
  | .date => fields 4 (byte '-')
  | .time => fields 2 (byte ':')
  | .dateTime => fields 4 (byte '-') ++ .separator (byte ' ') :: fields 2 (byte ':')

/-- The text is as long as its fields and the separators that stand in it. -/
def Fits (self : Temporal) (text : Bytes) : Prop := (behind self.layout text).isSome = true

end Temporal

/-! ### The parsers -/

theorem readChars_succ (count : Nat) (c : UInt8) (rest : Bytes) :
    (readChars (count + 1)).run (c :: rest) =
      (readChars count >>= fun num => pure (c :: num)).run rest :=
  rfl

/-- A pointer behind the NUL does not come back inside. -/
theorem readChars_beyond (count : Nat) : ¬ Inside ((readChars count).run []) := by
  intro found
  obtain ⟨num, rest, returned, notEmpty⟩ := found
  cases count with
  | zero =>
      cases returned
      exact notEmpty rfl
  | succ count => cases returned

theorem readChars_succ_outside {count : Nat} {rest : Bytes} (c : UInt8)
    (outside : ¬ Inside ((readChars count).run rest)) :
    ¬ Inside ((readChars (count + 1)).run (c :: rest)) := by
  have returns (num : Bytes) : ReadsBy 0 [] (pure (c :: num) : EStateM Failure Bytes Bytes) :=
    .pure (c :: num)
  rw [readChars_succ]
  exact ReadsBy.not_inside_bind (fun num => (returns num).beyond) outside

theorem readChars_short {text : Bytes} {count : Nat} (short : text.length < count) :
    ¬ Inside ((readChars count).run (text ++ [0])) := by
  induction text generalizing count with
  | nil =>
      cases count with
      | zero => cases short
      | succ count => exact readChars_succ_outside 0 (readChars_beyond count)
  | cons c text ih =>
      cases count with
      | zero => cases short
      | succ count => exact readChars_succ_outside c (ih (Nat.lt_of_succ_lt_succ short))

theorem reads_chars (count : Nat) : ReadsBy 0 [.field count] (readChars count) where
  fits text rest _ left := by
    rw [behind] at left
    by_cases enough : count ≤ text.length
    · rw [if_pos enough, behind, Option.some_inj] at left
      subst left
      have chars := readChars_append (text.take count) (text.drop count ++ [0])
      rw [List.length_take_of_le enough, ← List.append_assoc, List.take_append_drop] at chars
      exact ⟨_, chars⟩
    · rw [if_neg enough] at left
      cases left
  short text _ short := by
    rw [behind] at short
    by_cases enough : count ≤ text.length
    · rw [if_pos enough] at short
      cases short
    · exact readChars_short (Nat.lt_of_not_le enough)
  beyond := readChars_beyond count

theorem reads_field (width : Nat) : ReadsBy 0 [.field width] (readField width) :=
  (reads_chars width).bind fun num => .pure (strtol num)

theorem skip_other {separator c : UInt8} (other : c ≠ separator) (rest : Bytes) :
    (skip separator).run (c :: rest) = .ok () (c :: rest) := by
  rw [skip, run_bind_of_ok (EStateM.run_get _)]
  change (if c = separator then set rest else pure () : EStateM Failure Bytes Unit).run _ = _
  rw [if_neg other, EStateM.run_pure]

theorem reads_separator (separator : UInt8) (notNul : separator ≠ 0) :
    ReadsBy 0 [.separator separator] (skip separator) where
  fits text rest _ left := by
    rw [behind, behind, Option.some_inj] at left
    subst left
    cases text with
    | nil => exact ⟨(), skip_other notNul.symm []⟩
    | cons c text =>
        by_cases same : c = separator
        · subst same
          rw [List.head?_cons, if_pos rfl, List.cons_append]
          exact ⟨(), skip_separator c (text ++ [0])⟩
        · have differs : ¬ some c = some separator := fun head => same (Option.some.inj head)
          rw [List.head?_cons, if_neg differs, List.cons_append]
          exact ⟨(), skip_other same (text ++ [0])⟩
  short text _ short := by
    rw [behind, behind] at short
    cases short
  beyond := by
    intro found
    obtain ⟨value, rest, returned, _⟩ := found
    cases returned

theorem reads_fields {α : Type} (first : Nat) (separator : UInt8) (notNul : separator ≠ 0)
    (make : Int → Int → Int → α) :
    ReadsBy 0 (Temporal.fields first separator) (do
      let one ← readField first
      skip separator
      let two ← readField 2
      skip separator
      let three ← readField 2
      pure (make one two three) : EStateM Failure Bytes α) :=
  (reads_field first).bind fun one => (reads_separator separator notNul).bind fun _ =>
    (reads_field 2).bind fun two => (reads_separator separator notNul).bind fun _ =>
      (reads_field 2).bind fun three => .pure (make one two three)

theorem Date.reads_convert : ReadsBy 0 Temporal.date.layout Date.convert :=
  reads_fields 4 (byte '-') (by decide) fun year month day =>
    Date.mk (.ofInt year) (.ofInt month) (.ofInt day)

theorem Time.reads_convert : ReadsBy 0 Temporal.time.layout Time.convert :=
  reads_fields 2 (byte ':') (by decide) fun hour minute second =>
    Time.mk (.ofInt hour) (.ofInt minute) (.ofInt second)

/-- The second parser goes on where the first one has stopped. -/
theorem DateTime.reads_convert : ReadsBy 0 Temporal.dateTime.layout DateTime.convert := by
  have reads := Date.reads_convert.bind fun d =>
    (reads_separator (byte ' ') (by decide)).bind fun _ =>
      Time.reads_convert.bind fun t =>
        .pure (DateTime.ofFields d.year d.month d.day t.hour t.minute t.second)
  rw [List.append_nil] at reads
  exact reads

theorem length_setw {width n : Nat} (positive : 0 < width) (fits : n < 10 ^ width) :
    (setw width n).length = width := by
  rw [setw, List.length_map, Decimal.padded_length positive fits]

theorem Date.length_str {d : Date} (year : d.year.toNat < 10 ^ 4)
    (month : d.month.toNat < 10 ^ 2) (day : d.day.toNat < 10 ^ 2) : d.str.length = 10 := by
  simp only [Date.str, List.length_append, List.length_cons]
  rw [length_setw (by decide) year, length_setw (by decide) month, length_setw (by decide) day]

/-! ### Where they stay inside -/

namespace Temporal

theorem convertInside_iff (self : Temporal) (str : CString) :
    self.ConvertInside str ↔ self.Fits str.chars := by
  cases self with
  | date => exact Date.reads_convert.stays_inside_iff str.noNul
  | time => exact Time.reads_convert.stays_inside_iff str.noNul
  | dateTime => exact DateTime.reads_convert.stays_inside_iff str.noNul

end Temporal

theorem StringObject.conv_inside_iff {α : Type} (self : StringObject) (initial : α)
    {pieces : List (Piece UInt8)} {convert : EStateM Failure Bytes α}
    (reads : ReadsBy 0 pieces convert) :
    (self.conv initial convert).Inside ↔ self.buffer = none ∨
      ∃ data, self.buffer = some { data := some data } ∧
        (behind pieces (beforeNul data)).isSome = true := by
  rcases self.cases_ with unset | noData | ⟨data, rfl⟩
  · rw [conv, unset]
    exact iff_of_true trivial (Or.inl rfl)
  · rw [conv, noData]
    refine iff_of_false id ?_
    rintro (none | ⟨data, given, _⟩)
    · cases none
    · cases given
  · refine (reads.stays_inside_iff (CString.ofData data).noNul).trans ?_
    constructor
    · exact fun fits => Or.inr ⟨data, rfl, fits⟩
    · rintro (none | ⟨other, given, fits⟩)
      · cases none
      · cases given
        exact fits

namespace Temporal

theorem convInside_iff (self : Temporal) (field : StringObject) :
    self.ConvInside field ↔ field.buffer = none ∨
      ∃ data, field.buffer = some { data := some data } ∧ self.Fits (beforeNul data) := by
  cases self with
  | date => exact field.conv_inside_iff _ Date.reads_convert
  | time => exact field.conv_inside_iff _ Time.reads_convert
  | dateTime => exact field.conv_inside_iff _ DateTime.reads_convert

/-- The parsers on every C string, and the conversions of every `String`. -/
theorem inside_iff (self : Temporal) (str : CString) (field : StringObject) :
    (self.ConvertInside str ↔ self.Fits str.chars) ∧
      (self.ConvInside field ↔ field.buffer = none ∨
        ∃ data, field.buffer = some { data := some data } ∧ self.Fits (beforeNul data)) :=
  ⟨self.convertInside_iff str, self.convInside_iff field⟩

/-- The text of a null. The month begins at the NUL, and is read past it. -/
theorem null_text_overruns :
    (StringObject.ofBytes nullStr).convDate = .converted (.error .outOfBounds []) ∧
      ¬ date.ConvInside (.ofBytes nullStr) ∧
      ¬ date.ConvertInside { chars := [], noNul := List.not_mem_nil } := by
  have read : (StringObject.ofBytes nullStr).convDate = .converted (.error .outOfBounds []) := rfl
  refine ⟨read, ?_, ?_⟩
  · rw [ConvInside, read]
    intro found
    obtain ⟨value, rest, returned, _⟩ := found
    cases returned
  · intro found
    obtain ⟨value, rest, returned, _⟩ := found
    cases returned

theorem not_fits_of_short {self : Temporal} {text : Bytes}
    (short : text.length < width self.layout) : ¬ self.Fits text := by
  intro fits
  obtain ⟨rest, left⟩ := Option.isSome_iff_exists.mp fits
  have enough := width_le_of_behind left
  omega

/-- Eight characters, six and fourteen are the least that the parsers take. -/
theorem short_overruns {self : Temporal} {str : CString}
    (short : str.chars.length < width self.layout) : ¬ self.ConvertInside str := by
  rw [convertInside_iff]
  exact not_fits_of_short short

/-- A field with a date only, converted to a date and time. -/
theorem dateOnly_overruns {d : Date} (documented : d.Documented) :
    ¬ dateTime.ConvInside (.ofBytes d.str) := by
  rw [convInside_iff]
  rintro (none | ⟨data, given, fits⟩)
  · cases none
  · obtain ⟨year, month, day⟩ := Date.fits_of_documented documented
    have same : data = d.str := by
      cases given
      rfl
    have cut := (Terminated.upTo_prefix 0 data).length_le
    rw [same, Date.length_str year month day] at cut
    rw [same] at fits
    exact not_fits_of_short (Nat.lt_of_le_of_lt cut (by decide)) fits

end Temporal

/-! ### The parsers in memory -/

theorem readChars_fails {text : Bytes} {count : Nat} (short : text.length < count) :
    ∃ failure rest, (readChars count).run text = .error failure rest := by
  induction text generalizing count with
  | nil =>
      cases count with
      | zero => cases short
      | succ count => exact ⟨_, _, rfl⟩
  | cons c text ih =>
      cases count with
      | zero => cases short
      | succ count =>
          obtain ⟨failure, rest, failed⟩ := ih (Nat.lt_of_succ_lt_succ short)
          refine ⟨failure, rest, ?_⟩
          rw [readChars_succ]
          exact run_bind_of_error failed

theorem within_chars (count : Nat) : Within [.field count] (readChars count) where
  fits text rest enough := by
    rw [left] at enough
    by_cases fits : count ≤ text.length
    · rw [if_pos fits, left, Option.some_inj] at enough
      subst enough
      refine ⟨text.take count, fun more => ?_⟩
      have chars := readChars_append (text.take count) (text.drop count ++ more)
      rw [List.length_take_of_le fits, ← List.append_assoc, List.take_append_drop] at chars
      exact chars
    · rw [if_neg fits] at enough
      cases enough
  short text short := by
    rw [left] at short
    by_cases fits : count ≤ text.length
    · rw [if_pos fits] at short
      cases short
    · exact readChars_fails (Nat.lt_of_not_le fits)

theorem within_field (width : Nat) : Within [.field width] (readField width) :=
  (within_chars width).bind fun num => .pure (strtol num)

theorem within_separator (separator : UInt8) : Within [.separator separator] (skip separator) where
  fits text rest enough := by
    cases text with
    | nil => cases enough
    | cons c text =>
        rw [left, left, Option.some_inj] at enough
        subst enough
        refine ⟨(), fun more => ?_⟩
        by_cases same : c = separator
        · rw [if_pos same, same]
          exact skip_separator separator (text ++ more)
        · rw [if_neg same]
          exact skip_other same (text ++ more)
  short text short := by
    cases text with
    | nil => exact ⟨_, _, rfl⟩
    | cons c text => cases short

theorem within_fields {α : Type} (first : Nat) (separator : UInt8)
    (make : Int → Int → Int → α) :
    Within (Temporal.fields first separator) (do
      let one ← readField first
      skip separator
      let two ← readField 2
      skip separator
      let three ← readField 2
      pure (make one two three) : EStateM Failure Bytes α) :=
  (within_field first).bind fun one => (within_separator separator).bind fun _ =>
    (within_field 2).bind fun two => (within_separator separator).bind fun _ =>
      (within_field 2).bind fun three => .pure (make one two three)

theorem Date.within_convert : Within Temporal.date.layout Date.convert :=
  within_fields 4 (byte '-') fun year month day =>
    Date.mk (.ofInt year) (.ofInt month) (.ofInt day)

theorem Time.within_convert : Within Temporal.time.layout Time.convert :=
  within_fields 2 (byte ':') fun hour minute second =>
    Time.mk (.ofInt hour) (.ofInt minute) (.ofInt second)

theorem DateTime.within_convert : Within Temporal.dateTime.layout DateTime.convert := by
  have within := Date.within_convert.bind fun d =>
    (within_separator (byte ' ')).bind fun _ =>
      Time.within_convert.bind fun t =>
        .pure (DateTime.ofFields d.year d.month d.day t.hour t.minute t.second)
  rw [List.append_nil] at within
  exact within

end LibTabula
