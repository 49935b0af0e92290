/-
The text of numbers and dates, and the global locale.

A new stream has the global locale, whose digit groups show in the numbers that are
printed. A query replaces it by the classic one. `stream2string` does not, so what an
adapter holds is what a query would be given only if no number that is printed is longer
than the first group. The widths are those of a 64-bit Unix. Which of `long` and
`long long` the table of types has there depends on how the library is compiled.
-/

import LibTabula.Foundation.Grouping
import LibTabula.SsqlsCompare
import LibTabula.TypeAdapter

set_option autoImplicit false

namespace LibTabula

open Foundation
open Foundation.Grouping (grouped padTo)

/-! ### Locales -/

/-- The punctuation of numbers. -/
structure Locale where
  thousandsSep : UInt8
  grouping : List Int8
deriving DecidableEq, Repr

namespace Locale

def classic : Locale := { thousandsSep := byte ',', grouping := [] }

/-- The size of a group, counted from the last. The last size that is given counts for all
others, and one that is not positive or CHAR_MAX is no limit. -/
def groupSize (self : Locale) (index : Nat) : Option Nat :=
  match self.grouping[min index (self.grouping.length - 1)]? with
  | some size => if 0 < size ∧ size ≠ 127 then some size.toNatClampNeg else none
  | none => none

def digits (self : Locale) (n : Nat) : Bytes :=
  grouped self.thousandsSep self.groupSize ((Decimal.digits n).map digitChar)

end Locale

/-! ### Insertions -/

/-- What is inserted into a stream: a number, for which a width may be set, or characters. -/
inductive StreamPiece
  | number (width : Nat) (n : Int)
  | chars (text : Bytes)
deriving DecidableEq, Repr

/-- What the stream has of it, with the fill character `'0'` where a width is set. -/
def StreamPiece.put (loc : Locale) : StreamPiece → Bytes
  | number width n =>
      padTo (byte '0') width ((if n < 0 then [byte '-'] else []) ++ loc.digits n.natAbs)
  | chars text => text

/-- `operator <<`. -/
def Date.insertions (d : Date) : List StreamPiece :=
  [.number 4 d.year.toNat, .chars (ascii "-"), .number 2 d.month.toNat, .chars (ascii "-"),
    .number 2 d.day.toNat]

def Time.insertions (t : Time) : List StreamPiece :=
  [.number 2 t.hour.toNat, .chars (ascii ":"), .number 2 t.minute.toNat, .chars (ascii ":"),
    .number 2 t.second.toNat]

def DateTime.insertions (dt : DateTime) : List StreamPiece :=
  if dt.now then [.chars (ascii "NOW()")]
  else dt.toDate.insertions ++ .chars (ascii " ") :: dt.toTime.insertions

/-- What `sql_types.h` takes its typedefs from: a header of integer types, if a macro like
LIBTABULA_HAVE_CSTDINT is given to the compiler, or the types of the language. -/
inductive IntTypedefs
  | cstdint
  | builtin
deriving DecidableEq, Repr

/-- The type in the table of types that has the `type_info`. On 64-bit Linux `int64_t` is
`long`. -/
def IntType.cType : IntTypedefs → IntType → Option CType
  | _, .tinyint => some .tinyInt
  | _, .tinyintUnsigned => some .tinyIntUnsigned
  | _, .signedShort => some .int16
  | _, .unsignedShort => some .uint16
  | _, .signedInt => some .int32
  | _, .unsignedInt => some .uint32
  | .cstdint, .signedLong => some .int64
  | .cstdint, .unsignedLong => some .uint64
  | .builtin, .longlong => some .int64
  | .builtin, .ulonglong => some .uint64
  | _, _ => none

/-- A value of a type that has a constructor of `SQLTypeAdapter`. The types of single
characters have none of their own. -/
inductive SqlValue
  | integer (type : IntType) (notChar : type ≠ .signedChar ∧ type ≠ .unsignedChar)
      (value : type.Value)
  | date (d : Date)
  | time (t : Time)
  | dateTime (dt : DateTime)

namespace SqlValue

def insertions : SqlValue → List StreamPiece
  | integer _ _ value => [.number 0 value.val]
  | date d => d.insertions
  | time t => t.insertions
  | dateTime dt => dt.insertions

/-- The type in the table of types that has the value's `type_info`. -/
def cType (typedefs : IntTypedefs) : SqlValue → Option CType
  | integer type _ _ => type.cType typedefs
  | date _ => some .date
  | time _ => some .time
  | dateTime _ => some .dateTime

/-- `stream2string`: a string stream takes the global locale. -/
def stream2string (global : Locale) (self : SqlValue) : Bytes :=
  self.insertions.flatMap (StreamPiece.put global)

/-- What inserting the value writes to a new query, which is imbued with the classic locale. -/
def inQuery (self : SqlValue) : Bytes := self.insertions.flatMap (StreamPiece.put .classic)

def adapter (typedefs : IntTypedefs) (global : Locale) (self : SqlValue) :
    Except Failure SQLTypeAdapter :=
  match self.cType typedefs with
  | some type => SQLTypeAdapter.ofValue (self.stream2string global) type
  -- The message goes on with the compiler's name for the type.
  | none => .error (.typeLookupFailed "Failed to find libtabula type info for ")

/-- The adapter holds what a query is given, whatever the locale. -/
structure TextKept (typedefs : IntTypedefs) (global : Locale) (self : SqlValue) : Prop where
  independent : self.adapter typedefs global = self.adapter typedefs .classic
  agrees : ∃ adapter, self.adapter typedefs global = .ok adapter ∧ adapter.data = self.inQuery

/-- The numbers that are printed. -/
def numbers (self : SqlValue) : List Nat :=
  self.insertions.filterMap fun
    | .number _ n => some n.natAbs
    | .chars _ => none

/-- Dates and times are written in quotes. -/
def quoted : SqlValue → Bool
  | integer _ _ _ => false
  | date _ | time _ | dateTime _ => true

/-- What the table of types says of a value's type. -/
structure Tabulated (typedefs : IntTypedefs) (value : SqlValue) (fieldType : FieldType) :
    Prop where
  found : (value.cType typedefs).bind FieldType.ofCType = some fieldType
  known : ∃ type, fieldType.cType = .ok type ∧ (type = .dateTime ↔ ∃ dt, value = .dateTime dt)
  quotes : fieldType.quoteQ = value.quoted
  bare : fieldType.escapeQ = false

theorem exists_tabulated {typedefs : IntTypedefs} {self : SqlValue}
    (there : self.cType typedefs ≠ none) : ∃ fieldType, self.Tabulated typedefs fieldType := by
  have tabulated : ∀ {type : CType} {fieldType : FieldType}, self.cType typedefs = some type →
      FieldType.ofCType type = some fieldType → fieldType.cType.toOption ≠ none →
      (fieldType.cType.toOption = some .dateTime ↔ ∃ dt, self = .dateTime dt) →
      fieldType.quoteQ = self.quoted → fieldType.escapeQ = false →
        ∃ fieldType, self.Tabulated typedefs fieldType := by
    intro type fieldType is_ found known now quotes bare
    refine ⟨fieldType, ?_, ?_, quotes, bare⟩
    · rw [is_]
      exact found
    · cases annotated : fieldType.cType with
      | ok type =>
          rw [annotated] at now
          exact ⟨type, rfl, Option.some_inj.symm.trans now⟩
      | error failure =>
          rw [annotated] at known
          exact absurd rfl known
  cases self with
  | date d => exact tabulated rfl rfl (by decide) (iff_of_false (by decide) nofun) rfl rfl
  | time t => exact tabulated rfl rfl (by decide) (iff_of_false (by decide) nofun) rfl rfl
  | dateTime dt => exact tabulated rfl rfl (by decide) (iff_of_true (by decide) ⟨dt, rfl⟩) rfl rfl
  | integer type notChar v =>
      cases typedefs with
      | _ =>
          cases type with
          | _ => first
              | exact tabulated rfl rfl (by decide) (iff_of_false (by decide) nofun) rfl rfl
              | exact absurd rfl there

end SqlValue

/-! ### One number -/

namespace Locale

theorem digits_classic (n : Nat) : classic.digits n = (Decimal.digits n).map digitChar :=
  (Grouping.grouped_eq_iff _).mpr nofun

/-- The digits of a number fit into the first group. -/
def Fits (self : Locale) (n : Nat) : Prop :=
  ∀ size, self.groupSize 0 = some size → (Decimal.digits n).length ≤ size

theorem digits_eq_iff (self : Locale) (n : Nat) :
    self.digits n = classic.digits n ↔ self.Fits n := by
  rw [digits_classic, digits, Grouping.grouped_eq_iff, List.length_map]
  rfl

theorem length_digits_classic_le (self : Locale) (n : Nat) :
    (classic.digits n).length ≤ (self.digits n).length := by
  rw [digits_classic]
  exact Grouping.length_le_grouped _

theorem groupSize_pos (self : Locale) {index size : Nat}
    (limited : self.groupSize index = some size) : 0 < size := by
  unfold groupSize at limited
  split at limited
  next given _ =>
    split at limited
    next positive =>
      have isSize := Option.some.inj limited
      have above : 0 < given.toInt := by
        have := Int8.lt_iff_toInt_lt.mp positive.1
        exact this
      have natural : given.toNatClampNeg = given.toInt.toNat := rfl
      omega
    next => cases limited
  next => cases limited

theorem fits_of_small (self : Locale) {n : Nat} (small : n < 10) : self.Fits n := by
  have one : (Decimal.digits n).length ≤ 1 :=
    (Decimal.digits_length_le_iff Nat.one_pos n).mpr (by omega)
  intro size limited
  have positive := self.groupSize_pos limited
  omega

theorem head?_digits (self : Locale) {n : Nat} (positive : n ≠ 0) :
    (self.digits n).head? ≠ some (byte '0') := by
  rw [digits, Grouping.head?_grouped, List.head?_map]
  intro front
  obtain ⟨digit, isFirst, isZero⟩ := Option.map_eq_some_iff.mp front
  have small : digit < 10 := Decimal.digit_lt_ten (List.mem_of_head? isFirst)
  have value := (digitChar_spec small).1
  rw [isZero] at value
  have zero : (byte '0').toNat = 48 := rfl
  have same : digit = 0 := by omega
  rw [same] at isFirst
  exact Decimal.head?_digits positive isFirst

end Locale

namespace StreamPiece

theorem put_number_eq_iff (loc : Locale) (width : Nat) (n : Int) :
    (number width n).put loc = (number width n).put .classic ↔ loc.Fits n.natAbs := by
  constructor
  · intro same
    by_cases zero : n.natAbs = 0
    · rw [zero]
      exact loc.fits_of_small (by decide)
    · have front : ∀ loc : Locale, ((if n < 0 then [byte '-'] else []) ++
          loc.digits n.natAbs).head? ≠ some (byte '0') := by
        intro loc
        split
        · have other : byte '-' ≠ byte '0' := by decide
          exact fun same => other (Option.some.inj same)
        · exact loc.head?_digits zero
      have texts := (Grouping.padTo_inj (front loc) (front .classic)).mp same
      exact (loc.digits_eq_iff _).mp (List.append_cancel_left texts)
  · intro fits
    rw [put, put, (loc.digits_eq_iff _).mpr fits]

theorem length_put_classic_le (loc : Locale) (piece : StreamPiece) :
    (piece.put .classic).length ≤ (piece.put loc).length := by
  cases piece with
  | number width n =>
      have longer := loc.length_digits_classic_le n.natAbs
      simp only [put, Grouping.length_padTo, List.length_append]
      omega
  | chars text => exact Nat.le_refl _

end StreamPiece

/-! ### Texts of values -/

namespace SqlValue

theorem stream2string_eq_iff (global : Locale) (self : SqlValue) :
    self.stream2string global = self.inQuery ↔ ∀ n ∈ self.numbers, global.Fits n := by
  rw [stream2string, inQuery,
    Grouping.flatMap_eq_iff (StreamPiece.length_put_classic_le global), numbers]
  constructor
  · intro same n member
    obtain ⟨piece, inserted, isNumber⟩ := List.mem_filterMap.mp member
    cases piece with
    | number width printed =>
        cases isNumber
        exact (StreamPiece.put_number_eq_iff global width printed).mp (same _ inserted)
    | chars text => cases isNumber
  · intro fits piece inserted
    cases piece with
    | number width printed =>
        apply (StreamPiece.put_number_eq_iff global width printed).mpr
        exact fits _ (List.mem_filterMap.mpr ⟨_, inserted, rfl⟩)
    | chars text => rfl

theorem exists_fieldType {typedefs : IntTypedefs} {self : SqlValue} {type : CType}
    (known : self.cType typedefs = some type) :
    ∃ fieldType, FieldType.ofCType type = some fieldType := by
  have there : self.cType typedefs ≠ none := by
    rw [known]
    exact Option.some_ne_none type
  obtain ⟨fieldType, tabulated⟩ := exists_tabulated there
  have found := tabulated.found
  rw [known] at found
  exact ⟨fieldType, found⟩

/-- The text is kept if the type of the value is in the table and no number that is printed
is longer than the first group. -/
theorem textKept_iff (typedefs : IntTypedefs) (global : Locale) (self : SqlValue) :
    self.TextKept typedefs global ↔
      self.cType typedefs ≠ none ∧ ∀ n ∈ self.numbers, global.Fits n := by
  rw [← stream2string_eq_iff]
  cases known : self.cType typedefs with
  | none =>
      refine iff_of_false ?_ fun given => given.1 rfl
      intro given
      obtain ⟨-, adapter, built, -⟩ := given
      unfold SqlValue.adapter at built
      rw [known] at built
      cases built
  | some type =>
      obtain ⟨fieldType, found⟩ := exists_fieldType known
      have adapters : ∀ loc : Locale, self.adapter typedefs loc =
          .ok { buffer := some { data := self.stream2string loc, type := fieldType
                                 isNull := false }
                isProcessed := false } := by
        intro loc
        rw [SqlValue.adapter, known]
        simp only [SQLTypeAdapter.ofValue, found]
      rw [and_iff_right (Option.some_ne_none type)]
      constructor
      · intro given
        obtain ⟨-, adapter, built, same⟩ := given
        rw [adapters] at built
        cases built
        exact same
      · intro same
        constructor
        · rw [adapters, adapters, same]
          rfl
        · exact ⟨_, adapters global, same⟩

/-! What a query is given is the text that the types have by themselves. -/

theorem put_classic_natCast (width n : Nat) :
    (StreamPiece.number width n).put .classic = setw width n := by
  have natural : ¬ ((n : Int) < 0) := by omega
  rw [StreamPiece.put, if_neg natural, List.nil_append, Int.natAbs_natCast, Locale.digits_classic,
    setw, Decimal.padded, List.map_append, List.map_replicate, padTo, List.length_map]
  rfl

theorem flatMap_put_date (d : Date) : d.insertions.flatMap (StreamPiece.put .classic) = d.str := by
  simp only [Date.insertions, List.flatMap_cons, List.flatMap_nil, put_classic_natCast,
    List.append_nil]
  rfl

theorem flatMap_put_time (t : Time) : t.insertions.flatMap (StreamPiece.put .classic) = t.str := by
  simp only [Time.insertions, List.flatMap_cons, List.flatMap_nil, put_classic_natCast,
    List.append_nil]
  rfl

theorem inQuery_date (d : Date) : inQuery (.date d) = d.str := flatMap_put_date d

theorem inQuery_time (t : Time) : inQuery (.time t) = t.str := flatMap_put_time t

theorem inQuery_dateTime (dt : DateTime) : inQuery (.dateTime dt) = dt.str := by
  rw [inQuery, insertions, DateTime.insertions, DateTime.str]
  by_cases isNow : dt.now = true
  · rw [if_pos isNow, if_pos isNow]
    rfl
  · rw [if_neg isNow, if_neg isNow, List.flatMap_append, List.flatMap_cons, flatMap_put_date,
      flatMap_put_time]
    rfl

/-- Groups of three digits in an `int`, and a `long` that no type of the table is. -/
theorem grouped_int_differs :
    let german : Locale := { thousandsSep := byte '.', grouping := [3, 3] }
    let orders : SqlValue := .integer .signedInt (by decide) ⟨1234567, by decide⟩
    let count : SqlValue := .integer .signedLong (by decide) ⟨1, by decide⟩
    orders.stream2string german = ascii "1.234.567" ∧ orders.inQuery = ascii "1234567" ∧
      ¬ orders.TextKept .cstdint german ∧ ¬ orders.TextKept .builtin german ∧
      ¬ count.TextKept .builtin .classic := by
  intro german orders count
  have written : orders.stream2string german = ascii "1.234.567" := by decide +kernel
  have inserted : orders.inQuery = ascii "1234567" := by decide +kernel
  have differs : ∀ typedefs, ¬ orders.TextKept typedefs german := by
    intro typedefs given
    obtain ⟨-, adapter, built, same⟩ := given
    have built' : SQLTypeAdapter.ofValue (orders.stream2string german) .int32 = .ok adapter := by
      cases typedefs with
      | _ => exact built
    rw [written] at built'
    cases built'
    rw [inserted] at same
    revert same
    decide
  refine ⟨written, inserted, differs .cstdint, differs .builtin, ?_⟩
  intro given
  obtain ⟨-, adapter, built, same⟩ := given
  cases built

end SqlValue

end LibTabula
