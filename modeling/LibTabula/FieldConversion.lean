/-
`String::conv` for the types that fields of an SSQLS can have.

The parsers of dates and times go by characters only, so what is in memory behind the
buffer is part of the model. No other conversion looks at it, nor do the parsers where the
text with its NUL has the characters they take.
-/

import LibTabula.DateTimeBounds
import LibTabula.FieldNames
import LibTabula.StringConv

set_option autoImplicit false

namespace LibTabula

open Foundation Foundation.FixedFields

/-! ### Values in memory -/

/-- What is in a `SQLBuffer`, as far as it is converted. -/
structure Content where
  data : Bytes
  isNull : Bool
deriving DecidableEq, Repr

def SQLBuffer.content (self : SQLBuffer) : Content := { data := self.data, isNull := self.isNull }

/-- A `String`, with what stands in memory behind the NUL of its buffer. -/
structure StoredString where
  content : Option Content
  behind : Bytes
deriving DecidableEq, Repr

/-- The exceptions, or a read outside of memory. -/
inductive PopulateFailure
  | lookup (failure : LookupFailure)
  | badConversion (bad : BadConversion)
  | outside (failure : Failure)
deriving DecidableEq, Repr

namespace StoredString

/-- `static value_type empty;` -/
def empty : StoredString := { content := none, behind := [] }

def isNull (self : StoredString) : Bool :=
  match self.content with
  | some content => content.isNull
  | none => false

def toMyString (self : StoredString) : MyString := { buffer := self.content.map Content.data }

/-- `buffer_ ? T(c_str()) : T()`. -/
def convTemporal {α : Type} (self : StoredString) (initial : α)
    (convert : EStateM Failure Bytes α) : Except PopulateFailure α :=
  match self.content with
  | none => .ok initial
  | some content =>
      ((convert.run (content.data ++ 0 :: self.behind)).outcome).mapError .outside

/-- `operator bool`. -/
def toBool (self : StoredString) : Bool :=
  match self.content with
  | none => false
  | some content => strToInt (CString.ofData content.data).chars ≠ 0

end StoredString

/-! ### The types of fields -/

/-- A floating point type. The extraction of a `double` is the standard library's. -/
structure FloatingConversion where
  Double : Type
  Value : Type
  zero : Double
  extract : Bytes → Double × StringStream
  narrow : Double → Value
  typeName : Bytes

/-- `conv()`, for which a decimal point is nothing special. -/
def FloatingConversion.conv (self : FloatingConversion) (content : Option Content) :
    Except BadConversion self.Value :=
  match content with
  | none => .ok (self.narrow self.zero)
  | some content =>
      let bad := BadConversion.new self.typeName (beforeNul content.data) 0 content.data.length
      let (num, buf) := self.extract content.data
      if buf.failbit then
        if buf.eofbit then .ok (self.narrow num) else .error bad
      else if (buf.extractChar 0).2.failbit then .ok (self.narrow num)
      else .error bad

inductive ScalarType
  | int (type : IntType)
  | floating (type : FloatingConversion)
  | bool
  | string | stdString
  | date | time | dateTime

inductive ColumnType
  | plain (type : ScalarType)
  | null (type : ScalarType)

namespace ScalarType

def Value : ScalarType → Type
  | .int _ => Int
  | .floating type => type.Value
  | .bool => Bool
  | .string => Option Content
  | .stdString => Bytes
  | .date => Date
  | .time => Time
  | .dateTime => DateTime

/-- `T()`. -/
def default : (type : ScalarType) → type.Value
  | .int _ => (0 : Int)
  | .floating type => type.narrow type.zero
  | .bool => false
  | .string => (none : Option Content)
  | .stdString => ([] : Bytes)
  | .date => (⟨0, 0, 0⟩ : Date)
  | .time => (⟨0, 0, 0⟩ : Time)
  | .dateTime => DateTime.default

/-- `conv(T)`; `typeName` is what the compiler calls an integer type. -/
def conv (typeName : IntType → Bytes) :
    (type : ScalarType) → StoredString → Except PopulateFailure type.Value
  | .int type, value => (value.toMyString.conv typeName type).mapError .badConversion
  | .floating type, value => (type.conv value.content).mapError .badConversion
  | .bool, value => .ok value.toBool
  | .string, value => .ok value.content
  | .stdString, value => .ok (value.toMyString.buffer.getD [])
  | .date, value => value.convTemporal ⟨0, 0, 0⟩ Date.convert
  | .time, value => value.convTemporal ⟨0, 0, 0⟩ Time.convert
  | .dateTime, value => value.convTemporal DateTime.default DateTime.convert

end ScalarType

namespace ColumnType

/-- A `Null<T>` that is null has no value. -/
def Value : ColumnType → Type
  | .plain type => type.Value
  | .null type => Option type.Value

def default : (type : ColumnType) → type.Value
  | .plain type => type.default
  | .null type => some type.default

def conv (typeName : IntType → Bytes) :
    (type : ColumnType) → StoredString → Except PopulateFailure type.Value
  | .plain type, value => type.conv typeName value
  | .null type, value =>
      if value.isNull then .ok none else (type.conv typeName value).map some

end ColumnType

/-! ### When a conversion stays inside -/

def ScalarType.temporal : ScalarType → Option Temporal
  | .date => some .date
  | .time => some .time
  | .dateTime => some .dateTime
  | .int _ | .floating _ | .bool | .string | .stdString => none

/-- The text with its NUL has the characters that the parser takes. -/
def Temporal.FitsWithNul (self : Temporal) (text : Bytes) : Prop :=
  (left self.layout (text ++ [0])).isSome = true

def ScalarType.Contained (type : ScalarType) (content : Content) : Prop :=
  ∀ temporal, type.temporal = some temporal → temporal.FitsWithNul content.data

/-- Nothing is parsed for a null. -/
def ColumnType.Contained : ColumnType → Content → Prop
  | .plain type, content => type.Contained content
  | .null type, content => content.isNull = false → type.Contained content

/-! ### Converting -/

/-- Memory that is long enough for every parser. -/
def ampleMemory : Bytes := List.replicate 20 0

theorem mapError_eq_ok {ε δ α : Type} {x : Except ε α} {f : ε → δ} {value : α}
    (returned : x = .ok value) : x.mapError f = .ok value := by
  rw [returned]
  rfl

section Temporals

variable {α : Type} {pieces : List (Piece UInt8)} {convert : EStateM Failure Bytes α}
  (initial : α) (content : Content)

theorem memory_eq (data behind : Bytes) : data ++ 0 :: behind = (data ++ [0]) ++ behind :=
  List.append_cons data 0 behind

/-- A text that is long enough is converted whatever is behind it. -/
theorem convTemporal_contained (within : Within pieces convert)
    (enough : (left pieces (content.data ++ [0])).isSome = true) (behind other : Bytes) :
    (StoredString.mk (some content) behind).convTemporal initial convert =
      (StoredString.mk (some content) other).convTemporal initial convert := by
  have same := within.outcome_append enough behind other
  rw [← memory_eq, ← memory_eq] at same
  simp only [StoredString.convTemporal, same]

/-- One that is not is read behind its end. -/
theorem convTemporal_short (within : Within pieces convert)
    (short : ¬ (left pieces (content.data ++ [0])).isSome = true) :
    ∃ failure, (StoredString.mk (some content) []).convTemporal initial convert =
      .error (.outside failure) := by
  rw [Bool.not_eq_true, Option.isSome_eq_false_iff, Option.isNone_iff_eq_none] at short
  obtain ⟨failure, rest, failed⟩ := within.short _ short
  refine ⟨failure, ?_⟩
  simp only [StoredString.convTemporal, failed]
  rfl

theorem convTemporal_ample (within : Within pieces convert) (fits : room pieces ≤ 20)
    (value : Option Content) :
    ∃ result, (StoredString.mk value ampleMemory).convTemporal initial convert = .ok result := by
  cases value with
  | none => exact ⟨initial, rfl⟩
  | some content =>
      have long : room pieces ≤ (content.data ++ 0 :: ampleMemory).length := by
        rw [List.length_append, List.length_cons, ampleMemory, List.length_replicate]
        omega
      obtain ⟨result, returned⟩ := within.outcome_ok (isSome_left_of_room long)
      exact ⟨result, mapError_eq_ok returned⟩

end Temporals

/-- Whether a conversion failed by reading outside. -/
def Outside {α : Type} (result : Except PopulateFailure α) : Prop :=
  ∃ failure, result = .error (.outside failure)

theorem not_outside_mapError {α : Type} (result : Except BadConversion α) :
    ¬ Outside (result.mapError PopulateFailure.badConversion) := by
  intro ⟨failure, same⟩
  cases result <;> cases same

section Conversions

variable (typeName : IntType → Bytes)

namespace ScalarType

/-- The types that are parsed. -/
theorem conv_temporal {type : ScalarType} {temporal : Temporal}
    (parsed : type.temporal = some temporal) :
    ∃ (initial : type.Value) (convert : EStateM Failure Bytes type.Value),
      Within temporal.layout convert ∧
        ∀ value, type.conv typeName value = value.convTemporal initial convert := by
  cases type with
  | date =>
      cases parsed
      exact ⟨(⟨0, 0, 0⟩ : Date), Date.convert, Date.within_convert, fun _ => rfl⟩
  | time =>
      cases parsed
      exact ⟨(⟨0, 0, 0⟩ : Time), Time.convert, Time.within_convert, fun _ => rfl⟩
  | dateTime =>
      cases parsed
      exact ⟨DateTime.default, DateTime.convert, DateTime.within_convert, fun _ => rfl⟩
  | int type => cases parsed
  | floating type => cases parsed
  | bool => cases parsed
  | string => cases parsed
  | stdString => cases parsed

theorem not_outside_ok {α : Type} (value : α) : ¬ Outside (.ok value) := by
  intro ⟨failure, same⟩
  cases same

/-- The others do not look behind the buffer. -/
theorem conv_unparsed {type : ScalarType} (unparsed : type.temporal = none)
    (content : Option Content) (behind other : Bytes) :
    type.conv typeName ⟨content, behind⟩ = type.conv typeName ⟨content, other⟩ ∧
      ¬ Outside (type.conv typeName ⟨content, behind⟩) := by
  cases type with
  | int type => exact ⟨rfl, not_outside_mapError _⟩
  | floating type => exact ⟨rfl, not_outside_mapError _⟩
  | bool => exact ⟨rfl, not_outside_ok _⟩
  | string => exact ⟨rfl, not_outside_ok _⟩
  | stdString => exact ⟨rfl, not_outside_ok _⟩
  | date => cases unparsed
  | time => cases unparsed
  | dateTime => cases unparsed

theorem conv_contained {type : ScalarType} {content : Content} (contained : type.Contained content)
    (behind other : Bytes) :
    type.conv typeName ⟨some content, behind⟩ = type.conv typeName ⟨some content, other⟩ := by
  cases parsed : type.temporal with
  | none => exact (conv_unparsed typeName parsed _ behind other).1
  | some temporal =>
      obtain ⟨initial, convert, within, conversion⟩ := conv_temporal typeName parsed
      rw [conversion, conversion]
      exact convTemporal_contained initial content within (contained temporal parsed) behind other

theorem conv_short {type : ScalarType} {content : Content} (short : ¬ type.Contained content) :
    Outside (type.conv typeName ⟨some content, []⟩) := by
  rw [Contained] at short
  push Not at short
  obtain ⟨temporal, parsed, tooShort⟩ := short
  obtain ⟨initial, convert, within, conversion⟩ := conv_temporal typeName parsed
  rw [conversion]
  exact convTemporal_short initial content within tooShort

theorem conv_ample (type : ScalarType) (content : Option Content) :
    ¬ Outside (type.conv typeName ⟨content, ampleMemory⟩) := by
  cases parsed : type.temporal with
  | none => exact (conv_unparsed typeName parsed content ampleMemory []).2
  | some temporal =>
      obtain ⟨initial, convert, within, conversion⟩ := conv_temporal typeName parsed
      have fits : room temporal.layout ≤ 20 := by cases temporal <;> decide
      obtain ⟨value, returned⟩ := convTemporal_ample initial within fits content
      rw [conversion, returned]
      exact not_outside_ok value

/-- Without a buffer, the default. -/
theorem conv_none (type : ScalarType) (behind : Bytes) :
    type.conv typeName ⟨none, behind⟩ = .ok type.default := by
  cases type with
  | int type =>
      have blank : AllSpace ((MyString.mk none).buffer.getD []) := List.forall_mem_nil _
      exact mapError_eq_ok (f := .badConversion) (conv_of_blank typeName type blank)
  | floating type => rfl
  | bool => rfl
  | string => rfl
  | stdString => rfl
  | date => rfl
  | time => rfl
  | dateTime => rfl

end ScalarType

namespace ColumnType

theorem conv_contained {type : ColumnType} {content : Content} (contained : type.Contained content)
    (behind other : Bytes) :
    type.conv typeName ⟨some content, behind⟩ = type.conv typeName ⟨some content, other⟩ := by
  cases type with
  | plain type => exact type.conv_contained typeName contained behind other
  | null type =>
      cases null : content.isNull with
      | true => simp only [conv, StoredString.isNull, null, if_true]
      | false =>
          simp only [conv, StoredString.isNull, null, Bool.false_eq_true, if_false]
          rw [type.conv_contained typeName (contained null) behind other]

theorem conv_short {type : ColumnType} {content : Content} (short : ¬ type.Contained content) :
    Outside (type.conv typeName ⟨some content, []⟩) := by
  cases type with
  | plain type => exact type.conv_short typeName short
  | null type =>
      obtain ⟨notNull, scalarShort⟩ := Classical.not_imp.mp short
      obtain ⟨failure, failed⟩ := type.conv_short typeName scalarShort
      refine ⟨failure, ?_⟩
      simp only [conv, StoredString.isNull, notNull, Bool.false_eq_true, if_false, failed]
      rfl

theorem conv_ample (type : ColumnType) (content : Option Content) :
    ¬ Outside (type.conv typeName ⟨content, ampleMemory⟩) := by
  cases type with
  | plain type => exact type.conv_ample typeName content
  | null type =>
      intro ⟨failure, failed⟩
      rw [conv] at failed
      split_ifs at failed
      cases scalar : type.conv typeName ⟨content, ampleMemory⟩ with
      | ok value =>
          rw [scalar] at failed
          cases failed
      | error other =>
          rw [scalar] at failed
          have same : other = .outside failure := Except.error.inj failed
          exact type.conv_ample typeName content ⟨failure, same ▸ scalar⟩

theorem conv_none (type : ColumnType) (behind : Bytes) :
    type.conv typeName ⟨none, behind⟩ = .ok type.default := by
  cases type with
  | plain type => exact type.conv_none typeName behind
  | null type =>
      simp only [conv, StoredString.isNull, Bool.false_eq_true, if_false, type.conv_none]
      rfl

end ColumnType

end Conversions

end LibTabula
