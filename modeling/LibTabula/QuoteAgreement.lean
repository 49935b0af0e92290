/-
Whether a value is quoted, asked of a string and of an adapter.

A string goes by its type alone. An adapter asks its buffer, which looks the type up in
the table of types, knows nulls, and takes whatever begins with NOW() in a column of date
and time for a call of it. Of the driver's type a string keeps the base alone. For these
types it is said here when the two agree.
-/

import LibTabula.TypeAdapter

set_option autoImplicit false

namespace LibTabula

/-! ### Types of the driver -/

/-- `enum_field_types`, as far as the driver knows it. -/
inductive EnumFieldTypes
  | tiny | short | int24 | long | longlong
  | decimal | newDecimal | float | double
  | date | newDate | year | time | datetime | timestamp
  | enum | set
  | blob | tinyBlob | mediumBlob | longBlob
  | varchar | varString | string
  | time2 | datetime2 | timestamp2
  | bit | geometry | null
deriving DecidableEq, Repr

namespace MySQLFieldType

def baseType : EnumFieldTypes → Base
  | .tiny | .short | .int24 | .long | .longlong => .integer
  | .decimal | .newDecimal | .float | .double => .real
  | .date | .newDate | .year => .date
  | .time => .time
  | .datetime | .timestamp => .datetime
  | .enum => .enum
  | .set => .set
  | .blob | .tinyBlob | .mediumBlob | .longBlob => .blob
  | .varchar | .varString | .string => .text
  | .time2 | .datetime2 | .timestamp2 => .unsupported
  | .bit | .geometry | .null => .unsupported

/-- `NOT_NULL_FLAG` and `UNSIGNED_FLAG`. -/
def notNullFlag : UInt32 := 1

def unsignedFlag : UInt32 := 32

/-- The constructor from the type and the flags of a `MYSQL_FIELD`. -/
def new (t : EnumFieldTypes) (flags : UInt32) : FieldType :=
  { base := baseType t
    flags := tfDefault ||| (if flags &&& unsignedFlag ≠ 0 then tfUnsigned else 0) |||
      (if flags &&& notNullFlag ≠ 0 then 0 else tfNull) }

end MySQLFieldType

open MySQLFieldType

/-! ### Two decisions -/

/-- The buffer that the constructors of `String` make, which take a base type; so does
`MySQLDriver::fetch_row`. Whether the column can be null is not in it. -/
def SQLBuffer.ofBase (data : Bytes) (base : Base) (isNull : Bool) : SQLBuffer :=
  { data := data, type := { base := base, flags := tfDefault }, isNull := isNull }

/-- A `String` and its buffer. -/
structure BufferedString where
  buffer : Option SQLBuffer
deriving DecidableEq, Repr

def BufferedString.quoteQ (self : BufferedString) : Bool :=
  match self.buffer with
  | some buffer => buffer.type.quoteQ
  | none => true

/-- A string and an adapter that share the buffer decide the same without an exception, and
a date and time that is not null is left unquoted only if it is a call of NOW(). -/
structure QuoteAgrees (buffer : SQLBuffer) : Prop where
  same : ∀ isProcessed, SQLTypeAdapter.quoteQ ⟨some buffer, isProcessed⟩ =
    .ok (BufferedString.quoteQ ⟨some buffer⟩)
  onlyNow : ∀ isProcessed, buffer.type.base = .datetime → buffer.isNull = false →
    BufferedString.quoteQ ⟨some buffer⟩ = false ∨
      SQLTypeAdapter.quoteQ ⟨some buffer, isProcessed⟩ = .ok false →
    buffer.data = ascii "NOW()"

/-- The bytes begin like a call of NOW(). -/
def BeginsNow (data : Bytes) : Prop := 5 ≤ data.length ∧ data.take 5 = ascii "NOW()"

instance (data : Bytes) : Decidable (BeginsNow data) :=
  inferInstanceAs (Decidable (_ ∧ _))

/-! ### The look into the table -/

/-- Whether the table has the type as `DateTime`, if it has it. -/
def FieldType.isDateTime (self : FieldType) : Option Bool :=
  match self.cType with
  | .ok type => some (type = .dateTime)
  | .error _ => none

/-- Only a date and time is a `DateTime`. -/
theorem isDateTime_ofBase {base : Base}
    (produced : base ∈ [.integer, .real, .date, .time, .datetime, .enum, .set, .blob, .text]) :
    FieldType.isDateTime { base := base, flags := tfDefault } =
      some (decide (base = .datetime)) := by
  simp only [List.mem_cons, List.not_mem_nil, or_false] at produced
  rcases produced with rfl | rfl | rfl | rfl | rfl | rfl | rfl | rfl | rfl <;> decide

theorem produced_of_supported {t : EnumFieldTypes} (supported : baseType t ≠ .unsupported) :
    baseType t ∈
      [Base.integer, .real, .date, .time, .datetime, .enum, .set, .blob, .text] := by
  cases t <;> first | decide | exact absurd rfl supported

/-! ### Agreement -/

section Agreement

variable {t : EnumFieldTypes} {flags : UInt32} {data : Bytes} {isNull : Bool}

theorem quoteQ_of_unsupported (unsupported : baseType t = .unsupported) (value : Bool) :
    (SQLBuffer.ofBase data (new t flags).base isNull).quoteQ ≠ .ok value := by
  have isUnsupported : (new t flags).base = .unsupported := unsupported
  rw [SQLBuffer.ofBase, SQLBuffer.quoteQ, FieldType.cType, FieldType.annotate,
    if_pos isUnsupported]
  intro impossible
  cases impossible

/-- What the string decides. -/
def quotedBase (t : EnumFieldTypes) : Bool :=
  FieldType.quoteQ { base := baseType t, flags := tfDefault }

/-- What the adapter decides. -/
theorem quoteQ_of_supported (supported : baseType t ≠ .unsupported) :
    (SQLBuffer.ofBase data (new t flags).base isNull).quoteQ =
      .ok (if baseType t = .datetime ∧ BeginsNow data then false
        else if isNull then false else quotedBase t) := by
  have isDateTime := isDateTime_ofBase (produced_of_supported supported)
  unfold FieldType.isDateTime at isDateTime
  change (SQLBuffer.mk data { base := baseType t, flags := tfDefault } isNull).quoteQ = _
  rw [SQLBuffer.quoteQ]
  cases found : FieldType.cType { base := baseType t, flags := tfDefault } with
  | error failure =>
      rw [found] at isDateTime
      cases isDateTime
  | ok type =>
      rw [found] at isDateTime
      have isType := Option.some.inj isDateTime
      have now : (decide (type = .dateTime) && decide (5 ≤ data.length) &&
          decide (data.take 5 = ascii "NOW()")) = true ↔
          baseType t = .datetime ∧ BeginsNow data := by
        rw [isType]
        simp only [Bool.and_eq_true, decide_eq_true_eq, BeginsNow, and_assoc]
      change (if (decide (type = .dateTime) && decide (5 ≤ data.length) &&
        decide (data.take 5 = ascii "NOW()")) = true then pure false
          else if isNull = true then pure false else pure _ : Except Failure Bool) = _
      by_cases isNow : baseType t = .datetime ∧ BeginsNow data
      · rw [if_pos (now.mpr isNow), if_pos isNow]
        rfl
      · rw [if_neg (mt now.mp isNow), if_neg isNow]
        cases isNull with
        | true => rfl
        | false => rfl

variable (t flags data isNull) in
/-- The decisions agree unless the library does not support the type, a null is of a type
that is quoted, or a date and time begins with NOW(). -/
theorem quoteAgrees_iff :
    QuoteAgrees (SQLBuffer.ofBase data (new t flags).base isNull) ↔
      baseType t ≠ .unsupported ∧ ¬ (isNull = true ∧ quotedBase t = true) ∧
        ¬ (baseType t = .datetime ∧ BeginsNow data) := by
  have quoted : baseType t = .datetime → quotedBase t = true := by
    intro isDateTime
    unfold quotedBase
    rw [isDateTime]
    rfl
  by_cases unsupported : baseType t = .unsupported
  · refine iff_of_false ?_ fun given => given.1 unsupported
    intro agrees
    exact quoteQ_of_unsupported unsupported _ (agrees.same false)
  · have decided : ∀ isProcessed, SQLTypeAdapter.quoteQ
        ⟨some (SQLBuffer.ofBase data (new t flags).base isNull), isProcessed⟩ = _ :=
      fun _ => quoteQ_of_supported unsupported
    rw [and_iff_right unsupported]
    constructor
    · intro agrees
      have same := Except.ok.inj ((decided false).symm.trans (agrees.same false))
      change _ = quotedBase t at same
      constructor
      · intro given
        obtain ⟨isNull', isQuoted⟩ := given
        rw [isNull', isQuoted, if_pos rfl, ite_self] at same
        cases same
      · intro isNow
        rw [if_pos isNow, quoted isNow.1] at same
        cases same
    · intro given
      obtain ⟨notNull, notNow⟩ := given
      have same : ∀ isProcessed, SQLTypeAdapter.quoteQ
          ⟨some (SQLBuffer.ofBase data (new t flags).base isNull), isProcessed⟩ =
          .ok (quotedBase t) := by
        intro isProcessed
        rw [decided isProcessed, if_neg notNow]
        split
        next given =>
          have plain : quotedBase t = false := by
            cases isQuoted : quotedBase t with
            | true => exact absurd ⟨given, isQuoted⟩ notNull
            | false => rfl
          rw [plain]
        next => rfl
      constructor
      · exact same
      · intro isProcessed isDateTime _ unquoted
        rw [same isProcessed] at unquoted
        have isQuoted := quoted isDateTime
        change quotedBase t = false ∨ _ at unquoted
        rw [isQuoted] at unquoted
        rcases unquoted with plain | plain
        · cases plain
        · cases plain

end Agreement

/-- A date and time with a text that goes on behind NOW(), a null text, and a column of
bits. -/
theorem decisions_differ :
    let price := SQLBuffer.ofBase (ascii "NOW(), price = 0") (new .datetime 0).base false
    let item := SQLBuffer.ofBase [] (new .varString 0).base true
    let flags := SQLBuffer.ofBase [1] (new .bit unsignedFlag).base false
    ¬ QuoteAgrees price ∧ ¬ QuoteAgrees item ∧ ¬ QuoteAgrees flags := by
  intro price item flags
  have priceUnquoted : price.quoteQ = .ok false := rfl
  have itemUnquoted : item.quoteQ = .ok false :=
    quoteQ_of_supported (by decide : baseType .varString ≠ .unsupported)
  refine ⟨?_, ?_, ?_⟩
  · intro agrees
    exact Bool.false_ne_true (Except.ok.inj (priceUnquoted.symm.trans (agrees.same false)))
  · intro agrees
    exact Bool.false_ne_true (Except.ok.inj (itemUnquoted.symm.trans (agrees.same false)))
  · intro agrees
    exact quoteQ_of_unsupported rfl _ (agrees.same false)

end LibTabula
