/-
What the clauses of `update` mean.

A field holds a value of its own, and a server says what a text denotes. The clauses are
right if the SET clause assigns each column the value that the new row's field holds, and
the row that the old one's fields hold satisfies the WHERE clause. The texts of numbers
and dates are up to how the program is built, and to its global locale.
-/

import LibTabula.MySet
import LibTabula.SsqlsLiterals

set_option autoImplicit false

namespace LibTabula

open Foundation
open SQLStream (EscapeRequest)

/-! ### What fields hold -/

inductive RealType
  | float
  | double
deriving DecidableEq, Repr

def RealType.cType : RealType → CType
  | .float => .float
  | .double => .double

/-- What a field holds: a string or a character, a `String` with the buffer it may have, an
integer, a date or a time, a floating point number, which may be in a `Null`, the members of
a set, a null string, or any other null. -/
inductive FieldValue (φ : Type)
  | text (data : Bytes)
  | string (buffer : Option SQLBuffer)
  | value (v : SqlValue)
  | real (type : RealType) (nullable : Bool) (x : φ)
  | set (items : List Bytes)
  | nullText
  | null

/-- What the texts depend on: the typedefs, the global locale, and of the floating point
numbers, what is printed of one with all its digits and whether it is infinite. -/
structure Formatting (φ : Type) where
  typedefs : IntTypedefs
  global : Locale
  print : RealType → φ → Bytes
  infinite : φ → Bool

namespace FieldValue

variable {φ : Type}

/-- The conversion that the manipulator asks for. -/
def given (formatting : Formatting φ) : FieldValue φ → SsqlsValue
  | text data => .text data
  | string buffer => .string buffer
  | value v => .value (v.stream2string formatting.global) (v.cType formatting.typedefs)
  | real type nullable x =>
      if formatting.infinite x then if nullable then .null else .infinite type.cType
      else .value (formatting.print type x) (some type.cType)
  | set items => .set (MySet.streamOut items)
  | nullText => .nullText
  | null => .null

/-- SQL NULL, by the flag of the value or of its buffer. -/
def isNull : FieldValue φ → Bool
  | nullText | null => true
  | string (some buffer) => buffer.isNull
  | text _ | string none | value _ | real _ _ _ | set _ => false

end FieldValue

structure SsqlsRow (φ : Type) (ssqls : SsqlsClass) where
  table : Bytes
  values : List (FieldValue φ)
  size : values.length = ssqls.names.length

namespace SsqlsRow

variable {φ : Type} {ssqls : SsqlsClass}

def fields (self : SsqlsRow φ ssqls) : List (Bytes × FieldValue φ) := ssqls.names.zip self.values

def compared (self : SsqlsRow φ ssqls) : List (Bytes × FieldValue φ) :=
  self.fields.take ssqls.compcount

/-- The row as it is given to the manipulator. -/
def object (formatting : Formatting φ) (self : SsqlsRow φ ssqls) : SsqlsObject ssqls where
  table := self.table
  values := self.values.map (FieldValue.given formatting)
  size := by rw [List.length_map, self.size]

theorem fields_object (formatting : Formatting φ) (self : SsqlsRow φ ssqls) :
    (self.object formatting).fields =
      self.fields.map (Prod.map id (FieldValue.given formatting)) := by
  rw [SsqlsObject.fields, object, fields, List.zip_map_right]

theorem compared_object (formatting : Formatting φ) (self : SsqlsRow φ ssqls) :
    (self.object formatting).compared =
      self.compared.map (Prod.map id (FieldValue.given formatting)) := by
  rw [SsqlsObject.compared, fields_object, compared, List.map_take]

theorem names_fields (self : SsqlsRow φ ssqls) : self.fields.map Prod.fst = ssqls.names :=
  List.map_fst_zip (Nat.le_of_eq self.size.symm)

end SsqlsRow

/-! ### Servers -/

/-- A server, by what its literals denote, and by the values that it has for strings, numbers
and dates. For a literal `none` is no literal, and `some none` NULL. Not every date and not
every floating point number has a value. -/
structure SqlServer (φ ν : Type) where
  literal : Bytes → Option (Option ν)
  text : Bytes → ν
  integer : Int → ν
  real : φ → Option ν
  date : Date → Option ν
  time : Time → Option ν
  dateTime : DateTime → Option ν
  now : ν
  equal : ν → ν → Bool

/-- A text between quotes. -/
def sqlQuoted (text : Bytes) : Bytes := byte '\'' :: (text ++ [byte '\''])

/-- The literal for a value: the digits of a number, and a date or a time in quotes. -/
def SqlValue.sqlText : SqlValue → Bytes
  | .integer _ _ v => intText v.val
  | .date d => sqlQuoted d.str
  | .time t => sqlQuoted t.str
  | .dateTime dt => if dt.now then ascii "NOW()" else sqlQuoted dt.str

/-- No character of the text has an escape. -/
def Unescaped (text : Bytes) : Prop := ∀ c ∈ text, SQLStream.code c = none

namespace SQLBuffer

def isNumber (self : SQLBuffer) : Bool :=
  self.type.base = .integer || self.type.base = .real || self.type.base = .decimal

def isClock (self : SQLBuffer) : Bool :=
  (self.type.base = .datetime || self.type.base = .timestamp) && self.data = ascii "NOW()"

end SQLBuffer

section Meaning

variable {φ ν : Type} (formatting : Formatting φ) (server : SqlServer φ ν)
  (escape : EscapeRequest → Bytes × Nat)

def SqlServer.value : SqlValue → Option ν
  | .integer _ _ v => some (server.integer v.val)
  | .date d => server.date d
  | .time t => server.time t
  | .dateTime dt => if dt.now then some server.now else server.dateTime dt

/-- What a `String` holds: the number that its data is, if its type is one of numbers, the
current time, or its data. -/
def SqlServer.bufferValue (buffer : SQLBuffer) : Option (Option ν) :=
  if buffer.isNull then some none
  else if buffer.isNumber then server.literal buffer.data
  else if buffer.isClock then some (some server.now)
  else some (some (server.text buffer.data))

/-- The value that a field has in the database, if it can have one. -/
def FieldValue.meaning : FieldValue φ → Option (Option ν)
  | .text data => some (some (server.text data))
  | .string none => some (some (server.text []))
  | .string (some buffer) => server.bufferValue buffer
  | .value v => (server.value v).map some
  | .real _ _ x => (server.real x).map some
  | .set items => some (some (server.text ((ascii ",").intercalate items)))
  | .nullText | .null => some none

def SsqlsRow.row {ssqls : SsqlsClass} (self : SsqlsRow φ ssqls) (column : Bytes) : Option ν :=
  ((self.fields.lookup column).bind (FieldValue.meaning server)).join

/-- The text of a string in a statement. -/
def escaped (data : Bytes) : Bytes :=
  (escape { ps := [], original := some data, length := data.length }).1

/-- What is documented of the server and of the escaping: `NULL` is null, a string that is
escaped and quoted denotes itself, other characters are not escaped, the literal for a number
or a date denotes it, a value equals itself, and what is infinite is no value. -/
structure SqlServer.Documented : Prop where
  null : server.literal nullStr = some none
  string : ∀ data, server.literal (sqlQuoted (escaped escape data)) =
    some (some (server.text data))
  kept : ∀ data, Unescaped data → escaped escape data = data
  value : ∀ v own, server.value v = some own → server.literal v.sqlText = some (some own)
  equalSelf : ∀ value, server.equal value value = true
  infinite : ∀ x, formatting.infinite x = true → server.real x = none

/-! ### What is expected -/

def denoted (part : Bytes × Bytes) : Bytes × Option ν :=
  (part.1, (server.literal part.2).join)

/-- What is expected of `update`: the statement it writes consists of literals, the row
of `o` satisfies its conditions, and its assignments give every field its value in `n`. -/
def UpdateRight {ssqls : SsqlsClass} (self : Query) (o n : SsqlsRow φ ssqls) : Prop :=
  ∃ statement after,
    updateStatement escape (o.object formatting) (n.object formatting) = .ok statement ∧
    self.update escape (o.object formatting) (n.object formatting) = .ok after ∧
    after.sbuffer = statement.text ∧
    (∀ part ∈ statement.assignments ++ statement.conditions, server.literal part.2 ≠ none) ∧
    Relational.satisfies server.equal (o.row server) (statement.conditions.map (denoted server)) =
      some true ∧
    ∀ row, ∀ field ∈ n.fields,
      some (Relational.assign row (statement.assignments.map (denoted server)) field.1) =
        field.2.meaning server

/-- The server takes a text for what is right for a value. -/
def SqlServer.Takes (right : Option ν → Option ν → Prop) (own : Option (Option ν))
    (text : Bytes) : Prop :=
  ∃ value read, own = some value ∧ server.literal text = some read ∧ right value read

/-- Two values of which the server finds that they are equal. -/
def SqlServer.Same (own read : Option ν) : Prop :=
  Relational.equals server.equal own read = some true

/-- The data of a `String`, escaped if its type is, and in quotes or not. -/
def SQLBuffer.inStatement (buffer : SQLBuffer) (quote : Bool) : Bytes :=
  let text := if buffer.escapeQ then escaped escape buffer.data else buffer.data
  if quote then sqlQuoted text else text

/-- The data is a string, which is quoted, and escaped if it has to be. -/
structure SQLBuffer.Plain (buffer : SQLBuffer) (quote : Bool) : Prop where
  quotes : quote = true
  isText : buffer.isNull = false ∧ buffer.isNumber = false ∧ buffer.isClock = false
  escapes : buffer.escapeQ = true ∨ Unescaped buffer.data

/-- A number as the global locale has it, and a date or a time in quotes. -/
def SqlValue.inStatement (global : Locale) : SqlValue → Bytes
  | .integer type notChar v => (SqlValue.integer type notChar v).stream2string global
  | .date d => sqlQuoted ((SqlValue.date d).stream2string global)
  | .time t => sqlQuoted ((SqlValue.time t).stream2string global)
  | .dateTime dt =>
      if dt.now then ascii "NOW()" else sqlQuoted ((SqlValue.dateTime dt).stream2string global)

/-- A field whose text the server takes for what is right. It does so for a string and a null.
The type of a number, a date or a `String` must be in the type table. The global locale must
group no digits, or the server must not mind; so with a text that should be escaped. -/
def FieldValue.Accepted (right : Option ν → Option ν → Prop) : FieldValue φ → Prop
  | .text _ | .string none | .nullText | .null => True
  | .string (some buffer) => ∃ quote, buffer.quoteQ = .ok quote ∧ (buffer.Plain quote ∨
      server.Takes right (server.bufferValue buffer) (buffer.inStatement escape quote))
  | .value v => v.cType formatting.typedefs ≠ none ∧ ∃ own, server.value v = some own ∧
      ((∀ n ∈ v.numbers, formatting.global.Fits n) ∨
        server.Takes right (some (some own)) (v.inStatement formatting.global))
  | .real type _ x => server.Takes right ((server.real x).map some) (formatting.print type x)
  | .set items => (∀ item ∈ items, Unescaped item) ∨
      server.Takes right (some (some (server.text ((ascii ",").intercalate items))))
        (sqlQuoted ((ascii ",").intercalate items))

/-- No compared field of `o` is null, and the server takes the texts of these fields for equal
values, and those of the fields of `n` for the values. -/
structure UpdateWritable {ssqls : SsqlsClass} (o n : SsqlsRow φ ssqls) : Prop where
  notNull : ∀ field ∈ o.compared, field.2.isNull = false
  compared : ∀ field ∈ o.compared, field.2.Accepted formatting server escape server.Same
  assigned : ∀ field ∈ n.fields, field.2.Accepted formatting server escape Eq

end Meaning

/-! ### One field -/

section Fields

variable {φ ν : Type} {formatting : Formatting φ} {server : SqlServer φ ν}
  {escape : EscapeRequest → Bytes × Nat}

theorem meaning_of_isNull {field : FieldValue φ} (null : field.isNull = true) :
    field.meaning server = some none := by
  cases field with
  | nullText | null => rfl
  | string buffer =>
      cases buffer with
      | none => cases null
      | some buffer => exact if_pos null
  | text data | value v | real type nullable x | set items => cases null

theorem streamOut_eq_intercalate (items : List Bytes) :
    MySet.streamOut items = (ascii ",").intercalate items := by
  induction items with
  | nil => rfl
  | cons item rest ih =>
      cases rest with
      | nil => rw [MySet.streamOut, List.intercalate_singleton]
      | cons next more =>
          rw [MySet.streamOut, ih, List.intercalate_cons_cons, List.append_assoc]
          · rfl
          · exact List.cons_ne_nil _ _

theorem written_buffer {buffer : SQLBuffer} :
    (SsqlsValue.string (some buffer)).written escape =
      buffer.quoteQ.map fun quote => buffer.inStatement escape quote := by
  change SQLStream.quoteType1 escape { buffer := some buffer, isProcessed := false } = _
  simp only [SQLStream.quoteType1, SQLTypeAdapter.quoteQ]
  cases buffer.quoteQ with
  | error failure => rfl
  | ok quote =>
      cases quote with
      | true => rfl
      | false => exact congrArg Except.ok (List.append_nil _)

/-- A number begins with a digit. -/
theorem isdigit_of_put {global : Locale} {width n : Nat} {rest : Bytes} {c : UInt8}
    (first : ((StreamPiece.number width n).put global ++ rest).head? = some c) :
    Query.isdigit c = true := by
  have natural : ¬ ((n : Int) < 0) := by omega
  rw [StreamPiece.put, if_neg natural, List.nil_append, Int.natAbs_natCast, Grouping.padTo,
    List.append_assoc, List.head?_append] at first
  cases fills : width - (global.digits n).length with
  | succ count =>
      rw [fills, List.replicate_succ] at first
      cases first
      decide
  | zero =>
      rw [fills, List.replicate_zero, List.head?_nil, Option.none_or, List.head?_append,
        Locale.digits, Grouping.head?_grouped] at first
      cases digits : (Decimal.digits n).map digitChar with
      | nil => exact absurd digits (digits_ne_nil n)
      | cons digit more =>
          rw [digits] at first
          cases first
          have member : c ∈ (Decimal.digits n).map digitChar := by
            rw [digits]
            exact List.mem_cons_self
          exact isdigit_digits n c member

theorem stream2string_ne_now {global : Locale} {dt : DateTime} (given : dt.now = false) :
    ((SqlValue.dateTime dt).stream2string global).take 5 ≠ ascii "NOW()" := by
  intro now
  have first := congrArg List.head? now
  rw [List.head?_take, if_neg (by decide), SqlValue.stream2string, SqlValue.insertions,
    DateTime.insertions, given, if_neg Bool.false_ne_true, Date.insertions, List.cons_append,
    List.flatMap_cons] at first
  have digit := isdigit_of_put first
  exact absurd digit (by decide)

theorem written_value {v : SqlValue} (there : v.cType formatting.typedefs ≠ none) :
    ((FieldValue.value v : FieldValue φ).given formatting).written escape =
      .ok (v.inStatement formatting.global) := by
  obtain ⟨fieldType, tabulated⟩ := SqlValue.exists_tabulated there
  obtain ⟨type, known, clock⟩ := tabulated.known
  have quoteQ (text : Bytes) :
      SQLBuffer.quoteQ { data := text, type := fieldType, isNull := false } =
        .ok (if type = .dateTime && 5 ≤ text.length && text.take 5 = ascii "NOW()" then false
          else v.quoted) := by
    rw [SQLBuffer.quoteQ, known, ← tabulated.quotes]
    change (if _ then _ else _) = Except.ok (if _ then _ else _)
    split
    · rfl
    · rfl
  have wrote {text : Bytes} (isText : v.stream2string formatting.global = text) {quote : Bool}
      (quotes : SQLBuffer.quoteQ { data := text, type := fieldType, isNull := false } =
        .ok quote) :
      ((FieldValue.value v : FieldValue φ).given formatting).written escape =
        .ok (if quote then sqlQuoted text else text) := by
    rw [FieldValue.given, isText]
    exact SsqlsValue.written_value escape tabulated.found quotes tabulated.bare
  cases v with
  | integer _ _ _ | date _ | time _ =>
      have notClock : ¬ type = .dateTime := by
        intro same
        obtain ⟨dt, isDateTime⟩ := clock.mp same
        cases isDateTime
      rw [wrote rfl (quoteQ _)]
      simp [notClock, SqlValue.quoted, SqlValue.inStatement]
  | dateTime dt =>
      have isClock := clock.mpr ⟨dt, rfl⟩
      cases now : dt.now with
      | true =>
          have text : (SqlValue.dateTime dt).stream2string formatting.global = ascii "NOW()" := by
            rw [SqlValue.stream2string, SqlValue.insertions, DateTime.insertions, now]
            rfl
          rw [wrote text (quoteQ _), isClock, SqlValue.inStatement, now]
          rfl
      | false =>
          rw [wrote rfl (quoteQ _), SqlValue.inStatement, now]
          simp [stream2string_ne_now now, SqlValue.quoted]

/-- Where the locale groups nothing, a value is written as its literal. -/
theorem inStatement_of_fits {global : Locale} {v : SqlValue}
    (fits : ∀ n ∈ v.numbers, global.Fits n) : v.inStatement global = v.sqlText := by
  have same := (SqlValue.stream2string_eq_iff global v).mpr fits
  cases v with
  | integer type notChar v =>
      rw [SqlValue.inStatement, same, inQuery_integer]
      rfl
  | date d =>
      rw [SqlValue.inStatement, same, SqlValue.inQuery_date]
      rfl
  | time t =>
      rw [SqlValue.inStatement, same, SqlValue.inQuery_time]
      rfl
  | dateTime dt =>
      rw [SqlValue.inStatement, same, SqlValue.inQuery_dateTime]
      rfl

theorem written_real {type : RealType} {digits : Bytes} :
    (SsqlsValue.value digits (some type.cType)).written escape = .ok digits := by
  cases type with
  | float =>
      have found : (some CType.float).bind FieldType.ofCType = some ⟨.real, tfUnsigned⟩ := rfl
      have known : FieldType.cType ⟨.real, tfUnsigned⟩ = .ok .double := rfl
      have quotes : SQLBuffer.quoteQ ⟨digits, ⟨.real, tfUnsigned⟩, false⟩ = .ok false := by
        rw [SQLBuffer.quoteQ, known]
        rfl
      exact SsqlsValue.written_value escape found quotes rfl
  | double =>
      have found : (some CType.double).bind FieldType.ofCType = some ⟨.decimal, tfDefault⟩ := rfl
      have known : FieldType.cType ⟨.decimal, tfDefault⟩ = .ok .double := rfl
      have quotes : SQLBuffer.quoteQ ⟨digits, ⟨.decimal, tfDefault⟩, false⟩ = .ok false := by
        rw [SQLBuffer.quoteQ, known]
        rfl
      exact SsqlsValue.written_value escape found quotes rfl

theorem literal_plain (documented : server.Documented formatting escape) {data : Bytes}
    (plain : Unescaped data) :
    server.literal (sqlQuoted data) = some (some (server.text data)) := by
  have read := documented.string data
  rw [documented.kept data plain] at read
  exact read

theorem takes_of_plain (documented : server.Documented formatting escape)
    {right : Option ν → Option ν → Prop} (reflexive : ∀ value, right (some value) (some value))
    {buffer : SQLBuffer} {quote : Bool} (plain : buffer.Plain quote) :
    server.Takes right (server.bufferValue buffer) (buffer.inStatement escape quote) := by
  obtain ⟨rfl, ⟨notNull, notNumber, notClock⟩, escapes⟩ := plain
  refine ⟨some (server.text buffer.data), some (server.text buffer.data), ?_, ?_, reflexive _⟩
  · rw [SqlServer.bufferValue, notNull, notNumber, notClock]
    rfl
  · rw [SQLBuffer.inStatement, if_pos rfl]
    cases escapeQ : buffer.escapeQ with
    | true => exact documented.string buffer.data
    | false =>
        rw [escapeQ, or_iff_right Bool.false_ne_true] at escapes
        exact literal_plain documented escapes

theorem unescaped_nullStr : Unescaped nullStr := by
  have letters : nullStr = [byte 'N', byte 'U', byte 'L', byte 'L'] := rfl
  rw [Unescaped, letters]
  intro c isLetter
  simp only [List.mem_cons, List.not_mem_nil, or_false] at isLetter
  rcases isLetter with rfl | rfl | rfl | rfl <;> rfl

theorem Unescaped.append {left right : Bytes} (first : Unescaped left) (second : Unescaped right) :
    Unescaped (left ++ right) :=
  List.forall_mem_append.mpr ⟨first, second⟩

/-- A set is a string as it is, if none of its members has to be escaped. -/
theorem unescaped_intercalate {items : List Bytes} (plain : ∀ item ∈ items, Unescaped item) :
    Unescaped ((ascii ",").intercalate items) := by
  induction items with
  | nil => exact List.forall_mem_nil _
  | cons item rest ih =>
      obtain ⟨first, others⟩ := List.forall_mem_cons.mp plain
      cases rest with
      | nil =>
          rw [List.intercalate_singleton]
          exact first
      | cons next more =>
          have separator : Unescaped (ascii ",") := List.forall_mem_singleton.mpr rfl
          rw [List.intercalate_cons_cons]
          exact (first.append separator).append (ih others)

variable (formatting server escape) in
/-- The field is written, and the server takes its text for what is right for its value. -/
def FieldValue.Taken (right : Option ν → Option ν → Prop) (field : FieldValue φ) : Prop :=
  ∃ text, (field.given formatting).written escape = .ok text ∧
    server.Takes right (field.meaning server) text

variable {right : Option ν → Option ν → Prop}

theorem taken_iff {field : FieldValue φ} {text : Bytes}
    (wrote : (field.given formatting).written escape = .ok text) :
    field.Taken formatting server escape right ↔
      server.Takes right (field.meaning server) text := by
  rw [FieldValue.Taken, wrote]
  constructor
  · intro found
    obtain ⟨other, same, takes⟩ := found
    cases same
    exact takes
  · intro takes
    exact ⟨text, rfl, takes⟩

theorem not_taken_of_error {field : FieldValue φ} {failure : Failure}
    (failed : (field.given formatting).written escape = .error failure) :
    ¬ field.Taken formatting server escape right := by
  intro found
  obtain ⟨text, wrote, _takes⟩ := found
  rw [failed] at wrote
  cases wrote

theorem taken_buffer_iff (documented : server.Documented formatting escape)
    (reflexive : ∀ value, right (some value) (some value)) (buffer : SQLBuffer) :
    (FieldValue.string (some buffer)).Taken formatting server escape right ↔
      (FieldValue.string (some buffer)).Accepted formatting server escape right := by
  have wrote : (SsqlsValue.string (some buffer)).written escape =
      buffer.quoteQ.map fun quote => buffer.inStatement escape quote := written_buffer
  cases quoteQ : buffer.quoteQ with
  | error failure =>
      rw [quoteQ] at wrote
      apply iff_of_false (not_taken_of_error wrote)
      intro found
      obtain ⟨quote, known, _takes⟩ := found
      rw [quoteQ] at known
      cases known
  | ok quote =>
      rw [quoteQ] at wrote
      rw [taken_iff wrote, FieldValue.Accepted]
      constructor
      · intro takes
        exact ⟨quote, quoteQ, Or.inr takes⟩
      · intro found
        obtain ⟨other, known, accepted⟩ := found
        rw [quoteQ] at known
        cases known
        cases accepted with
        | inl plain => exact takes_of_plain documented reflexive plain
        | inr takes => exact takes

theorem taken_value_iff (documented : server.Documented formatting escape)
    (reflexive : ∀ value, right (some value) (some value)) (v : SqlValue) :
    (FieldValue.value v : FieldValue φ).Taken formatting server escape right ↔
      (FieldValue.value v : FieldValue φ).Accepted formatting server escape right := by
  by_cases there : v.cType formatting.typedefs = none
  · apply iff_of_false
    · intro found
      obtain ⟨text, wrote, _takes⟩ := found
      rw [FieldValue.given, there] at wrote
      cases wrote
    · intro accepted
      exact accepted.1 there
  · rw [taken_iff (written_value there), FieldValue.Accepted, and_iff_right there,
      FieldValue.meaning]
    constructor
    · intro takes
      obtain ⟨value, read, has, taken⟩ := takes
      obtain ⟨own, known, rfl⟩ := Option.map_eq_some_iff.mp has
      exact ⟨own, known, Or.inr ⟨some own, read, rfl, taken⟩⟩
    · intro found
      obtain ⟨own, known, accepted⟩ := found
      rw [known]
      cases accepted with
      | inl fits =>
          have read := documented.value v own known
          rw [← inStatement_of_fits fits] at read
          exact ⟨some own, some own, rfl, read, reflexive own⟩
      | inr takes => exact takes

/-- What is infinite has no value, whatever is written. -/
theorem taken_real_iff (documented : server.Documented formatting escape) (type : RealType)
    (nullable : Bool) (x : φ) :
    (FieldValue.real type nullable x).Taken formatting server escape right ↔
      (FieldValue.real type nullable x).Accepted formatting server escape right := by
  cases infinite : formatting.infinite x with
  | true =>
      have noValue := documented.infinite x infinite
      apply iff_of_false
      · intro found
        obtain ⟨text, _wrote, value, read, own, _⟩ := found
        rw [FieldValue.meaning, noValue] at own
        cases own
      · intro takes
        obtain ⟨value, read, own, _⟩ := takes
        rw [noValue] at own
        cases own
  | false =>
      have wrote : ((FieldValue.real type nullable x).given formatting).written escape =
          .ok (formatting.print type x) := by
        rw [FieldValue.given, infinite, if_neg Bool.false_ne_true, written_real]
      exact taken_iff wrote

theorem taken_set_iff (documented : server.Documented formatting escape)
    (reflexive : ∀ value, right (some value) (some value)) (items : List Bytes) :
    (FieldValue.set items : FieldValue φ).Taken formatting server escape right ↔
      (FieldValue.set items : FieldValue φ).Accepted formatting server escape right := by
  have wrote : ((FieldValue.set items : FieldValue φ).given formatting).written escape =
      .ok (sqlQuoted ((ascii ",").intercalate items)) := by
    rw [← streamOut_eq_intercalate]
    rfl
  rw [taken_iff wrote, FieldValue.Accepted, FieldValue.meaning]
  constructor
  · intro takes
    exact Or.inr takes
  · intro accepted
    cases accepted with
    | inl plain =>
        have read := literal_plain documented (unescaped_intercalate plain)
        exact ⟨_, _, rfl, read, reflexive _⟩
    | inr takes => exact takes

/-- A field's text is taken for what is right for its value exactly if it is accepted. -/
theorem taken_iff_accepted (documented : server.Documented formatting escape)
    (reflexive : ∀ value, right (some value) (some value)) (field : FieldValue φ)
    (null : field.isNull = true → right none none) :
    field.Taken formatting server escape right ↔
      field.Accepted formatting server escape right := by
  cases field with
  | text data =>
      rw [taken_iff (SsqlsValue.written_text escape data)]
      exact iff_of_true ⟨_, _, rfl, documented.string data, reflexive _⟩ trivial
  | nullText =>
      have kept : escaped escape nullStr = nullStr := documented.kept nullStr unescaped_nullStr
      rw [taken_iff (SsqlsValue.written_nullText escape)]
      refine iff_of_true ⟨_, _, rfl, ?_, null rfl⟩ trivial
      change server.literal (escaped escape nullStr) = _
      rw [kept, documented.null]
  | null =>
      have wrote : (SsqlsValue.null).written escape = .ok nullStr := rfl
      rw [taken_iff wrote]
      exact iff_of_true ⟨_, _, rfl, documented.null, null rfl⟩ trivial
  | string buffer =>
      cases buffer with
      | none =>
          have wrote : (SsqlsValue.string none).written escape = .ok (sqlQuoted []) := rfl
          have read := literal_plain documented (List.forall_mem_nil _)
          rw [taken_iff wrote]
          exact iff_of_true ⟨_, _, rfl, read, reflexive _⟩ trivial
      | some buffer => exact taken_buffer_iff documented reflexive buffer
  | value v => exact taken_value_iff documented reflexive v
  | real type nullable x => exact taken_real_iff documented type nullable x
  | set items => exact taken_set_iff documented reflexive items

end Fields

/-! ### The statement -/

section Rows

variable {φ ν : Type} {formatting : Formatting φ} {server : SqlServer φ ν}
  {escape : EscapeRequest → Bytes × Nat} {ssqls : SsqlsClass}

/-- The columns are distinct, so each has the value of its field. -/
theorem row_of_mem (self : SsqlsRow φ ssqls) {field : Bytes × FieldValue φ}
    (member : field ∈ self.fields) :
    self.row server field.1 = (field.2.meaning server).join := by
  have distinct : (self.fields.map Prod.fst).Nodup := by
    rw [self.names_fields]
    exact ssqls.distinct
  obtain ⟨before, behind, split⟩ := List.append_of_mem member
  have found : self.fields.lookup field.1 = some field.2 := by
    apply List.lookup_eq_some_iff.mpr
    refine ⟨before, behind, split, ?_⟩
    intro other earlier
    rw [split, List.map_append, List.map_cons, List.nodup_append] at distinct
    rw [bne_iff_ne]
    exact (distinct.2.2 other.1 (List.mem_map_of_mem earlier) field.1 List.mem_cons_self).symm
  rw [SsqlsRow.row, found]
  rfl

/-- A field as a part of a clause. -/
def FieldValue.part (formatting : Formatting φ) (escape : EscapeRequest → Bytes × Nat)
    (field : Bytes × FieldValue φ) : Bytes × Bytes :=
  partOf escape (Prod.map id (FieldValue.given formatting) field)

theorem part_of_written {field : Bytes × FieldValue φ} {text : Bytes}
    (wrote : (field.2.given formatting).written escape = .ok text) :
    FieldValue.part formatting escape field = (field.1, text) :=
  partOf_of_written escape wrote

theorem map_partOf (fields : List (Bytes × FieldValue φ)) :
    (fields.map (Prod.map id (FieldValue.given formatting))).map (partOf escape) =
      fields.map (FieldValue.part formatting escape) := by
  rw [List.map_map]
  rfl

variable (formatting escape) in
theorem updateStatement_object_iff (o n : SsqlsRow φ ssqls) (statement : UpdateStatement) :
    updateStatement escape (o.object formatting) (n.object formatting) = .ok statement ↔
      (∀ field ∈ n.fields, ∃ text, (field.2.given formatting).written escape = .ok text) ∧
        (∀ field ∈ o.compared, ∃ text, (field.2.given formatting).written escape = .ok text) ∧
        statement =
          { table := o.table
            assignments := n.fields.map (FieldValue.part formatting escape)
            conditions := o.compared.map (FieldValue.part formatting escape) } := by
  rw [updateStatement_eq_ok_iff, SsqlsRow.fields_object, SsqlsRow.compared_object, map_partOf,
    map_partOf, List.forall_mem_map, List.forall_mem_map]
  rfl

theorem assign_of_field (n : SsqlsRow φ ssqls) (row : Bytes → Option ν)
    {field : Bytes × FieldValue φ} (member : field ∈ n.fields) :
    Relational.assign row ((n.fields.map (FieldValue.part formatting escape)).map (denoted server))
        field.1 =
      (server.literal (FieldValue.part formatting escape field).2).join := by
  have distinct : (((n.fields.map (FieldValue.part formatting escape)).map
      (denoted server)).map Prod.fst).Nodup := by
    rw [List.map_map, List.map_map]
    change (n.fields.map Prod.fst).Nodup
    rw [n.names_fields]
    exact ssqls.distinct
  exact Relational.assign_of_mem row distinct (List.mem_map_of_mem (List.mem_map_of_mem member))

/-- The text of a field is a literal, and assigns the column what the field holds. -/
theorem assigned_iff_takes (n : SsqlsRow φ ssqls) {field : Bytes × FieldValue φ}
    (member : field ∈ n.fields) {text : Bytes}
    (wrote : (field.2.given formatting).written escape = .ok text) :
    (server.literal (FieldValue.part formatting escape field).2 ≠ none ∧
      ∀ row, some (Relational.assign row
          ((n.fields.map (FieldValue.part formatting escape)).map (denoted server)) field.1) =
        field.2.meaning server) ↔
      server.Takes Eq (field.2.meaning server) text := by
  have part := part_of_written wrote
  constructor
  · intro given
    obtain ⟨isLiteral, assigns⟩ := given
    obtain ⟨read, known⟩ := Option.ne_none_iff_exists'.mp isLiteral
    have holds := assigns fun _ => none
    rw [assign_of_field n _ member, known] at holds
    rw [part] at known
    exact ⟨read, read, holds.symm, known, rfl⟩
  · intro takes
    obtain ⟨value, read, own, known, same⟩ := takes
    constructor
    · rw [part, known]
      exact Option.some_ne_none read
    · intro row
      rw [assign_of_field n row member, part, known, own, same]
      rfl

/-- The text of a field is a literal, and the row with the field satisfies the comparison. -/
theorem compared_iff_takes (o : SsqlsRow φ ssqls) {field : Bytes × FieldValue φ}
    (member : field ∈ o.compared) {text : Bytes}
    (wrote : (field.2.given formatting).written escape = .ok text) :
    (server.literal (FieldValue.part formatting escape field).2 ≠ none ∧
      Relational.equals server.equal (o.row server field.1)
        (denoted server (FieldValue.part formatting escape field)).2 = some true) ↔
      server.Takes server.Same (field.2.meaning server) text := by
  have part := part_of_written wrote
  rw [row_of_mem o (List.mem_of_mem_take member), part, denoted]
  constructor
  · intro given
    obtain ⟨isLiteral, holds⟩ := given
    obtain ⟨read, known⟩ := Option.ne_none_iff_exists'.mp isLiteral
    rw [known] at holds
    cases own : field.2.meaning server with
    | none =>
        rw [own] at holds
        cases holds
    | some value =>
        rw [own] at holds
        exact ⟨value, read, rfl, known, holds⟩
  · intro takes
    obtain ⟨value, read, own, known, same⟩ := takes
    rw [known, own]
    exact ⟨Option.some_ne_none read, same⟩

/-- The statement is right exactly if the texts of all fields are taken for what they hold. -/
theorem updateRight_iff_taken (self : Query) (o n : SsqlsRow φ ssqls) :
    UpdateRight formatting server escape self o n ↔
      (∀ field ∈ n.fields, field.2.Taken formatting server escape Eq) ∧
        ∀ field ∈ o.compared, field.2.Taken formatting server escape server.Same := by
  constructor
  · intro right
    obtain ⟨statement, _after, made, _updated, _text, literals, satisfied, assigned⟩ := right
    obtain ⟨allAssigned, allCompared, rfl⟩ :=
      (updateStatement_object_iff formatting escape o n _).mp made
    rw [List.forall_mem_append, List.forall_mem_map, List.forall_mem_map] at literals
    rw [Relational.satisfies_eq_true_iff, List.map_map, List.forall_mem_map] at satisfied
    constructor
    · intro field member
      obtain ⟨text, wrote⟩ := allAssigned field member
      have assigns := fun row => assigned row field member
      exact ⟨text, wrote, (assigned_iff_takes n member wrote).mp ⟨literals.1 field member, assigns⟩⟩
    · intro field member
      obtain ⟨text, wrote⟩ := allCompared field member
      exact ⟨text, wrote, (compared_iff_takes o member wrote).mp
        ⟨literals.2 field member, satisfied field member⟩⟩
  · intro taken
    have assigned : ∀ field ∈ n.fields, _ := fun field member =>
      (taken.1 field member).elim fun _ found => (assigned_iff_takes n member found.1).mpr found.2
    have compared : ∀ field ∈ o.compared, _ := fun field member =>
      (taken.2 field member).elim fun _ found => (compared_iff_takes o member found.1).mpr found.2
    have made := (updateStatement_object_iff formatting escape o n _).mpr
      ⟨fun field member => (taken.1 field member).imp fun _ found => found.1,
        fun field member => (taken.2 field member).imp fun _ found => found.1, rfl⟩
    have wrote := update_eq escape self (o.object formatting) (n.object formatting)
    rw [made] at wrote
    refine ⟨_, _, made, wrote, rfl, ?_, ?_, ?_⟩
    · rw [List.forall_mem_append, List.forall_mem_map, List.forall_mem_map]
      constructor
      · intro field member
        exact (assigned field member).1
      · intro field member
        exact (compared field member).1
    · rw [Relational.satisfies_eq_true_iff, List.map_map, List.forall_mem_map]
      intro field member
      exact (compared field member).2
    · intro row field member
      exact (assigned field member).2 row

end Rows

/-! A server that knows NULL, strings in quotes, integers and the time. -/

def Literal.value : Literal → Option Literal
  | .null => none
  | .number text => some (.number text)
  | .string data => some (.string data)

def exampleServer : SqlServer (Option Int) Literal where
  literal text :=
    if text = ascii "NOW()" then some (some (.string (ascii "2011-12-13 14:15:16")))
    else
      (InsertStatement.readLiteral (text ++ ascii ")")).bind fun read =>
        if read.2 = ascii ")" then some read.1.value else none
  text := .string
  integer v := .number (intText v)
  real x := x.map fun v => .number (intText v)
  date d := some (.string d.str)
  time t := some (.string t.str)
  dateTime dt := some (.string dt.str)
  now := .string (ascii "2011-12-13 14:15:16")
  equal left right := left = right

/-- Floating point numbers that are whole or infinite. -/
def exampleFormatting : Formatting (Option Int) where
  typedefs := .builtin
  global := .classic
  print _ x := (x.map intText).getD (ascii "inf")
  infinite x := x.isNone

theorem exampleServer_literal {text : Bytes} {literal : Literal}
    (reads : InsertStatement.readLiteral.Reads InsertStatement.EndsItem text literal)
    (notNow : text.head? ≠ some (byte 'N') ∨ text = nullStr) :
    exampleServer.literal text = some literal.value := by
  have other : text ≠ ascii "NOW()" := by
    intro same
    rw [same] at notNow
    revert notNow
    decide
  have read := reads (ascii ")") (InsertStatement.endsItem_close [])
  simp only [exampleServer]
  rw [if_neg other, read]
  rfl

theorem exampleServer_quoted {text data : Bytes}
    (reads : InsertStatement.readLiteral.Reads InsertStatement.EndsItem (sqlQuoted text)
      (.string data)) : exampleServer.literal (sqlQuoted text) = some (some (.string data)) := by
  apply exampleServer_literal reads
  left
  intro same
  exact absurd (Option.some.inj same) (by decide)

theorem exampleServer_documented :
    exampleServer.Documented exampleFormatting SQLStream.escapeStringGeneric where
  null := exampleServer_literal InsertStatement.reads_null (Or.inr rfl)
  string data :=
    exampleServer_quoted (InsertStatement.reads_string (undone_generic.text data))
  kept data plain := by
    have source : (EscapeRequest.mk [] (some data) data.length).source = data := List.take_length
    rw [escaped, SQLStream.escapeStringGeneric_eq, source]
    exact SQLStream.literals.escape_of_uncoded plain
  value v own has := by
    have quoted {text : Bytes} (characters : ∀ c ∈ text, Temporal.Character c) :
        exampleServer.literal (sqlQuoted text) = some (some (.string text)) := by
      apply exampleServer_quoted
      apply reads_uncoded
      intro c member
      exact (characters c member).uncoded
    cases v with
    | integer type notChar v =>
        cases has
        have first := head?_of_characters (character_intText v.val)
        exact exampleServer_literal (reads_intText v.val) (Or.inl first)
    | date d =>
        cases has
        exact quoted (Date.character_str d)
    | time t =>
        cases has
        exact quoted (Time.character_str t)
    | dateTime dt =>
        rw [SqlServer.value] at has
        rw [SqlValue.sqlText]
        cases now : dt.now with
        | true =>
            rw [now] at has
            cases has
            rfl
        | false =>
            rw [now] at has
            cases has
            exact quoted (DateTime.character_str now)
  equalSelf value := decide_eq_true rfl
  infinite x isInfinite := by
    cases x with
    | none => rfl
    | some v => cases isInfinite

def numbered : SsqlsClass where
  names := [ascii "id", ascii "since", ascii "note"]
  compcount := 2
  distinct := by decide
  positive := by decide
  within := by decide

def numberedRow (id since note : FieldValue (Option Int)) : SsqlsRow (Option Int) numbered where
  table := ascii "t"
  values := [id, since, note]
  size := rfl

/-- An `int`. -/
def numberedId (v : IntType.signedInt.Value) : FieldValue (Option Int) :=
  .value (.integer .signedInt (by decide) v)

def numberedSince : FieldValue (Option Int) :=
  .value (.date { year := 2011, month := 12, day := 13 })

end LibTabula
