/-
SSQLS objects in INSERT statements.

The fields are integers, strings, blobs, dates and times in the ranges that their types
document, and the nullable ones of these. A field goes into the statement through an adapter,
whose text has the digits of the global locale.
-/

import LibTabula.LocaleText
import LibTabula.SqlInsertions
import LibTabula.SsqlsLists
import LibTabula.SsqlsPopulate
import LibTabula.UpdateClauses

set_option autoImplicit false

namespace LibTabula

open Foundation
open Foundation.Reader (Reads further)
open Query (isdigit)
open SQLStream (EscapeRequest)

/-! ### Fields -/

/-- The table of types has the type. -/
def IntType.tabulated (typedefs : IntTypedefs) (self : IntType) : Bool :=
  (self.cType typedefs).isSome

theorem IntType.notChar {typedefs : IntTypedefs} {type : IntType}
    (known : type.tabulated typedefs = true) : type ≠ .signedChar ∧ type ≠ .unsignedChar := by
  cases type with
  | signedChar | unsignedChar =>
      cases typedefs with
      | _ => cases known
  | _ => exact ⟨IntType.noConfusion, IntType.noConfusion⟩

/-- The types of fields whose values an adapter can hold, as the library is compiled. -/
inductive StoredType (typedefs : IntTypedefs)
  | integer (type : IntType) (known : type.tabulated typedefs = true)
  | text
  | blob
  | date
  | time
  | dateTime

variable {typedefs : IntTypedefs}

namespace StoredType

/-- The values that a field can have. -/
def Object : StoredType typedefs → Type
  | .integer type _ => type.Value
  | .text => Bytes
  | .blob => Bytes
  | .date => { d : Date // d.Documented }
  | .time => { t : Time // t.Documented ∧ t.hour ≤ 99 }
  | .dateTime => { dt : DateTime // dt.now = false ∧ dt.Documented }

def scalar : StoredType typedefs → ScalarType
  | .integer type _ => .int type
  | .text => .stdString
  | .blob => .string
  | .date => .date
  | .time => .time
  | .dateTime => .dateTime

def value : (type : StoredType typedefs) → type.Object → type.scalar.Value
  | .integer _ _, v => (v.val : Int)
  | .text, data => (data : Bytes)
  | .blob, data => (some { data := data, isNull := false } : Option Content)
  | .date, d => (d.val : Date)
  | .time, t => (t.val : Time)
  | .dateTime, dt => (dt.val : DateTime)

/-- The value that is inserted through the constructors for numbers and dates. -/
def sqlValue : (type : StoredType typedefs) → type.Object → Option SqlValue
  | .integer type known, v => some (.integer type (IntType.notChar known) v)
  | .date, d => some (.date d.val)
  | .time, t => some (.time t.val)
  | .dateTime, dt => some (.dateTime dt.val)
  | .text, _ | .blob, _ => none

end StoredType

def SqlValue.field (typedefs : IntTypedefs) (global : Locale) (self : SqlValue) : SsqlsValue :=
  .value (self.stream2string global) (self.cType typedefs)

/-- What a field holds; a `String` is made of a text. -/
def StoredType.field (global : Locale) :
    (type : StoredType typedefs) → type.Object → SsqlsValue
  | .integer type known, v =>
      (SqlValue.integer type (IntType.notChar known) v).field typedefs global
  | .text, data => .text data
  | .blob, data =>
      .string (some { data := data, type := SQLBuffer.stringType, isNull := false })
  | .date, d => (SqlValue.date d.val).field typedefs global
  | .time, t => (SqlValue.time t.val).field typedefs global
  | .dateTime, dt => (SqlValue.dateTime dt.val).field typedefs global

inductive StoredKind (typedefs : IntTypedefs)
  | plain (type : StoredType typedefs)
  | null (type : StoredType typedefs)

namespace StoredKind

def Object : StoredKind typedefs → Type
  | .plain type => type.Object
  | .null type => Option type.Object

def columnType : StoredKind typedefs → ColumnType
  | .plain type => .plain type.scalar
  | .null type => .null type.scalar

def value : (kind : StoredKind typedefs) → kind.Object → kind.columnType.Value
  | .plain type, object => type.value object
  | .null type, object => Option.map type.value object

/-- A null of a string type is made with the type of strings. -/
def field (global : Locale) : (kind : StoredKind typedefs) → kind.Object → SsqlsValue
  | .plain type, object => type.field global object
  | .null type, some object =>
      match type, object with
      | .blob, data => .text data
      | type, object => type.field global object
  | .null .text, none | .null .blob, none => .nullText
  | .null _, none => .null

end StoredKind

/-! ### Objects -/

structure StoredColumn (typedefs : IntTypedefs) where
  name : CString
  kind : StoredKind typedefs

def StoredColumn.column (self : StoredColumn typedefs) : Column :=
  { name := self.name, type := self.kind.columnType }

def StoredFields : List (StoredColumn typedefs) → Type
  | [] => Unit
  | column :: rest => column.kind.Object × StoredFields rest

namespace StoredFields

/-- The fields as they are populated. -/
def values : (columns : List (StoredColumn typedefs)) → StoredFields columns →
    Fields (columns.map StoredColumn.column)
  | [], _ => ()
  | column :: rest, (object, others) => (column.kind.value object, values rest others)

def held (global : Locale) : (columns : List (StoredColumn typedefs)) →
    StoredFields columns → List (Bytes × SsqlsValue)
  | [], _ => []
  | column :: rest, (object, others) =>
      (column.name.chars, column.kind.field global object) :: held global rest others

end StoredFields

/-- An object with what `table()` says. -/
structure StoredObject (columns : List (StoredColumn typedefs)) where
  table : Bytes
  fields : StoredFields columns

/-- The manipulators of the lists: `quote` for the values, and `do_nothing` for the names. -/
def insertionManip (escape : EscapeRequest → Bytes × Nat) : ListManip SsqlsValue where
  value field :=
    match field.written escape with
    | .ok text => .ofText text
    | .error failure => { text := [], failure := some failure }
  quote := .ofText (ascii "\x60")

section Texts

variable (escape : EscapeRequest → Bytes × Nat) (global : Locale)
  {columns : List (StoredColumn typedefs)}

/-- `value_list()`. -/
def StoredObject.valueList (self : StoredObject columns) : Output :=
  wholeList (ascii ",")
    ((StoredFields.held global columns self.fields).map (valueItem (insertionManip escape)))

/-- `field_list()`. -/
def StoredObject.fieldList (self : StoredObject columns) : Output :=
  wholeList (ascii ",")
    ((StoredFields.held global columns self.fields).map (fieldItem (insertionManip escape)))

/-- What the statement builders take of an object. -/
def storedSsqls (columns : List (StoredColumn typedefs)) : SSQLS (StoredObject columns) where
  table object := object.table
  fieldList object := (object.fieldList escape global).text
  valueList object := (object.valueList escape global).text

end Texts

end LibTabula
