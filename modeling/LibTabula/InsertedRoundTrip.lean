/-
SSQLS objects that are inserted and fetched again.

A server keeps the literals of a statement and hands them over as cells: the text of a
number, the bytes of a string, or a null pointer. An object that is populated from a row with
these cells, in whatever columns, has the fields of the object that was inserted.
-/

import LibTabula.InsertedRows

set_option autoImplicit false

namespace LibTabula

open Foundation
open FieldNames (Same)
open Query (isdigit)
open SQLStream (EscapeRequest)

/-! ### Cells -/

/-- What the client library hands over for a literal. -/
def Literal.cell : Literal → Option Bytes
  | .null => none
  | .number text => some text
  | .string data => some data

def cellContent (cell : Option Bytes) : Content :=
  { data := cell.getD (ascii "NULL"), isNull := cell.isNone }

/-- The columns of a result. -/
structure ResultColumns where
  fields : List Field
  few : fields.length < 2 ^ 32
  noNul : ∀ field ∈ fields, 0 ∉ field.name
  distinct : (fields.map Field.name).Pairwise fun one other => ¬ Same one other

namespace ResultColumns

variable (self : ResultColumns)

def tableRow (raw : RawRow self.fields) (te : Bool) : TableRow where
  row := raw.row te
  wellFormed := RawRow.wellFormed_row self.noNul raw te
  few := by
    change (self.fields.map Field.name).length < 2 ^ 32
    rw [List.length_map]
    exact self.few
  distinct := self.distinct

/-- The row has for each column of a statement the cell of its literal; there may be other
columns, and their order does not matter. -/
def Stores (raw : RawRow self.fields) (columns : List Bytes) (literals : List Literal) : Prop :=
  ∀ pair ∈ columns.zip literals, ∃ (i : Nat) (field : Field), self.fields[i]? = some field ∧
    Same field.name pair.1 ∧ raw.cells[i]? = some pair.2.cell

theorem holds_cell {raw : RawRow self.fields} (te : Bool) {i : Nat} {field : Field}
    {cell : Option Bytes} (there : self.fields[i]? = some field) {name : CString}
    (same : Same field.name name.chars) (stored : raw.cells[i]? = some cell) :
    (self.tableRow raw te).Holds name (cellContent cell) := by
  refine ⟨i, field.name, fetchCell cell field.type, ?_, same, ?_, rfl⟩
  · change (self.fields.map Field.name)[i]? = some field.name
    rw [List.getElem?_map, there]
    rfl
  · change (List.zipWith fetchCell raw.cells (self.fields.map Field.type))[i]? = _
    rw [List.getElem?_zipWith, stored, List.getElem?_map, there]
    rfl

end ResultColumns

/-! ### Converting a cell -/

variable {typedefs : IntTypedefs}

section Converting

variable (typeName : IntType → Bytes)

theorem numeral_intText (n : Int) : Numeral (intText n) n := by
  have value : Query.atoi ((Decimal.digits n.natAbs).map digitChar) = n.natAbs := by
    rw [atoi_digits _ fun _ => Decimal.digit_lt_ten, Decimal.value_digits]
  have ending : NumeralEnd [] := ⟨[], [], rfl, List.forall_mem_nil _, Or.inl rfl⟩
  unfold intText
  by_cases negative : n < 0
  · rw [if_pos negative]
    refine ⟨[], [byte '-'], _, [], ?_, List.forall_mem_nil _, digits_ne_nil n.natAbs,
      isdigit_digits n.natAbs, ending, Or.inr ⟨rfl, ?_⟩⟩
    · rw [List.append_nil]
      rfl
    · rw [value]
      omega
  · rw [if_neg negative]
    refine ⟨[], [], _, [], ?_, List.forall_mem_nil _, digits_ne_nil n.natAbs,
      isdigit_digits n.natAbs, ending, Or.inl ⟨Or.inl rfl, ?_⟩⟩
    · rw [List.append_nil]
      rfl
    · rw [value]
      omega

/-- A numeral of the type is converted to its value. -/
theorem conv_of_numeral {text : Bytes} {type : IntType} {v : Int} (numeral : Numeral text v)
    (within : type.InRange v) : (MyString.mk (some text)).conv typeName type = .ok v := by
  cases body : text.dropWhile isspace with
  | nil =>
      have blank := (dropWhile_isspace_eq_nil_iff text).mp body
      exact absurd numeral (not_numeral_of_blank blank v)
  | cons c rest =>
      obtain ⟨some_, ending, same⟩ := (numeral_iff body v).mp numeral
      rw [same] at within ⊢
      have fits := representable_of_inRange within
      have converts := conv_converts typeName type body
      cases converting : (MyString.mk (some text)).conv typeName type with
      | error bad =>
          rw [converting] at converts
          cases converts with
          | noNumber bad none goesOn => exact absurd none some_
          | garbage bad some fits notLoose => exact absurd ending.loose notLoose
          | overflow bad some overflow goesOn =>
              rw [fits] at overflow
              cases overflow
      | ok result =>
          rw [converting] at converts
          cases converts with
          | signAlone none ended => exact absurd none some_
          | converted some fits loose => rw [narrow_of_inRange within]
          | limit some overflow ended =>
              rw [fits] at overflow
              cases overflow

theorem convTemporal_of_run {α : Type} (initial : α) {value : α} {convert : EStateM Failure Bytes α}
    {content : Content}
    (converts : ∀ rest, convert.run (content.data ++ rest) = .ok value rest) (behind : Bytes) :
    (StoredString.mk (some content) behind).convTemporal initial convert = .ok value := by
  simp only [StoredString.convTemporal, converts]
  rfl

theorem StoredType.conv_literal (type : StoredType typedefs) (object : type.Object)
    (behind : Bytes) :
    type.scalar.conv typeName ⟨some (cellContent (type.literal object).cell), behind⟩ =
      .ok (type.value object) := by
  cases type with
  | text => rfl
  | blob => rfl
  | integer type known =>
      apply mapError_eq_ok
      exact conv_of_numeral typeName (numeral_intText _) object.property
  | date =>
      have converts := Date.convert_str_of_documented object.property
      exact convTemporal_of_run (⟨0, 0, 0⟩ : Date) converts behind
  | time =>
      have converts := Time.convert_str_of_documented object.property.1 object.property.2
      exact convTemporal_of_run (⟨0, 0, 0⟩ : Time) converts behind
  | dateTime =>
      have converts := DateTime.convert_str object.property.1 object.property.2
      exact convTemporal_of_run DateTime.default converts behind

theorem StoredType.cell_isNone (type : StoredType typedefs) (object : type.Object) :
    (type.literal object).cell.isNone = false := by
  cases type with
  | _ => rfl

theorem StoredKind.conv_literal (kind : StoredKind typedefs) (object : kind.Object)
    (behind : Bytes) :
    kind.columnType.conv typeName ⟨some (cellContent (kind.literal object).cell), behind⟩ =
      .ok (kind.value object) := by
  cases kind with
  | plain type => exact type.conv_literal typeName object behind
  | null type =>
      cases object with
      | none => rfl
      | some object =>
          have converted := type.conv_literal typeName object behind
          have given : (StoredString.mk (some (cellContent (type.literal object).cell))
              behind).isNull = false := type.cell_isNone object
          change (if StoredString.isNull _ then _ else _) = _
          rw [literal, given]
          exact congrArg (Except.map some) converted

end Converting

/-! ### Objects -/

section Objects

variable (typeName : IntType → Bytes) {result : ResultColumns}

theorem fetch_stored {raw : RawRow result.fields} (te : Bool)
    {column : StoredColumn typedefs} (object : column.kind.Object) {i : Nat} {field : Field}
    (there : result.fields[i]? = some field)
    (same : Same field.name column.name.chars)
    (stored : raw.cells[i]? = some (column.kind.literal object).cell) (memory : Nat → Bytes) :
    (raw.row te).quiet.fetch typeName memory column.column = .ok (column.kind.value object) := by
  have held := result.holds_cell te there same stored
  obtain ⟨j, fetched⟩ :=
    fetch_present typeName (result.tableRow raw te) column.column held memory
  exact fetched.trans (column.kind.conv_literal typeName object (memory j))

/-- Column by column, whatever the fields held before. -/
theorem assignFields_stored {raw : RawRow result.fields} (te : Bool) (memory : Nat → Bytes)
    (columns : List (StoredColumn typedefs)) {fields : StoredFields columns}
    (stores : result.Stores raw (columns.map fun column => column.name.chars)
      (StoredFields.literals columns fields)) (s : Fields (columns.map StoredColumn.column)) :
    assignFields typeName (raw.row te).quiet memory (columns.map StoredColumn.column) s =
      (.ok (), StoredFields.values columns fields) := by
  induction columns with
  | nil => rfl
  | cons column rest ih =>
      obtain ⟨object, others⟩ := fields
      obtain ⟨i, field, there, same, stored⟩ := stores _ List.mem_cons_self
      have behind := ih (fun pair member => stores pair (List.mem_cons_of_mem _ member)) s.2
      have fetched := fetch_stored typeName te object there same stored memory
      have assigned := assignFields_ok typeName fetched (rest.map StoredColumn.column) s
      rw [behind] at assigned
      exact assigned

/-- Populating from the row gives the object's fields, and leaves the row as it was. -/
theorem populate_stored {raw : RawRow result.fields} (te : Bool) (memory : Nat → Bytes)
    {columns : List (StoredColumn typedefs)} {fields : StoredFields columns}
    (stores : result.Stores raw (columns.map fun column => column.name.chars)
      (StoredFields.literals columns fields)) (s : Fields (columns.map StoredColumn.column)) :
    populate typeName (columns.map StoredColumn.column) s (raw.row te) memory =
      { outcome := .ok (), fields := StoredFields.values columns fields, row := raw.row te } := by
  have assigned := assignFields_stored typeName te memory columns stores s
  change Populated.mk (assignFields typeName (raw.row te).quiet memory _ s).1
    (assignFields typeName (raw.row te).quiet memory _ s).2 (raw.row te) = _
  rw [assigned]

end Objects

/-! ### From an object to an object -/

section RoundTrip

variable (escape : EscapeRequest → Bytes × Nat) (global : Locale) (typeName : IntType → Bytes)

/-- The statement that `insert` writes is read; an object that is populated from a row which
has the cells of a row of that statement is the one inserted. -/
structure ComesBack {columns : List (StoredColumn typedefs)} (query : Query)
    (items : List (StoredObject columns)) (statement : InsertStatement) : Prop where
  read :
    InsertStatement.read (query.insertRange (storedSsqls escape global columns) items).sbuffer =
      some statement
  each : statement.rows.length = items.length
  populated : ∀ (i : Nat) (object : StoredObject columns) (literals : List Literal),
    items[i]? = some object → statement.rows[i]? = some literals →
      ∀ (result : ResultColumns) (raw : RawRow result.fields),
        result.Stores raw statement.columns literals → ∀ te memory s,
          populate typeName (columns.map StoredColumn.column) s (raw.row te) memory =
            { outcome := .ok (), fields := StoredFields.values columns object.fields
              row := raw.row te }

variable {escape global}

/-- A result with another column, the names in another case and another order. -/
def shuffled : ResultColumns where
  fields :=
    [{ name := ascii "day", type := { base := .date, flags := tfDefault } },
      { name := ascii "ID", type := { base := .integer, flags := tfDefault } },
      { name := ascii "total", type := { base := .real, flags := tfDefault } },
      { name := ascii "Note", type := { base := .text, flags := tfDefault } }]
  few := by decide
  noNul := by decide
  distinct := by decide

example : shuffled.Stores
    { cells := [some (ascii "2024-02-29"), some (ascii "-1"), none, some (ascii "it's")]
      complete := rfl }
    (orderColumns.map fun column => column.name.chars)
    (StoredFields.literals orderColumns (order ⟨-1, by decide⟩ (some (ascii "it's"))).fields) := by
  intro pair member
  rcases List.mem_cons.mp member with rfl | member
  · exact ⟨1, _, rfl, by decide, by decide +kernel⟩
  rcases List.mem_cons.mp member with rfl | member
  · exact ⟨3, _, rfl, by decide, rfl⟩
  rw [List.mem_singleton.mp member]
  exact ⟨0, _, rfl, by decide, by decide +kernel⟩

end RoundTrip

end LibTabula
