/-
The clauses of `update`.

The SET clause is the new row's list of all its fields, the WHERE clause the old
row's list of those that take part in comparisons. A field that is null is written
as `NULL`, in both clauses.
-/

import LibTabula.Foundation.Relational
import LibTabula.QueryTemplate
import LibTabula.SQLStream

set_option autoImplicit false

namespace LibTabula

open Foundation
open SQLStream (EscapeRequest)

/-- What is given to the manipulator for a field of a structure, by the constructor of the
adapter that is made of it: a string or a character, a null string, a `String` with the buffer
it may have, the text of a number or a date with the entry that its type has in the type
table, an infinite number, any other null, or a set. -/
inductive SsqlsValue where
  | text (data : Bytes)
  | nullText
  | string (buffer : Option SQLBuffer)
  | value (digits : Bytes) (type : Option CType)
  | infinite (type : CType)
  | null
  | set (items : Bytes)
deriving DecidableEq, Repr

namespace SsqlsValue

/-- The conversion to `SQLTypeAdapter`, which a set does not need. -/
def adapter : SsqlsValue → Except Failure SQLTypeAdapter
  | .text data => .ok (.ofString data false)
  | .nullText =>
      .ok
        { buffer := some { data := nullStr, type := SQLBuffer.stringType, isNull := true }
          isProcessed := false }
  | .string buffer => .ok { buffer := buffer, isProcessed := false }
  | .value digits (some type) => SQLTypeAdapter.ofValue digits type
  -- The message goes on with the compiler's name for the type.
  | .value _ none => .error (.typeLookupFailed "Failed to find libtabula type info for ")
  | .infinite type => do
      let zero ← SQLTypeAdapter.ofValue (ascii "0") type
      .ok
        { buffer := zero.buffer.map fun buffer => { buffer with isNull := true }
          isProcessed := false }
  | .null => .ok .ofNull
  | .set items => .ok (.ofString items false)

/-- `<< quote <<`. -/
def written (escape : EscapeRequest → Bytes × Nat) : SsqlsValue → Except Failure Bytes
  | .set items => .ok (ascii "'" ++ items ++ ascii "'")
  | field => do SQLStream.quoteType1 escape (← field.adapter)

end SsqlsValue

/-- The columns of a structure, of which the first `compcount` take part in
comparisons. -/
structure SsqlsClass where
  names : List Bytes
  compcount : Nat
  distinct : names.Nodup
  positive : 0 < compcount
  within : compcount ≤ names.length

structure SsqlsObject (ssqls : SsqlsClass) where
  table : Bytes
  values : List SsqlsValue
  size : values.length = ssqls.names.length

abbrev SsqlsField := Bytes × SsqlsValue

section Lists

variable (escape : EscapeRequest → Bytes × Nat) (delim comp : Bytes)

def nameEquals (name : Bytes) : Bytes := ascii "\x60" ++ name ++ ascii "\x60" ++ comp

/-- `equal_list`, inserted into the query. -/
def equalList : List SsqlsField → Except Failure Bytes
  | [] => .ok []
  | [(name, value)] => do
      let text ← value.written escape
      pure (nameEquals comp name ++ text)
  | (name, value) :: field :: rest => do
      let text ← value.written escape
      let behind ← equalList (field :: rest)
      pure (nameEquals comp name ++ text ++ delim ++ behind)

/-- `cus_equal_list` with a vector of the fields that it includes. -/
def cusEqualList : List Bool → List SsqlsField → (before : Bool) → Except Failure Bytes
  | true :: include_, (name, value) :: rest, before => do
      let text ← value.written escape
      let behind ← cusEqualList include_ rest true
      pure ((if before then delim else []) ++ nameEquals comp name ++ text ++ behind)
  | false :: include_, _ :: rest, before => cusEqualList include_ rest before
  | _, _, _ => .ok []

end Lists

namespace SsqlsObject

variable {ssqls : SsqlsClass}

def fields (self : SsqlsObject ssqls) : List SsqlsField := ssqls.names.zip self.values

/-- The vector for `sql_use_compare`. -/
def useCompare (ssqls : SsqlsClass) : List Bool :=
  List.replicate ssqls.compcount true ++
    List.replicate (ssqls.names.length - ssqls.compcount) false

def compared (self : SsqlsObject ssqls) : List SsqlsField := self.fields.take ssqls.compcount

end SsqlsObject

/-- `update`. It throws where the type of a field is not in the type table. -/
def Query.update {ssqls : SsqlsClass} (escape : EscapeRequest → Bytes × Nat) (self : Query)
    (o n : SsqlsObject ssqls) : Except Failure Query := do
  let set_ ← equalList escape (ascii ",") (ascii " = ") n.fields
  let where_ ← cusEqualList escape (ascii " AND ") (ascii " = ") (SsqlsObject.useCompare ssqls)
    o.fields false
  pure (self.reset.write (ascii "UPDATE \x60" ++ o.table ++ ascii "\x60 SET " ++ set_ ++
    ascii " WHERE " ++ where_))

/-! ### The statement that is written -/

/-- The columns and texts of a clause. -/
abbrev Clause := List (Bytes × Bytes)

def Clause.text (delim comp : Bytes) (clause : Clause) : Bytes :=
  delim.intercalate (clause.map fun part => nameEquals comp part.1 ++ part.2)

structure UpdateStatement where
  table : Bytes
  assignments : Clause
  conditions : Clause

def UpdateStatement.text (self : UpdateStatement) : Bytes :=
  ascii "UPDATE \x60" ++ self.table ++ ascii "\x60 SET " ++
    self.assignments.text (ascii ",") (ascii " = ") ++ ascii " WHERE " ++
    self.conditions.text (ascii " AND ") (ascii " = ")

section Writing

variable (escape : EscapeRequest → Bytes × Nat) (delim comp : Bytes)

def clauseOf : List SsqlsField → Except Failure Clause
  | [] => .ok []
  | (name, value) :: rest => do
      let text ← value.written escape
      let behind ← clauseOf rest
      pure ((name, text) :: behind)

/-- The parts behind the first one. -/
def Clause.further (clause : Clause) : Bytes :=
  (clause.map fun part => delim ++ (nameEquals comp part.1 ++ part.2)).flatten

theorem Clause.further_cons (part : Bytes × Bytes) (rest : Clause) :
    Clause.further delim comp (part :: rest) =
      delim ++ (nameEquals comp part.1 ++ part.2) ++ Clause.further delim comp rest := by
  rw [Clause.further, List.map_cons, List.flatten_cons]
  rfl

theorem Clause.text_cons (part : Bytes × Bytes) (rest : Clause) :
    Clause.text delim comp (part :: rest) =
      nameEquals comp part.1 ++ part.2 ++ Clause.further delim comp rest := by
  induction rest generalizing part with
  | nil =>
      rw [Clause.text, List.map_singleton, List.intercalate_singleton, Clause.further,
        List.map_nil, List.flatten_nil, List.append_nil]
  | cons next more ih =>
      have behind := ih next
      rw [Clause.text, List.map_cons] at behind ⊢
      rw [List.map_cons, List.intercalate_cons_cons, behind, Clause.further_cons]
      simp only [List.append_assoc]

theorem exists_of_clauseOf_cons {field : SsqlsField} {rest : List SsqlsField} {clause : Clause}
    (made : clauseOf escape (field :: rest) = .ok clause) :
    ∃ text behind, field.2.written escape = .ok text ∧ clauseOf escape rest = .ok behind ∧
      clause = (field.1, text) :: behind := by
  obtain ⟨name, value⟩ := field
  rw [clauseOf] at made
  obtain ⟨text, wrote, later⟩ := exists_of_bind_ok made
  obtain ⟨behind, others, same⟩ := exists_of_bind_ok later
  exact ⟨text, behind, wrote, others, (Except.ok.inj same).symm⟩

theorem equalList_eq (fields : List SsqlsField) :
    equalList escape delim comp fields =
      (clauseOf escape fields).map (Clause.text delim comp) := by
  induction fields with
  | nil => rfl
  | cons field rest ih =>
      obtain ⟨name, value⟩ := field
      cases rest with
      | nil =>
          rw [equalList, clauseOf, clauseOf]
          cases value.written escape with
          | error failure => rfl
          | ok text =>
              change _ = Except.ok (Clause.text delim comp [(name, text)])
              rw [Clause.text, List.map_singleton, List.intercalate_singleton]
              rfl
      | cons next more =>
          rw [equalList, clauseOf, ih]
          cases value.written escape with
          | error failure => rfl
          | ok text =>
              cases made : clauseOf escape (next :: more) with
              | error failure => rfl
              | ok parts =>
                  obtain ⟨other, behind, _, _, rfl⟩ := exists_of_clauseOf_cons escape made
                  change Except.ok _ =
                    Except.ok (Clause.text delim comp ((name, text) :: (next.1, other) :: behind))
                  rw [Clause.text_cons, Clause.text_cons, Clause.further_cons]
                  simp only [List.append_assoc]

theorem cusEqualList_excluded (count : Nat) (fields : List SsqlsField) (before : Bool) :
    cusEqualList escape delim comp (List.replicate count false) fields before = .ok [] := by
  induction count generalizing fields with
  | zero => rfl
  | succ count ih =>
      cases fields with
      | nil => rfl
      | cons field rest => exact ih rest

theorem cusEqualList_further (count excluded : Nat) (fields : List SsqlsField)
    (size : fields.length = count + excluded) :
    cusEqualList escape delim comp
        (List.replicate count true ++ List.replicate excluded false) fields true =
      (clauseOf escape (fields.take count)).map (Clause.further delim comp) := by
  induction count generalizing fields with
  | zero => exact cusEqualList_excluded escape delim comp excluded fields true
  | succ count ih =>
      cases fields with
      | nil =>
          rw [List.length_nil] at size
          omega
      | cons field rest =>
          obtain ⟨name, value⟩ := field
          have smaller : rest.length = count + excluded := by
            rw [List.length_cons] at size
            omega
          rw [List.replicate_succ, List.cons_append, cusEqualList, List.take_succ_cons, clauseOf,
            ih rest smaller]
          cases value.written escape with
          | error failure => rfl
          | ok text =>
              cases clauseOf escape (rest.take count) with
              | error failure => rfl
              | ok parts =>
                  change Except.ok _ = Except.ok (Clause.further delim comp ((name, text) :: parts))
                  rw [if_pos rfl, Clause.further_cons]
                  simp only [List.append_assoc]

/-- The included fields are the first ones, so the vector makes a list of these. -/
theorem cusEqualList_eq (count excluded : Nat) (fields : List SsqlsField)
    (size : fields.length = count + excluded) :
    cusEqualList escape delim comp
        (List.replicate count true ++ List.replicate excluded false) fields false =
      (clauseOf escape (fields.take count)).map (Clause.text delim comp) := by
  cases count with
  | zero => exact cusEqualList_excluded escape delim comp excluded fields false
  | succ count =>
      cases fields with
      | nil =>
          rw [List.length_nil] at size
          omega
      | cons field rest =>
          obtain ⟨name, value⟩ := field
          have smaller : rest.length = count + excluded := by
            rw [List.length_cons] at size
            omega
          rw [List.replicate_succ, List.cons_append, cusEqualList, List.take_succ_cons, clauseOf,
            cusEqualList_further escape delim comp count excluded rest smaller]
          cases value.written escape with
          | error failure => rfl
          | ok text =>
              cases clauseOf escape (rest.take count) with
              | error failure => rfl
              | ok parts =>
                  change Except.ok _ = Except.ok (Clause.text delim comp ((name, text) :: parts))
                  rw [Clause.text_cons]
                  rfl

/-- A field as a part of a clause. -/
def partOf (field : SsqlsField) : Bytes × Bytes :=
  (field.1, ((field.2.written escape).toOption).getD [])

theorem partOf_of_written {field : SsqlsField} {text : Bytes}
    (wrote : field.2.written escape = .ok text) : partOf escape field = (field.1, text) := by
  rw [partOf, wrote]
  rfl

theorem clauseOf_eq_ok_iff (fields : List SsqlsField) (clause : Clause) :
    clauseOf escape fields = .ok clause ↔
      (∀ field ∈ fields, ∃ text, field.2.written escape = .ok text) ∧
        clause = fields.map (partOf escape) := by
  induction fields generalizing clause with
  | nil =>
      constructor
      · intro made
        exact ⟨List.forall_mem_nil _, (Except.ok.inj made).symm⟩
      · intro both
        obtain ⟨_, rfl⟩ := both
        rfl
  | cons field rest ih =>
      constructor
      · intro made
        obtain ⟨text, behind, wrote, others, rfl⟩ := exists_of_clauseOf_cons escape made
        obtain ⟨all, same⟩ := (ih behind).mp others
        refine ⟨List.forall_mem_cons.mpr ⟨⟨text, wrote⟩, all⟩, ?_⟩
        rw [List.map_cons, partOf_of_written escape wrote, ← same]
      · intro both
        obtain ⟨all, rfl⟩ := both
        obtain ⟨⟨text, wrote⟩, others⟩ := List.forall_mem_cons.mp all
        obtain ⟨name, value⟩ := field
        rw [clauseOf, (ih _).mpr ⟨others, rfl⟩, List.map_cons, partOf_of_written escape wrote,
          show value.written escape = .ok text from wrote]
        rfl

end Writing

/-- What `update` writes, by its parts. -/
def updateStatement {ssqls : SsqlsClass} (escape : EscapeRequest → Bytes × Nat)
    (o n : SsqlsObject ssqls) : Except Failure UpdateStatement := do
  let assignments ← clauseOf escape n.fields
  let conditions ← clauseOf escape o.compared
  pure { table := o.table, assignments := assignments, conditions := conditions }

theorem update_eq {ssqls : SsqlsClass} (escape : EscapeRequest → Bytes × Nat) (self : Query)
    (o n : SsqlsObject ssqls) :
    self.update escape o n =
      (updateStatement escape o n).map fun statement => self.reset.write statement.text := by
  have size : o.fields.length =
      ssqls.compcount + (ssqls.names.length - ssqls.compcount) := by
    rw [SsqlsObject.fields, List.length_zip, o.size, Nat.min_self]
    exact (Nat.add_sub_cancel' ssqls.within).symm
  rw [Query.update, equalList_eq, SsqlsObject.useCompare, cusEqualList_eq _ _ _ _ _ _ size,
    updateStatement, SsqlsObject.compared]
  cases clauseOf escape n.fields with
  | error failure => rfl
  | ok assignments =>
      cases clauseOf escape (o.fields.take ssqls.compcount) with
      | error failure => rfl
      | ok conditions => rfl

theorem updateStatement_eq_ok_iff {ssqls : SsqlsClass} (escape : EscapeRequest → Bytes × Nat)
    (o n : SsqlsObject ssqls) (statement : UpdateStatement) :
    updateStatement escape o n = .ok statement ↔
      (∀ field ∈ n.fields, ∃ text, field.2.written escape = .ok text) ∧
        (∀ field ∈ o.compared, ∃ text, field.2.written escape = .ok text) ∧
        statement =
          { table := o.table
            assignments := n.fields.map (partOf escape)
            conditions := o.compared.map (partOf escape) } := by
  constructor
  · intro made
    obtain ⟨assignments, first, later⟩ := exists_of_bind_ok made
    obtain ⟨conditions, second, same⟩ := exists_of_bind_ok later
    obtain ⟨allAssigned, rfl⟩ := (clauseOf_eq_ok_iff escape _ _).mp first
    obtain ⟨allCompared, rfl⟩ := (clauseOf_eq_ok_iff escape _ _).mp second
    exact ⟨allAssigned, allCompared, (Except.ok.inj same).symm⟩
  · intro found
    obtain ⟨allAssigned, allCompared, rfl⟩ := found
    rw [updateStatement, (clauseOf_eq_ok_iff escape _ _).mpr ⟨allAssigned, rfl⟩,
      (clauseOf_eq_ok_iff escape _ _).mpr ⟨allCompared, rfl⟩]
    rfl

/-! ### The text of a field -/

theorem SsqlsValue.written_text (escape : EscapeRequest → Bytes × Nat) (data : Bytes) :
    (SsqlsValue.text data).written escape =
      .ok (byte '\'' :: ((escape
        { ps := [], original := some data, length := data.length }).1 ++ [byte '\''])) := by
  change SQLStream.quoteType1 escape (SQLTypeAdapter.ofString data false) = _
  simp only [SQLStream.quoteType1, SQLTypeAdapter.ofString_quoteQ, SQLTypeAdapter.ofString_escapeQ]
  rfl

theorem SsqlsValue.written_nullText (escape : EscapeRequest → Bytes × Nat) :
    SsqlsValue.nullText.written escape =
      .ok (escape { ps := [], original := some nullStr, length := nullStr.length }).1 := by
  let null : SQLTypeAdapter :=
    { buffer := some { data := nullStr, type := SQLBuffer.stringType, isNull := true }
      isProcessed := false }
  have unquoted : null.quoteQ = .ok false := rfl
  change SQLStream.quoteType1 escape null = _
  rw [SQLStream.quoteType1, unquoted]
  exact congrArg Except.ok (List.append_nil _)

/-- A value of a type whose text needs no escaping. -/
theorem SsqlsValue.written_value (escape : EscapeRequest → Bytes × Nat) {digits : Bytes}
    {type : Option CType} {fieldType : FieldType} {quote : Bool}
    (found : type.bind FieldType.ofCType = some fieldType)
    (quotes : SQLBuffer.quoteQ { data := digits, type := fieldType, isNull := false } = .ok quote)
    (bare : fieldType.escapeQ = false) :
    (SsqlsValue.value digits type).written escape =
      .ok (if quote then byte '\'' :: (digits ++ [byte '\'']) else digits) := by
  obtain ⟨cType, rfl, known⟩ := Option.bind_eq_some_iff.mp found
  change (do SQLStream.quoteType1 escape (← SQLTypeAdapter.ofValue digits cType)) = _
  rw [SQLTypeAdapter.ofValue, known]
  change SQLStream.quoteType1 escape _ = _
  have unescaped : SQLBuffer.escapeQ { data := digits, type := fieldType, isNull := false } =
      false := bare
  simp only [SQLStream.quoteType1, SQLTypeAdapter.quoteQ, SQLTypeAdapter.escapeQ, quotes, unescaped,
    SQLTypeAdapter.data]
  cases quote with
  | true => rfl
  | false => exact congrArg Except.ok (List.append_nil _)

end LibTabula
