/-
What a server reads of the rows that are inserted.

A statement of SSQLS objects, whether it comes of `insert` or of a batch of `insertfrom`, is
read as the objects' table, the names of the columns and the literals of the fields, row by
row. An insertion as a whole hands over a front of its objects, and all of them if it commits.
-/

import LibTabula.Foundation.TextWords
import LibTabula.SsqlsLiterals
import LibTabula.StatementBuilders

set_option autoImplicit false

namespace LibTabula

open Foundation
open Foundation.Reader (Reads further)
open InsertStatement (readLiteral readRow EndsItem)
open Output (ofText)
open SQLStream (EscapeRequest)

/-! ### Lists of texts -/

theorem text_wholeList (first : Bytes) (texts : List Bytes) :
    (wholeList (ascii ",") ((first :: texts).map ofText)).text =
      first ++ further (ascii ",") texts := by
  rw [wholeList_eq_joined, joined_texts]
  exact intercalate_cons_eq_flatMap (byte ',') first texts

variable {typedefs : IntTypedefs}

def inBackticks (name : Bytes) : Bytes := ascii "\x60" ++ (name ++ ascii "\x60")

section Rows

variable {escape : EscapeRequest → Bytes × Nat} {global : Locale}

/-- The names in backticks, whatever the fields hold. -/
theorem fieldItems_held (columns : List (StoredColumn typedefs)) (fields : StoredFields columns) :
    (StoredFields.held global columns fields).map (fieldItem (insertionManip escape)) =
      (columns.map fun column => inBackticks column.name.chars).map ofText := by
  induction columns with
  | nil => rfl
  | cons column rest ih =>
      obtain ⟨object, others⟩ := fields
      rw [StoredFields.held, List.map_cons, List.map_cons, List.map_cons, ih others]
      rfl

theorem valueItem_of_written {name text : Bytes} {field : SsqlsValue}
    (written : field.written escape = .ok text) :
    valueItem (insertionManip escape) (name, field) = ofText text := by
  simp only [valueItem, insertionManip, written]

/-- The texts of the fields, with the literals that they are. -/
theorem exists_cells (undone : Undone escape) (columns : List (StoredColumn typedefs))
    {fields : StoredFields columns} (ungrouped : StoredFields.Ungrouped global columns fields) :
    ∃ cells : List (Bytes × Literal),
      (StoredFields.held global columns fields).map (valueItem (insertionManip escape)) =
          (cells.map Prod.fst).map ofText ∧
        cells.map Prod.snd = StoredFields.literals columns fields ∧
        ∀ cell ∈ cells, readLiteral.Reads EndsItem cell.1 cell.2 := by
  induction columns with
  | nil => exact ⟨[], rfl, rfl, List.forall_mem_nil _⟩
  | cons column rest ih =>
      obtain ⟨object, others⟩ := fields
      obtain ⟨here, behind⟩ := ungrouped
      obtain ⟨text, written, reads⟩ := StoredKind.writtenAs_field undone here
      obtain ⟨cells, items, literals, all⟩ := ih behind
      refine ⟨(text, column.kind.literal object) :: cells, ?_, ?_, ?_⟩
      · rw [StoredFields.held, List.map_cons, valueItem_of_written written, items]
        rfl
      · rw [List.map_cons, literals]
        rfl
      · exact List.forall_mem_cons.mpr ⟨reads, all⟩

/-- The values of an object in parentheses. -/
def rowText (escape : EscapeRequest → Bytes × Nat) (global : Locale)
    {columns : List (StoredColumn typedefs)} (object : StoredObject columns) : Bytes :=
  ascii "(" ++ ((object.valueList escape global).text ++ ascii ")")

theorem reads_rowText (undone : Undone escape) {columns : List (StoredColumn typedefs)}
    (nonempty : columns ≠ []) {object : StoredObject columns}
    (ungrouped : StoredFields.Ungrouped global columns object.fields) (follows : Bytes → Prop) :
    readRow.Reads follows (rowText escape global object)
      (StoredFields.literals columns object.fields) := by
  obtain ⟨cells, items, literals, reads⟩ := exists_cells undone columns ungrouped
  cases cells with
  | nil =>
      cases columns with
      | nil => exact absurd rfl nonempty
      | cons column rest => cases literals
  | cons first cells =>
      have text : (object.valueList escape global).text =
          first.1 ++ further (ascii ",") (cells.map Prod.fst) := by
        rw [StoredObject.valueList, items]
        exact text_wholeList first.1 (cells.map Prod.fst)
      rw [rowText, text, List.append_assoc, ← literals]
      exact InsertStatement.reads_row reads follows

end Rows

/-! ### Statements -/

section Statements

variable (escape : EscapeRequest → Bytes × Nat) (global : Locale)
  {columns : List (StoredColumn typedefs)}

/-- What a server is to read of a statement. -/
def insertStatement (verb : Bytes) (first : StoredObject columns)
    (objects : List (StoredObject columns)) : InsertStatement where
  verb := verb
  table := first.table
  columns := columns.map fun column => column.name.chars
  rows := (first :: objects).map fun object => StoredFields.literals columns object.fields

theorem furtherRows (objects : List (StoredObject columns)) :
    (objects.map (furtherRow (storedSsqls escape global columns))).flatten =
      further (ascii ",") (objects.map (rowText escape global)) := by
  rw [further, List.flatMap_map]
  rfl

/-- The text of a statement, taken apart as it is read. -/
theorem statementText_apart (verb : Bytes) {column : StoredColumn typedefs}
    {others : List (StoredColumn typedefs)} (same : columns = column :: others)
    (first : StoredObject columns) (objects : List (StoredObject columns)) :
    statementText (storedSsqls escape global columns) verb (first :: objects) =
      verb ++ (ascii " INTO " ++ (inBackticks first.table ++ (ascii " (" ++
        (inBackticks column.name.chars ++ (further (ascii ",")
          (others.map fun column => inBackticks column.name.chars) ++ (ascii ")" ++
        (ascii " VALUES " ++ (rowText escape global first ++
          further (ascii ",") (objects.map (rowText escape global)))))))))) := by
  have names : (first.fieldList escape global).text = inBackticks column.name.chars ++
      further (ascii ",") (others.map fun column => inBackticks column.name.chars) := by
    rw [StoredObject.fieldList, fieldItems_held, same]
    exact text_wholeList _ _
  have into : ascii " INTO \x60" = ascii " INTO " ++ ascii "\x60" := by decide
  have opens : ascii "\x60 (" = ascii "\x60" ++ ascii " (" := by decide
  have values : ascii ") VALUES (" = ascii ")" ++ (ascii " VALUES " ++ ascii "(") := by decide
  rw [statementText, furtherRows, statementBeginning, into, opens, values]
  change verb ++ _ ++ first.table ++ _ ++ (first.fieldList escape global).text ++ _ ++
    ((first.valueList escape global).text ++ _) ++ _ = _
  rw [names, rowText]
  simp only [inBackticks, List.append_assoc]

/-- The names in a statement close at a backtick, and numbers are printed as they are. -/
structure Insertable (object : StoredObject columns) : Prop where
  table : byte '\x60' ∉ object.table
  ungrouped : StoredFields.Ungrouped global columns object.fields

variable {escape global}

theorem read_statementText (undone : Undone escape) (nonempty : columns ≠ [])
    (names : ∀ column ∈ columns, byte '\x60' ∉ column.name.chars) {verb : Bytes}
    (word : verb ≠ []) (upper : ∀ c ∈ verb, InsertStatement.isUpper c = true)
    {first : StoredObject columns} {objects : List (StoredObject columns)}
    (insertable : ∀ object ∈ first :: objects, Insertable global object) :
    InsertStatement.read
        (statementText (storedSsqls escape global columns) verb (first :: objects)) =
      some (insertStatement verb first objects) := by
  obtain ⟨column, others, same⟩ := List.exists_cons_of_ne_nil nonempty
  let row (object : StoredObject columns) : Bytes × List Literal :=
    (rowText escape global object, StoredFields.literals columns object.fields)
  have columns_ : column.name.chars :: others.map (fun column => column.name.chars) =
      columns.map fun column => column.name.chars := by
    rw [same]
    rfl
  have plain : ∀ name ∈ first.table :: column.name.chars ::
      others.map (fun column => column.name.chars), byte '\x60' ∉ name := by
    intro name member
    rcases List.mem_cons.mp member with rfl | inNames
    · exact (insertable first List.mem_cons_self).table
    · rw [columns_] at inNames
      obtain ⟨one, found, rfl⟩ := List.mem_map.mp inNames
      exact names one found
  have reads : ∀ one ∈ row first :: objects.map row, ∀ follows,
      readRow.Reads follows one.1 one.2 := by
    intro one member follows
    rw [← List.map_cons] at member
    obtain ⟨object, found, rfl⟩ := List.mem_map.mp member
    exact reads_rowText undone nonempty (insertable object found).ungrouped follows
  have read := InsertStatement.read_statement word upper plain reads
  rw [List.map_map, List.map_map, List.map_map, columns_] at read
  rw [statementText_apart escape global verb same]
  exact read

end Statements

/-! ### Whole insertions -/

section Insertions

variable {δ ρ π κ : Type} (rows : SSQLS ρ) (driver : DBDriver δ) (policy : InsertPolicy ρ π)
  (controller : AccessController δ κ) (verb : Bytes)

def committing : List ControllerCall := [.construct, .commit, .destroy]

/-- The batches take the rows in order, and all of them if the controller commits, whether
exceptions are enabled or not. -/
structure HandedOver (verb : Bytes) (items : List ρ) (before after : Insertion δ ρ π)
    (batches : List (List ρ × Bool)) : Prop where
  executed : after.executed = before.executed ++ batches.map (batchStatement rows verb)
  some : ∀ batch ∈ batches, batch.1 ≠ []
  front : batchedItems batches <+: items
  all : after.calls = before.calls ++ committing → batchedItems batches = items

theorem HandedOver.nothing (items : List ρ) {before after : Insertion δ ρ π}
    (executed : after.executed = before.executed)
    (calls : after.calls ≠ before.calls ++ committing) :
    HandedOver rows verb items before after [] where
  executed := by rw [executed, List.map_nil, List.append_nil]
  some := List.forall_mem_nil _
  front := List.nil_prefix
  all commits := absurd commits calls

theorem insertRows_handedOver (items : List ρ) (self : Insertion δ ρ π) :
    ∃ batches, HandedOver rows verb items self
      ((insertRows rows driver policy controller verb items).run self).final batches := by
  by_cases none : items = []
  · subst none
    rw [insertRows_nil]
    refine ⟨[], HandedOver.nothing rows verb [] rfl ?_⟩
    intro same
    have longer := congrArg List.length same
    rw [List.length_append] at longer
    exact absurd longer (by simp [committing])
  · cases constructing : controller.construct.run self.traffic.connection with
    | error failure conn =>
        rw [insertRows_refused rows verb none constructing]
        refine ⟨[], HandedOver.nothing rows verb items ?_ ?_⟩
        · exact filter_after_controller self.traffic conn
        · intro same
          exact absurd (List.append_cancel_left same) (by decide)
    | ok ac conn =>
        have begunPlain : (self.begun conn).query.parseElems = [] := rfl
        obtain ⟨batches, given, success, after, worked, progress, _copacetic, ended⟩ :=
          insertBlock_run rows verb driver policy controller none ac begunPlain rfl
        rw [insertRows_constructed rows verb none constructing, withController_final]
        have executed := (blockResult_final ended).1
        refine ⟨batches, ?_, worked.group_ne_nil, worked.prefix_items, ?_⟩
        · rw [executed, executed_progress rows verb progress]
          exact congrArg (· ++ batches.map (batchStatement rows verb))
            (filter_after_controller self.traffic conn)
        · intro commits
          have begun : after.calls = self.calls ++ [.construct] := progress.calls
          rcases ended with ⟨_throws, _failed, failure, thrown⟩ | ⟨_quiet, finished⟩
          · rw [thrown] at commits
            change after.calls ++ [.destroy] = _ at commits
            rw [begun, List.append_assoc] at commits
            exact absurd (List.append_cancel_left commits) (by decide)
          · rw [finished, finishAccess_final] at commits
            change after.calls ++ [lastCall success] ++ [.destroy] = _ at commits
            rw [begun, List.append_assoc, List.append_assoc] at commits
            cases success with
            | true => exact worked.all_items
            | false => exact absurd (List.append_cancel_left commits) (by decide)

end Insertions

section ReadBack

variable {δ π κ : Type} {columns : List (StoredColumn typedefs)}

def groupStatement (verb : Bytes) : List (StoredObject columns) → Option InsertStatement
  | [] => none
  | first :: objects => some (insertStatement verb first objects)

/-- What was sent is read as statements of some groups, which take the objects in order, and
all of them if the controller has committed. -/
structure ReadBack (verb : Bytes) (items : List (StoredObject columns))
    (before after : Insertion δ (StoredObject columns) π)
    (groups : List (List (StoredObject columns))) : Prop where
  read : ∃ sent, after.executed = before.executed ++ sent ∧
    sent.map (fun statement => InsertStatement.read statement.sent.text) =
      groups.map (groupStatement verb)
  some : ∀ group ∈ groups, group ≠ []
  front : groups.flatten <+: items
  all : after.calls = before.calls ++ committing → groups.flatten = items

variable {escape : EscapeRequest → Bytes × Nat} {global : Locale}

theorem HandedOver.readBack (undone : Undone escape) (nonempty : columns ≠ [])
    (names : ∀ column ∈ columns, byte '\x60' ∉ column.name.chars) {verb : Bytes}
    (word : verb ≠ []) (upper : ∀ c ∈ verb, InsertStatement.isUpper c = true)
    {items : List (StoredObject columns)} (insertable : ∀ object ∈ items, Insertable global object)
    {before after : Insertion δ (StoredObject columns) π}
    {batches : List (List (StoredObject columns) × Bool)}
    (handedOver : HandedOver (storedSsqls escape global columns) verb items before after batches) :
    ReadBack verb items before after (batches.map Prod.fst) where
  read := by
    refine ⟨_, handedOver.executed, ?_⟩
    rw [List.map_map, List.map_map, List.map_inj_left]
    intro batch member
    have inItems : ∀ object ∈ batch.1, Insertable global object := by
      intro object inBatch
      apply insertable
      apply handedOver.front.subset
      exact List.mem_flatten.mpr ⟨batch.1, List.mem_map_of_mem member, inBatch⟩
    obtain ⟨group, taken⟩ := batch
    cases group with
    | nil => exact absurd rfl (handedOver.some _ member)
    | cons first objects => exact read_statementText undone nonempty names word upper inItems
  some := List.forall_mem_map.mpr handedOver.some
  front := handedOver.front
  all := handedOver.all

theorem insertVerb_upper (replaces : Bool) :
    insertVerb replaces ≠ [] ∧ ∀ c ∈ insertVerb replaces, InsertStatement.isUpper c = true := by
  cases replaces with
  | true => exact ⟨by decide, List.all_eq_true.mp (by decide)⟩
  | false => exact ⟨by decide, List.all_eq_true.mp (by decide)⟩

end ReadBack

/-! Orders with a number, a note that may be missing, and a day, where the library is compiled
without a header of integer types. -/

def cString (text : String) (noNul : 0 ∉ ascii text) : CString :=
  { chars := ascii text, noNul := noNul }

def orderColumns : List (StoredColumn .builtin) :=
  [{ name := cString "id" (by decide), kind := .plain (.integer .longlong rfl) },
    { name := cString "note" (by decide), kind := .null .text },
    { name := cString "day" (by decide), kind := .plain .date }]

def leapDay : { d : Date // d.Documented } :=
  ⟨⟨2024, 2, 29⟩, by decide, by decide, by decide, by decide, by decide, by decide⟩

def order (id : IntType.longlong.Value) (note : Option Bytes) : StoredObject orderColumns where
  table := ascii "orders"
  fields := (id, note, leapDay, ())

def orders : List (StoredObject orderColumns) :=
  [order ⟨-1, by decide⟩ (some (ascii "it's")), order ⟨2, by decide⟩ none]

theorem insertable_orders : ∀ object ∈ orders, Insertable .classic object := by
  have fits : ∀ n, Locale.classic.Fits n := by
    intro n size limited
    cases limited
  intro object member
  constructor
  · rcases List.mem_cons.mp member with rfl | last
    · decide
    · rw [List.mem_singleton.mp last]
      decide
  · exact StoredFields.ungrouped_of_fits fits orderColumns object.fields

end LibTabula
