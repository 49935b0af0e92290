/-
Result sets and the rows read from them.

`StoreQueryResult` reads all rows when it is made, `UseQueryResult` one with each
call of `fetch_row()`. Both ask the driver, which has an exception flag of its own.
Whether the compiler leaves out the copy that `fetch_row()` returns of a row, as it is
allowed to, is a parameter.
-/

import Mathlib.Data.List.Forall2
import LibTabula.TypeAdapter
import LibTabula.Foundation.Effect

set_option autoImplicit false

namespace LibTabula

open Foundation

/-- `Field`, as far as rows look at it. -/
structure Field where
  name : Bytes
  type : FieldType
deriving DecidableEq, Repr

/-! ### The client library -/

/-- `MYSQL_ROW`, with the lengths beside it; `none` is a null pointer. -/
structure RawRow (fields : List Field) where
  cells : List (Option Bytes)
  complete : cells.length = fields.length

/-- `MYSQL_RES`: the rows that are still to be fetched, and the one fetched last. -/
structure MySQLRes (fields : List Field) where
  anyField : fields ≠ []
  rows : List (RawRow fields)
  current : Option (RawRow fields)

namespace MySQLRes

variable {fields : List Field}

def mysqlFetchRow (self : MySQLRes fields) : Option (RawRow fields) × MySQLRes fields :=
  match self.rows with
  | [] => (none, { self with current := none })
  | raw :: rows => (some raw, { self with rows := rows, current := some raw })

/-- `mysql_fetch_lengths`, which is null without a current row. -/
def mysqlFetchLengths (self : MySQLRes fields) : Option (List Nat) :=
  self.current.map fun raw => raw.cells.map fun cell => (cell.getD []).length

end MySQLRes

/-! ### Rows -/

structure Row where
  throwExceptions : Bool
  data : List SQLBuffer
  fieldNames : List Bytes
  initialized : Bool
deriving DecidableEq, Repr

namespace Row

/-- The default constructor, which leaves `data_` null; nothing reads it then. -/
def default : Row :=
  { throwExceptions := true, data := [], fieldNames := [], initialized := false }

def new (data : List SQLBuffer) (fieldNames : List Bytes) (te : Bool) : Row :=
  { throwExceptions := te, data := data, fieldNames := fieldNames, initialized := true }

/-- The copy constructor, whose base class begins anew. -/
def copy (r : Row) : Row := { r with throwExceptions := true }

/-- `return row;`, where `elides` is whether the compiler leaves out the copy. -/
def returned (elides : Bool) (r : Row) : Row := if elides then r else r.copy

def assign (self rhs : Row) : Row := { rhs with throwExceptions := self.throwExceptions }

/-- `operator private_bool_type`. -/
def toBool (self : Row) : Bool := self.initialized && self.data.length ≠ 0

end Row

/-! ### Result sets -/

structure MySQLDriver where
  throwExceptions : Bool
deriving DecidableEq, Repr

structure ResultBase where
  throwExceptions : Bool
  driver : Option MySQLDriver
  fields : List Field
  names : List Bytes
  types : List FieldType
  currentField : Nat
deriving DecidableEq, Repr

namespace ResultBase

/-- The default constructor. It leaves `driver_` unset; to a copy that makes no
difference, since all the rest is empty. -/
def default : ResultBase :=
  { throwExceptions := true, driver := none, fields := [], names := [], types := []
    currentField := 0 }

/-- The constructor, for a result set that is there. -/
def new (fields : List Field) (driver : MySQLDriver) (te : Bool) : ResultBase :=
  { throwExceptions := te
    driver := some driver
    fields := fields
    names := fields.map Field.name
    types := fields.map Field.type
    currentField := 0 }

/-- `copy()`, for another object. -/
def copy (other : ResultBase) : ResultBase :=
  match other.driver with
  | some _ => other
  | none => { default with throwExceptions := other.throwExceptions }

end ResultBase

/-- One turn of the loop in `fetch_row`. -/
def fetchCell (cell : Option Bytes) (type : FieldType) : SQLBuffer :=
  { data := cell.getD (ascii "NULL")
    type := { base := type.base, flags := tfDefault }
    isNull := cell.isNone }

variable {fields : List Field}

/-- `MySQLDriver::fetch_row`. -/
def MySQLDriver.fetchRow (self : MySQLDriver) (res : ResultBase) :
    EStateM Failure (MySQLRes fields) Row := do
  match ← modifyGet MySQLRes.mysqlFetchRow with
  | some raw =>
      return Row.new (List.zipWith fetchCell raw.cells res.types) res.names self.throwExceptions
  | none =>
      if self.throwExceptions then
        throw (.objectNotInitialized "ROW is NULL")
      return Row.default

structure StoreQueryResult where
  base : ResultBase
  rows : List Row
  pimpl : Bool
  copacetic : Bool
deriving DecidableEq, Repr

namespace StoreQueryResult

def default : StoreQueryResult :=
  { base := .default, rows := [], pimpl := false, copacetic := false }

/-- `while (Row row = dbd->fetch_row(*this)) *it++ = row;`, with the rows from `it`
on. Behind the last one there is nothing to assign to. -/
def assignRows (dbd : MySQLDriver) (base : ResultBase) :
    List Row → EStateM Failure (MySQLRes fields) (List Row)
  | [] => do
      let row ← dbd.fetchRow base
      if row.toBool then throw .outOfBounds else return []
  | slot :: slots => do
      let row ← dbd.fetchRow base
      if row.toBool then
        let rest ← assignRows dbd base slots
        return slot.assign row :: rest
      else return slot :: slots

/-- The constructor, for a result set that is there. -/
def new (rows : Nat) (dbd : MySQLDriver) (te : Bool) :
    EStateM Failure (MySQLRes fields) StoreQueryResult := do
  let base := ResultBase.new fields dbd te
  let rows ← assignRows dbd base (List.replicate rows Row.default)
  return { base := base, rows := rows, pimpl := true, copacetic := true }

end StoreQueryResult

structure UseQueryResult where
  base : ResultBase
  pimpl : Bool
deriving DecidableEq, Repr

namespace UseQueryResult

def default : UseQueryResult := { base := .default, pimpl := false }

/-- The constructor, for a result set that is there. -/
def new (fields : List Field) (dbd : MySQLDriver) (te : Bool) : UseQueryResult :=
  { base := ResultBase.new fields dbd te, pimpl := true }

def fetchRow (elides : Bool) (self : UseQueryResult) : EStateM Failure (MySQLRes fields) Row := do
  if !self.pimpl then
    if self.base.throwExceptions then
      throw (.useQueryError "Results not fetched")
    return Row.default
  match self.base.driver with
  | none => throw .nullPointer
  | some driver =>
      let row ← driver.fetchRow self.base
      if row.toBool then
        let res ← get
        if res.mysqlFetchLengths.isSome then return row.returned elides
        if self.base.throwExceptions then
          throw (.useQueryError "Failed to get field lengths")
        return Row.default
      -- The end of the rows, which is no error.
      else return Row.default

/-- So many calls of `fetch_row()`. -/
def fetchTimes (elides : Bool) (self : UseQueryResult) :
    Nat → EStateM Failure (MySQLRes fields) (List Row)
  | 0 => return []
  | calls + 1 => do
      let row ← self.fetchRow elides
      let rows ← self.fetchTimes elides calls
      return row :: rows

/-- `while (Row row = res.fetch_row())` with a body, for so many turns; `none` if the
loop is not over then. -/
def whileRow {α : Type} (elides : Bool) (self : UseQueryResult) (body : α → Row → α) :
    Nat → α → EStateM Failure (MySQLRes fields) (Option α)
  | 0, _ => return none
  | turns + 1, before => do
      let row ← self.fetchRow elides
      if row.toBool then self.whileRow elides body turns (body before row)
      else return some before

/-- `NoExceptions ne(res)`. -/
def noExceptions (self : UseQueryResult) : UseQueryResult :=
  { self with base := { self.base with throwExceptions := false } }

/-- `Query::for_each` behind the call of `use()`. What the functor keeps is passed
along. -/
def forEach {α : Type} (elides : Bool) (self : UseQueryResult) (fn : α → Row → α) (turns : Nat)
    (before : α) : EStateM Failure (MySQLRes fields) (Option α) :=
  if self.pimpl then self.noExceptions.whileRow elides fn turns before else return some before

/-- The body of the loop in `Query::store_if`. -/
def pushIf {α : Type} (fn : α → Row → Bool × α) (before : List Row × α) (row : Row) :
    List Row × α :=
  let (keep, after) := fn before.2 row
  (if keep then before.1 ++ [row] else before.1, after)

/-- `Query::store_if` behind the call of `use()`. -/
def storeIf {α : Type} (elides : Bool) (self : UseQueryResult) (con : List Row)
    (fn : α → Row → Bool × α) (turns : Nat) (before : α) :
    EStateM Failure (MySQLRes fields) (Option (List Row × α)) :=
  self.forEach elides (pushIf fn) turns (con, before)

end UseQueryResult

/-! ### What a fetched row shows -/

/-- The row made of what the client library fetched. -/
def RawRow.row (raw : RawRow fields) (te : Bool) : Row :=
  Row.new (List.zipWith fetchCell raw.cells (fields.map Field.type)) (fields.map Field.name) te

/-- A row shows a fetched one: the two agree in all but the row's own flag. -/
def Row.Shows (self : Row) (raw : RawRow fields) : Prop :=
  self = raw.row self.throwExceptions

namespace RawRow

theorem shows_assign (raw : RawRow fields) (slot : Row) (te : Bool) :
    (slot.assign (raw.row te)).Shows raw := rfl

theorem shows_returned (raw : RawRow fields) (te elides : Bool) :
    ((raw.row te).returned elides).Shows raw := by
  cases elides <;> rfl

theorem row_toBool (anyField : fields ≠ []) (raw : RawRow fields) (te : Bool) :
    (raw.row te).toBool = true := by
  have width : (List.zipWith fetchCell raw.cells (fields.map Field.type)).length =
      fields.length := by
    rw [List.length_zipWith, List.length_map, raw.complete, Nat.min_self]
  have some_ : fields.length ≠ 0 := fun none => anyField (List.length_eq_zero_iff.mp none)
  simp only [Row.toBool, row, Row.new, width, Bool.true_and]
  exact decide_eq_true some_

theorem returned_toBool (anyField : fields ≠ []) (raw : RawRow fields) (te elides : Bool) :
    ((raw.row te).returned elides).toBool = true := by
  cases elides <;> exact raw.row_toBool anyField te

end RawRow

theorem shows_map (rows : List (RawRow fields)) (make : RawRow fields → Row)
    (shows_ : ∀ raw, (make raw).Shows raw) : List.Forall₂ Row.Shows (rows.map make) rows := by
  induction rows with
  | nil => exact .nil
  | cons raw rows ih => exact .cons (shows_ raw) ih

/-! ### One call of the driver -/

namespace MySQLDriver

variable (driver : MySQLDriver) (te : Bool) {res : MySQLRes fields}

theorem run_fetchRow_row {raw : RawRow fields} {rows : List (RawRow fields)}
    (next : res.rows = raw :: rows) :
    (driver.fetchRow (ResultBase.new fields driver te)).run res =
      .ok (raw.row driver.throwExceptions) { res with rows := rows, current := some raw } := by
  have fetched : (modifyGet MySQLRes.mysqlFetchRow :
      EStateM Failure (MySQLRes fields) (Option (RawRow fields))).run res =
      .ok (some raw) { res with rows := rows, current := some raw } := by
    simp only [EStateM.run_modifyGet, MySQLRes.mysqlFetchRow, next]
  rw [fetchRow, run_bind_of_ok fetched]
  rfl

theorem run_fetchRow_end (done : res.rows = []) :
    (driver.fetchRow (ResultBase.new fields driver te)).run res =
      if driver.throwExceptions then
        .error (.objectNotInitialized "ROW is NULL") { res with current := none }
      else .ok Row.default { res with current := none } := by
  have fetched : (modifyGet MySQLRes.mysqlFetchRow :
      EStateM Failure (MySQLRes fields) (Option (RawRow fields))).run res =
      .ok none { res with current := none } := by
    simp only [EStateM.run_modifyGet, MySQLRes.mysqlFetchRow, done]
  rw [fetchRow, run_bind_of_ok fetched]
  cases driver.throwExceptions <;> rfl

end MySQLDriver

/-! ### Storing all rows -/

namespace StoreQueryResult

variable (driver : MySQLDriver) (te : Bool)

/-- With exceptions off in the driver, each slot is assigned the row it is for. -/
theorem run_assignRows_quiet (quiet : driver.throwExceptions = false) (slot : Row)
    (rows : List (RawRow fields)) {res : MySQLRes fields} (held : res.rows = rows) :
    ∃ after, (assignRows driver (ResultBase.new fields driver te)
        (List.replicate rows.length slot)).run res =
      .ok (rows.map fun raw => slot.assign (raw.row false)) after := by
  induction rows generalizing res with
  | nil =>
      have last := driver.run_fetchRow_end te held
      rw [quiet] at last
      refine ⟨{ res with current := none }, ?_⟩
      rw [List.length_nil, List.replicate_zero, assignRows, run_bind_of_ok last]
      rfl
  | cons raw rows ih =>
      have first := driver.run_fetchRow_row te held
      rw [quiet] at first
      obtain ⟨after, rest⟩ := @ih { res with rows := rows, current := some raw } rfl
      refine ⟨after, ?_⟩
      rw [List.length_cons, List.replicate_succ, assignRows, run_bind_of_ok first,
        if_pos (raw.row_toBool res.anyField false), run_bind_of_ok rest]
      rfl

/-- With exceptions on in the driver, the end of the rows is one. -/
theorem run_assignRows_loud (loud : driver.throwExceptions = true) (slot : Row)
    (rows : List (RawRow fields)) {res : MySQLRes fields} (held : res.rows = rows) :
    ∃ after, (assignRows driver (ResultBase.new fields driver te)
        (List.replicate rows.length slot)).run res =
      .error (.objectNotInitialized "ROW is NULL") after := by
  induction rows generalizing res with
  | nil =>
      have last := driver.run_fetchRow_end te held
      rw [loud] at last
      refine ⟨{ res with current := none }, ?_⟩
      rw [List.length_nil, List.replicate_zero, assignRows, run_bind_of_error last]
  | cons raw rows ih =>
      have first := driver.run_fetchRow_row te held
      obtain ⟨after, rest⟩ := @ih { res with rows := rows, current := some raw } rfl
      refine ⟨after, ?_⟩
      rw [List.length_cons, List.replicate_succ, assignRows, run_bind_of_ok first,
        if_pos (raw.row_toBool res.anyField _), run_bind_of_error rest]

/-- The result set is stored: the constructor returns with exactly its rows. -/
def StoresAll (res : MySQLRes fields) : Prop :=
  ∃ stored : StoreQueryResult,
    ((new res.rows.length driver te).run res).outcome = .ok stored ∧
      List.Forall₂ Row.Shows stored.rows res.rows

theorem storesAll_iff (res : MySQLRes fields) :
    StoresAll driver te res ↔ driver.throwExceptions = false := by
  unfold StoresAll new
  cases flag : driver.throwExceptions with
  | true =>
      obtain ⟨after, ran⟩ := run_assignRows_loud driver te flag .default res.rows rfl
      refine iff_of_false ?_ nofun
      intro found
      obtain ⟨stored, returned, _⟩ := found
      rw [run_bind_of_error ran] at returned
      cases returned
  | false =>
      obtain ⟨after, ran⟩ := run_assignRows_quiet driver te flag .default res.rows rfl
      refine iff_of_true ?_ rfl
      rw [run_bind_of_ok ran]
      exact ⟨_, rfl, shows_map _ _ fun raw => raw.shows_assign _ _⟩

end StoreQueryResult

/-! ### Reading rows one by one -/

namespace UseQueryResult

variable (elides : Bool) (driver : MySQLDriver) (te : Bool) {res : MySQLRes fields}

theorem run_fetchRow_row {raw : RawRow fields} {rows : List (RawRow fields)}
    (next : res.rows = raw :: rows) :
    ((new fields driver te).fetchRow elides).run res =
      .ok ((raw.row driver.throwExceptions).returned elides)
        { res with rows := rows, current := some raw } := by
  have first := driver.run_fetchRow_row te next
  have truthy := raw.row_toBool res.anyField driver.throwExceptions
  simp only [fetchRow, new, ResultBase.new] at first ⊢
  simp only [Bool.not_true, Bool.false_eq_true, if_false, run_bind_of_ok first, truthy,
    if_true]
  rfl

theorem run_fetchRow_end (done : res.rows = []) :
    ((new fields driver te).fetchRow elides).run res =
      if driver.throwExceptions then
        .error (.objectNotInitialized "ROW is NULL") { res with current := none }
      else .ok Row.default { res with current := none } := by
  have last := driver.run_fetchRow_end te done
  simp only [fetchRow, new, ResultBase.new] at last ⊢
  cases flag : driver.throwExceptions with
  | true =>
      rw [flag] at last
      simp only [Bool.not_true, Bool.false_eq_true, if_false, run_bind_of_error last]
      rfl
  | false =>
      rw [flag] at last
      simp only [Bool.not_true, Bool.false_eq_true, if_false, run_bind_of_ok last]
      rfl

theorem run_fetchTimes_quiet (quiet : driver.throwExceptions = false)
    (rows : List (RawRow fields)) (held : res.rows = rows) :
    ∃ after, ((new fields driver te).fetchTimes elides (rows.length + 1)).run res =
      .ok (rows.map (fun raw => (raw.row false).returned elides) ++ [Row.default]) after := by
  induction rows generalizing res with
  | nil =>
      have last := run_fetchRow_end elides driver te held
      rw [quiet] at last
      refine ⟨{ res with current := none }, ?_⟩
      rw [fetchTimes, run_bind_of_ok last]
      rfl
  | cons raw rows ih =>
      have first := run_fetchRow_row elides driver te held
      rw [quiet] at first
      obtain ⟨after, rest⟩ := @ih { res with rows := rows, current := some raw } rfl
      refine ⟨after, ?_⟩
      rw [List.length_cons, fetchTimes, run_bind_of_ok first, run_bind_of_ok rest]
      rfl

theorem run_fetchTimes_loud (loud : driver.throwExceptions = true)
    (rows : List (RawRow fields)) (held : res.rows = rows) :
    ∃ after, ((new fields driver te).fetchTimes elides (rows.length + 1)).run res =
      .error (.objectNotInitialized "ROW is NULL") after := by
  induction rows generalizing res with
  | nil =>
      have last := run_fetchRow_end elides driver te held
      rw [loud] at last
      refine ⟨{ res with current := none }, ?_⟩
      rw [fetchTimes, run_bind_of_error last]
  | cons raw rows ih =>
      have first := run_fetchRow_row elides driver te held
      obtain ⟨after, rest⟩ := @ih { res with rows := rows, current := some raw } rfl
      refine ⟨after, ?_⟩
      rw [List.length_cons, fetchTimes, run_bind_of_ok first, run_bind_of_error rest]

theorem run_whileRow_quiet {α : Type} (quiet : driver.throwExceptions = false)
    (body : α → Row → α) (before : α) (rows : List (RawRow fields)) (held : res.rows = rows) :
    ∃ after, ((new fields driver te).whileRow elides body (rows.length + 1) before).run res =
      .ok (some ((rows.map fun raw => (raw.row false).returned elides).foldl body before))
        after := by
  induction rows generalizing res before with
  | nil =>
      have last := run_fetchRow_end elides driver te held
      rw [quiet] at last
      refine ⟨{ res with current := none }, ?_⟩
      rw [whileRow, run_bind_of_ok last]
      rfl
  | cons raw rows ih =>
      have first := run_fetchRow_row elides driver te held
      rw [quiet] at first
      obtain ⟨after, rest⟩ :=
        @ih { res with rows := rows, current := some raw }
          (body before ((raw.row false).returned elides)) rfl
      refine ⟨after, ?_⟩
      rw [List.length_cons, whileRow, run_bind_of_ok first,
        if_pos (raw.returned_toBool res.anyField false elides), rest]
      rfl

/-- With exceptions on in the driver, the loop never comes to an end by itself. -/
theorem run_whileRow_loud {α : Type} (loud : driver.throwExceptions = true)
    (body : α → Row → α) (before : α) (rows : List (RawRow fields)) (held : res.rows = rows)
    (turns : Nat) (value : α) :
    (((new fields driver te).whileRow elides body turns before).run res).outcome ≠
      .ok (some value) := by
  induction rows generalizing res before turns with
  | nil =>
      have last := run_fetchRow_end elides driver te held
      rw [loud] at last
      cases turns with
      | zero => nofun
      | succ turns =>
          rw [whileRow, run_bind_of_error last]
          nofun
  | cons raw rows ih =>
      have first := run_fetchRow_row elides driver te held
      cases turns with
      | zero => nofun
      | succ turns =>
          rw [whileRow, run_bind_of_ok first, if_pos (raw.returned_toBool res.anyField _ elides)]
          exact ih _ rfl turns

/-- Called once more than there are rows, `fetch_row()` gives them all and then a
falsy one. -/
def FetchesAll (res : MySQLRes fields) : Prop :=
  ∃ fetched last,
    (((new fields driver te).fetchTimes elides (res.rows.length + 1)).run res).outcome =
        .ok (fetched ++ [last]) ∧
      List.Forall₂ Row.Shows fetched res.rows ∧ last.toBool = false

/-- `for_each` ends, and has called the functor for each row. -/
def ForEachAll (res : MySQLRes fields) : Prop :=
  ∀ {α : Type} (fn : α → Row → α) (before : α), ∃ turns fetched,
    (((new fields driver te).forEach elides fn turns before).run res).outcome =
        .ok (some (fetched.foldl fn before)) ∧
      List.Forall₂ Row.Shows fetched res.rows

/-- `store_if` ends, and has asked about each row. -/
def StoreIfAll (res : MySQLRes fields) : Prop :=
  ∀ {α : Type} (con : List Row) (fn : α → Row → Bool × α) (before : α), ∃ turns fetched,
    (((new fields driver te).storeIf elides con fn turns before).run res).outcome =
        .ok (some (fetched.foldl (pushIf fn) (con, before))) ∧
      List.Forall₂ Row.Shows fetched res.rows

theorem fetchesAll_iff (res : MySQLRes fields) :
    FetchesAll elides driver te res ↔ driver.throwExceptions = false := by
  unfold FetchesAll
  cases flag : driver.throwExceptions with
  | true =>
      obtain ⟨after, ran⟩ := run_fetchTimes_loud elides driver te flag res.rows rfl
      refine iff_of_false ?_ nofun
      intro found
      obtain ⟨fetched, last, returned, _⟩ := found
      rw [ran] at returned
      cases returned
  | false =>
      obtain ⟨after, ran⟩ := run_fetchTimes_quiet elides driver te flag res.rows rfl
      refine iff_of_true ⟨res.rows.map fun raw => (raw.row false).returned elides, Row.default,
        ?_, ?_, rfl⟩ rfl
      · rw [ran]
        rfl
      · exact shows_map _ _ fun raw => raw.shows_returned false elides

theorem forEachAll_of_quiet (quiet : driver.throwExceptions = false) (res : MySQLRes fields) :
    ForEachAll elides driver te res := by
  intro α fn before
  obtain ⟨after, ran⟩ := run_whileRow_quiet elides driver false quiet fn before res.rows rfl
  refine ⟨res.rows.length + 1, _, ?_, shows_map _ _ fun raw => raw.shows_returned false elides⟩
  exact congrArg EStateM.Result.outcome ran

theorem forEach_loud {α : Type} (loud : driver.throwExceptions = true) (fn : α → Row → α)
    (before : α) (res : MySQLRes fields) (turns : Nat) (value : α) :
    (((new fields driver te).forEach elides fn turns before).run res).outcome ≠ .ok (some value) :=
  run_whileRow_loud elides driver false loud fn before res.rows rfl turns value

theorem forEachAll_iff (res : MySQLRes fields) :
    ForEachAll elides driver te res ↔ driver.throwExceptions = false := by
  constructor
  · intro all
    obtain ⟨turns, fetched, returned, _⟩ := all (fun before _ => before) ()
    refine Bool.eq_false_iff.mpr fun loud => ?_
    exact forEach_loud elides driver te loud _ _ res turns _ returned
  · intro quiet
    exact forEachAll_of_quiet elides driver te quiet res

theorem storeIfAll_iff (res : MySQLRes fields) :
    StoreIfAll elides driver te res ↔ driver.throwExceptions = false := by
  constructor
  · intro all
    obtain ⟨turns, fetched, returned, _⟩ := all [] (fun before _ => (true, before)) ()
    refine Bool.eq_false_iff.mpr fun loud => ?_
    exact forEach_loud elides driver te loud _ _ res turns _ returned
  · intro quiet α con fn before
    exact forEachAll_of_quiet elides driver te quiet res (pushIf fn) (con, before)

end UseQueryResult

/-- Storing a result set and reading it row by row deliver its rows and end normally
exactly when exceptions are off in the driver, whatever the result's own flag, and whether
or not rows are copied on their way. -/
theorem rows_delivered_iff (res : MySQLRes fields) (driver : MySQLDriver) (te elides : Bool) :
    (StoreQueryResult.StoresAll driver te res ↔ driver.throwExceptions = false) ∧
      (UseQueryResult.FetchesAll elides driver te res ↔ driver.throwExceptions = false) ∧
      (UseQueryResult.ForEachAll elides driver te res ↔ driver.throwExceptions = false) ∧
      (UseQueryResult.StoreIfAll elides driver te res ↔ driver.throwExceptions = false) :=
  ⟨StoreQueryResult.storesAll_iff driver te res,
    UseQueryResult.fetchesAll_iff elides driver te res,
    UseQueryResult.forEachAll_iff elides driver te res,
    UseQueryResult.storeIfAll_iff elides driver te res⟩

def idField : Field := { name := ascii "id", type := { base := .integer, flags := tfDefault } }

def seven : RawRow [idField] := { cells := [some (ascii "7")], complete := rfl }

/-- A result set of one column and one row. -/
def oneRow : MySQLRes [idField] := { anyField := nofun, rows := [seven], current := none }

/-- With the default flags the row is read, and then the end of the rows throws. -/
theorem end_of_rows_throws :
    let driver : MySQLDriver := { throwExceptions := true }
    let use := UseQueryResult.new [idField] driver true
    ((StoreQueryResult.new 1 driver true).run oneRow).outcome =
        .error (.objectNotInitialized "ROW is NULL") ∧
      ((use.fetchTimes false 1).run oneRow).outcome = .ok [seven.row true] ∧
      ((use.fetchTimes false 2).run oneRow).outcome =
        .error (.objectNotInitialized "ROW is NULL") :=
  ⟨rfl, rfl, rfl⟩

end LibTabula
