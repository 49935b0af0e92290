/-
The exception flags of a connection and of all that is made from it.

A connection and its driver have a flag each. From a connection come queries, from
these result sets, from these rows; and each of them can be copied and assigned.
What can arise is described step by step, with the constructors, the copies and the
assignments as the classes define them.
-/

import LibTabula.Result
import LibTabula.QueryTemplate

set_option autoImplicit false

namespace LibTabula

open Foundation

/-! ### Copies and assignments -/

namespace StoreQueryResult

def copy (other : StoreQueryResult) : StoreQueryResult :=
  { base := other.base.copy
    rows := other.rows.map Row.copy
    pimpl := false
    copacetic := other.copacetic }

/-- What `assign(other.begin(), other.end())` may leave in a vector: the rows are
assigned to elements that are there or copied into new ones. -/
def AssignedRows (old new result : List Row) : Prop :=
  List.Forall₂ (fun row made => made = row.copy ∨ ∃ slot ∈ old, made = slot.assign row) new result

/-- `operator =` with another object, where the rows have become `rows`. -/
def assign (self rhs : StoreQueryResult) (rows : List Row) : StoreQueryResult :=
  { base := rhs.base.copy, rows := rows, pimpl := self.pimpl, copacetic := rhs.copacetic }

end StoreQueryResult

namespace UseQueryResult

/-- The copy constructor, and `operator =` with another object. -/
def copy (other : UseQueryResult) : UseQueryResult :=
  { base := other.base.copy, pimpl := other.pimpl }

end UseQueryResult

/-! ### What can be made from a connection -/

/-- The flags of a connection and of its driver. -/
structure ConnectionFlags where
  throwExceptions : Bool
  driver : MySQLDriver
deriving DecidableEq, Repr

/-- The constructor, which passes the flag on to the driver. -/
def ConnectionFlags.new (te : Bool) : ConnectionFlags :=
  { throwExceptions := te, driver := { throwExceptions := te } }

/-- `enable_exceptions()` and `disable_exceptions()`, which do not reach the driver. -/
def ConnectionFlags.setExceptions (self : ConnectionFlags) (te : Bool) : ConnectionFlags :=
  { self with throwExceptions := te }

inductive LibObject
  | query (made : Query)
  | store (made : StoreQueryResult)
  | use (made : UseQueryResult)
  | row (made : Row)

def LibObject.throwExceptions : LibObject → Bool
  | .query made => made.throwExceptions
  | .store made => made.base.throwExceptions
  | .use made => made.base.throwExceptions
  | .row made => made.throwExceptions

/-- An object that can be made from a connection. What `elides` says of the rows that are
returned is the compiler's choice. -/
inductive Created (elides : Bool) (conn : ConnectionFlags) : LibObject → Prop
  | query (self : QueryId) (qstr : Bytes) :
      Created elides conn (.query (Query.new self conn.throwExceptions qstr))
  | queryCopy {query : Query} :
      Created elides conn (.query query) → Created elides conn (.query query.copy)
  | queryAssign {self rhs : Query} :
      Created elides conn (.query self) → Created elides conn (.query rhs) →
      Created elides conn (.query (self.assign rhs))
  | store {fields : List Field} {res after : MySQLRes fields} {query : Query} {rows : Nat}
      {result : StoreQueryResult} :
      Created elides conn (.query query) →
      (StoreQueryResult.new rows conn.driver query.throwExceptions).run res = .ok result after →
      Created elides conn (.store result)
  | storeEmpty {query : Query} :
      Created elides conn (.query query) → Created elides conn (.store StoreQueryResult.default)
  | storeCopy {result : StoreQueryResult} :
      Created elides conn (.store result) → Created elides conn (.store result.copy)
  | storeAssign {self rhs : StoreQueryResult} {rows : List Row} :
      Created elides conn (.store self) → Created elides conn (.store rhs) →
      StoreQueryResult.AssignedRows self.rows rhs.rows rows →
      Created elides conn (.store (self.assign rhs rows))
  | use {query : Query} (fields : List Field) :
      Created elides conn (.query query) →
      Created elides conn (.use (UseQueryResult.new fields conn.driver query.throwExceptions))
  | useEmpty {query : Query} :
      Created elides conn (.query query) → Created elides conn (.use UseQueryResult.default)
  | useCopy {result : UseQueryResult} :
      Created elides conn (.use result) → Created elides conn (.use result.copy)
  | fetched {fields : List Field} {res after : MySQLRes fields} {result : UseQueryResult}
      {row : Row} :
      Created elides conn (.use result) → (result.fetchRow elides).run res = .ok row after →
      Created elides conn (.row row)
  | stored {result : StoreQueryResult} {row : Row} :
      Created elides conn (.store result) → row ∈ result.rows → Created elides conn (.row row)
  | rowCopy {row : Row} : Created elides conn (.row row) → Created elides conn (.row row.copy)
  | rowAssign {self rhs : Row} :
      Created elides conn (.row self) → Created elides conn (.row rhs) →
        Created elides conn (.row (self.assign rhs))

/-! ### Rows -/

variable {fields : List Field}

theorem MySQLDriver.yields_fetchRow (driver : MySQLDriver) (base : ResultBase) :
    Yields (fun row => row.throwExceptions = driver.throwExceptions ∨ row = Row.default)
      (driver.fetchRow base : EStateM Failure (MySQLRes fields) Row) := by
  apply Yields.bind
  intro found
  cases found with
  | some raw => exact Yields.pure (.inl rfl)
  | none =>
      cases driver.throwExceptions with
      | true => exact Yields.throw _
      | false => exact Yields.pure (.inr rfl)

/-- Rows that are fetched one by one throw if they are copied on their way, or the driver
does. -/
theorem UseQueryResult.yields_fetchRow {elides : Bool} {result : UseQueryResult}
    (loud : elides = true →
      ∀ driver, result.base.driver = some driver → driver.throwExceptions = true) :
    Yields (fun row => row.throwExceptions = true)
      (result.fetchRow elides : EStateM Failure (MySQLRes fields) Row) := by
  unfold fetchRow
  cases result.pimpl with
  | false =>
      cases result.base.throwExceptions with
      | true => exact Yields.throw _
      | false => exact Yields.pure rfl
  | true =>
      cases held : result.base.driver with
      | none => exact Yields.throw _
      | some driver =>
          refine Yields.chain (driver.yields_fetchRow result.base) fun row made => ?_
          have flag : (row.returned elides).throwExceptions = true := by
            cases elides with
            | false => rfl
            | true =>
                rcases made with same | same
                · exact same.trans (loud rfl driver held)
                · rw [same]
                  rfl
          cases row.toBool with
          | false => exact Yields.pure rfl
          | true =>
              refine Yields.bind fun res : MySQLRes fields => ?_
              cases res.mysqlFetchLengths.isSome with
              | true => exact Yields.pure flag
              | false =>
                  cases result.base.throwExceptions with
                  | true => exact Yields.throw _
                  | false => exact Yields.pure rfl

/-- The elements of a new vector have their flag up, and assignments keep it. -/
theorem StoreQueryResult.yields_assignRows (dbd : MySQLDriver) (base : ResultBase)
    (slots : List Row) (up : ∀ slot ∈ slots, slot.throwExceptions = true) :
    Yields (fun rows => ∀ row ∈ rows, row.throwExceptions = true)
      (assignRows dbd base slots : EStateM Failure (MySQLRes fields) (List Row)) := by
  induction slots with
  | nil =>
      apply Yields.bind
      intro row
      cases row.toBool with
      | true => exact Yields.throw _
      | false => exact Yields.pure nofun
  | cons slot slots ih =>
      obtain ⟨first, rest⟩ := List.forall_mem_cons.mp up
      apply Yields.bind
      intro row
      cases row.toBool with
      | true =>
          refine Yields.chain (ih rest) fun rows made => ?_
          exact Yields.pure (List.forall_mem_cons.mpr ⟨first, made⟩)
      | false => exact Yields.pure up

theorem StoreQueryResult.yields_new (rows : Nat) (dbd : MySQLDriver) (te : Bool) :
    Yields (fun result => result.base.throwExceptions = te ∧
        ∀ row ∈ result.rows, row.throwExceptions = true)
      (new rows dbd te : EStateM Failure (MySQLRes fields) StoreQueryResult) := by
  have fresh : ∀ slot ∈ List.replicate rows Row.default, slot.throwExceptions = true := by
    intro slot member
    rw [List.eq_of_mem_replicate member]
    rfl
  refine Yields.chain (yields_assignRows dbd (ResultBase.new fields dbd te) _ fresh) ?_
  intro made flags
  exact Yields.pure ⟨rfl, flags⟩

theorem StoreQueryResult.assignedRows_flags {old new result : List Row}
    (assigned : AssignedRows old new result)
    (up : ∀ slot ∈ old, slot.throwExceptions = true) :
    ∀ row ∈ result, row.throwExceptions = true := by
  induction assigned with
  | nil => exact nofun
  | cons made _rest ih =>
      refine List.forall_mem_cons.mpr ⟨?_, ih⟩
      rcases made with copied | ⟨slot, member, assigned⟩
      · rw [copied]
        rfl
      · rw [assigned]
        exact up slot member

/-! ### With the flags up -/

namespace ResultBase

theorem copy_throwExceptions (other : ResultBase) :
    other.copy.throwExceptions = other.throwExceptions := by
  unfold copy
  cases other.driver <;> rfl

theorem copy_driver (other : ResultBase) : other.copy.driver = other.driver := by
  unfold copy
  cases held : other.driver with
  | some driver => exact held
  | none => rfl

end ResultBase

/-- The flags of an object and of all that it may pass on are up. A driver passes its flag on
only to rows that are not copied. -/
def LibObject.AllUp (elides : Bool) : LibObject → Prop
  | .query made => made.throwExceptions = true
  | .store made =>
      made.base.throwExceptions = true ∧ ∀ row ∈ made.rows, row.throwExceptions = true
  | .use made =>
      made.base.throwExceptions = true ∧
        (elides = true →
          ∀ driver, made.base.driver = some driver → driver.throwExceptions = true)
  | .row made => made.throwExceptions = true

theorem LibObject.AllUp.throwExceptions {elides : Bool} {object : LibObject}
    (up : object.AllUp elides) :
    object.throwExceptions = true := by
  cases object with
  | query made => exact up
  | store made => exact up.1
  | use made => exact up.1
  | row made => exact up

theorem Created.allUp {elides : Bool} {conn : ConnectionFlags} {object : LibObject}
    (up : conn.throwExceptions = true)
    (driverUp : elides = true → conn.driver.throwExceptions = true)
    (created : Created elides conn object) : object.AllUp elides := by
  induction created with
  | query self qstr => exact up
  | queryCopy _made ih => exact ih
  | queryAssign _self _rhs _ihSelf ihRhs => exact ihRhs
  | store _made ran ih =>
      obtain ⟨flag, rows⟩ := StoreQueryResult.yields_new _ _ _ _ _ (congrArg _ ran)
      exact ⟨flag.trans ih, rows⟩
  | storeEmpty _made _ih => exact ⟨rfl, nofun⟩
  | storeCopy _made ih =>
      refine ⟨(ResultBase.copy_throwExceptions _).trans ih.1, ?_⟩
      intro row member
      obtain ⟨source, _, same⟩ := List.mem_map.mp member
      rw [← same]
      rfl
  | storeAssign _self _rhs assigned ihSelf ihRhs =>
      exact ⟨(ResultBase.copy_throwExceptions _).trans ihRhs.1,
        StoreQueryResult.assignedRows_flags assigned ihSelf.2⟩
  | use fields _made ih =>
      refine ⟨ih, ?_⟩
      intro uncopied driver same
      rw [← Option.some.inj same]
      exact driverUp uncopied
  | useEmpty _made _ih => exact ⟨rfl, fun _ => nofun⟩
  | useCopy _made ih =>
      refine ⟨(ResultBase.copy_throwExceptions _).trans ih.1, ?_⟩
      intro uncopied driver same
      exact ih.2 uncopied driver ((ResultBase.copy_driver _).symm.trans same)
  | fetched _made ran ih => exact UseQueryResult.yields_fetchRow ih.2 _ _ (congrArg _ ran)
  | stored _made member ih => exact ih.2 _ member
  | rowCopy _made _ih => rfl
  | rowAssign _self _rhs ihSelf _ihRhs => exact ihSelf

/-- Every object made from a connection has the connection's flag exactly when that is up,
and the driver's is up too where rows are not copied on their way out of `fetch_row()`. -/
theorem created_flags_iff (elides : Bool) (conn : ConnectionFlags) :
    (∀ object, Created elides conn object → object.throwExceptions = conn.throwExceptions) ↔
      conn.throwExceptions = true ∧ (elides = true → conn.driver.throwExceptions = true) := by
  constructor
  · intro all
    have query : Created elides conn (.query (Query.new 0 conn.throwExceptions [])) := .query 0 []
    have up := all _ (.storeEmpty query)
    have held : oneRow.rows = [seven] := rfl
    have ran := UseQueryResult.run_fetchRow_row elides conn.driver conn.throwExceptions held
    have row := all _ (.fetched (.use [idField] query) ran)
    refine ⟨up.symm, ?_⟩
    rintro rfl
    exact row.trans up.symm
  · rintro ⟨up, driverUp⟩ object created
    rw [up]
    exact (created.allUp up driverUp).throwExceptions

-- Switched on again, the connection's flag is not its driver's any more.
example : (ConnectionFlags.new false).setExceptions true = ⟨true, ⟨false⟩⟩ := rfl

/-- With exceptions off from the start, the row of a stored result still throws. -/
theorem stored_row_throws :
    let conn := ConnectionFlags.new false
    let row := seven.row true
    Created false conn (.row row) ∧ row.throwExceptions ≠ conn.throwExceptions := by
  intro conn row
  let result : StoreQueryResult :=
    { base := ResultBase.new [idField] conn.driver false
      rows := [row]
      pimpl := true
      copacetic := true }
  have query : Created false conn (.query (Query.new 0 false [])) := .query 0 []
  have ran : (StoreQueryResult.new 1 conn.driver false).run oneRow =
      .ok result { oneRow with rows := [] } := rfl
  have stored : Created false conn (.store result) := .store query ran
  exact ⟨.stored stored List.mem_cons_self, nofun⟩

end LibTabula
