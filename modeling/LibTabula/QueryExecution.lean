/-
Executing queries.

The driver is a record of the functions that queries call, over an arbitrary state
that stands for the client library and the server. Every text handed to it is
logged. `execute`, `store` and `use` are overloaded in the same way; the overloads
call each other, and only the flag in `template_defaults` keeps a finished text
from being taken for a parameter. The nesting of these calls is followed to a
given depth, which is shown to suffice.
-/

import LibTabula.DefaultParameters

set_option autoImplicit false

namespace LibTabula

open Foundation

/-- The driver's functions. `storeResult` gives the number of rows of a result
set, if there is one, `storeRows` reads them into a `StoreQueryResult`, and
`fetchRows` moves the rows of a result set into a container. `error` is what the
connection makes of the driver's message. -/
structure DBDriver (δ : Type) where
  execute : Bytes → δ → Bool × δ
  storeResult : δ → Option Nat × δ
  storeRows : δ → Except Failure Unit × δ
  useResult : δ → Bool × δ
  fetchRows : δ → Except Failure Unit × δ
  resultEmpty : δ → Bool
  errnum : δ → Int
  error : δ → Bytes
  insertId : δ → Nat
  affectedRows : δ → Nat
  escapeString : Bytes → Bytes

/-- A driver whose server executes everything and has no results. -/
def acceptingDriver : DBDriver Unit where
  execute _ state := (true, state)
  storeResult state := (none, state)
  storeRows state := (.ok (), state)
  useResult state := (false, state)
  fetchRows state := (.ok (), state)
  resultEmpty _ := true
  errnum _ := 0
  error _ := []
  insertId _ := 0
  affectedRows _ := 0
  escapeString := SQLStream.escapeText

structure Sent where
  text : Bytes
  ok : Bool
deriving DecidableEq, Repr

structure Connection (δ : Type) where
  state : δ
  sent : List Sent

def Connection.execute {δ : Type} (driver : DBDriver δ) (text : Bytes) (self : Connection δ) :
    Bool × Connection δ :=
  let (ok, state) := driver.execute text self.state
  (ok, { state := state, sent := self.sent ++ [{ text := text, ok := ok }] })

structure Session (δ : Type) where
  query : Query
  conn : Connection δ

/-- What the execution functions return: a `SimpleResult`, a `StoreQueryResult`
with its number of rows, a `UseQueryResult`, or an empty object of these types. -/
inductive QueryResult
  | simple (insertId rows : Nat)
  | store (rows : Nat)
  | use
  | empty
deriving DecidableEq, Repr

namespace Session

variable {δ : Type} (driver : DBDriver δ)

def texts (self : Session δ) : List Bytes := self.conn.sent.map Sent.text

def onQuery {α : Type} (x : EStateM Failure Query α) : EStateM Failure (Session δ) α :=
  onPart Session.query (fun self query => { self with query := query }) x

def str (p : Option SQLQueryParms) : EStateM Failure (Session δ) Bytes :=
  onQuery (Query.str driver.escapeString p)

/-- `copacetic_ = conn_->driver()->execute(str, len)`. -/
def driverExecute (text : Bytes) : EStateM Failure (Session δ) Bool := fun self =>
  let (ok, conn) := self.conn.execute driver text
  .ok ok { query := { self.query with copacetic := ok }, conn := conn }

def onDriver {α : Type} (ask : δ → α × δ) : EStateM Failure (Session δ) α :=
  modifyGet fun self =>
    let (value, state) := ask self.conn.state
    (value, { self with conn := { self.conn with state := state } })

def autoReset : EStateM Failure (Session δ) Unit :=
  modify fun self =>
    if self.query.parseElems = [] then { self with query := self.query.reset } else self

def badQuery {α : Type} (otherwise : α) : EStateM Failure (Session δ) α := do
  let self ← get
  if self.query.throwExceptions then
    throw (.badQuery (driver.error self.conn.state) (driver.errnum self.conn.state))
  return otherwise

def execText (text : Bytes) : EStateM Failure (Session δ) Bool := do
  let ok ← driverExecute driver text
  if ok then
    autoReset
    return true
  else badQuery driver false

def exec : EStateM Failure (Session δ) Bool := do
  let text ← str driver none
  execText driver text

/-- The end of `execute(const char*, size_t)`. -/
def sendExecute (text : Bytes) : EStateM Failure (Session δ) QueryResult := do
  let ok ← driverExecute driver text
  if ok then
    autoReset
    let self ← get
    return .simple (driver.insertId self.conn.state) (driver.affectedRows self.conn.state)
  else badQuery driver .empty

/-- What `store` and `use` do without a result set, which need not be an error. -/
def noResult : EStateM Failure (Session δ) QueryResult := do
  modify fun self =>
    { self with query := { self.query with copacetic := driver.errnum self.conn.state = 0 } }
  let self ← get
  if self.query.copacetic then
    autoReset
    return .empty
  else badQuery driver .empty

/-- The end of `store` and of `use`, which differ in how they ask for the result and
in what its constructor does. -/
def sendForResult (result : δ → Option QueryResult × δ) (construct : δ → Except Failure Unit × δ)
    (text : Bytes) : EStateM Failure (Session δ) QueryResult := do
  let ok ← driverExecute driver text
  if ok then
    match ← onDriver result with
    | some value =>
        autoReset
        let constructed ← onDriver construct
        ofExcept constructed
        return value
    | none => noResult driver
  else noResult driver

def sendStore (text : Bytes) : EStateM Failure (Session δ) QueryResult :=
  sendForResult driver (fun state =>
    let (rows, state) := driver.storeResult state
    (rows.map QueryResult.store, state)) driver.storeRows text

def sendUse (text : Bytes) : EStateM Failure (Session δ) QueryResult :=
  sendForResult driver (fun state =>
    let (there, state) := driver.useResult state
    (if there then some .use else none, state)) (fun state => (.ok (), state)) text

/-- `AutoFlag<> af(template_defaults.processing_)`, around the rest of a function. -/
def setProcessing (value : Bool) (self : Session δ) : Session δ :=
  { self with
    query :=
      { self.query with
        templateDefaults := { self.query.templateDefaults with processing := value } } }

def autoFlag {α : Type} (x : EStateM Failure (Session δ) α) : EStateM Failure (Session δ) α :=
  flagged (setProcessing true) (setProcessing false) x

/-- The test for a template query with one placeholder outside a recursive call. -/
def takesLoneParameter (self : Session δ) : Bool :=
  self.query.parseElems.length = 2 && !self.query.templateDefaults.processing

end Session

/-- The overloads of an execution function: without arguments, with a list of
parameters, with one adapter, with a text and its length. -/
inductive Overload
  | noArgs
  | parms (p : SQLQueryParms)
  | adapter (s : SQLTypeAdapter)
  | chars (str : Bytes)

/-- One of `execute`, `store` and `use`. They differ in what the overload with an
adapter does, which in `execute` looks for a lone parameter itself, and in how a
finished text is sent; each sends it once. -/
structure ExecutionFamily {δ : Type} (driver : DBDriver δ) where
  keepsAdapter : Bool
  send : Bytes → EStateM Failure (Session δ) QueryResult
  sends : ∀ (text : Bytes) (session : Session δ),
    ((send text).run session).final.texts = session.texts ++ [text]

namespace Session

variable {δ : Type} (driver : DBDriver δ)

/-- What the driver's `execute` and the rest of a call may do to a session never
shows in what is read. -/
structure Stable {ρ : Type} (read : Session δ → ρ) : Prop where
  copacetic : ∀ session value,
    read { session with query := { session.query with copacetic := value } } = read session
  reset : ∀ session, session.query.parseElems = [] →
    read { session with query := session.query.reset } = read session
  state : ∀ session state,
    read { session with conn := { session.conn with state := state } } = read session

theorem stable_texts : Stable (texts : Session δ → List Bytes) where
  copacetic _ _ := rfl
  reset _ _ := rfl
  state _ _ := rfl

theorem texts_driverExecute (text : Bytes) (session : Session δ) :
    ((driverExecute driver text).run session).final.texts = session.texts ++ [text] := by
  simp [driverExecute, EStateM.run, texts, Connection.execute]

section Stable

variable {ρ : Type} {read : Session δ → ρ}

theorem preserves_onDriver (stable : Stable read) {α : Type} (ask : δ → α × δ) :
    Preserves read (onDriver ask) :=
  fun session => stable.state session _

theorem preserves_autoReset (stable : Stable read) : Preserves read autoReset := by
  apply Preserves.modify
  intro session
  by_cases noTemplate : session.query.parseElems = []
  · rw [if_pos noTemplate]
    exact stable.reset session noTemplate
  · rw [if_neg noTemplate]

theorem preserves_badQuery {α : Type} (otherwise : α) :
    Preserves read (badQuery driver otherwise) := by
  apply Preserves.bind Preserves.get
  intro session
  cases session.query.throwExceptions with
  | true => exact Preserves.throw _
  | false => exact Preserves.pure otherwise

theorem preserves_ofExcept {α : Type} (value : Except Failure α) :
    Preserves read (ofExcept value : EStateM Failure (Session δ) α) := by
  cases value with
  | error failure => exact Preserves.throw failure
  | ok value => exact Preserves.pure value

theorem preserves_noResult (stable : Stable read) : Preserves read (noResult driver) := by
  apply Preserves.bind
  · apply Preserves.modify
    intro session
    exact stable.copacetic session _
  · intro _done
    apply Preserves.bind Preserves.get
    intro session
    cases session.query.copacetic with
    | true => exact Preserves.bind (preserves_autoReset stable) fun _ => Preserves.pure _
    | false => exact preserves_badQuery driver _

theorem read_sendExecute (stable : Stable read) (text : Bytes) (session : Session δ) :
    read ((sendExecute driver text).run session).final =
      read ((driverExecute driver text).run session).final := by
  apply Preserves.after
  intro ok
  cases ok with
  | true =>
      apply Preserves.bind (preserves_autoReset stable)
      intro _done
      exact Preserves.bind Preserves.get fun _ => Preserves.pure _
  | false => exact preserves_badQuery driver _

theorem read_sendForResult (stable : Stable read) (result : δ → Option QueryResult × δ)
    (construct : δ → Except Failure Unit × δ) (text : Bytes) (session : Session δ) :
    read ((sendForResult driver result construct text).run session).final =
      read ((driverExecute driver text).run session).final := by
  apply Preserves.after
  intro ok
  cases ok with
  | true =>
      apply Preserves.bind (preserves_onDriver stable result)
      intro found
      cases found with
      | some value =>
          apply Preserves.bind (preserves_autoReset stable)
          intro _reset
          apply Preserves.bind (preserves_onDriver stable construct)
          intro constructed
          exact Preserves.bind (preserves_ofExcept constructed) fun _ => Preserves.pure _
      | none => exact preserves_noResult driver stable
  | false => exact preserves_noResult driver stable

end Stable

theorem texts_sendExecute (text : Bytes) (session : Session δ) :
    ((sendExecute driver text).run session).final.texts = session.texts ++ [text] :=
  (read_sendExecute driver stable_texts text session).trans
    (texts_driverExecute driver text session)

theorem texts_sendForResult (result : δ → Option QueryResult × δ)
    (construct : δ → Except Failure Unit × δ) (text : Bytes) (session : Session δ) :
    ((sendForResult driver result construct text).run session).final.texts =
      session.texts ++ [text] :=
  (read_sendForResult driver stable_texts result construct text session).trans
    (texts_driverExecute driver text session)

/-! ### The overloads -/

def executeFamily : ExecutionFamily driver where
  keepsAdapter := true
  send := sendExecute driver
  sends := texts_sendExecute driver

def storeFamily : ExecutionFamily driver where
  keepsAdapter := false
  send := sendStore driver
  sends := texts_sendForResult driver _ _

def useFamily : ExecutionFamily driver where
  keepsAdapter := false
  send := sendUse driver
  sends := texts_sendForResult driver _ _

variable {driver} (family : ExecutionFamily driver)

/-- The overloads of a family, with the depth to which their calls are followed. -/
def call : Nat → Overload → EStateM Failure (Session δ) QueryResult
  | 0, _ => throw .stackOverflow
  | depth + 1, .noArgs =>
      autoFlag do
        let text ← str driver none
        call depth (.adapter (SQLTypeAdapter.ofString text false))
  | depth + 1, .parms p =>
      autoFlag do
        let text ← str driver (some p)
        call depth (.adapter (SQLTypeAdapter.ofString text false))
  | depth + 1, .adapter s => do
      let self ← get
      if family.keepsAdapter && self.takesLoneParameter then
        autoFlag (call depth (.parms (SQLQueryParms.ofList [s])))
      else call depth (.chars s.data)
  | depth + 1, .chars text => do
      let self ← get
      if self.takesLoneParameter then
        autoFlag (call depth
          (.parms (SQLQueryParms.ofList [SQLTypeAdapter.ofString text false])))
      else family.send text

/-- A lone parameter makes five calls, one within the other. -/
def callDepth : Nat := 5

def execute (driver : DBDriver δ) (overload : Overload) :
    EStateM Failure (Session δ) QueryResult :=
  call (executeFamily driver) callDepth overload

def store (driver : DBDriver δ) (overload : Overload) :
    EStateM Failure (Session δ) QueryResult :=
  call (storeFamily driver) callDepth overload

def use (driver : DBDriver δ) (overload : Overload) :
    EStateM Failure (Session δ) QueryResult :=
  call (useFamily driver) callDepth overload

/-- `storein_sequence(con, s)` and `storein_set(con, s)`, to which the overloads of
`storein` with an adapter come down. -/
def storeinAdapter (driver : DBDriver δ) (s : SQLTypeAdapter) :
    EStateM Failure (Session δ) Unit := do
  let result ← use driver (.adapter s)
  if result ≠ .empty then
    let fetched ← onDriver driver.fetchRows
    ofExcept fetched
  else
    let self ← get
    if !driver.resultEmpty self.conn.state then
      modify fun self => { self with query := { self.query with copacetic := false } }
      if self.query.throwExceptions then
        throw (.useQueryError "Bogus empty result")

/-- The overloads of `storein` and of its two relatives, which have none with a
length. A C string is made into an adapter. -/
def storein (driver : DBDriver δ) : Overload → EStateM Failure (Session δ) Unit
  | .noArgs => do
      let text ← str driver none
      storeinAdapter driver (SQLTypeAdapter.ofString text false)
  | .parms p => do
      let text ← str driver (some p)
      storeinAdapter driver (SQLTypeAdapter.ofString text false)
  | .adapter s => storeinAdapter driver s
  | .chars text => storeinAdapter driver (SQLTypeAdapter.ofString text false)

end Session

end LibTabula
