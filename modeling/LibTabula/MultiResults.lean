/-
Texts with several statements.

A text may have several statements, and each is answered. `store` and `use` take the first
answer, `store_next` takes the next one, and `execute` and `exec` look at the first one only as
far as to know whether it is an error. What the client library does is a parameter. Its
documentation speaks of answers that stand in line, and of commands that are out of sync. It is
of version 4.1.1 or later, so that there is a next result.
-/

import LibTabula.AutoReset
import LibTabula.Foundation.AnswerLine

set_option autoImplicit false

namespace LibTabula

open Foundation

/-! ### The driver -/

/-- A driver with the client library's functions for the results behind the first one, and
`mysql_free_result()` for a result that is used. -/
structure MultiDriver (δ : Type) extends DBDriver δ where
  mysqlNextResult : δ → Int × δ
  moreResults : δ → Bool
  freeResult : δ → δ

inductive NrCode
  | moreResults
  | lastResult
  | error
deriving DecidableEq, Repr

/-- `MySQLDriver::next_result()`. -/
def MultiDriver.nextResult {δ : Type} (driver : MultiDriver δ) (state : δ) : NrCode × δ :=
  let (code, after) := driver.mysqlNextResult state
  (if code = 0 then .moreResults else if code = -1 then .lastResult else .error, after)

namespace Session

variable {δ : Type} (driver : MultiDriver δ)

/-- An error is thrown if exceptions are enabled, and there is no result. -/
def emptyResult : EStateM Failure (Session δ) QueryResult := do
  let self ← get
  if driver.errnum self.conn.state ≠ 0 then badQuery driver.toDBDriver .empty
  else return .empty

def storeNext : EStateM Failure (Session δ) QueryResult := do
  match ← onDriver driver.nextResult with
  | .moreResults =>
      match ← onDriver driver.storeResult with
      | some rows =>
          let constructed ← onDriver driver.storeRows
          ofExcept constructed
          return .store rows
      | none => emptyResult driver
  | .error => badQuery driver.toDBDriver .empty
  | .lastResult => emptyResult driver

/-- `for (int i = 1; query.more_results(); ++i)`, for so many turns; the results are kept. -/
def storeFurther : Nat → EStateM Failure (Session δ) (Option (List QueryResult))
  | 0 => return none
  | turns + 1 => do
      let self ← get
      if driver.moreResults self.conn.state then
        let res ← storeNext driver
        let further ← storeFurther turns
        return further.map (res :: ·)
      else return some []

/-- `print_multiple_results`, as far as it has to do with the query; the text is the one that
`store()` sends. -/
def multipleResults (turns : Nat) (text : Bytes) :
    EStateM Failure (Session δ) (Option (List QueryResult)) := do
  let res ← sendStore driver.toDBDriver text
  let further ← storeFurther driver turns
  return further.map (res :: ·)

end Session

/-! ### Calls -/

inductive ResultCall
  | store (text : Bytes)
  | storeNext
  | use (text : Bytes)
  | execute (text : Bytes)
  | exec (text : Bytes)
  /-- The last `UseQueryResult` goes. -/
  | release

inductive CallValue
  | result (value : QueryResult)
  | flag (ok : Bool)
  | nothing
deriving DecidableEq, Repr

def ResultCall.run {δ : Type} (driver : MultiDriver δ) :
    ResultCall → EStateM Failure (Session δ) CallValue
  | .store text => CallValue.result <$> Session.sendStore driver.toDBDriver text
  | .storeNext => CallValue.result <$> Session.storeNext driver
  | .use text => CallValue.result <$> Session.sendUse driver.toDBDriver text
  | .execute text => CallValue.result <$> Session.sendExecute driver.toDBDriver text
  | .exec text => CallValue.flag <$> Session.execText driver.toDBDriver text
  | .release => do
      Session.onDriver fun state => ((), driver.freeResult state)
      return .nothing

/-! ### What is documented -/

abbrev ErrorNumber : Type := { number : Int // number ≠ 0 }

def commandsOutOfSync : ErrorNumber := ⟨2014, by decide⟩

/-- What `mysql_errno()` is then. -/
def errorOf : Answer Nat ErrorNumber → Int
  | .failed error => error
  | .rows _ | .done => 0

/-- The client library's state as a line of answers. The sets are numbers of rows; a set that
is stored may turn out to be unreadable. -/
structure LibraryView {δ : Type} (driver : MultiDriver δ) where
  line : δ → AnswerLine Nat ErrorNumber
  answers : Bytes → δ → Answers Nat ErrorNumber
  executes : ∀ text state, line state = .clear →
    line (driver.execute text state).2 =
        { front := (answers text state).first.frontSet .leave
          waiting := (answers text state).rest } ∧
      ((driver.execute text state).1 = true ↔ errorOf (answers text state).first = 0) ∧
      driver.errnum (driver.execute text state).2 = errorOf (answers text state).first
  refuses : ∀ text state, line state ≠ .clear →
    line (driver.execute text state).2 = line state ∧ (driver.execute text state).1 = false ∧
      driver.errnum (driver.execute text state).2 = commandsOutOfSync
  stores : ∀ state rows, (line state).front = .unfetched rows →
    line (driver.storeResult state).2 = { line state with front := .none } ∧
      ((driver.storeResult state).1 = some rows ∨
        (driver.storeResult state).1 = none ∧ driver.errnum (driver.storeResult state).2 ≠ 0)
  noSet : ∀ state, (line state).front = .none →
    line (driver.storeResult state).2 = line state ∧ (driver.storeResult state).1 = none ∧
      driver.errnum (driver.storeResult state).2 = driver.errnum state
  uses : ∀ state rows, (line state).front = .unfetched rows →
    line (driver.useResult state).2 = { line state with front := .streamed } ∧
      (driver.useResult state).1 = true
  notUsed : ∀ state, (line state).front = .none →
    line (driver.useResult state).2 = line state ∧ (driver.useResult state).1 = false ∧
      driver.errnum (driver.useResult state).2 = driver.errnum state
  rowsKept : ∀ state, line (driver.storeRows state).2 = line state
  moves : ∀ state answer rest, line state = { front := .none, waiting := answer :: rest } →
    line (driver.mysqlNextResult state).2 =
        { front := answer.frontSet .leave, waiting := rest } ∧
      ((driver.mysqlNextResult state).1 = 0 ↔ errorOf answer = 0) ∧
      (driver.mysqlNextResult state).1 ≠ -1 ∧
      driver.errnum (driver.mysqlNextResult state).2 = errorOf answer
  ends : ∀ state, line state = .clear →
    line (driver.mysqlNextResult state).2 = .clear ∧ (driver.mysqlNextResult state).1 = -1 ∧
      driver.errnum (driver.mysqlNextResult state).2 = 0
  blocks : ∀ state, (line state).front ≠ .none →
    line (driver.mysqlNextResult state).2 = line state ∧
      (driver.mysqlNextResult state).1 ≠ 0 ∧ (driver.mysqlNextResult state).1 ≠ -1 ∧
      driver.errnum (driver.mysqlNextResult state).2 = commandsOutOfSync
  more : ∀ state, driver.moreResults state = true ↔ (line state).waiting ≠ []
  frees : ∀ state, line (driver.freeResult state) = (line state).after .release

/-- What a call is for the line. -/
def ResultCall.event {δ : Type} {driver : MultiDriver δ} (view : LibraryView driver) (state : δ) :
    ResultCall → LineEvent Nat ErrorNumber
  | .store text => .request (view.answers text state) .fetch
  | .storeNext => .next
  | .use text => .request (view.answers text state) .stream
  | .execute text | .exec text => .request (view.answers text state) .leave
  | .release => .release

/-- A server with a script, behind a client library that keeps the line itself. -/
structure ScriptedState where
  line : AnswerLine Nat ErrorNumber
  errno : Int
deriving Repr

namespace ScriptedState

def store (state : ScriptedState) : Option Nat × ScriptedState :=
  match state.line.front with
  | .unfetched rows => (some rows, { state with line := { state.line with front := .none } })
  | .none | .streamed => (none, state)

def use (state : ScriptedState) : Bool × ScriptedState :=
  match state.line.front with
  | .unfetched _ => (true, { state with line := { state.line with front := .streamed } })
  | .none | .streamed => (false, state)

/-- Nothing may be in line but what is waiting. -/
def next (state : ScriptedState) : Int × ScriptedState :=
  match state.line.front, state.line.waiting with
  | .none, [] => (-1, { state with errno := 0 })
  | .none, answer :: rest =>
      (if errorOf answer = 0 then 0 else 1,
        { line := { front := answer.frontSet .leave, waiting := rest }, errno := errorOf answer })
  | _, _ => (1, { state with errno := commandsOutOfSync })

theorem next_of_front {state : ScriptedState} (there : state.line.front ≠ .none) :
    state.next = (1, { state with errno := commandsOutOfSync }) := by
  obtain ⟨⟨front, waiting⟩, errno⟩ := state
  cases front with
  | none => exact absurd rfl there
  | unfetched rows => rfl
  | streamed => rfl

end ScriptedState

def scriptedDriver (script : Bytes → Answers Nat ErrorNumber) : MultiDriver ScriptedState where
  execute text state :=
    if state.line = .clear then
      (decide (errorOf (script text).first = 0),
        { line :=
            { front := (script text).first.frontSet .leave, waiting := (script text).rest }
          errno := errorOf (script text).first })
    else (false, { state with errno := commandsOutOfSync })
  storeResult := ScriptedState.store
  storeRows state := (.ok (), state)
  useResult := ScriptedState.use
  fetchRows state := (.ok (), state)
  resultEmpty _ := true
  errnum := ScriptedState.errno
  error _ := []
  insertId _ := 0
  affectedRows _ := 0
  escapeString := SQLStream.escapeText
  mysqlNextResult := ScriptedState.next
  moreResults state := !state.line.waiting.isEmpty
  freeResult state := { state with line := state.line.after .release }

def scriptedView (script : Bytes → Answers Nat ErrorNumber) :
    LibraryView (scriptedDriver script) where
  line := ScriptedState.line
  answers text _ := script text
  executes text state clear := by
    unfold scriptedDriver
    simp only [if_pos clear, decide_eq_true_eq, and_self]
  refuses text state inLine := by
    unfold scriptedDriver
    simp only [if_neg inLine, and_self]
  stores state rows front := by
    unfold scriptedDriver ScriptedState.store
    simp only [front, true_or, and_self]
  noSet state front := by
    unfold scriptedDriver ScriptedState.store
    simp only [front, and_self]
  uses state rows front := by
    unfold scriptedDriver ScriptedState.use
    simp only [front, and_self]
  notUsed state front := by
    unfold scriptedDriver ScriptedState.use
    simp only [front, and_self]
  rowsKept _ := rfl
  moves state answer rest line := by
    unfold scriptedDriver ScriptedState.next
    simp only [line]
    by_cases none : errorOf answer = 0
    · simp [none]
    · simp [none]
  ends state clear := by
    unfold scriptedDriver ScriptedState.next
    simp only [clear, AnswerLine.clear, and_self]
  blocks state there := by
    change (ScriptedState.next state).2.line = _ ∧ (ScriptedState.next state).1 ≠ 0 ∧
      (ScriptedState.next state).1 ≠ -1 ∧ (ScriptedState.next state).2.errno = _
    rw [ScriptedState.next_of_front there]
    exact ⟨rfl, Int.one_ne_zero, (by decide : (1 : Int) ≠ -1), rfl⟩
  more state := by
    change (!state.line.waiting.isEmpty) = true ↔ _
    cases state.line.waiting with
    | nil => exact iff_of_false Bool.false_ne_true fun none => none rfl
    | cons answer rest => exact iff_of_true rfl (List.cons_ne_nil answer rest)
  frees _ := rfl

/-! ### What the calls come to -/

/-- A call has this outcome and leaves the driver like this. -/
def EndsIn {δ α : Type} (result : EStateM.Result Failure (Session δ) α)
    (outcome : Except Failure α) (state : δ) : Prop :=
  result.outcome = outcome ∧ result.final.conn.state = state

namespace Session

section Sending

variable {δ : Type} (driver : DBDriver δ)

/-- What is reported of the last error, if there is one. -/
def lastError {α : Type} (throws : Bool) (otherwise : α) (state : δ) : Except Failure α :=
  if throws then .error (.badQuery (driver.error state) (driver.errnum state)) else .ok otherwise

def emptyOutcome (throws : Bool) (state : δ) : Except Failure QueryResult :=
  if driver.errnum state = 0 then .ok .empty else lastError driver throws .empty state

/-- The session behind `autoReset`. -/
def settled (self : Session δ) : Session δ :=
  if self.query.parseElems = [] then { self with query := self.query.reset } else self

theorem settled_kept (self : Session δ) :
    self.settled.conn = self.conn ∧
      self.settled.query.throwExceptions = self.query.throwExceptions := by
  unfold settled
  by_cases noElems : self.query.parseElems = []
  · rw [if_pos noElems]
    exact ⟨rfl, rfl⟩
  · rw [if_neg noElems]
    exact ⟨rfl, rfl⟩

theorem autoReset_run (session : Session δ) :
    (autoReset : EStateM Failure (Session δ) Unit).run session = .ok () session.settled := rfl

theorem badQuery_ends {α : Type} (otherwise : α) (session : Session δ) :
    EndsIn ((badQuery driver otherwise).run session)
      (lastError driver session.query.throwExceptions otherwise session.conn.state)
      session.conn.state := by
  rw [badQuery_run, lastError]
  cases session.query.throwExceptions with
  | true => exact ⟨rfl, rfl⟩
  | false => exact ⟨rfl, rfl⟩

theorem noResult_ends (session : Session δ) :
    EndsIn ((noResult driver).run session)
      (emptyOutcome driver session.query.throwExceptions session.conn.state)
      session.conn.state := by
  let checked : Session δ :=
    { session with
      query := { session.query with copacetic := driver.errnum session.conn.state = 0 } }
  have ran : (noResult driver).run session =
      (if checked.query.copacetic then autoReset >>= fun _ => pure QueryResult.empty
        else badQuery driver .empty).run checked := rfl
  rw [ran, emptyOutcome]
  by_cases none : driver.errnum session.conn.state = 0
  · have copacetic : checked.query.copacetic = true := decide_eq_true none
    rw [if_pos copacetic, if_pos none, run_bind_of_ok (autoReset_run checked)]
    constructor
    · rfl
    · exact congrArg Connection.state checked.settled_kept.1
  · have copacetic : ¬ checked.query.copacetic = true := fun up => none (of_decide_eq_true up)
    rw [if_neg copacetic, if_neg none]
    exact badQuery_ends driver QueryResult.empty checked

/-- A text that is not executed. -/
theorem sendForResult_refused {session : Session δ} {text : Bytes}
    (refused : (driver.execute text session.conn.state).1 = false)
    (result : δ → Option QueryResult × δ) (construct : δ → Except Failure Unit × δ) :
    EndsIn ((sendForResult driver result construct text).run session)
      (emptyOutcome driver session.query.throwExceptions
        (driver.execute text session.conn.state).2)
      (driver.execute text session.conn.state).2 := by
  have execution : session.executes driver text = false := refused
  unfold sendForResult
  rw [run_bind_of_ok (driverExecute_run driver session text), execution,
    if_neg Bool.false_ne_true]
  exact noResult_ends driver (session.executed driver text)

/-- One that is executed and has no set of rows. -/
theorem sendForResult_noSet {session : Session δ} {text : Bytes}
    (executed_ : (driver.execute text session.conn.state).1 = true)
    {result : δ → Option QueryResult × δ}
    (none : (result (driver.execute text session.conn.state).2).1 = none)
    (construct : δ → Except Failure Unit × δ) :
    EndsIn ((sendForResult driver result construct text).run session)
      (emptyOutcome driver session.query.throwExceptions
        (result (driver.execute text session.conn.state).2).2)
      (result (driver.execute text session.conn.state).2).2 := by
  have execution : session.executes driver text = true := executed_
  have state : (session.executed driver text).conn.state =
      (driver.execute text session.conn.state).2 := rfl
  rw [← state] at none
  unfold sendForResult
  rw [run_bind_of_ok (driverExecute_run driver session text), execution, if_pos rfl,
    run_bind_of_ok (onDriver_run result (session.executed driver text)), none]
  exact noResult_ends driver (asked result (session.executed driver text))

/-- One with a set of rows. -/
theorem sendForResult_set {session : Session δ} {text : Bytes}
    (executed_ : (driver.execute text session.conn.state).1 = true)
    {result : δ → Option QueryResult × δ} {value : QueryResult}
    (some_ : (result (driver.execute text session.conn.state).2).1 = some value)
    (construct : δ → Except Failure Unit × δ) :
    EndsIn ((sendForResult driver result construct text).run session)
      ((construct (result (driver.execute text session.conn.state).2).2).1.map fun _ => value)
      (construct (result (driver.execute text session.conn.state).2).2).2 := by
  have execution : session.executes driver text = true := executed_
  let found := asked result (session.executed driver text)
  have state : (session.executed driver text).conn.state =
      (driver.execute text session.conn.state).2 := rfl
  have kept : found.settled.conn.state =
      (result (driver.execute text session.conn.state).2).2 :=
    congrArg Connection.state found.settled_kept.1
  rw [← state] at some_
  unfold sendForResult
  rw [run_bind_of_ok (driverExecute_run driver session text), execution, if_pos rfl,
    run_bind_of_ok (onDriver_run result (session.executed driver text)), some_]
  change EndsIn ((autoReset >>= fun _ => onDriver construct >>= fun constructed =>
    ofExcept constructed >>= fun _ => pure value).run found) _ _
  rw [run_bind_of_ok (autoReset_run found), run_bind_of_ok (onDriver_run construct found.settled),
    kept]
  cases made : (construct (result (driver.execute text session.conn.state).2).2).1 with
  | ok done =>
      refine ⟨rfl, ?_⟩
      change (construct found.settled.conn.state).2 = _
      rw [kept]
  | error failure =>
      refine ⟨rfl, ?_⟩
      change (construct found.settled.conn.state).2 = _
      rw [kept]

section StoreAndUse

variable {session : Session δ} {text : Bytes}
  (executed_ : (driver.execute text session.conn.state).1 = true)
include executed_

theorem sendStore_noSet
    (none : (driver.storeResult (driver.execute text session.conn.state).2).1 = none) :
    EndsIn ((sendStore driver text).run session)
      (emptyOutcome driver session.query.throwExceptions
        (driver.storeResult (driver.execute text session.conn.state).2).2)
      (driver.storeResult (driver.execute text session.conn.state).2).2 := by
  have noValue := congrArg (Option.map QueryResult.store) none
  unfold sendStore
  exact sendForResult_noSet driver executed_ noValue driver.storeRows

theorem sendStore_set {rows : Nat}
    (some_ : (driver.storeResult (driver.execute text session.conn.state).2).1 = some rows) :
    EndsIn ((sendStore driver text).run session)
      ((driver.storeRows (driver.storeResult (driver.execute text session.conn.state).2).2).1.map
        fun _ => .store rows)
      (driver.storeRows (driver.storeResult (driver.execute text session.conn.state).2).2).2 := by
  have value := congrArg (Option.map QueryResult.store) some_
  unfold sendStore
  exact sendForResult_set driver executed_ value driver.storeRows

theorem sendUse_set
    (there : (driver.useResult (driver.execute text session.conn.state).2).1 = true) :
    EndsIn ((sendUse driver text).run session) (.ok .use)
      (driver.useResult (driver.execute text session.conn.state).2).2 := by
  have value := congrArg (fun there => if there then some QueryResult.use else none) there
  unfold sendUse
  exact sendForResult_set driver executed_ value fun state => (.ok (), state)

end StoreAndUse

/-- `exec` and the end of `execute`. -/
theorem executing_ends {α : Type} {session : Session δ} (text : Bytes)
    (done : EStateM Failure (Session δ) α) (otherwise : α) (value : δ → α)
    (returns : ∀ after, done.run after = .ok (value after.conn.state) after) :
    EndsIn
      ((do
        let ok ← driverExecute driver text
        if ok then
          autoReset
          done
        else badQuery driver otherwise).run session)
      (if (driver.execute text session.conn.state).1 then
        .ok (value (driver.execute text session.conn.state).2)
      else lastError driver session.query.throwExceptions otherwise
        (driver.execute text session.conn.state).2)
      (driver.execute text session.conn.state).2 := by
  have execution : session.executes driver text = (driver.execute text session.conn.state).1 := rfl
  rw [run_bind_of_ok (driverExecute_run driver session text), execution]
  cases (driver.execute text session.conn.state).1 with
  | false =>
      rw [if_neg Bool.false_ne_true, if_neg Bool.false_ne_true]
      exact badQuery_ends driver otherwise (session.executed driver text)
  | true =>
      have kept : (session.executed driver text).settled.conn.state =
          (driver.execute text session.conn.state).2 :=
        congrArg Connection.state (session.executed driver text).settled_kept.1
      rw [if_pos rfl, if_pos rfl, run_bind_of_ok (autoReset_run _), returns, kept]
      exact ⟨rfl, kept⟩

theorem execText_ends (session : Session δ) (text : Bytes) :
    EndsIn ((execText driver text).run session)
      (if (driver.execute text session.conn.state).1 then .ok true
      else lastError driver session.query.throwExceptions false
        (driver.execute text session.conn.state).2)
      (driver.execute text session.conn.state).2 :=
  executing_ends driver text (pure true) false (fun _ => true) fun _ => rfl

theorem sendExecute_ends (session : Session δ) (text : Bytes) :
    EndsIn ((sendExecute driver text).run session)
      (if (driver.execute text session.conn.state).1 then
        .ok (.simple (driver.insertId (driver.execute text session.conn.state).2)
          (driver.affectedRows (driver.execute text session.conn.state).2))
      else lastError driver session.query.throwExceptions .empty
        (driver.execute text session.conn.state).2)
      (driver.execute text session.conn.state).2 :=
  executing_ends driver text
    (do
      let self ← get
      return QueryResult.simple (driver.insertId self.conn.state)
        (driver.affectedRows self.conn.state)) QueryResult.empty
    (fun after => QueryResult.simple (driver.insertId after) (driver.affectedRows after))
    fun _ => rfl

end Sending

section Further

variable {δ : Type} (driver : MultiDriver δ)

theorem emptyResult_ends (session : Session δ) :
    EndsIn ((emptyResult driver).run session)
      (emptyOutcome driver.toDBDriver session.query.throwExceptions session.conn.state)
      session.conn.state := by
  have ran : (emptyResult driver).run session =
      (if driver.errnum session.conn.state ≠ 0 then badQuery driver.toDBDriver .empty
        else pure QueryResult.empty).run session := rfl
  rw [ran, emptyOutcome]
  by_cases none : driver.errnum session.conn.state = 0
  · rw [if_neg (not_not_intro none), if_pos none]
    exact ⟨rfl, rfl⟩
  · rw [if_pos none, if_neg none]
    exact badQuery_ends driver.toDBDriver QueryResult.empty session

theorem nextResult_eq (state : δ) :
    driver.nextResult state =
      (if (driver.mysqlNextResult state).1 = 0 then .moreResults
        else if (driver.mysqlNextResult state).1 = -1 then .lastResult else .error,
        (driver.mysqlNextResult state).2) := rfl

theorem storeNext_moved {session : Session δ}
    (moved : (driver.mysqlNextResult session.conn.state).1 = 0) :
    (storeNext driver).run session =
      (onDriver driver.storeResult >>= fun
        | some rows => onDriver driver.storeRows >>= fun constructed =>
            ofExcept constructed >>= fun _ => pure (QueryResult.store rows)
        | none => emptyResult driver).run (asked driver.nextResult session) := by
  unfold storeNext
  rw [run_bind_of_ok (onDriver_run driver.nextResult session), nextResult_eq, if_pos moved]

theorem storeNext_noSet {session : Session δ}
    (moved : (driver.mysqlNextResult session.conn.state).1 = 0)
    (none : (driver.storeResult (driver.mysqlNextResult session.conn.state).2).1 = none) :
    EndsIn ((storeNext driver).run session)
      (emptyOutcome driver.toDBDriver session.query.throwExceptions
        (driver.storeResult (driver.mysqlNextResult session.conn.state).2).2)
      (driver.storeResult (driver.mysqlNextResult session.conn.state).2).2 := by
  let next := asked driver.nextResult session
  have state : next.conn.state = (driver.mysqlNextResult session.conn.state).2 := rfl
  rw [← state] at none
  rw [storeNext_moved driver moved, run_bind_of_ok (onDriver_run driver.storeResult next), none]
  exact emptyResult_ends driver (asked driver.storeResult next)

theorem storeNext_set {session : Session δ}
    (moved : (driver.mysqlNextResult session.conn.state).1 = 0) {rows : Nat}
    (some_ : (driver.storeResult (driver.mysqlNextResult session.conn.state).2).1 = some rows) :
    EndsIn ((storeNext driver).run session)
      ((driver.storeRows
        (driver.storeResult (driver.mysqlNextResult session.conn.state).2).2).1.map
          fun _ => .store rows)
      (driver.storeRows
        (driver.storeResult (driver.mysqlNextResult session.conn.state).2).2).2 := by
  let next := asked driver.nextResult session
  let found := asked driver.storeResult next
  have state : next.conn.state = (driver.mysqlNextResult session.conn.state).2 := rfl
  have foundState : found.conn.state =
      (driver.storeResult (driver.mysqlNextResult session.conn.state).2).2 := rfl
  rw [← state] at some_
  rw [storeNext_moved driver moved, run_bind_of_ok (onDriver_run driver.storeResult next), some_]
  change EndsIn ((onDriver driver.storeRows >>= fun constructed =>
    ofExcept constructed >>= fun _ => pure (QueryResult.store rows)).run found) _ _
  rw [run_bind_of_ok (onDriver_run driver.storeRows found), foundState]
  cases (driver.storeRows
      (driver.storeResult (driver.mysqlNextResult session.conn.state).2).2).1 with
  | ok done => exact ⟨rfl, rfl⟩
  | error failure => exact ⟨rfl, rfl⟩

theorem storeNext_last {session : Session δ}
    (last : (driver.mysqlNextResult session.conn.state).1 = -1) :
    EndsIn ((storeNext driver).run session)
      (emptyOutcome driver.toDBDriver session.query.throwExceptions
        (driver.mysqlNextResult session.conn.state).2)
      (driver.mysqlNextResult session.conn.state).2 := by
  unfold storeNext
  rw [run_bind_of_ok (onDriver_run driver.nextResult session), nextResult_eq, last]
  exact emptyResult_ends driver (asked driver.nextResult session)

theorem storeNext_error {session : Session δ}
    (notMoved : (driver.mysqlNextResult session.conn.state).1 ≠ 0)
    (notLast : (driver.mysqlNextResult session.conn.state).1 ≠ -1) :
    EndsIn ((storeNext driver).run session)
      (lastError driver.toDBDriver session.query.throwExceptions .empty
        (driver.mysqlNextResult session.conn.state).2)
      (driver.mysqlNextResult session.conn.state).2 := by
  unfold storeNext
  rw [run_bind_of_ok (onDriver_run driver.nextResult session), nextResult_eq, if_neg notMoved,
    if_neg notLast]
  exact badQuery_ends driver.toDBDriver QueryResult.empty (asked driver.nextResult session)

end Further

end Session

end LibTabula
