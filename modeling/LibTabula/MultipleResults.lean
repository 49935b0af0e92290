/-
The loop over the results of a text with several statements.

A program takes the first result and asks for the next one as long as there are more. With the
exceptions of the driver off it gets every answer in order and leaves nothing in line. A failure
ends the loop. With exceptions it is thrown, and without them its result is empty like that of a
statement that has no rows; the query itself only tells how the first statement fared. With the
exceptions of the driver on the first set of rows ends the loop, at the end of its rows.
-/

import LibTabula.MultiResultCalls

set_option autoImplicit false

namespace LibTabula

open Foundation
open Session (lastError emptyOutcome)

variable {δ : Type} {driver : MultiDriver δ}

/-! ### What is taken -/

/-- Every set of rows is stored, and a `StoreQueryResult` is made of it by its constructor, with
what the driver has for exceptions. -/
def LibraryView.Readable (view : LibraryView driver) (dbd : MySQLDriver) : Prop :=
  ∀ state rows, (view.line state).front = .unfetched rows →
    (driver.storeResult state).1 = some rows ∧
      ∃ (fields : List Field) (res : MySQLRes fields) (te : Bool), res.rows.length = rows ∧
        (driver.storeRows (driver.storeResult state).2).1 =
          (asDriverCall (StoreQueryResult.new rows dbd te) res).1

theorem LibraryView.Readable.ends {view : LibraryView driver} {dbd : MySQLDriver}
    (readable : view.Readable dbd) {state : δ} {rows : Nat}
    (front : (view.line state).front = .unfetched rows) :
    (driver.storeResult state).1 = some rows ∧
      (driver.storeRows (driver.storeResult state).2).1 = dbd.endOfRows := by
  obtain ⟨some_, fields, res, te, rfl, made⟩ := readable state rows front
  rw [asDriverCall_new] at made
  exact ⟨some_, made⟩

def storedResult : Answer Nat ErrorNumber → QueryResult
  | .rows count => .store count
  | .done | .failed _ => .empty

def failureIn : List (Answer Nat ErrorNumber) → Option ErrorNumber
  | [] => none
  | .failed error :: _ => some error
  | .rows _ :: answers | .done :: answers => failureIn answers

/-- What a loop leaves in line: nothing, or what is behind the first set of rows, if the end of
its rows is an exception. -/
def leftBehind (loud : Bool) : List (Answer Nat ErrorNumber) → List (Answer Nat ErrorNumber)
  | [] => []
  | .rows _ :: rest => if loud then rest else leftBehind loud rest
  | .done :: rest | .failed _ :: rest => leftBehind loud rest

/-- The end of no set of rows is an exception. -/
def Uninterrupted (loud : Bool) (answers : List (Answer Nat ErrorNumber)) : Prop :=
  loud = false ∨ ∀ count, .rows count ∉ answers

/-- The result of one call is this answer, and the others are still in line. -/
def Takes (view : LibraryView driver) (throws : Bool) (dbd : MySQLDriver)
    (answer : Answer Nat ErrorNumber) (rest : List (Answer Nat ErrorNumber))
    (result : EStateM.Result Failure (Session δ) QueryResult) : Prop :=
  view.line result.final.conn.state = { front := .none, waiting := rest } ∧
    match answer with
    | .failed error =>
        driver.errnum result.final.conn.state = error ∧
          result.outcome = lastError driver.toDBDriver throws .empty result.final.conn.state
    | .rows count => result.outcome = dbd.endOfRows.map fun _ => .store count
    | .done => result.outcome = .ok .empty

/-- The results of a loop are these answers, and nothing is in line any more; or the end of the
first set of rows is thrown, and the answers behind it are in line. -/
structure TakesAll (view : LibraryView driver) (throws : Bool) (dbd : MySQLDriver)
    (answers : List (Answer Nat ErrorNumber))
    (result : EStateM.Result Failure (Session δ) (Option (List QueryResult))) : Prop where
  line : view.line result.final.conn.state =
    { front := .none, waiting := leftBehind dbd.throwExceptions answers }
  interrupted : ¬ Uninterrupted dbd.throwExceptions answers →
    result.outcome = .error (.objectNotInitialized "ROW is NULL")
  results : Uninterrupted dbd.throwExceptions answers →
    (throws = false ∨ failureIn answers = none →
      result.outcome = .ok (some (answers.map storedResult)))
  failure : Uninterrupted dbd.throwExceptions answers →
    ∀ error, failureIn answers = some error →
      driver.errnum result.final.conn.state = error ∧
        (throws = true →
          result.outcome = .error (.badQuery (driver.error result.final.conn.state) error))

theorem leftBehind_of_uninterrupted {loud : Bool} {answers : List (Answer Nat ErrorNumber)}
    (through : Uninterrupted loud answers) : leftBehind loud answers = [] := by
  induction answers with
  | nil => rfl
  | cons answer rest ih =>
      have behind : Uninterrupted loud rest := by
        apply Or.imp_right _ through
        intro noRows count member
        exact noRows count (List.mem_cons_of_mem _ member)
      cases answer with
      | done => exact ih behind
      | failed error => exact ih behind
      | rows count =>
          cases through with
          | inl quiet =>
              rw [leftBehind, quiet, if_neg Bool.false_ne_true, ← quiet]
              exact ih behind
          | inr noRows => exact absurd List.mem_cons_self (noRows count)

/-! ### One answer -/

section One

variable {view : LibraryView driver} {dbd : MySQLDriver} {session : Session δ}
  {answer : Answer Nat ErrorNumber} {rest : List (Answer Nat ErrorNumber)} {state : δ}
  {x : EStateM Failure (Session δ) QueryResult}

theorem takes_failed {error : ErrorNumber}
    (ends : EndsIn (x.run session)
      (lastError driver.toDBDriver session.query.throwExceptions .empty state) state)
    (line : view.line state = { front := .none, waiting := rest })
    (errnum : driver.errnum state = error) :
    Takes view session.query.throwExceptions dbd (.failed error) rest (x.run session) := by
  obtain ⟨outcome, rfl⟩ := ends
  exact ⟨line, errnum, outcome⟩

theorem takes_done
    (ends : EndsIn (x.run session)
      (emptyOutcome driver.toDBDriver session.query.throwExceptions state) state)
    (line : view.line state = { front := .none, waiting := rest })
    (noError : driver.errnum state = 0) :
    Takes view session.query.throwExceptions dbd .done rest (x.run session) := by
  rw [emptyOutcome, if_pos noError] at ends
  obtain ⟨outcome, rfl⟩ := ends
  exact ⟨line, outcome⟩

theorem takes_rows {count : Nat} {constructed : Except Failure Unit}
    (ends : EndsIn (x.run session) (constructed.map fun _ => .store count) state)
    (made : constructed = dbd.endOfRows)
    (line : view.line state = { front := .none, waiting := rest }) :
    Takes view session.query.throwExceptions dbd (.rows count) rest (x.run session) := by
  rw [made] at ends
  obtain ⟨outcome, rfl⟩ := ends
  exact ⟨line, outcome⟩

theorem sendStore_takes (readable : view.Readable dbd)
    (clear : view.line session.conn.state = .clear) (text : Bytes) :
    Takes view session.query.throwExceptions dbd (view.answers text session.conn.state).first
      (view.answers text session.conn.state).rest
      ((Session.sendStore driver.toDBDriver text).run session) := by
  obtain ⟨moves, executed, errnum⟩ := view.executes text session.conn.state clear
  cases first : (view.answers text session.conn.state).first with
  | failed error =>
      rw [first] at moves executed errnum
      have refused : (driver.execute text session.conn.state).1 = false := by
        rw [← Bool.not_eq_true]
        exact mt executed.mp error.property
      have failed : driver.errnum (driver.execute text session.conn.state).2 ≠ 0 := by
        rw [errnum]
        exact error.property
      have ends := Session.sendForResult_refused driver.toDBDriver refused
        (fun state => ((driver.storeResult state).1.map QueryResult.store,
          (driver.storeResult state).2)) driver.storeRows
      rw [emptyOutcome, if_neg failed] at ends
      exact takes_failed ends moves errnum
  | done =>
      rw [first] at moves executed errnum
      obtain ⟨kept, none, same⟩ := view.noSet _ (congrArg AnswerLine.front moves)
      exact takes_done (Session.sendStore_noSet driver.toDBDriver (executed.mpr rfl) none)
        (kept.trans moves) (same.trans errnum)
  | rows count =>
      rw [first] at moves executed
      have front := congrArg AnswerLine.front moves
      obtain ⟨some_, made⟩ := readable.ends front
      have fetched := (view.stores _ count front).1
      rw [moves] at fetched
      exact takes_rows (Session.sendStore_set driver.toDBDriver (executed.mpr rfl) some_) made
        ((view.rowsKept _).trans fetched)

theorem storeNext_takes (readable : view.Readable dbd)
    (waits : view.line session.conn.state = { front := .none, waiting := answer :: rest }) :
    Takes view session.query.throwExceptions dbd answer rest
      ((Session.storeNext driver).run session) := by
  obtain ⟨moves, good, notLast, errnum⟩ := view.moves session.conn.state answer rest waits
  cases answer with
  | failed error =>
      have notMoved := mt good.mp error.property
      exact takes_failed (Session.storeNext_error driver notMoved notLast) moves errnum
  | done =>
      obtain ⟨kept, none, same⟩ := view.noSet _ (congrArg AnswerLine.front moves)
      exact takes_done (Session.storeNext_noSet driver (good.mpr rfl) none) (kept.trans moves)
        (same.trans errnum)
  | rows count =>
      have front := congrArg AnswerLine.front moves
      obtain ⟨some_, made⟩ := readable.ends front
      have fetched := (view.stores _ count front).1
      rw [moves] at fetched
      exact takes_rows (Session.storeNext_set driver (good.mpr rfl) some_) made
        ((view.rowsKept _).trans fetched)

end One

/-! ### The query -/

theorem preserves_emptyResult : Preserves Session.query (Session.emptyResult driver) := by
  apply Preserves.bind Preserves.get
  intro session
  by_cases failed : driver.errnum session.conn.state ≠ 0
  · rw [if_pos failed]
    exact Session.preserves_badQuery driver.toDBDriver QueryResult.empty
  · rw [if_neg failed]
    exact Preserves.pure QueryResult.empty

/-- `store_next` says nothing in the query of how it fared. -/
theorem preserves_storeNext : Preserves Session.query (Session.storeNext driver) := by
  have asking {α : Type} (ask : δ → α × δ) : Preserves Session.query (Session.onDriver ask) :=
    fun _ => rfl
  apply Preserves.bind (asking driver.nextResult)
  intro code
  cases code with
  | error => exact Session.preserves_badQuery driver.toDBDriver QueryResult.empty
  | lastResult => exact preserves_emptyResult
  | moreResults =>
      apply Preserves.bind (asking driver.storeResult)
      intro rows
      cases rows with
      | none => exact preserves_emptyResult
      | some rows =>
          apply Preserves.bind (asking driver.storeRows)
          intro constructed
          apply Preserves.bind (Session.preserves_ofExcept constructed)
          intro _made
          exact Preserves.pure _

theorem preserves_storeFurther (turns : Nat) :
    Preserves Session.query (Session.storeFurther driver turns) := by
  induction turns with
  | zero => exact Preserves.pure none
  | succ turns ih =>
      apply Preserves.bind Preserves.get
      intro session
      by_cases more : driver.moreResults session.conn.state = true
      · rw [if_pos more]
        apply Preserves.bind preserves_storeNext
        intro res
        apply Preserves.bind ih
        intro further
        exact Preserves.pure _
      · rw [if_neg more]
        exact Preserves.pure _

def Session.copacetic (self : Session δ) : Bool := self.query.copacetic

theorem autoReset_copacetic : Preserves Session.copacetic (Session.autoReset (δ := δ)) := by
  intro session
  change Session.copacetic (if session.query.parseElems = [] then _ else session) = _
  by_cases plain : session.query.parseElems = []
  · rw [if_pos plain]
    rfl
  · rw [if_neg plain]

section Copacetic

variable (driver : DBDriver δ) (session : Session δ)

theorem noResult_copacetic :
    ((Session.noResult driver).run session).final.copacetic =
      decide (driver.errnum session.conn.state = 0) := by
  let checked : Session δ :=
    { session with
      query := { session.query with copacetic := driver.errnum session.conn.state = 0 } }
  have kept : Preserves Session.copacetic (do
      let self ← get
      if self.query.copacetic then
        Session.autoReset
        return QueryResult.empty
      else Session.badQuery driver .empty : EStateM Failure (Session δ) QueryResult) := by
    apply Preserves.bind Preserves.get
    intro self
    cases self.query.copacetic with
    | true => exact Preserves.bind autoReset_copacetic fun _ => Preserves.pure _
    | false => exact Session.preserves_badQuery driver QueryResult.empty
  exact kept checked

section Sending

variable (text : Bytes) (result : δ → Option QueryResult × δ)
  (construct : δ → Except Failure Unit × δ)

theorem sendForResult_copacetic_ofRefused
    (refused : (driver.execute text session.conn.state).1 = false) :
    ((Session.sendForResult driver result construct text).run session).final.copacetic =
      decide (driver.errnum (driver.execute text session.conn.state).2 = 0) := by
  have execution : session.executes driver text = false := refused
  unfold Session.sendForResult
  rw [run_bind_of_ok (Session.driverExecute_run driver session text), execution,
    if_neg Bool.false_ne_true]
  exact noResult_copacetic driver (session.executed driver text)

theorem sendForResult_copacetic_ofExecuted
    (executed_ : (driver.execute text session.conn.state).1 = true) :
    ((Session.sendForResult driver result construct text).run session).final.copacetic =
      ((result (driver.execute text session.conn.state).2).1.isSome ||
        decide (driver.errnum (result (driver.execute text session.conn.state).2).2 = 0)) := by
  have execution : session.executes driver text = true := executed_
  have state : (session.executed driver text).conn.state =
      (driver.execute text session.conn.state).2 := rfl
  let found := Session.asked result (session.executed driver text)
  unfold Session.sendForResult
  rw [run_bind_of_ok (Session.driverExecute_run driver session text), execution, if_pos rfl,
    run_bind_of_ok (Session.onDriver_run result (session.executed driver text)), state]
  cases (result (driver.execute text session.conn.state).2).1 with
  | none => exact noResult_copacetic driver found
  | some value =>
      have kept : Preserves Session.copacetic (do
          Session.autoReset
          let constructed ← Session.onDriver construct
          ofExcept constructed
          return value : EStateM Failure (Session δ) QueryResult) := by
        apply Preserves.bind autoReset_copacetic
        intro _reset
        apply Preserves.bind (fun _ => rfl)
        intro constructed
        apply Preserves.bind (Session.preserves_ofExcept constructed)
        intro _made
        exact Preserves.pure value
      exact (kept found).trans execution

end Sending

end Copacetic

theorem stable_throwExceptions :
    Session.Stable fun session : Session δ => session.query.throwExceptions where
  copacetic _ _ := rfl
  reset _ _ := rfl
  state _ _ := rfl

theorem sendStore_throwExceptions (driver : DBDriver δ) (session : Session δ) (text : Bytes) :
    ((Session.sendStore driver text).run session).final.query.throwExceptions =
      session.query.throwExceptions :=
  Session.read_sendForResult driver stable_throwExceptions _ driver.storeRows text session

/-- The query tells of the first answer. -/
theorem sendStore_copacetic_iff {view : LibraryView driver} {dbd : MySQLDriver}
    (readable : view.Readable dbd) {session : Session δ}
    (clear : view.line session.conn.state = .clear) (text : Bytes) :
    ((Session.sendStore driver.toDBDriver text).run session).final.copacetic = true ↔
      errorOf (view.answers text session.conn.state).first = 0 := by
  obtain ⟨moves, executed, errnum⟩ := view.executes text session.conn.state clear
  unfold Session.sendStore
  cases ran : (driver.execute text session.conn.state).1 with
  | false =>
      rw [sendForResult_copacetic_ofRefused _ _ _ _ _ ran, errnum, decide_eq_true_eq]
  | true =>
      have good := executed.mp ran
      rw [sendForResult_copacetic_ofExecuted _ _ _ _ _ ran, Bool.or_eq_true]
      apply iff_of_true _ good
      cases first : (view.answers text session.conn.state).first with
      | failed error =>
          rw [first] at good
          exact absurd good error.property
      | done =>
          rw [first] at moves
          obtain ⟨_kept, _none, same⟩ := view.noSet _ (congrArg AnswerLine.front moves)
          exact Or.inr (decide_eq_true (same.trans (errnum.trans good)))
      | rows count =>
          rw [first] at moves
          obtain ⟨some_, _made⟩ := readable.ends (congrArg AnswerLine.front moves)
          exact Or.inl (congrArg (fun rows => (Option.map QueryResult.store rows).isSome) some_)

/-! ### The loop -/

section Loop

variable {view : LibraryView driver} {dbd : MySQLDriver}

theorem bind_pure_ends {α β : Type} (x : EStateM Failure (Session δ) α) (f : α → β)
    (session : Session δ) :
    EndsIn ((x >>= fun value => pure (f value)).run session)
      ((x.run session).outcome.map f) (x.run session).final.conn.state := by
  cases ran : x.run session with
  | ok value after =>
      rw [run_bind_of_ok ran]
      exact ⟨rfl, rfl⟩
  | error failure after =>
      rw [run_bind_of_error ran]
      exact ⟨rfl, rfl⟩

/-- An answer in front of others, whose rows may be read to their end. -/
structure Passes (dbd : MySQLDriver) (answer : Answer Nat ErrorNumber) : Prop where
  good : errorOf answer = 0
  ended : (∃ count, answer = .rows count) → dbd.throwExceptions = false

namespace Passes

variable {answer : Answer Nat ErrorNumber} {rest : List (Answer Nat ErrorNumber)}

theorem failureIn_cons (passes : Passes dbd answer) :
    failureIn (answer :: rest) = failureIn rest := by
  cases answer with
  | rows count => rfl
  | done => rfl
  | failed error => exact absurd passes.good error.property

theorem leftBehind_cons (passes : Passes dbd answer) :
    leftBehind dbd.throwExceptions (answer :: rest) = leftBehind dbd.throwExceptions rest := by
  cases answer with
  | rows count => rw [leftBehind, passes.ended ⟨count, rfl⟩, if_neg Bool.false_ne_true]
  | done => rfl
  | failed error => rfl

theorem uninterrupted_cons_iff (passes : Passes dbd answer) :
    Uninterrupted dbd.throwExceptions (answer :: rest) ↔
      Uninterrupted dbd.throwExceptions rest := by
  constructor
  · apply Or.imp_right
    intro noRows count member
    exact noRows count (List.mem_cons_of_mem _ member)
  · intro through
    cases through with
    | inl quiet => exact Or.inl quiet
    | inr noRows =>
        by_cases rows : ∃ count, answer = .rows count
        · exact Or.inl (passes.ended rows)
        · right
          intro count member
          cases List.mem_cons.mp member with
          | inl same => exact rows ⟨count, same.symm⟩
          | inr later => exact noRows count later

end Passes

/-- A result in front of the others. -/
theorem TakesAll.cons {throws : Bool} {answer : Answer Nat ErrorNumber}
    {rest : List (Answer Nat ErrorNumber)} (passes : Passes dbd answer)
    {further : EStateM Failure (Session δ) (Option (List QueryResult))} {session : Session δ}
    (all : TakesAll view throws dbd rest (further.run session)) :
    TakesAll view throws dbd (answer :: rest)
      ((further >>= fun results => pure (results.map (storedResult answer :: ·))).run
        session) := by
  obtain ⟨outcome, state⟩ := bind_pure_ends further
    (Option.map (storedResult answer :: ·)) session
  constructor
  · rw [state, passes.leftBehind_cons]
    exact all.line
  · rw [passes.uninterrupted_cons_iff, outcome]
    intro stopped
    rw [all.interrupted stopped]
    rfl
  · rw [passes.uninterrupted_cons_iff, passes.failureIn_cons, outcome]
    intro through either
    rw [all.results through either]
    rfl
  · rw [passes.uninterrupted_cons_iff, passes.failureIn_cons, outcome, state]
    intro through error failed
    obtain ⟨errnum, thrown⟩ := all.failure through error failed
    refine ⟨errnum, ?_⟩
    intro throws_
    rw [thrown throws_]
    rfl

section Turns

variable {first : EStateM Failure (Session δ) QueryResult}
  {further : EStateM Failure (Session δ) (Option (List QueryResult))} {session : Session δ}
  {throws : Bool} {answer : Answer Nat ErrorNumber} {rest : List (Answer Nat ErrorNumber)}

/-- An answer that is no failure is a result, and the loop goes on. -/
theorem takesAll_of_result (passes : Passes dbd answer)
    (returned : (first.run session).outcome = .ok (storedResult answer))
    (behind : TakesAll view throws dbd rest (further.run (first.run session).final)) :
    TakesAll view throws dbd (answer :: rest)
      ((do
        let res ← first
        let results ← further
        return results.map (res :: ·)).run session) := by
  cases ran : first.run session with
  | error failure after =>
      rw [ran] at returned
      cases returned
  | ok value after =>
      rw [ran] at returned behind
      cases returned
      rw [run_bind_of_ok ran]
      exact TakesAll.cons passes behind

/-- At the end of the rows the driver throws, and what is behind them stays in line. -/
theorem takesAll_of_loud {count : Nat} (loud : dbd.throwExceptions = true)
    (takes : Takes view throws dbd (.rows count) rest (first.run session)) :
    TakesAll view throws dbd (.rows count :: rest)
      ((do
        let res ← first
        let results ← further
        return results.map (res :: ·)).run session) := by
  obtain ⟨line, outcome⟩ := takes
  have stopped : ¬ Uninterrupted dbd.throwExceptions (.rows count :: rest) := by
    intro through
    cases through with
    | inl quiet =>
        rw [loud] at quiet
        cases quiet
    | inr noRows => exact noRows count List.mem_cons_self
  cases ran : first.run session with
  | ok value after =>
      rw [ran, MySQLDriver.endOfRows, if_pos loud] at outcome
      cases outcome
  | error failure after =>
      rw [ran, MySQLDriver.endOfRows, if_pos loud] at outcome
      rw [ran] at line
      rw [run_bind_of_error ran]
      cases outcome
      constructor
      · rw [leftBehind, if_pos loud]
        exact line
      · intro _stopped
        rfl
      · intro through
        exact absurd through stopped
      · intro through
        exact absurd through stopped

/-- A failure is the last answer, whether it is thrown or not. -/
theorem takesAll_of_failure {error : ErrorNumber}
    (takes : Takes view throws dbd (.failed error) [] (first.run session))
    (quiet : ∀ after : Session δ, view.line after.conn.state = .clear →
      further.run after = .ok (some []) after) :
    TakesAll view throws dbd [.failed error]
      ((do
        let res ← first
        let results ← further
        return results.map (res :: ·)).run session) := by
  obtain ⟨line, errnum, outcome⟩ := takes
  have through : Uninterrupted dbd.throwExceptions [.failed error] := by
    right
    intro count member
    cases List.mem_singleton.mp member
  cases ran : first.run session with
  | error failure after =>
      rw [ran] at outcome errnum line
      rw [run_bind_of_error ran]
      cases throws with
      | false => cases outcome
      | true =>
          have thrown : failure = .badQuery (driver.error after.conn.state)
              (driver.errnum after.conn.state) := Except.error.inj outcome
          have number : driver.errnum after.conn.state = error := errnum
          rw [number] at thrown
          constructor
          · exact line
          · intro stopped
            exact absurd through stopped
          · intro _through either
            rcases either with impossible | impossible
            · cases impossible
            · cases impossible
          · intro _through other same
            cases same
            constructor
            · exact errnum
            · intro _throws
              exact congrArg Except.error thrown
  | ok value after =>
      rw [ran] at outcome errnum line
      rw [run_bind_of_ok ran, run_bind_of_ok (quiet after line)]
      cases throws with
      | true => cases outcome
      | false =>
          cases outcome
          constructor
          · exact line
          · intro stopped
            exact absurd through stopped
          · intro _through _either
            rfl
          · intro _through other same
            cases same
            constructor
            · exact errnum
            · intro impossible
              cases impossible

/-- What a loop does with its first answer and the others. -/
theorem takesAll_of_takes (takes : Takes view throws dbd answer rest (first.run session))
    (stops : ∀ error, answer = .failed error → rest = [])
    (behind : view.line (first.run session).final.conn.state =
        { front := .none, waiting := rest } →
      TakesAll view throws dbd rest (further.run (first.run session).final))
    (quiet : ∀ after : Session δ, view.line after.conn.state = .clear →
      further.run after = .ok (some []) after) :
    TakesAll view throws dbd (answer :: rest)
      ((do
        let res ← first
        let results ← further
        return results.map (res :: ·)).run session) := by
  cases answer with
  | rows count =>
      cases flag : dbd.throwExceptions with
      | true => exact takesAll_of_loud flag takes
      | false =>
          have returned := takes.2
          simp only [MySQLDriver.endOfRows, flag] at returned
          exact takesAll_of_result ⟨rfl, fun _ => flag⟩ returned (behind takes.1)
  | done =>
      have passes : Passes dbd .done := by
        constructor
        · rfl
        · intro impossible
          obtain ⟨count, rows⟩ := impossible
          cases rows
      exact takesAll_of_result passes takes.2 (behind takes.1)
  | failed error =>
      rw [stops error rfl] at takes ⊢
      exact takesAll_of_failure takes quiet

end Turns

theorem storeFurther_quiet {session : Session δ} (turns : Nat)
    (clear : view.line session.conn.state = .clear) :
    (Session.storeFurther driver (turns + 1)).run session = .ok (some []) session := by
  have noMore : ¬ driver.moreResults session.conn.state = true := by
    rw [view.more, clear]
    exact not_not_intro rfl
  change (if driver.moreResults session.conn.state = true then _ else
    pure (some []) : EStateM Failure (Session δ) (Option (List QueryResult))).run session = _
  rw [if_neg noMore]
  rfl

theorem storeFurther_takesAll (readable : view.Readable dbd)
    (waiting : List (Answer Nat ErrorNumber))
    (stops : ∀ front error back, waiting = front ++ .failed error :: back → back = [])
    {turns : Nat} (enough : waiting.length < turns) {session : Session δ}
    (line : view.line session.conn.state = { front := .none, waiting := waiting }) :
    TakesAll view session.query.throwExceptions dbd waiting
      ((Session.storeFurther driver turns).run session) := by
  induction waiting generalizing turns session with
  | nil =>
      cases turns with
      | zero => cases enough
      | succ turns =>
          have through : Uninterrupted dbd.throwExceptions [] :=
            Or.inr fun _ => List.not_mem_nil
          rw [storeFurther_quiet turns line]
          constructor
          · exact line
          · intro stopped
            exact absurd through stopped
          · intro _through _either
            rfl
          · intro _through error impossible
            cases impossible
  | cons answer rest ih =>
      cases turns with
      | zero => cases enough
      | succ turns =>
          have fewer : rest.length < turns := Nat.lt_of_succ_lt_succ enough
          have more : driver.moreResults session.conn.state = true := by
            rw [view.more, line]
            exact List.cons_ne_nil answer rest
          change TakesAll view _ _ _ ((if driver.moreResults session.conn.state = true then _ else
            pure (some []) : EStateM Failure (Session δ) (Option (List QueryResult))).run session)
          rw [if_pos more]
          apply takesAll_of_takes (storeNext_takes readable line)
          · intro error failed
            exact stops [] error rest (congrArg (· :: rest) failed)
          · intro behindLine
            rw [← preserves_storeNext session]
            apply ih _ fewer behindLine
            intro front error back isRest
            exact stops (answer :: front) error back (congrArg (answer :: ·) isRest)
          · intro after clear
            obtain ⟨some_, rfl⟩ := Nat.exists_eq_succ_of_ne_zero (Nat.ne_of_gt
              (Nat.lt_of_le_of_lt (Nat.zero_le rest.length) fewer))
            exact storeFurther_quiet some_ clear

/-- A loop that may take enough turns gets every answer to a text and nothing else, and leaves
nothing in line, unless the driver throws at the end of the first set of rows. -/
theorem multipleResults_takesAll (readable : view.Readable dbd) {session : Session δ}
    (clear : view.line session.conn.state = .clear) (text : Bytes) {turns : Nat}
    (enough : (view.answers text session.conn.state).rest.length < turns) :
    let answers := view.answers text session.conn.state
    let result := (Session.multipleResults driver turns text).run session
    TakesAll view session.query.throwExceptions dbd (answers.first :: answers.rest) result ∧
      (result.final.query.copacetic = true ↔ errorOf answers.first = 0) := by
  constructor
  · apply takesAll_of_takes (sendStore_takes readable clear text)
    · intro error failed
      exact (view.answers text session.conn.state).stops [] error _ (congrArg (· :: _) failed)
    · intro line
      rw [← sendStore_throwExceptions driver.toDBDriver session text]
      apply storeFurther_takesAll readable _ _ enough line
      intro front error back isRest
      exact (view.answers text session.conn.state).stops (_ :: front) error back
        (congrArg (_ :: ·) isRest)
    · intro after clear
      obtain ⟨fewer, rfl⟩ := Nat.exists_eq_succ_of_ne_zero (Nat.ne_of_gt
        (Nat.lt_of_le_of_lt (Nat.zero_le _) enough))
      exact storeFurther_quiet fewer clear
  · have kept : ((Session.multipleResults driver turns text).run session).final.copacetic =
        ((Session.sendStore driver.toDBDriver text).run session).final.copacetic := by
      apply Preserves.after
      intro res
      apply Preserves.bind
      · intro behind
        exact congrArg Query.copacetic (preserves_storeFurther turns behind)
      · intro further
        exact Preserves.pure _
    change Session.copacetic _ = true ↔ _
    rw [kept]
    exact sendStore_copacetic_iff readable clear text

/-- A row, a statement without rows, and a syntax error. -/
def threeAnswers (_ : Bytes) : Answers Nat ErrorNumber :=
  { first := .rows 1
    rest := [.done, .failed ⟨1064, by decide⟩]
    stops := by
      intro front error back isWhole
      obtain _ | ⟨one, _ | ⟨two, _ | ⟨three, front⟩⟩⟩ := front
      · cases isWhole
      · cases isWhole
      · cases isWhole
        rfl
      · have tooLong := congrArg List.length isWhole
        simp only [List.length_cons, List.length_nil, List.cons_append, List.length_append]
          at tooLong
        omega }

/-- The same server, with a driver that throws. -/
def loudDriver (script : Bytes → Answers Nat ErrorNumber) : MultiDriver ScriptedState :=
  { scriptedDriver script with
    storeRows := fun state => (MySQLDriver.endOfRows { throwExceptions := true }, state) }

def loudView (script : Bytes → Answers Nat ErrorNumber) : LibraryView (loudDriver script) :=
  { scriptedView script with }

/-- A set of so many rows. -/
def sevens (count : Nat) : MySQLRes [idField] :=
  { oneRow with rows := List.replicate count seven }

theorem scripted_readable (script : Bytes → Answers Nat ErrorNumber) :
    (scriptedView script).Readable { throwExceptions := false } ∧
      (loudView script).Readable { throwExceptions := true } := by
  have stored : ∀ (state : ScriptedState) rows, state.line.front = .unfetched rows →
      state.store.1 = some rows := by
    intro state rows front
    unfold ScriptedState.store
    rw [front]
  have made (dbd : MySQLDriver) (rows : Nat) :
      ∃ (fields : List Field) (res : MySQLRes fields) (te : Bool), res.rows.length = rows ∧
        dbd.endOfRows = (asDriverCall (StoreQueryResult.new rows dbd te) res).1 := by
    have length : (sevens rows).rows.length = rows := List.length_replicate
    have ends := asDriverCall_new dbd false (sevens rows)
    rw [length] at ends
    exact ⟨_, sevens rows, false, length, ends.symm⟩
  constructor
  · intro state rows front
    exact ⟨stored state rows front, made { throwExceptions := false } rows⟩
  · intro state rows front
    exact ⟨stored state rows front, made { throwExceptions := true } rows⟩

def unasked : Session ScriptedState :=
  { query := Query.new 0 false []
    conn := { state := { line := .clear, errno := 0 }, sent := [] } }

def threeResults (driver : MultiDriver ScriptedState) :
    EStateM.Result Failure (Session ScriptedState) (Option (List QueryResult)) :=
  (Session.multipleResults driver 3 (ascii "?;?;?")).run unasked

/-- The query is content, and the error shows in `errnum()` only. Where the driver throws the
error is never seen. -/
theorem multipleResults_takesAll_three :
    ((threeResults (scriptedDriver threeAnswers)).outcome =
          .ok (some [.store 1, .empty, .empty]) ∧
        (threeResults (scriptedDriver threeAnswers)).final.query.copacetic = true ∧
        (threeResults (scriptedDriver threeAnswers)).final.conn.state.errno = 1064) ∧
      (threeResults (loudDriver threeAnswers)).outcome =
          .error (.objectNotInitialized "ROW is NULL") ∧
        (threeResults (loudDriver threeAnswers)).final.query.copacetic = true ∧
        (threeResults (loudDriver threeAnswers)).final.conn.state.line.waiting =
          [.done, .failed ⟨1064, by decide⟩] := by
  have clear : (scriptedView threeAnswers).line unasked.conn.state = .clear := rfl
  have enough : ((scriptedView threeAnswers).answers (ascii "?;?;?")
      unasked.conn.state).rest.length < 3 := Nat.lt_succ_self 2
  obtain ⟨quiet, loud⟩ := scripted_readable threeAnswers
  constructor
  · obtain ⟨all, copacetic⟩ := multipleResults_takesAll quiet clear _ enough
    exact ⟨all.results (Or.inl rfl) (Or.inl rfl), copacetic.mpr rfl,
      (all.failure (Or.inl rfl) ⟨1064, by decide⟩ rfl).1⟩
  · have clear' : (loudView threeAnswers).line unasked.conn.state = .clear := rfl
    obtain ⟨all, copacetic⟩ := multipleResults_takesAll loud clear' _ enough
    have stopped : ¬ Uninterrupted true (.rows 1 :: (threeAnswers (ascii "?;?;?")).rest) := by
      intro through
      cases through with
      | inl impossible => cases impossible
      | inr noRows => exact noRows 1 List.mem_cons_self
    exact ⟨all.interrupted stopped, copacetic.mpr rfl, congrArg AnswerLine.waiting all.line⟩

end Loop

end LibTabula
