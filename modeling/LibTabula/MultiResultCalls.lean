/-
What a call does to the answers in line.

A call of a query is one event for the line of its connection, and reports what comes of the
event: an answer, that there is none, or that commands are out of sync. This holds of every
query, be it a template or not.
-/

import LibTabula.MultiResults

set_option autoImplicit false

namespace LibTabula

open Foundation
open Session (lastError emptyOutcome)

variable {δ : Type} {driver : MultiDriver δ}

/-! ### What a call reports -/

namespace ResultCall

/-- What is returned of an answer that is no error. -/
def value (driver : MultiDriver δ) (after : δ) :
    ResultCall → Answer Nat ErrorNumber → CallValue
  | .store _, .rows count | .storeNext, .rows count => .result (.store count)
  | .use _, .rows _ => .result .use
  | .store _, _ | .storeNext, _ | .use _, _ => .result .empty
  | .execute _, _ => .result (.simple (driver.insertId after) (driver.affectedRows after))
  | .exec _, _ => .flag true
  | .release, _ => .nothing

/-- What is returned of an error, unless there is an exception. -/
def otherwise : ResultCall → CallValue
  | .exec _ => .flag false
  | .release => .nothing
  | .store _ | .storeNext | .use _ | .execute _ => .result .empty

def stores : ResultCall → Bool
  | .store _ | .storeNext => true
  | .use _ | .execute _ | .exec _ | .release => false

/-- The call reports this error. -/
def Fails (driver : MultiDriver δ) (throws : Bool) (call : ResultCall) (error : ErrorNumber)
    (after : δ) (outcome : Except Failure CallValue) : Prop :=
  driver.errnum after = error ∧
    outcome = lastError driver.toDBDriver throws call.otherwise after

/-- Rows are not there to be stored, which shows as an exception or as an error. -/
def Unreadable (driver : MultiDriver δ) (after : δ) (outcome : Except Failure CallValue) : Prop :=
  (∃ failure, outcome = .error failure) ∨
    driver.errnum after ≠ 0 ∧ outcome = .ok (.result .empty)

/-- What a call reports of the line's reply. -/
def Reports (driver : MultiDriver δ) (throws : Bool) (call : ResultCall) (after : δ)
    (outcome : Except Failure CallValue) : LineReply Nat ErrorNumber → Prop
  | .refused => call.Fails driver throws commandsOutOfSync after outcome
  | .nothing => outcome = .ok call.otherwise ∧ (call = .storeNext → driver.errnum after = 0)
  | .took (.failed error) => call.Fails driver throws error after outcome
  | .took .done => outcome = .ok (call.value driver after .done) ∧ driver.errnum after = 0
  | .took (.rows count) =>
      outcome = .ok (call.value driver after (.rows count)) ∨
        call.stores = true ∧ Unreadable driver after outcome

/-- A call has the outcome that the line's reply asks for, and moves the line. -/
def InLine (view : LibraryView driver) (call : ResultCall) (session : Session δ) : Prop :=
  let result := (call.run driver).run session
  let line := view.line session.conn.state
  let event := call.event view session.conn.state
  call.Reports driver session.query.throwExceptions result.final.conn.state result.outcome
      (line.reply event) ∧
    view.line result.final.conn.state = line.after event

end ResultCall

theorem EndsIn.map {α β : Type} {x : EStateM Failure (Session δ) α} {session : Session δ}
    {outcome : Except Failure α} {state : δ} (ends : EndsIn (x.run session) outcome state)
    (f : α → β) : EndsIn ((f <$> x).run session) (outcome.map f) state := by
  obtain ⟨rfl, rfl⟩ := ends
  cases ran : x.run session with
  | ok value after =>
      rw [map_eq_pure_bind, run_bind_of_ok ran]
      exact ⟨rfl, rfl⟩
  | error failure after =>
      rw [map_eq_pure_bind, run_bind_of_error ran]
      exact ⟨rfl, rfl⟩

namespace ResultCall

/-- A call whose end is known. -/
theorem InLine.of_ends {view : LibraryView driver} {call : ResultCall} {session : Session δ}
    {outcome : Except Failure CallValue} {state : δ}
    (ends : EndsIn ((call.run driver).run session) outcome state)
    (reports : call.Reports driver session.query.throwExceptions state outcome
      ((view.line session.conn.state).reply (call.event view session.conn.state)))
    (moves : view.line state =
      (view.line session.conn.state).after (call.event view session.conn.state)) :
    call.InLine view session := by
  obtain ⟨rfl, rfl⟩ := ends
  exact ⟨reports, moves⟩

theorem fails_of_lastError {throws : Bool} {call : ResultCall}
    (otherwise : call.otherwise = .result .empty) {error : ErrorNumber} {after : δ}
    (errnum : driver.errnum after = error) :
    call.Fails driver throws error after
      ((lastError driver.toDBDriver throws .empty after).map CallValue.result) := by
  refine ⟨errnum, ?_⟩
  rw [lastError, lastError, otherwise]
  cases throws with
  | true => rfl
  | false => rfl

theorem fails_of_empty {throws : Bool} {call : ResultCall}
    (otherwise : call.otherwise = .result .empty) {error : ErrorNumber} {after : δ}
    (errnum : driver.errnum after = error) :
    call.Fails driver throws error after
      ((emptyOutcome driver.toDBDriver throws after).map CallValue.result) := by
  have failed : driver.errnum after ≠ 0 := by
    rw [errnum]
    exact error.property
  rw [emptyOutcome, if_neg failed]
  exact fails_of_lastError otherwise errnum

theorem unreadable_of_empty (throws : Bool) {after : δ} (failed : driver.errnum after ≠ 0) :
    Unreadable driver after
      ((emptyOutcome driver.toDBDriver throws after).map CallValue.result) := by
  rw [emptyOutcome, if_neg failed, lastError]
  cases throws with
  | true => exact Or.inl ⟨_, rfl⟩
  | false => exact Or.inr ⟨failed, rfl⟩

section Texts

variable {view : LibraryView driver} {session : Session δ} {call : ResultCall} {text : Bytes}
  {use : RowsUse} {outcome : Except Failure CallValue} {state : δ}

theorem inLine_of_clear (clear : view.line session.conn.state = .clear)
    (event : call.event view session.conn.state =
      .request (view.answers text session.conn.state) use)
    (ends : EndsIn ((call.run driver).run session) outcome state)
    (reports : call.Reports driver session.query.throwExceptions state outcome
      (.took (view.answers text session.conn.state).first))
    (moves : view.line state =
      { front := (view.answers text session.conn.state).first.frontSet use
        waiting := (view.answers text session.conn.state).rest }) : call.InLine view session := by
  apply InLine.of_ends ends
  · rw [clear, event]
    exact reports
  · rw [clear, event]
    exact moves

theorem inLine_of_refused (inLine : view.line session.conn.state ≠ .clear)
    (event : call.event view session.conn.state =
      .request (view.answers text session.conn.state) use)
    (ends : EndsIn ((call.run driver).run session) outcome state)
    (fails : call.Fails driver session.query.throwExceptions commandsOutOfSync state outcome)
    (moves : view.line state = view.line session.conn.state) : call.InLine view session := by
  have refused := AnswerLine.step_request_of_ne_clear inLine
    (view.answers text session.conn.state) use
  apply InLine.of_ends ends
  · rw [event, AnswerLine.reply, refused]
    exact fails
  · rw [event, AnswerLine.after, refused]
    exact moves

/-- `exec` and `execute`, which leave a set of rows where it is. -/
theorem inLine_leave {good : δ → CallValue}
    (event : call.event view session.conn.state =
      .request (view.answers text session.conn.state) .leave)
    (value : ∀ after answer, call.value driver after answer = good after)
    (ends : EndsIn ((call.run driver).run session)
      (if (driver.execute text session.conn.state).1 then
        .ok (good (driver.execute text session.conn.state).2)
      else lastError driver.toDBDriver session.query.throwExceptions call.otherwise
        (driver.execute text session.conn.state).2)
      (driver.execute text session.conn.state).2) : call.InLine view session := by
  by_cases clear : view.line session.conn.state = .clear
  · obtain ⟨moves, executed, errnum⟩ := view.executes text session.conn.state clear
    apply inLine_of_clear clear event ends
    · cases first : (view.answers text session.conn.state).first with
      | rows count =>
          rw [first] at executed
          rw [if_pos (executed.mpr rfl)]
          exact Or.inl (congrArg Except.ok (value _ _).symm)
      | done =>
          rw [first] at executed
          rw [if_pos (executed.mpr rfl)]
          exact ⟨congrArg Except.ok (value _ _).symm, errnum.trans (congrArg errorOf first)⟩
      | failed error =>
          rw [first] at executed errnum
          rw [if_neg (mt executed.mp error.property)]
          exact ⟨errnum, rfl⟩
    · exact moves
  · obtain ⟨moves, refused, errnum⟩ := view.refuses text session.conn.state clear
    rw [refused, if_neg Bool.false_ne_true] at ends
    exact inLine_of_refused clear event ends ⟨errnum, rfl⟩ moves

theorem map_executing {α β : Type} (f : α → β) (ok throws : Bool) (value otherwise : α)
    (after : δ) :
    (if ok then .ok value else lastError driver.toDBDriver throws otherwise after).map f =
      if ok then .ok (f value) else lastError driver.toDBDriver throws (f otherwise) after := by
  cases ok with
  | true => rfl
  | false =>
      cases throws with
      | true => rfl
      | false => rfl

variable (view session text)

theorem inLine_exec : (ResultCall.exec text).InLine view session := by
  have ends := (Session.execText_ends driver.toDBDriver session text).map CallValue.flag
  rw [map_executing] at ends
  exact inLine_leave rfl (fun _ _ => rfl) ends

theorem inLine_execute : (ResultCall.execute text).InLine view session := by
  have ends := (Session.sendExecute_ends driver.toDBDriver session text).map CallValue.result
  rw [map_executing] at ends
  exact inLine_leave rfl (fun _ _ => rfl) ends

/-- A text that is not executed. -/
theorem inLine_notExecuted {call : ResultCall} {use : RowsUse}
    {result : δ → Option QueryResult × δ} {construct : δ → Except Failure Unit × δ}
    (event : call.event view session.conn.state =
      .request (view.answers text session.conn.state) use)
    (otherwise : call.otherwise = .result .empty)
    (runs : call.run driver =
      CallValue.result <$> Session.sendForResult driver.toDBDriver result construct text)
    (notExecuted : (driver.execute text session.conn.state).1 = false) :
    call.InLine view session := by
  have ends := (Session.sendForResult_refused driver.toDBDriver notExecuted result construct).map
    CallValue.result
  rw [← runs] at ends
  by_cases clear : view.line session.conn.state = .clear
  · obtain ⟨moves, executed, errnum⟩ := view.executes text session.conn.state clear
    rw [notExecuted] at executed
    cases first : (view.answers text session.conn.state).first with
    | rows count =>
        rw [first] at executed
        exact absurd (executed.mpr rfl) Bool.false_ne_true
    | done =>
        rw [first] at executed
        exact absurd (executed.mpr rfl) Bool.false_ne_true
    | failed error =>
        rw [first] at errnum
        apply inLine_of_clear clear event ends
        · rw [first]
          exact fails_of_empty otherwise errnum
        · rw [moves, first]
          rfl
  · obtain ⟨moves, _refused, errnum⟩ := view.refuses text session.conn.state clear
    exact inLine_of_refused clear event ends (fails_of_empty otherwise errnum) moves

/-- What is in line behind a text that was executed. -/
theorem executed_inLine (executed : (driver.execute text session.conn.state).1 = true) :
    view.line session.conn.state = .clear ∧
      (∀ error, (view.answers text session.conn.state).first ≠ .failed error) ∧
      view.line (driver.execute text session.conn.state).2 =
        { front := (view.answers text session.conn.state).first.frontSet .leave
          waiting := (view.answers text session.conn.state).rest } ∧
      driver.errnum (driver.execute text session.conn.state).2 = 0 := by
  have clear : view.line session.conn.state = .clear := by
    by_contra inLine
    have refused := (view.refuses text session.conn.state inLine).2.1
    rw [executed] at refused
    cases refused
  obtain ⟨moves, good, errnum⟩ := view.executes text session.conn.state clear
  have none := good.mp executed
  refine ⟨clear, ?_, moves, errnum.trans none⟩
  intro error failed
  rw [failed] at none
  exact error.property none

/-- A text that is answered without a set of rows. -/
theorem inLine_done {call : ResultCall} {use : RowsUse}
    {result : δ → Option QueryResult × δ} {construct : δ → Except Failure Unit × δ}
    (event : call.event view session.conn.state =
      .request (view.answers text session.conn.state) use)
    (value : ∀ after, call.value driver after .done = .result .empty)
    (runs : call.run driver =
      CallValue.result <$> Session.sendForResult driver.toDBDriver result construct text)
    (executed : (driver.execute text session.conn.state).1 = true)
    (first : (view.answers text session.conn.state).first = .done)
    (noSet : ∀ state, (view.line state).front = .none →
      view.line (result state).2 = view.line state ∧ (result state).1 = none ∧
        driver.errnum (result state).2 = driver.errnum state) :
    call.InLine view session := by
  obtain ⟨clear, _good, moves, errnum⟩ := executed_inLine view session text executed
  rw [first] at moves
  obtain ⟨kept, none, same⟩ := noSet _ (congrArg AnswerLine.front moves)
  have noError := same.trans errnum
  have ends := (Session.sendForResult_noSet driver.toDBDriver executed none construct).map
    CallValue.result
  rw [← runs, emptyOutcome, if_pos noError] at ends
  apply inLine_of_clear clear event ends
  · rw [first]
    exact ⟨congrArg Except.ok (value _).symm, noError⟩
  · rw [first]
    exact kept.trans moves

theorem inLine_store : (ResultCall.store text).InLine view session := by
  have event : (ResultCall.store text).event view session.conn.state =
      .request (view.answers text session.conn.state) .fetch := rfl
  cases executed : (driver.execute text session.conn.state).1 with
  | false => exact inLine_notExecuted view session text event rfl rfl executed
  | true =>
      obtain ⟨clear, good, moves, _errnum⟩ := executed_inLine view session text executed
      cases first : (view.answers text session.conn.state).first with
      | failed error => exact absurd first (good error)
      | done =>
          apply inLine_done view session text event (fun _ => rfl) rfl executed first
          intro state front
          obtain ⟨kept, none, same⟩ := view.noSet state front
          exact ⟨kept, congrArg (Option.map QueryResult.store) none, same⟩
      | rows count =>
          rw [first] at moves
          obtain ⟨fetched, either⟩ := view.stores _ count (congrArg AnswerLine.front moves)
          rw [moves] at fetched
          rcases either with some_ | ⟨none, failed⟩
          · have ends := (Session.sendStore_set driver.toDBDriver executed some_).map
              CallValue.result
            apply inLine_of_clear clear event ends
            · rw [first]
              cases (driver.storeRows
                  (driver.storeResult (driver.execute text session.conn.state).2).2).1 with
              | ok done => exact Or.inl rfl
              | error failure => exact Or.inr ⟨rfl, Or.inl ⟨failure, rfl⟩⟩
            · rw [first]
              exact (view.rowsKept _).trans fetched
          · have ends := (Session.sendStore_noSet driver.toDBDriver executed none).map
              CallValue.result
            apply inLine_of_clear clear event ends
            · rw [first]
              exact Or.inr ⟨rfl, unreadable_of_empty _ failed⟩
            · rw [first]
              exact fetched

theorem inLine_use : (ResultCall.use text).InLine view session := by
  have event : (ResultCall.use text).event view session.conn.state =
      .request (view.answers text session.conn.state) .stream := rfl
  cases executed : (driver.execute text session.conn.state).1 with
  | false => exact inLine_notExecuted view session text event rfl rfl executed
  | true =>
      obtain ⟨clear, good, moves, _errnum⟩ := executed_inLine view session text executed
      cases first : (view.answers text session.conn.state).first with
      | failed error => exact absurd first (good error)
      | done =>
          apply inLine_done view session text event (fun _ => rfl) rfl executed first
          intro state front
          obtain ⟨kept, none, same⟩ := view.notUsed state front
          exact ⟨kept, congrArg (fun there => if there then some QueryResult.use else Option.none)
            none, same⟩
      | rows count =>
          rw [first] at moves
          obtain ⟨streamed, some_⟩ := view.uses _ count (congrArg AnswerLine.front moves)
          rw [moves] at streamed
          have ends := (Session.sendUse_set driver.toDBDriver executed some_).map
            CallValue.result
          apply inLine_of_clear clear event ends
          · rw [first]
            exact Or.inl rfl
          · rw [first]
            exact streamed

end Texts

section Others

variable (view : LibraryView driver) (session : Session δ)

variable {view session} in
theorem inLine_next {line : AnswerLine Nat ErrorNumber} {reply : LineReply Nat ErrorNumber}
    (step : (view.line session.conn.state).step .next = (line, reply))
    {outcome : Except Failure CallValue} {state : δ}
    (ends : EndsIn ((CallValue.result <$> Session.storeNext driver).run session) outcome state)
    (reports : ResultCall.storeNext.Reports driver session.query.throwExceptions state outcome
      reply)
    (moves : view.line state = line) : ResultCall.storeNext.InLine view session := by
  have moved : (view.line session.conn.state).after .next = line := congrArg Prod.fst step
  have replied : (view.line session.conn.state).reply .next = reply := congrArg Prod.snd step
  obtain ⟨rfl, rfl⟩ := ends
  rw [← replied] at reports
  exact ⟨reports, moves.trans moved.symm⟩

/-- `store_next` with an answer in line. -/
theorem inLine_storeNext_moved {answer : Answer Nat ErrorNumber}
    {rest : List (Answer Nat ErrorNumber)}
    (waits : view.line session.conn.state = { front := .none, waiting := answer :: rest }) :
    ResultCall.storeNext.InLine view session := by
  obtain ⟨moves, good, notLast, errnum⟩ := view.moves session.conn.state answer rest waits
  have step : (view.line session.conn.state).step .next =
      ({ front := answer.frontSet .fetch, waiting := rest }, .took answer) := by
    rw [waits]
    rfl
  cases answer with
  | failed error =>
      have ends := (Session.storeNext_error driver (mt good.mp error.property) notLast).map
        CallValue.result
      exact inLine_next step ends (fails_of_lastError rfl errnum) moves
  | done =>
      obtain ⟨kept, none, same⟩ := view.noSet _ (congrArg AnswerLine.front moves)
      have noError : driver.errnum
          (driver.storeResult (driver.mysqlNextResult session.conn.state).2).2 = 0 :=
        same.trans errnum
      have ends := (Session.storeNext_noSet driver (good.mpr rfl) none).map CallValue.result
      rw [emptyOutcome, if_pos noError] at ends
      exact inLine_next step ends ⟨rfl, noError⟩ (kept.trans moves)
  | rows count =>
      obtain ⟨fetched, either⟩ := view.stores _ count (congrArg AnswerLine.front moves)
      rw [moves] at fetched
      rcases either with some_ | ⟨none, failed⟩
      · have ends := (Session.storeNext_set driver (good.mpr rfl) some_).map CallValue.result
        apply inLine_next step ends _ ((view.rowsKept _).trans fetched)
        cases (driver.storeRows
            (driver.storeResult (driver.mysqlNextResult session.conn.state).2).2).1 with
        | ok done => exact Or.inl rfl
        | error failure => exact Or.inr ⟨rfl, Or.inl ⟨failure, rfl⟩⟩
      · have ends := (Session.storeNext_noSet driver (good.mpr rfl) none).map CallValue.result
        exact inLine_next step ends (Or.inr ⟨rfl, unreadable_of_empty _ failed⟩) fetched

theorem inLine_storeNext : ResultCall.storeNext.InLine view session := by
  by_cases there : (view.line session.conn.state).front = .none
  · cases waiting : (view.line session.conn.state).waiting with
    | cons answer rest =>
        apply inLine_storeNext_moved view session
        rw [← there, ← waiting]
    | nil =>
        have clear : view.line session.conn.state = .clear := by
          rw [AnswerLine.clear, ← there, ← waiting]
        obtain ⟨kept, last, errnum⟩ := view.ends session.conn.state clear
        have ends := (Session.storeNext_last driver last).map CallValue.result
        have step : (view.line session.conn.state).step .next = (.clear, .nothing) := by
          rw [clear]
          rfl
        rw [emptyOutcome, if_pos errnum] at ends
        exact inLine_next step ends ⟨rfl, fun _ => errnum⟩ kept
  · obtain ⟨kept, notMoved, notLast, errnum⟩ := view.blocks session.conn.state there
    have ends := (Session.storeNext_error driver notMoved notLast).map CallValue.result
    exact inLine_next (AnswerLine.step_next_of_front there) ends (fails_of_lastError rfl errnum)
      kept

theorem inLine_release : ResultCall.release.InLine view session := by
  constructor
  · have nothing : (view.line session.conn.state).reply .release = .nothing := by
      cases line : view.line session.conn.state with
      | mk front waiting =>
          cases front with
          | none => rfl
          | unfetched set => rfl
          | streamed => rfl
    change Reports _ _ _ _ _ ((view.line session.conn.state).reply .release)
    rw [nothing]
    constructor
    · rfl
    · intro impossible
      cases impossible
  · exact view.frees session.conn.state

/-- Every call of every query, template or not. -/
theorem inLine (call : ResultCall) : call.InLine view session := by
  cases call with
  | store text => exact inLine_store view session text
  | storeNext => exact inLine_storeNext view session
  | use text => exact inLine_use view session text
  | execute text => exact inLine_execute view session text
  | exec text => exact inLine_exec view session text
  | release => exact inLine_release view session

end Others

end ResultCall

end LibTabula
