/-
Queries that are no templates.

Such a query sends its own text or the one it is given, in one call of the driver's
`execute`. The overloads come down to that whatever the flag says.
-/

import LibTabula.ExecutionTexts

set_option autoImplicit false

namespace LibTabula

open Foundation

namespace Session

variable {δ : Type} {driver : DBDriver δ}

/-- A query whose elements have not been parsed. -/
def Plain (self : Session δ) : Prop := self.query.parseElems = []

/-! ### The calls -/

section Calls

variable {family : ExecutionFamily driver} {session : Session δ}

theorem str_run_plain (plain : session.Plain) (p : Option SQLQueryParms) :
    (str driver p).run session = .ok session.query.sbuffer session := by
  have noElems : session.query.parseElems = [] := plain
  exact run_onPart_of_ok _ (Query.str_of_noElems driver.escapeString noElems p)

theorem takesLoneParameter_plain (plain : session.Plain) : session.takesLoneParameter = false := by
  have noElems : session.query.parseElems = [] := plain
  rw [takesLoneParameter, noElems]
  rfl

theorem call_chars_run_plain (plain : session.Plain) (depth : Nat) (text : Bytes) :
    (call family (depth + 1) (.chars text)).run session = (family.send text).run session := by
  rw [call_chars_run, takesLoneParameter_plain plain, if_neg Bool.false_ne_true]

theorem call_adapter_run_plain (plain : session.Plain) (depth : Nat) (s : SQLTypeAdapter) :
    (call family (depth + 2) (.adapter s)).run session = (family.send s.data).run session := by
  rw [call_adapter_run, takesLoneParameter_plain plain, Bool.and_false,
    if_neg Bool.false_ne_true, call_chars_run_plain plain]

/-- The query's own text, made by `str` and sent. -/
theorem str_then_call_run_plain (plain : session.Plain) (depth : Nat)
    (p : Option SQLQueryParms) :
    (str driver p >>= fun text =>
        call family (depth + 2) (.adapter (SQLTypeAdapter.ofString text false))).run session =
      (family.send session.query.sbuffer).run session := by
  rw [run_bind_of_ok (str_run_plain plain p), call_adapter_run_plain plain,
    SQLTypeAdapter.ofString_data]

end Calls

/-! ### What the driver is asked -/

variable (driver)

theorem autoReset_run_plain {session : Session δ} (plain : session.Plain) :
    (autoReset : EStateM Failure (Session δ) Unit).run session =
      .ok () { session with query := session.query.reset } := by
  have noElems : session.query.parseElems = [] := plain
  rw [autoReset, EStateM.run_modify, if_pos noElems]

theorem badQuery_run {α : Type} (otherwise : α) (session : Session δ) :
    (badQuery driver otherwise).run session =
      if session.query.throwExceptions then
        .error (.badQuery (driver.error session.conn.state) (driver.errnum session.conn.state))
          session
      else .ok otherwise session := by
  simp only [badQuery, EStateM.run_bind, EStateM.run_get]
  cases session.query.throwExceptions <;> rfl

/-- The session after a text has been handed to the driver for a plain query. -/
def afterPlain (session : Session δ) (text : Bytes) : Session δ :=
  let sent := session.conn.execute driver text
  let query := { session.query with copacetic := sent.1 }
  { query := if sent.1 then query.reset else query, conn := sent.2 }

def executes (session : Session δ) (text : Bytes) : Bool :=
  (session.conn.execute driver text).1

theorem afterPlain_plain {session : Session δ} (plain : session.Plain) (text : Bytes) :
    (session.afterPlain driver text).Plain := by
  have noElems : session.query.parseElems = [] := plain
  unfold afterPlain Plain
  by_cases executed : (session.conn.execute driver text).1 = true
  · simp only [if_pos executed]
    rfl
  · simp only [if_neg executed]
    exact noElems

theorem afterPlain_throwExceptions (session : Session δ) (text : Bytes) :
    (session.afterPlain driver text).query.throwExceptions = session.query.throwExceptions := by
  unfold afterPlain
  by_cases executed : (session.conn.execute driver text).1 = true
  · simp only [if_pos executed]
    rfl
  · simp only [if_neg executed]

theorem afterPlain_copacetic (session : Session δ) (text : Bytes) :
    (session.afterPlain driver text).query.copacetic = session.executes driver text := by
  unfold afterPlain
  by_cases executed : (session.conn.execute driver text).1 = true
  · simp only [if_pos executed]
    rfl
  · simp only [if_neg executed]
    rfl

theorem afterPlain_sbuffer (session : Session δ) (text : Bytes) :
    (session.afterPlain driver text).query.sbuffer =
      if session.executes driver text then [] else session.query.sbuffer := by
  unfold afterPlain
  by_cases executed : (session.conn.execute driver text).1 = true
  · simp only [if_pos executed]
    exact (if_pos executed).symm
  · simp only [if_neg executed]
    exact (if_neg executed).symm

/-- The exception for a text that the driver has not executed. -/
def refusal (session : Session δ) (text : Bytes) : Failure :=
  let conn := (session.conn.execute driver text).2
  .badQuery (driver.error conn.state) (driver.errnum conn.state)

/-- The session behind the driver's `execute`. -/
def executed (session : Session δ) (text : Bytes) : Session δ :=
  { query := { session.query with copacetic := session.executes driver text }
    conn := (session.conn.execute driver text).2 }

theorem afterPlain_of_executes {session : Session δ} {text : Bytes}
    (yes : session.executes driver text = true) :
    session.afterPlain driver text =
      { session.executed driver text with
        query := (session.executed driver text).query.reset } := by
  rw [executes] at yes
  simp only [afterPlain, executed, executes, yes, if_true]

theorem afterPlain_of_refused {session : Session δ} {text : Bytes}
    (no : session.executes driver text = false) :
    session.afterPlain driver text = session.executed driver text := by
  rw [executes] at no
  simp only [afterPlain, executed, executes, no, Bool.false_eq_true, if_false]

theorem driverExecute_run (session : Session δ) (text : Bytes) :
    (driverExecute driver text).run session =
      .ok (session.executes driver text) (session.executed driver text) :=
  rfl

/-- What the functions that execute a text have in common on a plain query: `done` is
what they return for a text that was executed, and `otherwise` for one that was not. -/
theorem executing_run_plain {α : Type} {session : Session δ} (plain : session.Plain)
    (text : Bytes) (done : EStateM Failure (Session δ) α) (otherwise : α)
    {value : Session δ → α} (returns : ∀ after, done.run after = .ok (value after) after) :
    (do
        let ok ← driverExecute driver text
        if ok then
          autoReset
          done
        else badQuery driver otherwise).run session =
      if session.executes driver text then
        .ok (value (session.afterPlain driver text)) (session.afterPlain driver text)
      else if session.query.throwExceptions then
        .error (session.refusal driver text) (session.afterPlain driver text)
      else .ok otherwise (session.afterPlain driver text) := by
  rw [run_bind_of_ok (driverExecute_run driver session text)]
  cases ran : session.executes driver text with
  | true =>
      have stillPlain : (session.executed driver text).Plain := plain
      rw [if_pos rfl, if_pos rfl, run_bind_of_ok (autoReset_run_plain stillPlain), returns,
        afterPlain_of_executes driver ran]
  | false =>
      rw [if_neg Bool.false_ne_true, if_neg Bool.false_ne_true, badQuery_run,
        afterPlain_of_refused driver ran]
      rfl

theorem exec_run_plain {session : Session δ} (plain : session.Plain) :
    (exec driver).run session =
      if session.executes driver session.query.sbuffer then
        .ok true (session.afterPlain driver session.query.sbuffer)
      else if session.query.throwExceptions then
        .error (session.refusal driver session.query.sbuffer)
          (session.afterPlain driver session.query.sbuffer)
      else .ok false (session.afterPlain driver session.query.sbuffer) := by
  rw [exec, run_bind_of_ok (str_run_plain plain none)]
  exact executing_run_plain driver plain session.query.sbuffer (pure true) false fun _ => rfl

end Session

end LibTabula
