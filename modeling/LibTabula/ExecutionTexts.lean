/-
What the execution functions send.

`str()` says what a template query is with some parameters. Each execution function
is compared with it: what it sends is worked out first, by following its calls with
the flag up or down, and then set against the text of `str()`.
-/

import LibTabula.QueryExecution

set_option autoImplicit false

namespace LibTabula

open Foundation

/-- The parameters of a call: none, a single value, or a list. -/
inductive Parameters
  | none
  | one (s : SQLTypeAdapter)
  | list (p : SQLQueryParms)

namespace Parameters

def overload : Parameters → Overload
  | none => .noArgs
  | one s => .adapter s
  | list p => .parms p

def passed : Parameters → Option SQLQueryParms
  | none => .none
  | one s => some (SQLQueryParms.ofList [s])
  | list p => some p

end Parameters

/-- The functions that execute a query; `storein` also stands for its relatives
`storein_sequence` and `storein_set`. -/
inductive Entry
  | execute
  | store
  | use
  | storein
deriving DecidableEq, Repr

section Delivery

variable {δ α β : Type}

/-- A call has sent one text, or it has failed and sent nothing. -/
def Delivers (result : EStateM.Result Failure (Session δ) α) (before : List Bytes) :
    Except Failure Bytes → Prop
  | .ok text => result.final.texts = before ++ [text]
  | .error failure => result.outcome = .error failure ∧ result.final.texts = before

theorem Delivers.unique {result : EStateM.Result Failure (Session δ) α} {before : List Bytes}
    {sent other : Except Failure Bytes} (first : Delivers result before sent)
    (second : Delivers result before other) : sent = other := by
  cases sent with
  | ok text =>
      cases other with
      | ok otherText =>
          have same : before ++ [text] = before ++ [otherText] := first.symm.trans second
          have texts := List.append_cancel_left same
          rw [List.singleton_inj.mp texts]
      | error failure =>
          have same : before ++ [text] = before := first.symm.trans second.2
          have lengths := congrArg List.length same
          rw [List.length_append, List.length_singleton] at lengths
          omega
  | error failure =>
      cases other with
      | ok otherText =>
          have same : before ++ [otherText] = before := second.symm.trans first.2
          have lengths := congrArg List.length same
          rw [List.length_append, List.length_singleton] at lengths
          omega
      | error otherFailure =>
          have same := first.1.symm.trans second.1
          rw [Except.error.inj same]

theorem Delivers.bind {x : EStateM Failure (Session δ) α}
    {f : α → EStateM Failure (Session δ) β} {session : Session δ}
    {sent : Except Failure Bytes} (first : Delivers (x.run session) session.texts sent)
    (rest : ∀ value, Preserves Session.texts (f value)) :
    Delivers ((x >>= f).run session) session.texts sent := by
  cases sent with
  | ok text =>
      change ((x >>= f).run session).final.texts = session.texts ++ [text]
      rw [Preserves.after rest]
      exact first
  | error failure =>
      have failed := EStateM.Result.eq_error first.1
      rw [run_bind_of_error failed]
      exact ⟨rfl, first.2⟩

theorem Delivers.autoFlag {x : EStateM Failure (Session δ) α} {session : Session δ}
    {sent : Except Failure Bytes}
    (inner : Delivers (x.run (Session.setProcessing true session)) session.texts sent) :
    Delivers ((Session.autoFlag x).run session) session.texts sent := by
  cases sent with
  | ok text =>
      change ((Session.autoFlag x).run session).final.texts = session.texts ++ [text]
      rw [Session.autoFlag, final_flagged]
      exact inner
  | error failure =>
      constructor
      · rw [Session.autoFlag, outcome_flagged]
        exact inner.1
      · rw [Session.autoFlag, final_flagged]
        exact inner.2

end Delivery

/-! ### Following the calls -/

namespace Session

variable {δ : Type} {driver : DBDriver δ} (family : ExecutionFamily driver)

def strOutcome (driver : DBDriver δ) (session : Session δ) (p : Option SQLQueryParms) :
    Except Failure Bytes :=
  ((Query.str driver.escapeString p).run session.query).outcome

def afterStr (driver : DBDriver δ) (session : Session δ) (p : Option SQLQueryParms) :
    Session δ :=
  { session with query := ((Query.str driver.escapeString p).run session.query).final }

theorem str_run_ok {session : Session δ} {p : Option SQLQueryParms} {text : Bytes}
    (made : strOutcome driver session p = .ok text) :
    (str driver p).run session = .ok text (afterStr driver session p) := by
  have result := EStateM.Result.eq_ok made
  exact run_onPart_of_ok _ result

theorem str_run_error {session : Session δ} {p : Option SQLQueryParms} {failure : Failure}
    (failed : strOutcome driver session p = .error failure) :
    (str driver p).run session = .error failure (afterStr driver session p) := by
  have result := EStateM.Result.eq_error failed
  exact run_onPart_of_error _ result

/-- What `str` leaves of a template query as it is. -/
theorem afterStr_query (driver : DBDriver δ) {session : Session δ} {template : ParsedTemplate}
    (parsed : session.query.parseElems = template.elems) (p : Option SQLQueryParms) :
    (afterStr driver session p).query.parseElems = template.elems ∧
      (afterStr driver session p).query.templateDefaults.processing =
        session.query.templateDefaults.processing := by
  obtain ⟨_outcome, after, kept, final, _cells⟩ :=
    Query.str_run driver.escapeString parsed p
  obtain ⟨_text, elems, shape, _length⟩ := kept.query
  simp only [afterStr, ← final, shape]
  exact ⟨parsed, trivial⟩

theorem strOutcome_setProcessing {session : Session δ} {template : ParsedTemplate}
    (parsed : session.query.parseElems = template.elems) (p : Option SQLQueryParms)
    (value : Bool) :
    strOutcome driver (setProcessing value session) p = strOutcome driver session p := by
  have raised : (setProcessing value session).query.parseElems = template.elems := parsed
  have cells : Filling.cells ⟨(setProcessing value session).query, p⟩ =
      Filling.cells ⟨session.query, p⟩ := by
    funext num
    have selected : Filling.select ⟨(setProcessing value session).query, p⟩ num =
        Filling.select ⟨session.query, p⟩ num := rfl
    unfold Filling.cells
    rw [selected]
    cases Filling.select ⟨session.query, p⟩ num with
    | none => rfl
    | some c => cases c <;> rfl
  unfold strOutcome
  rw [(Query.str_run driver.escapeString raised p).1,
    (Query.str_run driver.escapeString parsed p).1, cells]

theorem call_adapter_run (session : Session δ) (depth : Nat) (s : SQLTypeAdapter) :
    (call family (depth + 1) (.adapter s)).run session =
      if family.keepsAdapter && session.takesLoneParameter then
        (autoFlag (call family depth (.parms (SQLQueryParms.ofList [s])))).run session
      else (call family depth (.chars s.data)).run session := by
  simp only [call, EStateM.run_bind, EStateM.run_get]
  split_ifs <;> rfl

theorem call_chars_run (session : Session δ) (depth : Nat) (text : Bytes) :
    (call family (depth + 1) (.chars text)).run session =
      if session.takesLoneParameter then
        (autoFlag (call family depth
          (.parms (SQLQueryParms.ofList [SQLTypeAdapter.ofString text false])))).run session
      else (family.send text).run session := by
  simp only [call, EStateM.run_bind, EStateM.run_get]
  split_ifs <;> rfl

theorem call_chars_direct {session : Session δ} (direct : session.takesLoneParameter = false)
    (depth : Nat) (text : Bytes) :
    Delivers ((call family (depth + 1) (.chars text)).run session) session.texts (.ok text) := by
  rw [call_chars_run, direct, if_neg Bool.false_ne_true]
  exact family.sends text session

theorem call_adapter_direct {session : Session δ} (direct : session.takesLoneParameter = false)
    (depth : Nat) (s : SQLTypeAdapter) :
    Delivers ((call family (depth + 2) (.adapter s)).run session) session.texts
      (.ok s.data) := by
  rw [call_adapter_run, direct, Bool.and_false, if_neg Bool.false_ne_true]
  exact call_chars_direct family direct depth s.data

/-- A text made by `str` is sent as it is while the flag is up. -/
theorem str_then_call (session : Session δ) {template : ParsedTemplate}
    (parsed : session.query.parseElems = template.elems)
    (direct : session.takesLoneParameter = false) (depth : Nat) (p : Option SQLQueryParms) :
    Delivers
      ((str driver p >>= fun text =>
        call family (depth + 2) (.adapter (SQLTypeAdapter.ofString text false))).run session)
      session.texts (strOutcome driver session p) := by
  cases made : strOutcome driver session p with
  | error failure =>
      rw [run_bind_of_error (str_run_error made)]
      exact ⟨rfl, rfl⟩
  | ok text =>
      rw [run_bind_of_ok (str_run_ok made)]
      obtain ⟨parsedAfter, flag⟩ := afterStr_query driver parsed p
      have directAfter : (afterStr driver session p).takesLoneParameter = false := by
        rw [takesLoneParameter, parsedAfter, flag, ← parsed]
        exact direct
      exact call_adapter_direct family directAfter depth (SQLTypeAdapter.ofString text false)

theorem raised_direct (session : Session δ) :
    (setProcessing true session).takesLoneParameter = false := by
  simp [takesLoneParameter, setProcessing]

theorem call_noArgs (session : Session δ) {template : ParsedTemplate}
    (parsed : session.query.parseElems = template.elems) (depth : Nat) :
    Delivers ((call family (depth + 3) .noArgs).run session) session.texts
      (strOutcome driver session none) := by
  rw [← strOutcome_setProcessing parsed none true]
  exact Delivers.autoFlag
    (str_then_call family (setProcessing true session) parsed (raised_direct session) depth none)

theorem call_parms (session : Session δ) {template : ParsedTemplate}
    (parsed : session.query.parseElems = template.elems) (depth : Nat) (p : SQLQueryParms) :
    Delivers ((call family (depth + 3) (.parms p)).run session) session.texts
      (strOutcome driver session (some p)) := by
  rw [← strOutcome_setProcessing parsed (some p) true]
  exact Delivers.autoFlag
    (str_then_call family (setProcessing true session) parsed (raised_direct session) depth
      (some p))

theorem takesLoneParameter_eq {session : Session δ} {template : ParsedTemplate}
    (parsed : session.query.parseElems = template.elems)
    (idle : session.query.templateDefaults.processing = false) :
    session.takesLoneParameter = decide (template.placeholders.length = 1) := by
  rw [takesLoneParameter, idle, parsed, template.length_elems]
  simp

/-- A single value given to a template with one placeholder: `execute` passes it on
as it is, the other functions as a text. -/
theorem call_lone {session : Session δ} {template : ParsedTemplate}
    (parsed : session.query.parseElems = template.elems)
    (idle : session.query.templateDefaults.processing = false)
    (single : template.placeholders.length = 1) (depth : Nat) (s : SQLTypeAdapter) :
    Delivers ((call family (depth + 5) (.adapter s)).run session) session.texts
      (strOutcome driver session (some (SQLQueryParms.ofList
        [if family.keepsAdapter then s else SQLTypeAdapter.ofString s.data false]))) := by
  have lone : session.takesLoneParameter = true := by
    rw [takesLoneParameter_eq parsed idle, single]
    rfl
  rw [← strOutcome_setProcessing parsed _ true]
  cases keeps : family.keepsAdapter with
  | true =>
      rw [call_adapter_run, keeps, lone, Bool.and_self, if_pos rfl, if_pos rfl]
      exact Delivers.autoFlag (call_parms family (setProcessing true session) parsed
        (depth + 1) _)
  | false =>
      rw [call_adapter_run, keeps, Bool.false_and, if_neg Bool.false_ne_true, call_chars_run,
        lone, if_pos rfl, if_neg Bool.false_ne_true]
      exact Delivers.autoFlag (call_parms family (setProcessing true session) parsed depth _)

theorem storeinAdapter_delivers {session : Session δ} {s : SQLTypeAdapter}
    {sent : Except Failure Bytes}
    (used : Delivers ((use driver (.adapter s)).run session) session.texts sent) :
    Delivers ((storeinAdapter driver s).run session) session.texts sent := by
  apply Delivers.bind used
  intro result
  by_cases there : result ≠ .empty
  · rw [if_pos there]
    exact Preserves.bind (preserves_onDriver stable_texts driver.fetchRows) preserves_ofExcept
  · rw [if_neg there]
    apply Preserves.bind Preserves.get
    intro self
    cases driver.resultEmpty self.conn.state with
    | true => exact Preserves.pure _
    | false =>
        apply Preserves.bind
        · apply Preserves.modify
          intro session
          rfl
        · intro _done
          cases self.query.throwExceptions with
          | true => exact Preserves.throw _
          | false => exact Preserves.pure _

end Session

def Entry.run {δ : Type} (driver : DBDriver δ) (parameters : Parameters) :
    Entry → EStateM Failure (Session δ) Unit
  | execute => do
      let _result ← Session.execute driver parameters.overload
  | store => do
      let _result ← Session.store driver parameters.overload
  | use => do
      let _result ← Session.use driver parameters.overload
  | storein => Session.storein driver parameters.overload

/-- The text that an execution function comes to send. -/
def Entry.delivered {δ : Type} (driver : DBDriver δ) (template : ParsedTemplate)
    (session : Session δ) : Entry → Parameters → Except Failure Bytes
  | entry, .one s =>
      if template.placeholders.length = 1 then
        session.strOutcome driver (some (SQLQueryParms.ofList
          [if entry = execute then s else SQLTypeAdapter.ofString s.data false]))
      else .ok s.data
  | storein, parameters =>
      match session.strOutcome driver parameters.passed with
      | .error failure => .error failure
      | .ok text =>
          if template.placeholders.length = 1 then
            (session.afterStr driver parameters.passed).strOutcome driver
              (some (SQLQueryParms.ofList [SQLTypeAdapter.ofString text false]))
          else .ok text
  | _, parameters => session.strOutcome driver parameters.passed

section Delivered

variable {δ : Type} {driver : DBDriver δ}

theorem Session.call_delivers (family : ExecutionFamily driver) (session : Session δ)
    {template : ParsedTemplate} (parsed : session.query.parseElems = template.elems)
    (idle : session.query.templateDefaults.processing = false) (parameters : Parameters) :
    Delivers ((Session.call family Session.callDepth parameters.overload).run session)
      session.texts
      (match parameters with
        | .one s =>
            if template.placeholders.length = 1 then
              session.strOutcome driver (some (SQLQueryParms.ofList
                [if family.keepsAdapter then s else SQLTypeAdapter.ofString s.data false]))
            else .ok s.data
        | other => session.strOutcome driver other.passed) := by
  cases parameters with
  | none => exact Session.call_noArgs family session parsed 2
  | list p => exact Session.call_parms family session parsed 2 p
  | one s =>
      by_cases single : template.placeholders.length = 1
      · simp only [if_pos single]
        exact Session.call_lone family parsed idle single 0 s
      · simp only [if_neg single]
        have direct : session.takesLoneParameter = false := by
          rw [Session.takesLoneParameter_eq parsed idle]
          exact decide_eq_false single
        exact Session.call_adapter_direct family direct 3 s

/-- Each execution function sends what `delivered` says, or fails as it says. -/
theorem Entry.run_delivers (session : Session δ) {template : ParsedTemplate}
    (parsed : session.query.parseElems = template.elems)
    (idle : session.query.templateDefaults.processing = false) (entry : Entry)
    (parameters : Parameters) :
    Delivers ((entry.run driver parameters).run session) session.texts
      (entry.delivered driver template session parameters) := by
  have storeinStr : ∀ p, Delivers
      ((Session.str driver p >>= fun text => Session.storeinAdapter driver
        (SQLTypeAdapter.ofString text false)).run session) session.texts
      (match session.strOutcome driver p with
        | .error failure => .error failure
        | .ok text =>
            if template.placeholders.length = 1 then
              (session.afterStr driver p).strOutcome driver
                (some (SQLQueryParms.ofList [SQLTypeAdapter.ofString text false]))
            else .ok text) := by
    intro p
    cases made : session.strOutcome driver p with
    | error failure =>
        rw [run_bind_of_error (Session.str_run_error made)]
        exact ⟨rfl, rfl⟩
    | ok text =>
        rw [run_bind_of_ok (Session.str_run_ok made)]
        obtain ⟨parsedAfter, flag⟩ := Session.afterStr_query driver parsed p
        exact Session.storeinAdapter_delivers
          (Session.call_delivers (Session.useFamily driver) (session.afterStr driver p)
            parsedAfter (flag.trans idle) (.one (SQLTypeAdapter.ofString text false)))
  cases entry with
  | execute =>
      have called := Session.call_delivers (Session.executeFamily driver) session parsed idle
        parameters
      cases parameters <;> exact Delivers.bind called fun _ => Preserves.pure _
  | store =>
      have called := Session.call_delivers (Session.storeFamily driver) session parsed idle
        parameters
      cases parameters <;> exact Delivers.bind called fun _ => Preserves.pure _
  | use =>
      have called := Session.call_delivers (Session.useFamily driver) session parsed idle
        parameters
      cases parameters <;> exact Delivers.bind called fun _ => Preserves.pure _
  | storein =>
      cases parameters with
      | none => exact storeinStr none
      | list p => exact storeinStr (some p)
      | one s =>
          exact Session.storeinAdapter_delivers
            (Session.call_delivers (Session.useFamily driver) session parsed idle (.one s))

end Delivered

end LibTabula
