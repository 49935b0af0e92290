/-
What the execution functions leave in a query.

A query that is no template forgets its text and its defaults when it has been
executed, and keeps the text for a further try when that has failed. A template
query keeps its template. Which of these happens is decided at four places of the
source; all of them are compared with one protocol here.
-/

import LibTabula.PlainQueries
import LibTabula.Result

set_option autoImplicit false

namespace LibTabula

open Foundation

/-! ### The protocol -/

/-- `errnum()` is nonzero exactly if the last call has failed. Handing out the rows
of a stored result is no call that can fail. -/
structure DBDriver.Reports {δ : Type} (driver : DBDriver δ) : Prop where
  execute : ∀ text state,
    driver.errnum (driver.execute text state).2 = 0 ↔ (driver.execute text state).1 = true
  storeResult : ∀ state, (driver.storeResult state).1.isSome = true →
    driver.errnum (driver.storeResult state).2 = 0
  storeRows : ∀ state, driver.errnum (driver.storeRows state).2 = driver.errnum state
  useResult : ∀ state, (driver.useResult state).1 = true →
    driver.errnum (driver.useResult state).2 = 0

section Protocol

variable {δ α : Type} (driver : DBDriver δ)

/-- The call has returned, and the last call of the driver has not failed. -/
def Succeeded (result : EStateM.Result Failure (Session δ) α) : Prop :=
  (∃ value, result.outcome = .ok value) ∧ driver.errnum result.final.conn.state = 0

structure ResetOnSuccess (before : Session δ) (result : EStateM.Result Failure (Session δ) α) :
    Prop where
  success : Succeeded driver result →
    result.final.query.sbuffer = [] ∧ result.final.query.templateDefaults.elems = []
  failure : ¬ Succeeded driver result → result.final.query.sbuffer = before.query.sbuffer

structure AutoResets (before : Session δ) (result : EStateM.Result Failure (Session δ) α) :
    Prop where
  text : before.query.parseElems = [] → ResetOnSuccess driver before result
  template : before.query.parseElems ≠ [] →
    result.final.query.parseElems = before.query.parseElems
  processing : result.final.query.templateDefaults.processing = false

end Protocol

/-- The functions of a query that execute it. -/
inductive ExecutionCall
  | exec
  | execText (str : Bytes)
  | execute (overload : Overload)
  | store (overload : Overload)
  | use (overload : Overload)

/-- The text that an overload sends if the query is no template. -/
def Overload.sent (sbuffer : Bytes) : Overload → Bytes
  | .noArgs => sbuffer
  | .parms _ => sbuffer
  | .adapter s => s.data
  | .chars str => str

section Calls

variable {δ : Type} (driver : DBDriver δ) (session : Session δ)

def ExecutionCall.Obeys : ExecutionCall → Prop
  | .exec => AutoResets driver session ((Session.exec driver).run session)
  | .execText str => AutoResets driver session ((Session.execText driver str).run session)
  | .execute overload => AutoResets driver session ((Session.execute driver overload).run session)
  | .store overload => AutoResets driver session ((Session.store driver overload).run session)
  | .use overload => AutoResets driver session ((Session.use driver overload).run session)

/-- The text is executed and has a result set, whose rows cannot be read without an
exception. -/
def DBDriver.RowsThrow (text : Bytes) (state : δ) : Prop :=
  let executed := driver.execute text state
  let result := driver.storeResult executed.2
  executed.1 = true ∧ result.1.isSome = true ∧
    ∃ failure, (driver.storeRows result.2).1 = .error failure

/-- `store` on a text of the query's own, where the rows throw. -/
def ExecutionCall.LosesText : ExecutionCall → Prop
  | .store overload =>
      session.query.parseElems = [] ∧ session.query.sbuffer ≠ [] ∧
        driver.RowsThrow (overload.sent session.query.sbuffer) session.conn.state
  | _ => False

end Calls

/-! ### The template and the flag -/

def Query.templateState (self : Query) : List SQLParseElement × Bool :=
  (self.parseElems, self.templateDefaults.processing)

namespace Filling

variable (escape : Bytes → Bytes)

def templateState (self : Filling) : List SQLParseElement × Bool := self.query.templateState

theorem preserves_procParam (option : UInt8) (num : Nat) :
    Preserves templateState (procParam escape option num) := by
  intro self
  simp only [procParam, EStateM.run_bind, EStateM.run_get]
  cases self.select num with
  | none => rfl
  | some c =>
      dsimp only
      cases (self.param c num).isNull with
      | error failure => rfl
      | ok null =>
          cases null with
          | true => rfl
          | false =>
              rw [run_bind_of_ok (run_ofExcept_ok _ _), if_neg Bool.false_ne_true]
              cases Query.pprepare escape option (self.param c num) (self.parms c).bound with
              | error failure => rfl
              | ok formatted => cases c <;> rfl

theorem preserves_procElem (elem : SQLParseElement) :
    Preserves templateState (procElem escape elem) := by
  apply Preserves.bind
  · apply Preserves.modify
    intro self
    rfl
  · intro _written
    by_cases position : 0 ≤ elem.num
    · rw [if_pos position]
      exact preserves_procParam escape elem.option elem.num.toNat
    · rw [if_neg position]
      exact Preserves.pure _

theorem preserves_procLoop (elems : List SQLParseElement) :
    Preserves templateState (procLoop escape elems) := by
  induction elems with
  | nil => exact Preserves.pure _
  | cons elem rest ih => exact Preserves.bind (preserves_procElem escape elem) fun _ => ih

theorem preserves_str : Preserves templateState (str escape) := by
  apply Preserves.bind Preserves.get
  intro self
  have proceeds : Preserves templateState (proc escape) := by
    apply Preserves.bind
    · apply Preserves.modify
      intro self
      rfl
    · intro _emptied
      exact Preserves.bind Preserves.get fun self => preserves_procLoop escape _
  by_cases parsed : self.query.parseElems ≠ []
  · simp only [if_pos parsed]
    exact Preserves.bind proceeds fun _ => Preserves.bind Preserves.get fun _ => Preserves.pure _
  · simp only [if_neg parsed]
    exact Preserves.bind Preserves.get fun _ => Preserves.pure _

end Filling

theorem Query.preserves_str (escape : Bytes → Bytes) (passed : Option SQLQueryParms) :
    Preserves Query.templateState (Query.str escape passed) := by
  intro self
  rw [Query.str_final]
  exact Filling.preserves_str escape { query := self, passed := passed }

namespace Session

variable {δ : Type} (driver : DBDriver δ)

def templateState (self : Session δ) : List SQLParseElement × Bool := self.query.templateState

def parseElems (self : Session δ) : List SQLParseElement := self.query.parseElems

theorem stable_templateState : Stable (templateState : Session δ → _) where
  copacetic _ _ := rfl
  reset session noTemplate := by
    simp only [templateState, Query.templateState, Query.reset, noTemplate]
    rfl
  state _ _ := rfl

theorem preserves_str (p : Option SQLQueryParms) : Preserves templateState (str driver p) := by
  intro session
  rw [str, onQuery, final_onPart]
  exact Query.preserves_str driver.escapeString p session.query

theorem preserves_execText (text : Bytes) :
    Preserves (templateState : Session δ → _) (execText driver text) := by
  have executes : Preserves (templateState : Session δ → _) (driverExecute driver text) :=
    fun _ => rfl
  apply Preserves.bind executes
  intro ok
  cases ok with
  | true =>
      exact Preserves.bind (preserves_autoReset stable_templateState) fun _ => Preserves.pure _
  | false => exact preserves_badQuery driver _

theorem preserves_exec : Preserves (templateState : Session δ → _) (exec driver) :=
  Preserves.bind (preserves_str driver none) fun text => preserves_execText driver text

theorem preserves_executeFamily (text : Bytes) :
    Preserves (templateState : Session δ → _) ((executeFamily driver).send text) :=
  read_sendExecute driver stable_templateState text

theorem preserves_storeFamily (text : Bytes) :
    Preserves (templateState : Session δ → _) ((storeFamily driver).send text) :=
  read_sendForResult driver stable_templateState _ _ text

theorem preserves_useFamily (text : Bytes) :
    Preserves (templateState : Session δ → _) ((useFamily driver).send text) :=
  read_sendForResult driver stable_templateState _ _ text

theorem preserves_parseElems {α : Type} {x : EStateM Failure (Session δ) α}
    (keeps : Preserves templateState x) : Preserves parseElems x :=
  fun session => congrArg Prod.fst (keeps session)

theorem preserves_autoFlag {α : Type} {x : EStateM Failure (Session δ) α}
    (keeps : Preserves parseElems x) : Preserves parseElems (autoFlag x) := by
  intro session
  rw [Session.autoFlag, final_flagged]
  exact keeps (setProcessing true session)

variable {driver} {family : ExecutionFamily driver}

/-- However the overloads call each other, the template stays. -/
theorem preserves_call (sends : ∀ text, Preserves templateState (family.send text)) (depth : Nat)
    (overload : Overload) : Preserves parseElems (call family depth overload) := by
  induction depth generalizing overload with
  | zero => exact Preserves.throw _
  | succ depth ih =>
      cases overload with
      | noArgs =>
          apply preserves_autoFlag
          exact Preserves.bind (preserves_parseElems (preserves_str driver none)) fun text => ih _
      | parms p =>
          apply preserves_autoFlag
          apply Preserves.bind (preserves_parseElems (preserves_str driver (some p)))
          intro text
          exact ih _
      | adapter s =>
          apply Preserves.bind Preserves.get
          intro self
          by_cases lone : (family.keepsAdapter && self.takesLoneParameter) = true
          · rw [if_pos lone]
            exact preserves_autoFlag (ih _)
          · rw [if_neg lone]
            exact ih _
      | chars text =>
          apply Preserves.bind Preserves.get
          intro self
          by_cases lone : self.takesLoneParameter = true
          · rw [if_pos lone]
            exact preserves_autoFlag (ih _)
          · rw [if_neg lone]
            exact preserves_parseElems (sends text)

/-- However the overloads call each other, the flag is down when the first returns. -/
theorem call_processing (sends : ∀ text, Preserves templateState (family.send text)) (depth : Nat)
    (overload : Overload) {session : Session δ}
    (idle : session.query.templateDefaults.processing = false) :
    ((call family depth overload).run session).final.query.templateDefaults.processing = false := by
  have lowered : ∀ {α : Type} (x : EStateM Failure (Session δ) α),
      ((autoFlag x).run session).final.query.templateDefaults.processing = false := by
    intro α x
    rw [Session.autoFlag, final_flagged]
    rfl
  induction depth generalizing overload with
  | zero => exact idle
  | succ depth ih =>
      cases overload with
      | noArgs => exact lowered _
      | parms p => exact lowered _
      | adapter s =>
          rw [call_adapter_run]
          split_ifs
          · exact lowered _
          · exact ih _
      | chars text =>
          rw [call_chars_run]
          split_ifs
          · exact lowered _
          · exact (congrArg Prod.snd (sends text session)).trans idle

/-! ### One driver call after the other -/

theorem resetOnSuccess_of_failed {α : Type} {before : Session δ}
    {result : EStateM.Result Failure (Session δ) α} (failed : ¬ Succeeded driver result)
    (kept : result.final.query.sbuffer = before.query.sbuffer) :
    ResetOnSuccess driver before result where
  success succeeded := absurd succeeded failed
  failure _ := kept

theorem resetOnSuccess_of_emptied {α : Type} {before : Session δ}
    {result : EStateM.Result Failure (Session δ) α} (succeeded : Succeeded driver result)
    (text : result.final.query.sbuffer = [])
    (defaults : result.final.query.templateDefaults.elems = []) :
    ResetOnSuccess driver before result where
  success _ := ⟨text, defaults⟩
  failure failed := absurd succeeded failed

/-- A call that fails with the driver's error leaves all as it is. -/
theorem badQuery_resets {α : Type} {before session : Session δ} (otherwise : α)
    (failed : driver.errnum session.conn.state ≠ 0)
    (kept : session.query.sbuffer = before.query.sbuffer) :
    ResetOnSuccess driver before ((badQuery driver otherwise).run session) := by
  have same : ((badQuery driver otherwise).run session).final = session := by
    rw [badQuery_run]
    cases session.query.throwExceptions <;> rfl
  apply resetOnSuccess_of_failed
  · intro both
    obtain ⟨_, none⟩ := both
    rw [same] at none
    exact failed none
  · rw [same]
    exact kept

theorem noResult_resets {before session : Session δ} (plain : session.Plain)
    (kept : session.query.sbuffer = before.query.sbuffer) :
    ResetOnSuccess driver before ((noResult driver).run session) := by
  let checked : Session δ :=
    { session with
      query := { session.query with copacetic := driver.errnum session.conn.state = 0 } }
  have ran : (noResult driver).run session =
      (if checked.query.copacetic then autoReset >>= fun _ => pure QueryResult.empty
        else badQuery driver .empty).run checked := rfl
  rw [ran]
  by_cases none : driver.errnum session.conn.state = 0
  · have copacetic : checked.query.copacetic = true := decide_eq_true none
    have stillPlain : checked.Plain := plain
    rw [if_pos copacetic, run_bind_of_ok (autoReset_run_plain stillPlain)]
    exact resetOnSuccess_of_emptied ⟨⟨_, rfl⟩, none⟩ rfl rfl
  · have copacetic : ¬ checked.query.copacetic = true := fun up => none (of_decide_eq_true up)
    rw [if_neg copacetic]
    exact badQuery_resets _ none kept

/-- `exec` and the end of `execute`, which only differ in what they return. -/
theorem executing_resets {α : Type} (reports : driver.Reports) {session : Session δ}
    (plain : session.Plain) (text : Bytes) (done : EStateM Failure (Session δ) α) (otherwise : α)
    {value : Session δ → α} (returns : ∀ after, done.run after = .ok (value after) after) :
    ResetOnSuccess driver session
      ((do
        let ok ← driverExecute driver text
        if ok then
          autoReset
          done
        else badQuery driver otherwise).run session) := by
  rw [executing_run_plain driver plain text done otherwise returns]
  cases ran : session.executes driver text with
  | true =>
      rw [if_pos rfl, afterPlain_of_executes driver ran]
      exact resetOnSuccess_of_emptied ⟨⟨_, rfl⟩, (reports.execute text _).mpr ran⟩ rfl rfl
  | false =>
      rw [if_neg Bool.false_ne_true, afterPlain_of_refused driver ran]
      have failed : driver.errnum (session.executed driver text).conn.state ≠ 0 := by
        intro none
        have accepted := (reports.execute text session.conn.state).mp none
        exact Bool.false_ne_true (ran.symm.trans accepted)
      have refused := badQuery_run driver otherwise (session.executed driver text)
      have resets : ResetOnSuccess driver session
          ((badQuery driver otherwise).run (session.executed driver text)) :=
        badQuery_resets otherwise failed rfl
      rw [refused] at resets
      exact resets

theorem execText_resets (reports : driver.Reports) {session : Session δ}
    (plain : session.Plain) (text : Bytes) :
    ResetOnSuccess driver session ((execText driver text).run session) :=
  executing_resets reports plain text (pure true) false fun _ => rfl

theorem sendExecute_resets (reports : driver.Reports) {session : Session δ}
    (plain : session.Plain) (text : Bytes) :
    ResetOnSuccess driver session ((sendExecute driver text).run session) :=
  executing_resets reports plain text
    (do
      let self ← get
      return QueryResult.simple (driver.insertId self.conn.state)
        (driver.affectedRows self.conn.state)) QueryResult.empty fun _ => rfl

/-- The session when a further function of the driver has been called. -/
def asked {α : Type} (ask : δ → α × δ) (session : Session δ) : Session δ :=
  { session with conn := { session.conn with state := (ask session.conn.state).2 } }

theorem onDriver_run {α : Type} (ask : δ → α × δ) (session : Session δ) :
    (onDriver ask).run session = .ok (ask session.conn.state).1 (asked ask session) := rfl

/-- The end of `store` and of `use`. Where the constructor of the result throws, the
text is gone already. -/
theorem sendForResult_resets_iff {session : Session δ} (plain : session.Plain) (text : Bytes)
    {result : δ → Option QueryResult × δ} {construct : δ → Except Failure Unit × δ}
    (there : ∀ state, (result state).1.isSome = true → driver.errnum (result state).2 = 0)
    (keeps : ∀ state, driver.errnum (construct state).2 = driver.errnum state) :
    ResetOnSuccess driver session ((sendForResult driver result construct text).run session) ↔
      ¬ (session.query.sbuffer ≠ [] ∧ (driver.execute text session.conn.state).1 = true ∧
        (result (driver.execute text session.conn.state).2).1.isSome = true ∧
        ∃ failure, (construct (result (driver.execute text session.conn.state).2).2).1 =
          .error failure) := by
  let after := session.executed driver text
  let found := asked result after
  have plainAfter : after.Plain := plain
  have plainFound : found.Plain := plain
  have execution : session.executes driver text = (driver.execute text session.conn.state).1 := rfl
  have state : after.conn.state = (driver.execute text session.conn.state).2 := rfl
  unfold sendForResult
  rw [run_bind_of_ok (driverExecute_run driver session text), execution, ← state]
  cases (driver.execute text session.conn.state).1 with
  | false =>
      rw [if_neg Bool.false_ne_true]
      refine iff_of_true ?_ fun lost => Bool.false_ne_true lost.2.1
      exact noResult_resets plainAfter rfl
  | true =>
      rw [if_pos rfl, run_bind_of_ok (onDriver_run result after)]
      have noError := there after.conn.state
      cases value : (result after.conn.state).1 with
      | none =>
          refine iff_of_true ?_ fun lost => Bool.false_ne_true lost.2.2.1
          exact noResult_resets plainFound rfl
      | some made =>
          let emptied : Session δ := { found with query := found.query.reset }
          have asking := onDriver_run construct emptied
          have none : driver.errnum (asked construct emptied).conn.state = 0 :=
            (keeps _).trans (noError (by rw [value]; rfl))
          dsimp only
          rw [run_bind_of_ok (autoReset_run_plain plainFound), run_bind_of_ok asking]
          have unread : emptied.conn.state = (result after.conn.state).2 := rfl
          rw [unread]
          cases (construct (result after.conn.state).2).1 with
          | ok done =>
              refine iff_of_true ?_ fun ⟨_, _, _, _, threw⟩ => nomatch threw
              exact resetOnSuccess_of_emptied ⟨⟨made, rfl⟩, none⟩ rfl rfl
          | error failure =>
              have failed : ¬ Succeeded driver
                  (EStateM.Result.error failure (asked construct emptied) :
                    EStateM.Result Failure (Session δ) QueryResult) := by
                intro given
                obtain ⟨⟨_, returned⟩, _⟩ := given
                cases returned
              constructor
              · rintro resets ⟨nonempty, _⟩
                exact nonempty (resets.failure failed).symm
              · intro kept
                refine resetOnSuccess_of_failed failed ?_
                by_contra lost
                exact kept ⟨fun empty => lost empty.symm, rfl, rfl, failure, rfl⟩

theorem sendStore_resets_iff (reports : driver.Reports) {session : Session δ}
    (plain : session.Plain) (text : Bytes) :
    ResetOnSuccess driver session ((sendStore driver text).run session) ↔
      ¬ (session.query.sbuffer ≠ [] ∧ driver.RowsThrow text session.conn.state) := by
  have there : ∀ state, ((driver.storeResult state).1.map QueryResult.store).isSome = true →
      driver.errnum (driver.storeResult state).2 = 0 := by
    intro state some_
    rw [Option.isSome_map] at some_
    exact reports.storeResult state some_
  refine (sendForResult_resets_iff plain text there reports.storeRows).trans ?_
  rw [Option.isSome_map]
  rfl

theorem sendUse_resets (reports : driver.Reports) {session : Session δ}
    (plain : session.Plain) (text : Bytes) :
    ResetOnSuccess driver session ((sendUse driver text).run session) := by
  have there : ∀ state,
      (if (driver.useResult state).1 then some QueryResult.use else none).isSome = true →
      driver.errnum (driver.useResult state).2 = 0 := by
    intro state some_
    cases used : (driver.useResult state).1 with
    | true => exact reports.useResult state used
    | false =>
        rw [used] at some_
        cases some_
  refine (sendForResult_resets_iff plain text there fun _ => rfl).mpr ?_
  intro found
  obtain ⟨_, _, _, _, threw⟩ := found
  cases threw

/-! ### Whole calls -/

theorem resetOnSuccess_autoFlag {α : Type} {x : EStateM Failure (Session δ) α}
    {session : Session δ} :
    ResetOnSuccess driver session ((autoFlag x).run session) ↔
      ResetOnSuccess driver (setProcessing true session)
        (x.run (setProcessing true session)) := by
  cases ran : x.run (setProcessing true session) with
  | ok value after =>
      have whole : (autoFlag x).run session = .ok value (setProcessing false after) :=
        run_flagged_of_ok _ ran
      rw [whole]
      exact ⟨fun ⟨success, failure⟩ => ⟨success, failure⟩,
        fun ⟨success, failure⟩ => ⟨success, failure⟩⟩
  | error failed after =>
      have whole : (autoFlag x).run session = .error failed (setProcessing false after) :=
        run_flagged_of_error _ ran
      rw [whole]
      exact ⟨fun ⟨success, failure⟩ => ⟨success, failure⟩,
        fun ⟨success, failure⟩ => ⟨success, failure⟩⟩

/-- The overloads come down to sending one text; when that obeys the protocol may
depend on the text, on the query's own and on the driver. -/
theorem call_resets_iff (obeys : Bytes → Bytes → δ → Prop)
    (sends : ∀ (text : Bytes) (session : Session δ), session.Plain →
      (ResetOnSuccess driver session ((family.send text).run session) ↔
        obeys text session.query.sbuffer session.conn.state))
    {session : Session δ} (plain : session.Plain) (overload : Overload) :
    ResetOnSuccess driver session ((call family callDepth overload).run session) ↔
      obeys (overload.sent session.query.sbuffer) session.query.sbuffer session.conn.state := by
  have raised : (setProcessing true session).Plain := plain
  have own : ∀ p, ResetOnSuccess driver session
      ((autoFlag (str driver p >>= fun text =>
        call family 4 (.adapter (SQLTypeAdapter.ofString text false)))).run session) ↔
      obeys session.query.sbuffer session.query.sbuffer session.conn.state := by
    intro p
    rw [resetOnSuccess_autoFlag, str_then_call_run_plain raised, sends _ _ raised]
    rfl
  cases overload with
  | noArgs => exact own none
  | parms p => exact own (some p)
  | adapter s =>
      rw [callDepth, call_adapter_run_plain plain]
      exact sends s.data session plain
  | chars text =>
      rw [callDepth, call_chars_run_plain plain]
      exact sends text session plain

/-- What a family keeps of templates and what it makes of plain queries, together. -/
theorem call_autoResets_iff (obeys : Bytes → Bytes → δ → Prop)
    (keeps : ∀ text, Preserves templateState (family.send text))
    (sends : ∀ (text : Bytes) (session : Session δ), session.Plain →
      (ResetOnSuccess driver session ((family.send text).run session) ↔
        obeys text session.query.sbuffer session.conn.state))
    {session : Session δ} (idle : session.query.templateDefaults.processing = false)
    (overload : Overload) :
    AutoResets driver session ((call family callDepth overload).run session) ↔
      (session.Plain →
        obeys (overload.sent session.query.sbuffer) session.query.sbuffer session.conn.state) := by
  constructor
  · intro obeyed plain
    exact (call_resets_iff obeys sends plain overload).mp (obeyed.text plain)
  · intro obeyed
    exact
      { text := fun plain => (call_resets_iff obeys sends plain overload).mpr (obeyed plain)
        template := fun _ => preserves_call keeps callDepth overload session
        processing := call_processing keeps callDepth overload idle }

/-- The same for a function without overloads. -/
theorem autoResets_of_preserves {α : Type} {x : EStateM Failure (Session δ) α}
    (keeps : Preserves templateState x) {session : Session δ}
    (resets : session.Plain → ResetOnSuccess driver session (x.run session))
    (idle : session.query.templateDefaults.processing = false) :
    AutoResets driver session (x.run session) where
  text := resets
  template _ := preserves_parseElems keeps session
  processing := (congrArg Prod.snd (keeps session)).trans idle

end Session

/-- All calls obey the protocol, with one exception: a text of the query's own is
lost where `store` cannot read the rows of its result. -/
theorem auto_reset_iff {δ : Type} {driver : DBDriver δ} (reports : driver.Reports)
    {session : Session δ} (idle : session.query.templateDefaults.processing = false)
    (call : ExecutionCall) :
    call.Obeys driver session ↔ ¬ call.LosesText driver session := by
  have always : ∀ {family : ExecutionFamily driver},
      (∀ text, Preserves Session.templateState (family.send text)) →
      (∀ text (session : Session δ), session.Plain →
        ResetOnSuccess driver session ((family.send text).run session)) →
      ∀ overload, AutoResets driver session
        ((Session.call family Session.callDepth overload).run session) := by
    intro family keeps sends overload
    refine (Session.call_autoResets_iff (fun _ _ _ => True) keeps ?_ idle overload).mpr
      fun _ => trivial
    intro text session plain
    exact iff_of_true (sends text session plain) trivial
  cases call with
  | exec =>
      refine iff_of_true ?_ id
      refine Session.autoResets_of_preserves (Session.preserves_exec driver) ?_ idle
      intro plain
      rw [Session.exec, run_bind_of_ok (Session.str_run_plain plain none)]
      exact Session.execText_resets reports plain _
  | execText str =>
      refine iff_of_true ?_ id
      exact Session.autoResets_of_preserves (Session.preserves_execText driver str)
        (fun plain => Session.execText_resets reports plain str) idle
  | execute overload =>
      refine iff_of_true ?_ id
      exact always (Session.preserves_executeFamily driver)
        (fun text _ plain => Session.sendExecute_resets reports plain text) overload
  | store overload =>
      let obeys (text sbuffer : Bytes) (state : δ) : Prop :=
        ¬ (sbuffer ≠ [] ∧ driver.RowsThrow text state)
      refine (Session.call_autoResets_iff obeys (Session.preserves_storeFamily driver)
        (fun text _ plain => Session.sendStore_resets_iff reports plain text)
        idle overload).trans ?_
      constructor
      · rintro obeyed ⟨plain, lost⟩
        exact obeyed plain lost
      · intro kept plain lost
        exact kept ⟨plain, lost⟩
  | use overload =>
      refine iff_of_true ?_ id
      exact always (Session.preserves_useFamily driver)
        (fun text _ plain => Session.sendUse_resets reports plain text) overload

/-! ### A server with one result set -/

/-- What a function of a result set does, without what it returns. -/
def asDriverCall {σ α : Type} (x : EStateM Failure σ α) (state : σ) : Except Failure Unit × σ :=
  ((x.run state).outcome.map fun _ => (), (x.run state).final)

/-- What the driver makes of the end of the rows. -/
def MySQLDriver.endOfRows (self : MySQLDriver) : Except Failure Unit :=
  if self.throwExceptions then .error (.objectNotInitialized "ROW is NULL") else .ok ()

/-- The constructor reads up to the end of the rows. -/
theorem asDriverCall_new {fields : List Field} (dbd : MySQLDriver) (te : Bool)
    (res : MySQLRes fields) :
    (asDriverCall (StoreQueryResult.new res.rows.length dbd te) res).1 = dbd.endOfRows := by
  simp only [asDriverCall, StoreQueryResult.new, MySQLDriver.endOfRows]
  cases flag : dbd.throwExceptions with
  | true =>
      obtain ⟨after, ran⟩ :=
        StoreQueryResult.run_assignRows_loud dbd te flag .default res.rows rfl
      rw [run_bind_of_error ran]
      rfl
  | false =>
      obtain ⟨after, ran⟩ :=
        StoreQueryResult.run_assignRows_quiet dbd te flag .default res.rows rfl
      rw [run_bind_of_ok ran]
      rfl

/-- A server that executes everything and answers with the result set it holds. -/
def answeringDriver (fields : List Field) (dbd : MySQLDriver) : DBDriver (MySQLRes fields) where
  execute _ state := (true, state)
  storeResult state := (some state.rows.length, state)
  storeRows state := asDriverCall (StoreQueryResult.new state.rows.length dbd true) state
  useResult state := (true, state)
  fetchRows state :=
    asDriverCall ((UseQueryResult.new fields dbd true).fetchTimes false (state.rows.length + 1))
      state
  resultEmpty _ := false
  errnum _ := 0
  error _ := []
  insertId _ := 0
  affectedRows _ := 0
  escapeString := SQLStream.escapeText

theorem answeringDriver_reports (fields : List Field) (dbd : MySQLDriver) :
    (answeringDriver fields dbd).Reports where
  execute _ _ := iff_of_true rfl rfl
  storeResult _ _ := rfl
  storeRows _ := rfl
  useResult _ _ := rfl

/-- The rows of any result set throw exactly when exceptions are on in the driver. -/
theorem answeringDriver_rowsThrow_iff {fields : List Field} (dbd : MySQLDriver) (text : Bytes)
    (state : MySQLRes fields) :
    (answeringDriver fields dbd).RowsThrow text state ↔ dbd.throwExceptions = true := by
  have stores : (∃ failure, ((answeringDriver fields dbd).storeRows state).1 = .error failure) ↔
      dbd.throwExceptions = true := by
    change (∃ failure, (asDriverCall (StoreQueryResult.new state.rows.length dbd true) state).1 =
      .error failure) ↔ _
    rw [asDriverCall_new, MySQLDriver.endOfRows]
    cases dbd.throwExceptions with
    | true => exact iff_of_true ⟨_, rfl⟩ rfl
    | false =>
        apply iff_of_false ?_ Bool.false_ne_true
        intro given
        obtain ⟨failure, threw⟩ := given
        cases threw
  constructor
  · intro found
    obtain ⟨_, _, threw⟩ := found
    exact stores.mp threw
  · intro loud
    exact ⟨rfl, rfl, stores.mpr loud⟩

/-- A query with a text that is no template, over a result set of one row. -/
def selecting : Session (MySQLRes [idField]) where
  query := Query.new 0 true (ascii "SELECT id FROM t")
  conn := { state := oneRow, sent := [] }

/-- With the default flags `store()` throws at the end of the rows, and the text is
gone. -/
theorem store_loses_text :
    let result := (Session.store (answeringDriver [idField] ⟨true⟩) .noArgs).run selecting
    result.outcome = .error (.objectNotInitialized "ROW is NULL") ∧
      result.final.query.sbuffer = [] ∧
      ¬ ExecutionCall.Obeys (answeringDriver [idField] ⟨true⟩) selecting (.store .noArgs) := by
  intro result
  have threw : result.outcome = .error (.objectNotInitialized "ROW is NULL") := by
    decide +kernel
  have lost : result.final.query.sbuffer = [] := by decide +kernel
  refine ⟨threw, lost, fun obeyed => ?_⟩
  have failed : ¬ Succeeded (answeringDriver [idField] ⟨true⟩) result := by
    intro found
    obtain ⟨⟨_, returned⟩, _⟩ := found
    rw [threw] at returned
    cases returned
  have kept := (obeyed.text rfl).failure failed
  rw [lost] at kept
  exact absurd kept (by decide)

/-- Without exceptions in the driver the same call obeys the protocol. -/
theorem auto_reset_iff_selecting :
    selecting.query.templateDefaults.processing = false ∧
      ExecutionCall.Obeys (answeringDriver [idField] ⟨false⟩) selecting (.store .noArgs) := by
  have reports := answeringDriver_reports [idField] ⟨false⟩
  refine ⟨rfl, (auto_reset_iff reports rfl (.store .noArgs)).mpr ?_⟩
  intro found
  obtain ⟨_, _, threw⟩ := found
  cases (answeringDriver_rowsThrow_iff ⟨false⟩ _ _).mp threw

end LibTabula
