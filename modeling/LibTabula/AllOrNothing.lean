/-
Insertions in a transaction.

The server keeps a ledger: a statement that it executes takes effect at once, or with
the transaction that is open. An insertion whose transaction was started, and rolled back
if it gives up, leaves all of its rows in effect or none. Without exceptions the access
controller does not notice that nothing was started, or that nothing was rolled back.
-/

import LibTabula.Foundation.Ledger
import LibTabula.InsertFrom
import LibTabula.TransactionRuns

set_option autoImplicit false

namespace LibTabula

open Foundation

/-- What a statement does to the server's ledger. -/
def Statement.entry (self : Statement) : Option (LedgerEntry Bytes) :=
  if self.sent.ok then
    match self.party with
    | .client => some (.write self.sent.text)
    | .controller =>
        if self.isStart then some .start
        else if self.isCommit then some .commit
        else if self.isRollback then some .rollback
        else none
  else none

def ledger (statements : List Statement) : Ledger Bytes :=
  Ledger.after (statements.filterMap Statement.entry)

/-- The texts of the client that are in effect in the end. -/
def inEffect (statements : List Statement) : List Bytes := (ledger statements).kept

/-- The texts of a transaction that is still open. They are lost with the connection, or take
effect when the next transaction starts. -/
def leftOpen (statements : List Statement) : List Bytes := (ledger statements).pending.getD []

section Entries

variable {ρ : Type} (rows : SSQLS ρ) (verb : Bytes)

def executedTexts (batches : List (List ρ × Bool)) : List Bytes :=
  (batches.filter Prod.snd).map fun batch => statementText rows verb batch.1

theorem entries_batches (batches : List (List ρ × Bool)) :
    (batches.map (batchStatement rows verb)).filterMap Statement.entry =
      (executedTexts rows verb batches).map LedgerEntry.write := by
  induction batches with
  | nil => rfl
  | cons batch rest ih =>
      obtain ⟨items, ok⟩ := batch
      cases ok with
      | true =>
          rw [List.map_cons, List.filterMap_cons]
          simp only [batchStatement, Statement.entry, if_true, ih]
          rfl
      | false =>
          rw [List.map_cons, List.filterMap_cons]
          simp only [batchStatement, Statement.entry, Bool.false_eq_true, if_false, ih]
          rfl

theorem executedTexts_all {batches : List (List ρ × Bool)}
    (allTaken : ∀ batch ∈ batches, batch.2 = true) :
    executedTexts rows verb batches = (batches.map Prod.fst).map (statementText rows verb) := by
  rw [executedTexts, List.filter_eq_self.mpr allTaken, List.map_map]
  rfl

theorem entry_start (ok : Bool) :
    Statement.entry
        { party := .controller, sent := { text := Transaction.startText false, ok := ok } } =
      if ok then some .start else none := by
  cases ok <;> rfl

end Entries

/-! ### How an insertion ends -/

section Endings

variable {δ ρ π : Type} (driver : DBDriver δ) (te : Bool)

open Transaction

def lastOp (success : Bool) : ClientOp := if success then .commit else .rollback

theorem afterCall_finish (call : ControllerCall) (text : Bytes) (self : Transaction)
    (after : Insertion δ ρ π) :
    Insertion.afterCall call (finish driver te text) (self, after) =
      ({ finished := self.finished || ((driver.execute text after.traffic.state).1 || !te) },
        { after with
          traffic :=
            after.traffic.after .controller (after.traffic.connection.execute driver text).2
          calls := after.calls ++ [call] }) := by
  have finished := finish_final driver te text self after.traffic
  rw [Traffic.onWith, final_onPart] at finished
  obtain ⟨object, traffic⟩ := Prod.mk.inj finished
  rw [Insertion.afterCall, object, traffic]

/-- What the server answers to the last call. -/
def lastAnswer (success : Bool) (after : Insertion δ ρ π) : Bool :=
  (driver.execute (lastOp success).text after.traffic.state).1

/-- What the transaction of an insertion adds to its statements. -/
theorem ending_statements (setup : Setup) (success : Bool) (after : Insertion δ ρ π) :
    ∃ closing,
      (Insertion.destroy (controller driver te setup)
        (Insertion.afterCall (lastCall success)
          (if success then (controller driver te setup).commit
            else (controller driver te setup).rollback)
          ({ finished := false }, after))).traffic.statements =
        after.traffic.statements ++ (lastOp success).sends (lastAnswer driver success after) ::
          if lastAnswer driver success after || !te then []
          else [ClientOp.rollback.sends closing] := by
  let ok := lastAnswer driver success after
  have called : ∃ traffic,
      Insertion.afterCall (lastCall success)
          (if success then (controller driver te setup).commit
            else (controller driver te setup).rollback)
          ({ finished := false }, after) =
        ({ finished := ok || !te },
          { after with traffic := traffic, calls := after.calls ++ [lastCall success] }) ∧
      traffic.statements = after.traffic.statements ++ [(lastOp success).sends ok] := by
    cases success with
    | true =>
        exact ⟨_, afterCall_finish driver te .commit (ascii "COMMIT") { finished := false } after,
          rfl⟩
    | false =>
        exact ⟨_, afterCall_finish driver te .rollback (ascii "ROLLBACK") { finished := false }
          after, rfl⟩
  obtain ⟨traffic, called, statements⟩ := called
  have destroyed := destroy_statements driver te { finished := ok || !te } traffic
  rw [statements, List.append_assoc, List.singleton_append] at destroyed
  rw [called]
  exact ⟨_, destroyed⟩

/-- With exceptions the last call throws if the server refuses it. -/
theorem finishAccess_throws (setup : Setup) (success : Bool) (after : Insertion δ ρ π)
    (refused : ¬ (lastAnswer driver success after || !te) = true) :
    ∃ failure, ((finishAccess (controller driver te setup) success).run
      ({ finished := false }, after)).outcome = .error failure := by
  have thrown : ∀ call text, ¬ ((driver.execute text after.traffic.state).1 || !te) = true →
      ∃ failure, ((Insertion.callController call (finish driver te text)).run
        ({ finished := false }, after)).outcome = .error failure := by
    intro call text notOk
    have ran := finish_run driver te text { finished := false } after.traffic.connection
    have failed := ran.trans (if_neg notOk)
    have called : (Insertion.callController call (finish driver te text)).run
        ({ finished := false }, after) = .error _ _ :=
      run_onPart_of_error _ (run_onPart_of_error _ failed)
    rw [called]
    exact ⟨_, rfl⟩
  cases success with
  | true => exact thrown .commit (ascii "COMMIT") refused
  | false => exact thrown .rollback (ascii "ROLLBACK") refused

theorem thrown_statements (setup : Setup) (after : Insertion δ ρ π) :
    ∃ closing,
      (Insertion.destroy (controller driver te setup)
        ({ finished := false }, after)).traffic.statements =
        after.traffic.statements ++ [ClientOp.rollback.sends closing] := by
  have destroyed := destroy_statements driver te { finished := false } after.traffic
  rw [if_neg Bool.false_ne_true] at destroyed
  exact ⟨_, destroyed⟩

theorem ending_entries (success ok closing : Bool) :
    let tail := (lastOp success).sends ok ::
      if ok || !te then [] else [ClientOp.rollback.sends closing]
    success = true ∧ tail.filterMap Statement.entry = [.commit] ∨
      ∀ entry ∈ tail.filterMap Statement.entry, entry = .rollback := by
  cases success <;> cases ok <;> cases te <;> cases closing <;> decide

end Endings

/-! ### What is in effect -/

section Effects

variable {ρ : Type} (rows : SSQLS ρ) (verb : Bytes)

/-- Nothing, or statements that take all rows in order. -/
def AllOrNone (items : List ρ) (texts : List Bytes) : Prop :=
  texts = [] ∨ ∃ batches : List (List ρ), batches.flatten = items ∧
    texts = batches.map (statementText rows verb)

/-- All rows are in effect or nothing is, also if a transaction that is left open takes
effect later. -/
structure AllOrNothing (items : List ρ) (statements : List Statement) : Prop where
  now : AllOrNone rows verb items (inEffect statements)
  later : AllOrNone rows verb items (inEffect statements ++ leftOpen statements)

theorem AllOrNothing.of_ledger {items : List ρ} {statements : List Statement} {kept : List Bytes}
    (closed : ledger statements = { kept := kept, pending := none })
    (whole : AllOrNone rows verb items kept) : AllOrNothing rows verb items statements := by
  constructor
  · rw [inEffect, closed]
    exact whole
  · rw [inEffect, leftOpen, closed, Option.getD_none, List.append_nil]
    exact whole

def insertionStatements (started : Bool) (batches : List (List ρ × Bool))
    (tail : List Statement) : List Statement :=
  { party := .controller, sent := { text := Transaction.startText false, ok := started } } ::
    (batches.map (batchStatement rows verb) ++ tail)

theorem entries_started (batches : List (List ρ × Bool)) (tail : List Statement) :
    (insertionStatements rows verb true batches tail).filterMap Statement.entry =
      .start :: ((executedTexts rows verb batches).map .write ++
        tail.filterMap Statement.entry) := by
  rw [insertionStatements, List.filterMap_cons, entry_start, if_pos rfl, List.filterMap_append,
    entries_batches]

theorem entries_unstarted (batches : List (List ρ × Bool)) (tail : List Statement) :
    (insertionStatements rows verb false batches tail).filterMap Statement.entry =
      (executedTexts rows verb batches).map .write ++ tail.filterMap Statement.entry := by
  rw [insertionStatements, List.filterMap_cons, entry_start, if_neg Bool.false_ne_true,
    List.filterMap_append, entries_batches]

variable {items : List ρ} {batches : List (List ρ × Bool)} {answers : List (ρ × Bool)}

theorem executedTexts_success (worked : WorkedOff items batches answers true) :
    ∃ groups : List (List ρ), groups.flatten = items ∧
      executedTexts rows verb batches = groups.map (statementText rows verb) :=
  ⟨batches.map Prod.fst, worked.all_items,
    executedTexts_all rows verb (worked.success_iff.mp rfl).1⟩

theorem nothing_of_rollbacks {tail : List Statement}
    (rollbacks : ∀ entry ∈ tail.filterMap Statement.entry, entry = .rollback)
    (some_ : tail.filterMap Statement.entry ≠ []) :
    AllOrNothing rows verb items (insertionStatements rows verb true batches tail) := by
  apply AllOrNothing.of_ledger rows verb  _ (Or.inl rfl)
  rw [ledger, entries_started, Ledger.after_rolledBack _ rollbacks some_]

/-- A work that has succeeded is whole also while its transaction is open. -/
theorem all_of_open (worked : WorkedOff items batches answers true) {tail : List Statement}
    (nothing : tail.filterMap Statement.entry = []) :
    AllOrNothing rows verb items (insertionStatements rows verb true batches tail) := by
  obtain ⟨groups, all, texts⟩ := executedTexts_success rows verb worked
  have isOpen : ledger (insertionStatements rows verb true batches tail) =
      { kept := [], pending := some (executedTexts rows verb batches) } := by
    rw [ledger, entries_started, nothing, Ledger.after_leftOpen]
  constructor
  · rw [inEffect, isOpen]
    exact Or.inl rfl
  · rw [inEffect, leftOpen, isOpen, List.nil_append, Option.getD_some, texts]
    exact Or.inr ⟨groups, all, rfl⟩

/-- A transaction that was started and committed leaves the rows of a work that has
succeeded. -/
theorem all_of_commit (worked : WorkedOff items batches answers true) {tail : List Statement}
    (commits : tail.filterMap Statement.entry = [.commit]) :
    AllOrNothing rows verb items (insertionStatements rows verb true batches tail) := by
  obtain ⟨groups, all, texts⟩ := executedTexts_success rows verb worked
  apply AllOrNothing.of_ledger rows verb _ (Or.inr ⟨groups, all, texts⟩)
  rw [ledger, entries_started, commits, Ledger.after_committed _ (List.forall_mem_nil _)]

theorem executed_of_unstarted {tail : List Statement}
    (finishing : ∀ entry ∈ tail.filterMap Statement.entry, entry = .commit ∨ entry = .rollback) :
    ledger (insertionStatements rows verb false batches tail) =
      { kept := executedTexts rows verb batches, pending := none } := by
  rw [ledger, entries_unstarted, Ledger.after_unprotected _ finishing]

end Effects

/-! ### The insertion as a whole -/

section Insertions

variable {δ ρ π : Type} (rows : SSQLS ρ) (driver : DBDriver δ) (policy : InsertPolicy ρ π)
  (te : Bool) (verb : Bytes)

open Transaction

def Insertion.starts (driver : DBDriver δ) (self : Insertion δ ρ π) : Bool :=
  (driver.execute (startText false) self.traffic.state).1

/-- What an insertion that has been worked off leaves. -/
structure LeftBy (items : List ρ) (before : Insertion δ ρ π)
    (result : EStateM.Result Failure (Insertion δ ρ π) Unit) (batches : List (List ρ × Bool))
    (answers : List (ρ × Bool)) (success : Bool) (tail : List Statement) : Prop where
  worked : WorkedOff items batches answers success
  statements : result.final.traffic.statements = before.traffic.statements ++
    insertionStatements rows verb (before.starts driver) batches tail
  answers : result.final.answers = before.answers ++ answers
  copacetic : (∃ batch ∈ batches, batch.2 = false) → result.final.query.copacetic = false
  ending : success = true ∧ tail.filterMap Statement.entry = [.commit] ∨
    ∀ entry ∈ tail.filterMap Statement.entry, entry = .rollback
  throws : success = false → before.query.throwExceptions = true →
    ∃ failure, result.outcome = .error failure
  undoes : success = false → (∃ failure, result.outcome = .error failure) ∨
    ∃ ok, (te = true → ok = true) ∧ tail = [ClientOp.rollback.sends ok]

theorem insertRows_left {items : List ρ} (some : items ≠ []) (self : Insertion δ ρ π)
    (constructed : (self.starts driver || !te) = true) :
    ∃ batches answers success tail,
      LeftBy rows driver te verb items self
        ((insertRows rows driver policy (controller driver te (.simple false)) verb items).run self)
        batches answers success tail := by
  have ran := construct_simple_run driver te false self.traffic.connection
  have constructing : (controller driver te (.simple false)).construct.run self.traffic.connection =
      .ok { finished := false }
        (self.traffic.connection.execute driver (startText false)).2 :=
    ran.trans (if_pos constructed)
  have begunPlain : (self.begun (self.traffic.connection.execute driver (startText false)).2
      ).query.parseElems = [] := rfl
  obtain ⟨batches, answers, success, after, worked, progress, copacetic, ended⟩ :=
    insertBlock_run rows verb driver policy (controller driver te (.simple false)) some
      { finished := false } begunPlain rfl
  have statements : after.traffic.statements = self.traffic.statements ++
      { party := .controller, sent := { text := startText false, ok := self.starts driver } } ::
        batches.map (batchStatement rows verb) := by
    rw [progress.statements, ← List.singleton_append, ← List.append_assoc]
    rfl
  rw [insertRows_constructed rows verb some constructing]
  rcases ended with ⟨throws, failed, failure, thrown⟩ | ⟨quiet, finished⟩
  · obtain ⟨closing, closed⟩ := thrown_statements driver te (.simple false) after
    have outcome : ((Insertion.withController (controller driver te (.simple false))
        { finished := false } (insertBlock rows driver policy
          (controller driver te (.simple false)) verb items)).run (self.begun
            (self.traffic.connection.execute driver (startText false)).2)).outcome =
        .error failure := by
      rw [withController_outcome, thrown]
      rfl
    refine ⟨batches, answers, success, [ClientOp.rollback.sends closing], worked, ?_, ?_, ?_, ?_,
      fun _ _ => ⟨failure, outcome⟩, fun _ => Or.inl ⟨failure, outcome⟩⟩
    · rw [withController_final, thrown]
      exact closed.trans (by rw [statements, insertionStatements]; simp)
    · rw [withController_final, thrown]
      exact progress.answers
    · rw [withController_final, thrown]
      exact copacetic
    · refine Or.inr ?_
      cases closing <;> decide
  · obtain ⟨closing, closed⟩ := ending_statements driver te (.simple false) success after
    refine ⟨batches, answers, success, _, worked, ?_, ?_, ?_,
      ending_entries te success (lastAnswer driver success after) closing, ?_, ?_⟩
    · rw [withController_final, finished, finishAccess_final]
      exact closed.trans (by rw [statements, insertionStatements]; simp)
    · rw [withController_final, finished, finishAccess_final]
      exact progress.answers
    · rw [withController_final, finished, finishAccess_final]
      exact copacetic
    · intro failed throws
      rcases quiet with succeeded | silent
      · rw [failed] at succeeded
        cases succeeded
      · have flag : self.query.throwExceptions = false := silent
        rw [throws] at flag
        cases flag
    · intro failed
      by_cases goesOn : (lastAnswer driver success after || !te) = true
      · refine Or.inr ⟨lastAnswer driver success after, ?_, ?_⟩
        · intro throws
          rw [throws, Bool.not_true, Bool.or_false] at goesOn
          exact goesOn
        · rw [if_pos goesOn, failed]
          rfl
      · obtain ⟨failure, thrown⟩ :=
          finishAccess_throws driver te (.simple false) success after goesOn
        refine Or.inl ⟨failure, ?_⟩
        rw [withController_outcome, finished]
        exact thrown

/-- Nothing was thrown, and the query is in order. -/
def NoError (result : EStateM.Result Failure (Insertion δ ρ π) Unit) : Prop :=
  result.outcome = .ok () ∧ result.final.query.copacetic = true

/-- The last two answers of the policy refuse one row. -/
def GivesUp (answers : List (ρ × Bool)) : Prop :=
  ∃ earlier it, answers = earlier ++ [(it, false), (it, false)]

/-- The server has executed the ROLLBACK that comes last. -/
def RolledBack (result : EStateM.Result Failure (Insertion δ ρ π) Unit) : Prop :=
  ∃ earlier, result.final.traffic.statements = earlier ++ [ClientOp.rollback.sends true]

/-- Somebody would notice that a transaction was not started or not rolled back: exceptions
are enabled on the connection or on the query, or there is nothing to notice, since the
policy does not give up, or both have been done. -/
def Guarded (te : Bool) (self : Insertion δ ρ π)
    (result : EStateM.Result Failure (Insertion δ ρ π) Unit) : Prop :=
  te = true ∨ self.query.throwExceptions = true ∨ ¬ GivesUp result.final.answers ∨
    self.starts driver = true ∧ RolledBack result

variable {rows driver policy te verb}

/-- Where the policy gives up and nothing is reported, exceptions are disabled and only the
end of the transaction is left to look at. -/
theorem LeftBy.quietly {items : List ρ} {self : Insertion δ ρ π}
    {result : EStateM.Result Failure (Insertion δ ρ π) Unit} {batches : List (List ρ × Bool)}
    {answers : List (ρ × Bool)} {tail : List Statement}
    (left : LeftBy rows driver te verb items self result batches answers false tail)
    (constructed : (self.starts driver || !te) = true) (guarded : Guarded driver te self result)
    (noError : NoError result) :
    self.starts driver = true ∧ tail = [ClientOp.rollback.sends true] := by
  have noThrow : ¬ ∃ failure, result.outcome = .error failure := by
    intro thrown
    obtain ⟨failure, thrown⟩ := thrown
    rw [noError.1] at thrown
    cases thrown
  -- The policy gave up after every statement so far was executed.
  have allTaken : ∀ batch ∈ batches, batch.2 = true := by
    intro batch member
    by_contra notTaken
    have bad := left.copacetic ⟨batch, member, Bool.eq_false_iff.mpr notTaken⟩
    rw [noError.2] at bad
    cases bad
  obtain ⟨earlier, it, twice⟩ := left.worked.refused_twice allTaken
  obtain ⟨ok, throws, isTail⟩ := (left.undoes rfl).resolve_left noThrow
  rcases guarded with checked | reported | satisfied | ⟨started, rolledBack⟩
  · rw [throws checked] at isTail
    rw [checked, Bool.not_true, Bool.or_false] at constructed
    exact ⟨constructed, isTail⟩
  · exact absurd (left.throws rfl reported) noThrow
  · apply absurd _ satisfied
    refine ⟨self.answers ++ earlier, it, ?_⟩
    rw [left.answers, twice, List.append_assoc]
  · obtain ⟨front, statements⟩ := rolledBack
    have last := left.statements
    rw [statements, isTail, insertionStatements, ← List.cons_append, ← List.append_assoc] at last
    have same := (List.append_inj' last rfl).2
    exact ⟨started, isTail.trans same.symm⟩

theorem LeftBy.allOrNothing {items : List ρ} {self : Insertion δ ρ π}
    {result : EStateM.Result Failure (Insertion δ ρ π) Unit} {batches : List (List ρ × Bool)}
    {answers : List (ρ × Bool)} {success : Bool} {tail : List Statement}
    (left : LeftBy rows driver te verb items self result batches answers success tail)
    (constructed : (self.starts driver || !te) = true) (guarded : Guarded driver te self result)
    (noError : NoError result) :
    AllOrNothing rows verb items
      (insertionStatements rows verb (self.starts driver) batches tail) := by
  cases success with
  | false =>
      obtain ⟨started, isTail⟩ := left.quietly constructed guarded noError
      rw [started, isTail]
      apply nothing_of_rollbacks
      · decide
      · decide
  | true =>
      cases starts : self.starts driver with
      | true =>
          rcases left.ending with ⟨_, commits⟩ | rollbacks
          · exact all_of_commit rows verb left.worked commits
          · by_cases nothing : tail.filterMap Statement.entry = []
            · exact all_of_open rows verb left.worked nothing
            · exact nothing_of_rollbacks rows verb rollbacks nothing
      | false =>
          have finishing : ∀ entry ∈ tail.filterMap Statement.entry,
              entry = .commit ∨ entry = .rollback := by
            intro entry member
            rcases left.ending with ⟨_, commits⟩ | rollbacks
            · rw [commits] at member
              exact Or.inl (List.mem_singleton.mp member)
            · exact Or.inr (rollbacks entry member)
          obtain ⟨groups, all, texts⟩ := executedTexts_success rows verb left.worked
          exact .of_ledger rows verb (executed_of_unstarted rows verb finishing)
            (Or.inr ⟨groups, all, texts⟩)

theorem insertRows_allOrNothing (items : List ρ) (self : Insertion δ ρ π)
    (guarded : Guarded driver te self
      ((insertRows rows driver policy (controller driver te (.simple false)) verb items).run self))
    (noError : NoError
      ((insertRows rows driver policy (controller driver te (.simple false)) verb items).run
        self)) :
    ∃ added,
      ((insertRows rows driver policy (controller driver te (.simple false)) verb items).run
          self).final.traffic.statements = self.traffic.statements ++ added ∧
        AllOrNothing rows verb items added := by
  by_cases none : items = []
  · subst items
    rw [insertRows_nil]
    exact ⟨[], (List.append_nil _).symm, Or.inl rfl, Or.inl rfl⟩
  · by_cases constructed : (self.starts driver || !te) = true
    · obtain ⟨batches, answers, success, tail, left⟩ :=
        insertRows_left rows driver policy te verb none self constructed
      exact ⟨_, left.statements, left.allOrNothing constructed guarded noError⟩
    · have ran := construct_simple_run driver te false self.traffic.connection
      have thrown : (controller driver te (.simple false)).construct.run self.traffic.connection =
          .error _ _ := ran.trans (if_neg constructed)
      have failed := noError.1
      rw [insertRows_refused rows verb none thrown] at failed
      cases failed

end Insertions

/-- A transaction leaves everything settled exactly if exceptions are enabled, or it was
started and no failure of its end goes unnoticed; and an insertion that reports no error
is all or nothing, if it did not go unnoticed either that nothing was started or undone. -/
theorem transaction_settled_insertion_allOrNothing {δ : Type} (driver : DBDriver δ) (te : Bool) :
    (∀ setup ops state,
      Settled (Transaction.lifetime driver te setup ops state) ↔
        Transaction.LeavesSettled driver te setup ops state) ∧
    ∀ (ρ π : Type) (rows : SSQLS ρ) (policy : InsertPolicy ρ π) (items : List ρ)
      (self : Insertion δ ρ π),
      let result := (insertfrom rows driver policy
        (Transaction.controller driver te (.simple false)) items).run self
      Guarded driver te self result → NoError result →
        ∃ added, result.final.traffic.statements = self.traffic.statements ++ added ∧
          AllOrNothing rows (ascii "INSERT") items added :=
  ⟨Transaction.lifetime_settled_iff driver te,
    fun _ _ _ _ items self guarded noError =>
      insertRows_allOrNothing items self guarded noError⟩

/-- Two rows, and one that is too long for the statements that are allowed. -/
def oneTooLong : List Bytes :=
  [ascii "1", ascii "2", ascii "a row too long for the statements that are allowed"]

/-- The insertion of these rows gives up at the last one. -/
def givingUp (driver : DBDriver Unit) :
    EStateM.Result Failure (Insertion Unit Bytes Unit) Unit :=
  (insertfrom singleColumn driver (maxPacketInsertPolicy singleColumn 48)
    (Transaction.controller driver false (.simple false)) oneTooLong).run (beforeInsertion ())

theorem transaction_settled_insertion_allOrNothing_threeRows :
    Settled (Transaction.lifetime acceptingDriver false (.simple false)
        [.statement (ascii "DELETE FROM t"), .commit] ()) ∧
      GivesUp (givingUp acceptingDriver).final.answers ∧
      Guarded acceptingDriver false (beforeInsertion ()) (givingUp acceptingDriver) ∧
      NoError (givingUp acceptingDriver) ∧
      ∃ added, (givingUp acceptingDriver).final.traffic.statements =
          (beforeInsertion ()).traffic.statements ++ added ∧
        AllOrNothing singleColumn (ascii "INSERT") oneTooLong added := by
  obtain ⟨settled_iff, insertion⟩ :=
    transaction_settled_insertion_allOrNothing acceptingDriver false
  constructor
  · refine (settled_iff _ _ _).mpr (Or.inr ⟨(), rfl, Or.inr (Or.inl ?_)⟩)
    exact ⟨(.commit, true), List.mem_cons_of_mem _ List.mem_cons_self, rfl, rfl⟩
  · have givesUp : GivesUp (givingUp acceptingDriver).final.answers :=
      ⟨(givingUp acceptingDriver).final.answers.take 2,
        ascii "a row too long for the statements that are allowed", by decide +kernel⟩
    have rolledBack : RolledBack (givingUp acceptingDriver) :=
      ⟨(givingUp acceptingDriver).final.traffic.statements.dropLast, by decide +kernel⟩
    have guarded : Guarded acceptingDriver false (beforeInsertion ()) (givingUp acceptingDriver) :=
      Or.inr (Or.inr (Or.inr ⟨rfl, rolledBack⟩))
    have noError : NoError (givingUp acceptingDriver) := ⟨by decide +kernel, by decide +kernel⟩
    refine ⟨givesUp, guarded, noError, ?_⟩
    unfold givingUp
    exact insertion _ _ _ _ _ _ guarded noError

/-- A server that executes everything but one text. -/
def refusing (refused : Bytes) : DBDriver Unit where
  execute text state := (text ≠ refused, state)
  storeResult := acceptingDriver.storeResult
  storeRows := acceptingDriver.storeRows
  useResult := acceptingDriver.useResult
  fetchRows := acceptingDriver.fetchRows
  resultEmpty := acceptingDriver.resultEmpty
  errnum _ := 1317
  error _ := ascii "Query execution was interrupted"
  insertId := acceptingDriver.insertId
  affectedRows := acceptingDriver.affectedRows
  escapeString := acceptingDriver.escapeString

/-- Two rows of three are left. -/
theorem not_allOrNothing_of_two {statements : List Statement}
    (left : inEffect statements ++ leftOpen statements =
      [statementText singleColumn (ascii "INSERT") [ascii "1", ascii "2"]]) :
    ¬ AllOrNothing singleColumn (ascii "INSERT") oneTooLong statements := by
  intro allOrNothing
  rcases allOrNothing.later with nothing | ⟨batches, all, texts⟩
  · rw [left] at nothing
    cases nothing
  · rw [left] at texts
    obtain ⟨batch, single, same⟩ := List.map_eq_singleton_iff.mp texts.symm
    rw [single, List.flatten_singleton] at all
    rw [all] at same
    exact absurd same (by decide)

/-- Without exceptions the destructor rolls back what was not started, and an insertion
that gives up at its last row leaves the first two: in effect if nothing was started, and
in an open transaction if it cannot be rolled back. -/
theorem refusedStart_unsettled_partly :
    let unstarted := refusing (Transaction.startText false)
    let unfinished := refusing (ascii "ROLLBACK")
    ¬ Settled (Transaction.lifetime unstarted false (.simple false) [] ()) ∧
      (NoError (givingUp unstarted) ∧ ¬ AllOrNothing singleColumn (ascii "INSERT") oneTooLong
        (givingUp unstarted).final.traffic.statements) ∧
      NoError (givingUp unfinished) ∧ ¬ AllOrNothing singleColumn (ascii "INSERT") oneTooLong
        (givingUp unfinished).final.traffic.statements := by
  intro unstarted unfinished
  refine ⟨?_, ⟨⟨by decide +kernel, by decide +kernel⟩, ?_⟩,
    ⟨by decide +kernel, by decide +kernel⟩, ?_⟩
  · have notStarted : sinceStart
        (Transaction.lifetime unstarted false (.simple false) [] ()) = none := by decide
    rw [Settled, notStarted]
    intro none
    have sent := none (ClientOp.rollback.sends true) (by decide)
    exact absurd sent.2 (by decide)
  · exact not_allOrNothing_of_two (by decide +kernel)
  · exact not_allOrNothing_of_two (by decide +kernel)

end LibTabula
