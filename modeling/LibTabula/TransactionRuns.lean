/-
Runs of a transaction.

A client creates a transaction, sends statements of its own over the connection,
calls `commit` and `rollback` as it likes, catches what they throw and in the end
destroys the object. What the server answers to each text decides, together with the
connection's flag, whether the object leaves the server's transaction settled.
-/

import LibTabula.Transaction

set_option autoImplicit false

namespace LibTabula

open Foundation

/-! ### Statements of a transaction -/

namespace Statement

def isStart (self : Statement) : Bool :=
  self.party = .controller &&
    (self.sent.text = Transaction.startText false || self.sent.text = Transaction.startText true)

def isCommit (self : Statement) : Bool :=
  self.party = .controller && self.sent.text = ascii "COMMIT"

def isRollback (self : Statement) : Bool :=
  self.party = .controller && self.sent.text = ascii "ROLLBACK"

def ends (self : Statement) : Bool := (self.isCommit || self.isRollback) && self.sent.ok

end Statement

/-- The statements after the one that has started a transaction. -/
def sinceStart : List Statement → Option (List Statement)
  | [] => none
  | statement :: rest =>
      if statement.isStart && statement.sent.ok then some rest else sinceStart rest

/-- The statements up to the end of the transaction. -/
def withinTransaction : List Statement → List Statement
  | [] => []
  | statement :: rest =>
      if statement.ends then [statement] else statement :: withinTransaction rest

/-- A ROLLBACK was sent after the last other statement. -/
def RolledBackLast (statements : List Statement) : Prop :=
  ∃ before rollback after, statements = before ++ rollback :: after ∧
    rollback.isRollback = true ∧
    ∀ other ∈ after, other.isCommit = true ∨ other.isRollback = true

/-- A transaction that was started has been committed, or a ROLLBACK was sent after its
last statement. Without one neither COMMIT nor ROLLBACK was sent. -/
def Settled (statements : List Statement) : Prop :=
  match sinceStart statements with
  | some rest =>
      (∃ statement ∈ rest, statement.isCommit = true ∧ statement.sent.ok = true) ∨
        RolledBackLast (withinTransaction rest)
  | none =>
      ∀ statement ∈ statements, statement.isCommit = false ∧ statement.isRollback = false

/-! ### Clients -/

/-- What a client does between creating and destroying a transaction. -/
inductive ClientOp
  | statement (text : Bytes)
  | commit
  | rollback
deriving DecidableEq, Repr

namespace ClientOp

def text : ClientOp → Bytes
  | statement text => text
  | commit => ascii "COMMIT"
  | rollback => ascii "ROLLBACK"

def finishes : ClientOp → Bool
  | statement _ => false
  | _ => true

def sends (self : ClientOp) (ok : Bool) : Statement :=
  { party := if self.finishes then .controller else .client
    sent := { text := self.text, ok := ok } }

variable {δ : Type} (driver : DBDriver δ) (te : Bool)

/-- An operation of a client who catches exceptions. -/
def step (self : Transaction × Traffic δ) : ClientOp → Transaction × Traffic δ
  | statement text =>
      (self.1, self.2.after .client (self.2.connection.execute driver text).2)
  | commit => ((Traffic.onWith .controller (Transaction.commit driver te)).run self).final
  | rollback => ((Traffic.onWith .controller (Transaction.rollback driver te)).run self).final

end ClientOp

/-- What is sent from the creation of a transaction to its end. A constructor that
throws leaves no object. -/
def Transaction.lifetime {δ : Type} (driver : DBDriver δ) (te : Bool) (setup : Setup)
    (ops : List ClientOp) (state : δ) : List Statement :=
  match (Traffic.on .controller (construct driver te setup)).run
      { state := state, statements := [] } with
  | .error _ traffic => traffic.statements
  | .ok self traffic =>
      let (self, traffic) := ops.foldl (ClientOp.step driver te) (self, traffic)
      (traffic.after .controller (destroy driver te (self, traffic.connection))).statements

/-! ### The server's answers -/

section Answers

variable {δ : Type} (driver : DBDriver δ)

def answers : δ → List ClientOp → List (ClientOp × Bool)
  | _, [] => []
  | state, op :: rest =>
      (op, (driver.execute op.text state).1) :: answers (driver.execute op.text state).2 rest

def stateAfter (state : δ) (ops : List ClientOp) : δ :=
  ops.foldl (fun state op => (driver.execute op.text state).2) state

def executesAll : List Bytes → δ → Option δ
  | [], state => some state
  | text :: rest, state =>
      if (driver.execute text state).1 then executesAll rest (driver.execute text state).2
      else none

end Answers

/-- The texts that a constructor is meant to send. -/
def Transaction.Setup.texts : Transaction.Setup → List Bytes
  | .simple consistent => [startText consistent]
  | .isolated level scope consistent => [isolationText level scope, startText consistent]

section Runs

variable {δ : Type} (driver : DBDriver δ) (te : Bool)

open Transaction

theorem finish_final (text : Bytes) (self : Transaction) (traffic : Traffic δ) :
    ((Traffic.onWith .controller (finish driver te text)).run (self, traffic)).final =
      ({ finished := self.finished || ((driver.execute text traffic.state).1 || !te) },
        traffic.after .controller (traffic.connection.execute driver text).2) := by
  have answer : (traffic.connection.execute driver text).1 =
      (driver.execute text traffic.state).1 := rfl
  rw [Traffic.onWith, final_onPart, finish_run, answer]
  by_cases goesOn : ((driver.execute text traffic.state).1 || !te) = true
  · rw [if_pos goesOn, goesOn, Bool.or_true]
    rfl
  · rw [if_neg goesOn, Bool.eq_false_iff.mpr goesOn, Bool.or_false]
    rfl

theorem ClientOp.step_eq (op : ClientOp) (self : Transaction) (traffic : Traffic δ) :
    op.step driver te (self, traffic) =
      ({ finished := self.finished ||
          op.finishes && ((driver.execute op.text traffic.state).1 || !te) },
        { state := (driver.execute op.text traffic.state).2
          statements := traffic.statements ++
            [op.sends (driver.execute op.text traffic.state).1] }) := by
  cases op with
  | statement text =>
      simp only [step, finishes, Bool.false_and, Bool.or_false]
      rfl
  | commit => exact finish_final driver te (ascii "COMMIT") self traffic
  | rollback => exact finish_final driver te (ascii "ROLLBACK") self traffic

/-- Whether one of these operations has finished the transaction for the object. -/
def finishing (te : Bool) (answered : List (ClientOp × Bool)) : Bool :=
  answered.any fun answer => answer.1.finishes && (answer.2 || !te)

theorem foldl_step (ops : List ClientOp) (self : Transaction) (traffic : Traffic δ) :
    ops.foldl (ClientOp.step driver te) (self, traffic) =
      ({ finished := self.finished || finishing te (answers driver traffic.state ops) },
        { state := stateAfter driver traffic.state ops
          statements := traffic.statements ++
            (answers driver traffic.state ops).map fun answer => answer.1.sends answer.2 }) := by
  induction ops generalizing self traffic with
  | nil => simp [answers, finishing, stateAfter]
  | cons op rest ih =>
      rw [List.foldl_cons, ClientOp.step_eq, ih]
      simp only [answers, finishing, stateAfter, List.any_cons, List.map_cons, List.foldl_cons,
        Bool.or_assoc, List.append_assoc, List.singleton_append]

theorem destroy_statements (self : Transaction) (traffic : Traffic δ) :
    (traffic.after .controller (destroy driver te (self, traffic.connection))).statements =
      traffic.statements ++
        if self.finished then []
        else [ClientOp.rollback.sends (driver.execute (ascii "ROLLBACK") traffic.state).1] := by
  cases finished : self.finished with
  | true => simp [destroy, finished, Traffic.after, Traffic.connection]
  | false =>
      have rolledBack := finish_final driver te (ascii "ROLLBACK") self traffic
      rw [Traffic.onWith, final_onPart] at rolledBack
      have traffics := congrArg Prod.snd rolledBack
      simp only at traffics
      simp only [destroy, finished, Bool.false_eq_true, if_false, rollback]
      rw [traffics]
      rfl

end Runs

/-! ### Constructors -/

section Constructors

variable {δ : Type} (driver : DBDriver δ) (te : Bool)

open Transaction

/-- Nothing here has started a transaction or was meant to end one. -/
def Unstarted (statements : List Statement) : Prop :=
  ∀ statement ∈ statements,
    (statement.isStart && statement.sent.ok) = false ∧ statement.isCommit = false ∧
      statement.isRollback = false

theorem startText_isStart (consistent ok : Bool) :
    ({ party := .controller, sent := { text := startText consistent, ok := ok } } :
      Statement).isStart = true := by
  cases consistent <;> rfl

theorem isStart_not_finishing {statement : Statement} (start : statement.isStart = true) :
    statement.isCommit = false ∧ statement.isRollback = false := by
  simp only [Statement.isStart, Bool.and_eq_true, Bool.or_eq_true, decide_eq_true_eq] at start
  simp only [Statement.isCommit, Statement.isRollback]
  rcases start.2 with plain | consistent
  · rw [plain]
    cases statement.party <;> exact ⟨by decide, by decide⟩
  · rw [consistent]
    cases statement.party <;> exact ⟨by decide, by decide⟩

theorem set_is_nothing {text : Bytes} (set : text.take 2 = ascii "SE") (party : Party) (ok : Bool) :
    let statement : Statement := { party := party, sent := { text := text, ok := ok } }
    statement.isStart = false ∧ statement.isCommit = false ∧ statement.isRollback = false := by
  have other : ∀ command : Bytes, command.take 2 ≠ ascii "SE" → text ≠ command := by
    intro command differs same
    rw [same] at set
    exact differs set
  simp only [Statement.isStart, Statement.isCommit, Statement.isRollback,
    other (startText false) (by decide), other (startText true) (by decide),
    other (ascii "COMMIT") (by decide), other (ascii "ROLLBACK") (by decide), decide_false,
    Bool.or_false, Bool.and_false, and_self]

theorem isolationText_set (level : IsolationLevel) (scope : IsolationScope) :
    (isolationText level scope).take 2 = ascii "SE" :=
  rfl

theorem construct_simple_traffic (consistent : Bool) (state : δ) :
    ∃ failure, (Traffic.on .controller (construct driver te (.simple consistent))).run
        { state := state, statements := [] } =
      let answer := driver.execute (startText consistent) state
      let traffic : Traffic δ :=
        { state := answer.2
          statements :=
            [{ party := .controller, sent := { text := startText consistent, ok := answer.1 } }] }
      if answer.1 || !te then .ok { finished := false } traffic else .error failure traffic := by
  have ran := construct_simple_run driver te consistent
    (Traffic.connection { state := state, statements := [] })
  refine ⟨refusal driver (Traffic.connection { state := state, statements := [] })
    (startText consistent), ?_⟩
  by_cases goesOn : ((driver.execute (startText consistent) state).1 || !te) = true
  · simp only [if_pos goesOn]
    exact run_onPart_of_ok _ (ran.trans (if_pos goesOn))
  · simp only [if_neg goesOn]
    exact run_onPart_of_error _ (ran.trans (if_neg goesOn))

theorem construct_isolated_traffic (level : IsolationLevel) (scope : IsolationScope)
    (consistent : Bool) (state : δ) :
    ∃ failure, (Traffic.on .controller
          (construct driver te (.isolated level scope consistent))).run
        { state := state, statements := [] } =
      let first := driver.execute (isolationText level scope) state
      let text := isolatedStartText level scope consistent first.1
      let second := driver.execute text first.2
      let set : Statement :=
        { party := .controller, sent := { text := isolationText level scope, ok := first.1 } }
      let start : Statement :=
        { party := .controller, sent := { text := text, ok := second.1 } }
      if first.1 || !te then
        if second.1 || !te then
          .ok { finished := false } { state := second.2, statements := [set, start] }
        else .error failure { state := second.2, statements := [set, start] }
      else .error failure { state := first.2, statements := [set] } := by
  have ran := construct_isolated_run driver te level scope consistent
    (Traffic.connection { state := state, statements := [] })
  by_cases first : ((driver.execute (isolationText level scope) state).1 || !te) = true
  · simp only [if_pos first]
    have reached := ran.trans (if_pos first)
    by_cases second : ((driver.execute (isolatedStartText level scope consistent
        (driver.execute (isolationText level scope) state).1)
        (driver.execute (isolationText level scope) state).2).1 || !te) = true
    · simp only [if_pos second]
      exact ⟨.nullPointer, run_onPart_of_ok _ (reached.trans (if_pos second))⟩
    · simp only [if_neg second]
      exact ⟨_, run_onPart_of_error _ (reached.trans (if_neg second))⟩
  · simp only [if_neg first]
    exact ⟨_, run_onPart_of_error _ (ran.trans (if_neg first))⟩

theorem construct_started {setup : Setup} {state after : δ}
    (all : executesAll driver setup.texts state = some after) :
    (Traffic.on .controller (construct driver te setup)).run
        { state := state, statements := [] } =
      .ok { finished := false }
        { state := after
          statements := setup.texts.map fun text =>
            { party := .controller, sent := { text := text, ok := true } } } := by
  cases setup with
  | simple consistent =>
      obtain ⟨failure, ran⟩ := construct_simple_traffic driver te consistent state
      simp only [Setup.texts, executesAll] at all
      by_cases ok : (driver.execute (startText consistent) state).1 = true
      · rw [if_pos ok, Option.some.injEq] at all
        simp only [ok, Bool.true_or, if_true, all] at ran
        exact ran
      · rw [if_neg ok] at all
        cases all
  | isolated level scope consistent =>
      obtain ⟨failure, ran⟩ := construct_isolated_traffic driver te level scope consistent state
      simp only [Setup.texts, executesAll] at all
      by_cases set : (driver.execute (isolationText level scope) state).1 = true
      · rw [if_pos set] at all
        by_cases ok : (driver.execute (startText consistent)
            (driver.execute (isolationText level scope) state).2).1 = true
        · rw [if_pos ok, Option.some.injEq] at all
          simp only [set, isolatedStartText, if_true, List.nil_append, ok, Bool.true_or, all] at ran
          exact ran
        · rw [if_neg ok] at all
          cases all
      · rw [if_neg set] at all
        cases all

theorem unstarted_refused {text : Bytes}
    (start : ({ party := .controller, sent := { text := text, ok := false } } : Statement).isStart =
      true) :
    Unstarted [{ party := .controller, sent := { text := text, ok := false } }] := by
  intro statement member
  rw [List.mem_singleton.mp member]
  exact ⟨Bool.and_false _, isStart_not_finishing start⟩

theorem unstarted_set {text : Bytes} (set : text.take 2 = ascii "SE") (party : Party) (ok : Bool) :
    Unstarted [{ party := party, sent := { text := text, ok := ok } }] := by
  intro statement member
  rw [List.mem_singleton.mp member]
  obtain ⟨notStart, notFinishing⟩ := set_is_nothing set party ok
  exact ⟨by rw [notStart, Bool.false_and], notFinishing⟩

theorem Unstarted.append {front back : List Statement} (first : Unstarted front)
    (second : Unstarted back) : Unstarted (front ++ back) := by
  intro statement member
  rcases List.mem_append.mp member with inFront | inBack
  · exact first statement inFront
  · exact second statement inBack

theorem construct_unstarted {setup : Setup} {state : δ}
    (failed : executesAll driver setup.texts state = none) :
    ∃ traffic : Traffic δ,
      (if te then
        ∃ failure, (Traffic.on .controller (construct driver te setup)).run
          { state := state, statements := [] } = .error failure traffic
      else
        (Traffic.on .controller (construct driver te setup)).run
          { state := state, statements := [] } = .ok { finished := false } traffic) ∧
      Unstarted traffic.statements := by
  cases setup with
  | simple consistent =>
      obtain ⟨failure, ran⟩ := construct_simple_traffic driver te consistent state
      simp only [Setup.texts, executesAll] at failed
      by_cases ok : (driver.execute (startText consistent) state).1 = true
      · rw [if_pos ok] at failed
        cases failed
      · have refused := Bool.eq_false_iff.mpr ok
        have nothing := unstarted_refused (startText_isStart consistent false)
        simp only [refused, Bool.false_or] at ran
        cases te with
        | true => exact ⟨_, ⟨failure, ran⟩, nothing⟩
        | false => exact ⟨_, ran, nothing⟩
  | isolated level scope consistent =>
      obtain ⟨failure, ran⟩ := construct_isolated_traffic driver te level scope consistent state
      simp only [Setup.texts, executesAll] at failed
      have setNothing := unstarted_set (isolationText_set level scope) .controller
      by_cases set : (driver.execute (isolationText level scope) state).1 = true
      · rw [if_pos set] at failed
        by_cases ok : (driver.execute (startText consistent)
            (driver.execute (isolationText level scope) state).2).1 = true
        · rw [if_pos ok] at failed
          cases failed
        · have refused := Bool.eq_false_iff.mpr ok
          have nothing := (setNothing true).append
            (unstarted_refused (startText_isStart consistent false))
          simp only [set, isolatedStartText, if_true, List.nil_append, refused, Bool.true_or,
            Bool.false_or] at ran
          cases te with
          | true => exact ⟨_, ⟨failure, ran⟩, nothing⟩
          | false => exact ⟨_, ran, nothing⟩
      · have refused := Bool.eq_false_iff.mpr set
        simp only [refused, Bool.false_or] at ran
        cases te with
        | true => exact ⟨_, ⟨failure, ran⟩, setNothing false⟩
        | false =>
            -- The text that was refused is still there, and the other is put behind it.
            have behind : (isolatedStartText level scope consistent false).take 2 =
              ascii "SE" := rfl
            simp only [Bool.not_false, Bool.or_true, if_true] at ran
            exact ⟨_, ran, (setNothing false).append (unstarted_set behind .controller _)⟩

end Constructors

/-! ### What is settled -/

theorem sinceStart_unstarted {front : List Statement} (unstarted : Unstarted front)
    (back : List Statement) : sinceStart (front ++ back) = sinceStart back := by
  induction front with
  | nil => rfl
  | cons statement rest ih =>
      obtain ⟨notStart, _finishing⟩ := unstarted statement List.mem_cons_self
      rw [List.cons_append, sinceStart, notStart, if_neg Bool.false_ne_true]
      exact ih fun other member => unstarted other (List.mem_cons_of_mem statement member)

theorem sinceStart_none {statements : List Statement}
    (noStart : ∀ statement ∈ statements, statement.isStart = false) :
    sinceStart statements = none := by
  induction statements with
  | nil => rfl
  | cons statement rest ih =>
      rw [sinceStart, noStart statement List.mem_cons_self, Bool.false_and,
        if_neg Bool.false_ne_true]
      exact ih fun other member => noStart other (List.mem_cons_of_mem statement member)

theorem sinceStart_texts (setup : Transaction.Setup) (rest : List Statement) :
    sinceStart (setup.texts.map (fun text : Bytes =>
      ({ party := .controller, sent := { text := text, ok := true } } : Statement)) ++ rest) =
        some rest := by
  cases setup with
  | simple consistent =>
      simp only [Transaction.Setup.texts, List.map_cons, List.map_nil, List.cons_append,
        List.nil_append, sinceStart, startText_isStart, Bool.and_self, if_true]
  | isolated level scope consistent =>
      obtain ⟨notStart, _finishing⟩ :=
        set_is_nothing (isolationText_set level scope) .controller true
      simp only [Transaction.Setup.texts, List.map_cons, List.map_nil, List.cons_append,
        List.nil_append, sinceStart, notStart, Bool.false_and, Bool.false_eq_true, if_false,
        startText_isStart, Bool.and_self, if_true]

theorem withinTransaction_open {front : List Statement}
    (goesOn : ∀ statement ∈ front, statement.ends = false) (back : List Statement) :
    withinTransaction (front ++ back) = front ++ withinTransaction back := by
  induction front with
  | nil => rfl
  | cons statement rest ih =>
      have here := goesOn statement List.mem_cons_self
      rw [List.cons_append, withinTransaction, here, if_neg Bool.false_ne_true, List.cons_append,
        ih fun other member => goesOn other (List.mem_cons_of_mem statement member)]

theorem withinTransaction_single (statement : Statement) :
    withinTransaction [statement] = [statement] := by
  rw [withinTransaction]
  split_ifs <;> rfl

theorem withinTransaction_ended {front : List Statement}
    (ended : ∃ statement ∈ front, statement.ends = true) (back : List Statement) :
    ∃ before last, withinTransaction (front ++ back) = before ++ [last] ∧ last ∈ front ∧
      last.ends = true := by
  induction front with
  | nil =>
      obtain ⟨statement, impossible, _ends⟩ := ended
      cases impossible
  | cons statement rest ih =>
      cases here : statement.ends with
      | true =>
          refine ⟨[], statement, ?_, List.mem_cons_self, here⟩
          rw [List.cons_append, withinTransaction, here, if_pos rfl, List.nil_append]
      | false =>
          have later : ∃ other ∈ rest, other.ends = true := by
            obtain ⟨other, member, ends⟩ := ended
            rcases List.mem_cons.mp member with same | inRest
            · rw [same, here] at ends
              cases ends
            · exact ⟨other, inRest, ends⟩
          obtain ⟨before, last, within, member, ends⟩ := ih later
          refine ⟨statement :: before, last, ?_, List.mem_cons_of_mem statement member, ends⟩
          rw [List.cons_append, withinTransaction, here, if_neg Bool.false_ne_true, within,
            List.cons_append]

theorem settled_of_ended {front : List Statement}
    (ended : ∃ statement ∈ front, statement.ends = true) (back : List Statement) :
    (∃ statement ∈ front ++ back, statement.isCommit = true ∧ statement.sent.ok = true) ∨
      RolledBackLast (withinTransaction (front ++ back)) := by
  obtain ⟨before, last, within, member, ends⟩ := withinTransaction_ended ended back
  simp only [Statement.ends, Bool.and_eq_true, Bool.or_eq_true] at ends
  rcases ends.1 with commit | rollback
  · exact Or.inl ⟨last, List.mem_append_left back member, commit, ends.2⟩
  · refine Or.inr ⟨before, last, [], within, rollback, ?_⟩
    intro other impossible
    cases impossible

namespace ClientOp

theorem sends_isStart (op : ClientOp) (ok : Bool) : (op.sends ok).isStart = false := by
  cases op with
  | statement text => rfl
  | commit => rfl
  | rollback => rfl

theorem sends_isCommit (op : ClientOp) (ok : Bool) :
    (op.sends ok).isCommit = true ↔ op = commit := by
  cases op with
  | statement text => exact iff_of_false Bool.false_ne_true (by simp)
  | commit => exact iff_of_true rfl rfl
  | rollback => exact iff_of_false Bool.false_ne_true (by simp)

theorem sends_isRollback (op : ClientOp) (ok : Bool) :
    (op.sends ok).isRollback = true ↔ op = rollback := by
  cases op with
  | statement text => exact iff_of_false Bool.false_ne_true (by simp)
  | commit => exact iff_of_false Bool.false_ne_true (by simp)
  | rollback => exact iff_of_true rfl rfl

theorem finishes_iff (op : ClientOp) : op.finishes = true ↔ op = commit ∨ op = rollback := by
  cases op <;> simp [finishes]

theorem sends_ends (op : ClientOp) (ok : Bool) :
    (op.sends ok).ends = true ↔ op.finishes = true ∧ ok = true := by
  rw [Statement.ends, Bool.and_eq_true, Bool.or_eq_true, sends_isCommit, sends_isRollback,
    finishes_iff]
  rfl

/-- The last statement of the client comes before a call of `rollback`. -/
def RollsBackLast (ops : List ClientOp) : Prop :=
  ∃ before after, ops = before ++ rollback :: after ∧ ∀ op ∈ after, op.finishes = true

end ClientOp

theorem answers_fst {δ : Type} (driver : DBDriver δ) (state : δ) (ops : List ClientOp) :
    (answers driver state ops).map Prod.fst = ops := by
  induction ops generalizing state with
  | nil => rfl
  | cons op rest ih => rw [answers, List.map_cons, ih]

def sentFor (answered : List (ClientOp × Bool)) : List Statement :=
  answered.map fun answer => answer.1.sends answer.2

theorem rolledBackLast_iff (answered : List (ClientOp × Bool)) :
    RolledBackLast (sentFor answered) ↔ ClientOp.RollsBackLast (answered.map Prod.fst) := by
  constructor
  · intro found
    obtain ⟨before, rollback, after, split, isRollback, finishing⟩ := found
    obtain ⟨front, back, rfl, _front, rest⟩ := List.map_eq_append_iff.mp split
    obtain ⟨answer, later, rfl, rfl, rfl⟩ := List.map_eq_cons_iff.mp rest
    refine ⟨front.map Prod.fst, later.map Prod.fst, ?_, ?_⟩
    · rw [List.map_append, List.map_cons, (ClientOp.sends_isRollback _ _).mp isRollback]
    · intro op member
      obtain ⟨other, inLater, rfl⟩ := List.mem_map.mp member
      have either := finishing _ (List.mem_map_of_mem inLater)
      rw [ClientOp.sends_isCommit, ClientOp.sends_isRollback] at either
      exact (ClientOp.finishes_iff other.1).mpr either
  · intro found
    obtain ⟨before, after, split, finishing⟩ := found
    obtain ⟨front, back, rfl, _front, rest⟩ := List.map_eq_append_iff.mp split
    obtain ⟨answer, later, rfl, isRollback, rfl⟩ := List.map_eq_cons_iff.mp rest
    refine ⟨sentFor front, answer.1.sends answer.2, sentFor later, ?_, ?_, ?_⟩
    · rw [sentFor, List.map_append, List.map_cons]
      rfl
    · exact (ClientOp.sends_isRollback _ _).mpr isRollback
    · intro other member
      obtain ⟨laterAnswer, inLater, rfl⟩ := List.mem_map.mp member
      rw [ClientOp.sends_isCommit, ClientOp.sends_isRollback, ← ClientOp.finishes_iff]
      exact finishing _ (List.mem_map_of_mem inLater)

namespace Transaction

/-- When a transaction leaves everything settled: exceptions are enabled, or the
constructor's statements are executed and `commit` and `rollback` are not called, or one
of these calls is executed, or `rollback` is called after the last statement. -/
def LeavesSettled {δ : Type} (driver : DBDriver δ) (te : Bool) (setup : Setup)
    (ops : List ClientOp) (state : δ) : Prop :=
  te = true ∨
    ∃ begun, executesAll driver setup.texts state = some begun ∧
      ((∀ op ∈ ops, op.finishes = false) ∨
        (∃ answer ∈ answers driver begun ops, answer.1.finishes = true ∧ answer.2 = true) ∨
        ClientOp.RollsBackLast ops)

section Lifetime

variable {δ : Type} {driver : DBDriver δ} {te : Bool} {setup : Setup} {ops : List ClientOp}
  {state : δ}

theorem lifetime_of_constructed {traffic : Traffic δ}
    (constructed : (Traffic.on .controller (construct driver te setup)).run
      { state := state, statements := [] } = .ok { finished := false } traffic) :
    lifetime driver te setup ops state =
      traffic.statements ++ sentFor (answers driver traffic.state ops) ++
        if finishing te (answers driver traffic.state ops) then []
        else [ClientOp.rollback.sends
          (driver.execute (ascii "ROLLBACK") (stateAfter driver traffic.state ops)).1] := by
  rw [lifetime, constructed]
  simp only [foldl_step, Bool.false_or]
  rw [destroy_statements]
  rfl

/-- With exceptions disabled, an object that was constructed sends COMMIT or ROLLBACK. -/
theorem finishes_somehow (driver : DBDriver δ) (ops : List ClientOp) (begun : δ) (last : Bool) :
    ∃ statement ∈ sentFor (answers driver begun ops) ++
        (if finishing false (answers driver begun ops) then []
        else [ClientOp.rollback.sends last]),
      statement.isCommit = true ∨ statement.isRollback = true := by
  cases finished : finishing false (answers driver begun ops) with
  | true =>
      obtain ⟨answer, member, finishes⟩ := List.any_eq_true.mp finished
      rw [Bool.and_eq_true] at finishes
      refine ⟨answer.1.sends answer.2,
        List.mem_append_left _ (List.mem_map_of_mem member), ?_⟩
      rw [ClientOp.sends_isCommit, ClientOp.sends_isRollback, ← ClientOp.finishes_iff]
      exact finishes.1
  | false =>
      rw [if_neg Bool.false_ne_true]
      exact ⟨_, List.mem_append_right _ (List.mem_singleton_self _), Or.inr rfl⟩

theorem sent_not_start (begun : δ) (last : Bool) :
    sinceStart (sentFor (answers driver begun ops) ++
      (if finishing te (answers driver begun ops) then [] else [ClientOp.rollback.sends last])) =
        none := by
  apply sinceStart_none
  intro statement member
  rcases List.mem_append.mp member with sent | closing
  · obtain ⟨answer, _inAnswers, rfl⟩ := List.mem_map.mp sent
    exact ClientOp.sends_isStart answer.1 answer.2
  · split_ifs at closing
    · cases closing
    · rw [List.mem_singleton.mp closing]
      exact ClientOp.sends_isStart _ _

theorem finishes_of_unfinished {begun : δ}
    (unfinished : finishing false (answers driver begun ops) = false) :
    ∀ op ∈ ops, op.finishes = false := by
  intro op member
  rw [← answers_fst driver begun ops] at member
  obtain ⟨answer, inAnswers, rfl⟩ := List.mem_map.mp member
  have notFinishing := List.any_eq_false.mp unfinished answer inAnswers
  simpa using notFinishing

/-- The object takes its transaction for finished, though nothing was executed. -/
theorem mistaken_of_finishing {begun : δ}
    (finished : finishing te (answers driver begun ops) = true)
    (open_ : ¬ ∃ answer ∈ answers driver begun ops,
      answer.1.finishes = true ∧ answer.2 = true) :
    te ≠ true ∧ ¬ ∀ op ∈ ops, op.finishes = false := by
  obtain ⟨answer, member, finishes⟩ := List.any_eq_true.mp finished
  rw [Bool.and_eq_true, Bool.or_eq_true] at finishes
  have notExecuted : answer.2 ≠ true := fun ok => open_ ⟨answer, member, finishes.1, ok⟩
  constructor
  · simpa using finishes.2.resolve_left notExecuted
  · intro none
    have inOps : answer.1 ∈ ops := by
      rw [← answers_fst driver begun ops]
      exact List.mem_map_of_mem member
    rw [none answer.1 inOps] at finishes
    exact Bool.false_ne_true finishes.1

theorem settled_begun_iff (begun : δ) (last : Bool) :
    ((∃ statement ∈ sentFor (answers driver begun ops) ++
          (if finishing te (answers driver begun ops) then [] else [ClientOp.rollback.sends last]),
        statement.isCommit = true ∧ statement.sent.ok = true) ∨
      RolledBackLast (withinTransaction (sentFor (answers driver begun ops) ++
        if finishing te (answers driver begun ops) then []
        else [ClientOp.rollback.sends last]))) ↔
      te = true ∨ (∀ op ∈ ops, op.finishes = false) ∨
        (∃ answer ∈ answers driver begun ops, answer.1.finishes = true ∧ answer.2 = true) ∨
        ClientOp.RollsBackLast ops := by
  have endsIff : ∀ answer : ClientOp × Bool,
      (answer.1.sends answer.2).ends = true ↔ answer.1.finishes = true ∧ answer.2 = true :=
    fun answer => ClientOp.sends_ends answer.1 answer.2
  by_cases ended : ∃ answer ∈ answers driver begun ops,
      answer.1.finishes = true ∧ answer.2 = true
  · apply iff_of_true
    · apply settled_of_ended
      obtain ⟨answer, member, ends⟩ := ended
      exact ⟨answer.1.sends answer.2, List.mem_map_of_mem member, (endsIff answer).mpr ends⟩
    · exact Or.inr (Or.inr (Or.inl ended))
  · have goesOn : ∀ statement ∈ sentFor (answers driver begun ops), statement.ends = false := by
      intro statement member
      obtain ⟨answer, inAnswers, rfl⟩ := List.mem_map.mp member
      by_contra ends
      rw [Bool.not_eq_false, endsIff] at ends
      exact ended ⟨answer, inAnswers, ends⟩
    cases finished : finishing te (answers driver begun ops) with
    | false =>
        rw [if_neg Bool.false_ne_true, withinTransaction_open goesOn, withinTransaction_single]
        apply iff_of_true
        · refine Or.inr ⟨_, _, [], rfl, (ClientOp.sends_isRollback _ _).mpr rfl, ?_⟩
          intro other impossible
          cases impossible
        · cases te with
          | true => exact Or.inl rfl
          | false => exact Or.inr (Or.inl (finishes_of_unfinished finished))
    | true =>
        obtain ⟨quiet, called⟩ := mistaken_of_finishing finished ended
        have noCommit : ¬ ∃ statement ∈ sentFor (answers driver begun ops),
            statement.isCommit = true ∧ statement.sent.ok = true := by
          intro found
          obtain ⟨statement, inSent, commit, ok⟩ := found
          have open_ := goesOn statement inSent
          rw [Statement.ends, commit, ok] at open_
          cases open_
        have within := withinTransaction_open goesOn []
        rw [List.append_nil, withinTransaction, List.append_nil] at within
        rw [if_pos rfl, List.append_nil, within, rolledBackLast_iff, answers_fst]
        simp only [noCommit, false_or, quiet, called, ended, Bool.false_eq_true]

end Lifetime

theorem lifetime_settled_iff {δ : Type} (driver : DBDriver δ) (te : Bool) (setup : Setup)
    (ops : List ClientOp) (state : δ) :
    Settled (lifetime driver te setup ops state) ↔
      LeavesSettled driver te setup ops state := by
  cases all : executesAll driver setup.texts state with
  | some begun =>
      have constructed := construct_started driver te all
      rw [lifetime_of_constructed constructed, List.append_assoc, Settled, sinceStart_texts]
      simp only [LeavesSettled, all, Option.some.injEq, exists_eq_left']
      exact settled_begun_iff begun _
  | none =>
      obtain ⟨traffic, constructed, unstarted⟩ := construct_unstarted driver te all
      have nothingStarted := sinceStart_unstarted unstarted
      cases te with
      | true =>
          obtain ⟨failure, thrown⟩ := constructed
          have front := nothingStarted []
          rw [List.append_nil] at front
          apply iff_of_true
          · rw [lifetime, thrown, Settled, front]
            exact fun statement member => (unstarted statement member).2
          · exact Or.inl rfl
      | false =>
          apply iff_of_false
          · rw [lifetime_of_constructed constructed, List.append_assoc, Settled, nothingStarted]
            rw [sent_not_start]
            intro none
            obtain ⟨statement, member, finishing⟩ := finishes_somehow driver ops
              traffic.state
              (driver.execute (ascii "ROLLBACK") (stateAfter driver traffic.state ops)).1
            obtain ⟨notCommit, notRollback⟩ :=
              none statement (List.mem_append_right _ member)
            rw [notCommit, notRollback] at finishing
            simp at finishing
          · rintro (impossible | ⟨begun, started, _rest⟩)
            · cases impossible
            · rw [all] at started
              cases started

end Transaction

end LibTabula
