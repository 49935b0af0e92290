/-
Transactions and other access controllers.

An access controller sends its statements through queries of its own, each made for
the purpose and dropped. Who sent a statement is recorded with it: the controller,
or the client that the connection is shared with.
-/

import LibTabula.PlainQueries

set_option autoImplicit false

namespace LibTabula

open Foundation

/-- `conn.query(qstr)` with what is done to the query before it is dropped; `te` is
the connection's flag, which the query takes over. -/
def Connection.query {δ α : Type} (te : Bool) (qstr : Bytes)
    (use : EStateM Failure (Session δ) α) : EStateM Failure (Connection δ) α := fun conn =>
  match use.run { query := Query.new 0 te qstr, conn := conn } with
  | .ok value session => .ok value session.conn
  | .error failure session => .error failure session.conn

namespace Session

variable {δ : Type}

def insertText (text : Bytes) : EStateM Failure (Session δ) Unit :=
  modify fun self => { self with query := self.query.write text }

/-- `q.execute()` whose result nobody looks at. -/
def executeDropped (driver : DBDriver δ) : EStateM Failure (Session δ) Unit := do
  let _result ← execute driver .noArgs

end Session

/-- What `InsertPolicy::access_controller` has to offer: a constructor that takes the
connection, two functions and a destructor, which does not throw. -/
structure AccessController (δ κ : Type) where
  construct : EStateM Failure (Connection δ) κ
  commit : EStateM Failure (κ × Connection δ) Unit
  rollback : EStateM Failure (κ × Connection δ) Unit
  destroy : κ × Connection δ → Connection δ

def AccessController.Constructs {δ κ : Type} (self : AccessController δ κ) : Prop :=
  ∀ conn, ∃ ac after, self.construct.run conn = .ok ac after

def NoTransaction.controller (δ : Type) : AccessController δ Unit where
  construct := pure ()
  commit := pure ()
  rollback := pure ()
  destroy self := self.2

theorem NoTransaction.constructs (δ : Type) : (NoTransaction.controller δ).Constructs :=
  fun conn => ⟨(), conn, rfl⟩

structure Transaction where
  finished : Bool
deriving DecidableEq, Repr

namespace Transaction

inductive IsolationLevel
  | readUncommitted
  | readCommitted
  | repeatableRead
  | serializable
deriving DecidableEq, Repr

def IsolationLevel.text : IsolationLevel → Bytes
  | readUncommitted => ascii "READ UNCOMMITTED"
  | readCommitted => ascii "READ COMMITTED"
  | repeatableRead => ascii "REPEATABLE READ"
  | serializable => ascii "SERIALIZABLE"

inductive IsolationScope
  | thisTransaction
  | session
  | global
deriving DecidableEq, Repr

def IsolationScope.text : IsolationScope → Bytes
  | thisTransaction => []
  | session => ascii "SESSION "
  | global => ascii "GLOBAL "

inductive Setup
  | simple (consistent : Bool)
  | isolated (level : IsolationLevel) (scope : IsolationScope) (consistent : Bool)
deriving DecidableEq, Repr

def snapshotText (consistent : Bool) : Bytes :=
  if consistent then ascii " WITH CONSISTENT SNAPSHOT" else []

def startText (consistent : Bool) : Bytes := ascii "START TRANSACTION" ++ snapshotText consistent

def isolationText (level : IsolationLevel) (scope : IsolationScope) : Bytes :=
  ascii "SET " ++ scope.text ++ ascii "TRANSACTION ISOLATION LEVEL " ++ level.text

variable {δ : Type} (driver : DBDriver δ) (te : Bool)

def start (consistent : Bool) : EStateM Failure (Session δ) Unit := do
  if consistent then Session.insertText (ascii " WITH CONSISTENT SNAPSHOT")
  Session.executeDropped driver

/-- The second constructor once its first text has been executed, or refused: then it
is still in the query. -/
def startIsolated (consistent : Bool) : EStateM Failure (Session δ) Unit := do
  Session.insertText (ascii "START TRANSACTION")
  start driver consistent

def construct : Setup → EStateM Failure (Connection δ) Transaction
  | .simple consistent => do
      Connection.query te (ascii "START TRANSACTION") (start driver consistent)
      return { finished := false }
  | .isolated level scope consistent => do
      Connection.query te (ascii "SET ") do
        Session.insertText scope.text
        Session.insertText (ascii "TRANSACTION ISOLATION LEVEL ")
        Session.insertText level.text
        Session.executeDropped driver
        startIsolated driver consistent
      return { finished := false }

/-- `commit` and `rollback`, which differ in their text. -/
def finish (text : Bytes) : EStateM Failure (Transaction × Connection δ) Unit := do
  onPart Prod.snd (fun self conn => (self.1, conn))
    (Connection.query te text (Session.executeDropped driver))
  modify fun self => ({ finished := true }, self.2)

def commit : EStateM Failure (Transaction × Connection δ) Unit :=
  finish driver te (ascii "COMMIT")

def rollback : EStateM Failure (Transaction × Connection δ) Unit :=
  finish driver te (ascii "ROLLBACK")

/-- The destructor, which eats what `rollback` throws. -/
def destroy (self : Transaction × Connection δ) : Connection δ :=
  if self.1.finished then self.2 else ((rollback driver te).run self).final.2

def controller (setup : Setup) : AccessController δ Transaction where
  construct := construct driver te setup
  commit := commit driver te
  rollback := rollback driver te
  destroy := destroy driver te

end Transaction

/-! ### Who sends what -/

/-- Who shares a connection. -/
inductive Party
  | client
  | controller
deriving DecidableEq, Repr

/-- A text handed to the driver by a party. -/
structure Statement where
  party : Party
  sent : Sent
deriving DecidableEq, Repr

/-- The driver's state and the statements it has got. -/
structure Traffic (δ : Type) where
  state : δ
  statements : List Statement

namespace Traffic

variable {δ κ α : Type}

/-- The connection as one party sees it. -/
def connection (self : Traffic δ) : Connection δ := { state := self.state, sent := [] }

/-- Records what a party has sent on such a connection. -/
def after (self : Traffic δ) (party : Party) (conn : Connection δ) : Traffic δ :=
  { state := conn.state
    statements := self.statements ++ conn.sent.map (Statement.mk party) }

def on (party : Party) (x : EStateM Failure (Connection δ) α) : EStateM Failure (Traffic δ) α :=
  onPart connection (fun self conn => self.after party conn) x

def onWith (party : Party) (x : EStateM Failure (κ × Connection δ) α) :
    EStateM Failure (κ × Traffic δ) α :=
  onPart (fun self => (self.1, self.2.connection))
    (fun self after => (after.1, self.2.after party after.2)) x

end Traffic

/-! ### Queries that are no templates -/

namespace Session

variable {δ : Type} (driver : DBDriver δ)

def afterExecute (session : Session δ) : Session δ :=
  setProcessing false (session.afterPlain driver session.query.sbuffer)

theorem lower_afterPlain (session : Session δ) (text : Bytes) :
    setProcessing false ((setProcessing true session).afterPlain driver text) =
      setProcessing false (session.afterPlain driver text) := by
  have same : (setProcessing true session).conn = session.conn := rfl
  unfold afterPlain
  rw [same]
  by_cases executed : (session.conn.execute driver text).1 = true
  · simp only [if_pos executed]
    rfl
  · simp only [if_neg executed]
    rfl

theorem executeDropped_run_plain {session : Session δ} (plain : session.Plain) :
    (executeDropped driver).run session =
      if session.executes driver session.query.sbuffer then .ok () (session.afterExecute driver)
      else if session.query.throwExceptions then
        .error (session.refusal driver session.query.sbuffer) (session.afterExecute driver)
      else .ok () (session.afterExecute driver) := by
  have raisedPlain : (setProcessing true session).Plain := plain
  have sent := executing_run_plain driver raisedPlain session.query.sbuffer
    (do
      let self ← get
      return QueryResult.simple (driver.insertId self.conn.state)
        (driver.affectedRows self.conn.state)) QueryResult.empty fun _ => rfl
  have inner : (str driver none >>= fun text => call (executeFamily driver) 4
      (.adapter (SQLTypeAdapter.ofString text false))).run (setProcessing true session) =
        (sendExecute driver session.query.sbuffer).run (setProcessing true session) := by
    exact str_then_call_run_plain raisedPlain 2 none
  have outer : execute driver .noArgs = flagged (setProcessing true) (setProcessing false)
      (str driver none >>= fun text =>
        call (executeFamily driver) 4 (.adapter (SQLTypeAdapter.ofString text false))) := rfl
  have result := inner.trans sent
  have lowered := lower_afterPlain driver session session.query.sbuffer
  by_cases executed : session.executes driver session.query.sbuffer = true
  · have raised : (setProcessing true session).executes driver session.query.sbuffer = true :=
      executed
    rw [if_pos raised] at result
    have returned := run_flagged_of_ok (setProcessing false) result
    rw [lowered] at returned
    rw [if_pos executed, executeDropped, outer, run_bind_of_ok returned]
    rfl
  · have raised : ¬ (setProcessing true session).executes driver session.query.sbuffer = true :=
      executed
    rw [if_neg raised] at result
    rw [if_neg executed]
    by_cases throws : session.query.throwExceptions = true
    · have raisedThrows : (setProcessing true session).query.throwExceptions = true := throws
      rw [if_pos raisedThrows] at result
      have thrown := run_flagged_of_error (setProcessing false) result
      rw [lowered] at thrown
      rw [if_pos throws, executeDropped, outer, run_bind_of_error thrown]
      rfl
    · have raisedThrows : ¬ (setProcessing true session).query.throwExceptions = true := throws
      rw [if_neg raisedThrows] at result
      have returned := run_flagged_of_ok (setProcessing false) result
      rw [lowered] at returned
      rw [if_neg throws, executeDropped, outer, run_bind_of_ok returned]
      rfl

end Session

namespace Session

variable {δ : Type} (driver : DBDriver δ)

theorem afterExecute_plain {session : Session δ} (plain : session.Plain) :
    (session.afterExecute driver).Plain :=
  afterPlain_plain driver plain session.query.sbuffer

theorem afterExecute_throwExceptions (session : Session δ) :
    (session.afterExecute driver).query.throwExceptions = session.query.throwExceptions :=
  afterPlain_throwExceptions driver session session.query.sbuffer

theorem afterExecute_sbuffer (session : Session δ) :
    (session.afterExecute driver).query.sbuffer =
      if (session.conn.execute driver session.query.sbuffer).1 then []
      else session.query.sbuffer :=
  afterPlain_sbuffer driver session session.query.sbuffer

end Session

/-! ### What a transaction sends -/

theorem Session.executeDropped_returns {δ : Type} {driver : DBDriver δ} {session : Session δ}
    (plain : session.Plain)
    (goesOn : (session.executes driver session.query.sbuffer ||
      !session.query.throwExceptions) = true) :
    (Session.executeDropped driver).run session = .ok () (session.afterExecute driver) := by
  rw [Session.executeDropped_run_plain driver plain]
  cases executed : session.executes driver session.query.sbuffer with
  | true => rw [if_pos rfl]
  | false =>
      rw [executed, Bool.false_or, Bool.not_eq_true'] at goesOn
      rw [if_neg Bool.false_ne_true, goesOn, if_neg Bool.false_ne_true]

theorem Session.executeDropped_throws {δ : Type} {driver : DBDriver δ} {session : Session δ}
    (plain : session.Plain)
    (stops : ¬ (session.executes driver session.query.sbuffer ||
      !session.query.throwExceptions) = true) :
    (Session.executeDropped driver).run session =
      .error (session.refusal driver session.query.sbuffer) (session.afterExecute driver) := by
  rw [Session.executeDropped_run_plain driver plain]
  cases executed : session.executes driver session.query.sbuffer with
  | true =>
      rw [executed, Bool.true_or] at stops
      exact absurd rfl stops
  | false =>
      rw [executed, Bool.false_or, Bool.not_eq_true', Bool.not_eq_false] at stops
      rw [if_neg Bool.false_ne_true, if_pos stops]

namespace Transaction

variable {δ : Type} (driver : DBDriver δ) (te : Bool)

theorem query_of_ok {α : Type} {qstr : Bytes} {use : EStateM Failure (Session δ) α}
    {conn : Connection δ} {value : α} {session : Session δ}
    (used : use.run { query := Query.new 0 te qstr, conn := conn } = .ok value session) :
    (Connection.query te qstr use).run conn = .ok value session.conn := by
  simp only [EStateM.run] at used
  simp only [Connection.query, EStateM.run, used]

theorem query_of_error {α : Type} {qstr : Bytes} {use : EStateM Failure (Session δ) α}
    {conn : Connection δ} {failure : Failure} {session : Session δ}
    (used : use.run { query := Query.new 0 te qstr, conn := conn } = .error failure session) :
    (Connection.query te qstr use).run conn = .error failure session.conn := by
  simp only [EStateM.run] at used
  simp only [Connection.query, EStateM.run, used]

/-- The exception for a text that the driver has not executed. -/
def refusal (conn : Connection δ) (text : Bytes) : Failure :=
  let after := (conn.execute driver text).2
  .badQuery (driver.error after.state) (driver.errnum after.state)

theorem query_run (text : Bytes) (conn : Connection δ) :
    (Connection.query te text (Session.executeDropped driver)).run conn =
      if (conn.execute driver text).1 || !te then .ok () (conn.execute driver text).2
      else .error (refusal driver conn text) (conn.execute driver text).2 := by
  have plain : Session.Plain { query := Query.new 0 te text, conn := conn } := rfl
  by_cases goesOn : ((conn.execute driver text).1 || !te) = true
  · rw [if_pos goesOn]
    exact query_of_ok te (Session.executeDropped_returns plain goesOn)
  · rw [if_neg goesOn]
    exact query_of_error te (Session.executeDropped_throws plain goesOn)

theorem finish_run (text : Bytes) (self : Transaction) (conn : Connection δ) :
    (finish driver te text).run (self, conn) =
      if (conn.execute driver text).1 || !te then
        .ok () ({ finished := true }, (conn.execute driver text).2)
      else .error (refusal driver conn text) (self, (conn.execute driver text).2) := by
  have ran := query_run driver te text conn
  by_cases goesOn : ((conn.execute driver text).1 || !te) = true
  · rw [if_pos goesOn] at ran
    rw [if_pos goesOn, finish, run_bind_of_ok (run_onPart_of_ok _ ran)]
    rfl
  · rw [if_neg goesOn] at ran
    rw [if_neg goesOn, finish, run_bind_of_error (run_onPart_of_error _ ran)]

theorem start_run (consistent : Bool) (session : Session δ) :
    (start driver consistent).run session =
      (Session.executeDropped driver).run
        { session with query := session.query.write (snapshotText consistent) } := by
  cases consistent with
  | true => rfl
  | false =>
      have same : session.query.write (snapshotText false) = session.query := by
        simp [Query.write, snapshotText]
      rw [same]
      rfl

theorem construct_simple_run (consistent : Bool) (conn : Connection δ) :
    (construct driver te (.simple consistent)).run conn =
      if (conn.execute driver (startText consistent)).1 || !te then
        .ok { finished := false } (conn.execute driver (startText consistent)).2
      else .error (refusal driver conn (startText consistent))
        (conn.execute driver (startText consistent)).2 := by
  have plain : Session.Plain { query := Query.new 0 te (startText consistent), conn := conn } :=
    rfl
  have started := start_run driver consistent
    { query := Query.new 0 te (ascii "START TRANSACTION"), conn := conn }
  by_cases goesOn : ((conn.execute driver (startText consistent)).1 || !te) = true
  · have ran := query_of_ok te (started.trans (Session.executeDropped_returns plain goesOn))
    rw [if_pos goesOn, construct, run_bind_of_ok ran]
    rfl
  · have ran := query_of_error te (started.trans (Session.executeDropped_throws plain goesOn))
    rw [if_neg goesOn, construct, run_bind_of_error ran]
    rfl

/-- The text with which the second constructor starts the transaction. -/
def isolatedStartText (level : IsolationLevel) (scope : IsolationScope)
    (consistent isolated : Bool) : Bytes :=
  (if isolated then [] else isolationText level scope) ++ startText consistent

/-- A query that goes on after its text has been handed to the driver. -/
theorem startIsolated_run (consistent : Bool) {session : Session δ} (plain : session.Plain)
    (flag : session.query.throwExceptions = te) :
    (startIsolated driver consistent).run session =
      let text := session.query.sbuffer ++ startText consistent
      let started := { session with query := { session.query with sbuffer := text } }
      if (session.conn.execute driver text).1 || !te then .ok () (started.afterExecute driver)
      else .error (refusal driver session.conn text) (started.afterExecute driver) := by
  have written : (startIsolated driver consistent).run session =
      (Session.executeDropped driver).run
        { session with
          query :=
            { session.query with sbuffer := session.query.sbuffer ++ startText consistent } } := by
    rw [startText, ← List.append_assoc]
    exact start_run driver consistent
      { session with query := session.query.write (ascii "START TRANSACTION") }
  subst flag
  have startedPlain : Session.Plain
      { session with
        query := { session.query with
          sbuffer := session.query.sbuffer ++ startText consistent } } := plain
  simp only [written]
  by_cases goesOn : ((session.conn.execute driver
      (session.query.sbuffer ++ startText consistent)).1 || !session.query.throwExceptions) = true
  · rw [if_pos goesOn]
    exact Session.executeDropped_returns startedPlain goesOn
  · rw [if_neg goesOn]
    exact Session.executeDropped_throws startedPlain goesOn

theorem construct_isolated_run (level : IsolationLevel) (scope : IsolationScope)
    (consistent : Bool) (conn : Connection δ) :
    (construct driver te (.isolated level scope consistent)).run conn =
      let first := conn.execute driver (isolationText level scope)
      let text := isolatedStartText level scope consistent first.1
      let second := first.2.execute driver text
      if first.1 || !te then
        if second.1 || !te then .ok { finished := false } second.2
        else .error (refusal driver first.2 text) second.2
      else .error (refusal driver conn (isolationText level scope)) first.2 := by
  have plain : Session.Plain
      { query := Query.new 0 te (isolationText level scope), conn := conn } := rfl
  have goesOnWith : ∀ used, (Session.executeDropped driver >>= fun _ =>
        startIsolated driver consistent).run
          { query := Query.new 0 te (isolationText level scope), conn := conn } = used →
      (do
        Session.insertText scope.text
        Session.insertText (ascii "TRANSACTION ISOLATION LEVEL ")
        Session.insertText level.text
        Session.executeDropped driver
        startIsolated driver consistent : EStateM Failure (Session δ) Unit).run
          { query := Query.new 0 te (ascii "SET "), conn := conn } = used := by
    rintro used rfl
    rfl
  by_cases first : ((conn.execute driver (isolationText level scope)).1 || !te) = true
  · have ran := Session.executeDropped_returns plain first
    have started := startIsolated_run driver te consistent
      (Session.afterExecute_plain driver plain) (Session.afterExecute_throwExceptions driver _)
    rw [Session.afterExecute_sbuffer] at started
    have both := goesOnWith _ ((run_bind_of_ok ran).trans started)
    simp only [if_pos first]
    by_cases second : (((conn.execute driver (isolationText level scope)).2.execute driver
        (isolatedStartText level scope consistent
          (conn.execute driver (isolationText level scope)).1)).1 || !te) = true
    · have returned := both.trans (if_pos second)
      rw [if_pos second, construct, run_bind_of_ok (query_of_ok te returned)]
      rfl
    · have thrown := both.trans (if_neg second)
      rw [if_neg second, construct, run_bind_of_error (query_of_error te thrown)]
      rfl
  · have thrown := goesOnWith _ (run_bind_of_error (Session.executeDropped_throws plain first))
    simp only [if_neg first]
    rw [construct, run_bind_of_error (query_of_error te thrown)]
    rfl

theorem constructs (setup : Setup) : (controller driver false setup).Constructs := by
  intro conn
  cases setup with
  | simple consistent =>
      have ran := construct_simple_run driver false consistent conn
      rw [Bool.not_false, Bool.or_true, if_pos rfl] at ran
      exact ⟨_, _, ran⟩
  | isolated level scope consistent =>
      have ran := construct_isolated_run driver false level scope consistent conn
      simp only [Bool.not_false, Bool.or_true, if_true] at ran
      exact ⟨_, _, ran⟩

end Transaction

end LibTabula
