/-
Runs of calls on one connection.

Any number of queries share a connection. Whatever they call, in any order, an answer to a text
is reported by one call or is still in line, and the order of the answers is kept. A text that
is executed and answered with rows that nobody fetches is the end of the connection's use.
-/

import LibTabula.MultiResultCalls

set_option autoImplicit false

namespace LibTabula

open Foundation
open Session (lastError emptyOutcome)

variable {ι δ : Type} {driver : MultiDriver δ}

/-- A connection with the queries that use it. -/
structure Client (ι δ : Type) where
  queries : ι → Query
  conn : Connection δ

structure ClientCall (ι : Type) where
  query : ι
  call : ResultCall

/-- A call that was made, and how the driver was afterwards. -/
structure CallRecord (δ : Type) where
  call : ResultCall
  throws : Bool
  after : δ
  outcome : Except Failure CallValue

namespace CallRecord

def Reports (driver : MultiDriver δ) (record : CallRecord δ)
    (reply : LineReply Nat ErrorNumber) : Prop :=
  record.call.Reports driver record.throws record.after record.outcome reply

def OutOfSync (driver : MultiDriver δ) (record : CallRecord δ) : Prop :=
  record.call.Fails driver record.throws commandsOutOfSync record.after record.outcome

end CallRecord

namespace Client

def session (client : Client ι δ) (query : ι) : Session δ :=
  { query := client.queries query, conn := client.conn }

def made (driver : MultiDriver δ) (client : Client ι δ) (call : ClientCall ι) :
    EStateM.Result Failure (Session δ) CallValue :=
  (call.call.run driver).run (client.session call.query)

def record (driver : MultiDriver δ) (client : Client ι δ) (call : ClientCall ι) : CallRecord δ :=
  { call := call.call
    throws := (client.queries call.query).throwExceptions
    after := (client.made driver call).final.conn.state
    outcome := (client.made driver call).outcome }

def line (view : LibraryView driver) (client : Client ι δ) : AnswerLine Nat ErrorNumber :=
  view.line client.conn.state

def event (view : LibraryView driver) (client : Client ι δ) (call : ClientCall ι) :
    LineEvent Nat ErrorNumber :=
  call.call.event view client.conn.state

/-- The answers to the text of a call, if nothing is in line. -/
def asked (view : LibraryView driver) (client : Client ι δ) (call : ClientCall ι) :
    List (Answer Nat ErrorNumber) :=
  (client.line view).asked (client.event view call)

/-- The text of the call is executed, and the rows that answer it stay where they are. -/
def LeavesRows (view : LibraryView driver) (client : Client ι δ) (call : ClientCall ι) : Prop :=
  ∃ text count, (call.call = .execute text ∨ call.call = .exec text) ∧
    client.line view = .clear ∧ (view.answers text client.conn.state).first = .rows count

theorem leavesRows_iff (view : LibraryView driver) (client : Client ι δ) (call : ClientCall ι) :
    (client.line view).LeavesRows (client.event view call) ↔ client.LeavesRows view call := by
  obtain ⟨query, call⟩ := call
  constructor
  · intro leaves
    obtain ⟨answers, count, event, first, clear⟩ := leaves
    cases call with
    | store text => cases event
    | storeNext => cases event
    | use text => cases event
    | release => cases event
    | execute text =>
        cases event
        exact ⟨text, count, Or.inl rfl, clear, first⟩
    | exec text =>
        cases event
        exact ⟨text, count, Or.inr rfl, clear, first⟩
  · intro leaves
    obtain ⟨text, count, either, clear, first⟩ := leaves
    rcases either with rfl | rfl
    · exact ⟨_, count, rfl, first, clear⟩
    · exact ⟨_, count, rfl, first, clear⟩

variable [DecidableEq ι]

def after (driver : MultiDriver δ) (client : Client ι δ) (call : ClientCall ι) : Client ι δ :=
  { queries := Function.update client.queries call.query (client.made driver call).final.query
    conn := (client.made driver call).final.conn }

/-! ### Runs -/

def run (driver : MultiDriver δ) : Client ι δ → List (ClientCall ι) → Client ι δ
  | client, [] => client
  | client, call :: calls => (client.after driver call).run driver calls

def records (driver : MultiDriver δ) : Client ι δ → List (ClientCall ι) → List (CallRecord δ)
  | _, [] => []
  | client, call :: calls =>
      client.record driver call :: (client.after driver call).records driver calls

def events (view : LibraryView driver) :
    Client ι δ → List (ClientCall ι) → List (LineEvent Nat ErrorNumber)
  | _, [] => []
  | client, call :: calls =>
      client.event view call :: (client.after driver call).events view calls

def askedIn (view : LibraryView driver) :
    Client ι δ → List (ClientCall ι) → List (Answer Nat ErrorNumber)
  | _, [] => []
  | client, call :: calls =>
      client.asked view call ++ (client.after driver call).askedIn view calls

def LeavesRowsIn (view : LibraryView driver) : Client ι δ → List (ClientCall ι) → Prop
  | _, [] => False
  | client, call :: calls =>
      client.LeavesRows view call ∨ (client.after driver call).LeavesRowsIn view calls

variable (view : LibraryView driver) (client : Client ι δ)

/-- One call is one event. -/
theorem call_inLine (call : ClientCall ι) :
    (client.record driver call).Reports driver
        ((client.line view).reply (client.event view call)) ∧
      (client.after driver call).line view = (client.line view).after (client.event view call) :=
  call.call.inLine view (client.session call.query)

theorem run_line (calls : List (ClientCall ι)) :
    (client.run driver calls).line view = (client.line view).run (client.events view calls) := by
  induction calls generalizing client with
  | nil => rfl
  | cons call calls ih =>
      rw [run, events, AnswerLine.run, ih, (client.call_inLine view call).2]

theorem records_report (calls : List (ClientCall ι)) :
    List.Forall₂ (CallRecord.Reports driver) (client.records driver calls)
      ((client.line view).replies (client.events view calls)) := by
  induction calls generalizing client with
  | nil => exact List.Forall₂.nil
  | cons call calls ih =>
      obtain ⟨reports, moves⟩ := client.call_inLine view call
      have further := ih (client.after driver call)
      rw [moves] at further
      exact List.Forall₂.cons reports further

theorem askedIn_eq (calls : List (ClientCall ι)) :
    client.askedIn view calls = (client.line view).askedIn (client.events view calls) := by
  induction calls generalizing client with
  | nil => rfl
  | cons call calls ih =>
      rw [askedIn, events, AnswerLine.askedIn, ih, (client.call_inLine view call).2]
      rfl

theorem leavesRowsIn_iff (calls : List (ClientCall ι)) :
    (client.line view).LeavesRowsIn (client.events view calls) ↔
      client.LeavesRowsIn view calls := by
  induction calls generalizing client with
  | nil => exact Iff.rfl
  | cons call calls ih =>
      rw [events, AnswerLine.LeavesRowsIn, LeavesRowsIn, client.leavesRows_iff view call,
        ← (client.call_inLine view call).2, ih]

/-- No answer is lost, reported twice or out of turn. -/
theorem answers_accounted (calls : List (ClientCall ι)) :
    ∃ replies, List.Forall₂ (CallRecord.Reports driver) (client.records driver calls) replies ∧
      replies.flatMap LineReply.answers ++ ((client.run driver calls).line view).waiting =
        (client.line view).waiting ++ client.askedIn view calls := by
  refine ⟨(client.line view).replies (client.events view calls),
    client.records_report view calls, ?_⟩
  rw [run_line, askedIn_eq]
  exact (client.line view).run_accounts (client.events view calls)

/-- One query on a connection to a server that answers every text with a row. -/
def rowServed : Client Unit ScriptedState :=
  { queries := fun _ => Query.new 0 false []
    conn := { state := { line := .clear, errno := 0 }, sent := [] } }

def rowScript (_ : Bytes) : Answers Nat ErrorNumber :=
  { first := .rows 1
    rest := []
    stops := by
      intro front error back isWhole
      cases front with
      | nil => cases isWhole
      | cons answer front =>
          obtain ⟨_same, none⟩ := List.cons.inj isWhole
          exact absurd none.symm (List.append_ne_nil_of_right_ne_nil front (List.cons_ne_nil _ _)) }

/-- The first `SELECT` is stored, the second one is left, and the others are refused. -/
theorem answers_accounted_selected :
    let calls : List (ClientCall Unit) :=
      [.store (ascii "SELECT 1"), .exec (ascii "SELECT 2"), .store (ascii "SELECT 3"),
        .storeNext].map fun call => { query := (), call := call }
    ∃ replies, List.Forall₂ (CallRecord.Reports (scriptedDriver rowScript))
        (rowServed.records (scriptedDriver rowScript) calls) replies ∧
      replies.flatMap LineReply.answers ++
          ((rowServed.run (scriptedDriver rowScript) calls).line (scriptedView rowScript)).waiting =
        [.rows 1, .rows 1] :=
  answers_accounted (scriptedView rowScript) rowServed _

/-! ### Out of sync -/

theorem record_ofBlocked {client : Client ι δ} (blocked : (client.line view).Blocked)
    {call : ClientCall ι} (asks : call.call ≠ .release) :
    (client.record driver call).OutOfSync driver := by
  have reports := (client.call_inLine view call).1
  have isEvent : client.event view call ≠ .release := by
    obtain ⟨query, call⟩ := call
    intro event
    cases call with
    | release => exact asks rfl
    | store text => cases event
    | storeNext => cases event
    | use text => cases event
    | execute text => cases event
    | exec text => cases event
  rw [AnswerLine.reply_of_blocked blocked isEvent] at reports
  exact reports

theorem records_ofBlocked {client : Client ι δ} (blocked : (client.line view).Blocked)
    (later : List (ClientCall ι)) :
    ∀ record ∈ client.records driver later, record.call ≠ .release →
      record.OutOfSync driver := by
  induction later generalizing client with
  | nil =>
      intro record absent
      cases absent
  | cons call later ih =>
      intro record made asks
      have kept : ((client.after driver call).line view).Blocked := by
        rw [(client.call_inLine view call).2, AnswerLine.after_of_blocked blocked]
        exact blocked
      cases made with
      | head others => exact record_ofBlocked view blocked asks
      | tail first made => exact ih kept record made asks

/-- The calls by which a query clears the line, and one more `store_next`. -/
def clearingCalls (query : ι) (line : AnswerLine Nat ErrorNumber) : List (ClientCall ι) :=
  { query := query, call := .release } ::
    List.replicate line.waiting.length { query := query, call := .storeNext }

theorem events_storeNext (query : ι) (count : Nat) :
    client.events view (List.replicate count { query := query, call := .storeNext }) =
      List.replicate count .next := by
  induction count generalizing client with
  | zero => rfl
  | succ count ih =>
      rw [List.replicate_succ, List.replicate_succ, events, ih]
      rfl

theorem run_clearingCalls {client : Client ι δ} (open_ : ¬ (client.line view).Blocked)
    (query : ι) :
    (client.run driver (clearingCalls query (client.line view))).line view = .clear := by
  rw [run_line, clearingCalls, events, events_storeNext]
  exact AnswerLine.run_clearing open_

theorem records_append (calls later : List (ClientCall ι)) :
    client.records driver (calls ++ later) =
      client.records driver calls ++ (client.run driver calls).records driver later := by
  induction calls generalizing client with
  | nil => rfl
  | cons call calls ih => rw [List.cons_append, records, records, run, ih, List.cons_append]

/-- Where a line is clear, `store_next` is told so. -/
theorem not_outOfSync_ofClear {client : Client ι δ} (clear : client.line view = .clear)
    (query : ι) :
    ¬ (client.record driver { query := query, call := .storeNext }).OutOfSync driver := by
  intro outOfSync
  have reports := (client.call_inLine view { query := query, call := .storeNext }).1
  rw [clear] at reports
  have noError := reports.2 rfl
  rw [outOfSync.1] at noError
  exact commandsOutOfSync.property noError

/-- Commands are out of sync for ever behind one kind of call, and behind no other. -/
theorem outOfSync_forEver_iff [Nonempty ι] (open_ : ¬ (client.line view).Blocked)
    (calls : List (ClientCall ι)) :
    (∀ later, ∀ record ∈ (client.run driver calls).records driver later,
        record.call ≠ .release → record.OutOfSync driver) ↔
      client.LeavesRowsIn view calls := by
  have blocked_iff : ((client.run driver calls).line view).Blocked ↔
      client.LeavesRowsIn view calls := by
    rw [run_line, AnswerLine.blocked_run_iff open_, leavesRowsIn_iff]
  rw [← blocked_iff]
  constructor
  · intro forEver
    by_contra stillOpen
    obtain ⟨query⟩ := ‹Nonempty ι›
    let behind := client.run driver calls
    let probe : ClientCall ι := { query := query, call := .storeNext }
    have cleared := run_clearingCalls view stillOpen query
    apply not_outOfSync_ofClear view cleared query
    apply forEver (clearingCalls query (behind.line view) ++ [probe])
    · rw [records_append]
      apply List.mem_append_right
      exact List.mem_cons_self
    · intro impossible
      cases impossible
  · intro blocked later
    exact records_ofBlocked view blocked later

/-- `SELECT` by way of `exec`. -/
theorem outOfSync_forEver_selected :
    ¬ (rowServed.line (scriptedView rowScript)).Blocked ∧
      ∀ later, ∀ record ∈
          (rowServed.run (scriptedDriver rowScript)
            [{ query := (), call := .exec (ascii "SELECT 1") }]).records
              (scriptedDriver rowScript) later,
        record.call ≠ .release → record.OutOfSync (scriptedDriver rowScript) := by
  have open_ : ¬ (rowServed.line (scriptedView rowScript)).Blocked := by
    intro blocked
    obtain ⟨set, front⟩ := blocked
    cases front
  constructor
  · exact open_
  · apply (outOfSync_forEver_iff (scriptedView rowScript) rowServed open_ _).mpr
    exact Or.inl ⟨_, 1, Or.inr rfl, rfl, rfl⟩

end Client

end LibTabula
