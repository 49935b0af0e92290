/-
Writes and transactions.

A ledger keeps what is written outside a transaction at once. What is written in one
it keeps when the transaction is committed, and drops when it is rolled back or never
finished. A transaction that begins while another is open commits the other one.
-/

set_option autoImplicit false

namespace Foundation

variable {α : Type}

inductive LedgerEntry (α : Type)
  | start
  | write (value : α)
  | commit
  | rollback
deriving DecidableEq, Repr

/-- What has been kept, and what an open transaction has written. -/
structure Ledger (α : Type) where
  kept : List α
  pending : Option (List α)

namespace Ledger

def empty : Ledger α := { kept := [], pending := none }

def step (self : Ledger α) : LedgerEntry α → Ledger α
  | .start => { kept := self.kept ++ self.pending.getD [], pending := some [] }
  | .write value =>
      match self.pending with
      | none => { self with kept := self.kept ++ [value] }
      | some written => { self with pending := some (written ++ [value]) }
  | .commit => { kept := self.kept ++ self.pending.getD [], pending := none }
  | .rollback => { self with pending := none }

def run (self : Ledger α) (entries : List (LedgerEntry α)) : Ledger α := entries.foldl step self

@[simp] theorem run_nil (self : Ledger α) : self.run [] = self := rfl

@[simp] theorem run_cons (self : Ledger α) (entry : LedgerEntry α)
    (entries : List (LedgerEntry α)) :
    self.run (entry :: entries) = (self.step entry).run entries := rfl

theorem run_append (self : Ledger α) (front back : List (LedgerEntry α)) :
    self.run (front ++ back) = (self.run front).run back :=
  List.foldl_append

theorem run_writes_open (values kept written : List α) :
    (Ledger.mk kept (some written)).run (values.map LedgerEntry.write) =
      { kept := kept, pending := some (written ++ values) } := by
  induction values generalizing written with
  | nil => rw [List.map_nil, run_nil, List.append_nil]
  | cons value rest ih =>
      rw [List.map_cons, run_cons, step, ih, List.append_assoc, List.singleton_append]

theorem run_writes_closed (values kept : List α) :
    (Ledger.mk kept none).run (values.map LedgerEntry.write) =
      { kept := kept ++ values, pending := none } := by
  induction values generalizing kept with
  | nil => rw [List.map_nil, run_nil, List.append_nil]
  | cons value rest ih =>
      rw [List.map_cons, run_cons, step, ih, List.append_assoc, List.singleton_append]

theorem run_finishing_closed {entries : List (LedgerEntry α)}
    (finishing : ∀ entry ∈ entries, entry = .commit ∨ entry = .rollback) (kept : List α) :
    (Ledger.mk kept none).run entries = { kept := kept, pending := none } := by
  induction entries with
  | nil => rfl
  | cons entry rest ih =>
      have later := ih fun other member => finishing other (List.mem_cons_of_mem entry member)
      rcases finishing entry List.mem_cons_self with rfl | rfl
      · rw [run_cons, step, Option.getD_none, List.append_nil, later]
      · rw [run_cons, step, later]

/-- What a new ledger is after the entries. -/
def after (entries : List (LedgerEntry α)) : Ledger α := empty.run entries

theorem run_started (values : List α) (rest : List (LedgerEntry α)) :
    after (.start :: (values.map .write ++ rest)) =
      (Ledger.mk [] (some values)).run rest := by
  have started : (empty.step LedgerEntry.start : Ledger α) = { kept := [], pending := some [] } :=
    rfl
  rw [after, run_cons, started, run_append, run_writes_open, List.nil_append]

theorem after_committed (values : List α) {rest : List (LedgerEntry α)}
    (finishing : ∀ entry ∈ rest, entry = .commit ∨ entry = .rollback) :
    after (.start :: (values.map .write ++ .commit :: rest)) =
      { kept := values, pending := none } := by
  have committed : (Ledger.mk [] (some values)).step .commit =
    { kept := values, pending := none } := rfl
  rw [run_started, run_cons, committed, run_finishing_closed finishing]

theorem after_rolledBack (values : List α) {rest : List (LedgerEntry α)}
    (rollbacks : ∀ entry ∈ rest, entry = .rollback) (some_ : rest ≠ []) :
    after (.start :: (values.map .write ++ rest)) = { kept := [], pending := none } := by
  obtain ⟨first, others, rfl⟩ := List.exists_cons_of_ne_nil some_
  have dropped : (Ledger.mk [] (some values)).step .rollback =
    { kept := [], pending := none } := rfl
  rw [run_started, run_cons, rollbacks first List.mem_cons_self, dropped]
  apply run_finishing_closed
  intro entry member
  exact Or.inr (rollbacks entry (List.mem_cons_of_mem first member))

theorem after_leftOpen (values : List α) :
    after (.start :: (values.map .write ++ [])) = { kept := [], pending := some values } := by
  rw [run_started, run_nil]

theorem after_unprotected (values : List α) {rest : List (LedgerEntry α)}
    (finishing : ∀ entry ∈ rest, entry = .commit ∨ entry = .rollback) :
    after (values.map .write ++ rest) = { kept := values, pending := none } := by
  have nothing : (empty : Ledger α) = { kept := [], pending := none } := rfl
  rw [after, nothing, run_append, run_writes_closed, run_finishing_closed finishing,
    List.nil_append]

end Ledger

end Foundation
