/-
Lists of template parameters.

`SQLQueryParms` is a vector of adapters tied to a query or to none. Growing a
vector within its capacity leaves the elements where they are. Past its capacity
they are copied into new room, and copying an adapter clears its processed flag.
-/

import LibTabula.TypeAdapter
import Mathlib.Tactic.SplitIfs

set_option autoImplicit false

namespace LibTabula

/-- Stands for the address of a query. -/
abbrev QueryId := Nat

structure SQLQueryParms where
  elems : List SQLTypeAdapter
  capacity : Nat
  parent : Option QueryId
  processing : Bool
deriving DecidableEq, Repr

namespace SQLQueryParms

def empty : SQLQueryParms := { elems := [], capacity := 0, parent := none, processing := false }

def ofQuery (parent : QueryId) : SQLQueryParms := { empty with parent := some parent }

def size (self : SQLQueryParms) : Nat := self.elems.length

def bound (self : SQLQueryParms) : Bool := self.parent.isSome

/-- `clear()`. The room is kept. -/
def clear (self : SQLQueryParms) : SQLQueryParms := { self with elems := [] }

/-- Whether so many more elements need new room. -/
def Reallocates (self : SQLQueryParms) (extra : Nat) : Prop := self.capacity < self.size + extra

instance (self : SQLQueryParms) (extra : Nat) : Decidable (self.Reallocates extra) :=
  inferInstanceAs (Decidable (_ < _))

/-- `insert(end(), extra, value)`, and `push_back(value)` with one element. New
room is for twice the elements, or more if that is needed. -/
def insertEnd (self : SQLQueryParms) (extra : Nat) (value : SQLTypeAdapter) : SQLQueryParms :=
  if self.Reallocates extra then
    { self with
      elems := self.elems.map SQLTypeAdapter.copy ++ List.replicate extra value.copy
      capacity := self.size + max self.size extra }
  else { self with elems := self.elems ++ List.replicate extra value.copy }

def push (self : SQLQueryParms) (str : SQLTypeAdapter) : SQLQueryParms := self.insertEnd 1 str

/-- `SQLQueryParms() << arg0 << arg1 ...`, as the overloads with adapter arguments
build it. -/
def ofList (args : List SQLTypeAdapter) : SQLQueryParms := args.foldl push empty

/-- What `operator [](size_type)` makes of the list before it refers to an
element: a list that is too short grows by empty texts. -/
def ensure (self : SQLQueryParms) (n : Nat) : SQLQueryParms :=
  if self.size ≤ n then self.insertEnd (n + 1 - self.size) (SQLTypeAdapter.ofString [] false)
  else self

def assign (self : SQLQueryParms) (n : Nat) (value : SQLTypeAdapter) : SQLQueryParms :=
  let grown := self.ensure n
  { grown with elems := grown.elems.set n value.copy }

/-- The implicit assignment operator: the elements are assigned or copied, and
the parent and the flag are taken over. -/
def copyFrom (self other : SQLQueryParms) : SQLQueryParms :=
  { elems := other.elems.map SQLTypeAdapter.copy
    capacity := max self.capacity other.size
    parent := other.parent
    processing := other.processing }

theorem insertEnd_elems (self : SQLQueryParms) (extra : Nat) (value : SQLTypeAdapter) :
    (self.insertEnd extra value).elems =
      (if self.Reallocates extra then self.elems.map SQLTypeAdapter.copy else self.elems) ++
        List.replicate extra value.copy := by
  unfold insertEnd
  split_ifs <;> rfl

@[simp] theorem insertEnd_parent (self : SQLQueryParms) (extra : Nat) (value : SQLTypeAdapter) :
    (self.insertEnd extra value).parent = self.parent := by
  unfold insertEnd
  split_ifs <;> rfl

@[simp] theorem push_parent (self : SQLQueryParms) (str : SQLTypeAdapter) :
    (self.push str).parent = self.parent :=
  insertEnd_parent self 1 str

@[simp] theorem ensure_parent (self : SQLQueryParms) (n : Nat) :
    (self.ensure n).parent = self.parent := by
  unfold ensure
  split_ifs
  · exact insertEnd_parent self _ _
  · rfl

@[simp] theorem assign_parent (self : SQLQueryParms) (n : Nat) (value : SQLTypeAdapter) :
    (self.assign n value).parent = self.parent :=
  ensure_parent self n

theorem front_length (self : SQLQueryParms) (moved : Prop) [Decidable moved] :
    (if moved then self.elems.map SQLTypeAdapter.copy else self.elems).length = self.size := by
  split_ifs
  · exact List.length_map _
  · rfl

theorem ensure_elems (self : SQLQueryParms) (n : Nat) :
    (self.ensure n).elems =
      (if self.size ≤ n ∧ self.Reallocates (n + 1 - self.size)
        then self.elems.map SQLTypeAdapter.copy else self.elems) ++
          List.replicate (n + 1 - self.size) (SQLTypeAdapter.ofString [] false) := by
  rw [ensure]
  by_cases outside : self.size ≤ n
  · simp only [outside, if_true, insertEnd_elems, true_and]
    rfl
  · have none : n + 1 - self.size = 0 := by omega
    simp only [outside, false_and, if_false, none, List.replicate_zero, List.append_nil]

theorem assign_elems (self : SQLQueryParms) (n : Nat) (value : SQLTypeAdapter) :
    (self.assign n value).elems =
      ((if self.size ≤ n ∧ self.Reallocates (n + 1 - self.size)
          then self.elems.map SQLTypeAdapter.copy else self.elems) ++
        List.replicate (n + 1 - self.size) (SQLTypeAdapter.ofString [] false)).set n value.copy :=
  congrArg (fun elems => elems.set n value.copy) (ensure_elems self n)

theorem map_copy_of_raw {args : List SQLTypeAdapter}
    (raw : ∀ arg ∈ args, arg.isProcessed = false) : args.map SQLTypeAdapter.copy = args := by
  have same : args.map SQLTypeAdapter.copy = args.map id := by
    apply List.map_congr_left
    intro arg member
    have notProcessed := raw arg member
    cases arg
    simp only [SQLTypeAdapter.copy, id_eq] at notProcessed ⊢
    rw [notProcessed]
  rw [same, List.map_id]

/-- A list of arguments has the copies of the arguments and no query. -/
theorem foldl_push (args : List SQLTypeAdapter) (self : SQLQueryParms)
    (raw : ∀ arg ∈ self.elems, arg.isProcessed = false) :
    (args.foldl push self).elems = self.elems ++ args.map SQLTypeAdapter.copy ∧
      (args.foldl push self).parent = self.parent := by
  induction args generalizing self with
  | nil => simp
  | cons arg args ih =>
      have pushed : (self.push arg).elems = self.elems ++ [arg.copy] := by
        rw [push, insertEnd_elems, map_copy_of_raw raw, ite_self]
        rfl
      have stillRaw : ∀ other ∈ (self.push arg).elems, other.isProcessed = false := by
        intro other member
        rw [pushed] at member
        rcases List.mem_append.mp member with old | new
        · exact raw other old
        · rw [List.mem_singleton.mp new]
          rfl
      obtain ⟨elems, parent⟩ := ih (self.push arg) stillRaw
      rw [List.foldl_cons, elems, parent, pushed, push_parent]
      exact ⟨by simp, rfl⟩

@[simp] theorem ofList_elems (args : List SQLTypeAdapter) :
    (ofList args).elems = args.map SQLTypeAdapter.copy :=
  (foldl_push args empty (fun _ impossible => by cases impossible)).1

@[simp] theorem ofList_bound (args : List SQLTypeAdapter) : (ofList args).bound = false := by
  unfold bound
  rw [show (ofList args).parent = none from
    (foldl_push args empty (fun _ impossible => by cases impossible)).2]
  rfl

@[simp] theorem ofList_size (args : List SQLTypeAdapter) : (ofList args).size = args.length := by
  rw [size, ofList_elems, List.length_map]

end SQLQueryParms

end LibTabula
