/-
Reference counted pointers.

A program is the list of its live pointer objects, named by their places, and the
heap: the reference counts, the objects destroyed so far, and the objects ever
given to a pointer. An object and a count are named by an identity that stands for
one allocation. A step gives no next state where it would use a reference count
that has been freed, which the language does not define.
-/

import LibTabula.Foundation.Run
import LibTabula.Foundation.SharedCount
import Mathlib.Data.List.Perm.Basic

set_option autoImplicit false

namespace LibTabula

open Foundation

abbrev ObjectId := Nat

abbrev CountId := Nat

structure RefCountedPointer where
  counted : Option ObjectId
  refs : Option CountId
  /-- Both pointers are null or neither is. -/
  paired : counted.isSome = refs.isSome
deriving DecidableEq, Repr

structure CountedHeap where
  /-- What `refs_` points at; nothing where no count is allocated. -/
  counts : CountId → Option Nat
  destroyed : List ObjectId
  managed : List ObjectId

namespace RefCountedPointer

def default : RefCountedPointer := { counted := none, refs := none, paired := rfl }

/-- The standard constructor; `cell` is where `new size_t(1)` puts the count. -/
def construct (c : Option ObjectId) (cell : CountId) (heap : CountedHeap) :
    RefCountedPointer × CountedHeap :=
  match c with
  | none => (default, heap)
  | some object =>
      ({ counted := some object, refs := some cell, paired := rfl },
        { heap with
          counts := Function.update heap.counts cell (some 1)
          managed := object :: heap.managed })

def copy (other : RefCountedPointer) (heap : CountedHeap) :
    Option (RefCountedPointer × CountedHeap) :=
  match other.refs with
  | none => some (default, heap)
  | some cell => do
      let n ← heap.counts cell
      pure (other, { heap with counts := Function.update heap.counts cell (some (n + 1)) })

/-- The destructor. -/
def destroy (self : RefCountedPointer) (heap : CountedHeap) : Option CountedHeap :=
  match self.refs with
  | none => some heap
  | some cell => do
      let n ← heap.counts cell
      if n - 1 = 0 then
        pure { heap with
          counts := Function.update heap.counts cell none
          destroyed := heap.destroyed ++ self.counted.toList }
      else pure { heap with counts := Function.update heap.counts cell (some (n - 1)) }

end RefCountedPointer

structure PointerProgram where
  pointers : List RefCountedPointer
  heap : CountedHeap

/-- What a program does with its pointers. A place counts from the oldest live one. -/
inductive PointerOp
  | default
  | construct (c : Option ObjectId) (cell : CountId)
  | copy (other : Nat)
  | assignRaw (self : Nat) (c : Option ObjectId) (cell : CountId)
  | assign (self other : Nat)
  | swap (self other : Nat)
  | destroy (self : Nat)
deriving DecidableEq, Repr

namespace PointerProgram

def start : PointerProgram :=
  { pointers := [], heap := { counts := fun _ => none, destroyed := [], managed := [] } }

/-- `.swap(*this)` on a temporary and the end of the temporary, which by then holds
what `*this` held. -/
def swapIn (self : Nat) (temporary : RefCountedPointer) (pointers : List RefCountedPointer)
    (heap : CountedHeap) : Option PointerProgram := do
  let held ← pointers[self]?
  let heap ← held.destroy heap
  pure { pointers := pointers.set self temporary, heap := heap }

def step (program : PointerProgram) : PointerOp → Option PointerProgram
  | .default => some { program with pointers := program.pointers ++ [.default] }
  | .construct c cell =>
      let made := RefCountedPointer.construct c cell program.heap
      some { pointers := program.pointers ++ [made.1], heap := made.2 }
  | .copy other => do
      let source ← program.pointers[other]?
      let made ← source.copy program.heap
      pure { pointers := program.pointers ++ [made.1], heap := made.2 }
  | .assignRaw self c cell =>
      let made := RefCountedPointer.construct c cell program.heap
      swapIn self made.1 program.pointers made.2
  | .assign self other => do
      let source ← program.pointers[other]?
      let made ← source.copy program.heap
      swapIn self made.1 program.pointers made.2
  | .swap self other => do
      let left ← program.pointers[self]?
      let right ← program.pointers[other]?
      pure { program with pointers := (program.pointers.set self right).set other left }
  | .destroy self => do
      let held ← program.pointers[self]?
      let heap ← held.destroy program.heap
      pure { pointers := program.pointers.eraseIdx self, heap := heap }

/-- A raw pointer is null or fresh when it is given to a pointer, or it is the one
that pointer manages; the places are those of live pointers, and `new` gives out a
count that is not allocated. -/
def Allowed (program : PointerProgram) : PointerOp → Prop
  | .default => True
  | .construct c cell => (∀ object ∈ c, object ∉ program.heap.managed) ∧
      program.heap.counts cell = none
  | .copy other => other < program.pointers.length
  | .assignRaw self c cell => ∃ held, program.pointers[self]? = some held ∧
      (held.counted = c ∨ ∀ object ∈ c, object ∉ program.heap.managed) ∧
      program.heap.counts cell = none
  | .assign self other => self < program.pointers.length ∧ other < program.pointers.length
  | .swap self other => self < program.pointers.length ∧ other < program.pointers.length
  | .destroy self => self < program.pointers.length

/-- An assignment of the very pointer that is managed already, and is not null. -/
def ReassignsOwn (program : PointerProgram) : PointerOp → Prop
  | .assignRaw self c _ => c ≠ none ∧ ∃ held, program.pointers[self]? = some held ∧ held.counted = c
  | _ => False

/-- How many live pointers an object has. -/
def owners (pointers : List RefCountedPointer) (object : ObjectId) : Nat :=
  pointers.countP fun pointer => pointer.counted = some object

/-- The count of every object that has a pointer is the number of its pointers. An
object that was given to a pointer is destroyed once when it has none left, and
not before. -/
structure Sound (program : PointerProgram) : Prop where
  counted : ∀ pointer ∈ program.pointers, ∀ object, pointer.counted = some object →
    ∃ cell, pointer.refs = some cell ∧
      program.heap.counts cell = some (owners program.pointers object)
  destroyed : ∀ object, program.heap.destroyed.count object =
    if object ∈ program.heap.managed ∧ owners program.pointers object = 0 then 1 else 0

/-! ### Sharing

The pointers count as a collection here: a temporary is one of them, wherever it is
exchanged with a pointer that stays. -/

def holders (pointers : List RefCountedPointer) : List CountId := pointers.filterMap (·.refs)

structure Consistent (pointers : List RefCountedPointer) (heap : CountedHeap) : Prop where
  tallied : Tallied (holders pointers) heap.counts
  agree : ∀ left ∈ pointers, ∀ right ∈ pointers,
    left.counted = right.counted ↔ left.refs = right.refs
  managed : ∀ pointer ∈ pointers, ∀ object, pointer.counted = some object →
    object ∈ heap.managed
  destroyed : ∀ object, heap.destroyed.count object =
    if object ∈ heap.managed ∧ owners pointers object = 0 then 1 else 0

theorem owners_cons_self {pointer : RefCountedPointer} {object : ObjectId}
    (counted : pointer.counted = some object) (pointers : List RefCountedPointer) :
    owners (pointer :: pointers) object = owners pointers object + 1 :=
  List.countP_cons_of_pos (by simpa using counted)

theorem owners_cons_of_ne {pointer : RefCountedPointer} {object : ObjectId}
    (other : pointer.counted ≠ some object) (pointers : List RefCountedPointer) :
    owners (pointer :: pointers) object = owners pointers object :=
  List.countP_cons_of_neg (by simpa using other)

theorem owners_pos {pointers : List RefCountedPointer} {pointer : RefCountedPointer}
    (member : pointer ∈ pointers) {object : ObjectId} (counted : pointer.counted = some object) :
    0 < owners pointers object :=
  List.countP_pos_iff.mpr ⟨pointer, member, by simpa using counted⟩

theorem owners_eq_count {pointers : List RefCountedPointer} {object : ObjectId} {cell : CountId}
    (agree : ∀ pointer ∈ pointers, pointer.counted = some object ↔ pointer.refs = some cell) :
    owners pointers object = (holders pointers).count cell := by
  rw [owners, holders, List.count_filterMap]
  refine List.countP_congr fun pointer member => ?_
  simpa using agree pointer member

namespace Consistent

variable {pointers : List RefCountedPointer} {heap : CountedHeap}

theorem perm {other : List RefCountedPointer} (same : pointers.Perm other)
    (consistent : Consistent pointers heap) : Consistent other heap where
  tallied := consistent.tallied.perm (same.filterMap _)
  agree left leftMember right rightMember :=
    consistent.agree left (same.mem_iff.mpr leftMember) right (same.mem_iff.mpr rightMember)
  managed pointer member := consistent.managed pointer (same.mem_iff.mpr member)
  destroyed object := by
    have owned : owners other object = owners pointers object := (same.countP_eq _).symm
    rw [owned]
    exact consistent.destroyed object

theorem counts_eq_owners (consistent : Consistent pointers heap) {pointer : RefCountedPointer}
    (member : pointer ∈ pointers) {object : ObjectId} (counted : pointer.counted = some object) :
    ∃ cell, pointer.refs = some cell ∧ heap.counts cell = some (owners pointers object) := by
  have present := pointer.paired
  rw [counted] at present
  obtain ⟨cell, held⟩ := Option.isSome_iff_exists.mp present.symm
  refine ⟨cell, held, ?_⟩
  have all : owners pointers object = (holders pointers).count cell :=
    owners_eq_count fun other found => by
      rw [← counted, ← held]
      exact consistent.agree other found pointer member
  rw [all]
  exact consistent.tallied.count_of_mem (List.mem_filterMap.mpr ⟨pointer, member, held⟩)

theorem sound {program : PointerProgram} (consistent : Consistent program.pointers program.heap) :
    program.Sound where
  counted _ member _ counted := consistent.counts_eq_owners member counted
  destroyed := consistent.destroyed

theorem null_iff (pointer : RefCountedPointer) : pointer.counted = none ↔ pointer.refs = none := by
  have paired := pointer.paired
  cases counted : pointer.counted <;> cases refs : pointer.refs <;>
    simp_all

/-- A null pointer more changes nothing. -/
theorem null (consistent : Consistent pointers heap) {pointer : RefCountedPointer}
    (unset : pointer.counted = none) : Consistent (pointer :: pointers) heap := by
  have noRefs := (null_iff pointer).mp unset
  refine ⟨?_, ?_, ?_, ?_⟩
  · have same : holders (pointer :: pointers) = holders pointers := List.filterMap_cons_none noRefs
    rw [same]
    exact consistent.tallied
  · intro left leftMember right rightMember
    rcases List.mem_cons.mp leftMember with rfl | leftMember <;>
      rcases List.mem_cons.mp rightMember with rfl | rightMember
    · simp
    · rw [unset, noRefs, eq_comm, null_iff right, eq_comm]
    · rw [unset, noRefs, null_iff left]
    · exact consistent.agree left leftMember right rightMember
  · intro other member object counted
    rcases List.mem_cons.mp member with rfl | member
    · rw [unset] at counted
      cases counted
    · exact consistent.managed other member object counted
  · intro object
    rw [owners_cons_of_ne (by rw [unset]; nofun)]
    exact consistent.destroyed object

theorem construct (consistent : Consistent pointers heap) {c : Option ObjectId} {cell : CountId}
    (fresh : ∀ object ∈ c, object ∉ heap.managed) (free : heap.counts cell = none) :
    Consistent ((RefCountedPointer.construct c cell heap).1 :: pointers)
      (RefCountedPointer.construct c cell heap).2 := by
  cases c with
  | none => exact consistent.null rfl
  | some object =>
      have unmanaged : object ∉ heap.managed := fresh object rfl
      have notCounted : ∀ pointer ∈ pointers, pointer.counted ≠ some object :=
        fun pointer member counted => unmanaged (consistent.managed pointer member object counted)
      have notHeld : ∀ pointer ∈ pointers, pointer.refs ≠ some cell := fun pointer member held =>
        consistent.tallied.not_mem_of_free free (List.mem_filterMap.mpr ⟨pointer, member, held⟩)
      refine ⟨consistent.tallied.allocate free, ?_, ?_, ?_⟩
      · intro left leftMember right rightMember
        rcases List.mem_cons.mp leftMember with rfl | leftMember <;>
          rcases List.mem_cons.mp rightMember with rfl | rightMember
        · simp
        · exact iff_of_false (notCounted right rightMember).symm (notHeld right rightMember).symm
        · exact iff_of_false (notCounted left leftMember) (notHeld left leftMember)
        · exact consistent.agree left leftMember right rightMember
      · intro pointer member other counted
        rcases List.mem_cons.mp member with rfl | member
        · cases counted
          exact List.mem_cons_self
        · exact List.mem_cons_of_mem _ (consistent.managed pointer member other counted)
      · intro other
        have before := consistent.destroyed other
        by_cases same : other = object
        · rw [same, if_neg fun both => unmanaged both.1] at before
          rw [same, owners_cons_self rfl, if_neg fun both => Nat.succ_ne_zero _ both.2]
          exact before
        · rw [owners_cons_of_ne fun counted => same (Option.some.inj counted).symm]
          simp only [RefCountedPointer.construct, List.mem_cons, same, false_or]
          exact before

theorem copy (consistent : Consistent pointers heap) {other : RefCountedPointer}
    (member : other ∈ pointers) :
    ∃ made, other.copy heap = some made ∧ Consistent (made.1 :: pointers) made.2 := by
  cases held : other.refs with
  | none =>
      refine ⟨(.default, heap), ?_, consistent.null rfl⟩
      simp only [RefCountedPointer.copy, held]
  | some cell =>
      have holding : cell ∈ holders pointers := List.mem_filterMap.mpr ⟨other, member, held⟩
      have counted := consistent.tallied.count_of_mem holding
      let retained := Function.update heap.counts cell (some ((holders pointers).count cell + 1))
      refine ⟨(other, { heap with counts := retained }), ?_, ?_, ?_, ?_, ?_⟩
      · simp only [RefCountedPointer.copy, held, counted]
        rfl
      · have all : holders (other :: pointers) = cell :: holders pointers :=
          List.filterMap_cons_some held
        rw [all]
        exact consistent.tallied.retain counted
      · have inside : ∀ pointer ∈ other :: pointers, pointer ∈ pointers := by
          intro pointer found
          rcases List.mem_cons.mp found with rfl | found
          · exact member
          · exact found
        exact fun left leftMember right rightMember =>
          consistent.agree left (inside left leftMember) right (inside right rightMember)
      · intro pointer found object counted
        rcases List.mem_cons.mp found with rfl | found
        · exact consistent.managed pointer member object counted
        · exact consistent.managed pointer found object counted
      · intro object
        by_cases same : other.counted = some object
        · have owned := owners_pos member same
          have before := consistent.destroyed object
          rw [if_neg fun both => by omega] at before
          rw [owners_cons_self same, if_neg fun both => Nat.succ_ne_zero _ both.2]
          exact before
        · rw [owners_cons_of_ne same]
          exact consistent.destroyed object

/-- When a pointer to an object ends, what is destroyed follows from what becomes of
that object. -/
theorem destroyed_of_ended {pointer : RefCountedPointer}
    (consistent : Consistent (pointer :: pointers) heap) {object : ObjectId}
    (counted : pointer.counted = some object) {destroyed : List ObjectId}
    (ended : destroyed.count object = if owners pointers object = 0 then 1 else 0)
    (others : ∀ other, other ≠ object → destroyed.count other = heap.destroyed.count other)
    (other : ObjectId) : destroyed.count other =
      if other ∈ heap.managed ∧ owners pointers other = 0 then 1 else 0 := by
  have known : object ∈ heap.managed := consistent.managed pointer List.mem_cons_self object counted
  by_cases same : other = object
  · rw [same, ended]
    simp only [known, true_and]
  · have notOwned : pointer.counted ≠ some other := by
      rw [counted]
      exact fun equal => same (Option.some.inj equal).symm
    rw [others other same, consistent.destroyed other, owners_cons_of_ne notOwned]

/-- The end of one pointer: it destroys the object if it was the last one. -/
theorem destroy {pointer : RefCountedPointer} (consistent : Consistent (pointer :: pointers) heap) :
    ∃ after, pointer.destroy heap = some after ∧ Consistent pointers after := by
  have agree : ∀ left ∈ pointers, ∀ right ∈ pointers,
      left.counted = right.counted ↔ left.refs = right.refs := by
    intro left leftMember right rightMember
    exact consistent.agree left (List.mem_cons_of_mem _ leftMember) right
      (List.mem_cons_of_mem _ rightMember)
  have managed : ∀ other ∈ pointers, ∀ object, other.counted = some object →
      object ∈ heap.managed := fun other member =>
    consistent.managed other (List.mem_cons_of_mem _ member)
  cases held : pointer.refs with
  | none =>
      have unset := (null_iff pointer).mpr held
      refine ⟨heap, by simp only [RefCountedPointer.destroy, held], ?_, agree, managed, ?_⟩
      · have tallied := consistent.tallied
        rw [holders, List.filterMap_cons_none held] at tallied
        exact tallied
      · intro object
        have before := consistent.destroyed object
        rw [owners_cons_of_ne (by rw [unset]; nofun)] at before
        exact before
  | some cell =>
      have present := pointer.paired
      rw [held] at present
      obtain ⟨object, counted⟩ := Option.isSome_iff_exists.mp present
      have tallied : Tallied (cell :: holders pointers) heap.counts := by
        have tallied := consistent.tallied
        rw [holders, List.filterMap_cons_some held] at tallied
        exact tallied
      have count : heap.counts cell = some ((holders pointers).count cell + 1) := by
        rw [tallied.count_of_mem List.mem_cons_self, List.count_cons_self]
      have owned : owners pointers object = (holders pointers).count cell := by
        refine owners_eq_count fun other member => ?_
        rw [← counted, ← held]
        exact consistent.agree other (List.mem_cons_of_mem _ member) pointer List.mem_cons_self
      have alive := consistent.destroyed object
      rw [owners_cons_self counted, if_neg fun both => Nat.succ_ne_zero _ both.2] at alive
      have released := tallied.release
      by_cases last : (holders pointers).count cell = 0
      · rw [if_pos last] at released
        refine ⟨{ heap with
          counts := Function.update heap.counts cell none
          destroyed := heap.destroyed ++ pointer.counted.toList }, ?_, released, agree, managed, ?_⟩
        · simp only [RefCountedPointer.destroy, held, count, last]
          rfl
        · simp only [counted, Option.toList_some]
          apply consistent.destroyed_of_ended counted
          · rw [List.count_append, alive, List.count_singleton_self, if_pos (owned.trans last)]
          · intro other different
            rw [List.count_append, List.count_singleton, beq_eq_false_iff_ne.mpr different.symm]
            rfl
      · rw [if_neg last] at released
        let fewer := Function.update heap.counts cell (some ((holders pointers).count cell))
        refine ⟨{ heap with counts := fewer }, ?_, released, agree, managed, ?_⟩
        · simp only [RefCountedPointer.destroy, held, count]
          exact if_neg last
        · apply consistent.destroyed_of_ended counted
          · rw [alive, if_neg (owned ▸ last)]
          · exact fun _ _ => rfl

end Consistent

/-! ### Steps -/

theorem exchange_perm {self : Nat} (temporary : RefCountedPointer)
    {pointers : List RefCountedPointer} (place : self < pointers.length) :
    (temporary :: pointers).Perm (pointers[self] :: pointers.set self temporary) := by
  have erased : (pointers[self] :: pointers.eraseIdx self).Perm pointers :=
    List.getElem_cons_eraseIdx_perm place
  calc (temporary :: pointers).Perm (temporary :: pointers[self] :: pointers.eraseIdx self) :=
        erased.symm.cons temporary
    _ |>.Perm (pointers[self] :: temporary :: pointers.eraseIdx self) := .swap _ _ _
    _ |>.Perm (pointers[self] :: pointers.set self temporary) :=
        (List.set_perm_cons_eraseIdx place temporary).symm.cons _

theorem swapIn_consistent {self : Nat} {temporary : RefCountedPointer}
    {pointers : List RefCountedPointer} {heap : CountedHeap} (place : self < pointers.length)
    (consistent : Consistent (temporary :: pointers) heap) :
    ∃ after, swapIn self temporary pointers heap = some after ∧
      Consistent after.pointers after.heap := by
  obtain ⟨after, ended, kept⟩ := (consistent.perm (exchange_perm temporary place)).destroy
  refine ⟨{ pointers := pointers.set self temporary, heap := after }, ?_, kept⟩
  simp only [swapIn, List.getElem?_eq_getElem place, Option.bind_eq_bind, Option.bind_some, ended]
  rfl

/-- Every step that is not the assignment of the pointer's own raw pointer is
defined and keeps the counts right. -/
theorem step_consistent {program : PointerProgram} {op : PointerOp}
    (consistent : Consistent program.pointers program.heap) (allowed : program.Allowed op)
    (notOwn : ¬ program.ReassignsOwn op) :
    ∃ after, program.step op = some after ∧ Consistent after.pointers after.heap := by
  cases op with
  | default =>
      refine ⟨_, rfl, ?_⟩
      have unset : RefCountedPointer.default.counted = none := rfl
      exact (consistent.null unset).perm (List.perm_append_singleton _ _).symm
  | construct c cell =>
      obtain ⟨fresh, free⟩ := allowed
      refine ⟨_, rfl, ?_⟩
      exact (consistent.construct fresh free).perm (List.perm_append_singleton _ _).symm
  | copy other =>
      obtain ⟨made, copied, kept⟩ := consistent.copy (List.getElem_mem (h := allowed))
      refine ⟨{ pointers := program.pointers ++ [made.1], heap := made.2 }, ?_, ?_⟩
      · simp only [step, List.getElem?_eq_getElem allowed, Option.bind_eq_bind, Option.bind_some,
          copied]
        rfl
      · exact kept.perm (List.perm_append_singleton _ _).symm
  | assignRaw self c cell =>
      obtain ⟨held, found, raw, free⟩ := allowed
      have fresh : ∀ object ∈ c, object ∉ program.heap.managed := by
        rcases raw with own | fresh
        · have null : c = none := by
            by_contra given
            exact notOwn ⟨given, held, found, own⟩
          rw [null]
          nofun
        · exact fresh
      have place := (List.getElem?_eq_some_iff.mp found).1
      exact swapIn_consistent place (consistent.construct fresh free)
  | assign self other =>
      obtain ⟨place, from_⟩ := allowed
      obtain ⟨made, copied, kept⟩ := consistent.copy (List.getElem_mem (h := from_))
      obtain ⟨after, ended, kept⟩ := swapIn_consistent place kept
      refine ⟨after, ?_, kept⟩
      simp only [step, List.getElem?_eq_getElem from_, Option.bind_eq_bind, Option.bind_some,
        copied, ended]
  | swap self other =>
      obtain ⟨left, right⟩ := allowed
      refine ⟨{ program with
        pointers :=
          (program.pointers.set self program.pointers[other]).set other program.pointers[self] },
        ?_, consistent.perm (List.set_set_perm left right).symm⟩
      simp only [step, List.getElem?_eq_getElem left, List.getElem?_eq_getElem right,
        Option.bind_eq_bind, Option.bind_some]
      rfl
  | destroy self =>
      have erased := List.getElem_cons_eraseIdx_perm (l := program.pointers) (h := allowed)
      obtain ⟨after, ended, kept⟩ := (consistent.perm erased.symm).destroy
      refine ⟨{ pointers := program.pointers.eraseIdx self, heap := after }, ?_, kept⟩
      simp only [step, List.getElem?_eq_getElem allowed, Option.bind_eq_bind, Option.bind_some,
        ended]
      rfl

/-- After the assignment of the pointer's own raw pointer the object has two counts.
Either the old one has gone to zero and the object is destroyed, or the new one
does not know of the other pointers. -/
theorem not_sound_of_reassignsOwn {program after : PointerProgram} {op : PointerOp}
    (consistent : Consistent program.pointers program.heap) (allowed : program.Allowed op)
    (own : program.ReassignsOwn op) (stepped : program.step op = some after) : ¬ after.Sound := by
  cases op with
  | assignRaw self c cell =>
      obtain ⟨given, held, found, same⟩ := own
      obtain ⟨_, _, _, free⟩ := allowed
      obtain ⟨place, heldAt⟩ := List.getElem?_eq_some_iff.mp found
      obtain ⟨object, isObject⟩ := Option.ne_none_iff_exists'.mp given
      subst isObject
      have member : held ∈ program.pointers := heldAt ▸ List.getElem_mem place
      obtain ⟨old, oldRefs, oldCount⟩ := consistent.counts_eq_owners member same
      have different : old ≠ cell := by
        intro equal
        rw [equal, free] at oldCount
        cases oldCount
      let temporary : RefCountedPointer :=
        { counted := some object, refs := some cell, paired := rfl }
      have positive := owners_pos member same
      have owned : owners (program.pointers.set self temporary) object =
          owners program.pointers object := by
        have exchanged := (exchange_perm temporary place).countP_eq
          fun pointer => pointer.counted = some object
        have counted : temporary.counted = some object := rfl
        have left := owners_cons_self counted program.pointers
        have right := owners_cons_self same (program.pointers.set self temporary)
        rw [heldAt] at exchanged
        simp only [owners] at left right ⊢
        omega
      have temporaryMember : temporary ∈ program.pointers.set self temporary :=
        List.mem_set place _
      simp only [step, RefCountedPointer.construct, swapIn, found, Option.bind_eq_bind,
        Option.bind_some, RefCountedPointer.destroy, oldRefs, Function.update_of_ne different,
        oldCount] at stepped
      intro sound
      by_cases last : owners program.pointers object - 1 = 0
      · rw [if_pos last] at stepped
        cases stepped
        have destroyed := sound.destroyed object
        rw [if_neg fun both => by rw [owned] at both; omega, same, Option.toList_some,
          List.count_append, List.count_singleton_self] at destroyed
        omega
      · rw [if_neg last] at stepped
        cases stepped
        obtain ⟨counter, isCell, count⟩ := sound.counted temporary temporaryMember object rfl
        cases isCell
        simp only [Function.update_of_ne different.symm, Function.update_self] at count
        have one := (Option.some.inj count).trans owned
        omega
  | default => exact own.elim
  | construct c cell => exact own.elim
  | copy other => exact own.elim
  | assign self other => exact own.elim
  | swap self other => exact own.elim
  | destroy self => exact own.elim

/-! ### Runs -/

def SafeStep (before : PointerProgram) (op : PointerOp) (after : PointerProgram) : Prop :=
  before.Allowed op ∧ ¬ before.ReassignsOwn op ∧ before.step op = some after

theorem start_consistent : Consistent start.pointers start.heap where
  tallied := .nil
  agree := nofun
  managed := nofun
  destroyed _ := rfl

theorem run_consistent {ops : List PointerOp} {program : PointerProgram}
    (run : Run SafeStep start ops program) : Consistent program.pointers program.heap := by
  refine run.invariant (fun program => Consistent program.pointers program.heap) ?_
    start_consistent
  rintro before op after consistent ⟨allowed, notOwn, stepped⟩
  obtain ⟨next, taken, kept⟩ := step_consistent consistent allowed notOwn
  rw [stepped] at taken
  cases taken
  exact kept

theorem run_sound_and_next_iff {ops : List PointerOp} {program : PointerProgram}
    (run : Run SafeStep start ops program) :
    program.Sound ∧ ∀ op, program.Allowed op →
      ((∃ after, program.step op = some after ∧ after.Sound) ↔ ¬ program.ReassignsOwn op) := by
  have consistent := run_consistent run
  refine ⟨consistent.sound, fun op allowed => ⟨?_, ?_⟩⟩
  · rintro ⟨after, stepped, sound⟩ own
    exact not_sound_of_reassignsOwn consistent allowed own stepped sound
  · intro notOwn
    obtain ⟨after, stepped, kept⟩ := step_consistent consistent allowed notOwn
    exact ⟨after, stepped, kept.sound⟩

theorem run_sound_and_next_iff_twoPointers :
    ∃ program, Run SafeStep start [.construct (some 7) 1, .copy 0] program ∧ program.Sound ∧
      (program.Allowed (.destroy 0) →
        ((∃ after, program.step (.destroy 0) = some after ∧ after.Sound) ↔
          ¬ program.ReassignsOwn (.destroy 0))) := by
  have run : Run SafeStep start [.construct (some 7) 1, .copy 0] _ :=
    .cons ⟨⟨nofun, rfl⟩, nofun, rfl⟩ (.cons ⟨Nat.zero_lt_one, nofun, rfl⟩ (.nil _))
  have both := run_sound_and_next_iff run
  exact ⟨_, run, both.1, both.2 (.destroy 0)⟩

/-- A pointer that is assigned the raw pointer it manages destroys the object, goes
on pointing at it and destroys it again at its end. -/
theorem ownRaw_destroyed_twice :
    ∃ made reassigned ended, start.Allowed (.construct (some 7) 1) ∧
      start.step (.construct (some 7) 1) = some made ∧
      made.Allowed (.assignRaw 0 (some 7) 2) ∧
      made.step (.assignRaw 0 (some 7) 2) = some reassigned ∧
      owners reassigned.pointers 7 = 1 ∧ reassigned.heap.destroyed = [7] ∧
      reassigned.step (.destroy 0) = some ended ∧ ended.heap.destroyed = [7, 7] := by
  refine ⟨_, _, _, ⟨nofun, rfl⟩, rfl, ⟨_, rfl, .inl rfl, rfl⟩, rfl, ?_, rfl, rfl, rfl⟩
  decide

end PointerProgram

end LibTabula
