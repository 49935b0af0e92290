/-
The connection pool, one access at a time.

What a thread does while it holds the pool's mutex is cut at every test, every write
of a node and every call of `create()` or `destroy()`. An iterator is the position
of its node. The clock, `max_idle_time()` and `create()` are read by the access that
calls them. The accesses of a section, taken together, do what the function that
models the whole section does; none of them dereferences an iterator at the end of
the list, and their number is bounded by the size of the pool.
-/

import LibTabula.PoolHistory
import LibTabula.Foundation.Locking

set_option autoImplicit false

namespace LibTabula

open Foundation

/-- The loops over the list. -/
inductive PoolLoop
  | clear (all : Bool)
  | release (pc : ConnectionPtr)
  | remove (pc : ConnectionPtr)
  | removeOld (minAge : Int)
deriving DecidableEq, Repr

/-- Where a thread is in a section. -/
inductive PoolPoint
  | scanning (loop : PoolLoop) (it : Nat)
  /-- In `remove(const PoolIt&)`, before `destroy()`. -/
  | destroying (loop : PoolLoop) (it : Nat)
  /-- In `remove(const PoolIt&)`, before `erase()`. -/
  | erasing (loop : PoolLoop) (it : Nat)
  /-- In `release()`, between its two assignments. -/
  | stamping (it : Nat)
  /-- In `remove_old_connections()`, before its functor is constructed. -/
  | aging
  /-- In `find_mru()`, before and in `std::max_element()`, and after it. -/
  | maximum
  | comparing (mru it : Nat)
  | testing (mru : Nat)
  | marking (mru : Nat)
  | returning (mru : Nat)
  | creating
  | pushing (conn : ConnectionPtr)
deriving DecidableEq, Repr

/-- What an access reads from outside, if it reads it. -/
structure AccessInput where
  now : Int
  maxIdleTime : Nat
  create : Option ConnectionPtr
deriving DecidableEq, Repr

/-- The public operations that take the mutex, and `clear()`. -/
inductive PoolCall
  | grab
  | release (pc : ConnectionPtr)
  | remove (pc : ConnectionPtr)
  | clear (all : Bool)
deriving DecidableEq, Repr

namespace PoolLoop

def hits : PoolLoop → ConnectionInfo → Bool
  | clear all, info => all || !info.inUse
  | release pc, info | remove pc, info => info.conn == pc
  | removeOld minAge, info => info.tooOld minAge

/-- What follows the loop. -/
def ended : PoolLoop → PoolPoint ⊕ Option ConnectionPtr
  | clear _ | release _ | remove _ => .inr none
  | removeOld _ => .inl .maximum

/-- What follows the body of the loop after it erased a node: the loops over the whole
list have moved their iterator on before. -/
def erased (loop : PoolLoop) (it : Nat) : PoolPoint ⊕ Option ConnectionPtr :=
  match loop with
  | clear _ | removeOld _ => .inl (.scanning loop it)
  | release _ | remove _ => .inr none

end PoolLoop

def PoolCall.entry : PoolCall → PoolPoint
  | grab => .aging
  | release pc => .scanning (.release pc) 0
  | remove pc => .scanning (.remove pc) 0
  | clear all => .scanning (.clear all) 0

namespace PoolSection

def call : PoolSection → PoolCall
  | grab _ => .grab
  | release pc _ => .release pc
  | remove pc => .remove pc
  | clear all => .clear all

/-- What the section returns: `none` also where `create()` throws. -/
def result (pool : ConnectionPool) : PoolSection → Option ConnectionPtr
  | grab input => (pool.grab input).1
  | release _ _ | remove _ | clear _ => none

end PoolSection

namespace ConnectionPool

/-- One access. It is `none` where the code would dereference an iterator at the end
of the list. -/
def access (self : ConnectionPool) (input : AccessInput) :
    PoolPoint → Option ((PoolPoint ⊕ Option ConnectionPtr) × ConnectionPool)
  | .scanning loop it =>
      match self.pool[it]? with
      | none => some (loop.ended, self)
      | some info =>
          if loop.hits info then
            match loop with
            | .release _ =>
                some (.inl (.stamping it),
                  { self with pool := self.pool.set it { info with inUse := false } })
            | .clear _ | .remove _ | .removeOld _ => some (.inl (.destroying loop it), self)
          else some (.inl (.scanning loop (it + 1)), self)
  | .destroying loop it =>
      match self.pool[it]? with
      | none => none
      | some info =>
          some (.inl (.erasing loop it), { self with destroyed := self.destroyed ++ [info.conn] })
  | .erasing loop it =>
      match self.pool[it]? with
      | none => none
      | some _ => some (loop.erased it, { self with pool := self.pool.eraseIdx it })
  | .stamping it =>
      match self.pool[it]? with
      | none => none
      | some info =>
          some (.inr none,
            { self with pool := self.pool.set it { info with lastUsed := input.now } })
  | .aging => some (.inl (.scanning (.removeOld (input.now - input.maxIdleTime)) 0), self)
  | .maximum =>
      match self.pool with
      | [] => some (.inl .creating, self)
      | _ :: _ => some (.inl (.comparing 0 1), self)
  | .comparing mru it =>
      match self.pool[it]?, self.pool[mru]? with
      | none, _ => some (.inl (.testing mru), self)
      | some _, none => none
      | some candidate, some largest =>
          if largest.lt candidate then some (.inl (.comparing it (it + 1)), self)
          else some (.inl (.comparing mru (it + 1)), self)
  | .testing mru =>
      match self.pool[mru]? with
      | none => none
      | some info => some (.inl (if info.inUse then .creating else .marking mru), self)
  | .marking mru =>
      match self.pool[mru]? with
      | none => none
      | some info =>
          some (.inl (.returning mru),
            { self with pool := self.pool.set mru { info with inUse := true } })
  | .returning mru =>
      match self.pool[mru]? with
      | none => none
      | some info =>
          some (if info.conn = 0 then .inl .creating else .inr (some info.conn), self)
  | .creating =>
      match input.create with
      | none => some (.inr none, self)
      | some conn =>
          some (.inl (.pushing conn), { self with created := self.created ++ [conn] })
  | .pushing conn =>
      some (.inr (some conn),
        { self with pool := self.pool ++ [ConnectionInfo.new conn input.now] })

/-- `create()` makes an object: its address is neither null nor that of a connection
in the pool. -/
def Permits (self : ConnectionPool) (input : AccessInput) (point : PoolPoint) : Prop :=
  point = .creating → ∀ conn, input.create = some conn → conn ≠ 0 ∧ conn ∉ self.pointers

def Accesses (point : PoolPoint) (before : ConnectionPool)
    (next : PoolPoint ⊕ Option ConnectionPtr) (after : ConnectionPool) : Prop :=
  ∃ input, before.Permits input point ∧ before.access input point = some (next, after)

/-! ### What a section has done so far -/

/-- The pool of a loop that has passed `seen`, erased what it hit there and has `rest`
ahead. -/
def swept (self : ConnectionPool) (hits : ConnectionInfo → Bool)
    (seen rest : List ConnectionInfo) : ConnectionPool :=
  { self with
    pool := seen.filter (fun info => !hits info) ++ rest
    destroyed := self.destroyed ++ (seen.filter hits).map ConnectionInfo.conn }

end ConnectionPool

namespace PoolLoop

/-- The loops that end with the first node they hit. -/
def stops : PoolLoop → Bool
  | release _ | remove _ => true
  | clear _ | removeOld _ => false

/-- Whose loop it is. -/
def Serves (call : PoolCall) : PoolLoop → Prop
  | clear all => call = .clear all
  | release pc => call = .release pc
  | remove pc => call = .remove pc
  | removeOld minAge => call = .grab ∧ ∃ now : Int, ∃ maxIdleTime : Nat, minAge = now - maxIdleTime

structure Passed (base : ConnectionPool) (loop : PoolLoop) (it : Nat)
    (seen rest : List ConnectionInfo) : Prop where
  shape : base.pool = seen ++ rest
  position : it = (seen.filter (fun info => !loop.hits info)).length
  first : loop.stops = true → ∀ info ∈ seen, loop.hits info = false

end PoolLoop

namespace ConnectionPool

/-- A loop at its condition. -/
def Scanning (base : ConnectionPool) (loop : PoolLoop) (it : Nat) (self : ConnectionPool) : Prop :=
  ∃ seen rest, loop.Passed base it seen rest ∧ self = base.swept loop.hits seen rest

/-- A loop at a node it hit, of which it has passed `gone` to `destroy()`. -/
def Hitting (base : ConnectionPool) (loop : PoolLoop) (it : Nat)
    (gone : ConnectionInfo → List ConnectionPtr) (self : ConnectionPool) : Prop :=
  ∃ seen info rest, loop.Passed base it seen (info :: rest) ∧ loop.hits info = true ∧
    self = { base.swept loop.hits seen (info :: rest) with
      destroyed := (base.swept loop.hits seen (info :: rest)).destroyed ++ gone info }

/-- `grab()` with the old connections gone. -/
def Aged (base : ConnectionPool) (call : PoolCall) (holds : ConnectionPool → Prop) : Prop :=
  call = .grab ∧ ∃ now maxIdleTime, holds (base.removeOldConnections now maxIdleTime)

/-- What the accesses of a section so far have made of the pool it found. -/
def Serves (base : ConnectionPool) (call : PoolCall) (self : ConnectionPool) :
    PoolPoint ⊕ Option ConnectionPtr → Prop
  | .inl (.scanning loop it) => loop.Serves call ∧ base.Scanning loop it self
  | .inl (.destroying loop it) =>
      (loop.Serves call ∧ ∀ pc, loop ≠ .release pc) ∧ base.Hitting loop it (fun _ => []) self
  | .inl (.erasing loop it) =>
      (loop.Serves call ∧ ∀ pc, loop ≠ .release pc) ∧
        base.Hitting loop it (fun info => [info.conn]) self
  | .inl (.stamping it) =>
      ∃ pc seen info rest, call = .release pc ∧
        (PoolLoop.release pc).Passed base it seen (info :: rest) ∧ info.conn = pc ∧
        self = { base with pool := seen ++ { info with inUse := false } :: rest }
  | .inl .aging => call = .grab ∧ self = base
  | .inl .maximum => base.Aged call fun aged => self = aged
  | .inl (.comparing mru it) =>
      base.Aged call fun aged =>
        self = aged ∧ ∃ largest, aged.pool[mru]? = some largest ∧
          maxElement ConnectionInfo.lt aged.pool =
            some (maxElementFrom ConnectionInfo.lt mru largest it (aged.pool.drop it))
  | .inl (.testing mru) =>
      base.Aged call fun aged =>
        self = aged ∧ maxElement ConnectionInfo.lt aged.pool = some mru
  | .inl (.marking mru) =>
      base.Aged call fun aged =>
        self = aged ∧ maxElement ConnectionInfo.lt aged.pool = some mru ∧
          ∃ info, aged.pool[mru]? = some info ∧ info.inUse = false
  | .inl (.returning mru) =>
      base.Aged call fun aged =>
        self = aged.findMru.2 ∧
          ∃ info, self.pool[mru]? = some info ∧ aged.findMru.1 = info.conn
  | .inl .creating =>
      base.Aged call fun aged => self = aged.findMru.2 ∧ aged.findMru.1 = 0
  | .inl (.pushing conn) =>
      base.Aged call fun aged =>
        (aged.findMru.1 = 0 ∧ conn ≠ 0 ∧ conn ∉ aged.pointers) ∧
          self = { aged.findMru.2 with created := aged.findMru.2.created ++ [conn] }
  | .inr result =>
      ∃ section_ : PoolSection, section_.call = call ∧ base.CreatesDistinct section_ ∧
        WatchedPool.CreatesObject section_ ∧
        self = base.perform section_ ∧ result = section_.result base

section Access

variable {base self : ConnectionPool} {call : PoolCall} {input : AccessInput} {loop : PoolLoop}
  {it : Nat}

theorem swept_of_first {hits : ConnectionInfo → Bool} {seen rest : List ConnectionInfo}
    (shape : base.pool = seen ++ rest) (first : ∀ info ∈ seen, hits info = false) :
    base.swept hits seen rest = base := by
  have kept : seen.filter (fun info => !hits info) = seen := by
    apply List.filter_eq_self.mpr
    intro info member
    rw [first info member]
    rfl
  have none : seen.filter hits = [] := by
    apply List.filter_eq_nil_iff.mpr
    intro info member
    rw [first info member]
    exact Bool.false_ne_true
  rw [swept, kept, none, ← shape, List.map_nil, List.append_nil]

theorem swept_all (hits : ConnectionInfo → Bool) :
    base.swept hits base.pool [] =
      { base with
        pool := base.pool.filter (fun info => !hits info)
        destroyed := base.destroyed ++ (base.pool.filter hits).map ConnectionInfo.conn } := by
  rw [swept, List.append_nil]

/-- The node the iterator of a loop is at. -/
theorem getElem?_swept {seen rest : List ConnectionInfo}
    (passed : loop.Passed base it seen rest) :
    (base.swept loop.hits seen rest).pool[it]? = rest.head? := by
  rw [passed.position, swept]
  simp only [List.getElem?_append_right (Nat.le_refl _), Nat.sub_self]
  cases rest with
  | nil => rfl
  | cons info rest => rfl

end Access

end ConnectionPool

namespace PoolLoop

section Passed

variable {base : ConnectionPool} {loop : PoolLoop} {it : Nat}

theorem Passed.step {seen rest : List ConnectionInfo} {info : ConnectionInfo}
    (passed : loop.Passed base it seen (info :: rest)) (missed : loop.hits info = false) :
    loop.Passed base (it + 1) (seen ++ [info]) rest ∧
      base.swept loop.hits (seen ++ [info]) rest = base.swept loop.hits seen (info :: rest) := by
  have kept : [info].filter (fun info => !loop.hits info) = [info] := by
    rw [List.filter_cons, missed]
    rfl
  have none : [info].filter loop.hits = [] := by
    rw [List.filter_cons, missed]
    rfl
  constructor
  · constructor
    · rw [passed.shape, List.append_assoc, List.singleton_append]
    · rw [List.filter_append, kept, List.length_append, ← passed.position, List.length_singleton]
    · intro stops other member
      rcases List.mem_append.mp member with earlier | last
      · exact passed.first stops other earlier
      · rw [List.mem_singleton.mp last]
        exact missed
  · rw [ConnectionPool.swept, ConnectionPool.swept, List.filter_append, List.filter_append, kept,
      none, List.append_nil, List.append_assoc, List.singleton_append]

/-- The loops over the whole list go on after a node they erased. -/
theorem Passed.erase {seen rest : List ConnectionInfo} {info : ConnectionInfo}
    (passed : loop.Passed base it seen (info :: rest)) (hit : loop.hits info = true)
    (whole : loop.stops = false) :
    loop.Passed base it (seen ++ [info]) rest ∧
      { base.swept loop.hits seen (info :: rest) with
        pool := (base.swept loop.hits seen (info :: rest)).pool.eraseIdx it
        destroyed := (base.swept loop.hits seen (info :: rest)).destroyed ++ [info.conn] } =
        base.swept loop.hits (seen ++ [info]) rest := by
  have none : [info].filter (fun info => !loop.hits info) = [] := by
    rw [List.filter_cons, hit]
    rfl
  have taken : [info].filter loop.hits = [info] := by
    rw [List.filter_cons, hit]
    rfl
  constructor
  · constructor
    · rw [passed.shape, List.append_assoc, List.singleton_append]
    · rw [List.filter_append, none, List.append_nil]
      exact passed.position
    · intro stops
      rw [whole] at stops
      cases stops
  · rw [ConnectionPool.swept, ConnectionPool.swept, List.filter_append, List.filter_append, none,
      taken, List.append_nil, passed.position, List.map_append, List.append_assoc]
    simp only [List.eraseIdx_append_of_length_le (Nat.le_refl _), Nat.sub_self,
      List.eraseIdx_cons_zero, List.map_cons, List.map_nil]

end Passed

end PoolLoop

namespace ConnectionPool

section Step

variable {base self after : ConnectionPool} {call : PoolCall} {input : AccessInput}
  {loop : PoolLoop} {it : Nat} {next : PoolPoint ⊕ Option ConnectionPtr}

theorem Passed_length {seen rest : List ConnectionInfo} (passed : loop.Passed base it seen rest)
    (stops : loop.stops = true) : it = seen.length := by
  rw [passed.position, List.filter_eq_self.mpr]
  intro info member
  rw [passed.first stops info member]
  rfl

theorem not_mem_pointers_of_searched {seen : List ConnectionInfo} {pc : ConnectionPtr}
    (shape : base.pool = seen) (missed : ∀ info ∈ seen, (info.conn == pc) = false) :
    pc ∉ base.pointers := by
  intro member
  obtain ⟨info, pooled, same⟩ := List.mem_map.mp member
  have differs := missed info (shape ▸ pooled)
  rw [same, beq_self_eq_true] at differs
  cases differs

/-- A loop that has come to the end of the list. -/
theorem serves_ended {seen : List ConnectionInfo} (serves : loop.Serves call)
    (passed : loop.Passed base it seen []) :
    base.Serves call (base.swept loop.hits seen []) loop.ended := by
  have shape : base.pool = seen := by
    rw [passed.shape, List.append_nil]
  cases loop with
  | clear all =>
      refine ⟨.clear all, serves.symm, trivial, trivial, ?_, rfl⟩
      rw [← shape, swept_all]
      exact (clear_eq base all).symm
  | release pc =>
      refine ⟨.release pc 0, serves.symm, trivial, trivial, ?_, rfl⟩
      rw [swept_of_first passed.shape (passed.first rfl)]
      exact (release_of_not_mem base pc 0
        (not_mem_pointers_of_searched shape (passed.first rfl))).symm
  | remove pc =>
      refine ⟨.remove pc, serves.symm, trivial, trivial, ?_, rfl⟩
      rw [swept_of_first passed.shape (passed.first rfl)]
      exact (remove_of_not_mem base pc
        (not_mem_pointers_of_searched shape (passed.first rfl))).symm
  | removeOld minAge =>
      obtain ⟨called, now, maxIdleTime, age⟩ := serves
      refine ⟨called, now, maxIdleTime, ?_⟩
      rw [← shape, swept_all, removeOldConnections_eq, age]
      rfl

theorem serves_scanning (serves : base.Serves call self (.inl (.scanning loop it)))
    (accessed : self.access input (.scanning loop it) = some (next, after)) :
    base.Serves call after next := by
  obtain ⟨loops, seen, rest, passed, rfl⟩ := serves
  rw [access, getElem?_swept passed] at accessed
  cases rest with
  | nil =>
      simp only [List.head?_nil, Option.some.injEq, Prod.mk.injEq] at accessed
      obtain ⟨rfl, rfl⟩ := accessed
      exact serves_ended loops passed
  | cons info rest =>
      simp only [List.head?_cons] at accessed
      cases hit : loop.hits info with
      | false =>
          rw [hit] at accessed
          simp only [Bool.false_eq_true, if_false, Option.some.injEq, Prod.mk.injEq] at accessed
          obtain ⟨rfl, rfl⟩ := accessed
          obtain ⟨further, same⟩ := passed.step hit
          exact ⟨loops, seen ++ [info], rest, further, same.symm⟩
      | true =>
          rw [hit, if_pos rfl] at accessed
          have hitting : base.Hitting loop it (fun _ => [])
              (base.swept loop.hits seen (info :: rest)) := by
            refine ⟨seen, info, rest, passed, hit, ?_⟩
            rw [List.append_nil]
          cases loop with
          | clear all =>
              cases accessed
              exact ⟨⟨loops, by intro pc impossible; cases impossible⟩, hitting⟩
          | remove pc =>
              cases accessed
              exact ⟨⟨loops, by intro pc impossible; cases impossible⟩, hitting⟩
          | removeOld minAge =>
              cases accessed
              exact ⟨⟨loops, by intro pc impossible; cases impossible⟩, hitting⟩
          | release pc =>
              cases accessed
              refine ⟨pc, seen, info, rest, loops, passed, by simpa [PoolLoop.hits] using hit, ?_⟩
              rw [swept_of_first passed.shape (passed.first rfl), passed.shape,
                Passed_length passed rfl]
              simp

theorem serves_destroying (serves : base.Serves call self (.inl (.destroying loop it)))
    (accessed : self.access input (.destroying loop it) = some (next, after)) :
    base.Serves call after next := by
  obtain ⟨loops, seen, info, rest, passed, hit, rfl⟩ := serves
  rw [access, List.append_nil, getElem?_swept passed] at accessed
  cases accessed
  exact ⟨loops, seen, info, rest, passed, hit, rfl⟩

/-- A search stops at the first node it hits. -/
theorem find_of_first {seen rest : List ConnectionInfo} {info : ConnectionInfo}
    {pc : ConnectionPtr} (shape : base.pool = seen ++ info :: rest)
    (missed : ∀ other ∈ seen, (other.conn == pc) = false) (hit : info.conn = pc) :
    base.find pc = ⟨seen, info :: rest⟩ := by
  have skipped : ∀ other ∈ seen, (!(other.conn == pc)) = true := by
    intro other member
    rw [missed other member]
    rfl
  have stopped : (!(info.conn == pc)) = false := by
    rw [hit, beq_self_eq_true]
    rfl
  rw [find, Cursor.findIf, Cursor.start, shape]
  simp only [List.nil_append, List.takeWhile_append_of_pos skipped,
    List.dropWhile_append_of_pos skipped, List.takeWhile_cons, List.dropWhile_cons, stopped,
    Bool.false_eq_true, if_false, List.append_nil]

theorem remove_of_first {seen rest : List ConnectionInfo} {info : ConnectionInfo}
    {pc : ConnectionPtr} (shape : base.pool = seen ++ info :: rest)
    (missed : ∀ other ∈ seen, (other.conn == pc) = false) (hit : info.conn = pc) :
    base.remove pc =
      { base with pool := seen ++ rest, destroyed := base.destroyed ++ [info.conn] } := by
  simp only [remove, find_of_first shape missed hit, dispose, Cursor.erase, Cursor.toList,
    List.tail_cons, List.map_cons, List.map_nil]

theorem release_of_first {seen rest : List ConnectionInfo} {info : ConnectionInfo}
    {pc : ConnectionPtr} (now : Int) (shape : base.pool = seen ++ info :: rest)
    (missed : ∀ other ∈ seen, (other.conn == pc) = false) (hit : info.conn = pc) :
    base.release pc now =
      { base with pool := seen ++ { info with inUse := false, lastUsed := now } :: rest } := by
  simp only [release, find_of_first shape missed hit]

theorem serves_erasing (serves : base.Serves call self (.inl (.erasing loop it)))
    (accessed : self.access input (.erasing loop it) = some (next, after)) :
    base.Serves call after next := by
  obtain ⟨⟨loops, noRelease⟩, seen, info, rest, passed, hit, rfl⟩ := serves
  rw [access, getElem?_swept passed] at accessed
  simp only [List.head?_cons, Option.some.injEq, Prod.mk.injEq] at accessed
  obtain ⟨rfl, rfl⟩ := accessed
  cases loop with
  | clear all =>
      obtain ⟨further, same⟩ := passed.erase hit rfl
      exact ⟨loops, seen ++ [info], rest, further, same⟩
  | removeOld minAge =>
      obtain ⟨further, same⟩ := passed.erase hit rfl
      exact ⟨loops, seen ++ [info], rest, further, same⟩
  | release pc => exact absurd rfl (noRelease pc)
  | remove pc =>
      have same : info.conn = pc := by simpa [PoolLoop.hits] using hit
      refine ⟨.remove pc, loops.symm, trivial, trivial, ?_, rfl⟩
      rw [perform, remove_of_first passed.shape (passed.first rfl) same,
        swept_of_first passed.shape (passed.first rfl), passed.shape, Passed_length passed rfl]
      simp only [List.eraseIdx_append_of_length_le (Nat.le_refl _), Nat.sub_self,
        List.eraseIdx_cons_zero]

theorem serves_stamping (serves : base.Serves call self (.inl (.stamping it)))
    (accessed : self.access input (.stamping it) = some (next, after)) :
    base.Serves call after next := by
  obtain ⟨pc, seen, info, rest, called, passed, hit, rfl⟩ := serves
  have position := Passed_length passed rfl
  subst position
  rw [access] at accessed
  simp only [List.getElem?_append_right (Nat.le_refl _), Nat.sub_self, List.getElem?_cons_zero,
    List.set_append_right _ _ (Nat.le_refl _), List.set_cons_zero, Option.some.injEq,
    Prod.mk.injEq] at accessed
  obtain ⟨rfl, rfl⟩ := accessed
  refine ⟨.release pc input.now, called.symm, trivial, trivial, ?_, rfl⟩
  rw [perform, release_of_first input.now passed.shape (passed.first rfl) hit]

/-! ### `grab()` after the old connections are gone -/

theorem serves_aging (serves : base.Serves call self (.inl .aging))
    (accessed : self.access input .aging = some (next, after)) : base.Serves call after next := by
  obtain ⟨called, rfl⟩ := serves
  cases accessed
  refine ⟨⟨called, input.now, input.maxIdleTime, rfl⟩, [], self.pool, ⟨rfl, rfl, ?_⟩, ?_⟩
  · intro _ info impossible
    cases impossible
  · rw [swept, List.filter_nil, List.filter_nil, List.map_nil, List.append_nil, List.nil_append]

theorem findMru_of_maximum {aged : ConnectionPool} {mru : Nat} {info : ConnectionInfo}
    (largest : maxElement ConnectionInfo.lt aged.pool = some mru)
    (at_ : aged.pool[mru]? = some info) :
    aged.findMru = if info.inUse then (0, aged) else
      (info.conn, { aged with pool := aged.pool.set mru { info with inUse := true } }) := by
  simp only [findMru, largest, at_]

theorem serves_maximum (serves : base.Serves call self (.inl .maximum))
    (accessed : self.access input .maximum = some (next, after)) :
    base.Serves call after next := by
  obtain ⟨called, now, maxIdleTime, rfl⟩ := serves
  rw [access] at accessed
  cases shape : (base.removeOldConnections now maxIdleTime).pool with
  | nil =>
      rw [shape] at accessed
      cases accessed
      have nothing : (base.removeOldConnections now maxIdleTime).findMru =
          (0, base.removeOldConnections now maxIdleTime) := by
        simp only [findMru, shape, maxElement]
      refine ⟨called, now, maxIdleTime, ?_, ?_⟩
      · rw [nothing]
      · rw [nothing]
  | cons info rest =>
      rw [shape] at accessed
      cases accessed
      refine ⟨called, now, maxIdleTime, rfl, info, ?_, ?_⟩
      · rw [shape]
        rfl
      · rw [shape]
        rfl

theorem serves_comparing {mru : Nat} (serves : base.Serves call self (.inl (.comparing mru it)))
    (accessed : self.access input (.comparing mru it) = some (next, after)) :
    base.Serves call after next := by
  obtain ⟨called, now, maxIdleTime, rfl, largest, atMru, search⟩ := serves
  generalize shape : base.removeOldConnections now maxIdleTime = aged at *
  rw [access, atMru] at accessed
  cases ahead : aged.pool[it]? with
  | none =>
      have passed : aged.pool.drop it = [] :=
        List.drop_eq_nil_iff.mpr (List.getElem?_eq_none_iff.mp ahead)
      rw [passed] at search
      rw [ahead] at accessed
      cases accessed
      exact ⟨called, now, maxIdleTime, shape.symm, by rw [shape]; exact search⟩
  | some candidate =>
      rw [ahead] at accessed
      have split : aged.pool.drop it = candidate :: aged.pool.drop (it + 1) := by
        obtain ⟨bound, here⟩ := List.getElem?_eq_some_iff.mp ahead
        rw [← here]
        exact List.drop_eq_getElem_cons bound
      rw [split, maxElementFrom] at search
      simp only at accessed
      by_cases larger : largest.lt candidate = true
      · rw [if_pos larger] at accessed search
        cases accessed
        exact ⟨called, now, maxIdleTime, shape.symm, candidate, by rw [shape]; exact ahead,
          by rw [shape]; exact search⟩
      · rw [if_neg larger] at accessed search
        cases accessed
        exact ⟨called, now, maxIdleTime, shape.symm, largest, by rw [shape]; exact atMru,
          by rw [shape]; exact search⟩

theorem serves_testing {mru : Nat} (serves : base.Serves call self (.inl (.testing mru)))
    (accessed : self.access input (.testing mru) = some (next, after)) :
    base.Serves call after next := by
  obtain ⟨called, now, maxIdleTime, rfl, largest⟩ := serves
  rw [access] at accessed
  cases at_ : (base.removeOldConnections now maxIdleTime).pool[mru]? with
  | none =>
      rw [at_] at accessed
      cases accessed
  | some info =>
      rw [at_] at accessed
      have found := findMru_of_maximum largest at_
      cases used : info.inUse with
      | true =>
          rw [used, if_pos rfl] at found
          simp only [used, if_true] at accessed
          cases accessed
          refine ⟨called, now, maxIdleTime, ?_, ?_⟩
          · rw [found]
          · rw [found]
      | false =>
          simp only [used, Bool.false_eq_true, if_false] at accessed
          cases accessed
          exact ⟨called, now, maxIdleTime, rfl, largest, info, at_, used⟩

theorem serves_marking {mru : Nat} (serves : base.Serves call self (.inl (.marking mru)))
    (accessed : self.access input (.marking mru) = some (next, after)) :
    base.Serves call after next := by
  obtain ⟨called, now, maxIdleTime, rfl, largest, info, at_, free⟩ := serves
  have found := findMru_of_maximum largest at_
  rw [free] at found
  simp only [Bool.false_eq_true, if_false] at found
  rw [access, at_] at accessed
  cases accessed
  refine ⟨called, now, maxIdleTime, ?_, { info with inUse := true }, ?_, ?_⟩
  · rw [found]
  · exact List.getElem?_set_self (List.getElem?_eq_some_iff.mp at_).1
  · rw [found]

theorem serves_returning {mru : Nat} (serves : base.Serves call self (.inl (.returning mru)))
    (accessed : self.access input (.returning mru) = some (next, after)) :
    base.Serves call after next := by
  obtain ⟨called, now, maxIdleTime, rfl, info, at_, conn⟩ := serves
  rw [access, at_] at accessed
  simp only at accessed
  by_cases null : info.conn = 0
  · rw [if_pos null] at accessed
    cases accessed
    exact ⟨called, now, maxIdleTime, rfl, conn.trans null⟩
  · rw [if_neg null] at accessed
    cases accessed
    have some_ : (base.removeOldConnections now maxIdleTime).findMru.1 ≠ 0 := by
      rw [conn]
      exact null
    refine ⟨.grab { now := now, maxIdleTime := maxIdleTime, create := none, stamp := 0 },
      called.symm, ?_, ?_, ?_, ?_⟩
    · intro _ made impossible
      cases impossible
    · intro impossible
      cases impossible
    · rw [perform, grab]
      simp only [ne_eq, some_, not_false_eq_true, if_true]
    · rw [PoolSection.result, grab]
      simp only [ne_eq, some_, not_false_eq_true, if_true]
      exact congrArg some conn.symm

theorem serves_creating (serves : base.Serves call self (.inl .creating))
    (permits : self.Permits input .creating)
    (accessed : self.access input .creating = some (next, after)) :
    base.Serves call after next := by
  obtain ⟨called, now, maxIdleTime, rfl, nothing⟩ := serves
  rw [access] at accessed
  cases made : input.create with
  | none =>
      rw [made] at accessed
      cases accessed
      refine ⟨.grab { now := now, maxIdleTime := maxIdleTime, create := none, stamp := 0 },
        called.symm, ?_, ?_, ?_, ?_⟩
      · intro _ conn impossible
        cases impossible
      · intro impossible
        cases impossible
      · rw [perform, grab]
        simp only [nothing, ne_eq, not_true_eq_false, if_false]
      · rw [PoolSection.result, grab]
        simp only [nothing, ne_eq, not_true_eq_false, if_false]
  | some conn =>
      rw [made] at accessed
      cases accessed
      obtain ⟨object, new⟩ := permits rfl conn made
      rw [(findMru_frame _).1] at new
      exact ⟨called, now, maxIdleTime, ⟨nothing, object, new⟩, rfl⟩

theorem serves_pushing {conn : ConnectionPtr}
    (serves : base.Serves call self (.inl (.pushing conn)))
    (accessed : self.access input (.pushing conn) = some (next, after)) :
    base.Serves call after next := by
  obtain ⟨called, now, maxIdleTime, ⟨nothing, object, new⟩, rfl⟩ := serves
  cases accessed
  refine ⟨.grab { now := now, maxIdleTime := maxIdleTime, create := some conn, stamp := input.now },
    called.symm, ?_, ?_, ?_, ?_⟩
  · intro _ made same
    cases same
    exact new
  · intro null
    exact object (Option.some.inj null)
  · rw [perform, grab]
    simp only [nothing, ne_eq, not_true_eq_false, if_false]
  · rw [PoolSection.result, grab]
    simp only [nothing, ne_eq, not_true_eq_false, if_false]

/-- Every access keeps what the section has done. -/
theorem serves_access {point : PoolPoint} (serves : base.Serves call self (.inl point))
    (accesses : Accesses point self next after) : base.Serves call after next := by
  obtain ⟨input, permits, accessed⟩ := accesses
  cases point with
  | scanning loop it => exact serves_scanning serves accessed
  | destroying loop it => exact serves_destroying serves accessed
  | erasing loop it => exact serves_erasing serves accessed
  | stamping it => exact serves_stamping serves accessed
  | aging => exact serves_aging serves accessed
  | maximum => exact serves_maximum serves accessed
  | comparing mru it => exact serves_comparing serves accessed
  | testing mru => exact serves_testing serves accessed
  | marking mru => exact serves_marking serves accessed
  | returning mru => exact serves_returning serves accessed
  | creating => exact serves_creating serves permits accessed
  | pushing conn => exact serves_pushing serves accessed

theorem serves_entry (base : ConnectionPool) (call : PoolCall) :
    base.Serves call base (.inl call.entry) := by
  have starts : ∀ loop : PoolLoop, base.Scanning loop 0 base := by
    intro loop
    refine ⟨[], base.pool, ⟨rfl, rfl, ?_⟩, ?_⟩
    · intro _ info impossible
      cases impossible
    · rw [swept, List.filter_nil, List.filter_nil, List.map_nil, List.append_nil, List.nil_append]
  cases call with
  | grab => exact ⟨rfl, rfl⟩
  | release pc => exact ⟨rfl, starts _⟩
  | remove pc => exact ⟨rfl, starts _⟩
  | clear all => exact ⟨rfl, starts _⟩

/-! ### No access is stuck -/

theorem access_isSome {point : PoolPoint} (serves : base.Serves call self (.inl point))
    (input : AccessInput) : (self.access input point).isSome = true := by
  cases point with
  | scanning loop it =>
      rw [access]
      cases self.pool[it]? with
      | none => rfl
      | some info =>
          simp only
          cases loop.hits info with
          | false => rfl
          | true => cases loop <;> rfl
  | destroying loop it =>
      obtain ⟨_, seen, info, rest, passed, _, rfl⟩ := serves
      rw [access, getElem?_swept passed]
      rfl
  | erasing loop it =>
      obtain ⟨_, seen, info, rest, passed, _, rfl⟩ := serves
      rw [access, getElem?_swept passed]
      rfl
  | stamping it =>
      obtain ⟨pc, seen, info, rest, _, passed, _, rfl⟩ := serves
      have position := Passed_length passed rfl
      subst position
      rw [access]
      simp only [List.getElem?_append_right (Nat.le_refl _), Nat.sub_self,
        List.getElem?_cons_zero, Option.isSome_some]
  | aging => rfl
  | maximum =>
      rw [access]
      cases self.pool with
      | nil => rfl
      | cons info rest => rfl
  | comparing mru it =>
      obtain ⟨_, now, maxIdleTime, rfl, largest, atMru, _⟩ := serves
      rw [access, atMru]
      cases (base.removeOldConnections now maxIdleTime).pool[it]? with
      | none => rfl
      | some candidate =>
          simp only
          cases largest.lt candidate with
          | true => rfl
          | false => rfl
  | testing mru =>
      obtain ⟨_, now, maxIdleTime, rfl, largest⟩ := serves
      obtain ⟨info, atMru, _⟩ := maxElement_spec ConnectionInfo.lt largest
      rw [access, atMru]
      rfl
  | marking mru =>
      obtain ⟨_, now, maxIdleTime, rfl, _, info, atMru, _⟩ := serves
      rw [access, atMru]
      rfl
  | returning mru =>
      obtain ⟨_, now, maxIdleTime, _, info, atMru, _⟩ := serves
      rw [access, atMru]
      rfl
  | creating =>
      rw [access]
      cases input.create with
      | none => rfl
      | some conn => rfl
  | pushing conn => rfl

/-! ### The number of accesses -/

/-- The accesses of `grab()` after its erasing loop. -/
def afterLoop (size : Nat) : PoolLoop → Nat
  | .removeOld _ => size + 8
  | .clear _ | .release _ | .remove _ => 0

def accessesLeft (point : PoolPoint) (self : ConnectionPool) : Nat :=
  match point with
  | .scanning loop it => 3 * (self.size - it) + 1 + afterLoop self.size loop
  | .destroying loop it => 3 * (self.size - it) + afterLoop self.size loop
  | .erasing loop it => 3 * (self.size - it) - 1 + afterLoop self.size loop
  | .stamping _ => 1
  | .aging => 4 * self.size + 10
  | .maximum => self.size + 7
  | .comparing _ it => self.size - it + 6
  | .testing _ => 5
  | .marking _ => 4
  | .returning _ => 3
  | .creating => 2
  | .pushing _ => 1

theorem size_of_getElem? {info : ConnectionInfo} (at_ : self.pool[it]? = some info) :
    it < self.size :=
  (List.getElem?_eq_some_iff.mp at_).1

section Left

variable {nearer : PoolPoint}

theorem accessesLeft_lt_ofScanning
    (accessed : self.access input (.scanning loop it) = some (.inl nearer, after)) :
    accessesLeft nearer after < accessesLeft (.scanning loop it) self := by
  rw [access] at accessed
  cases at_ : self.pool[it]? with
  | none =>
      rw [at_] at accessed
      cases loop with
      | clear all | release pc | remove pc => cases accessed
      | removeOld minAge =>
          cases accessed
          simp only [accessesLeft, afterLoop]
          omega
  | some info =>
      have inside := size_of_getElem? at_
      rw [at_] at accessed
      simp only at accessed
      by_cases hit : loop.hits info = true
      · rw [if_pos hit] at accessed
        cases loop with
        | release pc =>
            cases accessed
            simp only [accessesLeft, afterLoop]
            omega
        | clear all | remove pc | removeOld minAge =>
            cases accessed
            simp only [accessesLeft]
            omega
      · rw [if_neg hit] at accessed
        cases accessed
        simp only [accessesLeft]
        omega

theorem accessesLeft_lt_ofErasing
    (accessed : self.access input (.erasing loop it) = some (.inl nearer, after)) :
    accessesLeft nearer after < accessesLeft (.erasing loop it) self := by
  rw [access] at accessed
  cases at_ : self.pool[it]? with
  | none =>
      rw [at_] at accessed
      cases accessed
  | some info =>
      have inside := size_of_getElem? at_
      have shorter : (self.pool.eraseIdx it).length = self.size - 1 :=
        List.length_eraseIdx_of_lt inside
      rw [at_] at accessed
      cases loop with
      | release pc | remove pc => cases accessed
      | clear all | removeOld minAge =>
          cases accessed
          simp only [accessesLeft, afterLoop, size] at inside shorter ⊢
          omega

theorem accessesLeft_lt_ofComparing {mru : Nat}
    (accessed : self.access input (.comparing mru it) = some (.inl nearer, after)) :
    accessesLeft nearer after < accessesLeft (.comparing mru it) self := by
  rw [access] at accessed
  cases at_ : self.pool[it]? with
  | none =>
      rw [at_] at accessed
      cases accessed
      simp only [accessesLeft]
      omega
  | some candidate =>
      have inside := size_of_getElem? at_
      rw [at_] at accessed
      cases atMru : self.pool[mru]? with
      | none =>
          rw [atMru] at accessed
          cases accessed
      | some largest =>
          rw [atMru] at accessed
          simp only at accessed
          by_cases larger : largest.lt candidate = true
          · rw [if_pos larger] at accessed
            cases accessed
            simp only [accessesLeft]
            omega
          · rw [if_neg larger] at accessed
            cases accessed
            simp only [accessesLeft]
            omega

theorem accessesLeft_lt_ofTesting {mru : Nat}
    (accessed : self.access input (.testing mru) = some (.inl nearer, after)) :
    accessesLeft nearer after < accessesLeft (.testing mru) self := by
  rw [access] at accessed
  cases atMru : self.pool[mru]? with
  | none =>
      rw [atMru] at accessed
      cases accessed
  | some info =>
      rw [atMru] at accessed
      simp only at accessed
      cases used : info.inUse with
      | true =>
          simp only [used, if_true] at accessed
          cases accessed
          simp only [accessesLeft]
          omega
      | false =>
          simp only [used, Bool.false_eq_true, if_false] at accessed
          cases accessed
          simp only [accessesLeft]
          omega

/-- Every access that does not end the call brings it nearer to its end. -/
theorem accessesLeft_lt {point : PoolPoint} (accesses : Accesses point self (.inl nearer) after) :
    accessesLeft nearer after < accessesLeft point self := by
  obtain ⟨input, _, accessed⟩ := accesses
  cases point with
  | scanning loop it => exact accessesLeft_lt_ofScanning accessed
  | destroying loop it =>
      rw [access] at accessed
      cases at_ : self.pool[it]? with
      | none =>
          rw [at_] at accessed
          cases accessed
      | some info =>
          have inside := size_of_getElem? at_
          rw [at_] at accessed
          cases accessed
          simp only [accessesLeft, size] at inside ⊢
          omega
  | erasing loop it => exact accessesLeft_lt_ofErasing accessed
  | stamping it =>
      rw [access] at accessed
      cases at_ : self.pool[it]? with
      | none =>
          rw [at_] at accessed
          cases accessed
      | some info =>
          rw [at_] at accessed
          cases accessed
  | aging =>
      cases accessed
      simp only [accessesLeft, afterLoop]
      omega
  | maximum =>
      rw [access] at accessed
      cases shape : self.pool with
      | nil =>
          rw [shape] at accessed
          cases accessed
          simp only [accessesLeft]
          omega
      | cons info rest =>
          rw [shape] at accessed
          cases accessed
          simp only [accessesLeft]
          omega
  | comparing mru it => exact accessesLeft_lt_ofComparing accessed
  | testing mru => exact accessesLeft_lt_ofTesting accessed
  | marking mru =>
      rw [access] at accessed
      cases atMru : self.pool[mru]? with
      | none =>
          rw [atMru] at accessed
          cases accessed
      | some info =>
          rw [atMru] at accessed
          cases accessed
          simp only [accessesLeft]
          omega
  | returning mru =>
      rw [access] at accessed
      cases atMru : self.pool[mru]? with
      | none =>
          rw [atMru] at accessed
          cases accessed
      | some info =>
          rw [atMru] at accessed
          simp only at accessed
          by_cases null : info.conn = 0
          · rw [if_pos null] at accessed
            cases accessed
            simp only [accessesLeft]
            omega
          · rw [if_neg null] at accessed
            cases accessed
  | creating =>
      rw [access] at accessed
      cases made : input.create with
      | none =>
          rw [made] at accessed
          cases accessed
      | some conn =>
          rw [made] at accessed
          cases accessed
          simp only [accessesLeft]
          omega
  | pushing conn => cases accessed

end Left

end Step

end ConnectionPool

end LibTabula
