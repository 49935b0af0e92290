/-
Connections that are held for the length of a scope.

A `ScopedConnection` grabs a connection in its constructor and releases it in its
destructor, which also runs when an exception leaves the scope. Threads that use the
pool only so are pool threads whose connections are those of the objects that exist,
so in every interleaving the nodes in use are these connections, one each, and the
pool is no larger than the objects that the threads had at one time.
-/

import LibTabula.PoolThreads
import LibTabula.PoolGrabs
import Mathlib.Data.Fintype.Card
import Mathlib.Algebra.BigOperators.Group.Finset.Piecewise
import Mathlib.Algebra.Order.BigOperators.Group.Finset

set_option autoImplicit false

namespace LibTabula

open Foundation Foundation.Locking ConnectionPool

/-! ### What is in use is held -/

namespace ConnectionPool

def inUsePointers (self : ConnectionPool) : List ConnectionPtr :=
  (self.pool.filter ConnectionInfo.inUse).map ConnectionInfo.conn

theorem mem_inUsePointers {self : ConnectionPool} {pc : ConnectionPtr} :
    pc ∈ self.inUsePointers ↔ self.Backed pc := by
  rw [inUsePointers, List.mem_map]
  constructor
  · intro used
    obtain ⟨info, member, same⟩ := used
    obtain ⟨pooled, inUse⟩ := List.mem_filter.mp member
    exact ⟨info, pooled, same, inUse⟩
  · intro backed
    obtain ⟨info, pooled, same, inUse⟩ := backed
    exact ⟨info, List.mem_filter.mpr ⟨pooled, inUse⟩, same⟩

theorem inUsePointers_length (self : ConnectionPool) :
    self.inUsePointers.length = self.checkedOut := by
  rw [inUsePointers, List.length_map, checkedOut, List.countP_eq_length_filter]

theorem inUsePointers_split {self : ConnectionPool} {front back : List ConnectionInfo}
    {info : ConnectionInfo} (shape : self.pool = front ++ info :: back) :
    self.inUsePointers =
      (front.filter ConnectionInfo.inUse).map ConnectionInfo.conn ++
        (if info.inUse then [info.conn] else []) ++
        (back.filter ConnectionInfo.inUse).map ConnectionInfo.conn := by
  rw [inUsePointers, shape, List.filter_append, List.filter_cons, List.map_append]
  cases info.inUse with
  | true => simp
  | false => simp

theorem inUsePointers_expired (self : ConnectionPool) (input : GrabInput) :
    (self.expired input).inUsePointers = self.inUsePointers := by
  rw [expired, removeOldConnections_eq, inUsePointers, inUsePointers, List.filter_filter]
  congr 1
  apply List.filter_congr
  intro info _
  cases used : info.inUse with
  | true => simp [ConnectionInfo.tooOld, used]
  | false => rfl

/-- A grab adds to the connections in use the one it returns. -/
theorem inUsePointers_grab {self : ConnectionPool} (input : GrabInput)
    (objects : 0 ∉ self.pointers) :
    (self.grab input).2.inUsePointers.Perm
      ((self.grab input).1.toList ++ self.inUsePointers) := by
  have stillObjects : 0 ∉ (self.expired input).pointers := by
    intro member
    exact objects ((pointers_expired_sublist self input).mem member)
  rw [← inUsePointers_expired self input]
  rcases grab_cases self input with
    ⟨front, info, back, shape, free, _, _, result⟩ | ⟨nothing, _, result⟩ |
      ⟨conn, nothing, _, result⟩
  · rw [result, inUsePointers_split shape, free]
    have marked : ({ self.expired input with
        pool := front ++ { info with inUse := true } :: back } :
          ConnectionPool).inUsePointers = _ :=
      inUsePointers_split rfl
    rw [marked]
    simp only [if_true, Bool.false_eq_true, if_false, List.append_nil, List.append_assoc,
      List.singleton_append, Option.toList_some]
    exact List.perm_middle
  · rw [result, (inUse_of_findMru_eq_zero stillObjects nothing).2]
    exact .refl _
  · rw [result, (inUse_of_findMru_eq_zero stillObjects nothing).2, inUsePointers,
      List.filter_append, List.map_append]
    exact List.perm_append_comm

/-- Releasing or removing a connection in use takes it from those in use. -/
theorem inUsePointers_release {self : ConnectionPool} {pc : ConnectionPtr} (now : Int)
    (backed : self.Backed pc) (distinct : self.pointers.Nodup) :
    self.inUsePointers.Perm (pc :: (self.release pc now).inUsePointers) := by
  rcases release_cases self pc now with ⟨absent, _⟩ | ⟨front, info, back, shape, same, _, result⟩
  · exact absurd backed.mem_pointers absent
  · rw [← same] at backed
    have used := backed.inUse distinct (by rw [shape]; simp)
    have freed : (self.release pc now).inUsePointers = _ :=
      inUsePointers_split (by rw [result])
    rw [freed, inUsePointers_split shape, used, same]
    simp only [if_true, Bool.false_eq_true, if_false, List.append_nil, List.append_assoc,
      List.singleton_append]
    exact List.perm_middle

theorem inUsePointers_remove {self : ConnectionPool} {pc : ConnectionPtr}
    (backed : self.Backed pc) (distinct : self.pointers.Nodup) :
    self.inUsePointers.Perm (pc :: (self.remove pc).inUsePointers) := by
  rcases remove_cases self pc with ⟨absent, _⟩ | ⟨front, info, back, shape, same, _, result⟩
  · exact absurd backed.mem_pointers absent
  · rw [← same] at backed
    have used := backed.inUse distinct (by rw [shape]; simp)
    rw [result, inUsePointers_split shape, used, same]
    simp only [if_true, inUsePointers, List.filter_append, List.map_append, List.append_assoc,
      List.singleton_append]
    exact List.perm_middle

theorem inUsePointers_shrink (self : ConnectionPool) :
    self.shrink.inUsePointers = self.inUsePointers := by
  rw [shrink, clear_false_eq, inUsePointers, inUsePointers, List.filter_filter]
  congr 1
  apply List.filter_congr
  intro info _
  exact Bool.and_self _

end ConnectionPool

namespace PoolSystem

variable {Client : Type}

/-- The nodes in use are the connections that the clients hold. -/
structure Accounted (system : PoolSystem Client) : Prop where
  exclusive : system.Exclusive
  objects : 0 ∉ system.pool.pointers
  inUse : system.pool.inUsePointers.Perm (system.held.map Prod.snd)

theorem Accounted.start : Accounted (start : PoolSystem Client) where
  exclusive := Exclusive.start
  objects := by
    intro impossible
    cases impossible
  inUse := .refl []

section Act

variable [DecidableEq Client] {system : PoolSystem Client} {client : Client}

theorem inUse_take (accounted : system.Accounted) (input : GrabInput)
    (taken : ConnectionPtr → Phase) :
    (system.take client input taken).pool.inUsePointers.Perm
      ((system.take client input taken).held.map Prod.snd) := by
  have grown := inUsePointers_grab input accounted.objects
  unfold take
  cases outcome : system.pool.grab input with
  | mk found pool =>
      rw [outcome] at grown
      cases found with
      | none => exact grown.trans accounted.inUse
      | some pc => exact grown.trans (accounted.inUse.cons pc)

theorem inUse_giveUp (accounted : system.Accounted) {pc : ConnectionPtr} {pool : ConnectionPool}
    {phase : Phase} (holds : (client, pc) ∈ system.held)
    (less : system.pool.inUsePointers.Perm (pc :: pool.inUsePointers)) :
    (system.giveUp client pc pool phase).pool.inUsePointers.Perm
      ((system.giveUp client pc pool phase).held.map Prod.snd) := by
  have split := (List.perm_cons_erase holds).map Prod.snd
  rw [List.map_cons] at split
  exact ((less.symm.trans accounted.inUse).trans split).cons_inv

theorem Accounted.act (accounted : system.Accounted) {action : ClientAction}
    (allowed : system.Allowed client action) (object : action.CreatesObject) :
    (system.act client action).Accounted := by
  have distinct := accounted.exclusive.distinct
  have removes : ∀ {pc : ConnectionPtr}, (client, pc) ∈ system.held →
      system.pool.inUsePointers.Perm (pc :: (system.pool.remove pc).inUsePointers) := by
    intro pc holds
    exact inUsePointers_remove (accounted.exclusive.backed client pc holds) distinct
  have keeps : ∀ {pool : ConnectionPool}, pool.pointers.Sublist system.pool.pointers →
      0 ∉ pool.pointers := by
    intro pool smaller member
    exact accounted.objects (smaller.mem member)
  have grabs : ∀ {input : GrabInput} {taken : ConnectionPtr → Phase}, input.create ≠ some 0 →
      0 ∉ (system.take client input taken).pool.pointers := by
    intro input taken creates
    have kept : 0 ∉ (system.pool.perform (.grab input)).pointers :=
      WatchedPool.objects_perform creates accounted.objects
    rw [take_pool]
    exact kept
  refine ⟨accounted.exclusive.act allowed, ?_, ?_⟩
  · cases action with
    | grab input | exchangeGrab input | safeGrabGrab input => exact grabs object
    | release pc now =>
        change 0 ∉ (system.pool.release pc now).pointers
        rw [pointers_release]
        exact accounted.objects
    | remove pc | exchangeRemove pc | safeGrabRemove pc =>
        exact keeps (pointers_remove_sublist system.pool pc)
    | shrink => exact keeps (pointers_clear_sublist system.pool false)
    | safeGrabCall | safeGrabReturn => exact accounted.objects
  · cases action with
    | grab input | exchangeGrab input | safeGrabGrab input => exact inUse_take accounted input _
    | release pc now =>
        exact inUse_giveUp accounted allowed.2
          (inUsePointers_release now (accounted.exclusive.backed client pc allowed.2) distinct)
    | remove pc | exchangeRemove pc => exact inUse_giveUp accounted allowed.2 (removes allowed.2)
    | safeGrabRemove pc =>
        have holds := accounted.exclusive.pinging client pc allowed
        exact inUse_giveUp accounted holds (removes holds)
    | shrink =>
        change system.pool.shrink.inUsePointers.Perm _
        rw [inUsePointers_shrink]
        exact accounted.inUse
    | safeGrabCall | safeGrabReturn => exact accounted.inUse

theorem run_accounted {labels : List (Client × ClientAction)}
    (run : Run ObjectStep PoolSystem.start labels system) : system.Accounted := by
  apply run.invariant Accounted _ Accounted.start
  intro before label after accounted stepped
  rw [stepped.2.2]
  exact accounted.act stepped.2.1 stepped.1

end Act

end PoolSystem

/-! ### The objects of a thread -/

/-- Where a thread is between the statements that construct and destroy its objects. -/
inductive ScopeState
  | running
  /-- In the constructor with `safe`, whose `safe_grab()` is about to grab. -/
  | constructing
  /-- In that constructor, with a connection that waits for its `ping()`. -/
  | testing (pc : ConnectionPtr)
  /-- An exception is leaving the scopes. -/
  | unwinding
deriving DecidableEq, Repr

/-- A thread with its `ScopedConnection` objects, as their `connection_` members, the
one constructed last in front. -/
structure ScopedThread where
  state : ScopeState
  objects : List ConnectionPtr
deriving DecidableEq, Repr

namespace ScopedThread

def start : ScopedThread := { state := .running, objects := [] }

/-- The steps that call no operation of the pool. -/
inductive Own : ScopedThread → ScopedThread → Prop
  /-- `ScopedConnection(pool, true)` calls `safe_grab()`. -/
  | construct (objects : List ConnectionPtr) : Own ⟨.running, objects⟩ ⟨.constructing, objects⟩
  /-- `safe_grab()` returns, and the object exists. -/
  | constructed (pc : ConnectionPtr) (objects : List ConnectionPtr) :
      Own ⟨.testing pc, objects⟩ ⟨.running, pc :: objects⟩
  /-- The body of a scope throws. -/
  | throw (objects : List ConnectionPtr) : Own ⟨.running, objects⟩ ⟨.unwinding, objects⟩
  /-- The exception has reached its handler. -/
  | caught (objects : List ConnectionPtr) : Own ⟨.unwinding, objects⟩ ⟨.running, objects⟩

/-- `ScopedConnection(pool)` calls `grab()`, the rounds of `safe_grab()` call `grab()`
and `remove()`, and the destructor of the object constructed last calls `release()`, at
the end of its scope and when an exception leaves it. -/
def Calls (self : ScopedThread) : ThreadCall → Prop
  | .grab => self.state = .running
  | .safeGrabGrab => self.state = .constructing
  | .safeGrabRemove pc => self.state = .testing pc
  | .release pc =>
      (self.state = .running ∨ self.state = .unwinding) ∧ self.objects.head? = some pc
  | .remove _ | .shrink | .exchangeRemove _ | .exchangeGrab => False

/-- Where a thread goes on. A constructor that throws has made no object. -/
def resume (self : ScopedThread) (call : ThreadCall) (result : Option ConnectionPtr) :
    ScopedThread :=
  match call with
  | .grab =>
      match result with
      | none => { self with state := .unwinding }
      | some pc => { self with objects := pc :: self.objects }
  | .safeGrabGrab =>
      match result with
      | none => { self with state := .unwinding }
      | some pc => { self with state := .testing pc }
  | .safeGrabRemove _ => { self with state := .constructing }
  | .release _ => { self with objects := self.objects.tail }
  | .remove _ | .shrink | .exchangeRemove _ | .exchangeGrab => self

/-- What the pool sees of the thread. -/
def poolThread (self : ScopedThread) : PoolThread :=
  match self.state with
  | .running | .unwinding => { phase := .idle, held := self.objects }
  | .constructing => { phase := .safeGrabbing, held := self.objects }
  | .testing pc => { phase := .pinging pc, held := pc :: self.objects }

end ScopedThread

/-- Threads that use the pool through `ScopedConnection` objects only. -/
def scopedProgram :
    Program ConnectionPool ScopedThread ThreadCall PoolPoint (Option ConnectionPtr) where
  own := ScopedThread.Own
  calls := ScopedThread.Calls
  entry := poolProgram.entry
  access := poolProgram.access
  resume := ScopedThread.resume

theorem ScopedThread.poolThread_of_state {self : ScopedThread}
    (state : self.state = .running ∨ self.state = .unwinding) :
    self.poolThread = { phase := .idle, held := self.objects } := by
  rcases state with state | state
  · rw [poolThread, state]
  · rw [poolThread, state]

theorem scopedProgram_maps : scopedProgram.Maps poolProgram ScopedThread.poolThread where
  own := by
    intro control next moved
    cases moved with
    | construct objects => exact .inr (.safeGrabCall objects)
    | constructed pc objects => exact .inr (.safeGrabReturn pc (pc :: objects))
    | throw objects => exact .inl rfl
    | caught objects => exact .inl rfl
  calls := by
    intro control call calls
    cases call with
    | grab =>
        change control.poolThread.phase = .idle
        rw [ScopedThread.poolThread_of_state (.inl calls)]
    | safeGrabGrab =>
        change control.poolThread.phase = .safeGrabbing
        rw [ScopedThread.poolThread, show control.state = .constructing from calls]
    | safeGrabRemove pc =>
        change control.poolThread.phase = .pinging pc
        rw [ScopedThread.poolThread, show control.state = .testing pc from calls]
    | release pc =>
        change control.poolThread.phase = .idle ∧ pc ∈ control.poolThread.held
        rw [ScopedThread.poolThread_of_state calls.1]
        exact ⟨rfl, List.mem_of_mem_head? calls.2⟩
    | remove pc | shrink | exchangeRemove pc | exchangeGrab => exact False.elim calls
  entry := by
    intro call
    rfl
  access := by
    intro point now next later accessed
    exact accessed
  resume := by
    intro control call result calls
    obtain ⟨state, objects⟩ := control
    cases call with
    | grab =>
        cases show state = .running from calls
        cases result with
        | none => rfl
        | some pc => rfl
    | safeGrabGrab =>
        cases show state = .constructing from calls
        cases result with
        | none => rfl
        | some pc => rfl
    | safeGrabRemove pc =>
        cases show state = .testing pc from calls
        change _ = PoolThread.gaveUp _ pc .safeGrabbing
        simp only [PoolThread.gaveUp, ScopedThread.poolThread, List.erase_cons_head]
        rfl
    | release pc =>
        obtain ⟨idle, last⟩ := calls
        cases objects with
        | nil => cases last
        | cons object rest =>
            cases last
            have after : ScopedThread.poolThread ⟨state, rest⟩ = { phase := .idle, held := rest } :=
              ScopedThread.poolThread_of_state idle
            rw [ScopedThread.poolThread_of_state idle]
            change ScopedThread.poolThread ⟨state, rest⟩ = PoolThread.gaveUp _ pc .idle
            rw [after, PoolThread.gaveUp, List.erase_cons_head]
    | remove pc | shrink | exchangeRemove pc | exchangeGrab => exact False.elim calls

/-! ### The machine -/

section Machine

variable {Thread : Type}

abbrev ScopedMachine (Thread : Type) :=
  Machine Thread ConnectionPool ScopedThread ThreadCall PoolPoint (Option ConnectionPtr)

def ScopedMachine.start : ScopedMachine Thread :=
  Machine.initial ConnectionPool.empty fun _ => .start

/-- The connections of the thread's objects, and the one its `safe_grab()` is testing. -/
def ScopedMachine.connections (self : ScopedMachine Thread) (thread : Thread) :
    List ConnectionPtr :=
  (self.place thread).control.poolThread.held

theorem ScopedMachine.held_map (machine : ScopedMachine Thread) (thread : Thread) :
    PoolMachine.held (machine.map ScopedThread.poolThread) thread = machine.connections thread := by
  rw [PoolMachine.held, Machine.map, Place.control_map]
  rfl

variable [DecidableEq Thread]

/-- A pool machine stands for clients with whole sections. -/
def PoolMachine.Stands (machine : PoolMachine Thread) (system : PoolSystem Thread) : Prop :=
  ∃ atomic, Represents poolProgram machine atomic ∧ system.Agrees atomic

section Stands

variable {machine after : PoolMachine Thread} {system : PoolSystem Thread}

theorem PoolMachine.Stands.step (stands : machine.Stands system) (exclusive : system.Exclusive)
    {label : Thread × PoolEvent} (stepped : Machine.Step poolProgram machine label after) :
    ∃ next, (next = system ∨ ∃ action, PoolSystem.ObjectStep system action next) ∧
      after.Stands next := by
  obtain ⟨atomic, represents, agrees⟩ := stands
  obtain ⟨atomicNext, shown, representsNext⟩ := represents.step stepped
  obtain ⟨thread, event⟩ := label
  have follows : ∀ {shows}, Run (Atomic.Step poolProgram) atomic [shows] atomicNext →
      ∃ next, (next = system ∨ ∃ action, PoolSystem.ObjectStep system action next) ∧
        after.Stands next := by
    intro shows shown
    cases shown with
    | cons first rest =>
        cases rest
        obtain ⟨action, next, _, acted, agree, _⟩ := agrees.step exclusive first
        exact ⟨next, .inr ⟨action, acted⟩, _, representsNext, agree⟩
  cases event with
  | own | unlock request result => exact follows shown
  | call request | lock | access =>
      cases shown
      exact ⟨system, .inl rfl, _, representsNext, agrees⟩

theorem PoolMachine.Stands.held_perm (stands : machine.Stands system) (thread : Thread) :
    (system.heldBy thread).Perm (machine.held thread) := by
  obtain ⟨atomic, represents, agrees⟩ := stands
  rw [PoolMachine.held, ← represents.control thread]
  exact agrees.held thread

theorem PoolMachine.Stands.pool_eq (stands : machine.Stands system) (free : machine.owner = none) :
    machine.shared = system.pool := by
  obtain ⟨atomic, represents, agrees⟩ := stands
  rw [agrees.pool]
  exact represents.free free

end Stands

theorem PoolSystem.act_pool (system : PoolSystem Thread) (thread : Thread)
    (action : ClientAction) :
    (system.act thread action).pool = system.pool ∨
      ∃ section_, (system.act thread action).pool = system.pool.perform section_ := by
  cases action with
  | grab input | exchangeGrab input | safeGrabGrab input =>
      exact .inr ⟨.grab input, take_pool system thread input _⟩
  | release pc now => exact .inr ⟨.release pc now, rfl⟩
  | remove pc | exchangeRemove pc | safeGrabRemove pc => exact .inr ⟨.remove pc, rfl⟩
  | shrink => exact .inr ⟨.clear false, rfl⟩
  | safeGrabCall | safeGrabReturn => exact .inl rfl

theorem PoolSystem.run_balanced {actions : List (Thread × ClientAction)}
    {system : PoolSystem Thread} (run : Run ObjectStep PoolSystem.start actions system) :
    system.pool.Balanced := by
  apply run.invariant (fun system => system.pool.Balanced) _ (List.Perm.refl [])
  intro before label after balanced stepped
  rw [stepped.2.2]
  rcases act_pool before label.1 label.2 with same | ⟨section_, performed⟩
  · rw [same]
    exact balanced
  · rw [performed]
    exact balanced.perform section_

/-- The clients that a reachable machine of scoped threads stands for. -/
theorem scoped_simulate {labels : List (Thread × PoolEvent)} {machine : ScopedMachine Thread}
    (run : Run (Machine.Step scopedProgram) ScopedMachine.start labels machine) :
    ∃ actions system, Run PoolSystem.ObjectStep PoolSystem.start actions system ∧
      PoolMachine.Stands (machine.map ScopedThread.poolThread) system := by
  obtain ⟨mapped, mappedRun⟩ := scopedProgram_maps.run run
    (Represents.initial scopedProgram ConnectionPool.empty fun _ => .start)
  obtain ⟨actions, system, atomic, _, acted, represents, agrees, _⟩ := threads_simulate mappedRun
  exact ⟨actions, system, acted, atomic, represents, agrees⟩

/-- A run in which no thread ever has more than `limit` connections at one time. -/
def ScopedMachine.LimitedStep (limit : Nat) (before : ScopedMachine Thread)
    (label : Thread × PoolEvent) (after : ScopedMachine Thread) : Prop :=
  Machine.Step scopedProgram before label after ∧
    ∀ thread, (after.connections thread).length ≤ limit

/-- A thread constructs an object and destroys it because its body throws. -/
def throwing : List (Bool × PoolEvent) :=
  [(true, .call .grab), (true, .lock), (true, .access), (true, .access), (true, .access),
    (true, .access), (true, .access), (true, .unlock .grab (some 1)), (true, .own),
    (true, .call (.release 1)), (true, .lock), (true, .access), (true, .access),
    (true, .unlock (.release 1) none)]

theorem throwing_run : ∃ machine : ScopedMachine Bool,
    Run (ScopedMachine.LimitedStep 1) ScopedMachine.start throwing machine ∧
      machine.owner = none ∧ (∀ thread, machine.connections thread = []) ∧
      machine.shared.created = [1] := by
  have quiet : ∀ {pool : ConnectionPool} {input : AccessInput} {point : PoolPoint},
      point ≠ .creating → pool.Permits input point := by
    intro pool input point other creating
    exact absurd creating other
  let input : AccessInput := { now := 0, maxIdleTime := 1, create := some 1 }
  have makes : ∀ {pool : ConnectionPool}, 1 ∉ pool.pointers → pool.Permits input .creating := by
    intro pool new _ conn same
    cases same
    exact ⟨by decide, new⟩
  refine ⟨_, .cons ⟨.call rfl rfl, ?_⟩ (.cons ⟨.lock rfl rfl, ?_⟩
    (.cons ⟨.access rfl ⟨input, quiet (by decide), rfl⟩, ?_⟩
    (.cons ⟨.access rfl ⟨input, quiet (by decide), rfl⟩, ?_⟩
    (.cons ⟨.access rfl ⟨input, quiet (by decide), rfl⟩, ?_⟩
    (.cons ⟨.access rfl ⟨input, makes (by decide), rfl⟩, ?_⟩
    (.cons ⟨.access rfl ⟨input, quiet (by decide), rfl⟩, ?_⟩
    (.cons ⟨.unlock rfl, ?_⟩ (.cons ⟨.own rfl (.throw [1]), ?_⟩
    (.cons ⟨.call rfl ⟨.inr rfl, rfl⟩, ?_⟩ (.cons ⟨.lock rfl rfl, ?_⟩
    (.cons ⟨.access rfl ⟨input, quiet (by decide), rfl⟩, ?_⟩
    (.cons ⟨.access rfl ⟨input, quiet (by decide), rfl⟩, ?_⟩
    (.single ⟨.unlock rfl, ?_⟩))))))))))))), rfl, ?_, rfl⟩
  all_goals
    intro thread
    cases thread
    all_goals decide

/-- In every interleaving of threads that use the pool through `ScopedConnection`
objects, exceptions included: whenever the mutex is free, the nodes in use are the
connections of the objects that exist and of the constructors at work, each with one
object of one thread. When no thread has an object, `shrink()` empties the pool and every
connection that was created has been destroyed, as often as it was created. -/
theorem scopes_account {labels : List (Thread × PoolEvent)} {machine : ScopedMachine Thread}
    (run : Run (Machine.Step scopedProgram) ScopedMachine.start labels machine)
    (free : machine.owner = none) :
    (∀ pc, machine.shared.Backed pc ↔ ∃ thread, pc ∈ machine.connections thread) ∧
      (∀ thread, (machine.connections thread).Nodup) ∧
      (∀ thread other pc, pc ∈ machine.connections thread → pc ∈ machine.connections other →
        thread = other) ∧
      ((∀ thread, machine.connections thread = []) →
        machine.shared.shrink.pool = [] ∧
          machine.shared.created.Perm machine.shared.shrink.destroyed) := by
  obtain ⟨mapped, mappedRun⟩ := scopedProgram_maps.run run
    (Represents.initial scopedProgram ConnectionPool.empty fun _ => .start)
  obtain ⟨actions, system, acted, stands⟩ := scoped_simulate run
  obtain ⟨once, owned, _⟩ := threads_own mappedRun
  have pool : machine.shared = system.pool := stands.pool_eq free
  have accounted := PoolSystem.run_accounted acted
  have held : ∀ {thread pc}, (thread, pc) ∈ system.held ↔ pc ∈ machine.connections thread := by
    intro thread pc
    rw [← PoolSystem.mem_heldBy, (stands.held_perm thread).mem_iff, machine.held_map thread]
  have backed : ∀ pc, machine.shared.Backed pc ↔ ∃ thread, pc ∈ machine.connections thread := by
    intro pc
    rw [pool, ← mem_inUsePointers, accounted.inUse.mem_iff, List.mem_map]
    constructor
    · intro member
      obtain ⟨⟨thread, given⟩, holds, same⟩ := member
      cases same
      exact ⟨thread, held.mp holds⟩
    · intro holds
      obtain ⟨thread, member⟩ := holds
      exact ⟨(thread, pc), held.mpr member, rfl⟩
  refine ⟨backed, ?_, ?_, ?_⟩
  · intro thread
    rw [← machine.held_map thread]
    exact once thread
  · intro thread other pc
    rw [← machine.held_map thread, ← machine.held_map other]
    exact owned thread other pc
  · intro nothing
    have idle : machine.shared.pool.filter ConnectionInfo.inUse = [] := by
      apply List.filter_eq_nil_iff.mpr
      intro info member used
      obtain ⟨thread, holds⟩ := (backed info.conn).mp ⟨info, member, rfl, used⟩
      rw [nothing thread] at holds
      cases holds
    have empty : machine.shared.shrink.pool = [] := by
      rw [shrink, clear_false_eq, idle]
    refine ⟨empty, ?_⟩
    have balanced : machine.shared.shrink.Balanced := by
      rw [pool]
      exact (PoolSystem.run_balanced acted).clear false
    rw [ConnectionPool.Balanced, pointers, empty, List.map_nil, List.append_nil] at balanced
    rw [shrink, clear_false_eq] at balanced ⊢
    exact balanced

theorem scopes_account_throwing : ∃ machine : ScopedMachine Bool,
    machine.shared.created = [1] ∧ machine.shared.shrink.pool = [] ∧
      machine.shared.created.Perm machine.shared.shrink.destroyed := by
  obtain ⟨machine, limited, free, nothing, created⟩ := throwing_run
  have run := limited.mono fun _ _ _ stepped => stepped.1
  exact ⟨machine, created, (scopes_account run free).2.2.2 nothing⟩

/-! ### The size of the pool -/

theorem PoolSystem.length_held [Fintype Thread] (system : PoolSystem Thread) :
    system.held.length = ∑ thread, (system.heldBy thread).length := by
  simp only [heldBy]
  induction system.held with
  | nil => simp
  | cons entry rest ih =>
      obtain ⟨thread, pc⟩ := entry
      have counts : ∀ other : Thread,
          ((((thread, pc) :: rest).filter (fun entry => decide (entry.1 = other))).map
            Prod.snd).length =
          (if thread = other then 1 else 0) +
            ((rest.filter (fun entry => decide (entry.1 = other))).map Prod.snd).length := by
        intro other
        by_cases same : thread = other
        · rw [← same, heldBy_cons_self, List.length_cons, if_pos rfl, Nat.add_comm]
        · rw [heldBy_cons_of_ne rest pc (Ne.symm same), if_neg same, Nat.zero_add]
      simp only [counts, Finset.sum_add_distrib, Finset.sum_ite_eq, Finset.mem_univ, if_true]
      rw [List.length_cons, ih, Nat.add_comm]

/-- A step makes the pool no larger, or leaves every node in it held by a client. -/
theorem PoolSystem.Accounted.size_step {before after : PoolSystem Thread}
    {label : Thread × ClientAction} (accounted : before.Accounted)
    (stepped : ObjectStep before label after) :
    after.pool.size ≤ before.pool.size ∨ after.pool.size = after.held.length := by
  have next : after.Accounted := by
    rw [stepped.2.2]
    exact accounted.act stepped.2.1 stepped.1
  have all : after.held.length = after.pool.checkedOut := by
    rw [← inUsePointers_length, next.inUse.length_eq, List.length_map]
  rw [all, stepped.2.2]
  rcases act_pool before label.1 label.2 with same | ⟨section_, performed⟩
  · left
    rw [same]
  · rw [performed]
    exact WatchedPool.size_perform accounted.objects section_

/-- However the threads are interleaved, the pool has no more connections than the
threads could have had among them at one time. -/
theorem scopes_bound [Fintype Thread] {limit : Nat} {labels : List (Thread × PoolEvent)}
    {machine : ScopedMachine Thread}
    (run : Run (ScopedMachine.LimitedStep limit) ScopedMachine.start labels machine)
    (free : machine.owner = none) :
    machine.shared.size ≤ limit * Fintype.card Thread := by
  have reached : (∃ atomic, Represents scopedProgram machine atomic) ∧
      ∃ system : PoolSystem Thread, system.Accounted ∧
        PoolMachine.Stands (machine.map ScopedThread.poolThread) system ∧
        system.pool.size ≤ limit * Fintype.card Thread := by
    refine run.invariant (fun machine => (∃ atomic, Represents scopedProgram machine atomic) ∧
      ∃ system : PoolSystem Thread, system.Accounted ∧
        PoolMachine.Stands (machine.map ScopedThread.poolThread) system ∧
        system.pool.size ≤ limit * Fintype.card Thread) ?_
      ⟨⟨_, Represents.initial scopedProgram ConnectionPool.empty fun _ => .start⟩,
        PoolSystem.start, PoolSystem.Accounted.start,
        ⟨_, Represents.initial poolProgram ConnectionPool.empty fun _ => .idle,
          PoolSystem.Agrees.start⟩, Nat.zero_le _⟩
    intro before label after known stepped
    obtain ⟨⟨atomic, represents⟩, system, accounted, stands, small⟩ := known
    obtain ⟨moved, few⟩ := stepped
    obtain ⟨atomicNext, _, representsNext⟩ := represents.step moved
    refine ⟨⟨atomicNext, representsNext⟩, ?_⟩
    rcases scopedProgram_maps.step represents moved with same | mapped
    · rw [same]
      exact ⟨system, accounted, stands, small⟩
    · obtain ⟨next, acts, standsNext⟩ := stands.step accounted.exclusive mapped
      rcases acts with rfl | ⟨action, acted⟩
      · exact ⟨next, accounted, standsNext, small⟩
      · have accountedNext : next.Accounted := by
          rw [acted.2.2]
          exact accounted.act acted.2.1 acted.1
        refine ⟨next, accountedNext, standsNext, ?_⟩
        rcases accounted.size_step acted with smaller | full
        · exact Nat.le_trans smaller small
        · rw [full, PoolSystem.length_held]
          calc
            ∑ thread, (next.heldBy thread).length ≤ ∑ _thread : Thread, limit := by
              apply Finset.sum_le_sum
              intro thread _
              rw [(standsNext.held_perm thread).length_eq, ScopedMachine.held_map after thread]
              exact few thread
            _ = limit * Fintype.card Thread := by
              rw [Finset.sum_const_nat (fun _ _ => rfl), Finset.card_univ, Nat.mul_comm]
  obtain ⟨_, system, _, stands, small⟩ := reached
  rw [show machine.shared = system.pool from stands.pool_eq free]
  exact small

theorem scopes_bound_throwing : ∃ machine : ScopedMachine Bool,
    machine.shared.created = [1] ∧ machine.shared.size ≤ 1 * Fintype.card Bool := by
  obtain ⟨machine, run, free, _, created⟩ := throwing_run
  exact ⟨machine, created, scopes_bound run free⟩

end Machine

end LibTabula
