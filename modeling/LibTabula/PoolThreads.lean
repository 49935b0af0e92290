/-
Threads on one pool, access by access.

Each thread calls the operations of the pool as a client does that holds connections,
but what a section does to the list is interleaved with the other threads one access
at a time, and only the mutex keeps them apart. Every such run is a run of the clients
with whole sections, so all that holds of those holds here; and no thread waits for
ever for want of an access that can be made.

That the mutex is held by one thread at a time is assumed. Where the library is compiled
without a macro like HAVE_PTHREAD, `BeecryptMutex` does nothing.
-/

import LibTabula.PoolAccesses
import LibTabula.PoolClients
import Mathlib.Data.List.Perm.Basic

set_option autoImplicit false

namespace LibTabula

open Foundation Foundation.Locking ConnectionPool

/-- A thread between its sections. -/
structure PoolThread where
  phase : Phase
  held : List ConnectionPtr
deriving DecidableEq, Repr

/-- The section a thread enters, by the operation it is part of. -/
inductive ThreadCall
  | grab
  | release (pc : ConnectionPtr)
  | remove (pc : ConnectionPtr)
  | shrink
  | exchangeRemove (pc : ConnectionPtr)
  | exchangeGrab
  | safeGrabGrab
  | safeGrabRemove (pc : ConnectionPtr)
deriving DecidableEq, Repr

def ThreadCall.pool : ThreadCall → PoolCall
  | grab | exchangeGrab | safeGrabGrab => .grab
  | release pc => .release pc
  | remove pc | exchangeRemove pc | safeGrabRemove pc => .remove pc
  | shrink => .clear false

namespace PoolThread

def idle : PoolThread := { phase := .idle, held := [] }

/-- The steps outside the sections: `safe_grab()` is called, and returns after its
`ping()` was answered. -/
inductive Own : PoolThread → PoolThread → Prop
  | safeGrabCall (held : List ConnectionPtr) : Own ⟨.idle, held⟩ ⟨.safeGrabbing, held⟩
  | safeGrabReturn (pc : ConnectionPtr) (held : List ConnectionPtr) :
      Own ⟨.pinging pc, held⟩ ⟨.idle, held⟩

def Calls (self : PoolThread) : ThreadCall → Prop
  | .grab | .shrink => self.phase = .idle
  | .release pc | .remove pc | .exchangeRemove pc => self.phase = .idle ∧ pc ∈ self.held
  | .exchangeGrab => self.phase = .exchanging
  | .safeGrabGrab => self.phase = .safeGrabbing
  | .safeGrabRemove pc => self.phase = .pinging pc

/-- After a `grab()`, which has returned a connection or thrown. -/
def grabbed (self : PoolThread) (result : Option ConnectionPtr) (taken : ConnectionPtr → Phase) :
    PoolThread :=
  match result with
  | none => { self with phase := .idle }
  | some pc => { phase := taken pc, held := pc :: self.held }

def gaveUp (self : PoolThread) (pc : ConnectionPtr) (phase : Phase) : PoolThread :=
  { phase := phase, held := self.held.erase pc }

def resume (self : PoolThread) (call : ThreadCall) (result : Option ConnectionPtr) : PoolThread :=
  match call with
  | .grab | .exchangeGrab => self.grabbed result fun _ => .idle
  | .safeGrabGrab => self.grabbed result .pinging
  | .release pc | .remove pc => self.gaveUp pc .idle
  | .exchangeRemove pc => self.gaveUp pc .exchanging
  | .safeGrabRemove pc => self.gaveUp pc .safeGrabbing
  | .shrink => self

end PoolThread

/-- What the threads run. -/
def poolProgram :
    Program ConnectionPool PoolThread ThreadCall PoolPoint (Option ConnectionPtr) where
  own := PoolThread.Own
  calls := PoolThread.Calls
  entry := fun call => call.pool.entry
  access := ConnectionPool.Accesses
  resume := PoolThread.resume

theorem serves_of_reaches {call : ThreadCall} {base self : ConnectionPool}
    {at_ : PoolPoint ⊕ Option ConnectionPtr}
    (reached : poolProgram.Reaches (poolProgram.entry call) base at_ self) :
    base.Serves call.pool self at_ := by
  apply reached.invariant (fun at_ self => base.Serves call.pool self at_)
  · intro point now next later serves accesses
    exact serves_access serves accesses
  · exact serves_entry base call.pool

/-- A section, access by access, is the section as one function. -/
theorem section_performs {call : ThreadCall} {before after : ConnectionPool}
    {result : Option ConnectionPtr} (performed : poolProgram.Section call before result after) :
    ∃ section_ : PoolSection, section_.call = call.pool ∧ before.CreatesDistinct section_ ∧
      WatchedPool.CreatesObject section_ ∧ after = before.perform section_ ∧
      result = section_.result before :=
  serves_of_reaches performed

theorem poolProgram_terminating : poolProgram.Terminating accessesLeft where
  proceeds := by
    intro call before point now reached
    have serves := serves_of_reaches reached
    have made := access_isSome serves { now := 0, maxIdleTime := 0, create := none }
    obtain ⟨⟨next, later⟩, accessed⟩ := Option.isSome_iff_exists.mp made
    refine ⟨next, later, { now := 0, maxIdleTime := 0, create := none }, ?_, accessed⟩
    intro _ conn impossible
    cases impossible
  decreases := by
    intro call before point now next later _ accesses
    exact accessesLeft_lt accesses

/-! ### Between two accesses -/

/-- The section gives up another connection, or none. -/
def PoolCall.Spares (pc : ConnectionPtr) : PoolCall → Prop
  | grab => True
  | release given | remove given => given ≠ pc
  | clear all => all = false

theorem PoolLoop.hits_eq_false {loop : PoolLoop} {call : PoolCall} {pc : ConnectionPtr}
    {info : ConnectionInfo} (serves : loop.Serves call) (spares : call.Spares pc)
    (conn : info.conn = pc) (used : info.inUse = true) : loop.hits info = false := by
  cases loop with
  | clear all =>
      rw [show call = .clear all from serves] at spares
      rw [hits, used, show all = false from spares]
      rfl
  | release given =>
      rw [show call = .release given from serves] at spares
      rw [hits, conn]
      exact beq_eq_false_iff_ne.mpr (Ne.symm spares)
  | remove given =>
      rw [show call = .remove given from serves] at spares
      rw [hits, conn]
      exact beq_eq_false_iff_ne.mpr (Ne.symm spares)
  | removeOld minAge =>
      rw [hits, ConnectionInfo.tooOld, used]
      rfl

namespace ConnectionPool

section Between

variable {base self : ConnectionPool} {call : PoolCall} {pc : ConnectionPtr} {loop : PoolLoop}
  {it : Nat} {at_ : PoolPoint ⊕ Option ConnectionPtr}

theorem Backed.of_pool (backed : base.Backed pc) (same : self.pool = base.pool) :
    self.Backed pc := by
  rw [Backed, same]
  exact backed

theorem Backed.swept {hits : ConnectionInfo → Bool} {seen rest : List ConnectionInfo}
    (backed : base.Backed pc) (shape : base.pool = seen ++ rest)
    (spared : ∀ info ∈ seen, info.conn = pc → info.inUse = true → hits info = false) :
    (base.swept hits seen rest).Backed pc := by
  obtain ⟨info, member, conn, used⟩ := backed
  refine ⟨info, ?_, conn, used⟩
  rw [shape] at member
  rw [ConnectionPool.swept]
  rcases List.mem_append.mp member with earlier | ahead
  · apply List.mem_append_left
    rw [List.mem_filter, spared info earlier conn used]
    exact ⟨earlier, rfl⟩
  · exact List.mem_append_right _ ahead

theorem Backed.aged (backed : base.Backed pc) (now : Int) (maxIdleTime : Nat) :
    (base.removeOldConnections now maxIdleTime).Backed pc := by
  obtain ⟨info, member, conn, used⟩ := backed
  exact ⟨info, mem_removeOldConnections_of_inUse base now maxIdleTime member used, conn, used⟩

/-- A connection that is in use stays in the list, and in use, through every access of
a section that does not give it up. -/
theorem Serves.backed (serves : base.Serves call self at_) (spares : call.Spares pc)
    (backed : base.Backed pc) : self.Backed pc := by
  have passing : ∀ {loop : PoolLoop} {it : Nat} {seen rest : List ConnectionInfo},
      loop.Serves call → loop.Passed base it seen rest →
      (base.swept loop.hits seen rest).Backed pc := by
    intro loop it seen rest loops passed
    apply backed.swept passed.shape
    intro info _ conn used
    exact PoolLoop.hits_eq_false loops spares conn used
  cases at_ with
  | inr result =>
      obtain ⟨section_, called, _, _, rfl, _⟩ := serves
      cases section_ with
      | grab input => exact backed.grab input
      | release given now =>
          cases called
          exact backed.release_of_ne now (Ne.symm spares)
      | remove given =>
          cases called
          exact backed.remove_of_ne (Ne.symm spares)
      | clear all =>
          cases called
          cases spares
          exact backed.shrink
  | inl point =>
      cases point with
      | scanning loop it =>
          obtain ⟨loops, seen, rest, passed, rfl⟩ := serves
          exact passing loops passed
      | destroying loop it =>
          obtain ⟨⟨loops, _⟩, seen, info, rest, passed, _, rfl⟩ := serves
          exact (passing loops passed).of_pool rfl
      | erasing loop it =>
          obtain ⟨⟨loops, _⟩, seen, info, rest, passed, _, rfl⟩ := serves
          exact (passing loops passed).of_pool rfl
      | stamping it =>
          obtain ⟨given, seen, info, rest, called, passed, conn, rfl⟩ := serves
          have different : pc ≠ info.conn := by
            rw [called] at spares
            rw [conn]
            exact Ne.symm spares
          obtain ⟨holder, member, same, used⟩ := backed.elsewhere passed.shape different
          refine ⟨holder, ?_, same, used⟩
          rw [List.mem_append, List.mem_cons]
          rcases member with earlier | later
          · exact .inl earlier
          · exact .inr (.inr later)
      | aging =>
          obtain ⟨_, rfl⟩ := serves
          exact backed
      | maximum =>
          obtain ⟨_, now, maxIdleTime, rfl⟩ := serves
          exact backed.aged now maxIdleTime
      | comparing mru it =>
          obtain ⟨_, now, maxIdleTime, rfl, _⟩ := serves
          exact backed.aged now maxIdleTime
      | testing mru =>
          obtain ⟨_, now, maxIdleTime, rfl, _⟩ := serves
          exact backed.aged now maxIdleTime
      | marking mru =>
          obtain ⟨_, now, maxIdleTime, rfl, _⟩ := serves
          exact backed.aged now maxIdleTime
      | returning mru =>
          obtain ⟨_, now, maxIdleTime, rfl, _⟩ := serves
          exact (backed.aged now maxIdleTime).findMru
      | creating =>
          obtain ⟨_, now, maxIdleTime, rfl, _⟩ := serves
          exact (backed.aged now maxIdleTime).findMru
      | pushing conn =>
          obtain ⟨_, now, maxIdleTime, _, rfl⟩ := serves
          exact (backed.aged now maxIdleTime).findMru.of_pool rfl

theorem destroyed_access {input : AccessInput} {point : PoolPoint}
    {next : PoolPoint ⊕ Option ConnectionPtr} {after : ConnectionPool}
    (accessed : self.access input point = some (next, after)) :
    after.destroyed = self.destroyed ∨
      ∃ loop it info, point = .destroying loop it ∧ self.pool[it]? = some info ∧
        after.destroyed = self.destroyed ++ [info.conn] := by
  cases point with
  | destroying loop it =>
      rw [access] at accessed
      cases at_ : self.pool[it]? with
      | none =>
          rw [at_] at accessed
          cases accessed
      | some info =>
          rw [at_] at accessed
          cases accessed
          exact .inr ⟨loop, it, info, rfl, at_, rfl⟩
  | _ =>
      left
      simp only [access] at accessed
      repeat' split at accessed
      all_goals
        cases accessed
        try rfl

/-- No access passes such a connection to `destroy()`. -/
theorem Serves.destroyed {input : AccessInput} {point : PoolPoint}
    {next : PoolPoint ⊕ Option ConnectionPtr} {after : ConnectionPool}
    (serves : base.Serves call self (.inl point)) (spares : call.Spares pc)
    (backed : base.Backed pc) (distinct : base.pointers.Nodup)
    (accessed : self.access input point = some (next, after)) :
    after.destroyed.count pc = self.destroyed.count pc := by
  rcases destroyed_access accessed with same | ⟨loop, it, gone, rfl, at_, grown⟩
  · rw [same]
  · obtain ⟨⟨loops, _⟩, seen, node, rest, passed, hit, rfl⟩ := serves
    have here := getElem?_swept passed
    rw [List.append_nil, here] at at_
    cases at_
    have different : gone.conn ≠ pc := by
      intro same
      rw [← same] at backed
      have used := backed.inUse distinct (by rw [passed.shape]; simp)
      rw [PoolLoop.hits_eq_false loops spares same used] at hit
      cases hit
    rw [grown, List.count_append, List.count_singleton]
    simp [different]

end Between

end ConnectionPool

/-! ### The clients with whole sections -/

namespace PoolSystem

variable {Client : Type} [DecidableEq Client]

def heldBy (self : PoolSystem Client) (client : Client) : List ConnectionPtr :=
  (self.held.filter (fun entry => decide (entry.1 = client))).map Prod.snd

theorem mem_heldBy {self : PoolSystem Client} {client : Client} {pc : ConnectionPtr} :
    pc ∈ self.heldBy client ↔ (client, pc) ∈ self.held := by
  rw [heldBy, List.mem_map]
  constructor
  · intro holds
    obtain ⟨⟨other, given⟩, member, same⟩ := holds
    rw [List.mem_filter, decide_eq_true_iff] at member
    obtain ⟨holds, owner⟩ := member
    simp only at same owner
    rw [← same, ← owner]
    exact holds
  · intro holds
    refine ⟨(client, pc), List.mem_filter.mpr ⟨holds, ?_⟩, rfl⟩
    exact decide_eq_true rfl

theorem heldBy_cons_self (entries : List (Client × ConnectionPtr)) (client : Client)
    (pc : ConnectionPtr) :
    (((client, pc) :: entries).filter (fun entry => decide (entry.1 = client))).map Prod.snd =
      pc :: (entries.filter (fun entry => decide (entry.1 = client))).map Prod.snd := by
  simp only [List.filter_cons, decide_true, if_true, List.map_cons]

theorem heldBy_cons_of_ne (entries : List (Client × ConnectionPtr)) {client other : Client}
    (pc : ConnectionPtr) (different : other ≠ client) :
    (((client, pc) :: entries).filter (fun entry => decide (entry.1 = other))).map Prod.snd =
      (entries.filter (fun entry => decide (entry.1 = other))).map Prod.snd := by
  rw [List.filter_cons_of_neg]
  rw [decide_eq_true_iff]
  exact different.symm

/-- The clients with whole sections agree with the threads in the atomic reading. -/
structure Agrees (system : PoolSystem Client)
    (atomic : Atomic Client ConnectionPool PoolThread) : Prop where
  pool : system.pool = atomic.shared
  phase : ∀ client, system.phase client = (atomic.control client).phase
  held : ∀ client, (system.heldBy client).Perm (atomic.control client).held

theorem Agrees.start :
    Agrees (PoolSystem.start : PoolSystem Client) ⟨ConnectionPool.empty, fun _ => .idle⟩ where
  pool := rfl
  phase := by
    intro client
    rfl
  held := by
    intro client
    exact .refl []

section Agrees

variable {system : PoolSystem Client} {atomic : Atomic Client ConnectionPool PoolThread}
  {client : Client}

/-- The client moves without taking a connection or giving one up. -/
theorem Agrees.enter (agrees : system.Agrees atomic) (pool : ConnectionPool) (phase : Phase) :
    ({ system with pool := pool }.enter client phase).Agrees
      ⟨pool, Function.update atomic.control client
        { atomic.control client with phase := phase }⟩ where
  pool := rfl
  phase := by
    intro other
    by_cases same : other = client
    · simp only [PoolSystem.enter, same, if_true, Function.update_self]
    · simp only [PoolSystem.enter, if_neg same, Function.update_of_ne same]
      exact agrees.phase other
  held := by
    intro other
    by_cases same : other = client
    · simp only [same, Function.update_self]
      exact agrees.held client
    · simp only [Function.update_of_ne same]
      exact agrees.held other

theorem Agrees.take (agrees : system.Agrees atomic) (input : GrabInput)
    (taken : ConnectionPtr → Phase) :
    (system.take client input taken).Agrees
      ⟨(atomic.shared.grab input).2, Function.update atomic.control client
        ((atomic.control client).grabbed (atomic.shared.grab input).1 taken)⟩ := by
  rw [← agrees.pool, PoolSystem.take]
  cases outcome : system.pool.grab input with
  | mk found pool =>
      cases found with
      | none => exact agrees.enter pool .idle
      | some pc =>
          exact {
            pool := rfl
            phase := by
              intro other
              by_cases same : other = client
              · simp only [PoolSystem.enter, same, if_true, Function.update_self,
                  PoolThread.grabbed]
              · simp only [PoolSystem.enter, if_neg same, Function.update_of_ne same]
                exact agrees.phase other
            held := by
              intro other
              by_cases same : other = client
              · simp only [same, Function.update_self, PoolThread.grabbed, PoolSystem.enter,
                  heldBy, heldBy_cons_self]
                exact (agrees.held client).cons pc
              · simp only [Function.update_of_ne same, PoolSystem.enter, heldBy,
                  heldBy_cons_of_ne _ _ same]
                exact agrees.held other }

theorem Agrees.giveUp (agrees : system.Agrees atomic) {pc : ConnectionPtr}
    (holds : pc ∈ (atomic.control client).held) (pool : ConnectionPool) (phase : Phase) :
    (system.giveUp client pc pool phase).Agrees
      ⟨pool, Function.update atomic.control client
        ((atomic.control client).gaveUp pc phase)⟩ where
  pool := rfl
  phase := by
    intro other
    by_cases same : other = client
    · simp only [PoolSystem.giveUp, PoolSystem.enter, same, if_true, Function.update_self,
        PoolThread.gaveUp]
    · simp only [PoolSystem.giveUp, PoolSystem.enter, if_neg same, Function.update_of_ne same]
      exact agrees.phase other
  held := by
    intro other
    have member : (client, pc) ∈ system.held :=
      mem_heldBy.mp ((agrees.held client).mem_iff.mpr holds)
    have split := ((List.perm_cons_erase member).filter
      (fun entry => decide (entry.1 = other))).map Prod.snd
    by_cases same : other = client
    · rw [same, heldBy_cons_self] at split
      have less := (split.symm.trans (agrees.held client)).erase pc
      rw [List.erase_cons_head] at less
      simp only [same, Function.update_self, PoolThread.gaveUp]
      exact less
    · rw [heldBy_cons_of_ne _ _ same] at split
      simp only [Function.update_of_ne same]
      exact split.symm.trans (agrees.held other)

end Agrees

end PoolSystem

/-- The section that is one action of a client. -/
def ClientAction.call? : ClientAction → Option ThreadCall
  | grab _ => some .grab
  | release pc _ => some (.release pc)
  | remove pc => some (.remove pc)
  | shrink => some .shrink
  | exchangeRemove pc => some (.exchangeRemove pc)
  | exchangeGrab _ => some .exchangeGrab
  | safeGrabGrab _ => some .safeGrabGrab
  | safeGrabRemove pc => some (.safeGrabRemove pc)
  | safeGrabCall | safeGrabReturn => none

/-- What `create()` returned is no null pointer. -/
def ClientAction.CreatesObject : ClientAction → Prop
  | grab input | exchangeGrab input | safeGrabGrab input => input.create ≠ some 0
  | release _ _ | remove _ | shrink | exchangeRemove _ | safeGrabCall | safeGrabReturn
  | safeGrabRemove _ => True

namespace PoolSystem

variable {Client : Type} [DecidableEq Client]

def ObjectStep (before : PoolSystem Client) (label : Client × ClientAction)
    (after : PoolSystem Client) : Prop :=
  label.2.CreatesObject ∧ Step before label after

theorem Agrees.own {system : PoolSystem Client} {atomic : Atomic Client ConnectionPool PoolThread}
    {client : Client} {next : PoolThread} (agrees : system.Agrees atomic)
    (moved : PoolThread.Own (atomic.control client) next) :
    ∃ action after, action.call? = none ∧ ObjectStep system (client, action) after ∧
      after.Agrees ⟨atomic.shared, Function.update atomic.control client next⟩ := by
  have phase := agrees.phase client
  have entered : ∀ entered : Phase, (system.enter client entered).Agrees
      ⟨atomic.shared, Function.update atomic.control client
        { atomic.control client with phase := entered }⟩ := by
    intro entered
    rw [← agrees.pool]
    exact agrees.enter system.pool entered
  generalize atomic.control client = control at *
  cases moved with
  | safeGrabCall held =>
      refine ⟨.safeGrabCall, _, rfl, ⟨trivial, phase, rfl⟩, ?_⟩
      exact entered .safeGrabbing
  | safeGrabReturn pc held =>
      refine ⟨.safeGrabReturn, _, rfl, ⟨trivial, ⟨pc, phase⟩, rfl⟩, ?_⟩
      exact entered .idle

theorem Agrees.section_ {system : PoolSystem Client}
    {atomic : Atomic Client ConnectionPool PoolThread} {client : Client} {call : ThreadCall}
    {result : Option ConnectionPtr} {shared : ConnectionPool} (agrees : system.Agrees atomic)
    (exclusive : system.Exclusive) (calls : (atomic.control client).Calls call)
    (performed : poolProgram.Section call atomic.shared result shared) :
    ∃ action after, action.call? = some call ∧ ObjectStep system (client, action) after ∧
      after.Agrees ⟨shared, Function.update atomic.control client
        ((atomic.control client).resume call result)⟩ := by
  obtain ⟨section_, called, creates, object, rfl, rfl⟩ := section_performs performed
  have phase := agrees.phase client
  have member : ∀ {pc : ConnectionPtr}, pc ∈ (atomic.control client).held →
      (client, pc) ∈ system.held := by
    intro pc holds
    exact mem_heldBy.mp ((agrees.held client).mem_iff.mpr holds)
  rw [← agrees.pool] at creates
  cases call with
  | grab =>
      cases section_ with
      | grab input =>
          exact ⟨.grab input, _, rfl, ⟨object, ⟨phase.trans calls, creates⟩, rfl⟩,
            agrees.take input _⟩
      | release pc now | remove pc | clear all => cases called
  | exchangeGrab =>
      cases section_ with
      | grab input =>
          exact ⟨.exchangeGrab input, _, rfl, ⟨object, ⟨phase.trans calls, creates⟩, rfl⟩,
            agrees.take input _⟩
      | release pc now | remove pc | clear all => cases called
  | safeGrabGrab =>
      cases section_ with
      | grab input =>
          exact ⟨.safeGrabGrab input, _, rfl, ⟨object, ⟨phase.trans calls, creates⟩, rfl⟩,
            agrees.take input _⟩
      | release pc now | remove pc | clear all => cases called
  | release pc =>
      cases section_ with
      | release given now =>
          cases called
          refine ⟨.release pc now, _, rfl,
            ⟨trivial, ⟨phase.trans calls.1, member calls.2⟩, rfl⟩, ?_⟩
          have gave := agrees.giveUp calls.2 (system.pool.release pc now) .idle
          rw [agrees.pool] at gave
          simp only [act, agrees.pool]
          exact gave
      | grab input | remove pc | clear all => cases called
  | remove pc =>
      cases section_ with
      | remove given =>
          cases called
          refine ⟨.remove pc, _, rfl,
            ⟨trivial, ⟨phase.trans calls.1, member calls.2⟩, rfl⟩, ?_⟩
          simp only [act, agrees.pool]
          exact agrees.giveUp calls.2 (atomic.shared.remove pc) .idle
      | grab input | release pc now | clear all => cases called
  | exchangeRemove pc =>
      cases section_ with
      | remove given =>
          cases called
          refine ⟨.exchangeRemove pc, _, rfl,
            ⟨trivial, ⟨phase.trans calls.1, member calls.2⟩, rfl⟩, ?_⟩
          simp only [act, agrees.pool]
          exact agrees.giveUp calls.2 (atomic.shared.remove pc) .exchanging
      | grab input | release pc now | clear all => cases called
  | safeGrabRemove pc =>
      cases section_ with
      | remove given =>
          cases called
          refine ⟨.safeGrabRemove pc, _, rfl, ⟨trivial, phase.trans calls, rfl⟩, ?_⟩
          have holds : pc ∈ (atomic.control client).held :=
            (agrees.held client).mem_iff.mp
              (mem_heldBy.mpr (exclusive.pinging client pc (phase.trans calls)))
          simp only [act, agrees.pool]
          exact agrees.giveUp holds (atomic.shared.remove pc) .safeGrabbing
      | grab input | release pc now | clear all => cases called
  | shrink =>
      cases section_ with
      | clear all =>
          cases called
          refine ⟨.shrink, _, rfl, ⟨trivial, phase.trans calls, rfl⟩, ?_⟩
          rw [PoolThread.resume, Function.update_eq_self]
          exact ⟨congrArg ConnectionPool.shrink agrees.pool, agrees.phase, agrees.held⟩
      | grab input | release pc now | remove pc => cases called

/-- A step of the atomic reading is a step of a client, and the other way round the
label shows the same section. -/
theorem Agrees.step {system : PoolSystem Client}
    {before after : Atomic Client ConnectionPool PoolThread}
    {label : Client × AtomicEvent ThreadCall (Option ConnectionPtr)}
    (agrees : system.Agrees before) (exclusive : system.Exclusive)
    (stepped : Atomic.Step poolProgram before label after) :
    ∃ (other : Client × ClientAction) (next : PoolSystem Client),
      (other.1, other.2.call?) = (label.1, label.2.request?) ∧
        ObjectStep system other next ∧ next.Agrees after ∧ next.Exclusive := by
  cases stepped with
  | own moved =>
      obtain ⟨action, next, shown, acted, agree⟩ := agrees.own moved
      refine ⟨(_, action), next, by rw [shown]; rfl, acted, agree, ?_⟩
      rw [acted.2.2]
      exact exclusive.act acted.2.1
  | section_ calls performed =>
      obtain ⟨action, next, shown, acted, agree⟩ := agrees.section_ exclusive calls performed
      refine ⟨(_, action), next, by rw [shown]; rfl, acted, agree, ?_⟩
      rw [acted.2.2]
      exact exclusive.act acted.2.1

end PoolSystem

/-! ### The threads -/

section Threads

variable {Thread : Type} [DecidableEq Thread]

abbrev PoolMachine (Thread : Type) :=
  Machine Thread ConnectionPool PoolThread ThreadCall PoolPoint (Option ConnectionPtr)

abbrev PoolEvent := Event ThreadCall (Option ConnectionPtr)

def PoolMachine.start : PoolMachine Thread := Machine.initial ConnectionPool.empty fun _ => .idle

/-- What the thread holds, where it is in a section included. -/
def PoolMachine.held (self : PoolMachine Thread) (thread : Thread) : List ConnectionPtr :=
  (self.place thread).control.held

/-- The clients with whole sections that a reachable machine stands for. -/
theorem threads_simulate {labels : List (Thread × PoolEvent)} {machine : PoolMachine Thread}
    (run : Run (Machine.Step poolProgram) PoolMachine.start labels machine) :
    ∃ actions system atomic,
      actions.map (fun label : Thread × ClientAction => (label.1, label.2.call?)) =
          (labels.flatMap observed).map (fun label => (label.1, label.2.request?)) ∧
        Run PoolSystem.ObjectStep PoolSystem.start actions system ∧
        Represents poolProgram machine atomic ∧ system.Agrees atomic ∧ system.Exclusive := by
  obtain ⟨atomic, sections, represents⟩ :=
    run_represents run (Represents.initial poolProgram ConnectionPool.empty fun _ => .idle)
  have simulates : ∀ (before : Atomic Thread ConnectionPool PoolThread)
      (system : PoolSystem Thread) (label : Thread × AtomicEvent ThreadCall (Option ConnectionPtr))
      (after : Atomic Thread ConnectionPool PoolThread),
      (system.Agrees before ∧ system.Exclusive) → Atomic.Step poolProgram before label after →
      ∃ (other : Thread × ClientAction) (next : PoolSystem Thread),
        (other.1, other.2.call?) = (label.1, label.2.request?) ∧
          PoolSystem.ObjectStep system other next ∧ (next.Agrees after ∧ next.Exclusive) := by
    intro before system label after matched stepped
    exact matched.1.step matched.2 stepped
  obtain ⟨actions, system, shown, acted, agrees, exclusive⟩ :=
    sections.relabelling simulates ⟨PoolSystem.Agrees.start, PoolSystem.Exclusive.start⟩
  exact ⟨actions, system, atomic, shown, acted, represents, agrees, exclusive⟩

/-- One thread grabs a connection while another one calls `grab()` as well, and the other
one then takes the mutex. -/
def overlapping : List (Bool × PoolEvent) :=
  [(true, .call .grab), (true, .lock), (true, .access), (false, .call .grab), (true, .access),
    (true, .access), (true, .access), (true, .access), (true, .unlock .grab (some 1)),
    (false, .lock)]

theorem overlapping_run : ∃ machine : PoolMachine Bool,
    Run (Machine.Step poolProgram) PoolMachine.start overlapping machine ∧
      machine.held true = [1] ∧ machine.place true = .outside ⟨.idle, [1]⟩ ∧
      machine.place false = .inside ⟨.idle, []⟩ .grab (.inl .aging) ∧
      machine.shared = { pool := [ConnectionInfo.new 1 0], created := [1], destroyed := [] } := by
  have quiet : ∀ {pool : ConnectionPool} {input : AccessInput} {point : PoolPoint},
      point ≠ .creating → pool.Permits input point := by
    intro pool input point other creating
    exact absurd creating other
  let input : AccessInput := { now := 0, maxIdleTime := 1, create := some 1 }
  refine ⟨_, .cons (.call rfl rfl) (.cons (.lock rfl rfl)
    (.cons (.access rfl ⟨input, quiet (by decide), rfl⟩) (.cons (.call rfl rfl)
    (.cons (.access rfl ⟨input, quiet (by decide), rfl⟩)
    (.cons (.access rfl ⟨input, quiet (by decide), rfl⟩)
    (.cons (.access rfl ⟨input, ?_, rfl⟩)
    (.cons (.access rfl ⟨input, quiet (by decide), rfl⟩)
    (.cons (.unlock rfl) (.single (.lock rfl rfl)))))))))), rfl, rfl, rfl, rfl⟩
  intro _ conn same
  cases same
  exact ⟨by decide, by decide⟩

/-- The sections of a run with whole sections, in the order in which the mutex was
given back, make of the pool what the accesses of all threads, interleaved in any way,
have made of it whenever the mutex is free, and hand the same connections to the same
threads. -/
theorem threads_serialize {labels : List (Thread × PoolEvent)} {machine : PoolMachine Thread}
    (run : Run (Machine.Step poolProgram) PoolMachine.start labels machine) :
    ∃ actions system,
      actions.map (fun label : Thread × ClientAction => (label.1, label.2.call?)) =
          (labels.flatMap observed).map (fun label => (label.1, label.2.request?)) ∧
        Run PoolSystem.ObjectStep PoolSystem.start actions system ∧
        (machine.owner = none → machine.shared = system.pool) ∧
        ∀ thread, (system.heldBy thread).Perm (machine.held thread) ∧
          system.phase thread = (machine.place thread).control.phase := by
  obtain ⟨actions, system, atomic, shown, acted, represents, agrees, _⟩ := threads_simulate run
  refine ⟨actions, system, shown, acted, ?_, ?_⟩
  · intro free
    rw [agrees.pool]
    exact represents.free free
  · intro thread
    rw [PoolMachine.held, ← represents.control thread]
    exact ⟨agrees.held thread, agrees.phase thread⟩

theorem threads_serialize_overlapping : ∃ actions system,
    Run PoolSystem.ObjectStep (PoolSystem.start : PoolSystem Bool) actions system ∧
      (system.heldBy true).Perm [1] := by
  obtain ⟨machine, run, held, _⟩ := overlapping_run
  obtain ⟨actions, system, _, acted, _, same⟩ := threads_serialize run
  refine ⟨actions, system, acted, ?_⟩
  rw [← held]
  exact (same true).1

section Owned

variable {machine : PoolMachine Thread} {atomic : Atomic Thread ConnectionPool PoolThread}
  {system : PoolSystem Thread}

theorem mem_held_system (represents : Represents poolProgram machine atomic)
    (agrees : system.Agrees atomic) {thread : Thread} {pc : ConnectionPtr} :
    pc ∈ machine.held thread ↔ (thread, pc) ∈ system.held := by
  rw [PoolMachine.held, ← represents.control thread, ← PoolSystem.mem_heldBy]
  exact (agrees.held thread).mem_iff.symm

theorem eq_of_held (represents : Represents poolProgram machine atomic)
    (agrees : system.Agrees atomic) (exclusive : system.Exclusive) {thread other : Thread}
    {pc : ConnectionPtr} (holds : pc ∈ machine.held thread) (otherHolds : pc ∈ machine.held other) :
    thread = other := by
  have equal : ((thread, pc) : Thread × ConnectionPtr) = (other, pc) :=
    List.inj_on_of_nodup_map exclusive.heldOnce ((mem_held_system represents agrees).mp holds)
      ((mem_held_system represents agrees).mp otherHolds) rfl
  exact congrArg Prod.fst equal

/-- What a thread gives up, it holds. -/
theorem spares_of_calls (represents : Represents poolProgram machine atomic)
    (agrees : system.Agrees atomic) (exclusive : system.Exclusive) {thread other : Thread}
    {pc : ConnectionPtr} (holds : pc ∈ machine.held other) (different : thread ≠ other)
    {call : ThreadCall} (calls : (machine.place thread).control.Calls call) :
    call.pool.Spares pc := by
  have apart : ∀ given, given ∈ machine.held thread → given ≠ pc := by
    intro given mine same
    rw [same] at mine
    exact different (eq_of_held represents agrees exclusive mine holds)
  cases call with
  | grab | exchangeGrab | safeGrabGrab => exact True.intro
  | shrink => rfl
  | release given | remove given | exchangeRemove given => exact apart given calls.2
  | safeGrabRemove given =>
      apply apart
      apply (mem_held_system represents agrees).mpr
      apply exclusive.pinging
      rw [agrees.phase thread, represents.control thread]
      exact calls

/-- The section that the owner of the mutex is in, if any, spares what another thread
holds, and what the owner itself holds and does not give up. -/
theorem serves_of_held (represents : Represents poolProgram machine atomic)
    (agrees : system.Agrees atomic) (exclusive : system.Exclusive) {thread owner : Thread}
    {pc : ConnectionPtr} (holds : pc ∈ machine.held thread)
    (keeps : ∀ call, (machine.place thread).request? = some call → call.pool.Spares pc)
    {call : ThreadCall} {control : PoolThread} {at_ : PoolPoint ⊕ Option ConnectionPtr}
    (place : machine.place owner = .inside control call at_) :
    call.pool.Spares pc ∧ atomic.shared.Serves call.pool machine.shared at_ := by
  refine ⟨?_, serves_of_reaches (represents.reaches place)⟩
  by_cases same : owner = thread
  · apply keeps
    rw [← same, place]
    rfl
  · apply spares_of_calls represents agrees exclusive holds same
    apply represents.called
    rw [place]
    rfl

theorem backed_of_held (represents : Represents poolProgram machine atomic)
    (agrees : system.Agrees atomic) (exclusive : system.Exclusive) {thread : Thread}
    {pc : ConnectionPtr} (holds : pc ∈ machine.held thread)
    (keeps : ∀ call, (machine.place thread).request? = some call → call.pool.Spares pc) :
    machine.shared.Backed pc := by
  have backed : atomic.shared.Backed pc := by
    rw [← agrees.pool]
    exact exclusive.backed thread pc ((mem_held_system represents agrees).mp holds)
  cases owner : machine.owner with
  | none =>
      rw [represents.free owner]
      exact backed
  | some other =>
      obtain ⟨call, at_, requested, here, _⟩ := represents.held other owner
      cases place : machine.place other with
      | outside control | waiting control asked =>
          rw [place] at here
          cases here
      | inside control asked there =>
          obtain ⟨spares, serves⟩ :=
            serves_of_held represents agrees exclusive holds keeps place
          exact serves.backed spares backed

end Owned

/-- At every moment of every interleaving: no connection is with two threads or twice
with one, what a thread holds and is not giving up is in the list and marked in use,
also between two accesses of another thread's section, and no step of any thread passes
it to `destroy()`. -/
theorem threads_own {labels : List (Thread × PoolEvent)} {machine : PoolMachine Thread}
    (run : Run (Machine.Step poolProgram) PoolMachine.start labels machine) :
    (∀ thread, (machine.held thread).Nodup) ∧
      (∀ thread other pc, pc ∈ machine.held thread → pc ∈ machine.held other → thread = other) ∧
      ∀ thread pc, pc ∈ machine.held thread →
        (∀ call, (machine.place thread).request? = some call → call.pool.Spares pc) →
        machine.shared.Backed pc ∧
          ∀ label after, Machine.Step poolProgram machine label after →
            after.shared.destroyed.count pc = machine.shared.destroyed.count pc := by
  obtain ⟨_, system, atomic, _, _, represents, agrees, exclusive⟩ := threads_simulate run
  refine ⟨?_, ?_, ?_⟩
  · intro thread
    rw [PoolMachine.held, ← represents.control thread]
    apply (agrees.held thread).nodup_iff.mp
    exact (exclusive.heldOnce.sublist (List.filter_sublist.map Prod.snd))
  · intro thread other pc
    exact eq_of_held represents agrees exclusive
  · intro thread pc holds keeps
    refine ⟨backed_of_held represents agrees exclusive holds keeps, ?_⟩
    intro label after stepped
    cases stepped with
    | own | call | lock | unlock => rfl
    | access place accesses =>
        obtain ⟨spares, serves⟩ := serves_of_held represents agrees exclusive holds keeps place
        obtain ⟨input, _, accessed⟩ := accesses
        apply serves.destroyed spares _ _ accessed
        · rw [← agrees.pool]
          exact exclusive.backed thread pc ((mem_held_system represents agrees).mp holds)
        · rw [← agrees.pool]
          exact exclusive.distinct

theorem threads_own_overlapping : ∃ machine : PoolMachine Bool,
    machine.place false = .inside ⟨.idle, []⟩ .grab (.inl .aging) ∧ machine.shared.Backed 1 := by
  obtain ⟨machine, run, held, place, busy, _⟩ := overlapping_run
  refine ⟨machine, busy, ((threads_own run).2.2 true 1 ?_ ?_).1⟩
  · rw [held]
    exact List.mem_singleton_self 1
  · intro call impossible
    rw [place] at impossible
    cases impossible

theorem accessesLeft_le (point : PoolPoint) (self : ConnectionPool) :
    accessesLeft point self ≤ 4 * self.size + 10 := by
  cases point with
  | scanning loop it | destroying loop it | erasing loop it =>
      cases loop with
      | clear all | release pc | remove pc | removeOld minAge =>
          simp only [accessesLeft, afterLoop]
          omega
  | _ =>
      simp only [accessesLeft]
      omega

/-- The threads are never stuck. As long as one of them has called an operation, some
thread can take the mutex, make an access or give the mutex back; a thread in a section
never dereferences an iterator at the end of the list, can finish on its own, and gives
the mutex back after at most four accesses for each node and eleven more, whatever the
other threads do. -/
theorem threads_proceed {labels : List (Thread × PoolEvent)} {machine : PoolMachine Thread}
    (run : Run (Machine.Step poolProgram) PoolMachine.start labels machine) :
    (∀ thread call, (machine.place thread).request? = some call →
      ∃ label after, Machine.Step poolProgram machine label after ∧ label.2.goesOn = true) ∧
      ∀ thread control call point, machine.place thread = .inside control call (.inl point) →
        (∀ input, (machine.shared.access input point).isSome = true) ∧
          (∃ own after, Run (Machine.Step poolProgram) machine own after ∧ after.owner = none ∧
            (∀ label ∈ own, label.1 = thread) ∧ own.length ≤ 4 * machine.shared.size + 12) ∧
          ∀ later finish, Run (Machine.Step poolProgram) machine later finish →
            (∀ asked result, (thread, Event.unlock asked result) ∉ later) →
            later.countP (fun label => decide (label.1 = thread) && label.2.goesOn) ≤
              4 * machine.shared.size + 11 := by
  obtain ⟨_, system, atomic, _, _, represents, _, _⟩ := threads_simulate run
  refine ⟨?_, ?_⟩
  · intro thread call busy
    exact represents.progress poolProgram_terminating busy
  · intro thread control call point place
    have few := accessesLeft_le point machine.shared
    refine ⟨?_, ?_, ?_⟩
    · exact access_isSome (serves_of_reaches (represents.reaches place))
    · obtain ⟨own, after, finished, free, mine, short⟩ :=
        represents.releases poolProgram_terminating place
      exact ⟨own, after, finished, free, mine, by omega⟩
    · intro later finish ran keeps
      have bounded := Represents.accesses_le ran represents poolProgram_terminating place keeps
      rw [Sum.elim_inl] at bounded
      omega

theorem threads_proceed_overlapping : ∃ machine after : PoolMachine Bool,
    machine.place false = .inside ⟨.idle, []⟩ .grab (.inl .aging) ∧ after.owner = none ∧
      ∃ own, Run (Machine.Step poolProgram) machine own after ∧ own.length ≤ 16 := by
  obtain ⟨machine, run, _, _, busy, pool⟩ := overlapping_run
  obtain ⟨_, ⟨own, after, finished, free, _, short⟩, _⟩ := (threads_proceed run).2 false _ _ _ busy
  refine ⟨machine, after, busy, free, own, finished, ?_⟩
  rw [pool] at short
  exact short

end Threads

end LibTabula
