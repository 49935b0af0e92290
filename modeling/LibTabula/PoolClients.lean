/-
Clients that share one connection pool.

Each client is a thread that runs one pool operation at a time. A label of the
system is one atomic section of one client, so a run is an interleaving:
`exchange` releases the mutex between its removal and its grab, and `safe_grab`
after every grab and every removal. A client gives back, removes or exchanges
only connections it holds.

The invariant ties three things together: what a client holds is in the pool and
marked in use, nothing is held twice, and nothing is in the pool twice.
-/

import LibTabula.PoolHistory

set_option autoImplicit false

namespace LibTabula

open Foundation

namespace ConnectionPool

/-- The pool has a node for the pointer that is marked in use. -/
def Backed (self : ConnectionPool) (pc : ConnectionPtr) : Prop :=
  ∃ info ∈ self.pool, info.conn = pc ∧ info.inUse = true

theorem Backed.mem_pointers {self : ConnectionPool} {pc : ConnectionPtr}
    (backed : self.Backed pc) : pc ∈ self.pointers := by
  obtain ⟨info, member, same, _⟩ := backed
  exact List.mem_map.mpr ⟨info, member, same⟩

/-- With distinct pointers, a node that shares its pointer with an in-use node is
in use. -/
theorem Backed.inUse {self : ConnectionPool} {info : ConnectionInfo}
    (backed : self.Backed info.conn) (distinct : self.pointers.Nodup)
    (member : info ∈ self.pool) : info.inUse = true := by
  obtain ⟨other, otherMember, same, used⟩ := backed
  have equal : other = info :=
    List.inj_on_of_nodup_map distinct otherMember member same
  rw [← equal]
  exact used

theorem expired_pool_subset (self : ConnectionPool) (input : GrabInput)
    {info : ConnectionInfo} (member : info ∈ (self.expired input).pool) :
    info ∈ self.pool := by
  rw [expired, removeOldConnections_eq] at member
  exact (List.mem_filter.mp member).1

theorem Backed.expired {self : ConnectionPool} {pc : ConnectionPtr}
    (backed : self.Backed pc) (input : GrabInput) : (self.expired input).Backed pc := by
  obtain ⟨info, member, same, used⟩ := backed
  exact ⟨info, mem_removeOldConnections_of_inUse self _ _ member used, same, used⟩

/-- Turning a free node into an in-use one costs no backed pointer. -/
theorem Backed.mark {self : ConnectionPool} {pc : ConnectionPtr}
    (backed : self.Backed pc) {front back : List ConnectionInfo} {info : ConnectionInfo}
    (shape : self.pool = front ++ info :: back) (free : info.inUse = false) :
    { self with pool := front ++ { info with inUse := true } :: back }.Backed pc := by
  obtain ⟨other, member, same, used⟩ := backed
  have different : other ≠ info := by
    intro equal
    rw [equal, free] at used
    cases used
  refine ⟨other, ?_, same, used⟩
  rw [shape, List.mem_append, List.mem_cons] at member
  simp only [List.mem_append, List.mem_cons]
  tauto

theorem Backed.findMru {self : ConnectionPool} {pc : ConnectionPtr}
    (backed : self.Backed pc) : self.findMru.2.Backed pc := by
  rcases findMru_cases self with ⟨_, same⟩ | ⟨front, info, back, shape, free, _, marked⟩
  · rw [same]
    exact backed
  · rw [marked]
    exact backed.mark shape free

theorem Backed.append {self : ConnectionPool} {pc : ConnectionPtr}
    (backed : self.Backed pc) (infos : List ConnectionInfo) (log : List ConnectionPtr) :
    { self with pool := self.pool ++ infos, created := log }.Backed pc := by
  obtain ⟨info, member, same, used⟩ := backed
  exact ⟨info, List.mem_append.mpr (Or.inl member), same, used⟩

theorem Backed.grab {self : ConnectionPool} {pc : ConnectionPtr}
    (backed : self.Backed pc) (input : GrabInput) : (self.grab input).2.Backed pc := by
  have kept := backed.expired input
  rcases grab_cases self input with
    ⟨front, info, back, shape, free, _, _, result⟩ | ⟨_, _, result⟩ | ⟨conn, _, _, result⟩
  · rw [result]
    exact kept.mark shape free
  · rw [result]
    exact kept.findMru
  · rw [result]
    exact kept.findMru.append _ _

/-- What backs a connection is not the entry of another one. -/
theorem Backed.elsewhere {self : ConnectionPool} {pc : ConnectionPtr}
    (backed : self.Backed pc) {front back : List ConnectionInfo} {info : ConnectionInfo}
    (shape : self.pool = front ++ info :: back) (different : pc ≠ info.conn) :
    ∃ holder, (holder ∈ front ∨ holder ∈ back) ∧ holder.conn = pc ∧ holder.inUse = true := by
  obtain ⟨holder, member, same, used⟩ := backed
  refine ⟨holder, ?_, same, used⟩
  rw [shape, List.mem_append, List.mem_cons] at member
  rcases member with inFront | isInfo | inBack
  · exact .inl inFront
  · rw [← same, isInfo] at different
    exact absurd rfl different
  · exact .inr inBack

theorem Backed.release_of_ne {self : ConnectionPool} {pc other : ConnectionPtr}
    (backed : self.Backed pc) (now : Int) (different : pc ≠ other) :
    (self.release other now).Backed pc := by
  rcases release_cases self other now with
    ⟨_, unchanged⟩ | ⟨front, info, back, shape, conn, _, result⟩
  · rw [unchanged]
    exact backed
  · rw [← conn] at different
    obtain ⟨holder, member, same, used⟩ := backed.elsewhere shape different
    rw [result]
    refine ⟨holder, ?_, same, used⟩
    simp only [List.mem_append, List.mem_cons]
    tauto

theorem Backed.remove_of_ne {self : ConnectionPool} {pc other : ConnectionPtr}
    (backed : self.Backed pc) (different : pc ≠ other) :
    (self.remove other).Backed pc := by
  rcases remove_cases self other with
    ⟨_, unchanged⟩ | ⟨front, info, back, shape, conn, _, result⟩
  · rw [unchanged]
    exact backed
  · rw [← conn] at different
    obtain ⟨holder, member, same, used⟩ := backed.elsewhere shape different
    rw [result]
    exact ⟨holder, List.mem_append.mpr member, same, used⟩

theorem Backed.shrink {self : ConnectionPool} {pc : ConnectionPtr}
    (backed : self.Backed pc) : self.shrink.Backed pc := by
  obtain ⟨info, member, same, used⟩ := backed
  refine ⟨info, ?_, same, used⟩
  rw [ConnectionPool.shrink, clear_false_eq]
  exact List.mem_filter.mpr ⟨member, used⟩

theorem grab_returns {self : ConnectionPool} {input : GrabInput} {pc : ConnectionPtr}
    (distinct : self.pointers.Nodup) (creates : self.CreatesDistinct (.grab input))
    (returned : (self.grab input).1 = some pc) :
    ¬ self.Backed pc ∧ (self.grab input).2.Backed pc := by
  rcases grab_cases self input with
    ⟨front, info, back, shape, free, _, _, result⟩ | ⟨_, _, result⟩ |
      ⟨conn, nothing, created, result⟩
  · rw [result, Option.some.injEq] at returned
    subst pc
    have member : info ∈ (self.expired input).pool := by simp [shape]
    constructor
    · intro backed
      have used := backed.inUse distinct (expired_pool_subset self input member)
      rw [free] at used
      cases used
    · rw [result]
      exact ⟨{ info with inUse := true }, by simp, rfl, rfl⟩
  · rw [result] at returned
    cases returned
  · rw [result, Option.some.injEq] at returned
    subst pc
    constructor
    · intro backed
      exact creates nothing conn created (backed.expired input).mem_pointers
    · rw [result]
      exact ⟨ConnectionInfo.new conn input.stamp, by simp, rfl, rfl⟩

theorem destroyed_grab (self : ConnectionPool) (input : GrabInput) :
    (self.grab input).2.destroyed = (self.expired input).destroyed := by
  rcases grab_cases self input with
    ⟨front, info, back, _, _, _, _, result⟩ | ⟨_, _, result⟩ | ⟨conn, _, _, result⟩
  · rw [result]
  · rw [result]
    exact (findMru_frame (self.expired input)).2.2
  · rw [result]
    exact (findMru_frame (self.expired input)).2.2

theorem destroyed_release (self : ConnectionPool) (pc : ConnectionPtr) (now : Int) :
    (self.release pc now).destroyed = self.destroyed := by
  rcases release_cases self pc now with ⟨_, same⟩ | ⟨front, info, back, _, _, _, result⟩
  · rw [same]
  · rw [result]

/-- Disposing of free nodes calls `destroy()` on no backed pointer. -/
theorem Backed.not_mem_free {self : ConnectionPool} {pc : ConnectionPtr}
    (backed : self.Backed pc) (distinct : self.pointers.Nodup)
    (p : ConnectionInfo → Bool) (onlyFree : ∀ info, p info = true → info.inUse = false) :
    pc ∉ (self.pool.filter p).map ConnectionInfo.conn := by
  intro member
  obtain ⟨info, selected, same⟩ := List.mem_map.mp member
  obtain ⟨pooled, chosen⟩ := List.mem_filter.mp selected
  subst pc
  have used := backed.inUse distinct pooled
  rw [onlyFree info chosen] at used
  cases used

theorem Backed.destroyed_grab {self : ConnectionPool} {pc : ConnectionPtr}
    (backed : self.Backed pc) (distinct : self.pointers.Nodup) (input : GrabInput) :
    (self.grab input).2.destroyed.count pc = self.destroyed.count pc := by
  have spared := backed.not_mem_free distinct
    (ConnectionInfo.tooOld (input.now - input.maxIdleTime))
    (fun info old => by
      simp only [ConnectionInfo.tooOld, Bool.and_eq_true, Bool.not_eq_true'] at old
      exact old.1)
  rw [ConnectionPool.destroyed_grab, ConnectionPool.expired, removeOldConnections_eq,
    List.count_append, List.count_eq_zero.mpr spared, Nat.add_zero]

theorem Backed.destroyed_shrink {self : ConnectionPool} {pc : ConnectionPtr}
    (backed : self.Backed pc) (distinct : self.pointers.Nodup) :
    self.shrink.destroyed.count pc = self.destroyed.count pc := by
  have spared := backed.not_mem_free distinct (fun info => !info.inUse)
    (fun info free => by simpa using free)
  rw [ConnectionPool.shrink, clear_false_eq, List.count_append,
    List.count_eq_zero.mpr spared, Nat.add_zero]

theorem destroyed_remove_of_ne (self : ConnectionPool) {pc other : ConnectionPtr}
    (different : pc ≠ other) :
    (self.remove other).destroyed.count pc = self.destroyed.count pc := by
  rcases remove_cases self other with ⟨_, same⟩ | ⟨front, info, back, _, _, _, result⟩
  · rw [same]
  · rw [result, List.count_append, List.count_singleton]
    simp [different.symm]

end ConnectionPool

/-! ### The system -/

/-- Where a client is in the operation it has called. -/
inductive Phase
  | idle
  /-- `exchange()` has removed the old connection and not grabbed yet. -/
  | exchanging
  /-- `safe_grab()` is about to call `grab()`. -/
  | safeGrabbing
  /-- `safe_grab()` has grabbed a connection and waits for `ping()`. -/
  | pinging (pc : ConnectionPtr)
deriving DecidableEq, Repr

/-- One section of a client, or the call or return of an operation. -/
inductive ClientAction
  | grab (input : GrabInput)
  | release (pc : ConnectionPtr) (now : Int)
  | remove (pc : ConnectionPtr)
  | shrink
  | exchangeRemove (pc : ConnectionPtr)
  | exchangeGrab (input : GrabInput)
  | safeGrabCall
  | safeGrabGrab (input : GrabInput)
  | safeGrabReturn
  | safeGrabRemove (pc : ConnectionPtr)
deriving DecidableEq, Repr

structure PoolSystem (Client : Type) where
  pool : ConnectionPool
  held : List (Client × ConnectionPtr)
  phase : Client → Phase

namespace PoolSystem

open ConnectionPool

variable {Client : Type}

def start : PoolSystem Client :=
  { pool := empty, held := [], phase := fun _ => .idle }

/-- What the `grab()` of a section returns, if the section is one. -/
def returned (self : PoolSystem Client) : ClientAction → Option ConnectionPtr
  | .grab input | .exchangeGrab input | .safeGrabGrab input => (self.pool.grab input).1
  | _ => none

structure Exclusive (system : PoolSystem Client) : Prop where
  distinct : system.pool.pointers.Nodup
  heldOnce : (system.held.map Prod.snd).Nodup
  backed : ∀ client pc, (client, pc) ∈ system.held → system.pool.Backed pc
  pinging : ∀ client pc, system.phase client = .pinging pc → (client, pc) ∈ system.held

theorem Exclusive.start : Exclusive (start : PoolSystem Client) where
  distinct := List.nodup_nil
  heldOnce := List.nodup_nil
  backed := by
    intro client pc member
    cases member
  pinging := by
    intro client pc phase
    cases phase

theorem Exclusive.not_held {self : PoolSystem Client} (exclusive : self.Exclusive)
    {input : GrabInput} {pc : ConnectionPtr}
    (creates : self.pool.CreatesDistinct (.grab input))
    (found : (self.pool.grab input).1 = some pc) (other : Client) :
    (other, pc) ∉ self.held := by
  intro member
  exact (grab_returns exclusive.distinct creates found).1 (exclusive.backed other pc member)

/-- A section that keeps every backed pointer keeps the invariant. -/
theorem Exclusive.setPool {self : PoolSystem Client} (exclusive : self.Exclusive)
    {pool : ConnectionPool} (distinct : pool.pointers.Nodup)
    (keeps : ∀ pc, self.pool.Backed pc → pool.Backed pc) :
    { self with pool := pool }.Exclusive where
  distinct := distinct
  heldOnce := exclusive.heldOnce
  backed := fun client pc member => keeps pc (exclusive.backed client pc member)
  pinging := exclusive.pinging

variable [DecidableEq Client]

def enter (self : PoolSystem Client) (client : Client) (phase : Phase) :
    PoolSystem Client :=
  { self with phase := fun other => if other = client then phase else self.phase other }

/-- The client's call of `grab()`, which continues in `taken` with a connection
and is back in `idle` when `create()` throws. -/
def take (self : PoolSystem Client) (client : Client) (input : GrabInput)
    (taken : ConnectionPtr → Phase) : PoolSystem Client :=
  match self.pool.grab input with
  | (none, pool) => { self with pool := pool }.enter client .idle
  | (some pc, pool) =>
      { self with pool := pool, held := (client, pc) :: self.held }.enter client (taken pc)

/-- The client gives `pc` up to a section that leaves `pool`, and goes on in
`phase`. -/
def giveUp (self : PoolSystem Client) (client : Client) (pc : ConnectionPtr)
    (pool : ConnectionPool) (phase : Phase) : PoolSystem Client :=
  { self with pool := pool, held := self.held.erase (client, pc) }.enter client phase

def act (self : PoolSystem Client) (client : Client) : ClientAction → PoolSystem Client
  | .grab input => self.take client input (fun _ => .idle)
  | .release pc now => self.giveUp client pc (self.pool.release pc now) .idle
  | .remove pc => self.giveUp client pc (self.pool.remove pc) .idle
  | .shrink => { self with pool := self.pool.shrink }
  | .exchangeRemove pc => self.giveUp client pc (self.pool.remove pc) .exchanging
  | .exchangeGrab input => self.take client input (fun _ => .idle)
  | .safeGrabCall => self.enter client .safeGrabbing
  | .safeGrabGrab input => self.take client input .pinging
  | .safeGrabReturn => self.enter client .idle
  | .safeGrabRemove pc => self.giveUp client pc (self.pool.remove pc) .safeGrabbing

/-- When a client can do what: it is at that point of the operation it is in, it
holds what it gives up, and `create()` makes a new connection. -/
def Allowed (self : PoolSystem Client) (client : Client) : ClientAction → Prop
  | .grab input =>
      self.phase client = .idle ∧ self.pool.CreatesDistinct (.grab input)
  | .release pc _ => self.phase client = .idle ∧ (client, pc) ∈ self.held
  | .remove pc => self.phase client = .idle ∧ (client, pc) ∈ self.held
  | .shrink => self.phase client = .idle
  | .exchangeRemove pc => self.phase client = .idle ∧ (client, pc) ∈ self.held
  | .exchangeGrab input =>
      self.phase client = .exchanging ∧ self.pool.CreatesDistinct (.grab input)
  | .safeGrabCall => self.phase client = .idle
  | .safeGrabGrab input =>
      self.phase client = .safeGrabbing ∧ self.pool.CreatesDistinct (.grab input)
  | .safeGrabReturn => ∃ pc, self.phase client = .pinging pc
  | .safeGrabRemove pc => self.phase client = .pinging pc

def Step (before : PoolSystem Client) (label : Client × ClientAction)
    (after : PoolSystem Client) : Prop :=
  before.Allowed label.1 label.2 ∧ after = before.act label.1 label.2

/-! ### Each section keeps the invariant -/

theorem Exclusive.enter {self : PoolSystem Client} (exclusive : self.Exclusive)
    (client : Client) {phase : Phase} (quiet : ∀ pc, phase ≠ .pinging pc) :
    (self.enter client phase).Exclusive where
  distinct := exclusive.distinct
  heldOnce := exclusive.heldOnce
  backed := exclusive.backed
  pinging := by
    intro other pc reached
    simp only [PoolSystem.enter] at reached
    by_cases same : other = client
    · rw [if_pos same] at reached
      exact absurd reached (quiet pc)
    · rw [if_neg same] at reached
      exact exclusive.pinging other pc reached

theorem Exclusive.take {self : PoolSystem Client} (exclusive : self.Exclusive)
    (client : Client) {input : GrabInput} {taken : ConnectionPtr → Phase}
    (creates : self.pool.CreatesDistinct (.grab input))
    (waits : ∀ pc other, taken pc = .pinging other → other = pc) :
    (self.take client input taken).Exclusive := by
  have distinct : (self.pool.grab input).2.pointers.Nodup :=
    nodup_grab exclusive.distinct creates
  have keeps : ∀ pc, self.pool.Backed pc → (self.pool.grab input).2.Backed pc :=
    fun pc backed => backed.grab input
  unfold PoolSystem.take
  cases outcome : self.pool.grab input with
  | mk found pool =>
      rw [outcome] at distinct keeps
      cases found with
      | none =>
          have moved := exclusive.setPool distinct keeps
          apply moved.enter client
          intro pc impossible
          cases impossible
      | some pc =>
          have result : (self.pool.grab input).1 = some pc := by rw [outcome]
          have backed := (grab_returns exclusive.distinct creates result).2
          rw [outcome] at backed
          refine ⟨distinct, ?_, ?_, ?_⟩
          · refine List.nodup_cons.mpr ⟨?_, exclusive.heldOnce⟩
            intro again
            obtain ⟨⟨other, _⟩, member, same⟩ := List.mem_map.mp again
            cases same
            exact exclusive.not_held creates result other member
          · intro other otherPc member
            rcases List.mem_cons.mp member with new | old
            · cases new
              exact backed
            · exact keeps otherPc (exclusive.backed other otherPc old)
          · intro other otherPc reached
            simp only [PoolSystem.enter] at reached
            by_cases same : other = client
            · rw [if_pos same] at reached
              rw [same, waits pc otherPc reached]
              exact List.mem_cons_self
            · rw [if_neg same] at reached
              exact List.mem_cons_of_mem _ (exclusive.pinging other otherPc reached)

theorem Exclusive.ne_of_mem_erase {self : PoolSystem Client} (exclusive : self.Exclusive)
    {client other : Client} {pc otherPc : ConnectionPtr} (holds : (client, pc) ∈ self.held)
    (member : (other, otherPc) ∈ self.held.erase (client, pc)) : otherPc ≠ pc := by
  intro same
  have held := List.mem_of_mem_erase member
  have equal : ((other, otherPc) : Client × ConnectionPtr) = (client, pc) :=
    List.inj_on_of_nodup_map exclusive.heldOnce held holds same
  rw [equal] at member
  exact (exclusive.heldOnce.of_map Prod.snd).not_mem_erase member

theorem Exclusive.giveUp {self : PoolSystem Client} (exclusive : self.Exclusive)
    {client : Client} {pc : ConnectionPtr} {pool : ConnectionPool} {phase : Phase}
    (holds : (client, pc) ∈ self.held) (distinct : pool.pointers.Nodup)
    (keeps : ∀ other, other ≠ pc → self.pool.Backed other → pool.Backed other)
    (quiet : ∀ other, phase ≠ .pinging other) :
    (self.giveUp client pc pool phase).Exclusive where
  distinct := distinct
  heldOnce := exclusive.heldOnce.sublist (List.erase_sublist.map Prod.snd)
  backed := by
    intro other otherPc member
    exact keeps otherPc (exclusive.ne_of_mem_erase holds member)
      (exclusive.backed other otherPc (List.mem_of_mem_erase member))
  pinging := by
    intro other otherPc reached
    simp only [PoolSystem.giveUp, PoolSystem.enter] at reached
    by_cases same : other = client
    · rw [if_pos same] at reached
      exact absurd reached (quiet otherPc)
    · rw [if_neg same] at reached
      have different : ((other, otherPc) : Client × ConnectionPtr) ≠ (client, pc) := by
        intro equal
        exact same (congrArg Prod.fst equal)
      exact (List.mem_erase_of_ne different).mpr (exclusive.pinging other otherPc reached)

theorem Exclusive.giveUp_remove {self : PoolSystem Client} (exclusive : self.Exclusive)
    {client : Client} {pc : ConnectionPtr} {phase : Phase} (holds : (client, pc) ∈ self.held)
    (quiet : ∀ other, phase ≠ .pinging other) :
    (self.giveUp client pc (self.pool.remove pc) phase).Exclusive :=
  exclusive.giveUp holds
    (exclusive.distinct.sublist (pointers_remove_sublist self.pool pc))
    (fun _ different backed => backed.remove_of_ne different) quiet

theorem Exclusive.act {self : PoolSystem Client} (exclusive : self.Exclusive)
    {client : Client} {action : ClientAction} (allowed : self.Allowed client action) :
    (self.act client action).Exclusive := by
  cases action with
  | grab input =>
      exact exclusive.take client allowed.2 (fun _ _ impossible => by cases impossible)
  | release pc now =>
      refine exclusive.giveUp allowed.2 ?_ (fun _ different backed =>
        backed.release_of_ne now different) (fun _ impossible => by cases impossible)
      rw [pointers_release]
      exact exclusive.distinct
  | remove pc =>
      exact exclusive.giveUp_remove allowed.2 (fun _ impossible => by cases impossible)
  | shrink =>
      exact exclusive.setPool
        (exclusive.distinct.sublist (pointers_clear_sublist self.pool false))
        (fun _ backed => backed.shrink)
  | exchangeRemove pc =>
      exact exclusive.giveUp_remove allowed.2 (fun _ impossible => by cases impossible)
  | exchangeGrab input =>
      exact exclusive.take client allowed.2 (fun _ _ impossible => by cases impossible)
  | safeGrabCall => exact exclusive.enter client (fun _ impossible => by cases impossible)
  | safeGrabGrab input =>
      exact exclusive.take client allowed.2 (fun _ _ same => by cases same; rfl)
  | safeGrabReturn => exact exclusive.enter client (fun _ impossible => by cases impossible)
  | safeGrabRemove pc =>
      exact exclusive.giveUp_remove (exclusive.pinging client pc allowed)
        (fun _ impossible => by cases impossible)

theorem run_exclusive {labels : List (Client × ClientAction)} {state : PoolSystem Client}
    (run : Run Step start labels state) : state.Exclusive := by
  refine run.invariant Exclusive ?_ Exclusive.start
  intro before label after exclusive stepped
  rw [stepped.2]
  exact exclusive.act stepped.1

/-! ### What one client's section does to the others -/

theorem held_act_of_ne (self : PoolSystem Client) {client other : Client}
    (action : ClientAction) {pc : ConnectionPtr} (different : other ≠ client)
    (holds : (other, pc) ∈ self.held) : (other, pc) ∈ (self.act client action).held := by
  have kept : ∀ taken : ConnectionPtr, (other, pc) ∈ self.held.erase (client, taken) := by
    intro taken
    refine (List.mem_erase_of_ne ?_).mpr holds
    intro equal
    exact different (congrArg Prod.fst equal)
  have took : ∀ input taken, (other, pc) ∈ (self.take client input taken).held := by
    intro input taken
    unfold PoolSystem.take
    cases self.pool.grab input with
    | mk found pool =>
        cases found with
        | none => exact holds
        | some new => exact List.mem_cons_of_mem _ holds
  cases action with
  | grab input => exact took input _
  | release given now => exact kept given
  | remove given => exact kept given
  | shrink => exact holds
  | exchangeRemove given => exact kept given
  | exchangeGrab input => exact took input _
  | safeGrabCall => exact holds
  | safeGrabGrab input => exact took input _
  | safeGrabReturn => exact holds
  | safeGrabRemove given => exact kept given

theorem take_pool (self : PoolSystem Client) (client : Client) (input : GrabInput)
    (taken : ConnectionPtr → Phase) :
    (self.take client input taken).pool = (self.pool.grab input).2 := by
  unfold PoolSystem.take
  cases self.pool.grab input with
  | mk found pool =>
      cases found with
      | none => rfl
      | some new => rfl

/-- No section of a client calls `destroy()` on a connection another client
holds. -/
theorem Exclusive.not_destroyed {self : PoolSystem Client} (exclusive : self.Exclusive)
    {client other : Client} {action : ClientAction} {pc : ConnectionPtr}
    (allowed : self.Allowed client action) (different : other ≠ client)
    (holds : (other, pc) ∈ self.held) :
    (self.act client action).pool.destroyed.count pc = self.pool.destroyed.count pc := by
  have backed := exclusive.backed other pc holds
  have apart : ∀ given, (client, given) ∈ self.held → pc ≠ given := by
    intro given member same
    have equal : ((other, pc) : Client × ConnectionPtr) = (client, given) :=
      List.inj_on_of_nodup_map exclusive.heldOnce holds member same
    exact different (congrArg Prod.fst equal)
  have taking : ∀ input taken,
      (self.take client input taken).pool.destroyed.count pc =
        self.pool.destroyed.count pc := by
    intro input taken
    rw [take_pool]
    exact backed.destroyed_grab exclusive.distinct input
  cases action with
  | grab input => exact taking input _
  | release given now =>
      change (self.pool.release given now).destroyed.count pc = _
      rw [destroyed_release]
  | remove given => exact destroyed_remove_of_ne self.pool (apart given allowed.2)
  | shrink => exact backed.destroyed_shrink exclusive.distinct
  | exchangeRemove given => exact destroyed_remove_of_ne self.pool (apart given allowed.2)
  | exchangeGrab input => exact taking input _
  | safeGrabCall => rfl
  | safeGrabGrab input => exact taking input _
  | safeGrabReturn => rfl
  | safeGrabRemove given =>
      exact destroyed_remove_of_ne self.pool
        (apart given (exclusive.pinging client given allowed))

/-- In every interleaving: `grab()` returns a connection that nobody holds, a
section of one client destroys nothing that another client holds and leaves it
held and pooled, and the pool never holds a connection twice. -/
theorem exclusive_checkout {labels : List (Client × ClientAction)}
    {before after : PoolSystem Client} {client : Client} {action : ClientAction}
    (run : Run Step start labels before) (stepped : Step before (client, action) after) :
    (∀ pc, before.returned action = some pc → ∀ other, (other, pc) ∉ before.held) ∧
      (∀ other pc, other ≠ client → (other, pc) ∈ before.held →
        after.pool.destroyed.count pc = before.pool.destroyed.count pc ∧
          (other, pc) ∈ after.held ∧ pc ∈ after.pool.pointers) ∧
      before.pool.pointers.Nodup ∧ after.pool.pointers.Nodup := by
  have exclusive := run_exclusive run
  have next : after.Exclusive := by
    rw [stepped.2]
    exact exclusive.act stepped.1
  refine ⟨?_, ?_, exclusive.distinct, next.distinct⟩
  · intro pc found other
    have allowed := stepped.1
    cases action with
    | grab input => exact exclusive.not_held allowed.2 found other
    | exchangeGrab input => exact exclusive.not_held allowed.2 found other
    | safeGrabGrab input => exact exclusive.not_held allowed.2 found other
    | _ => cases found
  · intro other pc different holds
    have still : (other, pc) ∈ after.held := by
      rw [stepped.2]
      exact held_act_of_ne before action different holds
    refine ⟨?_, still, (next.backed other pc still).mem_pointers⟩
    rw [stepped.2]
    exact exclusive.not_destroyed stepped.1 different holds

private def oneHeld : PoolSystem Bool :=
  { pool := { pool := [ConnectionInfo.new 1 0], created := [1], destroyed := [] }
    held := [(true, 1)]
    phase := fun _ => .idle }

private def secondGrab : GrabInput :=
  { now := 9, maxIdleTime := 1, create := some 2, stamp := 9 }

private theorem oneHeld_run :
    Run Step start [(true, .grab firstGrab)] oneHeld := by
  refine .single ⟨⟨rfl, ?_⟩, ?_⟩
  · intro _ conn _
    simp [expired, removeOldConnections_eq, start, empty, pointers]
  · simp [act, take, start, firstGrab_eq, enter, oneHeld]

private theorem secondGrab_expired : oneHeld.pool.expired secondGrab = oneHeld.pool := by
  simp [expired, removeOldConnections_eq, oneHeld, secondGrab, ConnectionInfo.tooOld,
    ConnectionInfo.new]

theorem exclusive_checkout_secondGrab :
    (oneHeld.act false (.grab secondGrab)).pool.pointers.Nodup := by
  have allowed : oneHeld.Allowed false (.grab secondGrab) := by
    refine ⟨rfl, ?_⟩
    intro _ conn created
    rw [secondGrab_expired]
    cases created
    decide
  exact (exclusive_checkout oneHeld_run ⟨allowed, rfl⟩).2.2.2

end PoolSystem

end LibTabula
