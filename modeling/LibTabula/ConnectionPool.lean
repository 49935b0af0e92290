/-
The connection pool.

Every public operation holds the pool's mutex from its first to its last line,
so each is one function on the pool. `exchange` and `safeGrab` take the mutex
once for each operation they call. The clock, the subclass's `max_idle_time()`
and `create()`, and the answers of `ping()` are inputs of the call that reads
them. The pool also records what `create()` has returned and what was passed to
`destroy()`, in order.
-/

import LibTabula.Foundation.ListCursor
import LibTabula.Foundation.MaxElement

set_option autoImplicit false

namespace LibTabula

open Foundation

/-- The address of a `Connection`; 0 is the null pointer. -/
abbrev ConnectionPtr := Nat

structure ConnectionInfo where
  conn : ConnectionPtr
  lastUsed : Int
  inUse : Bool
deriving DecidableEq, Repr

namespace ConnectionInfo

def new (conn : ConnectionPtr) (now : Int) : ConnectionInfo :=
  { conn := conn, lastUsed := now, inUse := true }

def lt (lhs rhs : ConnectionInfo) : Bool :=
  if lhs.inUse = rhs.inUse then decide (lhs.lastUsed < rhs.lastUsed) else lhs.inUse

/-- `TooOld::operator()`, with the `min_age_` its constructor computed. -/
def tooOld (minAge : Int) (info : ConnectionInfo) : Bool :=
  !info.inUse && decide (info.lastUsed ≤ minAge)

theorem lt_iff (lhs rhs : ConnectionInfo) :
    lt lhs rhs = true ↔
      (lhs.inUse = rhs.inUse ∧ lhs.lastUsed < rhs.lastUsed) ∨
        (lhs.inUse = true ∧ rhs.inUse = false) := by
  unfold lt
  cases lhs.inUse <;> cases rhs.inUse <;> simp

instance : IsStrictWeakOrder ConnectionInfo (fun lhs rhs => lt lhs rhs = true) where
  irrefl info := by simp [lt]
  trans first second third := by
    simp only [lt_iff]
    cases first.inUse <;> cases second.inUse <;> cases third.inUse <;> simp <;> omega
  incomp_trans first second third := by
    simp only [lt_iff]
    cases first.inUse <;> cases second.inUse <;> cases third.inUse <;> simp <;> omega

theorem inUse_of_lt_eq_false {info other : ConnectionInfo} (used : info.inUse = true)
    (notAbove : lt info other = false) : other.inUse = true := by
  cases otherUsed : other.inUse with
  | true => rfl
  | false => simp [lt, used, otherUsed] at notAbove

end ConnectionInfo

structure ConnectionPool where
  pool : List ConnectionInfo
  created : List ConnectionPtr
  destroyed : List ConnectionPtr
deriving DecidableEq, Repr

/-- What one call of `grab()` reads from outside: the clock and `max_idle_time()`
in `remove_old_connections()`, the result of `create()` (`none` when it throws)
and the clock once more in the constructor of the new node. -/
structure GrabInput where
  now : Int
  maxIdleTime : Nat
  create : Option ConnectionPtr
  stamp : Int
deriving DecidableEq, Repr

namespace ConnectionPool

def empty : ConnectionPool := { pool := [], created := [], destroyed := [] }

def size (self : ConnectionPool) : Nat := self.pool.length

def pointers (self : ConnectionPool) : List ConnectionPtr :=
  self.pool.map ConnectionInfo.conn

/-- The outcome of an erasing loop: `remove(const PoolIt&)` destroyed the
connection of every node it erased. -/
def dispose (self : ConnectionPool) (swept : List ConnectionInfo × List ConnectionInfo) :
    ConnectionPool :=
  { self with
    pool := swept.2
    destroyed := self.destroyed ++ swept.1.map ConnectionInfo.conn }

def clear (self : ConnectionPool) (all : Bool) : ConnectionPool :=
  self.dispose
    ((Cursor.start self.pool).eraseEach (fun info => all || !info.inUse) [])

def shrink (self : ConnectionPool) : ConnectionPool := self.clear false

def removeOldConnections (self : ConnectionPool) (now : Int) (maxIdleTime : Nat) :
    ConnectionPool :=
  self.dispose
    ((Cursor.start self.pool).eraseFound
      (ConnectionInfo.tooOld (now - maxIdleTime)) [])

def findMru (self : ConnectionPool) : ConnectionPtr × ConnectionPool :=
  match maxElement ConnectionInfo.lt self.pool with
  | none => (0, self)
  | some mru =>
      match self.pool[mru]? with
      | none => (0, self)
      | some info =>
          if info.inUse then (0, self)
          else
            (info.conn,
              { self with pool := self.pool.set mru { info with inUse := true } })

/-- `grab()`. The result is `none` when `create()` throws. -/
def grab (self : ConnectionPool) (input : GrabInput) :
    Option ConnectionPtr × ConnectionPool :=
  let (mru, marked) := (self.removeOldConnections input.now input.maxIdleTime).findMru
  if mru ≠ 0 then (some mru, marked)
  else
    match input.create with
    | none => (none, marked)
    | some conn =>
        (some conn,
          { marked with
            pool := marked.pool ++ [ConnectionInfo.new conn input.stamp]
            created := marked.created ++ [conn] })

def find (self : ConnectionPool) (pc : ConnectionPtr) : Cursor ConnectionInfo :=
  (Cursor.start self.pool).findIf (fun info => info.conn == pc)

def release (self : ConnectionPool) (pc : ConnectionPtr) (now : Int) : ConnectionPool :=
  match (self.find pc).after with
  | [] => self
  | info :: rest =>
      { self with
        pool := (self.find pc).before ++
          { info with inUse := false, lastUsed := now } :: rest }

def remove (self : ConnectionPool) (pc : ConnectionPtr) : ConnectionPool :=
  match (self.find pc).after with
  | [] => self
  | info :: _ => self.dispose ([info], (self.find pc).erase.toList)

def exchange (self : ConnectionPool) (pc : ConnectionPtr) (input : GrabInput) :
    Option ConnectionPtr × ConnectionPool :=
  (self.remove pc).grab input

/-- `safe_grab()`. Each round of its loop reads one grab's input and the answer
of `ping()`; the list holds the rounds to come. -/
def safeGrab (self : ConnectionPool) :
    List (GrabInput × Bool) → Option ConnectionPtr × ConnectionPool
  | [] => (none, self)
  | (input, ping) :: rounds =>
      match self.grab input with
      | (none, thrown) => (none, thrown)
      | (some pc, grabbed) =>
          if ping then (some pc, grabbed)
          else (grabbed.remove pc).safeGrab rounds

/-! ### What each operation does to the list -/

theorem clear_eq (self : ConnectionPool) (all : Bool) :
    self.clear all =
      { self with
        pool := self.pool.filter (fun info => !(all || !info.inUse))
        destroyed := self.destroyed ++
          (self.pool.filter (fun info => all || !info.inUse)).map ConnectionInfo.conn } := by
  simp only [clear, dispose, Cursor.eraseEach_start]

theorem removeOldConnections_eq (self : ConnectionPool) (now : Int) (maxIdleTime : Nat) :
    self.removeOldConnections now maxIdleTime =
      { self with
        pool := self.pool.filter
          (fun info => !ConnectionInfo.tooOld (now - maxIdleTime) info)
        destroyed := self.destroyed ++
          (self.pool.filter (ConnectionInfo.tooOld (now - maxIdleTime))).map
            ConnectionInfo.conn } := by
  simp only [removeOldConnections, dispose, Cursor.eraseFound_start]

theorem mem_removeOldConnections_of_inUse (self : ConnectionPool) (now : Int)
    (maxIdleTime : Nat) {info : ConnectionInfo} (member : info ∈ self.pool)
    (used : info.inUse = true) :
    info ∈ (self.removeOldConnections now maxIdleTime).pool := by
  rw [removeOldConnections_eq, List.mem_filter]
  exact ⟨member, by simp [ConnectionInfo.tooOld, used]⟩

/-- The iterator of a search stops at the first node that holds the pointer, or
at the end of a pool that does not hold it. -/
theorem find_cases (self : ConnectionPool) (pc : ConnectionPtr) :
    (pc ∉ self.pointers ∧ (self.find pc).after = []) ∨
      ∃ front info back,
        self.pool = front ++ info :: back ∧ info.conn = pc ∧
          pc ∉ front.map ConnectionInfo.conn ∧
          self.find pc = ⟨front, info :: back⟩ := by
  rcases Cursor.findIf_start_cases (fun info : ConnectionInfo => info.conn == pc) self.pool with
    ⟨none, ended⟩ | ⟨front, info, back, shape, hit, first, stopped⟩
  · refine Or.inl ⟨?_, by simp [find, ended]⟩
    intro member
    obtain ⟨info, pooled, same⟩ := List.mem_map.mp member
    have differs := none info pooled
    simp [same] at differs
  · refine Or.inr ⟨front, info, back, shape, by simpa using hit, ?_, stopped⟩
    intro member
    obtain ⟨other, earlier, same⟩ := List.mem_map.mp member
    have differs := first other earlier
    simp [same] at differs

theorem release_of_not_mem (self : ConnectionPool) (pc : ConnectionPtr) (now : Int)
    (absent : pc ∉ self.pointers) : self.release pc now = self := by
  rcases find_cases self pc with ⟨_, stopped⟩ | ⟨front, info, back, shape, same, _, _⟩
  · simp [release, stopped]
  · exact absurd (by simp [pointers, shape, same]) absent

theorem remove_of_not_mem (self : ConnectionPool) (pc : ConnectionPtr)
    (absent : pc ∉ self.pointers) : self.remove pc = self := by
  rcases find_cases self pc with ⟨_, stopped⟩ | ⟨front, info, back, shape, same, _, _⟩
  · simp [remove, stopped]
  · exact absurd (by simp [pointers, shape, same]) absent

theorem release_cases (self : ConnectionPool) (pc : ConnectionPtr) (now : Int) :
    (pc ∉ self.pointers ∧ self.release pc now = self) ∨
      ∃ front info back,
        self.pool = front ++ info :: back ∧ info.conn = pc ∧
          pc ∉ front.map ConnectionInfo.conn ∧
          self.release pc now =
            { self with
              pool := front ++ { info with inUse := false, lastUsed := now } :: back } := by
  rcases find_cases self pc with ⟨absent, _⟩ | ⟨front, info, back, shape, same, first, at_⟩
  · exact Or.inl ⟨absent, release_of_not_mem self pc now absent⟩
  · exact Or.inr ⟨front, info, back, shape, same, first, by simp [release, at_]⟩

theorem remove_cases (self : ConnectionPool) (pc : ConnectionPtr) :
    (pc ∉ self.pointers ∧ self.remove pc = self) ∨
      ∃ front info back,
        self.pool = front ++ info :: back ∧ info.conn = pc ∧
          pc ∉ front.map ConnectionInfo.conn ∧
          self.remove pc =
            { self with
              pool := front ++ back
              destroyed := self.destroyed ++ [pc] } := by
  rcases find_cases self pc with ⟨absent, _⟩ | ⟨front, info, back, shape, same, first, at_⟩
  · exact Or.inl ⟨absent, remove_of_not_mem self pc absent⟩
  · refine Or.inr ⟨front, info, back, shape, same, first, ?_⟩
    simp [remove, at_, dispose, Cursor.erase, Cursor.toList, same]

/-- Either everything in the pool is checked out and nothing changes, or a free
node with nothing above it is marked. -/
theorem findMru_cases (self : ConnectionPool) :
    ((∀ info ∈ self.pool, info.inUse = true) ∧ self.findMru = (0, self)) ∨
      ∃ front info back,
        self.pool = front ++ info :: back ∧ info.inUse = false ∧
          (∀ other ∈ self.pool, ConnectionInfo.lt info other = false) ∧
          self.findMru =
            (info.conn,
              { self with pool := front ++ { info with inUse := true } :: back }) := by
  cases search : maxElement ConnectionInfo.lt self.pool with
  | none =>
      have noNodes := (maxElement_eq_none_iff _ _).mp search
      refine Or.inl ⟨by simp [noNodes], ?_⟩
      simp [findMru, search]
  | some mru =>
      obtain ⟨info, atMru, top⟩ := maxElement_spec ConnectionInfo.lt search
      cases used : info.inUse with
      | true =>
          refine Or.inl ⟨fun other member =>
            ConnectionInfo.inUse_of_lt_eq_false used (top other member), ?_⟩
          simp [findMru, search, atMru, used]
      | false =>
          obtain ⟨bound, here⟩ := List.getElem?_eq_some_iff.mp atMru
          refine Or.inr ⟨self.pool.take mru, info, self.pool.drop (mru + 1), ?_, used, top, ?_⟩
          · rw [← here, List.getElem_cons_drop, List.take_append_drop]
          · simp only [findMru, search, atMru, used, List.set_eq_take_append_cons_drop,
              if_pos bound, Bool.false_eq_true, if_false]

def expired (self : ConnectionPool) (input : GrabInput) : ConnectionPool :=
  self.removeOldConnections input.now input.maxIdleTime

theorem findMru_frame (self : ConnectionPool) :
    self.findMru.2.pointers = self.pointers ∧
      self.findMru.2.created = self.created ∧
      self.findMru.2.destroyed = self.destroyed := by
  rcases findMru_cases self with ⟨_, same⟩ | ⟨front, info, back, shape, _, _, marked⟩
  · rw [same]
    exact ⟨rfl, rfl, rfl⟩
  · rw [marked]
    refine ⟨?_, rfl, rfl⟩
    simp only [pointers, shape, List.map_append, List.map_cons]

/-- The three ways through `grab()`: a free connection is handed out, `create()`
throws, or a new connection enters the pool. -/
theorem grab_cases (self : ConnectionPool) (input : GrabInput) :
    (∃ front info back,
        (self.expired input).pool = front ++ info :: back ∧
          info.inUse = false ∧ info.conn ≠ 0 ∧
          (∀ other ∈ (self.expired input).pool, ConnectionInfo.lt info other = false) ∧
          self.grab input =
            (some info.conn,
              { self.expired input with
                pool := front ++ { info with inUse := true } :: back })) ∨
      ((self.expired input).findMru.1 = 0 ∧ input.create = none ∧
        self.grab input = (none, (self.expired input).findMru.2)) ∨
      ∃ conn,
        (self.expired input).findMru.1 = 0 ∧ input.create = some conn ∧
          self.grab input =
            (some conn,
              { (self.expired input).findMru.2 with
                pool := (self.expired input).findMru.2.pool ++
                  [ConnectionInfo.new conn input.stamp]
                created := (self.expired input).findMru.2.created ++ [conn] }) := by
  by_cases nothing : (self.expired input).findMru.1 = 0
  · right
    have calls : (self.removeOldConnections input.now input.maxIdleTime).findMru.1 = 0 :=
      nothing
    cases created : input.create with
    | none =>
        refine Or.inl ⟨nothing, rfl, ?_⟩
        simp only [grab, calls, created, ne_eq, not_true_eq_false, if_false, expired]
    | some conn =>
        refine Or.inr ⟨conn, nothing, rfl, ?_⟩
        simp only [grab, calls, created, ne_eq, not_true_eq_false, if_false, expired]
  · left
    rcases findMru_cases (self.expired input) with
      ⟨_, same⟩ | ⟨front, info, back, shape, free, top, marked⟩
    · rw [same] at nothing
      exact absurd rfl nothing
    · rw [marked] at nothing
      refine ⟨front, info, back, shape, free, nothing, top, ?_⟩
      have search : (self.removeOldConnections input.now input.maxIdleTime).findMru = _ :=
        marked
      simp only [grab, search]
      rw [if_pos nothing]

end ConnectionPool

end LibTabula
