/-
The lifetimes of connections and their drivers.

A `Connection` owns a driver, which it deletes and makes anew when it is copied to. A driver
keeps the client library's handle and beside it a flag of its own for whether it is
connected. The two are not always the same: a clone asks for a session with the handle of its
original. What the server answers is part of the events, and what the client library makes of
it a parameter.

Addresses are not used again. What the language does not define, a use of a driver that has
been deleted, has no result. No options are set, so that none are pending when a connection is
made.
-/

import LibTabula.Foundation.Owners
import LibTabula.Foundation.Run

set_option autoImplicit false

namespace LibTabula.ConnectionLifetimes

open Foundation Function

abbrev DriverPtr := Nat

abbrev ConnPtr := Nat

/-! ### The driver -/

/-- `MySQLDriver`: `is_connected_`, and whether `mysql_` has a session. -/
structure Driver where
  isConnected : Bool
  session : Bool
  throwExceptions : Bool
deriving DecidableEq, Repr

/-- The client library: what `mysql_real_connect()` does with a handle that has a session or
has none, where the server would grant one or not. It returns the handle or does not, and the
handle has a session then or has none. -/
structure Library where
  realConnect : (session granted : Bool) → Bool × Bool

/-- It refuses a handle that has a session, which stays. -/
def Library.Refuses (library : Library) : Prop :=
  ∀ granted, library.realConnect true granted = (false, true)

/-- It also returns a handle without a session exactly if one is granted, which the handle
has then. -/
structure Library.Documented (library : Library) : Prop where
  refuses : library.Refuses
  connects : ∀ granted, library.realConnect false granted = (granted, granted)

theorem Library.Documented.realConnect_eq {library : Library} (documented : library.Documented)
    (session granted : Bool) :
    library.realConnect session granted = (!session && granted, session || granted) := by
  cases session with
  | false => exact documented.connects granted
  | true => exact documented.refuses granted

/-- What comes back from outside when a connection is made: whether the server parameter
can be parsed, and whether the server grants a session. -/
structure Answers where
  parsed : Bool
  granted : Bool
deriving DecidableEq, Repr

namespace Driver

def new (te : Bool) : Driver := { isConnected := false, session := false, throwExceptions := te }

/-- `mysql_real_connect()`, and whether it returns the handle. -/
def realConnect (library : Library) (granted : Bool) (self : Driver) : Bool × Driver :=
  let (real, session) := library.realConnect self.session granted
  (real, { self with session := session })

def disconnect (self : Driver) : Driver :=
  if self.isConnected then { self with isConnected := false, session := false } else self

/-- `apply_pending_options()`, before and after, has nothing to do and succeeds. -/
def connect (library : Library) (granted : Bool) (self : Driver) : Bool × Driver :=
  let (real, self) := self.disconnect.realConnect library granted
  (real, { self with isConnected := real })

/-- The driver that is left to its members' destructors. -/
def destruct (self : Driver) : Driver := if self.isConnected then self.disconnect else self

end Driver

/-! ### Connections -/

structure Connection where
  driver : DriverPtr
  throwExceptions : Bool
  /-- Nothing where it has never been set. -/
  copacetic : Option Bool
deriving DecidableEq, Repr

/-- The objects there are, the drivers that have been deleted, and how many of these have
left a session open. -/
structure Process where
  conns : ConnPtr → Option Connection
  drivers : DriverPtr → Option Driver
  next : DriverPtr
  freed : List DriverPtr
  lost : Nat

namespace Process

def initial : Process :=
  { conns := fun _ => none, drivers := fun _ => none, next := 0, freed := [], lost := 0 }

def newDriver (driver : Driver) (self : Process) : DriverPtr × Process :=
  (self.next,
    { self with drivers := update self.drivers self.next (some driver), next := self.next + 1 })

def setDriver (p : DriverPtr) (driver : Driver) (self : Process) : Process :=
  { self with drivers := update self.drivers p (some driver) }

def setConn (c : ConnPtr) (conn : Connection) (self : Process) : Process :=
  { self with conns := update self.conns c (some conn) }

def deleteDriver (p : DriverPtr) (self : Process) : Option Process :=
  (self.drivers p).map fun driver =>
    { self with
      drivers := update self.drivers p none
      freed := p :: self.freed
      lost := self.lost + if driver.destruct.session then 1 else 0 }

/-- `clone()`: the session is asked for with the handle of this driver, and whether there is
one is noted in the other. -/
def cloneDriver (library : Library) (p : DriverPtr) (granted : Bool) (self : Process) :
    Option (DriverPtr × Process) :=
  (self.drivers p).map fun driver =>
    let (real, asked) := driver.realConnect library granted
    (self.setDriver p asked).newDriver
      { Driver.new driver.throwExceptions with isConnected := real }

/-- `connect()` of an object, and whether it returns true. -/
def connect (library : Library) (c : ConnPtr) (answers : Answers) (self : Process) :
    Option (Bool × Process) :=
  (self.conns c).bind fun conn =>
    if answers.parsed then
      (self.drivers conn.driver).map fun driver =>
        let (connected, driver) := driver.connect library answers.granted
        (connected,
          (self.setDriver conn.driver driver).setConn c { conn with copacetic := some connected })
    else some (false, self.setConn c { conn with copacetic := some false })

def disconnect (c : ConnPtr) (self : Process) : Option Process :=
  (self.conns c).bind fun conn =>
    (self.drivers conn.driver).map fun driver => self.setDriver conn.driver driver.disconnect

/-- `Connection(bool)`. -/
def construct (c : ConnPtr) (te : Bool) (self : Process) : Process :=
  let (p, self) := self.newDriver (.new te)
  self.setConn c { driver := p, throwExceptions := te, copacetic := some true }

/-- The constructor that connects. Where that throws the driver is deleted, and there is no
object. -/
def constructConnected (library : Library) (c : ConnPtr) (answers : Answers) (self : Process) :
    Option Process :=
  let (p, made) := self.newDriver (.new true)
  let made := made.setConn c { driver := p, throwExceptions := true, copacetic := some true }
  (made.connect library c answers).bind fun (connected, made) =>
    if connected then some made
    else (made.deleteDriver p).map fun self => { self with conns := update self.conns c none }

/-- `copy()`: the own driver is deleted, and then the other one is cloned. -/
def copy (library : Library) (c other : ConnPtr) (granted : Bool) (self : Process) :
    Option Process :=
  (self.conns c).bind fun conn =>
    (self.conns other).bind fun rhs =>
      (self.deleteDriver conn.driver).bind fun self =>
        (self.cloneDriver library rhs.driver granted).map fun (p, self) =>
          self.setConn c { conn with driver := p, throwExceptions := rhs.throwExceptions }

/-- `Connection(const Connection&)`, which clones the driver twice. -/
def copyConstruct (library : Library) (c other : ConnPtr) (first second : Bool) (self : Process) :
    Option Process :=
  (self.conns other).bind fun rhs =>
    (self.cloneDriver library rhs.driver first).bind fun (p, self) =>
      let begun := self.setConn c
        { driver := p, throwExceptions := rhs.throwExceptions, copacetic := none }
      begun.copy library c other second

def destroy (c : ConnPtr) (self : Process) : Option Process :=
  (self.conns c).bind fun conn =>
    (self.disconnect c).bind fun self =>
      (self.deleteDriver conn.driver).map fun self =>
        { self with conns := update self.conns c none }

/-- `connected()`. -/
def connected (c : ConnPtr) (self : Process) : Option Bool :=
  (self.conns c).bind fun conn => (self.drivers conn.driver).map Driver.isConnected

end Process

/-! ### Runs -/

inductive Event
  | construct (c : ConnPtr) (te : Bool)
  | constructConnected (c : ConnPtr) (answers : Answers)
  | connect (c : ConnPtr) (answers : Answers)
  | disconnect (c : ConnPtr)
  | copyConstruct (c other : ConnPtr) (first second : Bool)
  | assign (c rhs : ConnPtr) (granted : Bool)
  | destroy (c : ConnPtr)
deriving DecidableEq, Repr

namespace Process

/-- What an event does, where that is defined. What `connect()` throws is caught. -/
def perform (library : Library) (self : Process) : Event → Option Process
  | .construct c te => some (self.construct c te)
  | .constructConnected c answers => self.constructConnected library c answers
  | .connect c answers => (self.connect library c answers).map Prod.snd
  | .disconnect c => self.disconnect c
  | .copyConstruct c other first second => self.copyConstruct library c other first second
  | .assign c rhs granted => self.copy library c rhs granted
  | .destroy c => self.destroy c

/-- An object is made where there is none, and used where there is one. -/
def Valid (self : Process) : Event → Prop
  | .construct c _ => self.conns c = none
  | .constructConnected c _ => self.conns c = none
  | .connect c _ => self.conns c ≠ none
  | .disconnect c => self.conns c ≠ none
  | .copyConstruct c other _ _ => self.conns c = none ∧ self.conns other ≠ none
  | .assign c rhs _ => self.conns c ≠ none ∧ self.conns rhs ≠ none
  | .destroy c => self.conns c ≠ none

def Step (library : Library) (before : Process) (event : Event) (after : Process) : Prop :=
  before.Valid event ∧ before.perform library event = some after

end Process

/-! ### Who owns what -/

namespace Process

/-- The driver of each connection. -/
def holds (self : Process) (c : ConnPtr) : Option DriverPtr :=
  (self.conns c).map Connection.driver

def Owns (self : Process) : Prop := Owned self.holds self.drivers self.next self.freed

variable {library : Library} {self after : Process} {c : ConnPtr} {conn : Connection}
  {p : DriverPtr} {driver : Driver}

@[simp] theorem setDriver_drivers (p : DriverPtr) (driver : Driver) (self : Process) :
    (self.setDriver p driver).drivers = update self.drivers p (some driver) := rfl

@[simp] theorem setDriver_conns (p : DriverPtr) (driver : Driver) (self : Process) :
    (self.setDriver p driver).conns = self.conns := rfl

@[simp] theorem setDriver_next (p : DriverPtr) (driver : Driver) (self : Process) :
    (self.setDriver p driver).next = self.next := rfl

@[simp] theorem setDriver_lost (p : DriverPtr) (driver : Driver) (self : Process) :
    (self.setDriver p driver).lost = self.lost := rfl

@[simp] theorem setConn_drivers (c : ConnPtr) (conn : Connection) (self : Process) :
    (self.setConn c conn).drivers = self.drivers := rfl

@[simp] theorem setConn_conns (c : ConnPtr) (conn : Connection) (self : Process) :
    (self.setConn c conn).conns = update self.conns c (some conn) := rfl

@[simp] theorem setConn_next (c : ConnPtr) (conn : Connection) (self : Process) :
    (self.setConn c conn).next = self.next := rfl

@[simp] theorem setConn_lost (c : ConnPtr) (conn : Connection) (self : Process) :
    (self.setConn c conn).lost = self.lost := rfl

@[simp] theorem newDriver_drivers (driver : Driver) (self : Process) :
    (self.newDriver driver).2.drivers = update self.drivers self.next (some driver) := rfl

@[simp] theorem newDriver_conns (driver : Driver) (self : Process) :
    (self.newDriver driver).2.conns = self.conns := rfl

@[simp] theorem newDriver_lost (driver : Driver) (self : Process) :
    (self.newDriver driver).2.lost = self.lost := rfl

theorem holds_of_conns (given : self.conns c = some conn) : self.holds c = some conn.driver := by
  rw [holds, given]
  rfl

theorem holds_setConn (c : ConnPtr) (conn : Connection) (self : Process) :
    (self.setConn c conn).holds = update self.holds c (some conn.driver) := by
  funext other
  by_cases here : other = c
  · subst here
    simp only [holds, setConn, update_self, Option.map_some]
  · simp only [holds, setConn, update_of_ne here]

theorem holds_without (c : ConnPtr) (self : Process) :
    ({ self with conns := update self.conns c none } : Process).holds =
      update self.holds c none := by
  funext other
  by_cases here : other = c
  · subst here
    simp only [holds, update_self, Option.map_none]
  · simp only [holds, update_of_ne here]

namespace Owns

theorem setDriver (owns : self.Owns) (live : self.drivers p ≠ none) (driver : Driver) :
    (self.setDriver p driver).Owns :=
  Owned.write owns live driver

theorem setConn (owns : self.Owns) (given : self.conns c = some conn) {other : Connection}
    (same : other.driver = conn.driver) : (self.setConn c other).Owns := by
  have holding := holds_of_conns given
  rw [Owns, holds_setConn, same, ← holding, update_eq_self]
  exact owns

theorem acquire (owns : self.Owns) (vacant : self.conns c = none) (driver : Driver)
    {conn : Connection} (own : conn.driver = self.next) :
    ((self.newDriver driver).2.setConn c conn).Owns := by
  have none_ : self.holds c = none := by
    rw [holds, vacant]
    rfl
  rw [Owns, holds_setConn, own]
  exact Owned.acquire owns none_ driver

theorem live (owns : self.Owns) (given : self.conns c = some conn) :
    ∃ driver, self.drivers conn.driver = some driver :=
  Option.ne_none_iff_exists'.mp (Owned.owns owns c conn.driver (holds_of_conns given))

end Owns

/-- The driver of a connection goes, and the connection with it. -/
def released (c : ConnPtr) (p : DriverPtr) (driver : Driver) (self : Process) : Process :=
  { self with
    conns := update self.conns c none
    drivers := update self.drivers p none
    freed := p :: self.freed
    lost := self.lost + if driver.destruct.session then 1 else 0 }

@[simp] theorem released_drivers (c : ConnPtr) (p : DriverPtr) (driver : Driver)
    (self : Process) : (self.released c p driver).drivers = update self.drivers p none := rfl

@[simp] theorem released_conns (c : ConnPtr) (p : DriverPtr) (driver : Driver)
    (self : Process) : (self.released c p driver).conns = update self.conns c none := rfl

@[simp] theorem released_next (c : ConnPtr) (p : DriverPtr) (driver : Driver)
    (self : Process) : (self.released c p driver).next = self.next := rfl

@[simp] theorem released_lost (c : ConnPtr) (p : DriverPtr) (driver : Driver)
    (self : Process) : (self.released c p driver).lost =
      self.lost + if driver.destruct.session then 1 else 0 := rfl

theorem Owns.released (owns : self.Owns) (given : self.conns c = some conn) (driver : Driver) :
    (self.released c conn.driver driver).Owns := by
  have cleared : (self.released c conn.driver driver).holds = update self.holds c none :=
    holds_without c self
  rw [Owns, cleared]
  exact Owned.release owns (holds_of_conns given)

/-- `copy()` from another object. -/
theorem copy_eq {other : ConnPtr} {rhs : Connection} {source : Driver} (owns : self.Owns)
    (given : self.conns c = some conn) (live : self.drivers conn.driver = some driver)
    (given' : self.conns other = some rhs) (live' : self.drivers rhs.driver = some source)
    (apart : c ≠ other) (granted : Bool) :
    self.copy library c other granted =
      some ((((self.released c conn.driver driver).setDriver rhs.driver
        (source.realConnect library granted).2).newDriver
          { Driver.new source.throwExceptions with
            isConnected := (source.realConnect library granted).1 }).2.setConn c
        { conn with driver := self.next, throwExceptions := rhs.throwExceptions }) := by
  have different : rhs.driver ≠ conn.driver := by
    intro same
    have holding := holds_of_conns given'
    rw [same] at holding
    exact apart (Owned.apart owns c other conn.driver (holds_of_conns given) holding)
  simp only [copy, given, given', deleteDriver, live, Option.bind_some, Option.map_some,
    cloneDriver, update_of_ne different, live', setDriver, newDriver, setConn, Process.released,
    update_idem]

theorem connect_eq (given : self.conns c = some conn)
    (live : self.drivers conn.driver = some driver) (answers : Answers) :
    self.connect library c answers =
      if answers.parsed then
        some ((driver.connect library answers.granted).1,
          (self.setDriver conn.driver (driver.connect library answers.granted).2).setConn c
            { conn with copacetic := some (driver.connect library answers.granted).1 })
      else some (false, self.setConn c { conn with copacetic := some false }) := by
  simp only [connect, given, live, Option.bind_some, Option.map_some]

theorem disconnect_eq (given : self.conns c = some conn)
    (live : self.drivers conn.driver = some driver) :
    self.disconnect c = some (self.setDriver conn.driver driver.disconnect) := by
  simp only [disconnect, given, live, Option.bind_some, Option.map_some]

theorem destroy_eq (given : self.conns c = some conn)
    (live : self.drivers conn.driver = some driver) :
    self.destroy c = some (self.released c conn.driver driver.disconnect) := by
  simp only [destroy, given, disconnect_eq given live, Option.bind_some, deleteDriver, setDriver,
    update_self, Option.map_some, update_idem, Process.released]

/-- The object as the constructor that connects has it before it connects. -/
def begun (c : ConnPtr) (self : Process) : Process :=
  (self.newDriver (.new true)).2.setConn c
    { driver := self.next, throwExceptions := true, copacetic := some true }

/-- The driver that the constructor has tried to connect. -/
def attempted (library : Library) (answers : Answers) : Bool × Driver :=
  if answers.parsed then (Driver.new true).connect library answers.granted else (false, .new true)

theorem constructConnected_eq (c : ConnPtr) (answers : Answers) (self : Process) :
    self.constructConnected library c answers =
      some (if (attempted library answers).1 then
        ((self.begun c).setDriver self.next (attempted library answers).2).setConn c
          { driver := self.next, throwExceptions := true, copacetic := some true }
      else (self.begun c).released c self.next (attempted library answers).2) := by
  have given : (self.begun c).conns c =
      some { driver := self.next, throwExceptions := true, copacetic := some true } :=
    update_self _ _ _
  have live : (self.begun c).drivers self.next = some (.new true) := update_self _ _ _
  have tried : self.constructConnected library c answers =
      ((self.begun c).connect library c answers).bind fun result =>
        if result.1 then some result.2
        else (result.2.deleteDriver self.next).map fun self =>
          { self with conns := update self.conns c none } := rfl
  rw [tried, connect_eq given live, attempted]
  by_cases parsed : answers.parsed = true
  · simp only [if_pos parsed, Option.bind_some]
    cases connected : ((Driver.new true).connect library answers.granted).1 with
    | true => rfl
    | false =>
        simp only [Bool.false_eq_true, if_false, deleteDriver, setConn, setDriver, update_self,
          Option.map_some, update_idem, Process.released]
  · simp only [if_neg parsed, Option.bind_some, Bool.false_eq_true, if_false, deleteDriver,
      setConn, live, Option.map_some, update_idem, Process.released]

/-- The copy constructor before its body. -/
def cloned (library : Library) (c : ConnPtr) (rhs : Connection) (source : Driver) (granted : Bool)
    (self : Process) : Process :=
  ((self.setDriver rhs.driver (source.realConnect library granted).2).newDriver
      { Driver.new source.throwExceptions with
        isConnected := (source.realConnect library granted).1 }).2.setConn c
    { driver := self.next, throwExceptions := rhs.throwExceptions, copacetic := none }

theorem copyConstruct_eq {other : ConnPtr} {rhs : Connection} {source : Driver}
    (given : self.conns other = some rhs) (live : self.drivers rhs.driver = some source)
    (first second : Bool) :
    self.copyConstruct library c other first second =
      (self.cloned library c rhs source first).copy library c other second := by
  simp only [copyConstruct, given, live, cloneDriver, Option.bind_some, Option.map_some,
    setDriver, newDriver, cloned]

variable (library) in
theorem cloned_self (c : ConnPtr) (rhs : Connection) (source : Driver) (granted : Bool)
    (self : Process) :
    (self.cloned library c rhs source granted).conns c =
      some { driver := self.next, throwExceptions := rhs.throwExceptions, copacetic := none } :=
  update_self _ _ _

variable (library) in
theorem cloned_other {other : ConnPtr} (apart : c ≠ other) (rhs : Connection) (source : Driver)
    (granted : Bool) (self : Process) :
    (self.cloned library c rhs source granted).conns other = self.conns other :=
  update_of_ne (Ne.symm apart) _ _

/-- A connection that is copied to itself clones a driver it has just deleted. -/
theorem copy_self (c : ConnPtr) (granted : Bool) (self : Process) :
    self.copy library c c granted = none := by
  cases given : self.conns c with
  | none => simp only [copy, given, Option.bind_none]
  | some conn =>
      cases live : self.drivers conn.driver with
      | none => simp only [copy, given, deleteDriver, live, Option.bind_some, Option.map_none,
          Option.bind_none]
      | some driver =>
          simp only [copy, given, deleteDriver, live, Option.bind_some, Option.map_some,
            cloneDriver, update_self, Option.map_none]

namespace Owns

theorem connect (owns : self.Owns) (given : self.conns c = some conn) (answers : Answers) :
    ∃ result, self.connect library c answers = some result ∧ result.2.Owns := by
  obtain ⟨driver, live⟩ := owns.live given
  rw [connect_eq given live]
  by_cases parsed : answers.parsed = true
  · rw [if_pos parsed]
    refine ⟨_, rfl, Owns.setConn (owns.setDriver ?_ _) given rfl⟩
    rw [live]
    exact Option.some_ne_none driver
  · rw [if_neg parsed]
    exact ⟨_, rfl, owns.setConn given rfl⟩

theorem copy {other : ConnPtr} {rhs : Connection} (owns : self.Owns)
    (given : self.conns c = some conn) (given' : self.conns other = some rhs) (apart : c ≠ other)
    (granted : Bool) : ∃ after, self.copy library c other granted = some after ∧ after.Owns := by
  obtain ⟨driver, live⟩ := owns.live given
  obtain ⟨source, live'⟩ := owns.live given'
  refine ⟨_, copy_eq owns given live given' live' apart granted, ?_⟩
  have gone := owns.released given driver
  have stays : (self.released c conn.driver driver).conns other = some rhs := by
    simp only [Process.released, update_of_ne (Ne.symm apart), given']
  obtain ⟨source', live''⟩ := gone.live stays
  apply Owns.acquire
  · apply gone.setDriver
    rw [live'']
    exact Option.some_ne_none source'
  · simp only [Process.setDriver, Process.released, update_self]
  · rfl

variable (library) in
theorem cloned {rhs : Connection} {source : Driver} (owns : self.Owns)
    (vacant : self.conns c = none) (live : self.drivers rhs.driver = some source)
    (granted : Bool) : (self.cloned library c rhs source granted).Owns := by
  have asked : (self.setDriver rhs.driver (source.realConnect library granted).2).Owns := by
    apply owns.setDriver
    rw [live]
    exact Option.some_ne_none source
  exact asked.acquire vacant _ rfl

end Owns

/-- Every event but one is defined, and what connections own is kept. -/
theorem perform_cases (owns : self.Owns) {event : Event} (valid : self.Valid event) :
    (∃ c granted, event = .assign c c granted) ∨
      ∃ after, self.perform library event = some after ∧ after.Owns := by
  cases event with
  | construct c te => exact .inr ⟨_, rfl, owns.acquire valid _ rfl⟩
  | constructConnected c answers =>
      right
      have begins : (self.begun c).Owns := owns.acquire valid _ rfl
      have made : (self.begun c).conns c =
          some { driver := self.next, throwExceptions := true, copacetic := some true } :=
        update_self _ _ _
      rw [perform, constructConnected_eq]
      refine ⟨_, rfl, ?_⟩
      by_cases success : (attempted library answers).1 = true
      · rw [if_pos success]
        obtain ⟨driver, live⟩ := begins.live made
        apply Owns.setConn (begins.setDriver ?_ _) made rfl
        rw [live]
        exact Option.some_ne_none driver
      · rw [if_neg success]
        exact begins.released made _
  | connect c answers =>
      right
      obtain ⟨conn, given⟩ := Option.ne_none_iff_exists'.mp valid
      obtain ⟨result, connected, after⟩ := owns.connect given answers
      rw [perform, connected]
      exact ⟨result.2, rfl, after⟩
  | disconnect c =>
      right
      obtain ⟨conn, given⟩ := Option.ne_none_iff_exists'.mp valid
      obtain ⟨driver, live⟩ := owns.live given
      rw [perform, disconnect_eq given live]
      refine ⟨_, rfl, owns.setDriver ?_ _⟩
      rw [live]
      exact Option.some_ne_none driver
  | copyConstruct c other first second =>
      right
      obtain ⟨vacant, there⟩ := valid
      obtain ⟨rhs, given⟩ := Option.ne_none_iff_exists'.mp there
      obtain ⟨source, live⟩ := owns.live given
      have apart : c ≠ other := by
        intro same
        rw [same] at vacant
        exact there vacant
      rw [perform, copyConstruct_eq given live]
      have made := owns.cloned library vacant live first
      exact made.copy (cloned_self library c rhs source first self)
        ((cloned_other library apart rhs source first self).trans given) apart second
  | assign c rhs granted =>
      obtain ⟨here, there⟩ := valid
      obtain ⟨conn, given⟩ := Option.ne_none_iff_exists'.mp here
      obtain ⟨other, given'⟩ := Option.ne_none_iff_exists'.mp there
      by_cases same : c = rhs
      · left
        exact ⟨c, granted, by rw [same]⟩
      · exact .inr (owns.copy given given' same granted)
  | destroy c =>
      right
      obtain ⟨conn, given⟩ := Option.ne_none_iff_exists'.mp valid
      obtain ⟨driver, live⟩ := owns.live given
      exact ⟨_, destroy_eq given live, owns.released given _⟩

theorem owns_initial : initial.Owns := Owned.initial

theorem owns_of_step {event : Event} (owns : self.Owns) (step : Step library self event after) :
    after.Owns := by
  obtain ⟨valid, performed⟩ := step
  rcases perform_cases owns valid with ⟨c, granted, rfl⟩ | ⟨last, other, kept⟩
  · have undefined : self.perform library (.assign c c granted) = none := copy_self c granted self
    rw [undefined] at performed
    cases performed
  · rw [other] at performed
    cases performed
    exact kept

theorem owns_of_run {events : List Event} (run : Run (Step library) initial events self) :
    self.Owns :=
  run.invariant Owns (fun _ _ _ => owns_of_step) owns_initial

/-- In every run each connection has a driver of its own, which is not deleted, and every
other driver is deleted once. What comes next is defined unless a connection is copied to
itself. Where no connection is left all drivers are deleted. -/
theorem run_owns_and_next_iff {events : List Event} (run : Run (Step library) initial events self) :
    self.Owns ∧
      (∀ event, self.Valid event →
        (self.perform library event = none ↔ ∃ c granted, event = .assign c c granted)) ∧
      ((∀ c, self.conns c = none) →
        (∀ p, self.drivers p = none) ∧ (∀ p, p ∈ self.freed ↔ p < self.next) ∧
          self.freed.Nodup) := by
  have owns := owns_of_run run
  refine ⟨owns, ?_, ?_⟩
  · intro event valid
    constructor
    · intro undefined
      rcases perform_cases owns valid with toItself | ⟨last, other, _⟩
      · exact toItself
      · rw [other] at undefined
        cases undefined
    · intro toItself
      obtain ⟨c, granted, rfl⟩ := toItself
      exact copy_self c granted self
  · intro nobody
    apply Owned.all_freed owns
    intro c
    rw [holds, nobody c]
    rfl

/-- A client library as it is documented. -/
def documentedLibrary : Library where
  realConnect session granted := (!session && granted, session || granted)

theorem documented_documentedLibrary : documentedLibrary.Documented where
  refuses _ := rfl
  connects _ := rfl

/-- A connection without a session that has been copied. -/
def copiedClosed : Process :=
  ((initial.construct 0 true).copyConstruct documentedLibrary 1 0 true true).getD initial

/-- A connection is copied, and the copy destroyed, which had two drivers. -/
theorem run_owns_and_next_iff_self :
    ∃ self, Run (Step documentedLibrary) initial
        [.construct 0 true, .copyConstruct 1 0 true true, .destroy 1] self ∧
      self.freed = [2, 1] ∧ self.Owns ∧ self.Valid (.assign 0 0 true) ∧
      self.perform documentedLibrary (.assign 0 0 true) = none := by
  have made : Step documentedLibrary initial (.construct 0 true) (initial.construct 0 true) :=
    ⟨rfl, rfl⟩
  have copied : Step documentedLibrary (initial.construct 0 true) (.copyConstruct 1 0 true true)
      copiedClosed := ⟨⟨rfl, Option.some_ne_none _⟩, rfl⟩
  have destroyed : Step documentedLibrary copiedClosed (.destroy 1)
      ((copiedClosed.destroy 1).getD initial) := ⟨Option.some_ne_none _, rfl⟩
  have run := Run.cons made (.cons copied (.single destroyed))
  obtain ⟨owns, next, _⟩ := run_owns_and_next_iff run
  have valid : ((copiedClosed.destroy 1).getD initial).Valid (.assign 0 0 true) :=
    ⟨Option.some_ne_none _, Option.some_ne_none _⟩
  exact ⟨_, run, rfl, owns, valid, (next _ valid).mpr ⟨0, true, rfl⟩⟩

end Process

end LibTabula.ConnectionLifetimes
