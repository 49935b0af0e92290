/-
Runs of the MySQL driver's options.

Options are set before a connection is made and after it, and the driver is connected and
disconnected in any order. In which versions an option waits decides whether all of this is
defined, and whether every option is deleted. The flags are asked for from the handle, which
`disconnect()` fills with zeros, whatever options have been applied to it.
-/

import LibTabula.MySQLOptions

set_option autoImplicit false

namespace LibTabula.OptionDriver

open Foundation

/-! ### Connecting where nothing waits -/

section Connecting

variable {σ : Type} (setters : Setters σ) (server : MySQLServer σ)

/-- The driver after `connect()` has found nothing pending. -/
def reconnected (self : OptionDriver σ) : OptionDriver σ :=
  let answered := server.realConnect (disconnect server self).world
  { disconnect server self with
    optionError := .none, isConnected := answered.1, world := answered.2 }

theorem disconnect_kept (self : OptionDriver σ) :
    (disconnect server self).applied = self.applied ∧
      (disconnect server self).pending = self.pending ∧
      (disconnect server self).deleted = self.deleted ∧
      (disconnect server self).passed = self.passed ∧
      (disconnect server self).handed = self.handed := by
  unfold disconnect
  split_ifs
  · exact ⟨rfl, rfl, rfl, rfl, rfl⟩
  · exact ⟨rfl, rfl, rfl, rfl, rfl⟩

theorem connect_nothing {self : OptionDriver σ} (nothing : self.pending = []) :
    (connect setters server).run self =
      .ok (server.realConnect (disconnect server self).world).1 (self.reconnected server) := by
  have down : (modify (disconnect server) : EStateM OptionFailure (OptionDriver σ) PUnit).run self =
      .ok () (disconnect server self) := rfl
  have noneLeft : (disconnect server self).pending = [] := by
    rw [(disconnect_kept server self).2.1, nothing]
  have first := applyPendingOptions_nothing setters false noneLeft
  have second : (applyPendingOptions setters true).run
      ((disconnect server self).clearError.attempted server) =
        .ok true ((disconnect server self).clearError.attempted server).clearError :=
    applyPendingOptions_nothing setters true noneLeft
  have ran : (establish setters server).run (disconnect server self) =
      .ok (server.realConnect (disconnect server self).world).1
        ((disconnect server self).clearError.attempted server) := by
    have asked : (mysqlRealConnect server).run (disconnect server self).clearError =
        .ok (server.realConnect (disconnect server self).world).1
          ((disconnect server self).clearError.attempted server) := rfl
    rw [establish, run_bind_of_ok first, if_pos rfl, run_bind_of_ok asked]
    cases (server.realConnect (disconnect server self).world).1 with
    | true => exact second
    | false => rfl
  rw [connect, run_bind_of_ok down, run_bind_of_ok ran]
  rfl

/-- An option that waits is queued again, into the list that is gone through. -/
theorem applyPendingOptions_waiting (quit : Bool) {self : OptionDriver σ} {o : OptionPtr}
    {rest : List OptionPtr} (waiting : self.pending = o :: rest)
    (alive : o ≠ 0 ∧ o ∉ self.deleted)
    (waits : (setters o self.isConnected self.world).1 = some .disconnected) :
    ((applyPendingOptions setters quit).run self).outcome = .error .undefined := by
  have start : (get : EStateM OptionFailure (OptionDriver σ) _).run self = .ok self self := rfl
  have cleared : (set self.clearError : EStateM OptionFailure (OptionDriver σ) PUnit).run self =
      .ok () self.clearError := rfl
  have call : (setOption setters o).run self.clearError =
      .ok true ((self.clearError.called setters o).enqueue o) := by
    have answer : (setters o self.clearError.isConnected self.clearError.world).1 =
        some .disconnected := waits
    have alive' : o ≠ 0 ∧ o ∉ self.clearError.deleted := alive
    rw [setOption_alive alive', answer]
  have longer : ((self.clearError.called setters o).enqueue o).pending.length ≠
      self.clearError.pending.length := by
    unfold enqueue
    rw [List.length_append, List.length_singleton]
    exact Nat.succ_ne_self _
  rw [applyPendingOptions, run_bind_of_ok start, run_bind_of_ok cleared, waiting]
  rw [run_bind_of_error (EStateM.Result.eq_error ?_)]
  · rfl
  · rw [applyLoop_queued setters call longer]
    rfl

theorem connect_waiting {self : OptionDriver σ} {o : OptionPtr} {rest : List OptionPtr}
    (waiting : self.pending = o :: rest) (alive : o ≠ 0 ∧ o ∉ self.deleted)
    (waits : ∀ world, (setters o false world).1 = some .disconnected) :
    ((connect setters server).run self).outcome = .error .undefined := by
  have down : (modify (disconnect server) : EStateM OptionFailure (OptionDriver σ) PUnit).run self =
      .ok () (disconnect server self) := rfl
  obtain ⟨_, pending, deleted, _, _⟩ := disconnect_kept server self
  have stopped : ((applyPendingOptions setters false).run (disconnect server self)).outcome =
      .error .undefined := by
    apply applyPendingOptions_waiting setters false (pending.trans waiting)
    · rw [deleted]
      exact alive
    · rw [(disconnect_down server self).1]
      exact waits _
  rw [connect, run_bind_of_ok down, establish]
  rw [run_bind_of_error (run_bind_of_error (EStateM.Result.eq_error stopped))]
  rfl

end Connecting

/-! ### Runs -/

inductive OptionCall
  | setOption (o : OptionPtr)
  | connect
  | disconnect
deriving DecidableEq, Repr

section Runs

variable {σ : Type} (setters : Setters σ) (server : MySQLServer σ)

/-- A new option is set, or the driver is connected or disconnected. What a call throws, its
caller may catch. -/
inductive CallStep : OptionDriver σ → OptionCall → OptionDriver σ → Prop
  | setOption {before : OptionDriver σ} {o : OptionPtr} (notNull : o ≠ 0)
      (fresh : o ∉ before.passed) :
      CallStep before (.setOption o)
        ((OptionDriver.setOption setters o).run (before.pass o)).final
  | connect {before : OptionDriver σ}
      (defined : ((OptionDriver.connect setters server).run before).outcome ≠ .error .undefined) :
      CallStep before .connect ((OptionDriver.connect setters server).run before).final
  | disconnect {before : OptionDriver σ} :
      CallStep before .disconnect (OptionDriver.disconnect server before)

/-- The setters let those options wait for the connection, and no others. -/
def LetsWait (waits : OptionPtr → Prop) : Prop :=
  ∀ o connected world,
    (setters o connected world).1 = some .disconnected ↔ waits o ∧ connected = false

variable (waits : OptionPtr → Prop) [DecidablePred waits]

/-- The options that had to wait when they were set. -/
def waited (self : OptionDriver σ) : List OptionPtr :=
  (self.handed.filter fun call => waits call.option ∧ call.connected = false).map Handing.option

/-- Every option has one owner, and those are pending that had to wait. -/
structure Queues (driver : OptionDriver σ) : Prop where
  owned : Owned driver
  pending : driver.pending = driver.waited waits

variable {setters server waits} {self : OptionDriver σ} {o : OptionPtr}

theorem waited_called (o : OptionPtr) (self : OptionDriver σ) :
    (self.called setters o).waited waits =
      self.waited waits ++ if waits o ∧ self.isConnected = false then [o] else [] := by
  unfold waited called
  rw [List.filter_append, List.map_append, List.filter_singleton]
  congr 1
  by_cases first : waits o ∧ self.isConnected = false
  · rw [if_pos first]
    simp [first]
  · rw [if_neg first]
    simp [first]

theorem waits_of_mem_waited (member : o ∈ self.waited waits) : waits o := by
  obtain ⟨call, kept, same⟩ := List.mem_map.mp member
  have both := (List.mem_filter.mp kept).2
  rw [← same]
  exact (of_decide_eq_true both).1

namespace Queues

theorem new (world : σ) : Queues waits (OptionDriver.new world) := ⟨Owned.new world, rfl⟩

theorem setOption (lets : LetsWait setters waits) (queues : Queues waits self) (notNull : o ≠ 0)
    (fresh : o ∉ self.passed) :
    Queues waits ((OptionDriver.setOption setters o).run (self.pass o)).final := by
  have alive : o ≠ 0 ∧ o ∉ (self.pass o).deleted := by
    constructor
    · exact notNull
    · intro gone
      exact fresh (queues.owned.mem_passed (List.mem_append_right _ gone))
  have ran : (OptionDriver.setOption setters o).run (self.pass o) = _ := setOption_alive alive
  have both := lets o (self.pass o).isConnected (self.pass o).world
  have called : ((self.pass o).called setters o).waited waits = _ := waited_called o (self.pass o)
  constructor
  · exact (queues.owned.setOption setters notNull fresh).2
  · have kept : (self.pass o).waited waits = self.pending := queues.pending.symm
    rw [kept] at called
    cases answer : (setters o (self.pass o).isConnected (self.pass o).world).1 with
    | none =>
        rw [answer] at ran both
        rw [if_neg (mt both.mpr (by decide)), List.append_nil] at called
        rw [ran]
        exact called.symm
    | some error =>
        rw [answer] at ran both
        cases error with
        | disconnected =>
            rw [if_pos (both.mp rfl)] at called
            rw [ran]
            exact called.symm
        | none | apiLimit | apiReject | connected =>
            rw [if_neg (mt both.mpr (by decide)), List.append_nil] at called
            rw [ran]
            exact called.symm

theorem disconnect (queues : Queues waits self) :
    Queues waits (OptionDriver.disconnect server self) := by
  obtain ⟨applied, pending, deleted, passed, handed⟩ := disconnect_kept server self
  constructor
  · constructor
    · rw [passed]
      exact queues.owned.distinct
    · rw [passed]
      exact queues.owned.notNull
    · rw [applied, pending, deleted, passed]
      exact queues.owned.partition
  · rw [pending, queues.pending, waited, waited, handed]

/-- `connect()` is undefined if something is pending. -/
theorem connect_undefined_iff (lets : LetsWait setters waits) (queues : Queues waits self) :
    ((OptionDriver.connect setters server).run self).outcome = .error .undefined ↔
      self.pending ≠ [] := by
  constructor
  · intro undefined nothing
    rw [connect_nothing setters server nothing] at undefined
    cases undefined
  · intro waiting
    cases pending : self.pending with
    | nil => exact absurd pending waiting
    | cons o rest =>
        have member : o ∈ self.pending := by
          rw [pending]
          exact List.mem_cons_self
        have notNull := queues.owned.pending_ne_zero member
        have kept := queues.owned.not_deleted_of_pending member
        apply connect_waiting setters server pending ⟨notNull, kept⟩
        intro world
        rw [queues.pending] at member
        exact (lets o false world).mpr ⟨waits_of_mem_waited member, rfl⟩

theorem step {after : OptionDriver σ} {call : OptionCall} (lets : LetsWait setters waits)
    (queues : Queues waits self) (step : CallStep setters server self call after) :
    Queues waits after := by
  cases step with
  | setOption notNull fresh => exact queues.setOption lets notNull fresh
  | connect defined =>
      have nothing : self.pending = [] := by
        by_contra waiting
        exact defined ((queues.connect_undefined_iff lets).mpr waiting)
      have quiet : Queues waits (OptionDriver.disconnect server self) := queues.disconnect
      have owned := quiet.owned
      rw [connect_nothing setters server nothing]
      exact ⟨⟨owned.distinct, owned.notNull, owned.partition⟩, quiet.pending⟩
  | disconnect => exact queues.disconnect

theorem run {world : σ} {calls : List OptionCall} (lets : LetsWait setters waits)
    (run : Run (CallStep setters server) (OptionDriver.new world) calls self) :
    Queues waits self :=
  run.invariant (Queues waits) (fun _ _ _ queues step => queues.step lets step) (new world)

/-- Something is pending if an option had to wait. -/
theorem pending_ne_nil_iff (queues : Queues waits self) :
    self.pending ≠ [] ↔
      ∃ call ∈ self.handed, waits call.option ∧ call.connected = false := by
  rw [queues.pending, waited, ne_eq, List.map_eq_nil_iff, List.filter_eq_nil_iff]
  simp only [decide_eq_true_eq, not_forall, not_not, exists_prop]

end Queues

end Runs

/-! ### The MySQL driver -/

theorem setOption_world {σ : Type} {setters : Setters σ} {self : OptionDriver σ} {o : OptionPtr}
    (alive : o ≠ 0 ∧ o ∉ self.deleted) :
    ((setOption setters o).run self).final.isConnected = self.isConnected ∧
      ((setOption setters o).run self).final.world =
        (setters o self.isConnected self.world).2 := by
  rw [setOption_alive alive]
  cases (setters o self.isConnected self.world).1 with
  | none => exact ⟨rfl, rfl⟩
  | some error => cases error <;> exact ⟨rfl, rfl⟩

section MySQL

variable {extra : Nat} {build : Build} {library : Library extra}
  {objects : OptionPtr → MySQLOption} {before self : OptionDriver (Mysql extra)}

theorem letsWait_mysqlSetters :
    LetsWait (mysqlSetters build library objects) fun o => (objects o).Waits build := by
  intro o connected world
  rw [← setOptionImpl_disconnected_iff build library (objects o) connected world]
  exact Option.some_inj

/-- Every option has one owner in every run. The next connection is defined, and all options
are deleted with the driver, unless an option was set that waits for the connection in this
version while there was none. -/
theorem run_waits_and_next_iff {world : Mysql extra} {calls : List OptionCall}
    (run : Run (CallStep (mysqlSetters build library objects) (Mysql.server library))
      (new world) calls self) :
    Owned self ∧
      (((connect (mysqlSetters build library objects) (Mysql.server library)).run self).outcome =
          .error .undefined ↔
        ∃ call ∈ self.handed, (objects call.option).Waits build ∧ call.connected = false) ∧
      (self.destroy.deleted.Perm self.passed ↔
        ∀ call ∈ self.handed, (objects call.option).Waits build → call.connected = true) := by
  have queues := Queues.run letsWait_mysqlSetters run
  have waiting := queues.pending_ne_nil_iff
  refine ⟨queues.owned, ?_, ?_⟩
  · rw [queues.connect_undefined_iff letsWait_mysqlSetters, waiting]
  · rw [queues.owned.destroyed_iff, ← not_iff_not, ← ne_eq, waiting]
    simp only [not_forall, Bool.not_eq_true, exists_prop]

/-- A version in which the option has to be set behind the connection. -/
def early : Build := { mysqlVersionId := 50020, haveMysqlSslSet := true }

/-- A library that succeeds and changes no flags. -/
def willing : Library 32 := { succeeds := fun _ => true, clientFlag := fun _ flags => flags }

theorem run_waits_and_next_iff_reconnect :
    ∃ self, Run (CallStep (mysqlSetters early willing fun _ => .reconnect true)
        (Mysql.server willing)) (new Mysql.initial) [.setOption 7] self ∧
      ((connect (mysqlSetters early willing fun _ => .reconnect true)
        (Mysql.server willing)).run self).outcome = .error .undefined := by
  have run : Run (CallStep (mysqlSetters early willing fun _ => .reconnect true)
      (Mysql.server willing)) (new Mysql.initial) [.setOption 7] _ :=
    .single (.setOption (by decide) List.not_mem_nil)
  refine ⟨_, run, (run_waits_and_next_iff run).2.1.mpr ?_⟩
  exact ⟨_, List.mem_singleton_self _, ⟨by decide, by decide⟩, rfl⟩

/-! ### The flags that are asked for -/

namespace OptionCall

def Sets : OptionCall → Prop
  | .setOption _ => True
  | _ => False

/-- What a call makes of a bit of the flag word. -/
def writes (build : Build) (objects : OptionPtr → MySQLOption) (bit : Nat) :
    OptionCall → Option Bool
  | .setOption o => (objects o).writes build bit
  | _ => none

end OptionCall

theorem sets_step (queues : Queues (fun o => (objects o).Waits build) before)
    {call : OptionCall} (sets : call.Sets)
    (step : CallStep (mysqlSetters build library objects) (Mysql.server library) before call self) :
    ∃ o, call = .setOption o ∧ self.isConnected = before.isConnected ∧
      self.world = (mysqlSetters build library objects o before.isConnected before.world).2 := by
  cases step with
  | @setOption o notNull fresh =>
      have kept : o ∉ before.deleted := by
        intro gone
        exact fresh (queues.owned.mem_passed (List.mem_append_right _ gone))
      have alive : o ≠ 0 ∧ o ∉ (before.pass o).deleted := ⟨notNull, kept⟩
      exact ⟨o, rfl, setOption_world alive⟩
  | connect => cases sets
  | disconnect => cases sets

section Setting

variable {calls : List OptionCall} (queues : Queues (fun o => (objects o).Waits build) before)
  (run : Run (CallStep (mysqlSetters build library objects) (Mysql.server library)) before calls
    self) (sets : ∀ call ∈ calls, call.Sets)

include queues run sets

theorem isConnected_of_sets : self.isConnected = before.isConnected := by
  have last : self.isConnected = (lastWritten (fun _ => none) calls).getD before.isConnected := by
    apply part_of_run isConnected (fun _ => none) _ run queues
    intro call member earlier later queues step
    obtain ⟨o, _, same, _⟩ := sets_step queues (sets call member) step
    exact ⟨queues.step letsWait_mysqlSetters step, same⟩
  rw [last, lastWritten_never]
  rfl

/-- While there is no connection, the last option about a flag decides. -/
theorem clientFlag_of_sets (keeps : library.KeepsFlags) (down : before.isConnected = false)
    {bit : Nat} (inFlags : bit < 32) :
    self.world.clientFlag.getLsbD bit =
      (lastWritten (OptionCall.writes build objects bit) calls).getD
        (before.world.clientFlag.getLsbD bit) := by
  have both : Queues (fun o => (objects o).Waits build) before ∧ before.isConnected = false :=
    ⟨queues, down⟩
  revert both
  apply part_of_run (fun driver : OptionDriver (Mysql extra) => driver.world.clientFlag.getLsbD bit)
    _ _ run
  intro call member earlier later both step
  obtain ⟨queues, down⟩ := both
  obtain ⟨o, about, same, world⟩ := sets_step queues (sets call member) step
  refine ⟨⟨queues.step letsWait_mysqlSetters step, same.trans down⟩, ?_⟩
  rw [world, down, about]
  exact getLsbD_setOptionImpl keeps inFlags (objects o) earlier.world

end Setting

/-- After options have been set, `connect()` asks for a connection once. Where there was none,
each flag is as the last option about it wanted it, or as it was left. Where there was one it
asks for no flag at all, although the options stay applied. -/
theorem connect_asks (keeps : library.KeepsFlags) {world : Mysql extra}
    {earlier calls : List OptionCall}
    (reached : Run (CallStep (mysqlSetters build library objects) (Mysql.server library))
      (new world) earlier before)
    (run : Run (CallStep (mysqlSetters build library objects) (Mysql.server library)) before calls
      self) (sets : ∀ call ∈ calls, call.Sets)
    (defined : ((connect (mysqlSetters build library objects) (Mysql.server library)).run
      self).outcome ≠ .error .undefined) :
    ∃ clientFlag,
      ((connect (mysqlSetters build library objects) (Mysql.server library)).run
          self).final.world.calls =
        (disconnect (Mysql.server library) self).world.calls ++ [.mysqlRealConnect clientFlag] ∧
      (before.isConnected = false → ∀ bit < 32, clientFlag.getLsbD bit =
        (lastWritten (OptionCall.writes build objects bit) calls).getD
          (before.world.clientFlag.getLsbD bit)) ∧
      (before.isConnected = true → clientFlag = 0) ∧
      ((connect (mysqlSetters build library objects) (Mysql.server library)).run
        self).final.applied = self.applied := by
  have queues := Queues.run letsWait_mysqlSetters reached
  have flag := isConnected_of_sets queues run sets
  have nothing : self.pending = [] := by
    by_contra waiting
    exact defined (((Queues.run letsWait_mysqlSetters (reached.append run)).connect_undefined_iff
      letsWait_mysqlSetters).mpr waiting)
  rw [connect_nothing _ _ nothing]
  refine ⟨(disconnect (Mysql.server library) self).world.clientFlag, rfl, ?_, ?_, ?_⟩
  · intro down bit inFlags
    have stays : disconnect (Mysql.server library) self = self := by
      unfold disconnect
      rw [flag, down, if_neg Bool.false_ne_true]
    rw [stays]
    exact clientFlag_of_sets queues run sets keeps down inFlags
  · intro up
    unfold disconnect
    rw [flag, up, if_pos rfl]
    rfl
  · exact (disconnect_kept (Mysql.server library) self).1

/-- A version in which no option waits. -/
def late : Build := { mysqlVersionId := 80000, haveMysqlSslSet := false }

abbrev foundRowsSetters : Setters (Mysql 32) := mysqlSetters late willing fun _ => .foundRows true

def foundRowsGiven : OptionDriver (Mysql 32) := (new Mysql.initial).pass 7

def foundRowsSet : OptionDriver (Mysql 32) :=
  (foundRowsGiven.called foundRowsSetters 7).keepApplied 7

theorem setOption_foundRows :
    (setOption foundRowsSetters 7).run foundRowsGiven = .ok true foundRowsSet := by
  have isFlag : MySQLDriver.IsFlag clientFoundRows := isFlag_twoPow (n := 1) (by decide)
  have answer : (foundRowsSetters 7 foundRowsGiven.isConnected foundRowsGiven.world).1 =
      some .none := by
    change some (answered (setClientFlag clientFoundRows true Mysql.initial)).1 = _
    rw [setClientFlag, MySQLDriver.setOptionInternal_set isFlag]
    rfl
  have alive : (7 : OptionPtr) ≠ 0 ∧ 7 ∉ foundRowsGiven.deleted := ⟨by decide, List.not_mem_nil⟩
  rw [setOption_alive alive, answer]
  rfl

/-- A driver asks for the flag of its option when it is connected. When it is connected again
it has the option, and does not. -/
theorem connect_asks_again :
    (∃ clientFlag,
      ((connect foundRowsSetters (Mysql.server willing)).run foundRowsSet).final.world.calls =
        (disconnect (Mysql.server willing) foundRowsSet).world.calls ++
          [.mysqlRealConnect clientFlag] ∧
      clientFlag.getLsbD 1 = true) ∧
    ∃ before, Run (CallStep foundRowsSetters (Mysql.server willing)) (new Mysql.initial)
        [.setOption 7, .connect] before ∧
      before.applied = [7] ∧
      ((connect foundRowsSetters (Mysql.server willing)).run before).final.world.calls =
        (disconnect (Mysql.server willing) before).world.calls ++ [.mysqlRealConnect 0] := by
  have set_ : CallStep foundRowsSetters (Mysql.server willing) (new Mysql.initial) (.setOption 7)
      foundRowsSet := by
    have after : foundRowsSet =
        ((setOption foundRowsSetters 7).run ((new Mysql.initial).pass 7)).final :=
      (congrArg EStateM.Result.final setOption_foundRows).symm
    rw [after]
    exact .setOption (by decide) List.not_mem_nil
  have connecting (self : OptionDriver (Mysql 32)) (nothing : self.pending = []) :
      ((connect foundRowsSetters (Mysql.server willing)).run self).outcome ≠
        .error .undefined := by
    rw [connect_nothing _ _ nothing]
    intro impossible
    cases impossible
  have connected : CallStep foundRowsSetters (Mysql.server willing) foundRowsSet .connect
      (foundRowsSet.reconnected (Mysql.server willing)) := by
    have after : foundRowsSet.reconnected (Mysql.server willing) =
        ((connect foundRowsSetters (Mysql.server willing)).run foundRowsSet).final := by
      rw [connect_nothing _ _ rfl]
      rfl
    rw [after]
    exact .connect (connecting foundRowsSet rfl)
  have reached := Run.cons set_ (.single connected)
  have keeps : Library.KeepsFlags willing := ⟨fun _ _ _ _ => rfl, fun _ _ _ _ _ _ _ => rfl⟩
  constructor
  · have sets : ∀ call ∈ [OptionCall.setOption 7], call.Sets :=
      List.forall_mem_singleton.mpr trivial
    obtain ⟨clientFlag, asked, flags, _, _⟩ :=
      connect_asks keeps (.nil _) (.single set_) sets (connecting foundRowsSet rfl)
    exact ⟨clientFlag, asked, flags rfl 1 (by decide)⟩
  · have noCalls : ∀ call ∈ ([] : List OptionCall), call.Sets := by
      intro call impossible
      cases impossible
    obtain ⟨clientFlag, asked, _, zero, _⟩ :=
      connect_asks keeps reached (.nil _) noCalls (connecting _ rfl)
    refine ⟨_, reached, rfl, ?_⟩
    rw [asked, zero rfl]

end MySQL

end LibTabula.OptionDriver
