/-
Histories of a connection pool.

A history is a run of mutex-protected sections, in any order and with any
readings of the clock. Whatever the pool is asked to do, a pointer that
`create()` returned is in the pool or has been destroyed, once; and a pool that
starts empty never outgrows the largest number of connections that were checked
out at one time.
-/

import LibTabula.ConnectionPool
import LibTabula.Foundation.Run
import Mathlib.Data.List.Count
import Mathlib.Data.List.Perm.Basic
import Mathlib.Data.List.Nodup

set_option autoImplicit false

namespace LibTabula

open Foundation

/-- One stretch of code between taking the mutex and giving it back. -/
inductive PoolSection
  | grab (input : GrabInput)
  | release (pc : ConnectionPtr) (now : Int)
  | remove (pc : ConnectionPtr)
  | clear (all : Bool)
deriving DecidableEq, Repr

namespace ConnectionPool

def perform (self : ConnectionPool) : PoolSection → ConnectionPool
  | .grab input => (self.grab input).2
  | .release pc now => self.release pc now
  | .remove pc => self.remove pc
  | .clear all => self.clear all

def safeGrabSections (self : ConnectionPool) : List (GrabInput × Bool) → List PoolSection
  | [] => []
  | (input, ping) :: rounds =>
      match self.grab input with
      | (none, _) => [.grab input]
      | (some pc, grabbed) =>
          if ping then [.grab input]
          else .grab input :: .remove pc :: (grabbed.remove pc).safeGrabSections rounds

theorem exchange_eq_perform (self : ConnectionPool) (pc : ConnectionPtr)
    (input : GrabInput) :
    (self.exchange pc input).2 =
      [PoolSection.remove pc, .grab input].foldl perform self :=
  rfl

theorem safeGrab_eq_perform (self : ConnectionPool) (rounds : List (GrabInput × Bool)) :
    (self.safeGrab rounds).2 =
      (self.safeGrabSections rounds).foldl perform self := by
  induction rounds generalizing self with
  | nil => rfl
  | cons round rounds ih =>
      obtain ⟨input, ping⟩ := round
      cases outcome : self.grab input with
      | mk found grabbed =>
          cases found with
          | none => simp [safeGrab, safeGrabSections, outcome, perform]
          | some pc =>
              cases ping with
              | true => simp [safeGrab, safeGrabSections, outcome, perform]
              | false => simp [safeGrab, safeGrabSections, outcome, perform, ih]

/-! ### Conservation -/

/-- Everything created so far is in the pool or destroyed, counted with
multiplicity. -/
def Balanced (self : ConnectionPool) : Prop :=
  self.created.Perm (self.destroyed ++ self.pointers)

theorem Balanced.of_eq {self other : ConnectionPool} (balanced : self.Balanced)
    (created : other.created = self.created) (destroyed : other.destroyed = self.destroyed)
    (pointers : other.pointers = self.pointers) : other.Balanced := by
  unfold Balanced
  rw [created, destroyed, pointers]
  exact balanced

/-- An erasing loop moves pointers from the pool to the destroyed ones. -/
theorem Balanced.dispose_filter {self : ConnectionPool} (balanced : self.Balanced)
    (p : ConnectionInfo → Bool) :
    (self.dispose (self.pool.filter p, self.pool.filter (fun info => !p info))).Balanced := by
  have split : self.pointers.Perm
      ((self.pool.filter p).map ConnectionInfo.conn ++
        (self.pool.filter (fun info => !p info)).map ConnectionInfo.conn) := by
    rw [← List.map_append]
    exact ((List.filter_append_perm p self.pool).map ConnectionInfo.conn).symm
  have moved := balanced.trans (split.append_left self.destroyed)
  simpa only [Balanced, dispose, pointers, List.append_assoc] using moved

theorem Balanced.clear {self : ConnectionPool} (balanced : self.Balanced) (all : Bool) :
    (self.clear all).Balanced := by
  have moved := balanced.dispose_filter (fun info => all || !info.inUse)
  simpa only [ConnectionPool.clear, Cursor.eraseEach_start] using moved

theorem Balanced.expired {self : ConnectionPool} (balanced : self.Balanced)
    (input : GrabInput) : (self.expired input).Balanced := by
  have moved := balanced.dispose_filter
    (ConnectionInfo.tooOld (input.now - input.maxIdleTime))
  simpa only [ConnectionPool.expired, removeOldConnections, Cursor.eraseFound_start] using moved

theorem Balanced.findMru {self : ConnectionPool} (balanced : self.Balanced) :
    self.findMru.2.Balanced := by
  obtain ⟨pointers, created, destroyed⟩ := findMru_frame self
  exact balanced.of_eq created destroyed pointers

theorem Balanced.grab {self : ConnectionPool} (balanced : self.Balanced)
    (input : GrabInput) : (self.grab input).2.Balanced := by
  have kept := balanced.expired input
  rcases grab_cases self input with
    ⟨front, info, back, shape, _, _, _, result⟩ | ⟨_, _, result⟩ | ⟨conn, _, _, result⟩
  · rw [result]
    refine kept.of_eq rfl rfl ?_
    simp only [pointers, shape, List.map_append, List.map_cons]
  · rw [result]
    exact kept.findMru
  · rw [result]
    have grown := kept.findMru.append_right [conn]
    simpa only [Balanced, pointers, List.map_append, List.map_cons, List.map_nil,
      ConnectionInfo.new, List.append_assoc] using grown

theorem Balanced.release {self : ConnectionPool} (balanced : self.Balanced)
    (pc : ConnectionPtr) (now : Int) : (self.release pc now).Balanced := by
  rcases release_cases self pc now with ⟨_, same⟩ | ⟨front, info, back, shape, _, _, result⟩
  · rw [same]
    exact balanced
  · rw [result]
    refine balanced.of_eq rfl rfl ?_
    simp only [pointers, shape, List.map_append, List.map_cons]

theorem Balanced.remove {self : ConnectionPool} (balanced : self.Balanced)
    (pc : ConnectionPtr) : (self.remove pc).Balanced := by
  rcases remove_cases self pc with ⟨_, same⟩ | ⟨front, info, back, shape, conn, _, result⟩
  · rw [same]
    exact balanced
  · rw [result]
    refine List.Perm.trans balanced ?_
    have moved : self.pointers.Perm
        (pc :: (front ++ back).map ConnectionInfo.conn) := by
      rw [pointers, shape, List.map_append, List.map_cons, conn, List.map_append]
      exact List.perm_middle
    have joined := moved.append_left self.destroyed
    simpa only [pointers, List.append_assoc, List.cons_append, List.nil_append] using joined

theorem Balanced.perform {self : ConnectionPool} (balanced : self.Balanced)
    (section_ : PoolSection) : (self.perform section_).Balanced := by
  cases section_ with
  | grab input => exact balanced.grab input
  | release pc now => exact balanced.release pc now
  | remove pc => exact balanced.remove pc
  | clear all => exact balanced.clear all

theorem run_balanced {step : ConnectionPool → PoolSection → ConnectionPool → Prop}
    (performs : ∀ before section_ after, step before section_ after →
      after = before.perform section_)
    {sections : List PoolSection} {state : ConnectionPool}
    (run : Run step empty sections state) : state.Balanced := by
  refine run.invariant Balanced ?_ (List.Perm.refl [])
  intro before section_ after balanced stepped
  rw [performs before section_ after stepped]
  exact balanced.perform section_

/-! ### No connection twice -/

/-- `create()` makes a new connection: its address is not that of a live one. -/
def CreatesDistinct (self : ConnectionPool) : PoolSection → Prop
  | .grab input =>
      (self.expired input).findMru.1 = 0 →
        ∀ conn, input.create = some conn → conn ∉ (self.expired input).pointers
  | _ => True

def SectionStep (before : ConnectionPool) (section_ : PoolSection)
    (after : ConnectionPool) : Prop :=
  before.CreatesDistinct section_ ∧ after = before.perform section_

theorem pointers_expired_sublist (self : ConnectionPool) (input : GrabInput) :
    (self.expired input).pointers.Sublist self.pointers := by
  rw [expired, removeOldConnections_eq]
  exact List.Sublist.map ConnectionInfo.conn List.filter_sublist

theorem pointers_clear_sublist (self : ConnectionPool) (all : Bool) :
    (self.clear all).pointers.Sublist self.pointers := by
  rw [clear_eq]
  exact List.Sublist.map ConnectionInfo.conn List.filter_sublist

/-- What a grab leaves in the pool: what survived expiry, and at most one new
connection at the end. -/
theorem pointers_grab (self : ConnectionPool) (input : GrabInput) :
    (self.grab input).2.pointers = (self.expired input).pointers ∨
      ∃ conn, (self.expired input).findMru.1 = 0 ∧ input.create = some conn ∧
        (self.grab input).2.pointers = (self.expired input).pointers ++ [conn] := by
  have frame := (findMru_frame (self.expired input)).1
  rcases grab_cases self input with
    ⟨front, info, back, shape, _, _, _, result⟩ | ⟨_, _, result⟩ |
      ⟨conn, nothing, created, result⟩
  · left
    rw [result]
    simp only [pointers, shape, List.map_append, List.map_cons]
  · left
    rw [result]
    exact frame
  · right
    refine ⟨conn, nothing, created, ?_⟩
    rw [result, ← frame]
    simp only [pointers, List.map_append, List.map_cons, List.map_nil, ConnectionInfo.new]

theorem pointers_release (self : ConnectionPool) (pc : ConnectionPtr) (now : Int) :
    (self.release pc now).pointers = self.pointers := by
  rcases release_cases self pc now with ⟨_, same⟩ | ⟨front, info, back, shape, _, _, result⟩
  · rw [same]
  · rw [result]
    simp only [pointers, shape, List.map_append, List.map_cons]

theorem pointers_remove_sublist (self : ConnectionPool) (pc : ConnectionPtr) :
    (self.remove pc).pointers.Sublist self.pointers := by
  rcases remove_cases self pc with ⟨_, same⟩ | ⟨front, info, back, shape, _, _, result⟩
  · rw [same]
  · rw [result]
    simp only [pointers, shape, List.map_append, List.map_cons]
    exact (List.sublist_cons_self _ _).append_left _

theorem nodup_grab {self : ConnectionPool} {input : GrabInput}
    (distinct : self.pointers.Nodup) (creates : self.CreatesDistinct (.grab input)) :
    (self.grab input).2.pointers.Nodup := by
  have kept := distinct.sublist (pointers_expired_sublist self input)
  rcases pointers_grab self input with same | ⟨conn, nothing, created, grown⟩
  · rw [same]
    exact kept
  · rw [grown]
    refine List.nodup_append.mpr ⟨kept, List.nodup_singleton conn, ?_⟩
    intro pc member other new same
    rw [List.mem_singleton] at new
    subst new
    subst same
    exact creates nothing pc created member

theorem nodup_perform {self : ConnectionPool} {section_ : PoolSection}
    (distinct : self.pointers.Nodup) (creates : self.CreatesDistinct section_) :
    (self.perform section_).pointers.Nodup := by
  cases section_ with
  | grab input => exact nodup_grab distinct creates
  | release pc now =>
      change (self.release pc now).pointers.Nodup
      rw [pointers_release]
      exact distinct
  | remove pc => exact distinct.sublist (pointers_remove_sublist self pc)
  | clear all => exact distinct.sublist (pointers_clear_sublist self all)

theorem run_nodup {sections : List PoolSection} {state : ConnectionPool}
    (run : Run SectionStep empty sections state) : state.pointers.Nodup := by
  refine run.invariant (fun pool => pool.pointers.Nodup) ?_ List.nodup_nil
  intro before section_ after distinct stepped
  rw [stepped.2]
  exact nodup_perform distinct stepped.1

theorem Balanced.once {self : ConnectionPool} (balanced : self.Balanced)
    {pc : ConnectionPtr} (once : self.created.count pc = 1) :
    (self.pointers.count pc = 1 ∧ pc ∉ self.destroyed) ∨
      (pc ∉ self.pointers ∧ self.destroyed.count pc = 1) := by
  have total := balanced.count_eq pc
  rw [List.count_append, once] at total
  by_cases gone : pc ∈ self.destroyed
  · right
    have some := List.count_pos_iff.mpr gone
    refine ⟨List.count_eq_zero.mp ?_, ?_⟩ <;> omega
  · left
    have none := List.count_eq_zero.mpr gone
    refine ⟨?_, gone⟩
    omega

theorem clear_true_eq (self : ConnectionPool) :
    self.clear true =
      { self with pool := [], destroyed := self.destroyed ++ self.pointers } := by
  rw [clear_eq]
  simp [pointers]

theorem clear_false_eq (self : ConnectionPool) :
    self.clear false =
      { self with
        pool := self.pool.filter ConnectionInfo.inUse
        destroyed := self.destroyed ++
          (self.pool.filter (fun info => !info.inUse)).map ConnectionInfo.conn } := by
  rw [clear_eq]
  simp

/-- Conservation over every history: each pointer that `create()` returned is in
the pool or destroyed, as often as it was returned and at most once in the pool;
a full `clear` destroys all that is left, a partial one exactly what is free, and
a pointer that is not in the pool is ignored. -/
theorem lifecycle_conserved {sections : List PoolSection} {state : ConnectionPool}
    (run : Run SectionStep empty sections state) :
    (∀ pc, state.created.count pc = state.destroyed.count pc + state.pointers.count pc) ∧
      (∀ pc, state.pointers.count pc ≤ 1) ∧
      (∀ pc, state.created.count pc = 1 →
        (state.pointers.count pc = 1 ∧ pc ∉ state.destroyed) ∨
          (pc ∉ state.pointers ∧ state.destroyed.count pc = 1)) ∧
      ((state.clear true).pool = [] ∧
        state.created.Perm (state.clear true).destroyed) ∧
      ((state.clear false).pool = state.pool.filter ConnectionInfo.inUse ∧
        (state.clear false).destroyed = state.destroyed ++
          (state.pool.filter (fun info => !info.inUse)).map ConnectionInfo.conn) ∧
      ∀ pc, pc ∉ state.pointers →
        (∀ now, state.release pc now = state) ∧ state.remove pc = state := by
  have balanced := run_balanced (fun _ _ _ stepped => stepped.2) run
  refine ⟨?_, List.nodup_iff_count_le_one.mp (run_nodup run), fun pc => balanced.once,
    ?_, ?_, ?_⟩
  · intro pc
    rw [balanced.count_eq pc, List.count_append]
  · rw [clear_true_eq]
    exact ⟨rfl, balanced⟩
  · rw [clear_false_eq]
    exact ⟨rfl, rfl⟩
  · intro pc absent
    exact ⟨fun now => release_of_not_mem state pc now absent,
      remove_of_not_mem state pc absent⟩

def firstGrab : GrabInput :=
  { now := 0, maxIdleTime := 1, create := some 1, stamp := 0 }

theorem firstGrab_eq :
    empty.grab firstGrab =
      (some 1, { pool := [ConnectionInfo.new 1 0], created := [1], destroyed := [] }) := by
  simp [grab, firstGrab, removeOldConnections_eq, findMru, maxElement, empty]

def secondGrab : GrabInput := { now := 3, maxIdleTime := 1, create := some 2, stamp := 3 }

def thirdGrab : GrabInput := { now := 9, maxIdleTime := 1, create := some 3, stamp := 9 }

/-- Two connections, of which the first is released and is too old when a third is made. -/
def expiring : List PoolSection :=
  [.grab firstGrab, .grab secondGrab, .release 1 5, .grab thirdGrab]

def afterExpiry : ConnectionPool :=
  { pool := [ConnectionInfo.new 2 3, ConnectionInfo.new 3 9], created := [1, 2, 3]
    destroyed := [1] }

theorem expiring_eq : expiring.foldl perform empty = afterExpiry := by decide +kernel

theorem lifecycle_conserved_expiring :
    Run SectionStep empty expiring afterExpiry ∧
      (∀ pc, afterExpiry.created.count pc =
        afterExpiry.destroyed.count pc + afterExpiry.pointers.count pc) ∧
      afterExpiry.created.Perm (afterExpiry.clear true).destroyed := by
  have creates {self : ConnectionPool} {input : GrabInput} (conn : ConnectionPtr)
      (made : input.create = some conn) (fresh : conn ∉ (self.expired input).pointers) :
      self.CreatesDistinct (.grab input) := by
    intro _nothing other created
    rw [made] at created
    cases created
    exact fresh
  have run : Run SectionStep empty expiring afterExpiry := by
    rw [← expiring_eq]
    apply Run.cons ⟨creates 1 rfl (by decide +kernel), rfl⟩
    apply Run.cons ⟨creates 2 rfl (by decide +kernel), rfl⟩
    apply Run.cons ⟨trivial, rfl⟩
    exact .single ⟨creates 3 rfl (by decide +kernel), rfl⟩
  have conserved := lifecycle_conserved run
  exact ⟨run, conserved.1, conserved.2.2.2.1.2⟩

/-! ### The size bound -/

def checkedOut (self : ConnectionPool) : Nat := self.pool.countP ConnectionInfo.inUse

theorem checkedOut_eq_size {self : ConnectionPool}
    (used : ∀ info ∈ self.pool, info.inUse = true) : self.checkedOut = self.size :=
  List.countP_eq_length.mpr used

/-- `find_mru()` finds nothing only in a pool that is entirely in use, as long as
no null pointer was put into it. -/
theorem inUse_of_findMru_eq_zero {self : ConnectionPool} (objects : 0 ∉ self.pointers)
    (nothing : self.findMru.1 = 0) :
    (∀ info ∈ self.pool, info.inUse = true) ∧ self.findMru.2 = self := by
  rcases findMru_cases self with ⟨used, same⟩ | ⟨front, info, back, shape, _, _, marked⟩
  · exact ⟨used, by rw [same]⟩
  · rw [marked] at nothing
    refine absurd ?_ objects
    rw [pointers, shape]
    simp [show info.conn = 0 from nothing]

end ConnectionPool

/-- A pool with the largest number of connections checked out at one time so
far. -/
structure WatchedPool where
  pool : ConnectionPool
  peak : Nat

namespace WatchedPool

open ConnectionPool

def start : WatchedPool := { pool := empty, peak := 0 }

/-- `create()` returns a connection object, never a null pointer. -/
def CreatesObject : PoolSection → Prop
  | .grab input => input.create ≠ some 0
  | .release _ _ | .remove _ | .clear _ => True

def Step (before : WatchedPool) (section_ : PoolSection) (after : WatchedPool) : Prop :=
  CreatesObject section_ ∧
    after.pool = before.pool.perform section_ ∧
    after.peak = max before.peak after.pool.checkedOut

structure Bounded (watched : WatchedPool) : Prop where
  objects : 0 ∉ watched.pool.pointers
  size_le : watched.pool.size ≤ watched.peak

theorem objects_perform {pool : ConnectionPool} {section_ : PoolSection}
    (creates : CreatesObject section_) (objects : 0 ∉ pool.pointers) :
    0 ∉ (pool.perform section_).pointers := by
  cases section_ with
  | grab input =>
      have kept : 0 ∉ (pool.expired input).pointers := fun member =>
        objects ((pointers_expired_sublist pool input).mem member)
      change 0 ∉ (pool.grab input).2.pointers
      rcases pointers_grab pool input with same | ⟨conn, _, created, grown⟩
      · rw [same]
        exact kept
      · rw [grown, List.mem_append, List.mem_singleton]
        intro either
        rcases either with member | null
        · exact kept member
        · exact creates (by rw [created, null])
  | release pc now =>
      change 0 ∉ (pool.release pc now).pointers
      rw [pointers_release]
      exact objects
  | remove pc =>
      exact fun member => objects ((pointers_remove_sublist pool pc).mem member)
  | clear all =>
      exact fun member => objects ((pointers_clear_sublist pool all).mem member)

/-- A section that does not create leaves the pool no larger; one that creates
leaves every connection in it checked out. -/
theorem size_perform {pool : ConnectionPool} (objects : 0 ∉ pool.pointers)
    (section_ : PoolSection) :
    (pool.perform section_).size ≤ pool.size ∨
      (pool.perform section_).size = (pool.perform section_).checkedOut := by
  have shrinks : ∀ other : ConnectionPool, other.pointers.Sublist pool.pointers →
      other.size ≤ pool.size := by
    intro other sublist
    simpa [size, pointers] using sublist.length_le
  cases section_ with
  | grab input =>
      have kept : 0 ∉ (pool.expired input).pointers := fun member =>
        objects ((pointers_expired_sublist pool input).mem member)
      rcases grab_cases pool input with
        ⟨front, info, back, shape, _, _, _, result⟩ | ⟨_, _, result⟩ |
          ⟨conn, nothing, _, result⟩
      · left
        apply shrinks
        change (pool.grab input).2.pointers.Sublist pool.pointers
        have same : (pool.grab input).2.pointers = (pool.expired input).pointers := by
          rw [result]
          simp only [pointers, shape, List.map_append, List.map_cons]
        rw [same]
        exact pointers_expired_sublist pool input
      · left
        apply shrinks
        change (pool.grab input).2.pointers.Sublist pool.pointers
        rw [result, (findMru_frame (pool.expired input)).1]
        exact pointers_expired_sublist pool input
      · right
        obtain ⟨used, same⟩ := inUse_of_findMru_eq_zero kept nothing
        change (pool.grab input).2.size = (pool.grab input).2.checkedOut
        rw [result, same]
        refine (checkedOut_eq_size ?_).symm
        intro info member
        rw [List.mem_append, List.mem_singleton] at member
        rcases member with old | new
        · exact used info old
        · rw [new]
          rfl
  | release pc now =>
      left
      apply shrinks
      change (pool.release pc now).pointers.Sublist pool.pointers
      rw [pointers_release]
  | remove pc => exact Or.inl (shrinks _ (pointers_remove_sublist pool pc))
  | clear all => exact Or.inl (shrinks _ (pointers_clear_sublist pool all))

theorem Bounded.step {before after : WatchedPool} {section_ : PoolSection}
    (bounded : before.Bounded) (stepped : Step before section_ after) : after.Bounded := by
  obtain ⟨creates, pool, peak⟩ := stepped
  refine ⟨?_, ?_⟩
  · rw [pool]
    exact objects_perform creates bounded.objects
  · have previous := bounded.size_le
    rcases size_perform bounded.objects section_ with smaller | full
    · rw [← pool] at smaller
      omega
    · rw [← pool] at full
      omega

theorem run_bounded {sections : List PoolSection} {state : WatchedPool}
    (run : Run Step start sections state) : state.Bounded := by
  refine run.invariant Bounded (fun _ _ _ bounded stepped => bounded.step stepped) ?_
  exact ⟨by simp [start, empty, pointers], Nat.le_refl 0⟩

/-- In every history of a pool that starts empty, its size is at most the peak
number of connections checked out together, and `grab()` creates a connection
only when every connection left in the pool is in use. -/
theorem size_le_peak {sections : List PoolSection} {state : WatchedPool}
    (run : Run Step start sections state) :
    state.pool.size ≤ state.peak ∧
      ∀ input, (state.pool.grab input).2.created ≠ state.pool.created →
        ∀ info ∈ (state.pool.expired input).pool, info.inUse = true := by
  have bounded := run_bounded run
  refine ⟨bounded.size_le, ?_⟩
  intro input creates
  have kept : 0 ∉ (state.pool.expired input).pointers := fun member =>
    bounded.objects ((pointers_expired_sublist state.pool input).mem member)
  have nothing : (state.pool.expired input).findMru.1 = 0 := by
    by_contra found
    apply creates
    rcases grab_cases state.pool input with
      ⟨front, info, back, _, _, _, _, result⟩ | ⟨nothing, _, _⟩ | ⟨conn, nothing, _, _⟩
    · rw [result]
      simp only [expired, removeOldConnections_eq]
    · exact absurd nothing found
    · exact absurd nothing found
  exact (inUse_of_findMru_eq_zero kept nothing).1

/-- Two connections at most are checked out together. -/
theorem size_le_peak_expiring :
    ∃ state, Run Step start expiring state ∧ state.pool = afterExpiry ∧ state.peak = 2 ∧
      state.pool.size ≤ state.peak ∧
      ∀ input, (state.pool.grab input).2.created ≠ state.pool.created →
        ∀ info ∈ (state.pool.expired input).pool, info.inUse = true := by
  have step (before : WatchedPool) (section_ : PoolSection) (creates : CreatesObject section_) :
      Step before section_
        { pool := before.pool.perform section_
          peak := max before.peak (before.pool.perform section_).checkedOut } :=
    ⟨creates, rfl, rfl⟩
  have first : CreatesObject (.grab firstGrab) := by
    intro null
    cases null
  have second : CreatesObject (.grab secondGrab) := by
    intro null
    cases null
  have third : CreatesObject (.grab thirdGrab) := by
    intro null
    cases null
  have run := Run.cons (step start _ first) (Run.cons (step _ _ second)
    (Run.cons (step _ (.release 1 5) trivial) (Run.single (step _ _ third))))
  exact ⟨_, run, expiring_eq, by decide +kernel, size_le_peak run⟩

end WatchedPool

end LibTabula
