/-
Threads that share a state under one lock.

A thread touches the shared state only between taking the lock and giving it back,
one access at a time, and the other threads may run between any two accesses. The
atomic reading of the same threads has no lock: a whole section is one step. Every
run of the threads is a run of the atomic reading with the sections in the order in
which they gave the lock back, and, as long as no section gets stuck, a thread that
has something to do can always go on.
-/

import LibTabula.Foundation.Run
import Mathlib.Logic.Function.Basic

set_option autoImplicit false

namespace Foundation.Locking

/-- What the threads run. Between its sections a thread is in a control state, which
changes by `own` steps and decides what it `calls`. A section is a number of
accesses from its `entry`, each of which leads to another point or ends it with a
result, and the thread resumes with that. -/
structure Program (σ κ ρ π β : Type) where
  own : κ → κ → Prop
  calls : κ → ρ → Prop
  entry : ρ → π
  access : π → σ → π ⊕ β → σ → Prop
  resume : κ → ρ → β → κ

variable {Thread σ κ ρ π β : Type}

/-! ### One section -/

/-- The accesses that lead from a point and a shared state to others. -/
inductive Program.Reaches (program : Program σ κ ρ π β) (point : π) (shared : σ) :
    π ⊕ β → σ → Prop
  | here : Reaches program point shared (.inl point) shared
  | access {middle : π} {now later : σ} {next : π ⊕ β} :
      Reaches program point shared (.inl middle) now → program.access middle now next later →
      Reaches program point shared next later

/-- The section as one step. -/
def Program.Section (program : Program σ κ ρ π β) (request : ρ) (before : σ) (result : β)
    (after : σ) : Prop :=
  program.Reaches (program.entry request) before (.inr result) after

/-- An invariant of the accesses of a section holds wherever they lead. -/
theorem Program.Reaches.invariant {program : Program σ κ ρ π β} {point : π} {shared later : σ}
    {next : π ⊕ β} (Inv : π ⊕ β → σ → Prop)
    (keeps : ∀ middle now next later, Inv (.inl middle) now →
      program.access middle now next later → Inv next later)
    (reached : program.Reaches point shared next later) (initially : Inv (.inl point) shared) :
    Inv next later := by
  induction reached with
  | here => exact initially
  | access _ accessed ih => exact keeps _ _ _ _ ih accessed

/-! ### The threads -/

/-- Where a thread is. Inside a section it is at a point or has a result to leave
with. -/
inductive Place (κ ρ π β : Type)
  | outside (control : κ)
  | waiting (control : κ) (request : ρ)
  | inside (control : κ) (request : ρ) (at_ : π ⊕ β)

namespace Place

def control : Place κ ρ π β → κ
  | outside control | waiting control _ | inside control _ _ => control

def request? : Place κ ρ π β → Option ρ
  | outside _ => none
  | waiting _ request | inside _ request _ => some request

def at? : Place κ ρ π β → Option (π ⊕ β)
  | outside _ | waiting _ _ => none
  | inside _ _ at_ => some at_

end Place

structure Machine (Thread σ κ ρ π β : Type) where
  shared : σ
  owner : Option Thread
  place : Thread → Place κ ρ π β

inductive Event (ρ β : Type)
  | own
  | call (request : ρ)
  | lock
  | access
  | unlock (request : ρ) (result : β)

section Put

variable [DecidableEq Thread]

def Machine.put (self : Machine Thread σ κ ρ π β) (thread : Thread) (place : Place κ ρ π β) :
    Machine Thread σ κ ρ π β :=
  { self with place := Function.update self.place thread place }

@[simp] theorem Machine.put_shared (self : Machine Thread σ κ ρ π β) (thread : Thread)
    (place : Place κ ρ π β) : (self.put thread place).shared = self.shared := rfl

@[simp] theorem Machine.put_owner (self : Machine Thread σ κ ρ π β) (thread : Thread)
    (place : Place κ ρ π β) : (self.put thread place).owner = self.owner := rfl

@[simp] theorem Machine.place_put_self (self : Machine Thread σ κ ρ π β) (thread : Thread)
    (place : Place κ ρ π β) : (self.put thread place).place thread = place := by
  simp only [Machine.put, Function.update_self]

theorem Machine.place_put_of_ne (self : Machine Thread σ κ ρ π β) {thread other : Thread}
    (place : Place κ ρ π β) (different : other ≠ thread) :
    (self.put thread place).place other = self.place other := by
  simp only [Machine.put, Function.update_of_ne different]

end Put

inductive Machine.Step [DecidableEq Thread] (program : Program σ κ ρ π β) :
    Machine Thread σ κ ρ π β → Thread × Event ρ β → Machine Thread σ κ ρ π β → Prop
  | own {before : Machine Thread σ κ ρ π β} {thread : Thread} {control next : κ} :
      before.place thread = .outside control → program.own control next →
      Step program before (thread, .own) (before.put thread (.outside next))
  | call {before : Machine Thread σ κ ρ π β} {thread : Thread} {control : κ} {request : ρ} :
      before.place thread = .outside control → program.calls control request →
      Step program before (thread, .call request) (before.put thread (.waiting control request))
  | lock {before : Machine Thread σ κ ρ π β} {thread : Thread} {control : κ} {request : ρ} :
      before.place thread = .waiting control request → before.owner = none →
      Step program before (thread, .lock)
        ({ before with owner := some thread }.put thread
          (.inside control request (.inl (program.entry request))))
  | access {before : Machine Thread σ κ ρ π β} {thread : Thread} {control : κ} {request : ρ}
      {point : π} {next : π ⊕ β} {shared : σ} :
      before.place thread = .inside control request (.inl point) →
      program.access point before.shared next shared →
      Step program before (thread, .access)
        ({ before with shared := shared }.put thread (.inside control request next))
  | unlock {before : Machine Thread σ κ ρ π β} {thread : Thread} {control : κ} {request : ρ}
      {result : β} :
      before.place thread = .inside control request (.inr result) →
      Step program before (thread, .unlock request result)
        ({ before with owner := none }.put thread
          (.outside (program.resume control request result)))

def Machine.initial (shared : σ) (control : Thread → κ) : Machine Thread σ κ ρ π β :=
  { shared := shared, owner := none, place := fun thread => .outside (control thread) }

/-! ### The atomic reading -/

structure Atomic (Thread σ κ : Type) where
  shared : σ
  control : Thread → κ

inductive AtomicEvent (ρ β : Type)
  | own
  | section_ (request : ρ) (result : β)

def AtomicEvent.request? : AtomicEvent ρ β → Option ρ
  | own => none
  | section_ request _ => some request

inductive Atomic.Step [DecidableEq Thread] (program : Program σ κ ρ π β) :
    Atomic Thread σ κ → Thread × AtomicEvent ρ β → Atomic Thread σ κ → Prop
  | own {before : Atomic Thread σ κ} {thread : Thread} {next : κ} :
      program.own (before.control thread) next →
      Step program before (thread, .own)
        { before with control := Function.update before.control thread next }
  | section_ {before : Atomic Thread σ κ} {thread : Thread} {request : ρ} {result : β}
      {shared : σ} :
      program.calls (before.control thread) request →
      program.Section request before.shared result shared →
      Step program before (thread, .section_ request result)
        { shared := shared
          control := Function.update before.control thread
            (program.resume (before.control thread) request result) }

/-- What a step is in the atomic reading: a section counts when it gives the lock
back. -/
def observed : Thread × Event ρ β → List (Thread × AtomicEvent ρ β)
  | (thread, .own) => [(thread, .own)]
  | (thread, .unlock request result) => [(thread, .section_ request result)]
  | (_, .call _) | (_, .lock) | (_, .access) => []

/-! ### Refinement -/

/-- How a machine stands to the atomic state it represents. While a thread is in a
section the shared state is what its accesses so far have made of the atomic one. -/
structure Represents (program : Program σ κ ρ π β) (machine : Machine Thread σ κ ρ π β)
    (atomic : Atomic Thread σ κ) : Prop where
  control : ∀ thread, atomic.control thread = (machine.place thread).control
  called : ∀ thread request, (machine.place thread).request? = some request →
    program.calls (machine.place thread).control request
  outside : ∀ thread, machine.owner ≠ some thread → (machine.place thread).at? = none
  free : machine.owner = none → machine.shared = atomic.shared
  held : ∀ thread, machine.owner = some thread →
    ∃ request at_, (machine.place thread).request? = some request ∧
      (machine.place thread).at? = some at_ ∧
      program.Reaches (program.entry request) atomic.shared at_ machine.shared

theorem Represents.initial (program : Program σ κ ρ π β) (shared : σ) (control : Thread → κ) :
    Represents program (Machine.initial shared control) ⟨shared, control⟩ where
  control := by
    intro thread
    rfl
  called := by
    intro thread request impossible
    cases impossible
  outside := by
    intro thread _
    rfl
  free := by
    intro _
    rfl
  held := by
    intro thread impossible
    cases impossible

section Step

variable {program : Program σ κ ρ π β} {machine : Machine Thread σ κ ρ π β}
  {atomic : Atomic Thread σ κ} {thread : Thread} {control : κ} {request : ρ}

theorem Represents.owner_of_inside (represents : Represents program machine atomic)
    {at_ : π ⊕ β} (place : machine.place thread = .inside control request at_) :
    machine.owner = some thread := by
  by_contra other
  have nowhere := represents.outside thread other
  rw [place] at nowhere
  cases nowhere

theorem Represents.calls_of_waiting (represents : Represents program machine atomic)
    (place : machine.place thread = .waiting control request) : program.calls control request := by
  have known := represents.called thread request
  rw [place] at known
  exact known rfl

theorem Represents.calls_of_inside (represents : Represents program machine atomic)
    {at_ : π ⊕ β} (place : machine.place thread = .inside control request at_) :
    program.calls control request := by
  have known := represents.called thread request
  rw [place] at known
  exact known rfl

theorem Represents.not_owner_of_at_none (represents : Represents program machine atomic)
    (nowhere : (machine.place thread).at? = none) : machine.owner ≠ some thread := by
  intro owner
  obtain ⟨_, at_, _, here, _⟩ := represents.held thread owner
  rw [nowhere] at here
  cases here

/-- The section a thread is in, as the accesses it has made. -/
theorem Represents.reaches (represents : Represents program machine atomic) {at_ : π ⊕ β}
    (place : machine.place thread = .inside control request at_) :
    program.Reaches (program.entry request) atomic.shared at_ machine.shared := by
  obtain ⟨called, here, requested, at_here, reached⟩ :=
    represents.held thread (represents.owner_of_inside place)
  rw [place] at requested at_here
  cases requested
  cases at_here
  exact reached

/-- A thread that moves without touching the lock or the shared state. -/
theorem Represents.put [DecidableEq Thread] (represents : Represents program machine atomic)
    {place : Place κ ρ π β} {controls : Thread → κ}
    (controls_eq : ∀ other, controls other =
      if other = thread then place.control else atomic.control other)
    (called : ∀ asked, place.request? = some asked → program.calls place.control asked)
    (before : (machine.place thread).at? = none) (nowhere : place.at? = none) :
    Represents program (machine.put thread place) ⟨atomic.shared, controls⟩ where
  control := by
    intro other
    by_cases same : other = thread
    · rw [same, Machine.place_put_self]
      exact (controls_eq thread).trans (if_pos rfl)
    · rw [Machine.place_put_of_ne _ _ same, ← represents.control other]
      exact (controls_eq other).trans (if_neg same)
  called := by
    intro other asked
    by_cases same : other = thread
    · rw [same, Machine.place_put_self]
      exact called asked
    · rw [Machine.place_put_of_ne _ _ same]
      exact represents.called other asked
  outside := by
    intro other notOwner
    by_cases same : other = thread
    · rw [same, Machine.place_put_self]
      exact nowhere
    · rw [Machine.place_put_of_ne _ _ same]
      exact represents.outside other notOwner
  free := represents.free
  held := by
    intro other owner
    have different : other ≠ thread := by
      intro same
      rw [same] at owner
      exact represents.not_owner_of_at_none before owner
    rw [Machine.place_put_of_ne _ _ different]
    exact represents.held other owner

/-- A thread that enters a section or goes on in it. -/
theorem Represents.inside [DecidableEq Thread] (represents : Represents program machine atomic)
    (at_ : π ⊕ β) (shared : σ) (called : program.calls control request)
    (controlled : (machine.place thread).control = control)
    (others : ∀ other, other ≠ thread → machine.owner ≠ some other)
    (reached : program.Reaches (program.entry request) atomic.shared at_ shared) :
    Represents program
      ({ machine with shared := shared, owner := some thread }.put thread
        (.inside control request at_)) atomic where
  control := by
    intro other
    rw [represents.control other]
    by_cases same : other = thread
    · rw [same, Machine.place_put_self, controlled]
      rfl
    · rw [Machine.place_put_of_ne _ _ same]
  called := by
    intro other asked
    by_cases same : other = thread
    · rw [same, Machine.place_put_self]
      intro asks
      cases asks
      exact called
    · rw [Machine.place_put_of_ne _ _ same]
      exact represents.called other asked
  outside := by
    intro other notOwner
    have different : other ≠ thread := by
      intro same
      exact notOwner (congrArg some same.symm)
    rw [Machine.place_put_of_ne _ _ different]
    exact represents.outside other (others other different)
  free := by
    intro impossible
    cases impossible
  held := by
    intro other owner
    cases owner
    rw [Machine.place_put_self]
    exact ⟨request, at_, rfl, rfl, reached⟩

end Step

/-- The thread with the lock gives it back, and goes on as the result of its section says. -/
theorem Represents.unlocked [DecidableEq Thread] {program : Program σ κ ρ π β}
    {machine : Machine Thread σ κ ρ π β} {atomic : Atomic Thread σ κ} {thread : Thread}
    (represents : Represents program machine atomic) (owner : machine.owner = some thread)
    (control : κ) :
    Represents program ({ machine with owner := none }.put thread (.outside control))
      { shared := machine.shared
        control := Function.update atomic.control thread control } where
  control := by
    intro other
    by_cases same : other = thread
    · rw [same, Machine.put]
      simp only [Function.update_self]
      rfl
    · rw [Machine.put]
      simp only [Function.update_of_ne same]
      exact represents.control other
  called := by
    intro other asked
    by_cases same : other = thread
    · rw [same, Machine.place_put_self]
      intro impossible
      cases impossible
    · rw [Machine.place_put_of_ne _ _ same]
      exact represents.called other asked
  outside := by
    intro other _
    by_cases same : other = thread
    · rw [same, Machine.place_put_self]
      rfl
    · rw [Machine.place_put_of_ne _ _ same]
      apply represents.outside other
      rw [owner]
      intro equal
      exact same (Option.some.inj equal).symm
  free := by
    intro _
    rfl
  held := by
    intro other impossible
    cases impossible

/-- One step of a thread is no step of the atomic reading, or one with the label that
`observed` gives it. -/
theorem Represents.step [DecidableEq Thread] {program : Program σ κ ρ π β}
    {before after : Machine Thread σ κ ρ π β} {atomic : Atomic Thread σ κ}
    {label : Thread × Event ρ β} (represents : Represents program before atomic)
    (stepped : Machine.Step program before label after) :
    ∃ next, Run (Atomic.Step program) atomic (observed label) next ∧
      Represents program after next := by
  cases stepped with
  | @own thread control next place moved =>
      have controlled : atomic.control thread = control := by
        rw [represents.control thread, place]
        rfl
      refine ⟨_, .single (.own (by rw [controlled]; exact moved)), ?_⟩
      apply represents.put
      · intro other
        exact Function.update_apply atomic.control thread next other
      · intro asked impossible
        cases impossible
      · rw [place]
        rfl
      · rfl
  | @call thread control request place calls =>
      refine ⟨atomic, .nil atomic, ?_⟩
      apply represents.put
      · intro other
        by_cases same : other = thread
        · rw [if_pos same, same, represents.control thread, place]
          rfl
        · rw [if_neg same]
      · intro asked asks
        cases asks
        exact calls
      · rw [place]
        rfl
      · rfl
  | @lock thread control request place free =>
      refine ⟨atomic, .nil atomic, ?_⟩
      have same := represents.inside (.inl (program.entry request)) before.shared
        (represents.calls_of_waiting place) (by rw [place]; rfl)
        (by intro other _ impossible; rw [free] at impossible; cases impossible)
        (by rw [represents.free free]; exact .here)
      exact same
  | @access thread control request point next shared place accessed =>
      refine ⟨atomic, .nil atomic, ?_⟩
      have owner := represents.owner_of_inside place
      have moved := represents.inside next shared (represents.calls_of_inside place)
        (by rw [place]; rfl)
        (by
          intro other different same
          rw [owner] at same
          exact different (Option.some.inj same).symm)
        ((represents.reaches place).access accessed)
      rw [← owner] at moved
      exact moved
  | @unlock thread control request result place =>
      have owner := represents.owner_of_inside place
      have controlled : atomic.control thread = control := by
        rw [represents.control thread, place]
        rfl
      refine ⟨_, .single (.section_ (by rw [controlled]; exact represents.calls_of_inside place)
        (represents.reaches place)), ?_⟩
      rw [controlled]
      exact represents.unlocked owner _

theorem run_represents [DecidableEq Thread] {program : Program σ κ ρ π β}
    {start finish : Machine Thread σ κ ρ π β} {labels : List (Thread × Event ρ β)}
    {atomic : Atomic Thread σ κ} (run : Run (Machine.Step program) start labels finish)
    (represents : Represents program start atomic) :
    ∃ last, Run (Atomic.Step program) atomic (labels.flatMap observed) last ∧
      Represents program finish last :=
  run.stuttering (fun _ _ _ _ represents stepped => represents.step stepped) represents

/-- Two threads are never in their sections at the same time. -/
theorem Represents.exclusion {program : Program σ κ ρ π β} {machine : Machine Thread σ κ ρ π β}
    {atomic : Atomic Thread σ κ} (represents : Represents program machine atomic)
    {thread other : Thread} {control controlOther : κ} {request requestOther : ρ}
    {at_ atOther : π ⊕ β} (place : machine.place thread = .inside control request at_)
    (placeOther : machine.place other = .inside controlOther requestOther atOther) :
    thread = other := by
  have owner := represents.owner_of_inside place
  rw [represents.owner_of_inside placeOther] at owner
  exact (Option.some.inj owner).symm

/-! ### Progress -/

/-- No access of a section is stuck, and each one brings the section nearer to its
end. -/
structure Program.Terminating (program : Program σ κ ρ π β) (rank : π → σ → Nat) : Prop where
  proceeds : ∀ request before point now,
    program.Reaches (program.entry request) before (.inl point) now →
    ∃ next later, program.access point now next later
  decreases : ∀ request before point now next later,
    program.Reaches (program.entry request) before (.inl point) now →
    program.access point now (.inl next) later → rank next later < rank point now

section Progress

variable [DecidableEq Thread] {program : Program σ κ ρ π β} {rank : π → σ → Nat}
  {machine : Machine Thread σ κ ρ π β} {atomic : Atomic Thread σ κ} {thread : Thread}
  {control : κ} {request : ρ}

/-- The owner of the lock can give it back without any other thread, after no more
accesses than the rank of the point where it is allows. -/
theorem Represents.releases (represents : Represents program machine atomic)
    (terminating : program.Terminating rank) {point : π}
    (place : machine.place thread = .inside control request (.inl point)) :
    ∃ labels after, Run (Machine.Step program) machine labels after ∧ after.owner = none ∧
      (∀ label ∈ labels, label.1 = thread) ∧
      labels.length ≤ rank point machine.shared + 2 := by
  generalize ranked : rank point machine.shared = bound
  induction bound using Nat.strongRecOn generalizing machine atomic point with
  | ind bound ih =>
      have reached := represents.reaches place
      obtain ⟨next, later, accessed⟩ := terminating.proceeds request _ point _ reached
      have stepped := Machine.Step.access place accessed
      obtain ⟨_, _, goesOn⟩ := represents.step stepped
      cases next with
      | inr result =>
          refine ⟨[(thread, .access), (thread, .unlock request result)], _,
            .cons stepped (.single (.unlock (Machine.place_put_self _ thread _))), rfl, ?_,
            Nat.le_add_left 2 bound⟩
          intro label member
          rw [List.mem_cons, List.mem_singleton] at member
          rcases member with rfl | rfl
          · rfl
          · rfl
      | inl nearer =>
          have less := terminating.decreases request _ point _ nearer later reached accessed
          rw [ranked] at less
          obtain ⟨labels, after, run, free, own, few⟩ := ih _ less goesOn
            (Machine.place_put_self _ thread _) rfl
          refine ⟨(thread, .access) :: labels, after, .cons stepped run, free, ?_, ?_⟩
          · intro label member
            rcases List.mem_cons.mp member with rfl | later
            · rfl
            · exact own label later
          · rw [List.length_cons]
            change labels.length ≤ rank nearer later + 2 at few
            omega

def Event.goesOn : Event ρ β → Bool
  | .own | .call _ => false
  | .lock | .access | .unlock _ _ => true

/-- As long as some thread waits for the lock or holds it, the lock is taken, used or
given back by some thread. -/
theorem Represents.progress (represents : Represents program machine atomic)
    (terminating : program.Terminating rank)
    (busy : (machine.place thread).request? = some request) :
    ∃ label after, Machine.Step program machine label after ∧ label.2.goesOn = true := by
  have insider : ∀ {other : Thread} {asked : ρ} {at_ : π ⊕ β} {control : κ},
      machine.place other = .inside control asked at_ →
      ∃ label after, Machine.Step program machine label after ∧ label.2.goesOn = true := by
    intro other asked at_ control place
    cases at_ with
    | inr result => exact ⟨_, _, .unlock place, rfl⟩
    | inl point =>
        obtain ⟨next, later, accessed⟩ :=
          terminating.proceeds asked _ point _ (represents.reaches place)
        exact ⟨_, _, .access place accessed, rfl⟩
  cases place : machine.place thread with
  | outside control =>
      rw [place] at busy
      cases busy
  | inside control asked at_ => exact insider place
  | waiting control asked =>
      cases owner : machine.owner with
      | none => exact ⟨_, _, .lock place owner, rfl⟩
      | some other =>
          obtain ⟨held, at_, requested, here, _⟩ := represents.held other owner
          cases placeOther : machine.place other with
          | outside control =>
              rw [placeOther] at here
              cases here
          | waiting control held =>
              rw [placeOther] at here
              cases here
          | inside control held at_ => exact insider placeOther

/-- A step of another thread leaves the owner of the lock where it is. -/
theorem Represents.frame (represents : Represents program machine atomic) {at_ : π ⊕ β}
    (place : machine.place thread = .inside control request at_)
    {label : Thread × Event ρ β} {after : Machine Thread σ κ ρ π β}
    (stepped : Machine.Step program machine label after) (different : label.1 ≠ thread) :
    after.place thread = machine.place thread ∧ after.shared = machine.shared := by
  have owner := represents.owner_of_inside place
  cases stepped with
  | own | call => exact ⟨Machine.place_put_of_ne _ _ different.symm, rfl⟩
  | lock _ free =>
      rw [owner] at free
      cases free
  | access placeOther _ => exact absurd (represents.exclusion placeOther place) different
  | unlock placeOther => exact absurd (represents.exclusion placeOther place) different

/-- However the threads are interleaved, a thread makes no more accesses before it
gives the lock back than the rank of the point where it is allows. -/
theorem Represents.accesses_le {start finish : Machine Thread σ κ ρ π β}
    {labels : List (Thread × Event ρ β)} (run : Run (Machine.Step program) start labels finish)
    (represents : Represents program start atomic) (terminating : program.Terminating rank)
    {at_ : π ⊕ β} (place : start.place thread = .inside control request at_)
    (keeps : ∀ asked result, (thread, Event.unlock asked result) ∉ labels) :
    labels.countP (fun label => decide (label.1 = thread) && label.2.goesOn) ≤
      at_.elim (fun point => rank point start.shared + 1) (fun _ => 0) := by
  induction run generalizing atomic at_ with
  | nil state => exact Nat.zero_le _
  | @cons start middle finish label labels stepped _rest ih =>
      obtain ⟨_, _, goesOn⟩ := represents.step stepped
      have later : ∀ asked result, (thread, Event.unlock asked result) ∉ labels := by
        intro asked result member
        exact keeps asked result (List.mem_cons_of_mem label member)
      rw [List.countP_cons]
      by_cases different : label.1 ≠ thread
      · obtain ⟨stays, same⟩ := represents.frame place stepped different
        have bounded := ih goesOn (stays.trans place) later
        rw [same] at bounded
        have uncounted : (decide (label.1 = thread) && label.2.goesOn) = false := by
          rw [decide_eq_false different, Bool.false_and]
        rw [uncounted]
        exact bounded
      · have same := of_not_not different
        cases stepped with
        | own outside _ | call outside _ =>
            simp only at same
            rw [same, place] at outside
            cases outside
        | lock waiting _ =>
            simp only at same
            rw [same, place] at waiting
            cases waiting
        | @unlock other _ asked result ended =>
            simp only at same
            rw [← same] at keeps
            exact absurd List.mem_cons_self (keeps asked result)
        | @access other controlOther asked point next shared inside accessed =>
            simp only at same
            subst same
            rw [place] at inside
            cases inside
            have bounded := ih goesOn (Machine.place_put_self _ other _) later
            have counted :
                (decide (other = other) && (Event.access : Event ρ β).goesOn) = true := by
              rw [decide_eq_true rfl]
              rfl
            rw [counted, if_pos rfl, Sum.elim_inl]
            cases next with
            | inr result =>
                simp only [Sum.elim_inr] at bounded
                omega
            | inl nearer =>
                have less := terminating.decreases request _ point _ nearer shared
                  (represents.reaches place) accessed
                simp only [Sum.elim_inl, Machine.put_shared] at bounded
                omega

end Progress

/-! ### Threads that know more -/

section Map

variable {κ' : Type}

def Place.map (f : κ → κ') : Place κ ρ π β → Place κ' ρ π β
  | outside control => .outside (f control)
  | waiting control request => .waiting (f control) request
  | inside control request at_ => .inside (f control) request at_

def Machine.map (f : κ → κ') (self : Machine Thread σ κ ρ π β) : Machine Thread σ κ' ρ π β :=
  { shared := self.shared, owner := self.owner, place := fun thread => (self.place thread).map f }

@[simp] theorem Place.control_map (f : κ → κ') (self : Place κ ρ π β) :
    (self.map f).control = f self.control := by
  cases self with
  | outside control => rfl
  | waiting control request => rfl
  | inside control request at_ => rfl

theorem Machine.map_put [DecidableEq Thread] (f : κ → κ') (self : Machine Thread σ κ ρ π β)
    (thread : Thread) (place : Place κ ρ π β) :
    (self.put thread place).map f = (self.map f).put thread (place.map f) := by
  simp only [Machine.map, Machine.put, Machine.mk.injEq, true_and]
  funext other
  by_cases same : other = thread
  · rw [same, Function.update_self, Function.update_self]
  · rw [Function.update_of_ne same, Function.update_of_ne same]

/-- The threads of one program are those of another whose control states tell less. -/
structure Program.Maps (program : Program σ κ ρ π β) (image : Program σ κ' ρ π β)
    (f : κ → κ') : Prop where
  own : ∀ control next, program.own control next →
    f next = f control ∨ image.own (f control) (f next)
  calls : ∀ control request, program.calls control request → image.calls (f control) request
  entry : ∀ request, image.entry request = program.entry request
  access : ∀ point now next later, program.access point now next later →
    image.access point now next later
  resume : ∀ control request result, program.calls control request →
    f (program.resume control request result) = image.resume (f control) request result

theorem Program.Maps.step [DecidableEq Thread] {program : Program σ κ ρ π β}
    {image : Program σ κ' ρ π β} {f : κ → κ'} (maps : program.Maps image f)
    {before after : Machine Thread σ κ ρ π β} {atomic : Atomic Thread σ κ}
    {label : Thread × Event ρ β} (represents : Represents program before atomic)
    (stepped : Machine.Step program before label after) :
    after.map f = before.map f ∨ Machine.Step image (before.map f) label (after.map f) := by
  have mapped : ∀ {thread : Thread} {place : Place κ ρ π β}, before.place thread = place →
      (before.map f).place thread = place.map f := by
    intro thread place at_
    rw [← at_]
    rfl
  cases stepped with
  | @own thread control next place moved =>
      rw [Machine.map_put]
      rcases maps.own control next moved with same | moves
      · left
        rw [Place.map, same]
        simp only [Machine.put, Machine.map, Machine.mk.injEq, true_and]
        exact Function.update_eq_self_iff.mpr (by rw [place]; rfl)
      · exact .inr (.own (mapped place) moves)
  | call place calls =>
      rw [Machine.map_put]
      exact .inr (.call (mapped place) (maps.calls _ _ calls))
  | lock place free =>
      rw [Machine.map_put]
      right
      have stepped : Machine.Step image (before.map f) _ _ := .lock (mapped place) free
      rw [maps.entry] at stepped
      exact stepped
  | access place accessed =>
      rw [Machine.map_put]
      exact .inr (.access (mapped place) (maps.access _ _ _ _ accessed))
  | @unlock thread control request result place =>
      rw [Machine.map_put]
      right
      rw [Place.map, maps.resume control request result (represents.calls_of_inside place)]
      exact .unlock (mapped place)

theorem Program.Maps.run [DecidableEq Thread] {program : Program σ κ ρ π β}
    {image : Program σ κ' ρ π β} {f : κ → κ'} (maps : program.Maps image f)
    {start finish : Machine Thread σ κ ρ π β} {atomic : Atomic Thread σ κ}
    {labels : List (Thread × Event ρ β)} (run : Run (Machine.Step program) start labels finish)
    (represents : Represents program start atomic) :
    ∃ mapped, Run (Machine.Step image) (start.map f) mapped (finish.map f) := by
  have reached : (∃ atomic, Represents program finish atomic) ∧
      ∃ mapped, Run (Machine.Step image) (start.map f) mapped (finish.map f) := by
    refine run.invariant (fun machine => (∃ atomic, Represents program machine atomic) ∧
      ∃ mapped, Run (Machine.Step image) (start.map f) mapped (machine.map f)) ?_
      ⟨⟨atomic, represents⟩, [], .nil _⟩
    intro before label after known stepped
    obtain ⟨⟨atomic, represents⟩, mapped, ran⟩ := known
    obtain ⟨next, _, stillRepresents⟩ := represents.step stepped
    refine ⟨⟨next, stillRepresents⟩, ?_⟩
    rcases maps.step represents stepped with same | moved
    · rw [same]
      exact ⟨mapped, ran⟩
    · exact ⟨mapped ++ [label], ran.append (.single moved)⟩
  exact reached.2

end Map

end Foundation.Locking
