/-
Which options are handed to their setters.

`apply_pending_options()` is to try each option that was pending once. What its
loop comes to is decided by what the setters would answer, asked in turn.
`set_option_default()` is to leave a setting alone that the driver already has.
-/

import LibTabula.DriverOptions

set_option autoImplicit false

namespace LibTabula

open Foundation

/-- The setter answers, but neither that the option is set nor that it must wait. -/
def Handing.Fails (call : Handing) : Prop :=
  call.answer ≠ none ∧ call.answer ≠ some .none ∧ call.answer ≠ some .disconnected

namespace OptionDriver

variable {σ : Type} (setters : Setters σ)

/-- The answers, if the setters of some options were asked one after the other. -/
def inTurn (connected : Bool) : List OptionPtr → σ → List Handing
  | [], _ => []
  | o :: rest, world =>
      { option := o, connected := connected, answer := (setters o connected world).1 } ::
        inTurn connected rest (setters o connected world).2

/-- Asked in turn, each option gets its one call: it is an option when its turn
comes, it does not have to wait, one that throws has none behind it, and neither has
one that fails if the caller wants to quit; if he does not, one that fails needs one
that throws behind it. -/
structure EachCalled (quit failedBefore : Bool) (deleted : List OptionPtr)
    (calls : List Handing) : Prop where
  alive : ∀ call ∈ calls, call.option ≠ 0 ∧ call.option ∉ deleted
  notQueued : ∀ call ∈ calls, call.answer ≠ some .disconnected
  throwsLast : calls.Pairwise (fun earlier _ => earlier.answer ≠ none)
  failed : calls.Pairwise
    (fun earlier later => earlier.Fails → quit = false ∧ later.option ≠ earlier.option)
  goesOn : quit = false →
    (failedBefore = false ∧ ∀ call ∈ calls, ¬ call.Fails) ∨ ∃ call ∈ calls, call.answer = none

namespace EachCalled

variable {quit failedBefore : Bool} {deleted : List OptionPtr} {call : Handing}
  {calls : List Handing}

theorem nil_iff : EachCalled quit failedBefore deleted [] ↔
    (quit = false → failedBefore = false) := by
  constructor
  · intro each noQuit
    rcases each.goesOn noQuit with ⟨clean, _⟩ | ⟨last, impossible, _⟩
    · exact clean
    · cases impossible
  · intro clean
    exact ⟨nofun, nofun, List.Pairwise.nil, List.Pairwise.nil, fun noQuit =>
      Or.inl ⟨clean noQuit, nofun⟩⟩

theorem head_alive (each : EachCalled quit failedBefore deleted (call :: calls)) :
    call.option ≠ 0 ∧ call.option ∉ deleted :=
  each.alive call List.mem_cons_self

theorem not_queued (answer : call.answer = some .disconnected) :
    ¬ EachCalled quit failedBefore deleted (call :: calls) := fun each =>
  each.notQueued call List.mem_cons_self answer

theorem applied_iff (alive : call.option ≠ 0 ∧ call.option ∉ deleted)
    (answer : call.answer = some .none) :
    EachCalled quit failedBefore deleted (call :: calls) ↔
      EachCalled quit failedBefore deleted calls := by
  have succeeds : ¬ call.Fails := fun fails => fails.2.1 answer
  have answers : call.answer ≠ none := by rw [answer]; nofun
  constructor
  · intro each
    refine ⟨fun later member => each.alive later (List.mem_cons_of_mem call member),
      fun later member => each.notQueued later (List.mem_cons_of_mem call member),
      (List.pairwise_cons.mp each.throwsLast).2, (List.pairwise_cons.mp each.failed).2,
      fun noQuit => ?_⟩
    rcases each.goesOn noQuit with ⟨clean, none⟩ | ⟨last, member, throws⟩
    · exact Or.inl ⟨clean, fun later member => none later (List.mem_cons_of_mem call member)⟩
    · rcases List.mem_cons.mp member with rfl | behind
      · exact absurd throws answers
      · exact Or.inr ⟨last, behind, throws⟩
  · intro each
    refine ⟨List.forall_mem_cons.mpr ⟨alive, each.alive⟩,
      List.forall_mem_cons.mpr ⟨by rw [answer]; nofun, each.notQueued⟩,
      List.pairwise_cons.mpr ⟨fun _ _ => answers, each.throwsLast⟩,
      List.pairwise_cons.mpr ⟨fun _ _ fails => absurd fails succeeds, each.failed⟩,
      fun noQuit => ?_⟩
    rcases each.goesOn noQuit with ⟨clean, none⟩ | ⟨last, member, throws⟩
    · exact Or.inl ⟨clean, List.forall_mem_cons.mpr ⟨succeeds, none⟩⟩
    · exact Or.inr ⟨last, List.mem_cons_of_mem call member, throws⟩

theorem thrown_iff (alive : call.option ≠ 0 ∧ call.option ∉ deleted)
    (answer : call.answer = none) :
    EachCalled quit failedBefore deleted (call :: calls) ↔ calls = [] := by
  constructor
  · intro each
    refine List.eq_nil_iff_forall_not_mem.mpr fun later member => ?_
    exact (List.pairwise_cons.mp each.throwsLast).1 later member answer
  · intro same
    subst same
    refine ⟨List.forall_mem_singleton.mpr alive, List.forall_mem_singleton.mpr ?_,
      List.pairwise_singleton _ _, List.pairwise_singleton _ _, fun _ => ?_⟩
    · rw [answer]
      nofun
    · exact Or.inr ⟨call, List.mem_cons_self, answer⟩

theorem failed_quit_iff (alive : call.option ≠ 0 ∧ call.option ∉ deleted)
    (fails : call.Fails) :
    EachCalled true failedBefore deleted (call :: calls) ↔ calls = [] := by
  constructor
  · intro each
    refine List.eq_nil_iff_forall_not_mem.mpr fun later member => ?_
    exact Bool.noConfusion ((List.pairwise_cons.mp each.failed).1 later member fails).1
  · intro same
    subst same
    exact ⟨List.forall_mem_singleton.mpr alive, List.forall_mem_singleton.mpr fails.2.2,
      List.pairwise_singleton _ _, List.pairwise_singleton _ _, nofun⟩

theorem failed_goesOn_iff (alive : call.option ≠ 0 ∧ call.option ∉ deleted)
    (fails : call.Fails) :
    EachCalled false failedBefore deleted (call :: calls) ↔
      EachCalled false true (deleted ++ [call.option]) calls := by
  constructor
  · intro each
    obtain ⟨apart, failed⟩ := List.pairwise_cons.mp each.failed
    refine ⟨fun later member => ?_,
      fun later member => each.notQueued later (List.mem_cons_of_mem call member),
      (List.pairwise_cons.mp each.throwsLast).2, failed, fun noQuit => ?_⟩
    · obtain ⟨notNull, kept⟩ := each.alive later (List.mem_cons_of_mem call member)
      refine ⟨notNull, ?_⟩
      rw [List.mem_append, List.mem_singleton, not_or]
      exact ⟨kept, (apart later member fails).2⟩
    · rcases each.goesOn noQuit with ⟨_, none⟩ | ⟨last, member, throws⟩
      · exact absurd fails (none call List.mem_cons_self)
      · rcases List.mem_cons.mp member with rfl | behind
        · exact absurd throws fails.1
        · exact Or.inr ⟨last, behind, throws⟩
  · intro each
    refine ⟨List.forall_mem_cons.mpr ⟨alive, fun later member => ?_⟩,
      List.forall_mem_cons.mpr ⟨fails.2.2, each.notQueued⟩,
      List.pairwise_cons.mpr ⟨fun _ _ => fails.1, each.throwsLast⟩,
      List.pairwise_cons.mpr ⟨fun later member _ => ⟨rfl, ?_⟩, each.failed⟩, fun noQuit => ?_⟩
    · obtain ⟨notNull, kept⟩ := each.alive later member
      exact ⟨notNull, fun gone => kept (List.mem_append_left _ gone)⟩
    · intro same
      exact (each.alive later member).2
        (List.mem_append_right _ (List.mem_singleton.mpr same))
    · rcases each.goesOn noQuit with ⟨impossible, _⟩ | ⟨last, member, throws⟩
      · exact Bool.noConfusion impossible
      · exact Or.inr ⟨last, List.mem_cons_of_mem call member, throws⟩

end EachCalled

/-! ### One call -/

section OneCall

variable {setters} {o : OptionPtr} {self : OptionDriver σ}

theorem setOption_dead (dead : ¬ (o ≠ 0 ∧ o ∉ self.deleted)) :
    (setOption setters o).run self = .error .undefined self := by
  have start : (get : EStateM OptionFailure (OptionDriver σ) _).run self = .ok self self := rfl
  have bad : o = 0 ∨ o ∈ self.deleted := by
    by_contra fine
    exact dead ⟨fun null => fine (Or.inl null), fun gone => fine (Or.inr gone)⟩
  rw [setOption, run_bind_of_ok start, if_pos bad]
  rfl

theorem setOption_alive (alive : o ≠ 0 ∧ o ∉ self.deleted) :
    (setOption setters o).run self =
      match (setters o self.isConnected self.world).1 with
      | some .none => .ok true ((self.called setters o).keepApplied o)
      | some .disconnected => .ok true ((self.called setters o).enqueue o)
      | some _ => .ok false ((self.called setters o).delete o)
      | none => .error .thrown ((self.called setters o).delete o) := by
  have start : (get : EStateM OptionFailure (OptionDriver σ) _).run self = .ok self self := rfl
  have fine : ¬ (o = 0 ∨ o ∈ self.deleted) := by
    intro either
    rcases either with null | gone
    · exact alive.1 null
    · exact alive.2 gone
  rw [setOption, run_bind_of_ok start, if_neg fine]
  cases (setters o self.isConnected self.world).1 with
  | none => rfl
  | some error => cases error <;> rfl

variable (setters o self) in
/-- The call that is made when it is the option's turn. -/
def nextCall : Handing :=
  { option := o, connected := self.isConnected
    answer := (setters o self.isConnected self.world).1 }

theorem setOption_fails (alive : o ≠ 0 ∧ o ∉ self.deleted)
    (fails : (nextCall setters o self).Fails) :
    (setOption setters o).run self = .ok false ((self.called setters o).delete o) := by
  rw [setOption_alive alive]
  obtain ⟨answers, notApplied, notQueued⟩ := fails
  simp only [nextCall] at answers notApplied notQueued
  cases answer : (setters o self.isConnected self.world).1 with
  | none => exact absurd answer answers
  | some error =>
      cases error with
      | none => exact absurd answer notApplied
      | disconnected => exact absurd answer notQueued
      | apiLimit | apiReject | connected => rfl

end OneCall

/-! ### The loop -/

/-- The options that were handed to their setters, in order. -/
def handedOptions (self : OptionDriver σ) : List OptionPtr := self.handed.map Handing.option

/-- The loop hands over what it has to do, and its failed options still fit. -/
def LoopCalls (quit : Bool) (fits : Nat) (todo failed : List OptionPtr)
    (self : OptionDriver σ) : Prop :=
  ((applyLoop setters quit todo failed).run self).outcome ≠ .error .undefined ∧
    ((applyLoop setters quit todo failed).run self).final.handedOptions =
      self.handedOptions ++ todo ∧
    ∀ all, ((applyLoop setters quit todo failed).run self).outcome = .ok (some all) →
      all.length ≤ fits

theorem handedOptions_called (o : OptionPtr) (self : OptionDriver σ) :
    (self.called setters o).handedOptions = self.handedOptions ++ [o] :=
  List.map_append

/-- A call that goes on with the rest. -/
theorem loopCalls_cons {quit : Bool} {fits : Nat} {o : OptionPtr}
    {rest failed moreFailed : List OptionPtr} {self after : OptionDriver σ}
    (ran : (applyLoop setters quit (o :: rest) failed).run self =
      (applyLoop setters quit rest moreFailed).run after)
    (handed : after.handedOptions = self.handedOptions ++ [o]) :
    LoopCalls setters quit fits (o :: rest) failed self ↔
      LoopCalls setters quit fits rest moreFailed after := by
  unfold LoopCalls
  rw [ran, handed, List.append_assoc, List.singleton_append]

/-- A call that ends the loop, but not with a list of failed options. -/
theorem loopCalls_ended {quit : Bool} {fits : Nat} {o : OptionPtr}
    {rest failed : List OptionPtr} {self : OptionDriver σ}
    {ended : EStateM.Result OptionFailure (OptionDriver σ) (Option (List OptionPtr))}
    (ran : (applyLoop setters quit (o :: rest) failed).run self = ended)
    (defined : ended.outcome ≠ .error .undefined)
    (early : ∀ all, ended.outcome ≠ .ok (some all))
    (handed : ended.final.handedOptions = self.handedOptions ++ [o]) :
    LoopCalls setters quit fits (o :: rest) failed self ↔ rest = [] := by
  unfold LoopCalls
  rw [ran, handed]
  constructor
  · intro found
    obtain ⟨_, same, _⟩ := found
    have sizes := congrArg List.length same
    rw [List.length_append, List.length_append, List.length_singleton, List.length_cons] at sizes
    exact List.eq_nil_of_length_eq_zero (by omega)
  · intro equal
    subst equal
    exact ⟨defined, rfl, fun all full => absurd full (early all)⟩

/-- A call with an option that is not there. -/
theorem not_loopCalls {quit : Bool} {fits : Nat} {todo failed : List OptionPtr}
    {self after : OptionDriver σ}
    (ran : (applyLoop setters quit todo failed).run self = .error .undefined after) :
    ¬ LoopCalls setters quit fits todo failed self := by
  intro both
  obtain ⟨defined, _⟩ := both
  rw [ran] at defined
  exact defined rfl

/-- Nothing is left to do: what failed fits if nothing failed. -/
theorem loopCalls_nil {quit failedBefore : Bool} {fits : Nat} {failed : List OptionPtr}
    {self : OptionDriver σ} (clean : failed.length ≤ fits ↔ failedBefore = false)
    (noneFailed : quit = true → failedBefore = false) :
    LoopCalls setters quit fits [] failed self ↔
      EachCalled quit failedBefore self.deleted [] := by
  have ran : (applyLoop setters quit [] failed).run self = .ok (some failed) self := by
    rw [applyLoop]
    rfl
  unfold LoopCalls
  rw [ran, EachCalled.nil_iff, List.append_nil]
  constructor
  · rintro ⟨_, _, full⟩ _
    exact clean.mp (full failed rfl)
  · intro noQuit
    refine ⟨ok_ne_error, rfl, ?_⟩
    intro all impossible
    cases impossible
    cases quit with
    | true => exact clean.mpr (noneFailed rfl)
    | false => exact clean.mpr (noQuit rfl)

theorem inTurn_eq_nil_iff (connected : Bool) (todo : List OptionPtr) (world : σ) :
    inTurn setters connected todo world = [] ↔ todo = [] := by
  cases todo with
  | nil => exact iff_of_true rfl rfl
  | cons o rest => exact iff_of_false (List.cons_ne_nil _ _) (List.cons_ne_nil o rest)

/-- Induction on what the loop has to do; `failed` is full from the first failure on. -/
theorem loopCalls_iff (quit : Bool) (fits : Nat) (todo : List OptionPtr) :
    ∀ (failed : List OptionPtr) (failedBefore : Bool) (self : OptionDriver σ),
      fits ≤ failed.length → (failed.length ≤ fits ↔ failedBefore = false) →
      (quit = true → failedBefore = false) →
      (LoopCalls setters quit fits todo failed self ↔
        EachCalled quit failedBefore self.deleted
          (inTurn setters self.isConnected todo self.world)) := by
  induction todo with
  | nil =>
      intro failed failedBefore self _ clean noneFailed
      exact loopCalls_nil setters clean noneFailed
  | cons o rest ih =>
      intro failed failedBefore self full clean noneFailed
      rw [inTurn]
      by_cases alive : o ≠ 0 ∧ o ∉ self.deleted
      · have ran : (setOption setters o).run self = _ := setOption_alive alive
        have handed := handedOptions_called setters o self
        change LoopCalls _ _ _ _ _ _ ↔ EachCalled _ _ _ (nextCall setters o self :: _)
        by_cases throws : (nextCall setters o self).answer = none
        · rw [show (setters o self.isConnected self.world).1 = none from throws] at ran
          have defined : (.error .thrown : Except OptionFailure (Option (List OptionPtr))) ≠
              .error .undefined := by decide
          rw [loopCalls_ended setters (applyLoop_stop setters ran) defined
              (fun _ => error_ne_ok) handed,
            EachCalled.thrown_iff alive throws, inTurn_eq_nil_iff]
        by_cases applied : (nextCall setters o self).answer = some .none
        · rw [show (setters o self.isConnected self.world).1 = some .none from applied] at ran
          rw [loopCalls_cons setters (applyLoop_step setters ran rfl) handed,
            EachCalled.applied_iff alive applied]
          exact ih failed failedBefore _ full clean noneFailed
        by_cases queued : (nextCall setters o self).answer = some .disconnected
        · rw [show (setters o self.isConnected self.world).1 = some .disconnected
            from queued] at ran
          have longer : ((self.called setters o).enqueue o).pending.length ≠
              self.pending.length := by
            simp [enqueue, called]
          exact iff_of_false (not_loopCalls setters (applyLoop_queued setters ran longer))
            (EachCalled.not_queued queued)
        have fails : (nextCall setters o self).Fails := ⟨throws, applied, queued⟩
        have step (quit : Bool) : (applyLoop setters quit (o :: rest) failed).run self = _ :=
          applyLoop_step setters (setOption_fails alive fails) rfl
        cases quit with
        | true =>
            have early : ∀ all, (.ok none : Except OptionFailure (Option (List OptionPtr))) ≠
                .ok (some all) := by
              intro all same
              cases same
            rw [loopCalls_ended setters (step true) ok_ne_error early handed,
              EachCalled.failed_quit_iff alive fails, inTurn_eq_nil_iff]
        | false =>
            rw [loopCalls_cons setters (step false) handed,
              EachCalled.failed_goesOn_iff alive fails]
            have longer : fits < (failed ++ [o]).length := by
              rw [List.length_append, List.length_singleton]
              omega
            exact ih (failed ++ [o]) true _ (Nat.le_of_lt longer)
              (iff_of_false (Nat.not_le.mpr longer) (by decide))
              (fun impossible => absurd impossible Bool.false_ne_true)
      · have ran : (applyLoop setters quit (o :: rest) failed).run self =
            .error .undefined self :=
          applyLoop_stop setters (setOption_dead alive)
        exact iff_of_false (not_loopCalls setters ran) fun each => alive each.head_alive

/-- What is copied back has to fit; that calls no setter. -/
theorem keepFailed_fits (all : List OptionPtr) (self : OptionDriver σ) :
    ((keepFailed all).run self).final.handedOptions = self.handedOptions ∧
      (((keepFailed all).run self).outcome ≠ .error .undefined ↔
        all.length ≤ self.pending.length) := by
  have start : (get : EStateM OptionFailure (OptionDriver σ) _).run self = .ok self self := rfl
  rw [keepFailed, run_bind_of_ok start]
  by_cases none : all = []
  · rw [if_pos none]
    exact ⟨rfl, fun _ => by rw [none]; exact Nat.zero_le _, fun _ => ok_ne_error⟩
  · rw [if_neg none]
    by_cases fits : all.length ≤ self.pending.length
    · rw [if_pos fits]
      exact ⟨rfl, fun _ => fits, fun _ => ok_ne_error⟩
    · rw [if_neg fits]
      exact ⟨rfl, fun defined => absurd rfl defined, fun small => absurd small fits⟩

/-- What is expected of `apply_pending_options()`: it comes to an end, and the options
handed to their setters on the way are those that were pending, each once. -/
def TriesEachOnce (quit : Bool) (self : OptionDriver σ) : Prop :=
  ((applyPendingOptions setters quit).run self).outcome ≠ .error .undefined ∧
    ((applyPendingOptions setters quit).run self).final.handedOptions =
      self.handedOptions ++ self.pending

theorem triesEachOnce_iff_loopCalls (quit : Bool) (self : OptionDriver σ) :
    TriesEachOnce setters quit self ↔
      LoopCalls setters quit self.pending.length self.pending
        (List.replicate self.pending.length 0) self.clearError := by
  have start : (get : EStateM OptionFailure (OptionDriver σ) _).run self = .ok self self := rfl
  have cleared : (set self.clearError : EStateM OptionFailure (OptionDriver σ) PUnit).run self =
      .ok () self.clearError := rfl
  unfold TriesEachOnce LoopCalls
  rw [applyPendingOptions, run_bind_of_ok start, run_bind_of_ok cleared]
  cases ran : (applyLoop setters quit self.pending
      (List.replicate self.pending.length 0)).run self.clearError with
  | error failure after =>
      rw [run_bind_of_error ran]
      cases failure with
      | thrown =>
          have defined : (.error .thrown : Except OptionFailure (Option (List OptionPtr))) ≠
              .error .undefined := by decide
          have definedToo : (.error .thrown : Except OptionFailure Bool) ≠
              .error .undefined := by decide
          constructor
          · intro tries
            exact ⟨defined, tries.2, fun _ full => absurd full error_ne_ok⟩
          · intro calls
            exact ⟨definedToo, calls.2.1⟩
      | undefined => exact ⟨fun tries => absurd rfl tries.1, fun calls => absurd rfl calls.1⟩
  | ok looped after =>
      rw [run_bind_of_ok ran]
      cases looped with
      | none =>
          constructor
          · intro tries
            refine ⟨ok_ne_error, tries.2, ?_⟩
            intro all full
            cases full
          · intro calls
            exact ⟨ok_ne_error, calls.2.1⟩
      | some all =>
          have kept : after.pending = self.pending := by
            rcases applyLoop_cases setters quit self.pending
                (List.replicate self.pending.length 0) self.clearError with
              undefined | ⟨stopped, _⟩ | ⟨_, _, same⟩
            · rw [ran] at undefined
              cases undefined
            · rw [ran] at stopped
              rcases stopped with impossible | impossible <;> cases impossible
            · rw [ran] at same
              exact same
          obtain ⟨handed, fits⟩ := keepFailed_fits all after
          rw [kept] at fits
          change (((keepFailed all).run after).outcome ≠ _ ∧
            ((keepFailed all).run after).final.handedOptions = _) ↔ _
          rw [handed, fits]
          constructor
          · intro both
            obtain ⟨small, tried⟩ := both
            refine ⟨ok_ne_error, tried, ?_⟩
            intro _ impossible
            cases impossible
            exact small
          · intro found
            obtain ⟨_, tried, small⟩ := found
            exact ⟨small all rfl, tried⟩

/-- For every list of pending options and every behaviour of their setters. -/
theorem triesEachOnce_iff (quit : Bool) (self : OptionDriver σ) :
    TriesEachOnce setters quit self ↔
      EachCalled quit false self.deleted
        (inTurn setters self.isConnected self.pending self.world) := by
  rw [triesEachOnce_iff_loopCalls]
  refine loopCalls_iff setters quit _ _ _ false self.clearError ?_ ?_ (fun _ => rfl)
  · exact Nat.le_of_eq List.length_replicate.symm
  · rw [List.length_replicate]
    exact ⟨fun _ => rfl, fun _ => Nat.le_refl _⟩

/-- An option that cannot be set yet, however often it is asked. -/
theorem waiting_option_not_tried_once :
    let queued := ((setOption connectedOnly 7).run (new ())).final
    queued.pending = [7] ∧ ¬ TriesEachOnce connectedOnly true queued ∧
      ((applyPendingOptions connectedOnly true).run queued).outcome = .error .undefined := by
  refine ⟨by decide +kernel, ?_, by decide +kernel⟩
  intro both
  obtain ⟨defined, _⟩ := both
  exact defined (by decide +kernel)

/-! ### Defaults -/

/-- The types that `typeid` can name here: that of the pointers, and the leaf classes
of the objects. -/
inductive TypeInfo (κ : Type) where
  | optionPointer
  | leaf (class_ : κ)
deriving DecidableEq, Repr

/-- `typeid` of an expression of type `Option*`; a pointer is no object of a class with
virtual functions, so this is its static type. -/
def typeidOfPointer (κ : Type) (_ : OptionPtr) : TypeInfo κ := .optionPointer

/-- `delete`: a null pointer is passed over. -/
def deleteOption (o : OptionPtr) : EStateM OptionFailure (OptionDriver σ) PUnit := do
  let self ← get
  if o ∈ self.deleted then throw .undefined
  if o ≠ 0 then set (self.delete o)

/-- `set_option_default()`; the loop goes over the options that are applied. -/
def setOptionDefault (κ : Type) [DecidableEq κ] (o : OptionPtr) :
    EStateM OptionFailure (OptionDriver σ) Bool := do
  let ti := typeidOfPointer κ o
  let self ← get
  if self.applied.any (fun it => typeidOfPointer κ it = ti) then do
    deleteOption o
    pure true
  else setOption setters o

variable {κ : Type} [DecidableEq κ]

/-- What is expected of it: an option of a class that has been applied is deleted and
nothing else changes, any other is set. -/
def KeepsApplied (classOf : OptionPtr → κ) (o : OptionPtr) (self : OptionDriver σ) : Prop :=
  ((∃ it ∈ self.applied, classOf it = classOf o) →
    (setOptionDefault setters κ o).run self = .ok true (self.delete o)) ∧
  ((¬ ∃ it ∈ self.applied, classOf it = classOf o) →
    (setOptionDefault setters κ o).run self = (setOption setters o).run self)

/-- As soon as anything is applied, the option is deleted. -/
theorem setOptionDefault_run {o : OptionPtr} {self : OptionDriver σ}
    (alive : o ≠ 0 ∧ o ∉ self.deleted) :
    (setOptionDefault setters κ o).run self =
      if self.applied = [] then (setOption setters o).run self
      else .ok true (self.delete o) := by
  have start : (get : EStateM OptionFailure (OptionDriver σ) _).run self = .ok self self := rfl
  rw [setOptionDefault, run_bind_of_ok start]
  cases applied : self.applied with
  | nil => rfl
  | cons first rest =>
      have deleted : (deleteOption o).run self = .ok PUnit.unit (self.delete o) := by
        rw [deleteOption, run_bind_of_ok start, if_neg alive.2, if_pos alive.1]
        rfl
      have found : (first :: rest).any
          (fun it => typeidOfPointer κ it = typeidOfPointer κ o) = true := by
        rw [List.any_cons, typeidOfPointer, typeidOfPointer, decide_eq_true rfl, Bool.true_or]
      rw [if_pos found, run_bind_of_ok deleted, if_neg (List.cons_ne_nil first rest)]
      rfl

theorem keepsApplied_iff (classOf : OptionPtr → κ) (o : OptionPtr) (self : OptionDriver σ)
    (alive : o ≠ 0 ∧ o ∉ self.deleted) :
    KeepsApplied setters classOf o self ↔
      self.applied = [] ∨ ∃ it ∈ self.applied, classOf it = classOf o := by
  unfold KeepsApplied
  rw [setOptionDefault_run setters alive]
  by_cases nothing : self.applied = []
  · rw [if_pos nothing, nothing]
    refine ⟨fun _ => Or.inl rfl, fun _ => ⟨?_, fun _ => rfl⟩⟩
    intro given
    obtain ⟨_, impossible, _⟩ := given
    cases impossible
  · rw [if_neg nothing]
    constructor
    · intro both
      obtain ⟨_, otherwise⟩ := both
      by_contra neither
      have same := otherwise fun found => neither (Or.inr found)
      -- `set_option()` calls the setter, which a deletion does not
      have calls := congrArg (fun ran => ran.final.handed.length) same
      have grown : ((setOption setters o).run self).final.handed.length =
          self.handed.length + 1 := by
        rw [setOption_alive alive]
        cases (setters o self.isConnected self.world).1 with
        | none => exact List.length_append
        | some error => cases error <;> exact List.length_append
      rw [grown] at calls
      exact absurd calls (Nat.ne_of_lt (Nat.lt_succ_self _))
    · intro allowed
      exact ⟨fun _ => rfl, fun different => absurd (allowed.resolve_left nothing) different⟩

/-- The option 7 is of one class, and the others are of another. -/
def twoClasses (o : OptionPtr) : Bool := o = 7

def succeeding : Setters Unit := fun _ _ world => (some .none, world)

theorem keepsApplied_iff_applied :
    let applied := ((setOption succeeding 8).run (new ())).final
    applied.applied = [8] ∧ KeepsApplied succeeding twoClasses 9 applied ∧
      ¬ KeepsApplied succeeding twoClasses 7 applied := by
  intro applied
  have one : applied.applied = [8] := by decide +kernel
  have sameClass := keepsApplied_iff succeeding twoClasses 9 applied (by decide +kernel)
  have otherClass := keepsApplied_iff succeeding twoClasses 7 applied (by decide +kernel)
  rw [one] at sameClass otherClass
  exact ⟨one, sameClass.mpr (by decide), mt otherClass.mp (by decide)⟩

/-- With one option applied, one of another class is deleted instead of set. -/
theorem other_class_not_set :
    let applied := ((setOption succeeding 7).run (new ())).final
    applied.applied = [7] ∧ twoClasses 7 ≠ twoClasses 8 ∧
      ¬ KeepsApplied succeeding twoClasses 8 applied ∧
      ((setOptionDefault succeeding Bool 8).run applied).final.deleted = [8] := by
  refine ⟨by decide +kernel, by decide, ?_, by decide +kernel⟩
  intro both
  obtain ⟨_, otherwise⟩ := both
  have same := otherwise (by decide +kernel)
  exact absurd (congrArg (fun ran => ran.final.applied) same) (by decide +kernel)

end OptionDriver

end LibTabula
