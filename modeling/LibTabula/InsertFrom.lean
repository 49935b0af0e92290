/-
Inserting rows in batches.

`insertfrom` and `replacefrom` differ in one word. A policy says when a statement has
enough rows, an access controller surrounds the whole with a transaction. The rows are
objects that give texts. The loop is shown to be a work in batches, from which follows
what becomes of the rows and when the controller commits.
-/

import LibTabula.Foundation.Batching
import LibTabula.Transaction

set_option autoImplicit false

namespace LibTabula

open Foundation

/-- What a row gives for a statement, formatted as the stream formats it. -/
structure SSQLS (ρ : Type) where
  table : ρ → Bytes
  fieldList : ρ → Bytes
  valueList : ρ → Bytes

/-- `can_add`, with the policy's state. -/
structure InsertPolicy (ρ π : Type) where
  canAdd : Int → ρ → π → Bool × π

/-- The functions of an access controller that are called. -/
inductive ControllerCall
  | construct
  | commit
  | rollback
  | destroy
deriving DecidableEq, Repr

/-- What `insertfrom` works on, with what it has asked and called so far. -/
structure Insertion (δ ρ π : Type) where
  query : Query
  traffic : Traffic δ
  policy : π
  answers : List (ρ × Bool)
  calls : List ControllerCall

/-- The conversion of a stream position to `int`. -/
def intOf (position : Nat) : Int := (position + 2147483648) % 4294967296 - 2147483648

namespace Insertion

variable {δ ρ π κ : Type}

def session (self : Insertion δ ρ π) : Session δ :=
  { query := self.query, conn := self.traffic.connection }

def afterSession (self : Insertion δ ρ π) (session : Session δ) : Insertion δ ρ π :=
  { self with query := session.query, traffic := self.traffic.after .client session.conn }

def write (text : Bytes) : EStateM Failure (Insertion δ ρ π) Unit :=
  modify fun self => { self with query := self.query.write text }

def exec (driver : DBDriver δ) : EStateM Failure (Insertion δ ρ π) Bool :=
  onPart session afterSession (Session.exec driver)

/-- `policy.can_add(int(tellp()), *it)`. -/
def canAdd (policy : InsertPolicy ρ π) (it : ρ) : EStateM Failure (Insertion δ ρ π) Bool :=
  modifyGet fun self =>
    let answer := policy.canAdd (intOf self.query.sbuffer.length) it self.policy
    (answer.1, { self with policy := answer.2, answers := self.answers ++ [(it, answer.1)] })

def construct (controller : AccessController δ κ) : EStateM Failure (Insertion δ ρ π) κ := do
  modify fun self => { self with calls := self.calls ++ [.construct] }
  onPart traffic (fun self traffic => { self with traffic := traffic })
    (Traffic.on .controller controller.construct)

def callController (call : ControllerCall) (x : EStateM Failure (κ × Connection δ) Unit) :
    EStateM Failure (κ × Insertion δ ρ π) Unit := do
  modify fun self => (self.1, { self.2 with calls := self.2.calls ++ [call] })
  onPart (fun self => (self.1, self.2.traffic))
    (fun self after => (after.1, { self.2 with traffic := after.2 }))
    (Traffic.onWith .controller x)

def destroy (controller : AccessController δ κ) (self : κ × Insertion δ ρ π) :
    Insertion δ ρ π :=
  { self.2 with
    traffic := self.2.traffic.after .controller
      (controller.destroy (self.1, self.2.traffic.connection))
    calls := self.2.calls ++ [.destroy] }

/-- A block with an access controller, which is destroyed on every way out. -/
def withController (controller : AccessController δ κ) (ac : κ)
    (block : EStateM Failure (κ × Insertion δ ρ π) Unit) :
    EStateM Failure (Insertion δ ρ π) Unit := fun self =>
  match block.run (ac, self) with
  | .ok value after => .ok value (destroy controller after)
  | .error failure after => .error failure (destroy controller after)

/-- A part of such a block that leaves the access controller alone. -/
def besideController {α : Type} (x : EStateM Failure (Insertion δ ρ π) α) :
    EStateM Failure (κ × Insertion δ ρ π) α :=
  onPart Prod.snd (fun self after => (self.1, after)) x

end Insertion

section Inserting

variable {δ ρ π κ : Type} (rows : SSQLS ρ) (driver : DBDriver δ) (policy : InsertPolicy ρ π)

def statementBeginning (verb : Bytes) (it : ρ) : Bytes :=
  verb ++ ascii " INTO \x60" ++ rows.table it ++ ascii "\x60 (" ++ rows.fieldList it ++
    ascii ") VALUES ("

/-- The part of the loop body for a row that the policy has refused once, when nothing is
left in the statement; `next` is the rest of the loop. -/
def insertAlone (verb : Bytes) (it : ρ) (next : EStateM Failure (Insertion δ ρ π) (Bool × Bool)) :
    EStateM Failure (Insertion δ ρ π) (Bool × Bool) := do
  if ← Insertion.canAdd policy it then
    Insertion.write (statementBeginning rows verb it ++ (rows.valueList it ++ ascii ")"))
    next
  else
    let self ← get
    if self.query.throwExceptions then
      throw (.badInsertPolicy "Insert policy is too strict")
    else return (false, true)

/-- The loop, from the rows still ahead and the flag `empty`. What it returns are
`success` and `empty`. -/
def insertLoop (verb : Bytes) : List ρ → Bool → EStateM Failure (Insertion δ ρ π) (Bool × Bool)
  | [], empty => return (true, empty)
  | it :: rest, empty => do
      if ← Insertion.canAdd policy it then
        Insertion.write (if empty then statementBeginning rows verb it else ascii ",(")
        Insertion.write (rows.valueList it ++ ascii ")")
        insertLoop verb rest false
      else
        let executed ← if empty then pure true else Insertion.exec driver
        if executed then insertAlone rows policy verb it (insertLoop verb rest false)
        else return (false, false)

def finishAccess (controller : AccessController δ κ) (success : Bool) :
    EStateM Failure (κ × Insertion δ ρ π) Unit :=
  if success then Insertion.callController .commit controller.commit
  else Insertion.callController .rollback controller.rollback

def insertEnd (controller : AccessController δ κ) (success empty : Bool) :
    EStateM Failure (κ × Insertion δ ρ π) Unit := do
  let success ←
    if success && !empty then Insertion.besideController (Insertion.exec driver)
    else pure success
  finishAccess controller success

def insertBlock (controller : AccessController δ κ) (verb : Bytes) (items : List ρ) :
    EStateM Failure (κ × Insertion δ ρ π) Unit := do
  let (success, empty) ←
    Insertion.besideController (insertLoop rows driver policy verb items true)
  insertEnd driver controller success empty

/-- `insertfrom` and `replacefrom` up to their first word. -/
def insertRows (controller : AccessController δ κ) (verb : Bytes) (items : List ρ) :
    EStateM Failure (Insertion δ ρ π) Unit := do
  modify fun self => { self with query := self.query.reset }
  if items = [] then return
  let ac ← Insertion.construct controller
  Insertion.withController controller ac (insertBlock rows driver policy controller verb items)

def insertfrom (controller : AccessController δ κ) (items : List ρ) :
    EStateM Failure (Insertion δ ρ π) Unit :=
  insertRows rows driver policy controller (ascii "INSERT") items

def replacefrom (controller : AccessController δ κ) (items : List ρ) :
    EStateM Failure (Insertion δ ρ π) Unit :=
  insertRows rows driver policy controller (ascii "REPLACE") items

end Inserting

/-! ### Statements -/

section Statements

variable {ρ : Type} (rows : SSQLS ρ) (verb : Bytes)

def furtherRow (it : ρ) : Bytes := ascii ",(" ++ (rows.valueList it ++ ascii ")")

def statementText : List ρ → Bytes
  | [] => []
  | it :: more =>
      statementBeginning rows verb it ++ (rows.valueList it ++ ascii ")") ++
        (more.map (furtherRow rows)).flatten

theorem statementText_single (it : ρ) :
    statementText rows verb [it] =
      statementBeginning rows verb it ++ (rows.valueList it ++ ascii ")") := by
  rw [statementText, List.map_nil, List.flatten_nil, List.append_nil]

theorem statementText_append (pending : List ρ) (it : ρ) :
    statementText rows verb (pending ++ [it]) =
      statementText rows verb pending ++
        (if pending.isEmpty then statementBeginning rows verb it else ascii ",(") ++
          (rows.valueList it ++ ascii ")") := by
  cases pending with
  | nil => rw [List.nil_append, statementText_single]; rfl
  | cons first more =>
      simp only [statementText, List.cons_append, List.map_append, List.map_cons, List.map_nil,
        List.flatten_append, List.flatten_cons, List.flatten_nil, List.append_nil, furtherRow,
        List.isEmpty_cons, Bool.false_eq_true, if_false, List.append_assoc]

def batchStatement (batch : List ρ × Bool) : Statement :=
  { party := .client, sent := { text := statementText rows verb batch.1, ok := batch.2 } }

end Statements

/-! ### What the loop does -/

section Loop

variable {δ ρ π : Type} (rows : SSQLS ρ) {driver : DBDriver δ} {policy : InsertPolicy ρ π}
  (verb : Bytes)

/-- Some batches have been executed or refused, some answers given, and nothing else. -/
structure Progress (before after : Insertion δ ρ π) (batches : List (List ρ × Bool))
    (answers : List (ρ × Bool)) : Prop where
  statements : after.traffic.statements =
    before.traffic.statements ++ batches.map (batchStatement rows verb)
  answers : after.answers = before.answers ++ answers
  calls : after.calls = before.calls
  plain : before.query.parseElems = [] → after.query.parseElems = []
  flag : after.query.throwExceptions = before.query.throwExceptions

theorem Progress.refl (self : Insertion δ ρ π) : Progress rows verb self self [] [] where
  statements := (List.append_nil _).symm
  answers := (List.append_nil _).symm
  calls := rfl
  plain := id
  flag := rfl

theorem Progress.trans {rows : SSQLS ρ} {verb : Bytes} {before middle after : Insertion δ ρ π}
    {batches more : List (List ρ × Bool)} {answers further : List (ρ × Bool)}
    (first : Progress rows verb before middle batches answers)
    (second : Progress rows verb middle after more further) :
    Progress rows verb before after (batches ++ more) (answers ++ further) where
  statements := by
    rw [second.statements, first.statements, List.map_append, List.append_assoc]
  answers := by rw [second.answers, first.answers, List.append_assoc]
  calls := second.calls.trans first.calls
  plain := fun plain => second.plain (first.plain plain)
  flag := second.flag.trans first.flag

theorem Progress.write (self : Insertion δ ρ π) (text : Bytes) :
    Progress rows verb self { self with query := self.query.write text } [] [] where
  statements := (List.append_nil _).symm
  answers := (List.append_nil _).symm
  calls := rfl
  plain := id
  flag := rfl

/-- What the policy is asked when `pending` is in the statement. -/
def asks (policy : InsertPolicy ρ π) (verb : Bytes) (pending : List ρ) (it : ρ) : π → Bool × π :=
  policy.canAdd (intOf (statementText rows verb pending).length) it

/-- Progress with `pending` in the statement at first: the answers are the policy's, and
every batch was executed or refused by the driver. -/
structure Governed (driver : DBDriver δ) (policy : InsertPolicy ρ π) (verb : Bytes)
    (pending : List ρ) (before after : Insertion δ ρ π) (batches : List (List ρ × Bool))
    (given : List (ρ × Bool)) : Prop extends Progress rows verb before after batches given where
  follows : Follows (asks rows policy verb) before.policy pending given
  policy : after.policy = policyAfter (asks rows policy verb) before.policy pending given
  answered : ∀ batch ∈ batches,
    ∃ state, (driver.execute (statementText rows verb batch.1) state).1 = batch.2

variable {rows verb} in
theorem Governed.trans {pending : List ρ} {before middle after : Insertion δ ρ π}
    {batches more : List (List ρ × Bool)} {answers further : List (ρ × Bool)}
    (first : Governed rows driver policy verb pending before middle batches answers)
    (second : Governed rows driver policy verb (atHand pending answers) middle after more
      further) :
    Governed rows driver policy verb pending before after (batches ++ more)
      (answers ++ further) where
  toProgress := first.toProgress.trans second.toProgress
  follows := by
    rw [follows_append, ← first.policy]
    exact ⟨first.follows, second.follows⟩
  policy := by rw [second.policy, first.policy, policyAfter_append]
  answered := List.forall_mem_append.mpr ⟨first.answered, second.answered⟩

theorem Governed.refl (pending : List ρ) (self : Insertion δ ρ π) :
    Governed rows driver policy verb pending self self [] [] where
  toProgress := Progress.refl rows verb self
  follows := trivial
  policy := rfl
  answered := List.forall_mem_nil _

theorem Governed.write (pending : List ρ) (self : Insertion δ ρ π) (text : Bytes) :
    Governed rows driver policy verb pending self { self with query := self.query.write text }
      [] [] where
  toProgress := Progress.write rows verb self text
  follows := trivial
  policy := rfl
  answered := List.forall_mem_nil _

theorem canAdd_run (driver : DBDriver δ) (policy : InsertPolicy ρ π) (verb : Bytes) (it : ρ)
    {self : Insertion δ ρ π} {pending : List ρ}
    (buffer : self.query.sbuffer = statementText rows verb pending) :
    ∃ answer after, (Insertion.canAdd policy it).run self = .ok answer after ∧
      Governed rows driver policy verb pending self after [] [(it, answer)] ∧
      after.query.sbuffer = self.query.sbuffer := by
  refine ⟨_, _, rfl, ?_, rfl⟩
  constructor
  · constructor
    · exact (List.append_nil _).symm
    · rfl
    · rfl
    · exact id
    · rfl
  · rw [buffer]
    exact ⟨rfl, trivial⟩
  · rw [buffer]
    rfl
  · exact List.forall_mem_nil _

theorem Governed.exec (driver : DBDriver δ) (policy : InsertPolicy ρ π) (held : List ρ)
    (self : Insertion δ ρ π) (pending : List ρ) :
    Governed rows driver policy verb held self
      (self.afterSession (self.session.afterPlain driver (statementText rows verb pending)))
      [(pending, self.session.executes driver (statementText rows verb pending))] [] where
  statements := rfl
  answers := (List.append_nil _).symm
  calls := rfl
  plain := fun plain => by
    have sessionPlain : self.session.Plain := plain
    exact Session.afterPlain_plain driver sessionPlain (statementText rows verb pending)
  flag := Session.afterPlain_throwExceptions driver self.session (statementText rows verb pending)
  follows := trivial
  policy := rfl
  answered := List.forall_mem_singleton.mpr ⟨self.traffic.state, rfl⟩

theorem exec_run (driver : DBDriver δ) (policy : InsertPolicy ρ π) (held : List ρ)
    {self : Insertion δ ρ π} (plain : self.query.parseElems = []) {pending : List ρ}
    (buffer : self.query.sbuffer = statementText rows verb pending) :
    ∃ executed after,
      Governed rows driver policy verb held self after [(pending, executed)] [] ∧
      after.query.copacetic = executed ∧
      if executed then
        (Insertion.exec driver).run self = .ok true after ∧ after.query.sbuffer = []
      else if self.query.throwExceptions then
        ∃ failure, (Insertion.exec driver).run self = .error failure after
      else (Insertion.exec driver).run self = .ok false after := by
  have sessionPlain : self.session.Plain := plain
  have ran := Session.exec_run_plain driver sessionPlain
  have text : self.session.query.sbuffer = statementText rows verb pending := buffer
  have flag : self.session.query.throwExceptions = self.query.throwExceptions := rfl
  rw [text, flag] at ran
  refine ⟨_, _, Governed.exec rows verb driver policy held self pending,
    Session.afterPlain_copacetic driver self.session _, ?_⟩
  by_cases executed : self.session.executes driver (statementText rows verb pending) = true
  · rw [if_pos executed] at ran ⊢
    have emptied := Session.afterPlain_sbuffer driver self.session (statementText rows verb pending)
    rw [if_pos executed] at emptied
    exact ⟨run_onPart_of_ok _ ran, emptied⟩
  · rw [if_neg executed] at ran ⊢
    by_cases throws : self.query.throwExceptions = true
    · rw [if_pos throws] at ran ⊢
      exact ⟨_, run_onPart_of_error _ ran⟩
    · rw [if_neg throws] at ran ⊢
      exact run_onPart_of_ok _ ran

def LoopResult (throws : Bool) (left : List ρ) (after : Insertion δ ρ π)
    (result : EStateM.Result Failure (Insertion δ ρ π) (Bool × Bool)) : Ending → Prop
  | .complete =>
      result = .ok (true, left.isEmpty) after ∧ after.query.sbuffer = statementText rows verb left
  | .failed =>
      after.query.copacetic = false ∧
        if throws then ∃ failure, result = .error failure after
        else result = .ok (false, false) after
  | .refused =>
      if throws then ∃ failure, result = .error failure after
      else result = .ok (false, true) after

def Works (driver : DBDriver δ) (policy : InsertPolicy ρ π) (verb : Bytes)
    (pending rest : List ρ) (before : Insertion δ ρ π)
    (result : EStateM.Result Failure (Insertion δ ρ π) (Bool × Bool)) : Prop :=
  ∃ batches answers ending left after, Batches pending rest batches answers ending left ∧
    Governed rows driver policy verb pending before after batches answers ∧
    LoopResult rows verb before.query.throwExceptions left after result ending

theorem insertAlone_run (driver : DBDriver δ) (it : ρ) {self : Insertion δ ρ π}
    (emptied : self.query.sbuffer = [])
    (next : EStateM Failure (Insertion δ ρ π) (Bool × Bool)) :
    (∃ after, Governed rows driver policy verb [] self after [] [(it, true)] ∧
        after.query.sbuffer = statementText rows verb [it] ∧
        (insertAlone rows policy verb it next).run self = next.run after) ∨
      ∃ after, Governed rows driver policy verb [] self after [] [(it, false)] ∧
        LoopResult rows verb self.query.throwExceptions [] after
          ((insertAlone rows policy verb it next).run self) .refused := by
  have noText : self.query.sbuffer = statementText rows verb [] := emptied
  obtain ⟨answer, asked, ran, governed, buffer⟩ := canAdd_run rows driver policy verb it noText
  rw [insertAlone, run_bind_of_ok ran]
  cases answer with
  | true =>
      refine Or.inl ⟨_, governed.trans (Governed.write rows verb [it] asked _), ?_, rfl⟩
      change asked.query.sbuffer ++ _ = _
      rw [buffer, emptied, statementText_single, List.nil_append]
  | false =>
      refine Or.inr ⟨asked, governed, ?_⟩
      rw [if_neg Bool.false_ne_true, LoopResult, ← governed.flag]
      simp only [EStateM.run_bind, EStateM.run_get]
      cases asked.query.throwExceptions with
      | true => exact ⟨.badInsertPolicy "Insert policy is too strict", rfl⟩
      | false => rfl

theorem Works.after {rows : SSQLS ρ} {verb : Bytes} {pending rest : List ρ}
    {before middle : Insertion δ ρ π}
    {result : EStateM.Result Failure (Insertion δ ρ π) (Bool × Bool)} {pendingBefore : List ρ}
    {it : ρ} {batches : List (List ρ × Bool)} {answers : List (ρ × Bool)}
    (governed : Governed rows driver policy verb pendingBefore before middle batches answers)
    (held : atHand pendingBefore answers = pending)
    (works : Works rows driver policy verb pending rest middle result)
    (joins : ∀ more further ending left, Batches pending rest more further ending left →
      Batches pendingBefore (it :: rest) (batches ++ more) (answers ++ further) ending left) :
    Works rows driver policy verb pendingBefore (it :: rest) before result := by
  obtain ⟨more, further, ending, left, after, course, later, ended⟩ := works
  rw [governed.flag] at ended
  rw [← held] at later
  exact ⟨_, _, ending, left, after, joins more further ending left course,
    governed.trans later, ended⟩

theorem insertAlone_works {it : ρ} {rest pending : List ρ} {before flushed : Insertion δ ρ π}
    {batches : List (List ρ × Bool)} {next : EStateM Failure (Insertion δ ρ π) (Bool × Bool)}
    (governed : Governed rows driver policy verb pending before flushed batches [(it, false)])
    (plain : before.query.parseElems = []) (emptied : flushed.query.sbuffer = [])
    (goesOn : ∀ after, after.query.parseElems = [] →
      after.query.sbuffer = statementText rows verb [it] →
      Works rows driver policy verb [it] rest after (next.run after))
    (admits : ∀ more further ending left, Batches [it] rest more further ending left →
      Batches pending (it :: rest) (batches ++ more) ((it, false) :: (it, true) :: further)
        ending left)
    (refuses : Batches pending (it :: rest) batches [(it, false), (it, false)] .refused []) :
    Works rows driver policy verb pending (it :: rest) before
      ((insertAlone rows policy verb it next).run flushed) := by
  rcases insertAlone_run rows verb driver it emptied next with
    ⟨after, asked, text, ran⟩ | ⟨after, asked, ended⟩
  · have reached := governed.trans asked
    rw [List.append_nil] at reached
    rw [ran]
    exact (goesOn after (reached.plain plain) text).after reached rfl admits
  · have reached := governed.trans asked
    rw [List.append_nil] at reached
    rw [governed.flag] at ended
    exact ⟨batches, _, .refused, [], after, refuses, reached, ended⟩

/-- From rows at hand and rows ahead, the loop works off the rows in batches. -/
theorem insertLoop_works (driver : DBDriver δ) (policy : InsertPolicy ρ π) (verb : Bytes)
    (items : List ρ) (self : Insertion δ ρ π)
    (plain : self.query.parseElems = []) (pending : List ρ)
    (buffer : self.query.sbuffer = statementText rows verb pending) :
    Works rows driver policy verb pending items self
      ((insertLoop rows driver policy verb items pending.isEmpty).run self) := by
  induction items generalizing self pending with
  | nil =>
      exact ⟨[], [], .complete, pending, self, .done pending,
        Governed.refl rows verb pending self, rfl, buffer⟩
  | cons it rest ih =>
      have single : ∀ after : Insertion δ ρ π, after.query.parseElems = [] →
          after.query.sbuffer = statementText rows verb [it] →
          Works rows driver policy verb [it] rest after
            ((insertLoop rows driver policy verb rest false).run after) :=
        fun after afterPlain text => ih after afterPlain [it] text
      obtain ⟨answer, asked, ran, governed, askedBuffer⟩ :=
        canAdd_run rows driver policy verb it buffer
      have askedPlain := governed.plain plain
      rw [buffer] at askedBuffer
      rw [insertLoop, run_bind_of_ok ran]
      cases answer with
      | true =>
          let opening := if pending.isEmpty then statementBeginning rows verb it else ascii ",("
          have first : Governed rows driver policy verb (pending ++ [it]) asked
              { asked with query := asked.query.write opening } [] [] :=
            Governed.write rows verb (pending ++ [it]) asked opening
          have written := governed.trans (first.trans (Governed.write rows verb _ _
            (rows.valueList it ++ ascii ")")))
          have text := statementText_append rows verb pending it
          rw [← askedBuffer] at text
          have notEmpty : (pending ++ [it]).isEmpty = false := by simp
          have later := ih _ (written.plain plain) (pending ++ [it]) text.symm
          rw [notEmpty] at later
          exact later.after written rfl fun _ _ _ _ course => .admitted it course
      | false =>
          rw [if_neg Bool.false_ne_true]
          cases pending with
          | nil =>
              exact insertAlone_works rows verb governed plain askedBuffer single
                (fun _ _ _ _ course => .emptyAgain it course) (.emptyRefused it rest)
          | cons head more =>
              have some : head :: more ≠ [] := List.cons_ne_nil head more
              obtain ⟨executed, flushed, executing, copacetic, outcome⟩ :=
                exec_run rows verb driver policy [] askedPlain askedBuffer
              have reached := governed.trans executing
              cases executed with
              | true =>
                  obtain ⟨execRan, emptied⟩ := outcome
                  rw [List.isEmpty_cons, if_neg Bool.false_ne_true, run_bind_of_ok execRan]
                  exact insertAlone_works rows verb reached plain emptied single
                    (fun _ _ _ _ course => .flushed it some course)
                    (.flushedRefused it rest some)
              | false =>
                  refine ⟨_, _, .failed, _, flushed, .notTaken it rest some, reached, copacetic, ?_⟩
                  rw [List.isEmpty_cons, if_neg Bool.false_ne_true]
                  rw [if_neg Bool.false_ne_true, governed.flag] at outcome
                  cases throws : self.query.throwExceptions with
                  | true =>
                      rw [throws, if_pos rfl] at outcome
                      obtain ⟨failure, thrown⟩ := outcome
                      rw [run_bind_of_error thrown]
                      exact ⟨failure, rfl⟩
                  | false =>
                      rw [throws, if_neg Bool.false_ne_true] at outcome
                      rw [run_bind_of_ok outcome]
                      rfl

end Loop

/-! ### The whole insertion -/

section Whole

variable {δ ρ π κ : Type} (rows : SSQLS ρ) {driver : DBDriver δ} {policy : InsertPolicy ρ π}
  (verb : Bytes)

theorem insertBlock_of_ok {controller : AccessController δ κ} {items : List ρ} {ac : κ}
    {begun after : Insertion δ ρ π} {success empty : Bool}
    (looped : (insertLoop rows driver policy verb items true).run begun =
      .ok (success, empty) after) :
    (insertBlock rows driver policy controller verb items).run (ac, begun) =
      (insertEnd driver controller success empty).run (ac, after) := by
  have inner : (Insertion.besideController (insertLoop rows driver policy verb items true)).run
      (ac, begun) = .ok (success, empty) (ac, after) := run_onPart_of_ok _ looped
  rw [insertBlock, run_bind_of_ok inner]

theorem insertBlock_of_error {controller : AccessController δ κ} {items : List ρ} {ac : κ}
    {begun after : Insertion δ ρ π} {failure : Failure}
    (thrown : (insertLoop rows driver policy verb items true).run begun =
      .error failure after) :
    (insertBlock rows driver policy controller verb items).run (ac, begun) =
      .error failure (ac, after) := by
  have inner : (Insertion.besideController (insertLoop rows driver policy verb items true)).run
      (ac, begun) = .error failure (ac, after) := run_onPart_of_error _ thrown
  rw [insertBlock, run_bind_of_error inner]

/-- How the block ends: it throws, or its end is the last call of the access controller. -/
def BlockResult (controller : AccessController δ κ) (throws success : Bool)
    (after : κ × Insertion δ ρ π)
    (result : EStateM.Result Failure (κ × Insertion δ ρ π) Unit) : Prop :=
  throws = true ∧ success = false ∧ (∃ failure, result = .error failure after) ∨
    (success = true ∨ throws = false) ∧ result = (finishAccess controller success).run after

theorem insertBlock_failed {controller : AccessController δ κ} {items : List ρ} (ac : κ)
    {begun after : Insertion δ ρ π} {empty : Bool}
    (ended : if begun.query.throwExceptions then
        ∃ failure, (insertLoop rows driver policy verb items true).run begun =
          .error failure after
      else (insertLoop rows driver policy verb items true).run begun =
        .ok (false, empty) after) :
    BlockResult controller begun.query.throwExceptions false (ac, after)
      ((insertBlock rows driver policy controller verb items).run (ac, begun)) := by
  cases throws : begun.query.throwExceptions with
  | true =>
      rw [throws, if_pos rfl] at ended
      obtain ⟨failure, thrown⟩ := ended
      exact Or.inl ⟨rfl, rfl, failure, insertBlock_of_error rows verb thrown⟩
  | false =>
      rw [throws, if_neg Bool.false_ne_true] at ended
      exact Or.inr ⟨Or.inr rfl, insertBlock_of_ok rows verb ended⟩

/-- The last rows are executed at the end of the block. -/
theorem insertEnd_flush (controller : AccessController δ κ) (ac : κ)
    {before flushed : Insertion δ ρ π} {executed : Bool}
    (outcome : if executed then
        (Insertion.exec driver).run before = .ok true flushed ∧ flushed.query.sbuffer = []
      else if before.query.throwExceptions then
        ∃ failure, (Insertion.exec driver).run before = .error failure flushed
      else (Insertion.exec driver).run before = .ok false flushed) :
    BlockResult controller before.query.throwExceptions executed (ac, flushed)
      ((insertEnd driver controller true false).run (ac, before)) := by
  cases executed with
  | true =>
      obtain ⟨ran, _emptied⟩ := outcome
      have inner : (Insertion.besideController (Insertion.exec driver)).run (ac, before) =
          .ok true (ac, flushed) := run_onPart_of_ok _ ran
      exact Or.inr ⟨Or.inl rfl, run_bind_of_ok inner⟩
  | false =>
      rw [if_neg Bool.false_ne_true] at outcome
      cases throws : before.query.throwExceptions with
      | true =>
          rw [throws, if_pos rfl] at outcome
          obtain ⟨failure, thrown⟩ := outcome
          have inner : (Insertion.besideController (Insertion.exec driver)).run (ac, before) =
              .error failure (ac, flushed) := run_onPart_of_error _ thrown
          exact Or.inl ⟨rfl, rfl, failure, run_bind_of_error inner⟩
      | false =>
          rw [throws, if_neg Bool.false_ne_true] at outcome
          have inner : (Insertion.besideController (Insertion.exec driver)).run (ac, before) =
              .ok false (ac, flushed) := run_onPart_of_ok _ outcome
          exact Or.inr ⟨Or.inr rfl, run_bind_of_ok inner⟩

/-- The block works off the rows, its policy and its driver giving the answers. -/
theorem insertBlock_governed (driver : DBDriver δ) (policy : InsertPolicy ρ π)
    (controller : AccessController δ κ) {items : List ρ} (some : items ≠ [])
    (ac : κ) {begun : Insertion δ ρ π} (plain : begun.query.parseElems = [])
    (emptied : begun.query.sbuffer = []) :
    ∃ batches answers success after, WorkedOff items batches answers success ∧
      Governed rows driver policy verb [] begun after batches answers ∧
      ((∃ batch ∈ batches, batch.2 = false) → after.query.copacetic = false) ∧
      BlockResult controller begun.query.throwExceptions success (ac, after)
        ((insertBlock rows driver policy controller verb items).run (ac, begun)) := by
  obtain ⟨batches, answers, ending, left, after, course, governed, ended⟩ :=
    insertLoop_works rows driver policy verb items begun plain [] emptied
  cases ending with
  | complete =>
      obtain ⟨looped, buffer⟩ := ended
      have someLeft : left ≠ [] := course.complete_left rfl some
      rw [List.isEmpty_eq_false_iff.mpr someLeft] at looped
      obtain ⟨executed, flushed, executing, copacetic, outcome⟩ :=
        exec_run rows verb driver policy (atHand [] answers) (governed.plain plain) buffer
      have reached := governed.trans executing
      rw [List.append_nil] at reached
      refine ⟨_, answers, executed, flushed, .handedOver executed course someLeft, reached, ?_, ?_⟩
      · intro found
        obtain ⟨batch, member, notTaken⟩ := found
        rcases List.mem_append.mp member with earlier | last
        · rw [course.taken (by decide) batch earlier] at notTaken
          cases notTaken
        · rw [List.mem_singleton.mp last] at notTaken
          rw [copacetic]
          exact notTaken
      · rw [insertBlock_of_ok rows verb looped, ← governed.flag]
        exact insertEnd_flush controller ac outcome
  | failed =>
      obtain ⟨copacetic, result⟩ := ended
      exact ⟨batches, answers, false, after, .stopped course (by decide), governed,
        fun _ => copacetic, insertBlock_failed rows verb ac result⟩
  | refused =>
      refine ⟨batches, answers, false, after, .stopped course (by decide), governed, ?_,
        insertBlock_failed rows verb ac ended⟩
      intro found
      obtain ⟨batch, member, notTaken⟩ := found
      rw [course.taken (by decide) batch member] at notTaken
      cases notTaken

theorem insertBlock_run (driver : DBDriver δ) (policy : InsertPolicy ρ π)
    (controller : AccessController δ κ) {items : List ρ} (some : items ≠ [])
    (ac : κ) {begun : Insertion δ ρ π} (plain : begun.query.parseElems = [])
    (emptied : begun.query.sbuffer = []) :
    ∃ batches answers success after, WorkedOff items batches answers success ∧
      Progress rows verb begun after batches answers ∧
      ((∃ batch ∈ batches, batch.2 = false) → after.query.copacetic = false) ∧
      BlockResult controller begun.query.throwExceptions success (ac, after)
        ((insertBlock rows driver policy controller verb items).run (ac, begun)) := by
  obtain ⟨batches, answers, success, after, worked, governed, rest⟩ :=
    insertBlock_governed rows verb driver policy controller some ac plain emptied
  exact ⟨batches, answers, success, after, worked, governed.toProgress, rest⟩

def Insertion.afterCall (call : ControllerCall) (x : EStateM Failure (κ × Connection δ) Unit)
    (self : κ × Insertion δ ρ π) : κ × Insertion δ ρ π :=
  let result := (x.run (self.1, self.2.traffic.connection)).final
  (result.1,
    { self.2 with
      traffic := self.2.traffic.after .controller result.2
      calls := self.2.calls ++ [call] })

theorem callController_final (call : ControllerCall)
    (x : EStateM Failure (κ × Connection δ) Unit) (self : κ × Insertion δ ρ π) :
    ((Insertion.callController call x).run self).final = Insertion.afterCall call x self := by
  have called : (Insertion.callController call x).run self =
      (onPart (fun self : κ × Insertion δ ρ π => (self.1, self.2.traffic))
        (fun self after => (after.1, { self.2 with traffic := after.2 }))
        (Traffic.onWith .controller x)).run
          (self.1, { self.2 with calls := self.2.calls ++ [call] }) := rfl
  rw [called, final_onPart, Traffic.onWith, final_onPart]
  rfl

theorem withController_final (controller : AccessController δ κ) (ac : κ)
    (block : EStateM Failure (κ × Insertion δ ρ π) Unit) (self : Insertion δ ρ π) :
    ((Insertion.withController controller ac block).run self).final =
      Insertion.destroy controller (block.run (ac, self)).final := by
  simp only [Insertion.withController, EStateM.run]
  cases block (ac, self) <;> rfl

theorem withController_outcome (controller : AccessController δ κ) (ac : κ)
    (block : EStateM Failure (κ × Insertion δ ρ π) Unit) (self : Insertion δ ρ π) :
    ((Insertion.withController controller ac block).run self).outcome =
      (block.run (ac, self)).outcome := by
  simp only [Insertion.withController, EStateM.run]
  cases block (ac, self) <;> rfl

def Insertion.begun (self : Insertion δ ρ π) (conn : Connection δ) : Insertion δ ρ π :=
  { self with
    query := self.query.reset
    traffic := self.traffic.after .controller conn
    calls := self.calls ++ [.construct] }

theorem insertRows_nil (controller : AccessController δ κ) (self : Insertion δ ρ π) :
    (insertRows rows driver policy controller verb []).run self =
      .ok () { self with query := self.query.reset } := by
  simp [insertRows]

theorem insertRows_refused {controller : AccessController δ κ} {items : List ρ}
    (some : items ≠ []) {self : Insertion δ ρ π} {failure : Failure} {conn : Connection δ}
    (thrown : controller.construct.run self.traffic.connection = .error failure conn) :
    (insertRows rows driver policy controller verb items).run self =
      .error failure (self.begun conn) := by
  have reset : (modify fun self => { self with query := self.query.reset } :
      EStateM Failure (Insertion δ ρ π) Unit).run self =
        .ok () { self with query := self.query.reset } := rfl
  have noted : (modify fun self => { self with calls := self.calls ++ [.construct] } :
      EStateM Failure (Insertion δ ρ π) Unit).run { self with query := self.query.reset } =
        .ok () { self with
          query := self.query.reset
          calls := self.calls ++ [.construct] } := rfl
  have constructing : (Insertion.construct controller).run { self with query := self.query.reset } =
      .error failure (self.begun conn) := by
    rw [Insertion.construct, run_bind_of_ok noted]
    exact run_onPart_of_error _ (run_onPart_of_error _ thrown)
  rw [insertRows, run_bind_of_ok reset, if_neg some, run_bind_of_error constructing]

theorem construct_run {controller : AccessController δ κ} {self : Insertion δ ρ π} {ac : κ}
    {conn : Connection δ}
    (constructed : controller.construct.run self.traffic.connection = .ok ac conn) :
    (Insertion.construct controller).run { self with query := self.query.reset } =
      .ok ac (self.begun conn) := by
  have noted : (modify fun self => { self with calls := self.calls ++ [.construct] } :
      EStateM Failure (Insertion δ ρ π) Unit).run { self with query := self.query.reset } =
        .ok () { self with
          query := self.query.reset
          calls := self.calls ++ [.construct] } := rfl
  rw [Insertion.construct, run_bind_of_ok noted]
  exact run_onPart_of_ok _ (run_onPart_of_ok _ constructed)

theorem insertRows_constructed {controller : AccessController δ κ} {items : List ρ}
    (some : items ≠ []) {self : Insertion δ ρ π} {ac : κ} {conn : Connection δ}
    (constructed : controller.construct.run self.traffic.connection = .ok ac conn) :
    (insertRows rows driver policy controller verb items).run self =
      (Insertion.withController controller ac
        (insertBlock rows driver policy controller verb items)).run (self.begun conn) := by
  have reset : (modify fun self => { self with query := self.query.reset } :
      EStateM Failure (Insertion δ ρ π) Unit).run self =
        .ok () { self with query := self.query.reset } := rfl
  rw [insertRows, run_bind_of_ok reset, if_neg some, run_bind_of_ok (construct_run constructed)]

def Insertion.executed (self : Insertion δ ρ π) : List Statement :=
  self.traffic.statements.filter fun statement => statement.party = .client

theorem filter_controller (sent : List Sent) :
    (sent.map (Statement.mk .controller)).filter (fun statement => statement.party = .client) =
      [] := by
  induction sent with
  | nil => rfl
  | cons first rest ih =>
      rw [List.map_cons, List.filter_cons_of_neg]
      · exact ih
      · exact Bool.false_ne_true

theorem filter_batches (batches : List (List ρ × Bool)) :
    (batches.map (batchStatement rows verb)).filter
      (fun statement => statement.party = .client) = batches.map (batchStatement rows verb) := by
  induction batches with
  | nil => rfl
  | cons first rest ih =>
      rw [List.map_cons, List.filter_cons_of_pos]
      · rw [ih]
      · rfl

theorem filter_after_controller (traffic : Traffic δ) (conn : Connection δ) :
    (traffic.after .controller conn).statements.filter
        (fun statement => statement.party = .client) =
      traffic.statements.filter fun statement => statement.party = .client := by
  rw [Traffic.after, List.filter_append, filter_controller, List.append_nil]

def lastCall (success : Bool) : ControllerCall := if success then .commit else .rollback

theorem finishAccess_final (controller : AccessController δ κ) (success : Bool)
    (self : κ × Insertion δ ρ π) :
    ((finishAccess controller success).run self).final =
      Insertion.afterCall (lastCall success)
        (if success then controller.commit else controller.rollback) self := by
  cases success with
  | true => exact callController_final .commit controller.commit self
  | false => exact callController_final .rollback controller.rollback self

theorem executed_destroy (controller : AccessController δ κ) (self : κ × Insertion δ ρ π) :
    (Insertion.destroy controller self).executed = self.2.executed :=
  filter_after_controller self.2.traffic _

theorem executed_afterCall (call : ControllerCall) (x : EStateM Failure (κ × Connection δ) Unit)
    (self : κ × Insertion δ ρ π) :
    (Insertion.afterCall call x self).2.executed = self.2.executed :=
  filter_after_controller self.2.traffic _

theorem executed_progress {before after : Insertion δ ρ π} {batches : List (List ρ × Bool)}
    {answers : List (ρ × Bool)} (progress : Progress rows verb before after batches answers) :
    after.executed = before.executed ++ batches.map (batchStatement rows verb) := by
  rw [Insertion.executed, progress.statements, List.filter_append, filter_batches]
  rfl

def AllWell (items : List ρ) (batches : List (List ρ × Bool)) (answers : List (ρ × Bool)) :
    Prop :=
  (∀ batch ∈ batches, batch.2 = true) ∧ admittedItems answers = items

/-- What an insertion comes to: its statements take the rows in order, none follows one
that was not executed, and the access controller commits exactly if all is well. Without
rows there is nothing to do. -/
def Reports (items : List ρ) (before after : Insertion δ ρ π) : Prop :=
  ∃ batches answers,
    after.executed = before.executed ++ batches.map (batchStatement rows verb) ∧
    after.answers = before.answers ++ answers ∧
    (∀ batch ∈ batches, batch.1 ≠ []) ∧
    batchedItems batches <+: items ∧
    (∀ front batch back, batches = front ++ batch :: back → batch.2 = false → back = []) ∧
    if items = [] then
      batches = [] ∧ after.traffic = before.traffic ∧ after.calls = before.calls
    else
      (batchedItems batches = items ∧
          after.calls = before.calls ++ [.construct, .commit, .destroy] ↔
        AllWell items batches answers) ∧
      (¬ AllWell items batches answers →
        after.calls = before.calls ++ [.construct, .rollback, .destroy])

theorem insertRows_reports (controller : AccessController δ κ)
    (constructs : controller.Constructs) (items : List ρ) (self : Insertion δ ρ π)
    (quiet : self.query.throwExceptions = false) :
    Reports rows verb items self
      ((insertRows rows driver policy controller verb items).run self).final := by
  by_cases none : items = []
  · subst items
    rw [insertRows_nil]
    exact ⟨[], [], (List.append_nil _).symm, (List.append_nil _).symm, by simp, List.prefix_rfl,
      by simp, by rw [if_pos rfl]; exact ⟨rfl, rfl, rfl⟩⟩
  · obtain ⟨ac, conn, constructed⟩ := constructs self.traffic.connection
    have begunPlain : (self.begun conn).query.parseElems = [] := rfl
    obtain ⟨batches, answers, success, after, worked, progress, _copacetic, ended⟩ :=
      insertBlock_run rows verb driver policy controller none ac begunPlain rfl
    have flag : (self.begun conn).query.throwExceptions = false := quiet
    have ran : (insertBlock rows driver policy controller verb items).run (ac, self.begun conn) =
        (finishAccess controller success).run (ac, after) := by
      rcases ended with ⟨throws, _rest⟩ | ⟨_quiet, ran⟩
      · rw [flag] at throws
        cases throws
      · exact ran
    rw [insertRows_constructed rows verb none constructed, withController_final, ran,
      finishAccess_final]
    have calls : ∀ x : EStateM Failure (κ × Connection δ) Unit,
        (Insertion.destroy controller
          (Insertion.afterCall (lastCall success) x (ac, after))).calls =
        self.calls ++ [.construct, lastCall success, .destroy] := by
      intro x
      change after.calls ++ [lastCall success] ++ [ControllerCall.destroy] = _
      rw [progress.calls]
      simp [Insertion.begun]
    refine ⟨batches, answers, ?_, progress.answers, worked.group_ne_nil, worked.prefix_items,
      fun _ _ _ split notTaken => worked.stops split notTaken, ?_⟩
    · rw [executed_destroy, executed_afterCall, executed_progress rows verb progress]
      congr 1
      exact filter_after_controller self.traffic conn
    · rw [if_neg none, calls, List.append_cancel_left_eq, List.append_cancel_left_eq]
      have well := worked.success_iff
      cases success with
      | true =>
          have allWell : AllWell items batches answers := well.mp rfl
          exact ⟨iff_of_true ⟨worked.all_items, rfl⟩ allWell, fun notWell => absurd allWell notWell⟩
      | false =>
          have notWell : ¬ AllWell items batches answers :=
            fun allWell => Bool.false_ne_true (well.mpr allWell)
          refine ⟨iff_of_false ?_ notWell, fun _ => rfl⟩
          intro both
          obtain ⟨_items, commits⟩ := both
          exact absurd commits (by decide)

end Whole

/-- `RowCountInsertPolicy`, whose state is `cur_rows_`. -/
def rowCountInsertPolicy (ρ : Type) (maxRows : UInt32) : InsertPolicy ρ UInt32 where
  canAdd _size _object curRows :=
    if maxRows < curRows + 1 then (false, 0) else (true, curRows + 1)

/-- `MaxPacketInsertPolicy`, whose stream formats like the query. -/
def maxPacketInsertPolicy {ρ : Type} (rows : SSQLS ρ) (maxSize : Int) : InsertPolicy ρ Unit where
  canAdd size object _state :=
    (if size < maxSize then maxSize - size ≥ intOf (furtherRow rows object).length else false, ())

def singleColumn : SSQLS Bytes where
  table _ := ascii "t"
  fieldList _ := ascii "\x60v\x60"
  valueList value := value

def beforeInsertion {π : Type} (policy : π) : Insertion Unit Bytes π :=
  { query := Query.new 0 false []
    traffic := { state := (), statements := [] }
    policy := policy
    answers := []
    calls := [] }

example :
    (((insertfrom singleColumn acceptingDriver (rowCountInsertPolicy Bytes 2)
        (Transaction.controller acceptingDriver false (.simple false))
        [ascii "1", ascii "2", ascii "3"]).run (beforeInsertion 0)).final.traffic.statements.map
          fun statement => statement.sent.text) =
      [ascii "START TRANSACTION", ascii "INSERT INTO \x60t\x60 (\x60v\x60) VALUES (1),(2)",
        ascii "INSERT INTO \x60t\x60 (\x60v\x60) VALUES (3)", ascii "COMMIT"] := by
  decide +kernel

end LibTabula
