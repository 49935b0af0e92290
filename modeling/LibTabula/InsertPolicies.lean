/-
How large the statements of an insertion become.

The three policies are put under one account of a run: the batches that it hands over,
the policy's answers, the policy's state behind each of them. A policy is asked with the
length of the statement as an `int`; what is asked about, and what is then appended, are
not always the same text.
-/

import LibTabula.InsertFrom
import Mathlib.Data.List.Induction

set_option autoImplicit false

namespace LibTabula

open Foundation

section Inserted

variable {δ ρ π κ : Type} (rows : SSQLS ρ) {driver : DBDriver δ} {policy : InsertPolicy ρ π}
  (verb : Bytes)

/-- There are rows, and the access controller can be constructed. -/
def Begins (controller : AccessController δ κ) (items : List ρ) (before : Insertion δ ρ π) :
    Prop :=
  items ≠ [] ∧ ∃ ac conn, controller.construct.run before.traffic.connection = .ok ac conn

/-- A whole insertion, with its batches and the answers given. -/
structure Inserted (driver : DBDriver δ) (policy : InsertPolicy ρ π)
    (controller : AccessController δ κ) (verb : Bytes) (items : List ρ)
    (before after : Insertion δ ρ π) (batches : List (List ρ × Bool))
    (given : List (ρ × Bool)) : Prop where
  executed : after.executed = before.executed ++ batches.map (batchStatement rows verb)
  answers : after.answers = before.answers ++ given
  follows : Follows (asks rows policy verb) before.policy [] given
  policy : after.policy = policyAfter (asks rows policy verb) before.policy [] given
  answered : ∀ batch ∈ batches,
    ∃ state, (driver.execute (statementText rows verb batch.1) state).1 = batch.2
  worked : Begins controller items before → ∃ success, WorkedOff items batches given success
  nothing : ¬ Begins controller items before → batches = [] ∧ given = []

theorem Inserted.ofNothing {controller : AccessController δ κ} {items : List ρ}
    {before after : Insertion δ ρ π} (notBegun : ¬ Begins controller items before)
    (executed : after.executed = before.executed) (answers : after.answers = before.answers)
    (policyKept : after.policy = before.policy) :
    Inserted rows driver policy controller verb items before after [] [] where
  executed := by rw [executed, List.map_nil, List.append_nil]
  answers := by rw [answers, List.append_nil]
  follows := trivial
  policy := policyKept
  answered := List.forall_mem_nil _
  worked begins := absurd begins notBegun
  nothing _ := ⟨rfl, rfl⟩

/-- Neither the end of the block nor the destructor touches what the loop has left. -/
theorem blockResult_final {controller : AccessController δ κ} {throws success : Bool} {ac : κ}
    {after : Insertion δ ρ π}
    {result : EStateM.Result Failure (κ × Insertion δ ρ π) Unit}
    (ended : BlockResult controller throws success (ac, after) result) :
    (Insertion.destroy controller result.final).executed = after.executed ∧
      (Insertion.destroy controller result.final).answers = after.answers ∧
      (Insertion.destroy controller result.final).policy = after.policy := by
  rcases ended with ⟨_throws, _failed, failure, thrown⟩ | ⟨_quiet, finished⟩
  · rw [thrown]
    exact ⟨executed_destroy controller (ac, after), rfl, rfl⟩
  · rw [finished, finishAccess_final]
    exact ⟨(executed_destroy controller _).trans (executed_afterCall _ _ (ac, after)), rfl, rfl⟩

/-- Every insertion has batches and answers. -/
theorem insertRows_inserted (driver : DBDriver δ) (policy : InsertPolicy ρ π) (verb : Bytes)
    (controller : AccessController δ κ) (items : List ρ) (self : Insertion δ ρ π) :
    ∃ batches given,
      Inserted rows driver policy controller verb items self
        ((insertRows rows driver policy controller verb items).run self).final batches given := by
  by_cases none : items = []
  · subst items
    rw [insertRows_nil]
    exact ⟨[], [], Inserted.ofNothing rows verb (fun begins => begins.1 rfl) rfl rfl rfl⟩
  · cases constructing : controller.construct.run self.traffic.connection with
    | error failure conn =>
        rw [insertRows_refused rows verb none constructing]
        refine ⟨[], [], Inserted.ofNothing rows verb ?_ ?_ rfl rfl⟩
        · intro found
          obtain ⟨_some, ac, after, constructed⟩ := found
          rw [constructing] at constructed
          cases constructed
        · exact filter_after_controller self.traffic conn
    | ok ac conn =>
        have begins : Begins controller items self := ⟨none, ac, conn, constructing⟩
        have begunPlain : (self.begun conn).query.parseElems = [] := rfl
        obtain ⟨batches, given, success, after, worked, governed, _copacetic, ended⟩ :=
          insertBlock_governed rows verb driver policy controller none ac begunPlain rfl
        obtain ⟨executed, answers, policyKept⟩ := blockResult_final ended
        rw [insertRows_constructed rows verb none constructing, withController_final]
        refine ⟨batches, given, ⟨?_, ?_, governed.follows, ?_, governed.answered,
          fun _ => ⟨success, worked⟩, fun notBegun => absurd begins notBegun⟩⟩
        · rw [executed, executed_progress rows verb governed.toProgress]
          exact congrArg (· ++ batches.map (batchStatement rows verb))
            (filter_after_controller self.traffic conn)
        · exact answers.trans governed.answers
        · exact policyKept.trans governed.policy

def freshInsertion (policy : π) : Insertion Unit ρ π :=
  { query := Query.new 0 false []
    traffic := { state := (), statements := [] }
    policy := policy
    answers := []
    calls := [] }

theorem Inserted.taken_of_accepting {rows : SSQLS ρ} {verb : Bytes}
    {controller : AccessController Unit κ} {items : List ρ} {before after : Insertion Unit ρ π}
    {batches : List (List ρ × Bool)} {given : List (ρ × Bool)}
    (inserted : Inserted rows acceptingDriver policy controller verb items before after batches
      given) : ∀ batch ∈ batches, batch.2 = true := by
  intro batch member
  obtain ⟨_state, executed⟩ := inserted.answered batch member
  exact executed.symm

end Inserted

/-! ### Thresholds -/

section Lengths

variable {ρ : Type} (rows : SSQLS ρ) (verb : Bytes)

theorem intOf_le (position : Nat) : intOf position ≤ position := by
  rw [intOf]
  omega

theorem intOf_small {position : Nat} (small : position < 2147483648) :
    intOf position = position := by
  rw [intOf]
  omega

/-- What the loop appends for a row. -/
def appendedText (earlier : List ρ) (it : ρ) : Bytes :=
  (if earlier.isEmpty then statementBeginning rows verb it else ascii ",(") ++
    (rows.valueList it ++ ascii ")")

theorem length_statementText_append (earlier : List ρ) (it : ρ) :
    (statementText rows verb (earlier ++ [it])).length =
      (statementText rows verb earlier).length + (appendedText rows verb earlier it).length := by
  rw [statementText_append, List.append_assoc, List.length_append]
  rfl

theorem length_statementText_le {earlier later : List ρ} (front : earlier <+: later) :
    (statementText rows verb earlier).length ≤ (statementText rows verb later).length := by
  obtain ⟨more, rfl⟩ := front
  induction more using List.reverseRecOn with
  | nil => rw [List.append_nil]
  | append_singleton more it ih =>
      rw [← List.append_assoc, length_statementText_append]
      omega

theorem length_statementText_pos {group : List ρ} (some : group ≠ []) :
    0 < (statementText rows verb group).length := by
  cases group with
  | nil => exact absurd rfl some
  | cons it more =>
      rw [statementText, List.length_append, List.length_append, List.length_append]
      have closing : (ascii ")").length = 1 := rfl
      omega

/-- The length of a statement with one more row. -/
def grown (size : Nat) (it : ρ) : Nat :=
  if size = 0 then (statementText rows verb [it]).length else size + (furtherRow rows it).length

theorem length_statementText_grown (earlier : List ρ) (it : ρ) :
    (statementText rows verb (earlier ++ [it])).length =
      grown rows verb (statementText rows verb earlier).length it := by
  cases earlier with
  | nil => rfl
  | cons first more =>
      have notZero := length_statementText_pos rows verb (List.cons_ne_nil first more)
      rw [length_statementText_append, grown, if_neg (Nat.ne_of_gt notZero)]
      rfl

end Lengths

section SizeThreshold

variable {ρ : Type} (rows : SSQLS ρ) (verb : Bytes) (threshold : Int)

/-- `SizeThresholdInsertPolicy`. -/
def sizeThresholdInsertPolicy (ρ : Type) (threshold : Int) : InsertPolicy ρ Unit where
  canAdd size _object _state := (decide (size < threshold), ())

/-- Every statement but the last reaches the threshold, and none reaches it before its last
row. -/
structure Thresholded (batches : List (List ρ × Bool)) : Prop where
  reached : ∀ front last, batches = front ++ [last] →
    ∀ batch ∈ front, threshold ≤ (statementText rows verb batch.1).length
  below : ∀ batch ∈ batches, ∀ earlier it, batch.1 = earlier ++ [it] →
    (statementText rows verb batch.1).length <
      threshold + (appendedText rows verb earlier it).length

/-- The rows are packed until a statement reaches the threshold. If a row follows, the
length reached must still be at least the threshold as an `int`. -/
def MeasuredRight : Nat → List ρ → Prop
  | _, [] => True
  | size, it :: rest =>
      if size < threshold then MeasuredRight (grown rows verb size it) rest
      else threshold ≤ intOf size ∧ MeasuredRight (grown rows verb 0 it) rest

def BelowBeforeLast (group : List ρ) : Prop :=
  ∀ earlier it, group = earlier ++ [it] → (statementText rows verb earlier).length < threshold

variable {rows verb threshold} {pending rest left : List ρ} {batches : List (List ρ × Bool)}
  {given : List (ρ × Bool)} {ending : Ending} {state : Unit}

theorem belowBeforeLast_iff (group : List ρ) :
    BelowBeforeLast rows verb threshold group ↔
      ∀ earlier it, group = earlier ++ [it] → (statementText rows verb group).length <
        threshold + (appendedText rows verb earlier it).length := by
  apply forall₃_congr
  rintro earlier it rfl
  rw [length_statementText_append]
  push_cast
  omega

theorem asksSize_true {it : ρ}
    (admitted :
      (asks rows (sizeThresholdInsertPolicy ρ threshold) verb pending it state).1 = true) :
    intOf (statementText rows verb pending).length < threshold := of_decide_eq_true admitted

theorem asksSize_false {it : ρ}
    (refused :
      (asks rows (sizeThresholdInsertPolicy ρ threshold) verb pending it state).1 = false) :
    threshold ≤ intOf (statementText rows verb pending).length :=
  Int.not_lt.mp (of_decide_eq_false refused)

theorem asksSize_empty (positive : 0 < threshold) (it : ρ) (state : Unit) :
    (asks rows (sizeThresholdInsertPolicy ρ threshold) verb [] it state).1 = true := by
  have nothing : intOf 0 = 0 := intOf_small (by decide)
  change decide (intOf 0 < threshold) = true
  rw [nothing]
  exact decide_eq_true positive

theorem asksSize_not_refused (positive : 0 < threshold) (it : ρ) (state : Unit) :
    ¬ (asks rows (sizeThresholdInsertPolicy ρ threshold) verb [] it state).1 = false := by
  rw [asksSize_empty positive it state]
  nofun

theorem BelowBeforeLast.front {group : List ρ} {it : ρ}
    (below : BelowBeforeLast rows verb threshold group) (front : pending ++ [it] <+: group) :
    (statementText rows verb pending).length < threshold := by
  obtain ⟨more, rfl⟩ := front
  have last : ∃ earlier final, pending ++ [it] ++ more = earlier ++ [final] ∧
      pending <+: earlier := by
    rcases List.eq_nil_or_concat more with none | ⟨between, final, split⟩
    · exact ⟨pending, it, by rw [none, List.append_nil], List.prefix_rfl⟩
    · refine ⟨pending ++ [it] ++ between, final, ?_, ?_⟩
      · rw [split, List.concat_eq_append, List.append_assoc (pending ++ [it])]
      · rw [List.append_assoc]
        exact List.prefix_append _ _
  obtain ⟨earlier, final, split, within⟩ := last
  have bound := below earlier final split
  have shorter := length_statementText_le rows verb within
  omega

theorem BelowBeforeLast.nil : BelowBeforeLast rows verb threshold [] := by
  intro earlier it split
  exact absurd split.symm (List.append_ne_nil_of_right_ne_nil earlier (List.cons_ne_nil it []))

theorem BelowBeforeLast.append {it : ρ}
    (within : (statementText rows verb pending).length < threshold) :
    BelowBeforeLast rows verb threshold (pending ++ [it]) := by
  intro earlier final split
  rw [(List.append_inj_left' split rfl).symm]
  exact within

theorem BelowBeforeLast.single (positive : 0 < threshold) (it : ρ) :
    BelowBeforeLast rows verb threshold [it] := by
  have within : (statementText rows verb []).length < threshold := positive
  exact BelowBeforeLast.append within

/-- The run keeps the bounds if the lengths are measured right. -/
theorem thresholded_of_measured (positive : 0 < threshold)
    (course : Batches pending rest batches given ending left)
    (follows : Follows (asks rows (sizeThresholdInsertPolicy ρ threshold) verb) state pending given)
    (below : BelowBeforeLast rows verb threshold pending)
    (measured : MeasuredRight rows verb threshold (statementText rows verb pending).length rest) :
    (∀ batch ∈ batches, threshold ≤ (statementText rows verb batch.1).length ∧
        BelowBeforeLast rows verb threshold batch.1) ∧
      BelowBeforeLast rows verb threshold left := by
  induction course generalizing state with
  | done pending => exact ⟨List.forall_mem_nil _, below⟩
  | @admitted pending rest batches given ending left it _later ih =>
      obtain ⟨admitted, later⟩ := follows_true.mp follows
      have asked := asksSize_true admitted
      rw [MeasuredRight] at measured
      by_cases within : ((statementText rows verb pending).length : Int) < threshold
      · rw [if_pos within, ← length_statementText_grown] at measured
        exact ih later (BelowBeforeLast.append within) measured
      · rw [if_neg within] at measured
        omega
  | emptyAgain it _later _ih =>
      exact absurd (follows_false.mp follows).1 (asksSize_not_refused positive it state)
  | @flushed pending rest batches given ending left it _some _later ih =>
      obtain ⟨refused, later⟩ := follows_false.mp follows
      have asked := asksSize_false refused
      have reached := asked.trans (intOf_le _)
      rw [MeasuredRight, if_neg (Int.not_lt.mpr reached)] at measured
      obtain ⟨all, last⟩ := ih (follows_true.mp later).2 (BelowBeforeLast.single positive it)
        measured.2
      exact ⟨List.forall_mem_cons.mpr ⟨⟨reached, below⟩, all⟩, last⟩
  | notTaken it rest _some =>
      have reached := (asksSize_false (follows_false.mp follows).1).trans (intOf_le _)
      exact ⟨List.forall_mem_singleton.mpr ⟨reached, below⟩, below⟩
  | emptyRefused it rest =>
      exact absurd (follows_false.mp follows).1 (asksSize_not_refused positive it state)
  | flushedRefused it rest _some =>
      have reached := (asksSize_false (follows_false.mp follows).1).trans (intOf_le _)
      exact ⟨List.forall_mem_singleton.mpr ⟨reached, below⟩, BelowBeforeLast.nil⟩

/-- Where the bounds hold, the lengths were measured right. -/
theorem measured_of_thresholded (positive : 0 < threshold)
    (course : Batches pending rest batches given ending left)
    (follows : Follows (asks rows (sizeThresholdInsertPolicy ρ threshold) verb) state pending given)
    (taken : ∀ batch ∈ batches, batch.2 = true)
    (below : ∀ batch ∈ batches, BelowBeforeLast rows verb threshold batch.1)
    (lastBelow : BelowBeforeLast rows verb threshold left) :
    MeasuredRight rows verb threshold (statementText rows verb pending).length rest := by
  induction course generalizing state with
  | done pending => trivial
  | @admitted pending rest batches given ending left it later ih =>
      have measured := ih (follows_true.mp follows).2 taken below lastBelow
      have within : ((statementText rows verb pending).length : Int) < threshold := by
        rcases later.atHand_kept (by simp) with ⟨group, member, front⟩ | ⟨_complete, front⟩
        · exact (below group member).front front
        · exact lastBelow.front front
      rw [length_statementText_grown] at measured
      rw [MeasuredRight, if_pos within]
      exact measured
  | emptyAgain it _later _ih =>
      exact absurd (follows_false.mp follows).1 (asksSize_not_refused positive it state)
  | flushed it _some _later ih =>
      obtain ⟨refused, later⟩ := follows_false.mp follows
      have asked := asksSize_false refused
      have measured := ih (follows_true.mp later).2 (List.forall_mem_cons.mp taken).2
        (List.forall_mem_cons.mp below).2 lastBelow
      rw [MeasuredRight, if_neg (Int.not_lt.mpr (asked.trans (intOf_le _)))]
      exact ⟨asked, measured⟩
  | notTaken it rest _some => exact absurd (taken _ List.mem_cons_self) Bool.false_ne_true
  | emptyRefused it rest =>
      exact absurd (follows_false.mp follows).1 (asksSize_not_refused positive it state)
  | flushedRefused it rest _some =>
      have again := (follows_false.mp (follows_false.mp follows).2).1
      exact absurd again (asksSize_not_refused positive it _)

end SizeThreshold

section SizeThresholdRuns

variable {ρ : Type} (rows : SSQLS ρ) (threshold : Int) (items : List ρ)

def KeepsThreshold : Prop :=
  ∀ (δ κ : Type) (driver : DBDriver δ) (controller : AccessController δ κ)
    (before : Insertion δ ρ Unit), ∃ batches given,
    Inserted rows driver (sizeThresholdInsertPolicy ρ threshold) controller (ascii "INSERT") items
        before
        ((insertfrom rows driver (sizeThresholdInsertPolicy ρ threshold) controller items).run
          before).final batches given ∧
      ((∀ batch ∈ batches, batch.2 = true) →
        Thresholded rows (ascii "INSERT") threshold batches)

variable {rows threshold items}

theorem thresholded_of_worked {batches : List (List ρ × Bool)} {given : List (ρ × Bool)}
    {success : Bool} (positive : 0 < threshold) (worked : WorkedOff items batches given success)
    (follows : Follows
      (asks rows (sizeThresholdInsertPolicy ρ threshold) (ascii "INSERT")) () [] given)
    (measured : MeasuredRight rows (ascii "INSERT") threshold 0 items) :
    Thresholded rows (ascii "INSERT") threshold batches := by
  cases worked with
  | handedOver taken course _some =>
      obtain ⟨all, lastBelow⟩ :=
        thresholded_of_measured positive course follows BelowBeforeLast.nil measured
      constructor
      · intro front last split batch member
        rw [← List.append_inj_left' split rfl] at member
        exact (all batch member).1
      · intro batch member
        apply (belowBeforeLast_iff batch.1).mp
        rcases List.mem_append.mp member with earlier | final
        · exact (all batch earlier).2
        · rw [List.mem_singleton.mp final]
          exact lastBelow
  | stopped course _incomplete =>
      obtain ⟨all, _lastBelow⟩ :=
        thresholded_of_measured positive course follows BelowBeforeLast.nil measured
      constructor
      · intro front last split batch member
        exact (all batch (split ▸ List.mem_append_left _ member)).1
      · intro batch member
        exact (belowBeforeLast_iff batch.1).mp (all batch member).2

theorem measured_of_worked {batches : List (List ρ × Bool)} {given : List (ρ × Bool)}
    (positive : 0 < threshold) (worked : WorkedOff items batches given true)
    (follows : Follows
      (asks rows (sizeThresholdInsertPolicy ρ threshold) (ascii "INSERT")) () [] given)
    (bounds : Thresholded rows (ascii "INSERT") threshold batches) :
    MeasuredRight rows (ascii "INSERT") threshold 0 items := by
  have below : ∀ batch ∈ batches, BelowBeforeLast rows (ascii "INSERT") threshold batch.1 :=
    fun batch member => (belowBeforeLast_iff batch.1).mpr (bounds.below batch member)
  cases worked with
  | handedOver _taken course _some =>
      obtain ⟨earlierBelow, lastBelow⟩ := List.forall_mem_append.mp below
      exact measured_of_thresholded positive course follows (course.taken (by decide)) earlierBelow
        (lastBelow _ (List.mem_singleton_self _))

end SizeThresholdRuns

theorem measured_of_keeps {ρ : Type} {rows : SSQLS ρ} {threshold : Int} {items : List ρ}
    (positive : 0 < threshold) (keeps : KeepsThreshold rows threshold items) :
    MeasuredRight rows (ascii "INSERT") threshold 0 items := by
  obtain ⟨batches, given, inserted, bounds⟩ :=
    keeps Unit Unit acceptingDriver (NoTransaction.controller Unit) (freshInsertion ())
  by_cases none : items = []
  · rw [none]
    trivial
  · obtain ⟨success, worked⟩ := inserted.worked ⟨none, (), _, rfl⟩
    have taken := inserted.taken_of_accepting
    have succeeded := worked.success_of_taken
      (fun state _ it _ => asksSize_empty positive it _) inserted.follows taken
    rw [succeeded] at worked
    exact measured_of_worked positive worked inserted.follows (bounds taken)

theorem keeps_of_measured {ρ : Type} {rows : SSQLS ρ} {threshold : Int} {items : List ρ}
    (positive : 0 < threshold)
    (measured : MeasuredRight rows (ascii "INSERT") threshold 0 items) :
    KeepsThreshold rows threshold items := by
  intro δ κ driver controller before
  obtain ⟨batches, given, inserted⟩ :=
    insertRows_inserted rows driver (sizeThresholdInsertPolicy ρ threshold) (ascii "INSERT")
      controller items before
  refine ⟨batches, given, inserted, fun _ => ?_⟩
  by_cases begins : Begins controller items before
  · obtain ⟨success, worked⟩ := inserted.worked begins
    exact thresholded_of_worked positive worked inserted.follows measured
  · rw [(inserted.nothing begins).1]
    constructor
    · intro front last split
      exact absurd split.symm (List.append_ne_nil_of_right_ne_nil front (List.cons_ne_nil last []))
    · exact List.forall_mem_nil _

/-- The documented bounds hold for a list of rows exactly if no length that is compared with
the threshold falls below it as an `int`. -/
theorem insertfrom_threshold_iff {ρ : Type} (rows : SSQLS ρ) (threshold : Int)
    (positive : 0 < threshold) (items : List ρ) :
    KeepsThreshold rows threshold items ↔
      MeasuredRight rows (ascii "INSERT") threshold 0 items :=
  ⟨measured_of_keeps positive, keeps_of_measured positive⟩

theorem insertfrom_threshold_iff_threeRows :
    (0 : Int) < 40 ∧
      (KeepsThreshold singleColumn 40 [ascii "1", ascii "2", ascii "3"] ↔
        MeasuredRight singleColumn (ascii "INSERT") 40 0 [ascii "1", ascii "2", ascii "3"]) :=
  ⟨by decide, insertfrom_threshold_iff singleColumn 40 (by decide)
    [ascii "1", ascii "2", ascii "3"]⟩

def longValue (length : Nat) : Bytes := List.replicate length 0x31

theorem length_longValue (length : Nat) : (longValue length).length = length :=
  List.length_replicate

theorem passes_threshold_of_long {value : Bytes} (long : value.length = 2147483648) :
    ¬ KeepsThreshold singleColumn 1 [value, ascii "1"] := by
  have grows : grown singleColumn (ascii "INSERT") 0 value = 2147483679 := by
    have beginning : (statementBeginning singleColumn (ascii "INSERT") value).length = 30 := rfl
    rw [grown, if_pos rfl, statementText_single, List.length_append, List.length_append, beginning]
    change 30 + (value.length + 1) = 2147483679
    rw [long]
  have reached : ¬ ((2147483679 : Nat) : Int) < 1 := by omega
  intro keeps
  have measured := measured_of_keeps Int.one_pos keeps
  rw [MeasuredRight, if_pos (by decide), grows, MeasuredRight, if_neg reached, intOf] at measured
  omega

/-- Behind a row of 2 GiB the length is negative, and the next row is admitted. -/
theorem longValue_passes_threshold :
    ¬ KeepsThreshold singleColumn 1 [longValue 2147483648, ascii "1"] :=
  passes_threshold_of_long (length_longValue 2147483648)

/-! ### Packets -/

section Verbs

variable {δ ρ π κ : Type} (rows : SSQLS ρ) (driver : DBDriver δ) (policy : InsertPolicy ρ π)
  (controller : AccessController δ κ)

def insertVerb (replaces : Bool) : Bytes := if replaces then ascii "REPLACE" else ascii "INSERT"

/-- `replacefrom` or `insertfrom`. -/
def insertOrReplace (replaces : Bool) (items : List ρ) :
    EStateM Failure (Insertion δ ρ π) Unit :=
  if replaces then replacefrom rows driver policy controller items
  else insertfrom rows driver policy controller items

theorem insertOrReplace_inserted (replaces : Bool) (items : List ρ) (self : Insertion δ ρ π) :
    ∃ batches given,
      Inserted rows driver policy controller (insertVerb replaces) items self
        ((insertOrReplace rows driver policy controller replaces items).run self).final
        batches given := by
  cases replaces with
  | true => exact insertRows_inserted rows driver policy (ascii "REPLACE") controller items self
  | false => exact insertRows_inserted rows driver policy (ascii "INSERT") controller items self

end Verbs

section MaxPacket

variable {ρ : Type} (rows : SSQLS ρ) (verb : Bytes) (limit : Int)

/-- What the policy says of a row for which a statement must be begun. -/
def AdmittedAlone (it : ρ) : Prop := 0 < limit ∧ intOf (furtherRow rows it).length ≤ limit

/-- The rows are packed up to the limit. A row that a statement is begun for has to fit in
with the beginning of the statement, unless the policy does not admit it at all. -/
def PacksWithin : Nat → List ρ → Prop
  | _, [] => True
  | size, it :: rest =>
      if size ≠ 0 ∧ (size + (furtherRow rows it).length : Int) ≤ limit then
        PacksWithin (grown rows verb size it) rest
      else AdmittedAlone rows limit it →
        (grown rows verb 0 it : Int) ≤ limit ∧ PacksWithin (grown rows verb 0 it) rest

def Within (group : List ρ) : Prop := ((statementText rows verb group).length : Int) ≤ limit

variable {rows verb limit} {pending rest left : List ρ} {batches : List (List ρ × Bool)}
  {given : List (ρ × Bool)} {ending : Ending} {state : Unit}

theorem asksPacket_iff {it : ρ} :
    (asks rows (maxPacketInsertPolicy rows limit) verb pending it state).1 = true ↔
      intOf (statementText rows verb pending).length < limit ∧
        intOf (furtherRow rows it).length ≤
          limit - intOf (statementText rows verb pending).length := by
  simp only [asks, maxPacketInsertPolicy]
  by_cases below : intOf (statementText rows verb pending).length < limit
  · rw [if_pos below, decide_eq_true_iff]
    exact (and_iff_right below).symm
  · rw [if_neg below]
    exact iff_of_false Bool.false_ne_true fun both => below both.1

theorem asksPacket_empty {it : ρ} :
    (asks rows (maxPacketInsertPolicy rows limit) verb [] it state).1 = true ↔
      AdmittedAlone rows limit it := by
  have nothing : intOf 0 = 0 := intOf_small (by decide)
  rw [asksPacket_iff, AdmittedAlone]
  change intOf 0 < limit ∧ _ ≤ limit - intOf 0 ↔ _
  rw [nothing, Int.sub_zero]

theorem three_le_furtherRow (it : ρ) : 3 ≤ (furtherRow rows it).length := by
  rw [furtherRow, List.length_append, List.length_append]
  have opening : (ascii ",(").length = 2 := rfl
  have closing : (ascii ")").length = 1 := rfl
  omega

theorem furtherRow_le_grown (it : ρ) : (furtherRow rows it).length ≤ grown rows verb 0 it := by
  have opening : (ascii ",(").length = 2 := rfl
  have values : (ascii ") VALUES (").length = 10 := rfl
  rw [grown, if_pos rfl, statementText_single, furtherRow, statementBeginning]
  simp only [List.length_append]
  omega

/-- For a statement within the limit the policy compares the true lengths, unless the row
itself is too long for an `int`. -/
theorem asksPacket_within {it : ρ} (int : limit < 2147483648)
    (within : Within rows verb limit pending) (short : (furtherRow rows it).length < 2147483648) :
    (asks rows (maxPacketInsertPolicy rows limit) verb pending it state).1 = true ↔
      ((statementText rows verb pending).length + (furtherRow rows it).length : Int) ≤ limit := by
  have small : (statementText rows verb pending).length < 2147483648 := by
    have bound : ((statementText rows verb pending).length : Int) ≤ limit := within
    omega
  have some : 3 ≤ (furtherRow rows it).length := three_le_furtherRow it
  rw [asksPacket_iff, intOf_small small, intOf_small short]
  omega

theorem Within.small (int : limit < 2147483648) (within : Within rows verb limit pending) :
    (statementText rows verb pending).length < 2147483648 := by
  have bound : ((statementText rows verb pending).length : Int) ≤ limit := within
  omega

theorem AdmittedAlone.of_admitted {it : ρ} (int : limit < 2147483648)
    (within : Within rows verb limit pending)
    (admitted : (asks rows (maxPacketInsertPolicy rows limit) verb pending it state).1 = true) :
    AdmittedAlone rows limit it := by
  obtain ⟨below, fits⟩ := asksPacket_iff.mp admitted
  rw [intOf_small (within.small int)] at below fits
  constructor <;> omega

/-- A row that is refused does not fit. -/
theorem not_fits_of_refused {it : ρ} (int : limit < 2147483648)
    (within : Within rows verb limit pending)
    (refused : (asks rows (maxPacketInsertPolicy rows limit) verb pending it state).1 = false) :
    ¬ ((statementText rows verb pending).length + (furtherRow rows it).length : Int) ≤ limit := by
  intro fits
  have short : (furtherRow rows it).length < 2147483648 := by omega
  have admitted : (asks rows (maxPacketInsertPolicy rows limit) verb pending it state).1 = true :=
    (asksPacket_within int within short).mpr fits
  exact absurd (admitted.symm.trans refused) (by decide)

theorem not_admittedAlone {it : ρ}
    (refused : (asks rows (maxPacketInsertPolicy rows limit) verb [] it state).1 = false) :
    ¬ AdmittedAlone rows limit it := fun alone =>
  absurd ((asksPacket_empty.mpr alone).symm.trans refused) (by decide)

/-- The statement with one more row that was admitted, and what is asked of the rest. -/
theorem within_append {it : ρ} (int : limit < 2147483648)
    (within : Within rows verb limit pending)
    (packs : PacksWithin rows verb limit (statementText rows verb pending).length (it :: rest))
    (admitted : (asks rows (maxPacketInsertPolicy rows limit) verb pending it state).1 = true) :
    Within rows verb limit (pending ++ [it]) ∧
      PacksWithin rows verb limit (statementText rows verb (pending ++ [it])).length rest := by
  have alone := AdmittedAlone.of_admitted int within admitted
  rw [Within, length_statementText_grown]
  rw [PacksWithin] at packs
  by_cases goesOn : (statementText rows verb pending).length ≠ 0 ∧
      ((statementText rows verb pending).length + (furtherRow rows it).length : Int) ≤ limit
  · rw [if_pos goesOn] at packs
    rw [grown, if_neg goesOn.1, Int.natCast_add]
    rw [grown, if_neg goesOn.1] at packs
    exact ⟨goesOn.2, packs⟩
  · rw [if_neg goesOn] at packs
    obtain ⟨fits, more⟩ := packs alone
    have empty : (statementText rows verb pending).length = 0 := by
      by_contra notEmpty
      have rowFits : (furtherRow rows it).length ≤ grown rows verb 0 it := furtherRow_le_grown it
      have short : (furtherRow rows it).length < 2147483648 := by omega
      exact goesOn ⟨notEmpty, (asksPacket_within int within short).mp admitted⟩
    rw [empty]
    exact ⟨fits, more⟩

/-- The same for a row that a statement was begun for. -/
theorem within_begun {it : ρ} (int : limit < 2147483648) (within : Within rows verb limit pending)
    (packs : PacksWithin rows verb limit (statementText rows verb pending).length (it :: rest))
    (refused : (asks rows (maxPacketInsertPolicy rows limit) verb pending it state).1 = false)
    (admitted : (asks rows (maxPacketInsertPolicy rows limit) verb [] it state).1 = true) :
    Within rows verb limit [it] ∧
      PacksWithin rows verb limit (statementText rows verb [it]).length rest := by
  rw [PacksWithin, if_neg fun both => not_fits_of_refused int within refused both.2] at packs
  exact packs (asksPacket_empty.mp admitted)

theorem within_of_packs (int : limit < 2147483648)
    (course : Batches pending rest batches given ending left)
    (follows : Follows (asks rows (maxPacketInsertPolicy rows limit) verb) state pending given)
    (within : Within rows verb limit pending)
    (packs : PacksWithin rows verb limit (statementText rows verb pending).length rest) :
    (∀ batch ∈ batches, Within rows verb limit batch.1) ∧ Within rows verb limit left := by
  induction course generalizing state with
  | done pending => exact ⟨List.forall_mem_nil _, within⟩
  | admitted it _later ih =>
      obtain ⟨admitted, later⟩ := follows_true.mp follows
      obtain ⟨longer, more⟩ := within_append int within packs admitted
      exact ih later longer more
  | emptyAgain it _later _ih =>
      obtain ⟨refused, later⟩ := follows_false.mp follows
      exact absurd (asksPacket_empty.mp (follows_true.mp later).1) (not_admittedAlone refused)
  | flushed it _some _later ih =>
      obtain ⟨refused, later⟩ := follows_false.mp follows
      obtain ⟨admitted, last⟩ := follows_true.mp later
      obtain ⟨begun, more⟩ := within_begun int within packs refused admitted
      obtain ⟨all, lastWithin⟩ := ih last begun more
      exact ⟨List.forall_mem_cons.mpr ⟨within, all⟩, lastWithin⟩
  | notTaken it rest _some => exact ⟨List.forall_mem_singleton.mpr within, within⟩
  | emptyRefused it rest => exact ⟨List.forall_mem_nil _, within⟩
  | @flushedRefused pending it rest _some =>
      have empty : (statementText rows verb []).length ≤ (statementText rows verb pending).length :=
        length_statementText_le rows verb List.nil_prefix
      have bound : ((statementText rows verb pending).length : Int) ≤ limit := within
      refine ⟨List.forall_mem_singleton.mpr within, ?_⟩
      rw [Within]
      omega

/-- What is at hand is within the limit if all batches will be. -/
theorem within_atHand (course : Batches pending rest batches given ending left)
    (some : pending ≠ []) (all : ∀ batch ∈ batches, Within rows verb limit batch.1)
    (last : ending = .complete → Within rows verb limit left) :
    Within rows verb limit pending := by
  have shorter : ∀ {group : List ρ}, pending <+: group → Within rows verb limit group →
      Within rows verb limit pending := by
    intro group front within
    have lengths := length_statementText_le rows verb front
    have bound : ((statementText rows verb group).length : Int) ≤ limit := within
    rw [Within]
    omega
  rcases course.atHand_kept some with ⟨group, member, front⟩ | ⟨complete, front⟩
  · exact shorter front (all group member)
  · exact shorter front (last complete)

theorem packs_of_within (int : limit < 2147483648)
    (course : Batches pending rest batches given ending left)
    (follows : Follows (asks rows (maxPacketInsertPolicy rows limit) verb) state pending given)
    (taken : ∀ batch ∈ batches, batch.2 = true)
    (all : ∀ batch ∈ batches, Within rows verb limit batch.1)
    (last : ending = .complete → Within rows verb limit left) :
    PacksWithin rows verb limit (statementText rows verb pending).length rest := by
  induction course generalizing state with
  | done pending => trivial
  | @admitted pending rest batches given ending left it later ih =>
      have more := ih (follows_true.mp follows).2 taken all last
      have longer := within_atHand later (by simp) all last
      rw [length_statementText_grown] at more
      rw [Within, length_statementText_grown] at longer
      rw [PacksWithin]
      by_cases empty : (statementText rows verb pending).length = 0
      · rw [if_neg fun both => both.1 empty]
        rw [empty] at more longer
        exact fun _ => ⟨longer, more⟩
      · have fits := longer
        rw [grown, if_neg empty, Int.natCast_add] at fits
        rw [if_pos ⟨empty, fits⟩]
        exact more
  | emptyAgain it _later _ih =>
      obtain ⟨refused, later⟩ := follows_false.mp follows
      exact absurd (asksPacket_empty.mp (follows_true.mp later).1) (not_admittedAlone refused)
  | flushed it some later ih =>
      obtain ⟨refused, again⟩ := follows_false.mp follows
      obtain ⟨within, rest⟩ := List.forall_mem_cons.mp all
      have more := ih (follows_true.mp again).2 (List.forall_mem_cons.mp taken).2 rest last
      have begun := within_atHand later (List.cons_ne_nil it []) rest last
      rw [PacksWithin, if_neg fun both => not_fits_of_refused int within refused both.2]
      exact fun _ => ⟨begun, more⟩
  | notTaken it rest _some => exact absurd (taken _ List.mem_cons_self) Bool.false_ne_true
  | emptyRefused it rest =>
      have refused := (follows_false.mp follows).1
      rw [PacksWithin, if_neg fun both => both.1 rfl]
      exact fun alone => absurd alone (not_admittedAlone refused)
  | flushedRefused it rest _some =>
      obtain ⟨refused, again⟩ := follows_false.mp follows
      have within := List.forall_mem_singleton.mp all
      rw [PacksWithin, if_neg fun both => not_fits_of_refused int within refused both.2]
      exact fun alone => absurd alone (not_admittedAlone (follows_false.mp again).1)

end MaxPacket

section MaxPacketRuns

variable {ρ : Type} (rows : SSQLS ρ) (limit : Int) (replaces : Bool) (items : List ρ)

/-- No statement that an insertion of these rows hands over is longer than the limit,
whatever it meets. -/
def KeepsLimit : Prop :=
  ∀ (δ κ : Type) (driver : DBDriver δ) (controller : AccessController δ κ)
    (before : Insertion δ ρ Unit),
    let after := ((insertOrReplace rows driver (maxPacketInsertPolicy rows limit) controller
      replaces items).run before).final
    ∀ statement ∈ after.executed.drop before.executed.length,
      (statement.sent.text.length : Int) ≤ limit

variable {rows limit replaces items}

theorem handedOver_iff {δ κ : Type} {driver : DBDriver δ} {controller : AccessController δ κ}
    {before after : Insertion δ ρ Unit} {batches : List (List ρ × Bool)}
    {given : List (ρ × Bool)}
    (inserted : Inserted rows driver (maxPacketInsertPolicy rows limit) controller
      (insertVerb replaces) items before after batches given) :
    (∀ statement ∈ after.executed.drop before.executed.length,
        (statement.sent.text.length : Int) ≤ limit) ↔
      ∀ batch ∈ batches, Within rows (insertVerb replaces) limit batch.1 := by
  rw [inserted.executed, List.drop_left, List.forall_mem_map]
  rfl

/-- With no room at all the first row is refused. -/
theorem batches_of_noRoom {batches : List (List ρ × Bool)} {given : List (ρ × Bool)}
    {success : Bool} {verb : Bytes} (noRoom : ¬ 0 < limit)
    (worked : WorkedOff items batches given success)
    (follows : Follows (asks rows (maxPacketInsertPolicy rows limit) verb) () [] given) :
    batches = [] := by
  have never : ∀ it state,
      (asks rows (maxPacketInsertPolicy rows limit) verb [] it state).1 ≠ true :=
    fun it state admitted => noRoom (asksPacket_empty.mp admitted).1
  cases worked with
  | handedOver _taken course some =>
      cases course with
      | done => exact absurd rfl some
      | admitted it _later => exact absurd (follows_true.mp follows).1 (never it ())
      | emptyAgain it _later =>
          exact absurd (follows_true.mp (follows_false.mp follows).2).1 (never it _)
      | flushed _it some _later => exact absurd rfl some
  | stopped course _incomplete =>
      cases course with
      | done => rfl
      | admitted it _later => exact absurd (follows_true.mp follows).1 (never it ())
      | emptyAgain it _later =>
          exact absurd (follows_true.mp (follows_false.mp follows).2).1 (never it _)
      | flushed _it some _later => exact absurd rfl some
      | notTaken _it _rest some => exact absurd rfl some
      | emptyRefused => rfl
      | flushedRefused _it _rest some => exact absurd rfl some

theorem within_of_worked {batches : List (List ρ × Bool)} {given : List (ρ × Bool)}
    {success : Bool} {verb : Bytes} (int : limit < 2147483648)
    (worked : WorkedOff items batches given success)
    (follows : Follows (asks rows (maxPacketInsertPolicy rows limit) verb) () [] given)
    (packs : PacksWithin rows verb limit 0 items) :
    ∀ batch ∈ batches, Within rows verb limit batch.1 := by
  by_cases room : 0 < limit
  · have nothing : Within rows verb limit [] := Int.le_of_lt room
    cases worked with
    | handedOver _taken course _some =>
        obtain ⟨all, last⟩ := within_of_packs int course follows nothing packs
        exact List.forall_mem_append.mpr ⟨all, List.forall_mem_singleton.mpr last⟩
    | stopped course _incomplete => exact (within_of_packs int course follows nothing packs).1
  · rw [batches_of_noRoom room worked follows]
    exact List.forall_mem_nil _

theorem packs_of_worked {batches : List (List ρ × Bool)} {given : List (ρ × Bool)}
    {success : Bool} {verb : Bytes} (int : limit < 2147483648)
    (worked : WorkedOff items batches given success)
    (follows : Follows (asks rows (maxPacketInsertPolicy rows limit) verb) () [] given)
    (taken : ∀ batch ∈ batches, batch.2 = true)
    (all : ∀ batch ∈ batches, Within rows verb limit batch.1) :
    PacksWithin rows verb limit 0 items := by
  cases worked with
  | handedOver _taken course _some =>
      obtain ⟨earlierTaken, _lastTaken⟩ := List.forall_mem_append.mp taken
      obtain ⟨earlier, last⟩ := List.forall_mem_append.mp all
      exact packs_of_within int course follows earlierTaken earlier
        fun _ => last _ (List.mem_singleton_self _)
  | stopped course incomplete =>
      exact packs_of_within int course follows taken all fun complete => absurd complete incomplete

theorem keepsLimit_of_packs (int : limit < 2147483648)
    (packs : PacksWithin rows (insertVerb replaces) limit 0 items) :
    KeepsLimit rows limit replaces items := by
  intro δ κ driver controller before
  obtain ⟨batches, given, inserted⟩ := insertOrReplace_inserted rows driver
    (maxPacketInsertPolicy rows limit) controller replaces items before
  apply (handedOver_iff inserted).mpr
  by_cases begins : Begins controller items before
  · obtain ⟨success, worked⟩ := inserted.worked begins
    exact within_of_worked int worked inserted.follows packs
  · rw [(inserted.nothing begins).1]
    exact List.forall_mem_nil _

/-- On a server that executes everything, the rows are packed as far as they go. -/
theorem packs_of_keepsLimit (int : limit < 2147483648)
    (keeps : KeepsLimit rows limit replaces items) :
    PacksWithin rows (insertVerb replaces) limit 0 items := by
  by_cases none : items = []
  · rw [none]
    trivial
  · obtain ⟨batches, given, inserted⟩ := insertOrReplace_inserted rows acceptingDriver
      (maxPacketInsertPolicy rows limit) (NoTransaction.controller Unit) replaces items
      (freshInsertion ())
    obtain ⟨success, worked⟩ := inserted.worked ⟨none, (), _, rfl⟩
    exact packs_of_worked int worked inserted.follows inserted.taken_of_accepting
      ((handedOver_iff inserted).mp (keeps Unit Unit _ _ _))

end MaxPacketRuns

/-- The limit is kept for a list of rows exactly if every row fits where the packing puts
it: the policy does not count the beginning of a statement. -/
theorem insertion_limit_iff {ρ : Type} (rows : SSQLS ρ) (limit : Int32) (replaces : Bool)
    (items : List ρ) :
    KeepsLimit rows limit.toInt replaces items ↔
      PacksWithin rows (insertVerb replaces) limit.toInt 0 items :=
  ⟨packs_of_keepsLimit limit.toInt_lt, keepsLimit_of_packs limit.toInt_lt⟩

theorem singleRow_over_limit : ¬ KeepsLimit singleColumn (20 : Int32).toInt false [ascii "1"] := by
  intro keeps
  have packs := packs_of_keepsLimit (20 : Int32).toInt_lt keeps
  rw [PacksWithin, if_neg fun both => both.1 rfl] at packs
  exact absurd (packs ⟨by decide, by decide⟩).1 (by decide)

/-! ### Counted rows -/

section RowCount

/-- A call of `insertfrom` or `replacefrom`, with all that it meets but the policy. -/
structure InsertCall where
  Row : Type
  Driver : Type
  Access : Type
  rows : SSQLS Row
  driver : DBDriver Driver
  controller : AccessController Driver Access
  replaces : Bool
  items : List Row
  query : Query
  traffic : Traffic Driver

namespace InsertCall

def verb (call : InsertCall) : Bytes := insertVerb call.replaces

def before (call : InsertCall) (curRows : UInt32) : Insertion call.Driver call.Row UInt32 :=
  { query := call.query
    traffic := call.traffic
    policy := curRows
    answers := []
    calls := [] }

def after (call : InsertCall) (maxRows curRows : UInt32) :
    Insertion call.Driver call.Row UInt32 :=
  ((insertOrReplace call.rows call.driver (rowCountInsertPolicy call.Row maxRows)
    call.controller call.replaces call.items).run (call.before curRows)).final

/-- What the counter is asked; neither the rows nor the statement matter. -/
abbrev asksCount (call : InsertCall) (maxRows : UInt32) :
    List call.Row → call.Row → UInt32 → Bool × UInt32 :=
  asks call.rows (rowCountInsertPolicy call.Row maxRows) call.verb

/-- No statement has more than `maxRows` rows, no row is refused twice, and the counter is
in bounds behind every question. -/
structure Counted (call : InsertCall) (maxRows curRows : UInt32)
    (batches : List (List call.Row × Bool)) (given : List (call.Row × Bool)) : Prop where
  inserted : Inserted call.rows call.driver (rowCountInsertPolicy call.Row maxRows)
    call.controller call.verb call.items (call.before curRows) (call.after maxRows curRows)
    batches given
  bounded : ∀ batch ∈ batches, batch.1.length ≤ maxRows.toNat
  notTooStrict : ¬ ∃ earlier item, given = earlier ++ [(item, false), (item, false)]
  counter : ∀ asked, asked <+: given →
    policyAfter (call.asksCount maxRows) curRows [] asked ≤ maxRows

/-- A call with more rows than the policy counts, whose transaction begins. -/
def TooLong (call : InsertCall) (maxRows : UInt32) : Prop :=
  (∃ ac conn, call.controller.construct.run call.traffic.connection = .ok ac conn) ∧
    maxRows.toNat < call.items.length

end InsertCall

/-- All calls of a sequence are counted rightly, each with the count that the one before
it has left. -/
def AllCounted (maxRows : UInt32) : UInt32 → List InsertCall → Prop
  | _, [] => True
  | curRows, call :: more =>
      (∃ batches given, call.Counted maxRows curRows batches given) ∧
        AllCounted maxRows (call.after maxRows curRows).policy more

variable {maxRows curRows : UInt32}

theorem asksCount_true {call : InsertCall} {pending : List call.Row} {item : call.Row}
    (admitted : (call.asksCount maxRows pending item curRows).1 = true) :
    curRows + 1 ≤ maxRows ∧ (call.asksCount maxRows pending item curRows).2 = curRows + 1 := by
  simp only [InsertCall.asksCount, asks, rowCountInsertPolicy] at admitted ⊢
  by_cases passes : maxRows < curRows + 1
  · rw [if_pos passes] at admitted
    cases admitted
  · rw [if_neg passes]
    exact ⟨UInt32.not_lt.mp passes, rfl⟩

theorem asksCount_false {call : InsertCall} {pending : List call.Row} {item : call.Row}
    (refused : (call.asksCount maxRows pending item curRows).1 = false) :
    maxRows < curRows + 1 ∧ (call.asksCount maxRows pending item curRows).2 = 0 := by
  simp only [InsertCall.asksCount, asks, rowCountInsertPolicy] at refused ⊢
  by_cases passes : maxRows < curRows + 1
  · rw [if_pos passes]
    exact ⟨passes, rfl⟩
  · rw [if_neg passes] at refused
    cases refused

theorem asksCount_again (positive : 0 < maxRows) (call : InsertCall) (curRows : UInt32)
    (pending : List call.Row) (item : call.Row)
    (refused : (call.asksCount maxRows pending item curRows).1 = false) :
    (call.asksCount maxRows [] item (call.asksCount maxRows pending item curRows).2).1 = true := by
  rw [(asksCount_false refused).2]
  have notOver : ¬ maxRows < 0 + 1 := by
    rw [UInt32.lt_iff_toNat_lt] at positive ⊢
    exact Nat.not_lt.mpr positive
  simp only [InsertCall.asksCount, asks, rowCountInsertPolicy, if_neg notOver]

theorem counter_kept (call : InsertCall) (maxRows : UInt32) :
    Keeps (call.asksCount maxRows) fun curRows _ => curRows ≤ maxRows where
  admitted _ _ _ _ admitted := by
    rw [(asksCount_true admitted).2]
    exact (asksCount_true admitted).1
  refused _ _ _ _ refused := by
    rw [(asksCount_false refused).2]
    exact UInt32.zero_le

/-- Below the largest `unsigned int` the counter is at least the rows of the statement: it
may have been left higher by an earlier call, but never lower. -/
theorem rows_kept (call : InsertCall) (small : maxRows ≠ 4294967295) :
    Keeps (call.asksCount maxRows) fun curRows pending =>
      curRows ≤ maxRows ∧ pending.length ≤ curRows.toNat where
  admitted curRows pending item holds admitted := by
    obtain ⟨within, counted⟩ := asksCount_true admitted
    have below : curRows.toNat ≤ maxRows.toNat := UInt32.le_iff_toNat_le.mp holds.1
    have notLargest : maxRows.toNat ≠ 4294967295 := by
      intro largest
      exact small (UInt32.toNat_inj.mp largest)
    have range := maxRows.toNat_lt
    have successor : (curRows + 1).toNat = curRows.toNat + 1 := by
      rw [UInt32.toNat_add, UInt32.toNat_one]
      omega
    rw [counted]
    refine ⟨within, ?_⟩
    rw [successor, List.length_append, List.length_singleton]
    exact Nat.add_le_add_right holds.2 1
  refused _ _ _ _ refused := by
    rw [(asksCount_false refused).2]
    exact ⟨UInt32.zero_le, Nat.zero_le _⟩

/-- The largest count is never exceeded: the counter goes from it to zero. -/
theorem asksCount_largest (call : InsertCall) (curRows : UInt32) (pending : List call.Row)
    (item : call.Row) : (call.asksCount 4294967295 pending item curRows).1 = true := by
  cases answer : (call.asksCount 4294967295 pending item curRows).1 with
  | true => rfl
  | false =>
      have passes := UInt32.lt_iff_toNat_lt.mp (asksCount_false answer).1
      have range := (curRows + 1).toNat_lt
      have largest : (4294967295 : UInt32).toNat = 4294967295 := rfl
      omega

theorem counter_within (call : InsertCall) {given : List (call.Row × Bool)}
    (stale : curRows ≤ maxRows) (follows : Follows (call.asksCount maxRows) curRows [] given)
    {asked : List (call.Row × Bool)} (front : asked <+: given) :
    policyAfter (call.asksCount maxRows) curRows [] asked ≤ maxRows := by
  obtain ⟨back, rfl⟩ := front
  exact (counter_kept call maxRows).after stale (follows_append.mp follows).1

theorem InsertCall.inserted (call : InsertCall) (maxRows curRows : UInt32) :
    ∃ batches given, Inserted call.rows call.driver (rowCountInsertPolicy call.Row maxRows)
      call.controller call.verb call.items (call.before curRows) (call.after maxRows curRows)
      batches given :=
  insertOrReplace_inserted call.rows call.driver _ call.controller call.replaces call.items _

theorem InsertCall.counted_of_bounded {call : InsertCall} (positive : 0 < maxRows)
    (stale : curRows ≤ maxRows) {batches : List (List call.Row × Bool)}
    {given : List (call.Row × Bool)}
    (inserted : Inserted call.rows call.driver (rowCountInsertPolicy call.Row maxRows)
      call.controller call.verb call.items (call.before curRows) (call.after maxRows curRows)
      batches given)
    (bounded : ∀ batch ∈ batches, batch.1.length ≤ maxRows.toNat) :
    call.Counted maxRows curRows batches given where
  inserted := inserted
  bounded := bounded
  notTooStrict := inserted.follows.not_twice (asksCount_again positive call)
  counter _ front := counter_within call stale inserted.follows front

theorem InsertCall.counted_small (call : InsertCall) (positive : 0 < maxRows)
    (small : maxRows ≠ 4294967295) (stale : curRows ≤ maxRows) :
    ∃ batches given, call.Counted maxRows curRows batches given := by
  obtain ⟨batches, given, inserted⟩ := call.inserted maxRows curRows
  refine ⟨batches, given, counted_of_bounded positive stale inserted ?_⟩
  by_cases begins : Begins call.controller call.items (call.before curRows)
  · obtain ⟨success, worked⟩ := inserted.worked begins
    intro batch member
    obtain ⟨reached, within, counted⟩ := worked.kept (rows_kept call small)
      ⟨stale, Nat.zero_le _⟩ inserted.follows batch member
    exact counted.trans (UInt32.le_iff_toNat_le.mp within)
  · rw [(inserted.nothing begins).1]
    exact List.forall_mem_nil _

theorem InsertCall.counted_largest (call : InsertCall) (curRows : UInt32) :
    (∃ batches given, call.Counted 4294967295 curRows batches given) ↔
      ¬ call.TooLong 4294967295 := by
  have whole : ∀ {batches given},
      Inserted call.rows call.driver (rowCountInsertPolicy call.Row 4294967295) call.controller
        call.verb call.items (call.before curRows) (call.after 4294967295 curRows) batches given →
      Begins call.controller call.items (call.before curRows) →
      ∃ success, batches = [(call.items, success)] := by
    intro batches given inserted begins
    obtain ⟨success, worked⟩ := inserted.worked begins
    exact ⟨success, worked.of_all_true (inserted.follows.all_true (asksCount_largest call))⟩
  have stale : curRows ≤ 4294967295 :=
    UInt32.le_iff_toNat_le.mpr (Nat.le_of_lt_succ curRows.toNat_lt)
  constructor
  · rintro ⟨batches, given, counted⟩ ⟨constructs, tooMany⟩
    have some : call.items ≠ [] := List.ne_nil_of_length_pos (Nat.zero_lt_of_lt tooMany)
    obtain ⟨success, single⟩ := whole counted.inserted ⟨some, constructs⟩
    have bounded := counted.bounded (call.items, success)
      (single ▸ List.mem_singleton_self _)
    exact Nat.not_lt.mpr bounded tooMany
  · intro notTooLong
    obtain ⟨batches, given, inserted⟩ := call.inserted 4294967295 curRows
    refine ⟨batches, given, counted_of_bounded (by decide) stale inserted ?_⟩
    by_cases begins : Begins call.controller call.items (call.before curRows)
    · obtain ⟨success, single⟩ := whole inserted begins
      rw [single]
      exact List.forall_mem_singleton.mpr
        (Nat.not_lt.mp fun tooMany => notTooLong ⟨begins.2, tooMany⟩)
    · rw [(inserted.nothing begins).1]
      exact List.forall_mem_nil _

theorem InsertCall.count_left (call : InsertCall) (stale : curRows ≤ maxRows) :
    (call.after maxRows curRows).policy ≤ maxRows := by
  obtain ⟨batches, given, inserted⟩ := call.inserted maxRows curRows
  rw [inserted.policy]
  exact counter_within call stale inserted.follows List.prefix_rfl

/-- A sequence of calls that use one policy object, whatever count it begins with. -/
theorem allCounted_iff (maxRows curRows : UInt32) (positive : 0 < maxRows)
    (stale : curRows ≤ maxRows) (calls : List InsertCall) :
    AllCounted maxRows curRows calls ↔
      (maxRows = 4294967295 → ∀ call ∈ calls, ¬ call.TooLong maxRows) := by
  induction calls generalizing curRows with
  | nil => exact iff_of_true trivial fun _ => List.forall_mem_nil _
  | cons call more ih =>
      rw [AllCounted, ih _ (call.count_left stale)]
      by_cases largest : maxRows = 4294967295
      · subst largest
        rw [call.counted_largest, List.forall_mem_cons]
        exact ⟨fun both _ => ⟨both.1, both.2 rfl⟩, fun all => ⟨(all rfl).1, fun _ => (all rfl).2⟩⟩
      · exact iff_of_true ⟨call.counted_small positive largest stale, fun is => absurd is largest⟩
          fun is => absurd is largest

def singleRow : SSQLS Unit where
  table _ := ascii "t"
  fieldList _ := ascii "\x60v\x60"
  valueList _ := ascii "1"

def callWithRows (count : Nat) : InsertCall where
  Row := Unit
  Driver := Unit
  Access := Unit
  rows := singleRow
  driver := acceptingDriver
  controller := NoTransaction.controller Unit
  replaces := false
  items := List.replicate count ()
  query := Query.new 0 false []
  traffic := { state := (), statements := [] }

theorem allCounted_iff_staleCount :
    (0 : UInt32) < 2 ∧ (1 : UInt32) ≤ 2 ∧
      (AllCounted 2 1 [callWithRows 3, callWithRows 5] ↔
        ((2 : UInt32) = 4294967295 →
          ∀ call ∈ [callWithRows 3, callWithRows 5], ¬ call.TooLong 2)) :=
  ⟨by decide, by decide,
    allCounted_iff 2 1 (by decide) (by decide) [callWithRows 3, callWithRows 5]⟩

/-- All 4294967296 rows go into one statement. -/
theorem largestCount_overflows :
    ¬ AllCounted 4294967295 0 [callWithRows 4294967296] := by
  intro both
  obtain ⟨counted, _more⟩ := both
  apply ((callWithRows 4294967296).counted_largest 0).mp counted
  refine ⟨⟨(), _, rfl⟩, ?_⟩
  change 4294967295 < (List.replicate 4294967296 ()).length
  rw [List.length_replicate]
  decide

end RowCount

end LibTabula
