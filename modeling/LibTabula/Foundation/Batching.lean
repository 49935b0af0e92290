/-
Working off a list in batches.

A policy is asked about each item. An item that it admits joins the batch at hand; if
it refuses one, the batch is handed over and the policy is asked again, now about a
batch of its own. The work ends early with a batch that is not taken, or an item that
is refused twice. A derivation of `Batches` is such a course of events.
-/

import Mathlib.Data.List.Basic

set_option autoImplicit false

namespace Foundation

variable {ρ : Type}

/-- How the work comes to its end. -/
inductive Ending
  | complete
  | failed
  | refused
deriving DecidableEq, Repr

/-- `Batches pending rest groups answers ending left`: with `pending` as the batch at
hand and `rest` still ahead, the batches of `groups` are handed over, each with whether
it was taken, the policy gives `answers`, and `left` is at hand in the end. -/
inductive Batches : List ρ → List ρ → List (List ρ × Bool) → List (ρ × Bool) → Ending →
    List ρ → Prop
  | done (pending : List ρ) : Batches pending [] [] [] .complete pending
  | admitted {pending rest : List ρ} {groups : List (List ρ × Bool)} {answers : List (ρ × Bool)}
      {ending : Ending} {left : List ρ} (item : ρ) :
      Batches (pending ++ [item]) rest groups answers ending left →
      Batches pending (item :: rest) groups ((item, true) :: answers) ending left
  | emptyAgain {rest : List ρ} {groups : List (List ρ × Bool)} {answers : List (ρ × Bool)}
      {ending : Ending} {left : List ρ} (item : ρ) :
      Batches [item] rest groups answers ending left →
      Batches [] (item :: rest) groups ((item, false) :: (item, true) :: answers) ending left
  | flushed {pending rest : List ρ} {groups : List (List ρ × Bool)}
      {answers : List (ρ × Bool)} {ending : Ending} {left : List ρ} (item : ρ) :
      pending ≠ [] → Batches [item] rest groups answers ending left →
      Batches pending (item :: rest) ((pending, true) :: groups)
        ((item, false) :: (item, true) :: answers) ending left
  | notTaken {pending : List ρ} (item : ρ) (rest : List ρ) :
      pending ≠ [] →
      Batches pending (item :: rest) [(pending, false)] [(item, false)] .failed pending
  | emptyRefused (item : ρ) (rest : List ρ) :
      Batches [] (item :: rest) [] [(item, false), (item, false)] .refused []
  | flushedRefused {pending : List ρ} (item : ρ) (rest : List ρ) :
      pending ≠ [] →
      Batches pending (item :: rest) [(pending, true)] [(item, false), (item, false)] .refused []

def admittedItems (answers : List (ρ × Bool)) : List ρ :=
  (answers.filter Prod.snd).map Prod.fst

def batchedItems (groups : List (List ρ × Bool)) : List ρ := (groups.map Prod.fst).flatten

@[simp] theorem admittedItems_nil : admittedItems ([] : List (ρ × Bool)) = [] := rfl

@[simp] theorem admittedItems_true (item : ρ) (answers : List (ρ × Bool)) :
    admittedItems ((item, true) :: answers) = item :: admittedItems answers := rfl

@[simp] theorem admittedItems_false (item : ρ) (answers : List (ρ × Bool)) :
    admittedItems ((item, false) :: answers) = admittedItems answers := rfl

@[simp] theorem batchedItems_nil : batchedItems ([] : List (List ρ × Bool)) = [] := rfl

@[simp] theorem batchedItems_cons (group : List ρ × Bool) (groups : List (List ρ × Bool)) :
    batchedItems (group :: groups) = group.1 ++ batchedItems groups := rfl

theorem batchedItems_append (front back : List (List ρ × Bool)) :
    batchedItems (front ++ back) = batchedItems front ++ batchedItems back := by
  rw [batchedItems, List.map_append, List.flatten_append, batchedItems, batchedItems]

namespace Batches

variable {pending rest : List ρ} {groups : List (List ρ × Bool)} {answers : List (ρ × Bool)}
  {ending : Ending} {left : List ρ}

theorem group_ne_nil (batches : Batches pending rest groups answers ending left) :
    ∀ group ∈ groups, group.1 ≠ [] := by
  induction batches with
  | done pending =>
      intro group impossible
      cases impossible
  | admitted item _later ih => exact ih
  | emptyAgain item _later ih => exact ih
  | flushed item some _later ih => exact List.forall_mem_cons.mpr ⟨some, ih⟩
  | notTaken item rest some => exact List.forall_mem_singleton.mpr some
  | emptyRefused item rest =>
      intro group impossible
      cases impossible
  | flushedRefused item rest some => exact List.forall_mem_singleton.mpr some

theorem prefix_items (batches : Batches pending rest groups answers ending left) :
    batchedItems groups <+: pending ++ rest := by
  induction batches with
  | done pending => exact List.nil_prefix
  | admitted item _later ih =>
      rw [List.append_assoc, List.singleton_append] at ih
      exact ih
  | emptyAgain item _later ih => exact ih
  | flushed item _some _later ih =>
      rw [batchedItems_cons]
      exact (List.prefix_append_right_inj _).mpr ih
  | notTaken item rest _some =>
      rw [batchedItems_cons, batchedItems_nil, List.append_nil]
      exact List.prefix_append _ _
  | emptyRefused item rest => exact List.nil_prefix
  | flushedRefused item rest _some =>
      rw [batchedItems_cons, batchedItems_nil, List.append_nil]
      exact List.prefix_append _ _

theorem complete_items (batches : Batches pending rest groups answers ending left)
    (complete : ending = .complete) : batchedItems groups ++ left = pending ++ rest := by
  induction batches with
  | done pending => rw [batchedItems_nil, List.nil_append, List.append_nil]
  | admitted item _later ih =>
      rw [ih complete, List.append_assoc, List.singleton_append]
  | emptyAgain item _later ih => exact ih complete
  | flushed item _some _later ih =>
      rw [batchedItems_cons, List.append_assoc, ih complete, List.singleton_append]
  | notTaken item rest _some => cases complete
  | emptyRefused item rest => cases complete
  | flushedRefused item rest _some => cases complete

theorem complete_left (batches : Batches pending rest groups answers ending left)
    (complete : ending = .complete) (some : pending ++ rest ≠ []) : left ≠ [] := by
  induction batches with
  | done pending =>
      rw [List.append_nil] at some
      exact some
  | admitted item _later ih =>
      apply ih complete
      simp
  | emptyAgain item _later ih =>
      apply ih complete
      simp
  | flushed item _some _later ih =>
      apply ih complete
      simp
  | notTaken item rest _some => cases complete
  | emptyRefused item rest => cases complete
  | flushedRefused item rest _some => cases complete

theorem taken (batches : Batches pending rest groups answers ending left)
    (notFailed : ending ≠ .failed) : ∀ group ∈ groups, group.2 = true := by
  induction batches with
  | done pending =>
      intro group impossible
      cases impossible
  | admitted item _later ih => exact ih notFailed
  | emptyAgain item _later ih => exact ih notFailed
  | flushed item _some _later ih => exact List.forall_mem_cons.mpr ⟨rfl, ih notFailed⟩
  | notTaken item rest _some => exact absurd rfl notFailed
  | emptyRefused item rest =>
      intro group impossible
      cases impossible
  | flushedRefused item rest _some => exact List.forall_mem_singleton.mpr rfl

theorem failed_last (batches : Batches pending rest groups answers ending left)
    (failed : ending = .failed) :
    ∃ front last, groups = front ++ [(last, false)] ∧ ∀ group ∈ front, group.2 = true := by
  induction batches with
  | done pending => cases failed
  | admitted item _later ih => exact ih failed
  | emptyAgain item _later ih => exact ih failed
  | @flushed pending rest groups answers ending left item some _later ih =>
      obtain ⟨front, last, split, taken⟩ := ih failed
      refine ⟨(pending, true) :: front, last, ?_, List.forall_mem_cons.mpr ⟨rfl, taken⟩⟩
      rw [split, List.cons_append]
  | @notTaken pending item rest some =>
      refine ⟨[], pending, rfl, ?_⟩
      intro group impossible
      cases impossible
  | emptyRefused item rest => cases failed
  | flushedRefused item rest _some => cases failed

theorem complete_admitted (batches : Batches pending rest groups answers ending left)
    (complete : ending = .complete) : admittedItems answers = rest := by
  induction batches with
  | done pending => rfl
  | admitted item _later ih => rw [admittedItems_true, ih complete]
  | emptyAgain item _later ih => rw [admittedItems_false, admittedItems_true, ih complete]
  | flushed item _some _later ih => rw [admittedItems_false, admittedItems_true, ih complete]
  | notTaken item rest _some => cases complete
  | emptyRefused item rest => cases complete
  | flushedRefused item rest _some => cases complete

/-- Any other work has not. -/
theorem admitted_shorter (batches : Batches pending rest groups answers ending left)
    (incomplete : ending ≠ .complete) : (admittedItems answers).length < rest.length := by
  induction batches with
  | done pending => exact absurd rfl incomplete
  | admitted item _later ih =>
      have shorter := ih incomplete
      rw [admittedItems_true, List.length_cons, List.length_cons]
      omega
  | emptyAgain item _later ih =>
      have shorter := ih incomplete
      rw [admittedItems_false, admittedItems_true, List.length_cons, List.length_cons]
      omega
  | flushed item _some _later ih =>
      have shorter := ih incomplete
      rw [admittedItems_false, admittedItems_true, List.length_cons, List.length_cons]
      omega
  | notTaken item rest _some =>
      rw [admittedItems_false, admittedItems_nil, List.length_nil, List.length_cons]
      omega
  | emptyRefused item rest =>
      rw [admittedItems_false, admittedItems_false, admittedItems_nil, List.length_nil,
        List.length_cons]
      omega
  | flushedRefused item rest _some =>
      rw [admittedItems_false, admittedItems_false, admittedItems_nil, List.length_nil,
        List.length_cons]
      omega

/-- A work that ends with a refusal ends with two refusals of one item. -/
theorem refused_twice (batches : Batches pending rest groups answers ending left)
    (refused : ending = .refused) :
    ∃ earlier item, answers = earlier ++ [(item, false), (item, false)] := by
  induction batches with
  | done pending => cases refused
  | admitted item _later ih =>
      obtain ⟨earlier, last, split⟩ := ih refused
      exact ⟨(item, true) :: earlier, last, by rw [split, List.cons_append]⟩
  | emptyAgain item _later ih =>
      obtain ⟨earlier, last, split⟩ := ih refused
      exact ⟨(item, false) :: (item, true) :: earlier, last, by rw [split]; rfl⟩
  | flushed item _some _later ih =>
      obtain ⟨earlier, last, split⟩ := ih refused
      exact ⟨(item, false) :: (item, true) :: earlier, last, by rw [split]; rfl⟩
  | notTaken item rest _some => cases refused
  | emptyRefused item rest => exact ⟨[], item, rfl⟩
  | flushedRefused item rest _some => exact ⟨[], item, rfl⟩

/-- What is at hand ends up in a batch. -/
theorem atHand_kept (batches : Batches pending rest groups answers ending left)
    (some : pending ≠ []) :
    (∃ group ∈ groups, pending <+: group.1) ∨ ending = .complete ∧ pending <+: left := by
  induction batches with
  | done pending => exact Or.inr ⟨rfl, List.prefix_rfl⟩
  | @admitted pending rest groups answers ending left item _later ih =>
      have longer : pending <+: pending ++ [item] := List.prefix_append pending [item]
      rcases ih (by simp) with ⟨group, member, within⟩ | ⟨complete, within⟩
      · exact Or.inl ⟨group, member, longer.trans within⟩
      · exact Or.inr ⟨complete, longer.trans within⟩
  | emptyAgain item _later _ih => exact absurd rfl some
  | flushed item _some _later _ih =>
      exact Or.inl ⟨_, List.mem_cons_self, List.prefix_rfl⟩
  | notTaken item rest _some => exact Or.inl ⟨_, List.mem_cons_self, List.prefix_rfl⟩
  | emptyRefused item rest => exact absurd rfl some
  | flushedRefused item rest _some => exact Or.inl ⟨_, List.mem_cons_self, List.prefix_rfl⟩

/-- If nothing is refused, everything is in the batch at hand in the end. -/
theorem of_all_true (batches : Batches pending rest groups answers ending left)
    (admits : ∀ answer ∈ answers, answer.2 = true) :
    groups = [] ∧ ending = .complete ∧ left = pending ++ rest := by
  induction batches with
  | done pending => exact ⟨rfl, rfl, (List.append_nil _).symm⟩
  | admitted item _later ih =>
      obtain ⟨none, complete, all⟩ := ih (List.forall_mem_cons.mp admits).2
      refine ⟨none, complete, ?_⟩
      rw [all, List.append_assoc, List.singleton_append]
  | emptyAgain item _later _ih => exact absurd (List.forall_mem_cons.mp admits).1 (by simp)
  | flushed item _some _later _ih => exact absurd (List.forall_mem_cons.mp admits).1 (by simp)
  | notTaken item rest _some => exact absurd (List.forall_mem_cons.mp admits).1 (by simp)
  | emptyRefused item rest => exact absurd (List.forall_mem_cons.mp admits).1 (by simp)
  | flushedRefused item rest _some => exact absurd (List.forall_mem_cons.mp admits).1 (by simp)

end Batches

/-! ### Policies -/

section Policy

variable {π : Type} (ask : List ρ → ρ → π → Bool × π)

/-- The batch at hand after some answers. -/
def atHand : List ρ → List (ρ × Bool) → List ρ
  | pending, [] => pending
  | pending, (item, answer) :: rest => atHand (if answer then pending ++ [item] else []) rest

def policyAfter : π → List ρ → List (ρ × Bool) → π
  | state, _, [] => state
  | state, pending, (item, answer) :: rest =>
      policyAfter (ask pending item state).2 (if answer then pending ++ [item] else []) rest

/-- The answers are those of a policy that is asked with the batch at hand. -/
def Follows : π → List ρ → List (ρ × Bool) → Prop
  | _, _, [] => True
  | state, pending, (item, answer) :: rest =>
      (ask pending item state).1 = answer ∧
        Follows (ask pending item state).2 (if answer then pending ++ [item] else []) rest

variable {ask} {state : π} {pending : List ρ} {item : ρ} {answers more : List (ρ × Bool)}

theorem follows_true :
    Follows ask state pending ((item, true) :: answers) ↔
      (ask pending item state).1 = true ∧
        Follows ask (ask pending item state).2 (pending ++ [item]) answers := Iff.rfl

theorem follows_false :
    Follows ask state pending ((item, false) :: answers) ↔
      (ask pending item state).1 = false ∧
        Follows ask (ask pending item state).2 [] answers := Iff.rfl

theorem follows_append :
    Follows ask state pending (answers ++ more) ↔
      Follows ask state pending answers ∧
        Follows ask (policyAfter ask state pending answers) (atHand pending answers) more := by
  induction answers generalizing state pending with
  | nil => exact (true_and _).to_iff.symm
  | cons first rest ih =>
      rw [List.cons_append, Follows, Follows, ih, and_assoc]
      rfl

theorem policyAfter_append :
    policyAfter ask state pending (answers ++ more) =
      policyAfter ask (policyAfter ask state pending answers) (atHand pending answers) more := by
  induction answers generalizing state pending with
  | nil => rfl
  | cons first rest ih =>
      rw [List.cons_append, policyAfter, policyAfter, ih]
      rfl

theorem Follows.all_true (always : ∀ state pending item, (ask pending item state).1 = true)
    (follows : Follows ask state pending answers) : ∀ answer ∈ answers, answer.2 = true := by
  induction answers generalizing state pending with
  | nil => exact List.forall_mem_nil _
  | cons first rest ih =>
      obtain ⟨item, answer⟩ := first
      have given : answer = true := follows.1.symm.trans (always state pending item)
      exact List.forall_mem_cons.mpr ⟨given, ih follows.2⟩

/-- A policy that admits an item into an empty batch once it has refused it refuses none
twice. -/
theorem Follows.not_twice
    (again : ∀ state pending item, (ask pending item state).1 = false →
      (ask [] item (ask pending item state).2).1 = true)
    (follows : Follows ask state pending answers) :
    ¬ ∃ earlier item, answers = earlier ++ [(item, false), (item, false)] := by
  intro found
  obtain ⟨earlier, item, split⟩ := found
  rw [split, follows_append] at follows
  obtain ⟨refused, later⟩ := follows_false.mp follows.2
  have admitted := again _ _ _ refused
  exact absurd (admitted.symm.trans (follows_false.mp later).1) (by decide)

/-- What a policy's answers keep between its state and the batch at hand. -/
structure Keeps (ask : List ρ → ρ → π → Bool × π) (holds : π → List ρ → Prop) : Prop where
  admitted : ∀ state pending item, holds state pending → (ask pending item state).1 = true →
    holds (ask pending item state).2 (pending ++ [item])
  refused : ∀ state pending item, holds state pending → (ask pending item state).1 = false →
    holds (ask pending item state).2 []

theorem Keeps.after {holds : π → List ρ → Prop} (keeps : Keeps ask holds)
    (begins : holds state pending) (follows : Follows ask state pending answers) :
    holds (policyAfter ask state pending answers) (atHand pending answers) := by
  induction answers generalizing state pending with
  | nil => exact begins
  | cons first rest ih =>
      obtain ⟨item, answer⟩ := first
      obtain ⟨given, later⟩ := follows
      apply ih _ later
      cases answer with
      | true => exact keeps.admitted state pending item begins given
      | false => exact keeps.refused state pending item begins given

/-- What a policy keeps holds of every batch that is handed over, and of the last one. -/
theorem Batches.kept {rest left : List ρ} {groups : List (List ρ × Bool)} {ending : Ending}
    {holds : π → List ρ → Prop} (batches : Batches pending rest groups answers ending left)
    (keeps : Keeps ask holds) (begins : holds state pending)
    (follows : Follows ask state pending answers) :
    (∀ group ∈ groups, ∃ state, holds state group.1) ∧ ∃ state, holds state left := by
  induction batches generalizing state with
  | done pending => exact ⟨List.forall_mem_nil _, state, begins⟩
  | admitted item _later ih =>
      exact ih (keeps.admitted state _ item begins follows.1) follows.2
  | emptyAgain item _later ih =>
      have asked := keeps.refused state _ item begins follows.1
      exact ih (keeps.admitted _ _ item asked follows.2.1) follows.2.2
  | flushed item _some _later ih =>
      have asked := keeps.refused state _ item begins follows.1
      obtain ⟨all, last⟩ := ih (keeps.admitted _ _ item asked follows.2.1) follows.2.2
      exact ⟨List.forall_mem_cons.mpr ⟨⟨state, begins⟩, all⟩, last⟩
  | notTaken item rest _some =>
      exact ⟨List.forall_mem_singleton.mpr ⟨state, begins⟩, state, begins⟩
  | emptyRefused item rest => exact ⟨List.forall_mem_nil _, state, begins⟩
  | flushedRefused item rest _some =>
      exact ⟨List.forall_mem_singleton.mpr ⟨state, begins⟩, _,
        keeps.refused state _ item begins follows.1⟩

end Policy

/-- The whole work, with whether it has succeeded. What is at hand at the end of a
complete work is handed over too. -/
inductive WorkedOff (items : List ρ) : List (List ρ × Bool) → List (ρ × Bool) → Bool → Prop
  | handedOver {groups : List (List ρ × Bool)} {answers : List (ρ × Bool)} {left : List ρ}
      (taken : Bool) :
      Batches [] items groups answers .complete left → left ≠ [] →
      WorkedOff items (groups ++ [(left, taken)]) answers taken
  | stopped {groups : List (List ρ × Bool)} {answers : List (ρ × Bool)} {ending : Ending}
      {left : List ρ} :
      Batches [] items groups answers ending left → ending ≠ .complete →
      WorkedOff items groups answers false

namespace WorkedOff

variable {items : List ρ} {groups : List (List ρ × Bool)} {answers : List (ρ × Bool)}
  {success : Bool}

theorem group_ne_nil (worked : WorkedOff items groups answers success) :
    ∀ group ∈ groups, group.1 ≠ [] := by
  cases worked with
  | handedOver taken batches some =>
      intro group member
      rcases List.mem_append.mp member with earlier | last
      · exact batches.group_ne_nil group earlier
      · rw [List.mem_singleton.mp last]
        exact some
  | stopped batches _incomplete => exact batches.group_ne_nil

theorem prefix_items (worked : WorkedOff items groups answers success) :
    batchedItems groups <+: items := by
  cases worked with
  | handedOver taken batches _some =>
      have whole := batches.complete_items rfl
      rw [List.nil_append] at whole
      refine ⟨[], ?_⟩
      rw [batchedItems_append, batchedItems_cons, batchedItems_nil, List.append_nil,
        List.append_nil, whole]
  | stopped batches _incomplete =>
      have front := batches.prefix_items
      rw [List.nil_append] at front
      exact front

theorem all_items (worked : WorkedOff items groups answers true) :
    batchedItems groups = items := by
  cases worked with
  | handedOver taken batches _some =>
      have whole := batches.complete_items rfl
      rw [List.nil_append] at whole
      rw [batchedItems_append, batchedItems_cons, batchedItems_nil, List.append_nil, whole]

theorem stops (worked : WorkedOff items groups answers success) {front back : List (List ρ × Bool)}
    {group : List ρ × Bool} (split : groups = front ++ group :: back)
    (notTaken : group.2 = false) : back = [] := by
  have last : ∃ earlier final, groups = earlier ++ final ∧ final.length ≤ 1 ∧
      ∀ other ∈ earlier, other.2 = true := by
    cases worked with
    | handedOver _taken batches _some =>
        exact ⟨_, [(_, success)], rfl, Nat.le_refl 1, batches.taken (by decide)⟩
    | @stopped _ _ ending _ batches _incomplete =>
        by_cases failed : ending = .failed
        · obtain ⟨earlier, final, shape, taken⟩ := batches.failed_last failed
          exact ⟨earlier, [(final, false)], shape, Nat.le_refl 1, taken⟩
        · exact ⟨groups, [], (List.append_nil _).symm, Nat.zero_le 1, batches.taken failed⟩
  obtain ⟨earlier, final, shape, short, taken⟩ := last
  -- The batch is not among the earlier ones.
  have behind : earlier.length ≤ front.length := by
    by_contra within
    have here : groups[front.length]? = some group := by
      rw [split, List.getElem?_append_right (Nat.le_refl _), Nat.sub_self, List.getElem?_cons_zero]
    rw [shape, List.getElem?_append_left (by omega)] at here
    rw [taken group (List.mem_of_getElem? here)] at notTaken
    cases notTaken
  have lengths := congrArg List.length (split.symm.trans shape)
  rw [List.length_append, List.length_append, List.length_cons] at lengths
  apply List.eq_nil_of_length_eq_zero
  omega

/-- The work succeeds exactly if every batch was taken and every item admitted. -/
theorem success_iff (worked : WorkedOff items groups answers success) :
    success = true ↔ (∀ group ∈ groups, group.2 = true) ∧ admittedItems answers = items := by
  cases worked with
  | @handedOver earlier _answers left _taken batches _some =>
      have admitted := batches.complete_admitted rfl
      have earlierTaken := batches.taken (by decide)
      constructor
      · intro same
        subst same
        refine ⟨?_, admitted⟩
        intro group member
        rcases List.mem_append.mp member with inEarlier | last
        · exact earlierTaken group inEarlier
        · rw [List.mem_singleton.mp last]
      · intro both
        obtain ⟨allTaken, _admitted⟩ := both
        exact allTaken (left, success) (List.mem_append_right _ (List.mem_singleton_self _))
  | stopped batches incomplete =>
      apply iff_of_false Bool.false_ne_true
      intro both
      obtain ⟨_allTaken, admitted⟩ := both
      have shorter := batches.admitted_shorter incomplete
      rw [admitted] at shorter
      exact Nat.lt_irrefl _ shorter

/-- A work may only fail with every batch taken if an item was refused twice. -/
theorem refused_twice (worked : WorkedOff items groups answers false)
    (allTaken : ∀ group ∈ groups, group.2 = true) :
    ∃ earlier item, answers = earlier ++ [(item, false), (item, false)] := by
  cases worked with
  | @handedOver earlier _answers left _taken batches _some =>
      have last := allTaken (left, false) (List.mem_append_right _ (List.mem_singleton_self _))
      cases last
  | @stopped _ _ ending _ batches incomplete =>
      cases ending with
      | complete => exact absurd rfl incomplete
      | failed =>
          obtain ⟨front, last, split, _taken⟩ := batches.failed_last rfl
          rw [split] at allTaken
          have taken := allTaken (last, false)
            (List.mem_append_right _ (List.mem_singleton_self _))
          cases taken
      | refused => exact batches.refused_twice rfl

theorem of_all_true (worked : WorkedOff items groups answers success)
    (admits : ∀ answer ∈ answers, answer.2 = true) : groups = [(items, success)] := by
  cases worked with
  | handedOver _taken batches _some =>
      obtain ⟨none, _complete, all⟩ := batches.of_all_true admits
      rw [none, all]
      rfl
  | stopped batches incomplete => exact absurd (batches.of_all_true admits).2.1 incomplete

theorem kept {π : Type} {ask : List ρ → ρ → π → Bool × π} {holds : π → List ρ → Prop}
    {state : π} (worked : WorkedOff items groups answers success) (keeps : Keeps ask holds)
    (begins : holds state []) (follows : Follows ask state [] answers) :
    ∀ group ∈ groups, ∃ state, holds state group.1 := by
  cases worked with
  | handedOver _taken batches _some =>
      obtain ⟨earlier, last⟩ := batches.kept keeps begins follows
      exact List.forall_mem_append.mpr ⟨earlier, List.forall_mem_singleton.mpr last⟩
  | stopped batches _incomplete => exact (batches.kept keeps begins follows).1

theorem success_of_taken {π : Type} {ask : List ρ → ρ → π → Bool × π} {state : π}
    (worked : WorkedOff items groups answers success)
    (again : ∀ state pending item, (ask pending item state).1 = false →
      (ask [] item (ask pending item state).2).1 = true)
    (follows : Follows ask state [] answers) (allTaken : ∀ group ∈ groups, group.2 = true) :
    success = true := by
  cases success with
  | true => rfl
  | false => exact absurd (worked.refused_twice allTaken) (follows.not_twice again)

end WorkedOff

end Foundation
