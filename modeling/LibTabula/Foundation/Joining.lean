/-
Joining items with something between them.

Items are elements of a monoid: texts, or whatever can be done one after the other. A
loop that joins puts the delimiter before each item but the first. Which one that is can
be known from what has been put already; a loop that goes by the place of an item
instead is right when nothing is left out before the first item.
-/

import Mathlib.Algebra.BigOperators.Group.List.Basic

set_option autoImplicit false

namespace Foundation.Joining

variable {α β M : Type}

/-- The items whose flag is set. -/
def selected : List Bool → List α → List α
  | true :: fields, item :: items => item :: selected fields items
  | false :: fields, _ :: items => selected fields items
  | _, _ => []

@[simp] theorem selected_nil (fields : List Bool) : selected fields ([] : List α) = [] := by
  cases fields with
  | nil => rfl
  | cons field fields => cases field <;> rfl

theorem selected_map (f : α → β) (fields : List Bool) (items : List α) :
    selected fields (items.map f) = (selected fields items).map f := by
  induction items generalizing fields with
  | nil => rw [List.map_nil, selected_nil, selected_nil, List.map_nil]
  | cons item items ih =>
      cases fields with
      | nil => rfl
      | cons field fields =>
          cases field with
          | true => exact congrArg (List.cons (f item)) (ih fields)
          | false => exact ih fields

theorem selected_eq_nil_iff {fields : List Bool} {items : List α}
    (enough : items.length ≤ fields.length) :
    selected fields items = [] ↔ ∀ field ∈ fields.take items.length, field = false := by
  induction items generalizing fields with
  | nil => exact iff_of_true (selected_nil fields) nofun
  | cons item items ih =>
      cases fields with
      | nil => cases enough
      | cons field fields =>
          rw [List.length_cons, List.take_succ_cons, List.forall_mem_cons]
          cases field with
          | true => exact iff_of_false (List.cons_ne_nil _ _) fun all => Bool.noConfusion all.1
          | false =>
              rw [and_iff_right rfl]
              exact ih (Nat.le_of_succ_le_succ enough)

/-! ### Flags that are set by their places -/

def marked (places : List Nat) (fields : List Bool) : List Bool :=
  places.foldl (fun fields k => fields.set k true) fields

theorem length_marked (places : List Nat) (fields : List Bool) :
    (marked places fields).length = fields.length := by
  induction places generalizing fields with
  | nil => rfl
  | cons k places ih => exact (ih (fields.set k true)).trans List.length_set

theorem marked_eq_true_iff (places : List Nat) (fields : List Bool) (k : Nat) :
    (marked places fields)[k]? = some true ↔
      fields[k]? = some true ∨ k < fields.length ∧ k ∈ places := by
  induction places generalizing fields with
  | nil => exact (or_iff_left fun both => nomatch both.2).symm
  | cons place places ih =>
      have step := ih (fields.set place true)
      rw [List.length_set, List.getElem?_set] at step
      refine step.trans ?_
      rw [List.mem_cons]
      by_cases here : place = k
      · subst here
        by_cases inside : place < fields.length
        · simp only [inside, if_true, true_or, or_true, and_true]
        · simp only [inside, if_true, if_false, false_and, or_false,
            List.getElem?_eq_none (Nat.le_of_not_lt inside)]
      · have other : k ≠ place := fun same => here same.symm
        simp only [if_neg here, other, false_or]

/-- Flags are known by those that are set. -/
theorem flags_ext {a b : List Bool} (same : a.length = b.length)
    (set_ : ∀ k < a.length, a[k]? = some true ↔ b[k]? = some true) : a = b := by
  apply List.ext_getElem same
  intro k insideA insideB
  have agree := set_ k insideA
  rw [List.getElem?_eq_getElem insideA, List.getElem?_eq_getElem insideB, Option.some_inj,
    Option.some_inj] at agree
  exact Bool.eq_iff_iff.mpr agree

/-! ### Joining -/

variable [Monoid M]

def joined (between : M) (items : List M) : M := (items.intersperse between).prod

/-- The items behind the first one, each with the delimiter before it. -/
def followed (between : M) (items : List M) : M := (items.map (between * ·)).prod

theorem followed_cons (between item : M) (items : List M) :
    followed between (item :: items) = between * item * followed between items := by
  rw [followed, List.map_cons, List.prod_cons]
  rfl

theorem joined_cons (between item : M) (items : List M) :
    joined between (item :: items) = item * followed between items := by
  induction items generalizing item with
  | nil => rfl
  | cons next items ih =>
      have split : joined between (item :: next :: items) =
          item * (between * joined between (next :: items)) := by
        rw [joined, List.intersperse_cons_cons, List.prod_cons, List.prod_cons]
        rfl
      rw [split, ih, followed_cons, mul_assoc]

/-- What a loop makes that puts the delimiter before each item but one in the first
place. -/
def byPlace (between : M) : List Bool → List M → M
  | true :: fields, item :: items => item * followed between (selected fields items)
  | false :: fields, _ :: items => followed between (selected fields items)
  | _, _ => 1

/-- A loop that asks for the next flag before it goes on to the next item. -/
theorem due_mul_byPlace (between : M) (field : Bool) (fields : List Bool) (item : M)
    (items : List M) :
    (if field then between else 1) * byPlace between (field :: fields) (item :: items) =
      followed between (selected (field :: fields) (item :: items)) := by
  cases field with
  | true =>
      rw [if_pos rfl, selected, byPlace, followed_cons, mul_assoc]
  | false =>
      rw [if_neg Bool.false_ne_true, one_mul]
      rfl

/-- It is right if the first item is selected, or none, or if the delimiter does not
show. -/
theorem byPlace_eq_joined_iff {between : M} {fields : List Bool} {items : List M}
    (shows_ : ∀ rest : M, between * rest = rest → between = 1)
    (enough : items.length ≤ fields.length) :
    byPlace between fields items = joined between (selected fields items) ↔
      between = 1 ∨ fields.head? = some true ∨
        ∀ field ∈ fields.take items.length, field = false := by
  rw [← selected_eq_nil_iff enough]
  cases items with
  | nil =>
      refine iff_of_true ?_ (.inr (.inr (selected_nil fields)))
      rw [selected_nil]
      cases fields with
      | nil => rfl
      | cons field fields => cases field <;> rfl
  | cons item items =>
      cases fields with
      | nil => cases enough
      | cons field fields =>
          cases field with
          | true => exact iff_of_true (joined_cons between item _).symm (.inr (.inl rfl))
          | false =>
              rw [selected, byPlace]
              cases chosen : selected fields items with
              | nil => exact iff_of_true rfl (.inr (.inr rfl))
              | cons next rest =>
                  rw [followed_cons, joined_cons, mul_assoc]
                  constructor
                  · exact fun same => .inl (shows_ _ same)
                  · intro either
                    rcases either with noText | atFirst | none
                    · rw [noText, one_mul]
                    · cases atFirst
                    · cases none

/-- What a loop makes that remembers whether an item has been put. -/
def byFlag (between : M) : Bool → List Bool → List M → M
  | before, true :: fields, item :: items =>
      (if before then between else 1) * item * byFlag between true fields items
  | before, false :: fields, _ :: items => byFlag between before fields items
  | _, _, _ => 1

theorem byFlag_eq (between : M) (before : Bool) (fields : List Bool) (items : List M) :
    byFlag between before fields items =
      if before then followed between (selected fields items)
      else joined between (selected fields items) := by
  induction items generalizing before fields with
  | nil =>
      have nothing : byFlag between before fields [] = 1 := by
        cases fields with
        | nil => rfl
        | cons field fields => cases field <;> rfl
      rw [nothing, selected_nil]
      cases before <;> rfl
  | cons item items ih =>
      cases fields with
      | nil => cases before <;> rfl
      | cons field fields =>
          cases field with
          | false => exact ih before fields
          | true =>
              rw [byFlag, selected, ih true fields, if_pos rfl]
              cases before with
              | true => rw [if_pos rfl, if_pos rfl, followed_cons]
              | false =>
                  rw [if_neg Bool.false_ne_true, if_neg Bool.false_ne_true, one_mul, joined_cons]

theorem byFlag_eq_joined (between : M) (fields : List Bool) (items : List M) :
    byFlag between false fields items = joined between (selected fields items) :=
  byFlag_eq between false fields items

theorem selected_of_all {fields : List Bool} {items : List α}
    (same : fields.length = items.length) (all : ∀ field ∈ fields, field = true) :
    selected fields items = items := by
  induction items generalizing fields with
  | nil => exact selected_nil fields
  | cons item items ih =>
      cases fields with
      | nil => cases same
      | cons field fields =>
          obtain ⟨first, others⟩ := List.forall_mem_cons.mp all
          rw [first, selected, ih (Nat.succ.inj same) others]

end Foundation.Joining
