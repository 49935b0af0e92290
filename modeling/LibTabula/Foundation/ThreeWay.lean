/-
Three-way comparisons.

A comparison answers with a number: below zero for less, zero for equal, above zero
for greater. It is lawful when less is a strict weak order and equal is the
equivalence that belongs to it. A comparison by a key in a linear order is lawful,
and a comparison by a first part and, where that is equal, by a second part is
lawful exactly when both are.
-/

import Mathlib.Order.Defs.Unbundled
import Mathlib.Order.Defs.LinearOrder
import Mathlib.Order.Basic
import Mathlib.Order.Lattice

set_option autoImplicit false

namespace Foundation.ThreeWay

variable {α β γ : Type}

structure Lawful (cmp : α → α → Int) : Prop where
  order : IsStrictWeakOrder α fun a b => cmp a b < 0
  matching : ∀ a b, cmp a b = 0 ↔ ¬ cmp a b < 0 ∧ ¬ cmp b a < 0

/-- The comparison goes by a key in a linear order. -/
def ByKey [LinearOrder γ] (cmp : α → α → Int) (key : α → γ) : Prop :=
  ∀ a b, cmp a b < 0 ∧ key a < key b ∨ cmp a b = 0 ∧ key a = key b ∨ 0 < cmp a b ∧ key b < key a

namespace ByKey

variable [LinearOrder γ] {cmp : α → α → Int} {key : α → γ}

theorem less_iff (byKey : ByKey cmp key) (a b : α) : cmp a b < 0 ↔ key a < key b := by
  rcases byKey a b with ⟨less, below⟩ | ⟨equal, same⟩ | ⟨greater, above⟩
  · exact iff_of_true less below
  · exact iff_of_false (by omega) same.not_lt
  · exact iff_of_false (by omega) above.not_gt

theorem equal_iff (byKey : ByKey cmp key) (a b : α) : cmp a b = 0 ↔ key a = key b := by
  rcases byKey a b with ⟨less, below⟩ | ⟨equal, same⟩ | ⟨greater, above⟩
  · exact iff_of_false (by omega) below.ne
  · exact iff_of_true equal same
  · exact iff_of_false (by omega) above.ne'

theorem greater_iff (byKey : ByKey cmp key) (a b : α) : 0 < cmp a b ↔ key b < key a := by
  rcases byKey a b with ⟨less, below⟩ | ⟨equal, same⟩ | ⟨greater, above⟩
  · exact iff_of_false (by omega) below.not_gt
  · exact iff_of_false (by omega) same.not_gt
  · exact iff_of_true greater above

theorem le_iff (byKey : ByKey cmp key) (a b : α) : cmp a b ≤ 0 ↔ key a ≤ key b := by
  rw [← Int.not_lt, byKey.greater_iff, not_lt]

theorem sign_swap (byKey : ByKey cmp key) (a b : α) : (cmp b a).sign = -(cmp a b).sign := by
  rcases byKey a b with ⟨less, below⟩ | ⟨equal, same⟩ | ⟨greater, above⟩
  · rw [Int.sign_eq_neg_one_of_neg less,
      Int.sign_eq_one_of_pos ((byKey.greater_iff b a).mpr below), Int.neg_neg]
  · rw [equal, (byKey.equal_iff b a).mpr same.symm]
    rfl
  · rw [Int.sign_eq_one_of_pos greater,
      Int.sign_eq_neg_one_of_neg ((byKey.less_iff b a).mpr above)]

theorem lawful (byKey : ByKey cmp key) : Lawful cmp where
  order :=
    { irrefl := fun a below => lt_irrefl _ ((byKey.less_iff a a).mp below)
      trans := fun a b c first second =>
        (byKey.less_iff a c).mpr
          (lt_trans ((byKey.less_iff a b).mp first) ((byKey.less_iff b c).mp second))
      incomp_trans := by
        intro a b c first second
        simp only [byKey.less_iff, not_lt] at first second ⊢
        exact ⟨second.1.trans first.1, first.2.trans second.2⟩ }
  matching a b := by
    rw [byKey.equal_iff, byKey.less_iff, byKey.less_iff, not_lt, not_lt]
    exact ⟨fun same => ⟨same.ge, same.le⟩, fun both => le_antisymm both.2 both.1⟩

end ByKey

theorem not_lawful_of_both_less {cmp : α → α → Int} {a b : α} (first : cmp a b < 0)
    (second : cmp b a < 0) : ¬ Lawful cmp := by
  intro lawful
  have below := lawful.order.trans a b a first second
  exact lawful.order.irrefl a below

theorem not_lawful_of_unmatched {cmp : α → α → Int} {a b : α} (first : ¬ cmp a b < 0)
    (second : ¬ cmp b a < 0) (different : cmp a b ≠ 0) : ¬ Lawful cmp := by
  intro lawful
  exact different ((lawful.matching a b).mpr ⟨first, second⟩)

namespace Lawful

variable {cmp : α → α → Int}

theorem irrefl (lawful : Lawful cmp) (a : α) : ¬ cmp a a < 0 := lawful.order.irrefl a

theorem trans (lawful : Lawful cmp) {a b c : α} (first : cmp a b < 0) (second : cmp b c < 0) :
    cmp a c < 0 :=
  lawful.order.trans a b c first second

theorem self (lawful : Lawful cmp) (a : α) : cmp a a = 0 :=
  (lawful.matching a a).mpr ⟨lawful.irrefl a, lawful.irrefl a⟩

theorem symm (lawful : Lawful cmp) {a b : α} (equal : cmp a b = 0) : cmp b a = 0 :=
  (lawful.matching b a).mpr ((lawful.matching a b).mp equal).symm

theorem equal_trans (lawful : Lawful cmp) {a b c : α} (first : cmp a b = 0)
    (second : cmp b c = 0) : cmp a c = 0 :=
  (lawful.matching a c).mpr (lawful.order.incomp_trans a b c ((lawful.matching a b).mp first)
    ((lawful.matching b c).mp second))

theorem less_or (lawful : Lawful cmp) (a b : α) : cmp a b < 0 ∨ cmp a b = 0 ∨ cmp b a < 0 := by
  by_cases less : cmp a b < 0
  · exact .inl less
  · by_cases greater : cmp b a < 0
    · exact .inr (.inr greater)
    · exact .inr (.inl ((lawful.matching a b).mpr ⟨less, greater⟩))

theorem less_of_equal_of_less (lawful : Lawful cmp) {a b c : α} (first : cmp a b = 0)
    (second : cmp b c < 0) : cmp a c < 0 := by
  rcases lawful.less_or a c with less | equal | greater
  · exact less
  · have back := lawful.equal_trans (lawful.symm first) equal
    omega
  · have back := lawful.trans second greater
    exact absurd back ((lawful.matching b a).mp (lawful.symm first)).1

theorem less_of_less_of_equal (lawful : Lawful cmp) {a b c : α} (first : cmp a b < 0)
    (second : cmp b c = 0) : cmp a c < 0 := by
  rcases lawful.less_or a c with less | equal | greater
  · exact less
  · have back := lawful.equal_trans equal (lawful.symm second)
    omega
  · have back := lawful.trans greater first
    exact absurd back ((lawful.matching c b).mp (lawful.symm second)).1

/-- A comparison of what a function makes of the values. -/
theorem comap (lawful : Lawful cmp) (f : β → α) : Lawful fun a b => cmp (f a) (f b) where
  order :=
    { irrefl := fun a => lawful.irrefl (f a)
      trans := fun a b c => lawful.order.trans (f a) (f b) (f c)
      incomp_trans := fun a b c => lawful.order.incomp_trans (f a) (f b) (f c) }
  matching a b := lawful.matching (f a) (f b)

end Lawful

/-! ### Two parts -/

/-- The first part decides, and the second where the first is equal. -/
def lex (first : α → α → Int) (second : β → β → Int) (left right : α × β) : Int :=
  if first left.1 right.1 = 0 then second left.2 right.2 else first left.1 right.1

variable {first : α → α → Int} {second : β → β → Int}

theorem lex_less_iff (left right : α × β) :
    lex first second left right < 0 ↔
      first left.1 right.1 < 0 ∨ first left.1 right.1 = 0 ∧ second left.2 right.2 < 0 := by
  unfold lex
  by_cases equal : first left.1 right.1 = 0
  · rw [if_pos equal]
    omega
  · rw [if_neg equal]
    omega

theorem lex_equal_iff (left right : α × β) :
    lex first second left right = 0 ↔
      first left.1 right.1 = 0 ∧ second left.2 right.2 = 0 := by
  unfold lex
  by_cases equal : first left.1 right.1 = 0
  · rw [if_pos equal]
    omega
  · rw [if_neg equal]
    omega

theorem Lawful.lex (lawfulFirst : Lawful first) (lawfulSecond : Lawful second) :
    Lawful (ThreeWay.lex first second) := by
  have matching : ∀ left right : α × β, ThreeWay.lex first second left right = 0 ↔
      ¬ ThreeWay.lex first second left right < 0 ∧
        ¬ ThreeWay.lex first second right left < 0 := by
    intro left right
    constructor
    · intro equal
      obtain ⟨equalFirst, equalSecond⟩ := (lex_equal_iff left right).mp equal
      have backFirst := lawfulFirst.symm equalFirst
      have backSecond := lawfulSecond.symm equalSecond
      rw [lex_less_iff, lex_less_iff]
      omega
    · intro both
      obtain ⟨notLess, notGreater⟩ := both
      rw [lex_less_iff, not_or] at notLess notGreater
      have equalFirst := (lawfulFirst.matching left.1 right.1).mpr ⟨notLess.1, notGreater.1⟩
      refine (lex_equal_iff left right).mpr ⟨equalFirst, ?_⟩
      exact (lawfulSecond.matching left.2 right.2).mpr
        ⟨fun less => notLess.2 ⟨equalFirst, less⟩,
          fun greater => notGreater.2 ⟨lawfulFirst.symm equalFirst, greater⟩⟩
  refine ⟨{ irrefl := ?_, trans := ?_, incomp_trans := ?_ }, matching⟩
  · intro pair below
    rw [lex_less_iff, lawfulFirst.self, lawfulSecond.self] at below
    omega
  · intro left middle right below above
    rw [lex_less_iff] at below above ⊢
    rcases below with below | ⟨equalBelow, below⟩ <;> rcases above with above | ⟨equalAbove, above⟩
    · exact .inl (lawfulFirst.trans below above)
    · exact .inl (lawfulFirst.less_of_less_of_equal below equalAbove)
    · exact .inl (lawfulFirst.less_of_equal_of_less equalBelow above)
    · exact .inr ⟨lawfulFirst.equal_trans equalBelow equalAbove, lawfulSecond.trans below above⟩
  · intro left middle right below above
    rw [← matching] at below above ⊢
    rw [lex_equal_iff] at below above ⊢
    exact ⟨lawfulFirst.equal_trans below.1 above.1, lawfulSecond.equal_trans below.2 above.2⟩

/-- A part that is not lawful shows in the whole. -/
theorem lawful_lex_iff [Nonempty α] [Nonempty β] :
    Lawful (lex first second) ↔ Lawful first ∧ Lawful second := by
  constructor
  · intro lawful
    obtain ⟨x⟩ := (inferInstance : Nonempty α)
    obtain ⟨y⟩ := (inferInstance : Nonempty β)
    have selfFirst : first x x = 0 := ((lex_equal_iff (x, y) (x, y)).mp (lawful.self (x, y))).1
    have selfSecond : second y y = 0 := ((lex_equal_iff (x, y) (x, y)).mp (lawful.self (x, y))).2
    have onFirst : first = fun a b => lex first second (a, y) (b, y) := by
      funext a b
      by_cases equal : first a b = 0
      · rw [lex, if_pos equal, selfSecond, equal]
      · rw [lex, if_neg equal]
    have onSecond : second = fun a b => lex first second (x, a) (x, b) := by
      funext a b
      rw [lex, if_pos selfFirst]
    constructor
    · rw [onFirst]
      exact lawful.comap fun a => (a, y)
    · rw [onSecond]
      exact lawful.comap fun b => (x, b)
  · exact fun both => both.1.lex both.2

end Foundation.ThreeWay
