/-
Numbers with separators between groups of their digits.

Groups are counted from the last digit. A group may be of limited size, and a separator
is put in front of it if there are more digits than it takes. Nothing is put in exactly
if the first group takes all digits, and in texts that are put together from such
numbers each of them can be told to be as it was.
-/

import Mathlib.Data.List.Basic

set_option autoImplicit false

namespace Foundation.Grouping

variable {α β : Type}

/-- Digits from the last one on. `size` has the sizes of the groups that are limited, and
`used` digits are in the current group. -/
def separate (sep : α) (size : Nat → Option Nat) : Nat → Nat → List α → List α
  | _, _, [] => []
  | index, used, digit :: rest =>
      if size index = some used then sep :: digit :: separate sep size (index + 1) 1 rest
      else digit :: separate sep size index (used + 1) rest

def grouped (sep : α) (size : Nat → Option Nat) (digits : List α) : List α :=
  (separate sep size 0 0 digits.reverse).reverse

def padTo (fill : α) (width : Nat) (text : List α) : List α :=
  List.replicate (width - text.length) fill ++ text

section Separate

variable {sep : α} {size : Nat → Option Nat}

theorem length_le_separate (index used : Nat) (digits : List α) :
    digits.length ≤ (separate sep size index used digits).length := by
  induction digits generalizing index used with
  | nil => exact Nat.le_refl 0
  | cons digit rest ih =>
      rw [separate]
      split
      · have more := ih (index + 1) 1
        simp only [List.length_cons]
        omega
      · have more := ih index (used + 1)
        simp only [List.length_cons]
        omega

/-- Without a separator all digits fit into the current group. -/
theorem separate_eq_iff (index used : Nat) (room : ∀ limit, size index = some limit → used ≤ limit)
    (digits : List α) :
    separate sep size index used digits = digits ↔
      ∀ limit, size index = some limit → used + digits.length ≤ limit := by
  induction digits generalizing used with
  | nil => exact iff_of_true rfl room
  | cons digit rest ih =>
      rw [separate, List.length_cons]
      by_cases full : size index = some used
      · rw [if_pos full]
        constructor
        · intro same
          have more : rest.length ≤ (separate sep size (index + 1) 1 rest).length :=
            length_le_separate (index + 1) 1 rest
          have lengths := congrArg List.length same
          simp only [List.length_cons] at lengths
          omega
        · intro fits
          have tooFew := fits used full
          omega
      · have next : ∀ limit, size index = some limit → used + 1 ≤ limit := by
          intro limit isLimit
          have enough := room limit isLimit
          have other : used ≠ limit := fun same => full (same ▸ isLimit)
          omega
        rw [if_neg full, List.cons.injEq, and_iff_right rfl, ih (used + 1) next]
        apply forall₂_congr
        intro limit _
        omega

theorem getLast?_separate (index used : Nat) (digits : List α) :
    (separate sep size index used digits).getLast? = digits.getLast? := by
  induction digits generalizing index used with
  | nil => rfl
  | cons digit rest ih =>
      have behind : ∀ index used,
          (digit :: separate sep size index used rest).getLast? = (digit :: rest).getLast? := by
        intro index used
        rw [List.getLast?_cons, List.getLast?_cons, ih]
      rw [separate]
      split
      · rw [List.getLast?_cons_cons]
        exact behind (index + 1) 1
      · exact behind index (used + 1)

theorem length_le_grouped (digits : List α) :
    digits.length ≤ (grouped sep size digits).length := by
  have more : digits.reverse.length ≤ (separate sep size 0 0 digits.reverse).length :=
    length_le_separate 0 0 digits.reverse
  rw [List.length_reverse] at more
  rw [grouped, List.length_reverse]
  exact more

/-- The first group decides whether there is a separator. -/
theorem grouped_eq_iff (digits : List α) :
    grouped sep size digits = digits ↔ ∀ limit, size 0 = some limit → digits.length ≤ limit := by
  have room : ∀ limit, size 0 = some limit → 0 ≤ limit := fun limit _ => Nat.zero_le limit
  rw [grouped, List.reverse_eq_iff, separate_eq_iff 0 0 room]
  simp only [List.length_reverse, Nat.zero_add]

variable (sep size) in
/-- Behind the last separator, in this order, there are fewer digits than there were. -/
theorem separate_cut (index used : Nat) (digits : List α) :
    separate sep size index used digits = digits ∨
      ∃ front back, separate sep size index used digits = front ++ sep :: back ∧
        back <:+ digits ∧ (back.length < digits.length ∨ size index = some used) := by
  induction digits generalizing index used with
  | nil => exact Or.inl rfl
  | cons digit rest ih =>
      rw [separate]
      split
      next full =>
        right
        rcases ih (index + 1) 1 with same | ⟨front, back, cut, suffix, _⟩
        · exact ⟨[], digit :: rest, by rw [same]; rfl, List.suffix_refl _, Or.inr full⟩
        · refine ⟨sep :: digit :: front, back, by rw [cut]; rfl, ?_, Or.inr full⟩
          exact suffix.trans (List.suffix_cons digit rest)
      next =>
        rcases ih index (used + 1) with same | ⟨front, back, cut, suffix, _⟩
        · exact Or.inl (by rw [same])
        · right
          refine ⟨digit :: front, back, by rw [cut]; rfl,
            suffix.trans (List.suffix_cons digit rest), Or.inl ?_⟩
          exact Nat.lt_succ_of_le suffix.length_le

variable (sep) in
/-- Before the first separator there are some of the digits, and not all. -/
theorem exists_cut {digits : List α} {limit : Nat} (limited : size 0 = some limit)
    (positive : 0 < limit) (long : limit < digits.length) :
    ∃ front rest, grouped sep size digits = front ++ sep :: rest ∧ front <+: digits ∧
      front.length < digits.length := by
  rcases separate_cut sep size 0 0 digits.reverse with
    same | ⟨front, back, cut, suffix, shorter⟩
  · have whole : grouped sep size digits = digits := by rw [grouped, same, List.reverse_reverse]
    have fits := (grouped_eq_iff digits).mp whole limit limited
    omega
  · refine ⟨back.reverse, front.reverse, ?_, ?_, ?_⟩
    · rw [grouped, cut, List.reverse_append, List.reverse_cons, List.append_assoc]
      rfl
    · rw [← List.reverse_suffix, List.reverse_reverse]
      exact suffix
    · rw [limited] at shorter
      rw [List.length_reverse] at shorter ⊢
      rcases shorter with shorter | full
      · exact shorter
      · have zero := Option.some.inj full
        omega

/-- No separator stands in front of all digits. -/
theorem head?_grouped (digits : List α) : (grouped sep size digits).head? = digits.head? := by
  rw [grouped, List.head?_reverse, getLast?_separate, List.getLast?_reverse]

end Separate

/-! ### Padding -/

section Padding

variable [DecidableEq α] {fill : α} {width : Nat}

theorem dropWhile_padTo {text : List α} (front : text.head? ≠ some fill) :
    (padTo fill width text).dropWhile (· = fill) = text := by
  rw [padTo, List.dropWhile_append_of_pos]
  · cases text with
    | nil => rfl
    | cons first rest =>
        have other : first ≠ fill := fun same => front (congrArg some same)
        exact List.dropWhile_cons_of_neg fun isFill => other (of_decide_eq_true isFill)
  · intro c member
    exact decide_eq_true (List.eq_of_mem_replicate member)

/-- Texts that do not begin with the fill character can be told apart by their padding. -/
theorem padTo_inj {text other : List α} (front : text.head? ≠ some fill)
    (otherFront : other.head? ≠ some fill) :
    padTo fill width text = padTo fill width other ↔ text = other := by
  constructor
  · intro same
    have back : (padTo fill width text).dropWhile (· = fill) = text := dropWhile_padTo front
    rw [← back, same, dropWhile_padTo otherFront]
  · intro same
    rw [same]

omit [DecidableEq α] in
theorem length_padTo (text : List α) :
    (padTo fill width text).length = max width text.length := by
  rw [padTo, List.length_append, List.length_replicate]
  omega

end Padding

/-! ### Texts put together -/

/-- If the parts of one text are at least as long as those of the other, the texts are the
same only part by part. -/
theorem flatMap_eq_iff {left right : α → List β}
    (longer : ∀ item, (right item).length ≤ (left item).length) (items : List α) :
    items.flatMap left = items.flatMap right ↔ ∀ item ∈ items, left item = right item := by
  have longerAll : ∀ items : List α,
      (items.flatMap right).length ≤ (items.flatMap left).length := by
    intro items
    induction items with
    | nil => exact Nat.le_refl 0
    | cons item items ih =>
        have first := longer item
        simp only [List.flatMap_cons, List.length_append]
        omega
  induction items with
  | nil => exact iff_of_true rfl nofun
  | cons item items ih =>
      rw [List.forall_mem_cons, List.flatMap_cons, List.flatMap_cons]
      refine Iff.trans ?_ (and_congr_right fun _ => ih)
      constructor
      · intro same
        have first := longer item
        have rest := longerAll items
        have lengths := congrArg List.length same
        simp only [List.length_append] at lengths
        exact List.append_inj same (by omega)
      · intro both
        obtain ⟨first, rest⟩ := both
        rw [first, rest]

end Foundation.Grouping
