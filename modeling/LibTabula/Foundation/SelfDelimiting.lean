/-
Texts that show where they end.

A reader takes a value from the front of a text and leaves the rest. A text stands for a
value if the reader finds that value and leaves what follows, for everything that may follow.
Such texts can be put one behind the other, with something between them by which the reader
knows whether to go on, and are read one by one.
-/

import Mathlib.Data.List.Basic

set_option autoImplicit false

namespace Foundation

variable {α β : Type}

/-- A value and the rest of the text. -/
abbrev Reader (α β : Type) := List α → Option (β × List α)

namespace Reader

/-- The text stands for the value, whatever follows of what may follow. -/
def Reads (read : Reader α β) (follows : List α → Prop) (text : List α) (value : β) : Prop :=
  ∀ rest, follows rest → read (text ++ rest) = some (value, rest)

/-- What comes behind an item: the end of all items, another item, or neither. -/
inductive Behind (α : Type)
  | done (rest : List α)
  | more (rest : List α)
  | neither

/-- Items, as long as there are more; `fuel` is not less than their number. -/
def several (item : Reader α β) (behind : List α → Behind α) : Nat → Reader α (List β)
  | 0, _ => none
  | fuel + 1, text =>
      match item text with
      | none => none
      | some (value, rest) =>
          match behind rest with
          | .done rest => some ([value], rest)
          | .more rest => (several item behind fuel rest).map fun read => (value :: read.1, read.2)
          | .neither => none

def severalOf (item : Reader α β) (behind : List α → Behind α) : Reader α (List β) := fun text =>
  several item behind (text.length + 1) text

/-- One given text. -/
def exactly [DecidableEq α] (expected : List α) : Reader α Unit := fun text =>
  if expected.isPrefixOf text then some ((), text.drop expected.length) else none

/-- Up to a closing character, which is not part of the value. -/
def upToClose [DecidableEq α] (close : α) : Reader α (List α)
  | [] => none
  | c :: rest =>
      if c = close then some ([], rest)
      else (upToClose close rest).map fun read => (c :: read.1, read.2)

/-- The longest front of characters of a kind, if there are any. -/
def longest (kind : α → Bool) : Reader α (List α) := fun text =>
  if text.takeWhile kind = [] then none else some (text.takeWhile kind, text.dropWhile kind)

/-! ### Single texts -/

theorem exactly_append [DecidableEq α] (expected rest : List α) :
    exactly expected (expected ++ rest) = some ((), rest) := by
  have front : expected.isPrefixOf (expected ++ rest) = true :=
    List.isPrefixOf_iff_prefix.mpr (List.prefix_append expected rest)
  rw [exactly, if_pos front, List.drop_left]

theorem upToClose_append [DecidableEq α] {close : α} {text : List α} (absent : close ∉ text)
    (rest : List α) : upToClose close (text ++ close :: rest) = some (text, rest) := by
  induction text with
  | nil => rw [List.nil_append, upToClose, if_pos rfl]
  | cons c text ih =>
      have other : c ≠ close := by
        intro same
        apply absent
        rw [same]
        exact List.mem_cons_self
      have absent' : close ∉ text := by
        intro member
        exact absent (List.mem_cons_of_mem c member)
      rw [List.cons_append, upToClose, if_neg other, ih absent']
      rfl

theorem longest_append {kind : α → Bool} {text rest : List α} (nonempty : text ≠ [])
    (all : ∀ c ∈ text, kind c = true) (stops : ∀ c ∈ rest.head?, kind c = false) :
    longest kind (text ++ rest) = some (text, rest) := by
  have none_ : rest.takeWhile kind = [] ∧ rest.dropWhile kind = rest := by
    cases rest with
    | nil => exact ⟨rfl, rfl⟩
    | cons c rest =>
        have stop : ¬ kind c = true := by
          rw [stops c rfl]
          exact Bool.false_ne_true
        exact ⟨List.takeWhile_cons_of_neg stop, List.dropWhile_cons_of_neg stop⟩
  have taken : (text ++ rest).takeWhile kind = text := by
    rw [List.takeWhile_append_of_pos all, none_.1, List.append_nil]
  have left_ : (text ++ rest).dropWhile kind = rest := by
    rw [List.dropWhile_append_of_pos all, none_.2]
  rw [longest, taken, left_, if_neg nonempty]

/-! ### Several texts -/

section Several

variable {item : Reader α β} {behind : List α → Behind α} {follows : List α → Prop}
  {separator close rest : List α}

/-- The texts behind the first one. -/
def further (separator : List α) (texts : List (List α)) : List α :=
  texts.flatMap fun text => separator ++ text

/-- Texts with a separator between them and something to close them are read item by item. -/
theorem several_append
    (goesOn : ∀ after, behind (separator ++ after) = .more after)
    (ends : behind (close ++ rest) = .done rest)
    (apart : ∀ after, follows (separator ++ after)) (last : follows (close ++ rest))
    {first : List α × β} {items : List (List α × β)}
    (reads : ∀ one ∈ first :: items, item.Reads follows one.1 one.2) {fuel : Nat}
    (enough : items.length < fuel) :
    several item behind fuel
        (first.1 ++ (further separator (items.map Prod.fst) ++ (close ++ rest))) =
      some (first.2 :: items.map Prod.snd, rest) := by
  induction items generalizing first fuel with
  | nil =>
      cases fuel with
      | zero => cases enough
      | succ fuel =>
          have found := reads first List.mem_cons_self (close ++ rest) last
          rw [List.map_nil, further, List.flatMap_nil, List.nil_append, several, found]
          simp only [ends]
          rfl
  | cons next items ih =>
      cases fuel with
      | zero => cases enough
      | succ fuel =>
          have later : ∀ one ∈ next :: items, item.Reads follows one.1 one.2 := by
            intro one member
            exact reads one (List.mem_cons_of_mem first member)
          have fewer : items.length < fuel := Nat.lt_of_succ_lt_succ enough
          have split : further separator ((next :: items).map Prod.fst) ++ (close ++ rest) =
              separator ++
                (next.1 ++ (further separator (items.map Prod.fst) ++ (close ++ rest))) := by
            rw [List.map_cons, further, List.flatMap_cons]
            simp only [further, List.append_assoc]
          have found := reads first List.mem_cons_self _ (apart (next.1 ++
            (further separator (items.map Prod.fst) ++ (close ++ rest))))
          rw [split, several, found]
          simp only [goesOn]
          rw [ih later fewer]
          rfl

theorem length_le_further (nonempty : separator ≠ []) (texts : List (List α)) :
    texts.length ≤ (further separator texts).length := by
  induction texts with
  | nil => exact Nat.zero_le _
  | cons text texts ih =>
      have positive := List.length_pos_iff.mpr nonempty
      rw [further, List.flatMap_cons, List.length_append, List.length_append, List.length_cons]
      rw [further] at ih
      omega

theorem severalOf_append
    (goesOn : ∀ after, behind (separator ++ after) = .more after)
    (ends : behind (close ++ rest) = .done rest)
    (apart : ∀ after, follows (separator ++ after)) (last : follows (close ++ rest))
    (nonempty : separator ≠ []) {first : List α × β} {items : List (List α × β)}
    (reads : ∀ one ∈ first :: items, item.Reads follows one.1 one.2) :
    severalOf item behind
        (first.1 ++ (further separator (items.map Prod.fst) ++ (close ++ rest))) =
      some (first.2 :: items.map Prod.snd, rest) := by
  apply several_append goesOn ends apart last reads
  have enough := length_le_further nonempty (items.map Prod.fst)
  rw [List.length_map] at enough
  rw [List.length_append, List.length_append]
  omega

end Several

end Reader

end Foundation
