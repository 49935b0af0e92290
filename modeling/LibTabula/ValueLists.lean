/-
Value lists and equal lists, inserted into a stream.

Four loops with an iterator write an item before they look whether there is one, and
the two that select look at the next flag to know whether a delimiter is due. What an
insertion does to a stream is the text it appends and how it ends.
-/

import LibTabula.Bytes
import LibTabula.Foundation.Joining

set_option autoImplicit false

namespace LibTabula

open Foundation.Joining

/-! ### Insertions -/

/-- What an insertion appends, and the exception that ends it. -/
@[ext] structure Output where
  text : Bytes
  failure : Option Failure
deriving DecidableEq, Repr

namespace Output

def ofText (text : Bytes) : Output := { text := text, failure := none }

/-- An iterator or an index is used where there is nothing. -/
def readPastEnd : Output := { text := [], failure := some .outOfBounds }

instance : One Output := ⟨ofText []⟩

/-- One insertion and then another, unless an exception comes between. -/
instance : Mul Output where
  mul first second :=
    match first.failure with
    | none => { text := first.text ++ second.text, failure := second.failure }
    | some _ => first

theorem mul_of_ok {first : Output} (returned : first.failure = none) (second : Output) :
    first * second = { text := first.text ++ second.text, failure := second.failure } := by
  change (match first.failure with | none => _ | some _ => _) = _
  rw [returned]

theorem mul_of_failed {first : Output} {failure : Failure} (thrown : first.failure = some failure)
    (second : Output) : first * second = first := by
  change (match first.failure with | none => _ | some _ => _) = _
  rw [thrown]

instance : Monoid Output where
  mul_assoc first second third := by
    obtain ⟨firstText, ended⟩ := first
    obtain ⟨secondText, endedSecond⟩ := second
    cases ended with
    | some failure => rfl
    | none =>
        cases endedSecond with
        | some failure => rfl
        | none => exact congrArg (Output.mk · third.failure) (List.append_assoc _ _ third.text)
  one_mul output := rfl
  mul_one output := by
    cases ended : output.failure with
    | some failure => exact mul_of_failed ended 1
    | none =>
        rw [mul_of_ok ended]
        ext1
        · exact List.append_nil output.text
        · exact ended.symm

/-- A text before an output shows, unless there is none. -/
theorem eq_one_of_ofText_mul {text : Bytes} {rest : Output}
    (same : ofText text * rest = rest) : ofText text = 1 := by
  have texts : text ++ rest.text = rest.text := congrArg Output.text same
  have lengths := congrArg List.length texts
  rw [List.length_append] at lengths
  have nothing : text = [] := List.eq_nil_of_length_eq_zero (by omega)
  rw [nothing]
  rfl

theorem ofText_eq_one_iff (text : Bytes) : ofText text = 1 ↔ text = [] := by
  constructor
  · exact fun same => congrArg Output.text same
  · intro equal
    subst equal
    rfl

/-- What fails in a part fails as a whole. -/
theorem failure_mul_ne_none {first second : Output} (failing : second.failure ≠ none) :
    (first * second).failure ≠ none := by
  cases ended : first.failure with
  | some failure =>
      rw [mul_of_failed ended, ended]
      exact Option.some_ne_none failure
  | none =>
      rw [mul_of_ok ended]
      exact failing

theorem failure_mul_of_left {first : Output} (failing : first.failure ≠ none)
    (second : Output) : (first * second).failure ≠ none := by
  obtain ⟨failure, ended⟩ := Option.ne_none_iff_exists'.mp failing
  rw [mul_of_failed ended]
  exact failing

end Output

open Output (ofText readPastEnd)

/-! ### Lists -/

/-- `value_list_ba`; the manipulator is what it makes of an item. -/
structure ValueListBa (α : Type) where
  list : List α
  delim : Bytes
  manip : α → Output

structure ValueListB (α : Type) extends ValueListBa α where
  fields : List Bool

/-- `equal_list_ba`; `shown` is what the items on the left are without a manipulator. -/
structure EqualListBa (α β : Type) where
  list1 : List α
  list2 : List β
  delim : Bytes
  equl : Bytes
  shown : α → Output
  manip : β → Output

structure EqualListB (α β : Type) extends EqualListBa α β where
  fields : List Bool

/-- `if (fields[k]) ...` -/
def ifField (fields : List Bool) (k : Nat) (output : Output) : Output :=
  match fields[k]? with
  | none => readPastEnd
  | some true => output
  | some false => 1

variable {α β : Type}

namespace ValueListBa

/-- The loop, from an iterator on. -/
def loop (cl : ValueListBa α) : List α → Output
  | [] => readPastEnd
  | item :: rest =>
      cl.manip item * if rest.isEmpty then 1 else ofText cl.delim * cl.loop rest

/-- `operator <<` -/
def insert (cl : ValueListBa α) : Output := cl.loop cl.list

end ValueListBa

namespace ValueListB

def loop (cl : ValueListB α) : Nat → List α → Output
  -- `++i` leaves the list.
  | k, [] => ifField cl.fields k readPastEnd * readPastEnd
  | k, item :: rest =>
      ifField cl.fields k (cl.manip item) *
        if rest.isEmpty then 1
        else ifField cl.fields (k + 1) (ofText cl.delim) * cl.loop (k + 1) rest

def insert (cl : ValueListB α) : Output := cl.loop 0 cl.list

end ValueListB

namespace EqualListBa

def loop (el : EqualListBa α β) : List α → List β → Output
  | [], _ => readPastEnd
  | left :: _, [] => el.shown left * ofText el.equl * readPastEnd
  | left :: lefts, right :: rights =>
      el.shown left * ofText el.equl * el.manip right *
        if lefts.isEmpty || rights.isEmpty then 1 else ofText el.delim * el.loop lefts rights

def insert (el : EqualListBa α β) : Output := el.loop el.list1 el.list2

/-- `*i << el.equl << el.manip << *j` -/
def pair (el : EqualListBa α β) (items : α × β) : Output :=
  el.shown items.1 * ofText el.equl * el.manip items.2

end EqualListBa

namespace EqualListB

def loop (el : EqualListB α β) : Nat → List α → List β → Output
  | k, [], _ => ifField el.fields k readPastEnd * readPastEnd
  -- Where the first list goes on, `++j` leaves the second.
  | k, left :: lefts, [] =>
      ifField el.fields k (el.shown left * ofText el.equl * readPastEnd) *
        if lefts.isEmpty then 1 else readPastEnd
  | k, left :: lefts, right :: rights =>
      ifField el.fields k (el.shown left * ofText el.equl * el.manip right) *
        if lefts.isEmpty || rights.isEmpty then 1
        else ifField el.fields (k + 1) (ofText el.delim) * el.loop (k + 1) lefts rights

def insert (el : EqualListB α β) : Output := el.loop 0 el.list1 el.list2

end EqualListB

/-! ### What is expected -/

/-- As many flags as there are items. -/
abbrev Mask (count : Nat) : Type := { fields : List Bool // fields.length = count }

def ValueListBa.expected (cl : ValueListBa α) : Output :=
  joined (ofText cl.delim) (cl.list.map cl.manip)

def ValueListB.expected (cl : ValueListB α) : Output :=
  joined (ofText cl.delim) (selected cl.fields (cl.list.map cl.manip))

/-- The pairs, up to the end of the shorter list. -/
def EqualListBa.expected (el : EqualListBa α β) : Output :=
  joined (ofText el.delim) ((el.list1.zip el.list2).map el.pair)

def EqualListB.expected (el : EqualListB α β) : Output :=
  joined (ofText el.delim) (selected el.fields ((el.list1.zip el.list2).map el.pair))

/-- Texts that are inserted without an exception are joined as texts are. -/
theorem joined_texts (delim : Bytes) (texts : List Bytes) :
    joined (ofText delim) (texts.map ofText) = ofText (delim.intercalate texts) := by
  induction texts with
  | nil => rfl
  | cons text rest ih =>
      cases rest with
      | nil =>
          rw [List.intercalate_singleton]
          exact mul_one (ofText text)
      | cons next rest =>
          have behind : followed (ofText delim) ((next :: rest).map ofText) =
              ofText delim * ofText (delim.intercalate (next :: rest)) := by
            rw [← ih, List.map_cons, joined_cons, followed_cons, mul_assoc]
          rw [List.map_cons, joined_cons, behind, List.intercalate_cons_cons, List.append_assoc]
          rfl

/-! ### The loops -/

theorem ifField_of_drop {fields rest : List Bool} {k : Nat} {field : Bool}
    (there : fields.drop k = field :: rest) (output : Output) :
    ifField fields k output = if field then output else 1 := by
  have found : fields[k]? = some field := by
    rw [← List.head?_drop, there]
    rfl
  rw [ifField, found]
  cases field <;> rfl

theorem drop_succ_of_drop {fields rest : List Bool} {k : Nat} {field : Bool}
    (there : fields.drop k = field :: rest) : fields.drop (k + 1) = rest := by
  rw [← List.drop_drop, there]
  rfl

namespace ValueListBa

theorem loop_eq_joined (cl : ValueListBa α) {items : List α} (nonempty : items ≠ []) :
    cl.loop items = joined (ofText cl.delim) (items.map cl.manip) := by
  induction items with
  | nil => exact absurd rfl nonempty
  | cons item rest ih =>
      rw [List.map_cons, joined_cons]
      cases rest with
      | nil => rfl
      | cons next rest =>
          have further := ih (List.cons_ne_nil next rest)
          rw [loop, List.isEmpty_cons, if_neg Bool.false_ne_true, further, List.map_cons,
            joined_cons, followed_cons, mul_assoc]

theorem insert_eq_expected_iff (cl : ValueListBa α) :
    cl.insert = cl.expected ↔ cl.list ≠ [] := by
  constructor
  · intro right empty
    rw [insert, expected, empty] at right
    cases congrArg Output.failure right
  · exact cl.loop_eq_joined

end ValueListBa

namespace ValueListB

/-- In the loop, `k` is how many flags are behind the iterator. -/
theorem loop_eq_byPlace (cl : ValueListB α) {items : List α} (nonempty : items ≠ [])
    {k : Nat} {fields : List Bool} (ahead : cl.fields.drop k = fields)
    (enough : items.length ≤ fields.length) :
    cl.loop k items = byPlace (ofText cl.delim) fields (items.map cl.manip) := by
  induction items generalizing k fields with
  | nil => exact absurd rfl nonempty
  | cons item rest ih =>
      cases fields with
      | nil => cases enough
      | cons field fields =>
          have behind : (if rest.isEmpty then 1
                else ifField cl.fields (k + 1) (ofText cl.delim) * cl.loop (k + 1) rest) =
              followed (ofText cl.delim) (selected fields (rest.map cl.manip)) := by
            cases rest with
            | nil =>
                rw [List.map_nil, selected_nil]
                rfl
            | cons next rest =>
                have enough := Nat.le_of_succ_le_succ enough
                have ahead := drop_succ_of_drop ahead
                cases fields with
                | nil => cases enough
                | cons later fields =>
                    have further := ih (List.cons_ne_nil next rest) ahead enough
                    rw [List.isEmpty_cons, if_neg Bool.false_ne_true, ifField_of_drop ahead,
                      further, List.map_cons, due_mul_byPlace]
          rw [loop, ifField_of_drop ahead, behind, List.map_cons]
          cases field with
          | true => rfl
          | false => exact one_mul _

/-- Where the delimiter stands between the items and nowhere else. -/
def DelimiterInPlace (delim : Bytes) (fields : List Bool) (count : Nat) : Prop :=
  delim = [] ∨ fields.head? = some true ∨ ∀ field ∈ fields.take count, field = false

theorem insert_eq_expected_iff (cl : ValueListB α)
    (enough : cl.list.length ≤ cl.fields.length) :
    cl.insert = cl.expected ↔
      cl.list ≠ [] ∧ DelimiterInPlace cl.delim cl.fields cl.list.length := by
  by_cases empty : cl.list = []
  · have nothing : cl.expected = 1 := by
      rw [expected, empty, List.map_nil, selected_nil]
      rfl
    refine iff_of_false ?_ fun both => both.1 empty
    intro right
    rw [nothing, insert, empty] at right
    have failing : (cl.loop 0 []).failure ≠ none :=
      Output.failure_mul_ne_none (Option.some_ne_none Failure.outOfBounds)
    rw [right] at failing
    exact failing rfl
  · have enoughItems : (cl.list.map cl.manip).length ≤ cl.fields.length := by
      rw [List.length_map]
      exact enough
    have shows_ : ∀ rest, ofText cl.delim * rest = rest → ofText cl.delim = 1 :=
      fun _ => Output.eq_one_of_ofText_mul
    have exactly := byPlace_eq_joined_iff shows_ enoughItems
    rw [List.length_map, Output.ofText_eq_one_iff] at exactly
    rw [and_iff_right empty, insert, cl.loop_eq_byPlace empty List.drop_zero enough]
    exact exactly

end ValueListB

/-! ### Two lists -/

namespace EqualListBa

/-- The list of the pairs. -/
def zipped (el : EqualListBa α β) : ValueListBa (α × β) :=
  { list := el.list1.zip el.list2, delim := el.delim, manip := el.pair }

theorem loop_eq_zipped (el : EqualListBa α β) {lefts : List α} {rights : List β}
    (some1 : lefts ≠ []) (some2 : rights ≠ []) :
    el.loop lefts rights = el.zipped.loop (lefts.zip rights) := by
  induction lefts generalizing rights with
  | nil => exact absurd rfl some1
  | cons left lefts ih =>
      cases rights with
      | nil => exact absurd rfl some2
      | cons right rights =>
          rw [List.zip_cons_cons, loop, ValueListBa.loop]
          cases lefts with
          | nil => rfl
          | cons left' lefts =>
              cases rights with
              | nil => rfl
              | cons right' rights =>
                  rw [ih (List.cons_ne_nil left' lefts) (List.cons_ne_nil right' rights)]
                  rfl

theorem insert_eq_expected_iff (el : EqualListBa α β) :
    el.insert = el.expected ↔ el.list1 ≠ [] ∧ el.list2 ≠ [] := by
  obtain ⟨list1, list2, delim, equl, shown, manip⟩ := el
  cases list1 with
  | nil => exact iff_of_false (fun right => nomatch congrArg Output.failure right) (·.1 rfl)
  | cons left lefts =>
      cases list2 with
      | nil =>
          refine iff_of_false ?_ (·.2 rfl)
          intro right
          have failing : (shown left * ofText equl * readPastEnd).failure ≠ none :=
            Output.failure_mul_ne_none (Option.some_ne_none Failure.outOfBounds)
          exact failing (congrArg Output.failure right)
      | cons right rights =>
          have some1 := List.cons_ne_nil left lefts
          have some2 := List.cons_ne_nil right rights
          refine iff_of_true ?_ ⟨some1, some2⟩
          rw [insert, loop_eq_zipped _ some1 some2]
          exact ValueListBa.loop_eq_joined _ (List.cons_ne_nil _ _)

end EqualListBa

namespace EqualListB

def zipped (el : EqualListB α β) : ValueListB (α × β) :=
  { el.toEqualListBa.zipped with fields := el.fields }

theorem loop_eq_zipped (el : EqualListB α β) {lefts : List α} {rights : List β}
    (some1 : lefts ≠ []) (some2 : rights ≠ []) (k : Nat) :
    el.loop k lefts rights = el.zipped.loop k (lefts.zip rights) := by
  induction lefts generalizing rights k with
  | nil => exact absurd rfl some1
  | cons left lefts ih =>
      cases rights with
      | nil => exact absurd rfl some2
      | cons right rights =>
          rw [List.zip_cons_cons, loop, ValueListB.loop]
          cases lefts with
          | nil => rfl
          | cons left' lefts =>
              cases rights with
              | nil => rfl
              | cons right' rights =>
                  rw [ih (List.cons_ne_nil left' lefts) (List.cons_ne_nil right' rights)]
                  rfl

/-- The first list has one item and the second none, and nothing is selected: the loop
ends before it looks at the second list. -/
def LooksAtOneListOnly (el : EqualListB α β) : Prop :=
  el.list1.length = 1 ∧ el.list2 = [] ∧ el.fields.head? = some false

theorem insert_of_no_right {el : EqualListB α β} {left : α} {lefts : List α}
    (first : el.list1 = left :: lefts) (second : el.list2 = []) :
    el.insert = el.expected ↔ el.LooksAtOneListOnly := by
  have nothing : el.expected = 1 := by
    rw [expected, second, List.zip_nil_right, List.map_nil, selected_nil]
    rfl
  rw [nothing, insert, first, second, loop, LooksAtOneListOnly, first, second, ifField,
    List.head?_eq_getElem?, and_iff_right rfl]
  cases el.fields[0]? with
  | none => exact iff_of_false (fun right => nomatch congrArg Output.failure right) nofun
  | some field =>
      cases field with
      | true =>
          refine iff_of_false (fun right => ?_) nofun
          have failing : (el.shown left * ofText el.equl * readPastEnd).failure ≠ none :=
            Output.failure_mul_ne_none (Option.some_ne_none Failure.outOfBounds)
          exact Output.failure_mul_of_left failing _ (congrArg Output.failure right)
      | false =>
          cases lefts with
          | nil => exact iff_of_true rfl ⟨rfl, rfl⟩
          | cons next lefts =>
              refine iff_of_false (fun right => nomatch congrArg Output.failure right) ?_
              exact fun both => nomatch both.1

theorem insert_eq_expected_iff (el : EqualListB α β)
    (enough : min el.list1.length el.list2.length ≤ el.fields.length) :
    el.insert = el.expected ↔
      el.list1 ≠ [] ∧ el.list2 ≠ [] ∧ ValueListB.DelimiterInPlace el.delim el.fields
          (min el.list1.length el.list2.length) ∨
        el.LooksAtOneListOnly := by
  cases first : el.list1 with
  | nil =>
      have nothing : el.expected = 1 := by
        rw [expected, first, List.zip_nil_left, List.map_nil, selected_nil]
        rfl
      have failing : el.insert.failure ≠ none := by
        rw [insert, first]
        exact Output.failure_mul_ne_none (Option.some_ne_none Failure.outOfBounds)
      refine iff_of_false ?_ ?_
      · intro right
        rw [right, nothing] at failing
        exact failing rfl
      · rintro (⟨none, _⟩ | only)
        · exact none rfl
        · rw [LooksAtOneListOnly, first] at only
          cases only.1
  | cons left lefts =>
      cases second : el.list2 with
      | nil =>
          rw [insert_of_no_right first second]
          exact (or_iff_right (fun both => both.2.1 rfl)).symm
      | cons right rights =>
          have some1 := List.cons_ne_nil left lefts
          have some2 := List.cons_ne_nil right rights
          have notOnly : ¬ el.LooksAtOneListOnly := by
            intro found
            obtain ⟨_, none, _⟩ := found
            rw [second] at none
            cases none
          rw [or_iff_left notOnly, and_iff_right some1, and_iff_right some2, ← first, ← second]
          have width : el.zipped.list.length = min el.list1.length el.list2.length :=
            List.length_zip
          rw [← width] at enough ⊢
          have pairs : el.zipped.list ≠ [] := by
            change el.list1.zip el.list2 ≠ []
            rw [first, second]
            exact List.cons_ne_nil _ _
          have exactly := el.zipped.insert_eq_expected_iff enough
          rw [and_iff_right pairs] at exactly
          rw [insert, first, second, el.loop_eq_zipped some1 some2, ← first, ← second]
          exact exactly

end EqualListB

/-- All four lists, each with a mask that is long enough. -/
theorem lists_written_iff (values : ValueListBa α) (fields : Mask values.list.length)
    (pairs : EqualListBa α β)
    (flags : { flags : List Bool // min pairs.list1.length pairs.list2.length ≤ flags.length }) :
    (values.insert = values.expected ↔ values.list ≠ []) ∧
      ((ValueListB.mk values fields.1).insert = (ValueListB.mk values fields.1).expected ↔
        values.list ≠ [] ∧
          ValueListB.DelimiterInPlace values.delim fields.1 values.list.length) ∧
      (pairs.insert = pairs.expected ↔ pairs.list1 ≠ [] ∧ pairs.list2 ≠ []) ∧
      ((EqualListB.mk pairs flags.1).insert = (EqualListB.mk pairs flags.1).expected ↔
        pairs.list1 ≠ [] ∧ pairs.list2 ≠ [] ∧ ValueListB.DelimiterInPlace pairs.delim flags.1
            (min pairs.list1.length pairs.list2.length) ∨
          (EqualListB.mk pairs flags.1).LooksAtOneListOnly) :=
  ⟨values.insert_eq_expected_iff,
    (ValueListB.mk values fields.1).insert_eq_expected_iff (Nat.le_of_eq fields.2.symm),
    pairs.insert_eq_expected_iff, (EqualListB.mk pairs flags.1).insert_eq_expected_iff flags.2⟩

/-- The second of two items has a delimiter before it, and of no items one is read. -/
theorem delimiter_leads :
    let values : ValueListBa Bytes :=
      { list := [ascii "a", ascii "b"], delim := ascii ",", manip := ofText }
    (ValueListB.mk values [false, true]).insert = ofText (ascii ",b") ∧
      (ValueListB.mk values [false, true]).expected = ofText (ascii "b") ∧
      ({ values with list := [] } : ValueListBa Bytes).insert = readPastEnd ∧
      ({ values with list := [] } : ValueListBa Bytes).expected = ofText [] := by
  decide

end LibTabula
