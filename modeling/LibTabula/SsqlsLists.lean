/-
The lists of an SSQLS: values, fields and equations, of all fields or of some.

The code is generated for a number of fields, one statement for each, and the statements
for the first and the last field are not the same as those between. Which fields are
taken is said by flags, by enumerators up to `NAME_NULL`, or by a vector.
-/

import LibTabula.ValueLists
import Mathlib.Order.Fin.Basic

set_option autoImplicit false

namespace LibTabula

open Foundation.Joining
open Output (ofText readPastEnd)

/-- What a manipulator makes of a value, and of the quote that a field begins with. -/
structure ListManip (V : Type) where
  value : V → Output
  quote : Output

/-- An object: the names of its structure, and its values. -/
structure SsqlsLine (V : Type) where
  fields : List (Bytes × V)
  anyField : fields ≠ []

/-- A subset of so many fields, in its three encodings. The enumerators are numbered from
0, and `NAME_NULL` is behind the last one; what stands behind it is not looked at. -/
structure SubsetOf (count : Nat) where
  flags : List Bool
  size : flags.length = count
  enums : List (Fin (count + 1))
  arity : enums.length = count
  same : ∀ k : Fin count,
    flags[k.val]? = some true ↔ k.castSucc ∈ enums.takeWhile (· ≠ Fin.last count)

variable {V : Type}

/-! ### Items -/

section Items

variable (comp : Bytes) (manip : ListManip V) (field : Bytes × V)

def backtick : Output := ofText (ascii "\x60")

/-- `s << obj.manip << obj.obj->I` -/
def valueItem : Output := manip.value field.2

def fieldItem : Output := manip.quote * ofText field.1 * backtick

def equalItem : Output :=
  backtick * ofText field.1 * backtick * ofText comp * manip.value field.2

end Items

/-! ### The generated code -/

section Generated

variable (delim : Bytes)

/-- `$value_list`, `$field_list` or `$equal_list`: no delimiter behind the last item. -/
def wholeList : List Output → Output
  | [] => 1
  | [item] => item
  | item :: next :: items => item * ofText delim * wholeList (next :: items)

/-- `$value_list_cus`, `$cus_field_list` or `$cus_equal_list` from the statement for field
`j` on. The first field puts no delimiter, and the last one does not set the flag. -/
def cusListFrom (include_ : List Bool) : Nat → Bool → List Output → Output
  | _, _, [] => 1
  | j, before, item :: items =>
      match include_[j - 1]? with
      | none => readPastEnd
      | some true =>
          (if j = 1 then 1 else if before then ofText delim else 1) * item *
            cusListFrom include_ (j + 1) (if items.isEmpty then before else true) items
      | some false => cusListFrom include_ (j + 1) before items

def cusList (include_ : List Bool) (items : List Output) : Output :=
  cusListFrom delim include_ 1 false items

/-- `$create_bool` from the statement for field `j` on. -/
def createBoolFrom : Nat → List Bool → List Bool → List Bool
  | _, [], include_ => include_
  | j, i :: rest, include_ =>
      createBoolFrom (j + 1) rest (if i then include_.set (j - 1) true else include_)

def createBool (count : Nat) (flags : List Bool) : List Bool :=
  createBoolFrom 1 flags (List.replicate count false)

/-- `$create_list`. The test for `NAME_NULL` is left out if there is one field. -/
def createListFrom (count : Nat) :
    List (Fin (count + 1)) → List Bool → Except Failure (List Bool)
  | [], include_ => .ok include_
  | i :: rest, include_ =>
      if count ≠ 1 ∧ i = Fin.last count then .ok include_
      else if i.val < include_.length then createListFrom count rest (include_.set i.val true)
      else .error .outOfBounds

def createList (count : Nat) (enums : List (Fin (count + 1))) : Except Failure (List Bool) :=
  createListFrom count enums (List.replicate count false)

/-- The constructors from flags, from enumerators and from a vector, each inserted into a
stream. -/
def streamFlags {count : Nat} (subset : SubsetOf count) (items : List Output) : Output :=
  cusList delim (createBool count subset.flags) items

def streamEnums {count : Nat} (subset : SubsetOf count) (items : List Output) : Output :=
  match createList count subset.enums with
  | .ok include_ => cusList delim include_ items
  | .error failure => { text := [], failure := some failure }

def streamVector {count : Nat} (subset : SubsetOf count) (items : List Output) : Output :=
  cusList delim subset.flags items

end Generated

/-! ### What is expected -/

/-- All forms stream the selected items, with the delimiter between them. -/
structure FormsAgree (delim : Bytes) {count : Nat} (subset : SubsetOf count)
    (items : List Output) : Prop where
  flags : streamFlags delim subset items = joined (ofText delim) (selected subset.flags items)
  enums : streamEnums delim subset items = joined (ofText delim) (selected subset.flags items)
  vector : streamVector delim subset items = joined (ofText delim) (selected subset.flags items)
  whole : (∀ flag ∈ subset.flags, flag = true) →
    wholeList delim items = joined (ofText delim) (selected subset.flags items)

namespace SsqlsLine

variable (self : SsqlsLine V) (delim comp : Bytes) (manip : ListManip V)

abbrev count : Nat := self.fields.length

/-- The three kinds of lists. -/
def ListsAgree (subset : SubsetOf self.count) : Prop :=
  FormsAgree delim subset (self.fields.map (valueItem manip)) ∧
    FormsAgree delim subset (self.fields.map (fieldItem manip)) ∧
    FormsAgree delim subset (self.fields.map (equalItem comp manip))

end SsqlsLine

/-! ### Whole lists and selecting lists -/

theorem wholeList_eq_joined (delim : Bytes) (items : List Output) :
    wholeList delim items = joined (ofText delim) items := by
  induction items with
  | nil => rfl
  | cons item items ih =>
      rw [joined_cons]
      cases items with
      | nil => exact (mul_one item).symm
      | cons next items => rw [wholeList, ih, joined_cons, followed_cons, mul_assoc, mul_assoc]

/-- At field `j` the flag tells whether an item has been put; at the first one none has. -/
theorem cusListFrom_eq_byFlag (delim : Bytes) {include_ fields : List Bool} {items : List Output}
    {j : Nat} {before : Bool} (ahead : include_.drop j = fields)
    (enough : items.length ≤ fields.length) (atFirst : before = true → j ≠ 0) :
    cusListFrom delim include_ (j + 1) before items =
      byFlag (ofText delim) before fields items := by
  induction items generalizing j before fields with
  | nil =>
      cases fields with
      | nil => rfl
      | cons field fields => cases field <;> rfl
  | cons item items ih =>
      cases fields with
      | nil => cases enough
      | cons field fields =>
          have found : include_[j]? = some field := by
            rw [← List.head?_drop, ahead]
            rfl
          have further := drop_succ_of_drop ahead
          have fewer := Nat.le_of_succ_le_succ enough
          rw [cusListFrom, Nat.add_sub_cancel, found]
          cases field with
          | false =>
              rw [byFlag]
              exact ih further fewer fun _ => Nat.succ_ne_zero j
          | true =>
              have due : (if j + 1 = 1 then 1 else if before then ofText delim else 1) =
                  if before then ofText delim else 1 := by
                cases before with
                | false => exact ite_self 1
                | true => rw [if_neg (by have := atFirst rfl; omega)]
              cases items with
              | nil =>
                  have last : byFlag (ofText delim) true fields [] = 1 := by
                    rw [byFlag_eq, selected_nil]
                    rfl
                  rw [byFlag, due, last]
                  rfl
              | cons next items =>
                  have rest := ih further fewer fun _ : true = true => Nat.succ_ne_zero j
                  rw [byFlag, due, ← rest]
                  rfl

theorem cusList_eq_joined (delim : Bytes) {include_ : List Bool} {items : List Output}
    (enough : items.length ≤ include_.length) :
    cusList delim include_ items = joined (ofText delim) (selected include_ items) := by
  rw [← byFlag_eq_joined]
  exact cusListFrom_eq_byFlag delim List.drop_zero enough nofun

/-! ### The three encodings -/

/-- What stands before field `j` has been read already. -/
theorem createBoolFrom_eq (front flags : List Bool) :
    createBoolFrom (front.length + 1) flags (front ++ List.replicate flags.length false) =
      front ++ flags := by
  induction flags generalizing front with
  | nil => rfl
  | cons flag flags ih =>
      have further := ih (front ++ [flag])
      rw [List.length_append, List.length_singleton, List.append_assoc, List.append_assoc,
        List.singleton_append, List.singleton_append] at further
      rw [createBoolFrom, List.length_cons, List.replicate_succ, Nat.add_sub_cancel, ← further]
      cases flag with
      | false => rfl
      | true =>
          rw [if_pos rfl, List.set_append_right _ _ (Nat.le_refl _), Nat.sub_self,
            List.set_cons_zero]

theorem createBool_eq {count : Nat} {flags : List Bool} (size : flags.length = count) :
    createBool count flags = flags := by
  rw [← size]
  exact createBoolFrom_eq [] flags

theorem createListFrom_eq_marked {count : Nat} (several : count ≠ 1)
    (enums : List (Fin (count + 1))) {include_ : List Bool} (size : include_.length = count) :
    createListFrom count enums include_ =
      .ok (marked ((enums.takeWhile (· ≠ Fin.last count)).map Fin.val) include_) := by
  induction enums generalizing include_ with
  | nil => rfl
  | cons i rest ih =>
      rw [createListFrom]
      by_cases ended : i = Fin.last count
      · have stops : (i :: rest).takeWhile (· ≠ Fin.last count) = [] :=
          List.takeWhile_cons_of_neg (by simpa using ended)
        rw [if_pos ⟨several, ended⟩, stops]
        rfl
      · have inside : i.val < include_.length := by
          rw [size]
          exact Fin.val_lt_last ended
        have size : (include_.set i.val true).length = count := List.length_set.trans size
        have goesOn : (i :: rest).takeWhile (· ≠ Fin.last count) =
            i :: rest.takeWhile (· ≠ Fin.last count) :=
          List.takeWhile_cons_of_pos (by simpa using ended)
        rw [if_neg fun both => ended both.2, if_pos inside, ih size, goesOn]
        rfl

/-- Enumerators say the same as flags, if there is more than one field. -/
theorem createList_eq {count : Nat} (several : count ≠ 1) (subset : SubsetOf count) :
    createList count subset.enums = .ok subset.flags := by
  have size : (List.replicate count false).length = count := List.length_replicate
  rw [createList, createListFrom_eq_marked several subset.enums size, Except.ok.injEq]
  apply flags_ext
  · rw [length_marked, size, subset.size]
  · intro k inside
    rw [length_marked, size] at inside
    have unset : (List.replicate count false)[k]? ≠ some true := by
      intro set_
      cases List.eq_of_mem_replicate (List.mem_of_getElem? set_)
    rw [marked_eq_true_iff, or_iff_right unset, size, and_iff_right inside, List.mem_map]
    refine Iff.trans ?_ (subset.same ⟨k, inside⟩).symm
    constructor
    · intro found
      obtain ⟨i, member, rfl⟩ := found
      exact member
    · exact fun member => ⟨_, member, rfl⟩

/-- With one field, `NAME_NULL` is an index behind the vector. -/
theorem createList_one (subset : SubsetOf 1) :
    createList 1 subset.enums =
      if subset.flags = [false] then .error .outOfBounds else .ok subset.flags := by
  obtain ⟨i, enums⟩ := List.length_eq_one_iff.mp subset.arity
  obtain ⟨flag, flags⟩ := List.length_eq_one_iff.mp subset.size
  have same := subset.same 0
  rw [enums, flags] at same
  rw [createList, enums, flags]
  rcases (by decide : ∀ i : Fin (1 + 1), i = 0 ∨ i = 1) i with rfl | rfl
  · have set_ : flag = true := Option.some.inj (same.mpr (by decide))
    rw [set_]
    rfl
  · have unset : flag = false := by
      rw [← Bool.not_eq_true]
      intro set_
      have member := same.mp (congrArg some set_)
      revert member
      decide
    rw [unset]
    rfl

/-! ### All forms -/

theorem formsAgree_iff (delim : Bytes) {count : Nat} (subset : SubsetOf count)
    {items : List Output} (width : items.length = count) :
    FormsAgree delim subset items ↔ ¬ (count = 1 ∧ ∀ flag ∈ subset.flags, flag = false) := by
  have enough : items.length ≤ subset.flags.length :=
    Nat.le_of_eq (width.trans subset.size.symm)
  have byVector := cusList_eq_joined delim enough
  have byFlags : streamFlags delim subset items = streamVector delim subset items := by
    rw [streamFlags, createBool_eq subset.size]
    rfl
  have whole (all : ∀ flag ∈ subset.flags, flag = true) :
      wholeList delim items = joined (ofText delim) (selected subset.flags items) := by
    rw [wholeList_eq_joined, selected_of_all (subset.size.trans width.symm) all]
  have onlyEnums : FormsAgree delim subset items ↔
      streamEnums delim subset items = joined (ofText delim) (selected subset.flags items) :=
    ⟨FormsAgree.enums, fun byEnums => ⟨byFlags.trans byVector, byEnums, byVector, whole⟩⟩
  rw [onlyEnums]
  by_cases several : count = 1
  · subst several
    obtain ⟨flag, flags⟩ := List.length_eq_one_iff.mp subset.size
    rw [and_iff_right rfl, streamEnums, createList_one]
    cases flag with
    | true =>
        rw [flags]
        refine iff_of_true ?_ (by decide)
        rw [flags] at byVector
        exact byVector
    | false =>
        rw [flags]
        refine iff_of_false ?_ (by decide)
        intro right
        have nothing : selected [false] items = [] := by
          rw [selected_eq_nil_iff (Nat.le_of_eq width), width]
          decide
        rw [nothing] at right
        cases congrArg Output.failure right
  · refine iff_of_true ?_ fun both => several both.1
    rw [streamEnums, createList_eq several]
    exact byVector

/-- For every structure and every object of it. -/
theorem SsqlsLine.listsAgree_iff (self : SsqlsLine V) (delim comp : Bytes) (manip : ListManip V)
    (subset : SubsetOf self.count) :
    self.ListsAgree delim comp manip subset ↔
      ¬ (self.count = 1 ∧ ∀ flag ∈ subset.flags, flag = false) := by
  have width (item : Bytes × V → Output) : (self.fields.map item).length = self.count :=
    List.length_map item
  have each (item : Bytes × V → Output) := formsAgree_iff delim subset (width item)
  rw [ListsAgree, each, each, each, and_self, and_self]

/-- Of one field none is selected: the vector of one flag is written behind its end. -/
theorem nothing_of_one_field :
    let line : SsqlsLine Bytes := { fields := [(ascii "id", ascii "7")], anyField := nofun }
    let none : SubsetOf line.count :=
      { flags := [false], size := rfl, enums := [1], arity := rfl, same := by decide }
    let manip : ListManip Bytes := { value := ofText, quote := backtick }
    createList line.count none.enums = .error .outOfBounds ∧
      ¬ line.ListsAgree (ascii ",") (ascii " = ") manip none := by
  intro line none manip
  refine ⟨rfl, ?_⟩
  intro agree
  have right := agree.1.enums
  revert right
  decide

end LibTabula
