/-
Fields by their names.

`FieldNames` looks for a name from the first field on, in lower case, and answers with
their number where there is none. What a result set and a row make of that answer are
two different things.
-/

import LibTabula.Result
import LibTabula.StringCompare

set_option autoImplicit false

namespace LibTabula

/-- What ends a lookup early. The last two are no exceptions: a null pointer is used, or an
index that is outside a vector. -/
inductive LookupFailure
  | badFieldName (what : Bytes)
  | badIndex (what : Bytes)
  | nullPointer
  | outOfBounds
deriving DecidableEq, Repr

/-- `BadFieldName(bad_field)`, of a C string. -/
def badFieldName (name : Bytes) : LookupFailure :=
  .badFieldName (ascii "Unknown field name: " ++ beforeNul name)

namespace FieldNames

/-- The names agree but for their case. -/
def Same (field name : Bytes) : Prop := strToLwr field = strToLwr name

instance (field name : Bytes) : Decidable (Same field name) :=
  inferInstanceAs (Decidable (strToLwr field = strToLwr name))

/-- How far the loop goes. -/
def position (names : List Bytes) (s : Bytes) : Nat :=
  names.findIdx fun field => decide (Same field s)

/-- `operator []`, which returns an `unsigned int`. -/
def index (names : List Bytes) (s : Bytes) : Nat := position names s % 2 ^ 32

/-- It is the first field of that name. -/
structure IsFirst (names : List Bytes) (name : Bytes) (i : Nat) : Prop where
  named : ∃ field, names[i]? = some field ∧ Same field name
  first : ∀ j < i, ∀ field, names[j]? = some field → ¬ Same field name

theorem isFirst_iff (names : List Bytes) (name : Bytes) (i : Nat) :
    IsFirst names name i ↔ i < names.length ∧ position names name = i := by
  constructor
  · intro given
    obtain ⟨⟨field, found, same⟩, first⟩ := given
    obtain ⟨inside, rfl⟩ := List.getElem?_eq_some_iff.mp found
    refine ⟨inside, (List.findIdx_eq inside).mpr ⟨decide_eq_true same, fun j before => ?_⟩⟩
    have other := first j before _ (List.getElem?_eq_getElem (before.trans inside))
    exact decide_eq_false other
  · intro both
    obtain ⟨inside, stopped⟩ := both
    obtain ⟨same, before⟩ := (List.findIdx_eq inside).mp stopped
    refine ⟨⟨_, List.getElem?_eq_getElem inside, of_decide_eq_true same⟩, ?_⟩
    intro j earlier field found
    obtain ⟨_, rfl⟩ := List.getElem?_eq_some_iff.mp found
    exact of_decide_eq_false (before j earlier)

theorem position_eq_length_iff (names : List Bytes) (name : Bytes) :
    position names name = names.length ↔ ∀ field ∈ names, ¬ Same field name := by
  refine List.findIdx_eq_length.trans ?_
  simp only [decide_eq_false_iff_not]

theorem position_cases (names : List Bytes) (name : Bytes) :
    IsFirst names name (position names name) ∨ position names name = names.length := by
  rcases Nat.lt_or_eq_of_le List.findIdx_le_length with inside | noField
  · exact .inl ((isFirst_iff names name _).mpr ⟨inside, rfl⟩)
  · exact .inr noField

end FieldNames

open FieldNames (Same IsFirst)

/-! ### Result sets -/

/-- `field_num`. Where no result set is behind the object there is no driver in it, and
`names_` is null. -/
def ResultBase.fieldNum (self : ResultBase) (i : Bytes) : Except LookupFailure Int :=
  match self.driver with
  | none => .error .nullPointer
  | some _ =>
      let index := FieldNames.index self.names i
      if self.names.length ≤ index ∧ self.throwExceptions then
        if self.throwExceptions then .error (badFieldName i) else .ok (-1)
      else .ok (toInt32 index)

/-- The first field of the name, or what tells that there is none. -/
structure ResultBase.FindsField (res : ResultBase) (name : Bytes) : Prop where
  found : ∀ i, IsFirst res.names name i → res.fieldNum name = .ok (i : Int)
  missing : (∀ field ∈ res.names, ¬ Same field name) →
    res.fieldNum name = if res.throwExceptions then .error (badFieldName name) else .ok (-1)

namespace ResultBase

/-- Where the answer of `FieldNames` survives what becomes of it. -/
def AnswerSurvives (self : ResultBase) (name : Bytes) : Prop :=
  (∃ i, IsFirst self.names name i ∧ i < 2 ^ 31) ∨
    (∀ field ∈ self.names, ¬ Same field name) ∧
      if self.throwExceptions then self.names.length < 2 ^ 32
      else self.names.length % 2 ^ 32 = 2 ^ 32 - 1

theorem toInt32_eq_iff {index : Nat} (bound : index < 2 ^ 32) (i : Nat) :
    toInt32 index = i ↔ index = i ∧ i < 2 ^ 31 := by
  unfold toInt32
  omega

theorem toInt32_eq_neg_one_iff {index : Nat} (bound : index < 2 ^ 32) :
    toInt32 index = -1 ↔ index = 2 ^ 32 - 1 := by
  unfold toInt32
  omega

/-- A field that is there is found, up to the conversions of its index. -/
theorem fieldNum_of_isFirst {self : ResultBase} {name : Bytes} {i : Nat}
    (hasNames : self.driver ≠ none) (first : IsFirst self.names name i) :
    self.fieldNum name = .ok (toInt32 (i % 2 ^ 32 : Nat)) := by
  obtain ⟨driver, given⟩ := Option.ne_none_iff_exists'.mp hasNames
  obtain ⟨inside, stopped⟩ := (FieldNames.isFirst_iff _ _ _).mp first
  have low : i % 2 ^ 32 ≤ i := Nat.mod_le i _
  have notMissing : ¬ (self.names.length ≤ i % 2 ^ 32 ∧ self.throwExceptions) := by
    intro both
    obtain ⟨beyond, _⟩ := both
    omega
  rw [fieldNum, given]
  simp only [FieldNames.index, stopped, if_neg notMissing]

theorem fieldNum_of_missing {self : ResultBase} {name : Bytes} (hasNames : self.driver ≠ none)
    (missing : ∀ field ∈ self.names, ¬ Same field name) :
    self.fieldNum name =
      if self.throwExceptions ∧ self.names.length < 2 ^ 32 then .error (badFieldName name)
      else .ok (toInt32 (self.names.length % 2 ^ 32 : Nat)) := by
  obtain ⟨driver, given⟩ := Option.ne_none_iff_exists'.mp hasNames
  have stopped := (FieldNames.position_eq_length_iff _ _).mpr missing
  have beyond : self.names.length ≤ self.names.length % 2 ^ 32 ↔ self.names.length < 2 ^ 32 := by
    have low := Nat.mod_lt self.names.length (by decide : 0 < 2 ^ 32)
    constructor
    · exact fun le => Nat.lt_of_le_of_lt le low
    · exact fun lt => (Nat.mod_eq_of_lt lt).ge
  rw [fieldNum, given]
  simp only [FieldNames.index, stopped, beyond]
  cases self.throwExceptions with
  | true => simp only [and_true, true_and, if_true]
  | false => simp only [Bool.false_eq_true, and_false, false_and, if_false]

theorem findsField_iff_of_isFirst {self : ResultBase} {name : Bytes} {i : Nat}
    (hasNames : self.driver ≠ none) (first : IsFirst self.names name i) :
    self.FindsField name ↔ i < 2 ^ 31 := by
  have low : i % 2 ^ 32 < 2 ^ 32 := Nat.mod_lt i (by decide)
  have answer := fieldNum_of_isFirst hasNames first
  have stopped := ((FieldNames.isFirst_iff _ _ _).mp first).2
  constructor
  · intro finds
    have right := finds.found i first
    rw [answer, Except.ok.injEq, toInt32_eq_iff low] at right
    exact right.2
  · intro small
    constructor
    · intro j firstToo
      have same := ((FieldNames.isFirst_iff _ _ _).mp firstToo).2
      rw [stopped] at same
      subst same
      rw [answer, Except.ok.injEq, toInt32_eq_iff low]
      exact ⟨Nat.mod_eq_of_lt (by omega), small⟩
    · intro missing
      obtain ⟨field, found, same⟩ := first.named
      exact absurd same (missing field (List.mem_of_getElem? found))

theorem findsField_iff_of_missing {self : ResultBase} {name : Bytes}
    (hasNames : self.driver ≠ none) (missing : ∀ field ∈ self.names, ¬ Same field name) :
    self.FindsField name ↔ if self.throwExceptions then self.names.length < 2 ^ 32
      else self.names.length % 2 ^ 32 = 2 ^ 32 - 1 := by
  have low : self.names.length % 2 ^ 32 < 2 ^ 32 := Nat.mod_lt _ (by decide)
  have answer := fieldNum_of_missing hasNames missing
  have onlyMissing : self.FindsField name ↔ self.fieldNum name =
      if self.throwExceptions then .error (badFieldName name) else .ok (-1) := by
    constructor
    · exact fun finds => finds.missing missing
    · intro right
      refine ⟨fun i first => ?_, fun _ => right⟩
      obtain ⟨field, found, same⟩ := first.named
      exact absurd same (missing field (List.mem_of_getElem? found))
  rw [onlyMissing, answer]
  cases self.throwExceptions with
  | true =>
      simp only [if_true, true_and]
      by_cases few : self.names.length < 2 ^ 32
      · rw [if_pos few]
        exact iff_of_true rfl few
      · rw [if_neg few]
        exact iff_of_false nofun few
  | false =>
      simp only [Bool.false_eq_true, false_and, if_false, Except.ok.injEq]
      exact toInt32_eq_neg_one_iff low

theorem findsField_iff (self : ResultBase) (name : Bytes) :
    self.FindsField name ↔ self.driver ≠ none ∧ self.AnswerSurvives name := by
  by_cases noNames : self.driver = none
  · have crashed : self.fieldNum name = .error .nullPointer := by
      rw [fieldNum, noNames]
    refine iff_of_false ?_ fun both => both.1 noNames
    intro finds
    rcases FieldNames.position_cases self.names name with first | stopped
    · have answer := finds.found _ first
      rw [crashed] at answer
      cases answer
    · have answer := finds.missing ((FieldNames.position_eq_length_iff _ _).mp stopped)
      rw [crashed] at answer
      cases flag : self.throwExceptions with
      | true => simp only [flag, if_true, badFieldName, reduceCtorEq, Except.error.injEq] at answer
      | false => simp only [flag, Bool.false_eq_true, if_false, reduceCtorEq] at answer
  · rw [and_iff_right noNames]
    rcases FieldNames.position_cases self.names name with first | stopped
    · rw [findsField_iff_of_isFirst noNames first, AnswerSurvives]
      constructor
      · exact fun small => .inl ⟨_, first, small⟩
      · rintro (⟨i, firstToo, small⟩ | ⟨missing, _⟩)
        · rw [((FieldNames.isFirst_iff _ _ _).mp firstToo).2]
          exact small
        · obtain ⟨field, found, same⟩ := first.named
          exact absurd same (missing field (List.mem_of_getElem? found))
    · have missing := (FieldNames.position_eq_length_iff _ _).mp stopped
      rw [findsField_iff_of_missing noNames missing, AnswerSurvives, and_iff_right missing]
      refine (or_iff_right ?_).symm
      intro given
      obtain ⟨i, first, _⟩ := given
      obtain ⟨field, found, same⟩ := first.named
      exact missing field (List.mem_of_getElem? found) same

/-- With exceptions off, a name that is not there gets the number of the fields. -/
theorem unknown_name_gets_size :
    let type : FieldType := { base := .integer, flags := tfDefault }
    let res := ResultBase.new [⟨ascii "id", type⟩, ⟨ascii "name", type⟩] ⟨false⟩ false
    res.fieldNum (ascii "price") = .ok 2 ∧ ¬ res.FindsField (ascii "price") := by
  intro type res
  have answer : res.fieldNum (ascii "price") = .ok 2 := by decide +kernel
  refine ⟨answer, ?_⟩
  intro finds
  have right := finds.missing (by decide +kernel)
  rw [answer] at right
  cases right

end ResultBase

end LibTabula
