/-
Masks for sparse lists, made by `create_vector`.

From flags, thirteen at most, the mask is as long as it is to be or as long as the flags
are. From names, each is looked up in a row, and the mask is written to at whatever index
comes of it.
-/

import LibTabula.FieldNames
import LibTabula.ValueLists

set_option autoImplicit false

namespace LibTabula

open Foundation.Joining
open FieldNames (Same IsFirst)
open Output (ofText)

/-! ### Rows -/

/-- A row as the library makes them. -/
structure Row.WellFormed (row : Row) : Prop where
  width : row.fieldNames.length = row.data.length
  unset : row.initialized = false → row.data = []
  /-- The client library hands names over as C strings. -/
  noNul : ∀ name ∈ row.fieldNames, 0 ∉ name

abbrev MadeRow : Type := { row : Row // row.WellFormed }

namespace Row

def size (self : Row) : Nat := if self.initialized then self.data.length else 0

/-- `field_num`; without names, `field_names_` is null. -/
def fieldNum (self : Row) (name : Bytes) : Except LookupFailure Nat :=
  if self.initialized then .ok (FieldNames.index self.fieldNames name)
  else if self.throwExceptions then .error (badFieldName name)
  else .ok 0

end Row

theorem RawRow.wellFormed_row {fields : List Field} (noNul : ∀ field ∈ fields, 0 ∉ field.name)
    (raw : RawRow fields) (te : Bool) : (raw.row te).WellFormed where
  width := by
    simp only [row, Row.new, List.length_map, List.length_zipWith, raw.complete, Nat.min_self]
  unset := nofun
  noNul name member := by
    obtain ⟨field, found, rfl⟩ := List.mem_map.mp member
    exact noNul field found

/-! ### The two forms -/

/-- `t0` to `tc`, of which those that are not given are `false`. -/
structure BoolArguments where
  list : List Bool
  count : list.length = 13

/-- `s0` to `sc`, of which those that are not given are empty. -/
structure NameArguments where
  list : List Bytes
  count : list.length = 13

/-- `v.push_back(t); if (size == pushed) return;` and so on. -/
def pushFlags (size : Nat) : Nat → List Bool → List Bool
  | _, [] => []
  | pushed, t :: rest =>
      t :: if size = pushed + 1 then [] else pushFlags size (pushed + 1) rest

/-- `create_vector` from flags. -/
def createVector (size : Nat) (args : BoolArguments) : List Bool := pushFlags size 0 args.list

/-- `v[c.field_num(s.c_str())] = true;` -/
def markName (c : Row) (v : List Bool) (s : Bytes) : Except LookupFailure (List Bool) := do
  let index ← c.fieldNum (beforeNul s)
  if index < v.length then pure (v.set index true) else throw .outOfBounds

def markNames (c : Row) : List Bytes → List Bool → Except LookupFailure (List Bool)
  | [], v => pure v
  | s :: rest, v => do
      let v ← markName c v s
      if rest.head? = some [] then pure v else markNames c rest v

/-- `create_vector` from the names of fields of a row. -/
def createVectorNamed (c : Row) (args : NameArguments) : Except LookupFailure (List Bool) :=
  markNames c args.list (List.replicate c.size false)

/-! ### What is expected -/

/-- The first name, and more of them up to the first empty one. -/
def givenNames : List Bytes → List Bytes
  | [] => []
  | s :: rest => s :: rest.takeWhile (· ≠ [])

/-- A mask for so many fields with the requested ones set, which a list of values can be
streamed by. -/
structure MaskRight (count : Nat) (requested : Nat → Prop) (mask : List Bool) : Prop where
  length : mask.length = count
  set : ∀ k < count, mask[k]? = some true ↔ requested k
  streams : ∀ cl : ValueListB Bytes, cl.fields = mask → cl.list.length = count →
    (∀ item, (cl.manip item).failure = none) → cl.insert.failure = none

def BoolMaskRight (row : Row) (args : BoolArguments) : Prop :=
  MaskRight row.size (fun k => args.list[k]? = some true) (createVector row.size args)

/-- The mask is right and all names are known, or it is reported that one is not. -/
def NamedMaskRight (row : Row) (args : NameArguments) : Prop :=
  match createVectorNamed row args with
  | .ok mask =>
      (∀ s ∈ givenNames args.list, ∃ k, IsFirst row.fieldNames s k) ∧
        MaskRight row.size (fun k => ∃ s ∈ givenNames args.list, IsFirst row.fieldNames s k) mask
  | .error (.badFieldName _) => ∃ s ∈ givenNames args.list, ∀ k, ¬ IsFirst row.fieldNames s k
  | .error _ => False

/-! ### Streaming -/

theorem Output.failure_mul {first second : Output} (returned : first.failure = none)
    (behind : second.failure = none) : (first * second).failure = none := by
  rw [Output.mul_of_ok returned]
  exact behind

theorem followed_failure {delim : Bytes} {outputs : List Output}
    (quiet : ∀ output ∈ outputs, output.failure = none) :
    (followed (ofText delim) outputs).failure = none := by
  induction outputs with
  | nil => rfl
  | cons output outputs ih =>
      obtain ⟨first, others⟩ := List.forall_mem_cons.mp quiet
      rw [followed_cons, mul_assoc]
      exact Output.failure_mul rfl (Output.failure_mul first (ih others))

/-- With one flag for each item the loop reads neither behind the flags nor behind the
items. -/
theorem ValueListB.insert_failure {cl : ValueListB Bytes} (nonempty : cl.list ≠ [])
    (same : cl.list.length = cl.fields.length)
    (quiet : ∀ item, (cl.manip item).failure = none) : cl.insert.failure = none := by
  have quietItems (fields : List Bool) (items : List Bytes) :
      ∀ output ∈ selected fields (items.map cl.manip), output.failure = none := by
    intro output member
    rw [selected_map] at member
    obtain ⟨item, _, rfl⟩ := List.mem_map.mp member
    exact quiet item
  rw [insert, cl.loop_eq_byPlace nonempty List.drop_zero same.le]
  cases items : cl.list with
  | nil => exact absurd items nonempty
  | cons item rest =>
      cases fields : cl.fields with
      | nil => rfl
      | cons field fields =>
          rw [List.map_cons]
          cases field with
          | true => exact Output.failure_mul (quiet item) (followed_failure (quietItems _ _))
          | false => exact followed_failure (quietItems _ _)

/-- A mask of the right length serves, if there is a field. -/
theorem maskRight_of_set {count : Nat} {requested : Nat → Prop} {mask : List Bool}
    (positive : 0 < count) (length : mask.length = count)
    (set_ : ∀ k < count, mask[k]? = some true ↔ requested k) :
    MaskRight count requested mask where
  length := length
  set := set_
  streams cl fields items quiet := by
    have nonempty : cl.list ≠ [] := by
      intro nothing
      rw [nothing, List.length_nil] at items
      omega
    exact cl.insert_failure nonempty (by rw [items, fields, length]) quiet

/-! ### From flags -/

theorem pushFlags_eq (size pushed : Nat) (args : List Bool) :
    pushFlags size pushed args = if pushed < size then args.take (size - pushed) else args := by
  induction args generalizing pushed with
  | nil =>
      rw [List.take_nil, ite_self]
      rfl
  | cons t rest ih =>
      rw [pushFlags]
      rcases Nat.lt_trichotomy size (pushed + 1) with less | last | more
      · have past : ¬ pushed + 1 < size := by omega
        rw [if_neg (by omega), ih, if_neg past, if_neg (by omega)]
      · rw [if_pos last, if_pos (by omega), last, Nat.add_sub_cancel_left, List.take_succ_cons,
          List.take_zero]
      · have one : size - pushed = (size - (pushed + 1)) + 1 := by omega
        rw [if_neg (by omega), ih, if_pos more, if_pos (by omega), one, List.take_succ_cons]

theorem boolMaskRight_iff (row : Row) (args : BoolArguments) :
    BoolMaskRight row args ↔ 1 ≤ row.size ∧ row.size ≤ 13 := by
  have made := pushFlags_eq row.size 0 args.list
  rw [Nat.sub_zero] at made
  constructor
  · intro right
    have length := right.length
    rw [createVector, made] at length
    by_cases none : 0 < row.size
    · rw [if_pos none, List.length_take, args.count] at length
      omega
    · rw [if_neg none, args.count] at length
      omega
  · intro both
    obtain ⟨some_, few⟩ := both
    have positive : 0 < row.size := some_
    rw [if_pos positive] at made
    rw [BoolMaskRight, createVector, made]
    apply maskRight_of_set positive
    · rw [List.length_take, args.count]
      omega
    · intro k inside
      rw [List.getElem?_take_of_lt inside]

/-! ### From names -/

theorem markNames_eq_foldlM (c : Row) (s : Bytes) (rest : List Bytes) (v : List Bool) :
    markNames c (s :: rest) v = (givenNames (s :: rest)).foldlM (markName c) v := by
  induction rest generalizing s v with
  | nil =>
      rw [markNames, givenNames, List.takeWhile_nil, List.foldlM_cons]
      rfl
  | cons next rest ih =>
      rw [markNames, givenNames, List.foldlM_cons, List.head?_cons]
      by_cases ended : next = []
      · rw [ended, List.takeWhile_cons_of_neg (by simp)]
        rfl
      · have goesOn : ¬ some next = some [] := fun same => ended (Option.some.inj same)
        rw [List.takeWhile_cons_of_pos (by simpa using ended)]
        simp only [if_neg goesOn, ih]
        rfl

section Names

variable {c : Row} (initialized : c.initialized = true)

/-- The index that a name is marked at. -/
def Row.markedAt (c : Row) (s : Bytes) : Nat := FieldNames.index c.fieldNames (beforeNul s)

include initialized

theorem markName_eq (v : List Bool) (s : Bytes) :
    markName c v s = if c.markedAt s < v.length then .ok (v.set (c.markedAt s) true)
      else .error .outOfBounds := by
  rw [markName, Row.fieldNum, if_pos initialized]
  rfl

theorem markNames_ok {names : List Bytes} {v : List Bool}
    (inside : ∀ s ∈ names, c.markedAt s < v.length) :
    names.foldlM (markName c) v = .ok (marked (names.map c.markedAt) v) := by
  induction names generalizing v with
  | nil => rfl
  | cons s names ih =>
      obtain ⟨first, others⟩ := List.forall_mem_cons.mp inside
      have length : (v.set (c.markedAt s) true).length = v.length := List.length_set
      rw [← length] at others
      rw [List.foldlM_cons, markName_eq initialized, if_pos first]
      exact ih others

theorem markNames_outside {names : List Bytes} {v : List Bool}
    (outside : ∃ s ∈ names, ¬ c.markedAt s < v.length) :
    names.foldlM (markName c) v = .error .outOfBounds := by
  induction names generalizing v with
  | nil => obtain ⟨_, member, _⟩ := outside; cases member
  | cons s names ih =>
      rw [List.foldlM_cons, markName_eq initialized]
      by_cases first : c.markedAt s < v.length
      · rw [if_pos first]
        refine ih ?_
        rw [List.length_set]
        obtain ⟨t, member, beyond⟩ := outside
        rcases List.mem_cons.mp member with rfl | later
        · exact absurd first beyond
        · exact ⟨t, later, beyond⟩
      · rw [if_neg first]
        rfl

end Names

theorem lower_eq_zero_iff (c : UInt8) :
    (if byte 'A' ≤ c && c ≤ byte 'Z' then c + 32 else c) = 0 ↔ c = 0 := by
  have all : ∀ n < 256, (if byte 'A' ≤ UInt8.ofNat n && UInt8.ofNat n ≤ byte 'Z'
      then UInt8.ofNat n + 32 else UInt8.ofNat n) = 0 ↔ UInt8.ofNat n = 0 := by
    decide +kernel
  have this := all c.toNat c.toNat_lt
  rw [UInt8.ofNat_toNat] at this
  exact this

theorem zero_mem_strToLwr_iff (s : Bytes) : 0 ∈ strToLwr s ↔ 0 ∈ s := by
  rw [strToLwr, List.mem_map]
  constructor
  · intro found
    obtain ⟨c, member, lower⟩ := found
    rw [lower_eq_zero_iff] at lower
    exact lower ▸ member
  · intro member
    exact ⟨0, member, rfl⟩

/-- What names a field has no NUL in it. -/
theorem markedAt_of_isFirst {row : Row} (wellFormed : row.WellFormed) {s : Bytes} {k : Nat}
    (first : IsFirst row.fieldNames s k) : row.markedAt s = k % 2 ^ 32 := by
  obtain ⟨field, found, same⟩ := first.named
  have noNul : 0 ∉ s := by
    rw [← zero_mem_strToLwr_iff, ← same, zero_mem_strToLwr_iff]
    exact wellFormed.noNul field (List.mem_of_getElem? found)
  have whole : beforeNul s = s := Foundation.Terminated.upTo_of_not_mem noNul
  rw [Row.markedAt, whole, FieldNames.index, ((FieldNames.isFirst_iff _ _ _).mp first).2]

theorem NameArguments.exists_cons (args : NameArguments) : ∃ s rest, args.list = s :: rest := by
  have count := args.count
  cases list : args.list with
  | nil =>
      rw [list] at count
      cases count
  | cons s rest => exact ⟨s, rest, rfl⟩

/-- Without names there is an exception, if one may be thrown. -/
theorem namedMaskRight_iff_of_unset {row : Row} (wellFormed : row.WellFormed)
    (unset : row.initialized = false) (args : NameArguments) :
    NamedMaskRight row args ↔ row.throwExceptions = true := by
  obtain ⟨s, rest, list⟩ := args.exists_cons
  have noNames : row.fieldNames = [] := by
    rw [← List.length_eq_zero_iff, wellFormed.width, wellFormed.unset unset]
    rfl
  have noField : row.size = 0 := if_neg (by rw [unset]; decide)
  have made : createVectorNamed row args =
      if row.throwExceptions then .error (badFieldName (beforeNul s)) else .error .outOfBounds := by
    rw [createVectorNamed, list, markNames, markName, Row.fieldNum, unset, noField]
    cases row.throwExceptions <;> rfl
  rw [NamedMaskRight, made]
  cases row.throwExceptions with
  | true =>
      refine iff_of_true ⟨s, ?_, fun k first => ?_⟩ rfl
      · rw [list]
        exact List.mem_cons_self
      · rw [noNames] at first
        obtain ⟨field, found, _⟩ := first.named
        cases found
  | false => exact iff_of_false id Bool.false_ne_true

theorem createVectorNamed_eq_foldlM (row : Row) (args : NameArguments) :
    createVectorNamed row args =
      (givenNames args.list).foldlM (markName row) (List.replicate row.size false) := by
  obtain ⟨s, rest, list⟩ := args.exists_cons
  rw [createVectorNamed, list]
  exact markNames_eq_foldlM row s rest _

/-- A mask that starts clear is set where a name is marked, and there only. -/
theorem marked_replicate_iff {names : List Bytes} {row : Row} {k : Nat} (bound : k < row.size) :
    (marked (names.map row.markedAt) (List.replicate row.size false))[k]? = some true ↔
      ∃ t ∈ names, row.markedAt t = k := by
  have unset : (List.replicate row.size false)[k]? ≠ some true := by
    intro set_
    cases List.eq_of_mem_replicate (List.mem_of_getElem? set_)
  rw [marked_eq_true_iff, or_iff_right unset, List.length_replicate, and_iff_right bound,
    List.mem_map]

section Names

variable {row : Row} (wellFormed : row.WellFormed) (initialized : row.initialized = true)
  {args : NameArguments}

include wellFormed initialized

theorem Row.size_eq_length : row.size = row.fieldNames.length :=
  (if_pos initialized).trans wellFormed.width.symm

/-- With a mark inside for each name, the mask is right when each one names a field. -/
theorem namedMaskRight_iff_of_inside
    (inside : ∀ t ∈ givenNames args.list, row.markedAt t < row.size) :
    NamedMaskRight row args ↔
      ∀ s ∈ givenNames args.list, ∃ k < 2 ^ 32, IsFirst row.fieldNames s k := by
  have insideMask : ∀ t ∈ givenNames args.list,
      row.markedAt t < (List.replicate row.size false).length := by
    rwa [List.length_replicate]
  rw [NamedMaskRight, createVectorNamed_eq_foldlM, markNames_ok initialized insideMask]
  constructor
  · rintro ⟨known, right⟩ t given
    obtain ⟨k, first⟩ := known t given
    have bound : k < row.size := by
      rw [Row.size_eq_length wellFormed initialized]
      exact ((FieldNames.isFirst_iff _ _ _).mp first).1
    have set_ := (right.set k bound).mpr ⟨t, given, first⟩
    obtain ⟨u, _, rfl⟩ := (marked_replicate_iff bound).mp set_
    exact ⟨row.markedAt u, Nat.mod_lt _ (by decide), first⟩
  · intro known
    have markedFirst : ∀ t ∈ givenNames args.list, IsFirst row.fieldNames t (row.markedAt t) := by
      intro t given
      obtain ⟨k, small, first⟩ := known t given
      rw [markedAt_of_isFirst wellFormed first, Nat.mod_eq_of_lt small]
      exact first
    have positive : 0 < row.size := by
      obtain ⟨s, rest, list⟩ := args.exists_cons
      have first := inside s (by rw [list]; exact List.mem_cons_self)
      omega
    refine ⟨fun t given => ⟨_, markedFirst t given⟩, maskRight_of_set positive ?_ ?_⟩
    · rw [length_marked, List.length_replicate]
    · intro k bound
      rw [marked_replicate_iff bound]
      constructor
      · intro found
        obtain ⟨t, given, rfl⟩ := found
        exact ⟨t, given, markedFirst t given⟩
      · intro found
        obtain ⟨t, given, first⟩ := found
        have same := ((FieldNames.isFirst_iff _ _ _).mp (markedFirst t given)).2
        rw [((FieldNames.isFirst_iff _ _ _).mp first).2] at same
        exact ⟨t, given, same.symm⟩

/-- The mark of a name of a field is inside. -/
theorem markedAt_lt_size {s : Bytes} {k : Nat} (first : IsFirst row.fieldNames s k) :
    row.markedAt s < row.size := by
  have bound := ((FieldNames.isFirst_iff _ _ _).mp first).1
  rw [markedAt_of_isFirst wellFormed first, Row.size_eq_length wellFormed initialized]
  exact Nat.lt_of_le_of_lt (Nat.mod_le k _) bound

theorem namedMaskRight_iff_of_set (args : NameArguments) :
    NamedMaskRight row args ↔
      ∀ s ∈ givenNames args.list, ∃ k < 2 ^ 32, IsFirst row.fieldNames s k := by
  by_cases inside : ∀ t ∈ givenNames args.list, row.markedAt t < row.size
  · exact namedMaskRight_iff_of_inside wellFormed initialized inside
  · have outside : ∃ t ∈ givenNames args.list,
        ¬ row.markedAt t < (List.replicate row.size false).length := by
      rw [List.length_replicate]
      push Not at inside ⊢
      exact inside
    rw [NamedMaskRight, createVectorNamed_eq_foldlM, markNames_outside initialized outside]
    refine iff_of_false id ?_
    intro known
    apply inside
    intro t given
    obtain ⟨k, _, first⟩ := known t given
    exact markedAt_lt_size wellFormed initialized first

end Names

theorem namedMaskRight_iff (row : MadeRow) (args : NameArguments) :
    NamedMaskRight row.1 args ↔
      row.1.initialized = false ∧ row.1.throwExceptions = true ∨
        row.1.initialized = true ∧
          ∀ s ∈ givenNames args.list, ∃ k < 2 ^ 32, IsFirst row.1.fieldNames s k := by
  cases flag : row.1.initialized with
  | false =>
      rw [namedMaskRight_iff_of_unset row.2 flag args]
      simp
  | true =>
      rw [namedMaskRight_iff_of_set row.2 flag args]
      simp

/-- Both forms, for every row. -/
theorem createVector_right_iff (row : MadeRow) (flags : BoolArguments) (names : NameArguments) :
    (BoolMaskRight row.1 flags ↔ 1 ≤ row.1.size ∧ row.1.size ≤ 13) ∧
      (NamedMaskRight row.1 names ↔
        row.1.initialized = false ∧ row.1.throwExceptions = true ∨
          row.1.initialized = true ∧
            ∀ s ∈ givenNames names.list, ∃ k < 2 ^ 32, IsFirst row.1.fieldNames s k) :=
  ⟨boolMaskRight_iff row.1 flags, namedMaskRight_iff row names⟩

/-- Fourteen fields get a mask with thirteen flags, and an unknown name is written. -/
theorem masks_break :
    let value : SQLBuffer :=
      { data := [], type := { base := .text, flags := tfDefault }, isNull := false }
    let fourteen := Row.new (List.replicate 14 value) (List.replicate 14 (ascii "id")) true
    let one := Row.new [value] [ascii "id"] true
    let flags : BoolArguments := ⟨List.replicate 13 true, rfl⟩
    let names : NameArguments := ⟨ascii "price" :: List.replicate 12 [], rfl⟩
    (createVector fourteen.size flags).length = 13 ∧ ¬ BoolMaskRight fourteen flags ∧
      createVectorNamed one names = .error .outOfBounds ∧ ¬ NamedMaskRight one names := by
  intro value fourteen one flags names
  have written : createVectorNamed one names = .error .outOfBounds := by decide +kernel
  refine ⟨by decide, ?_, written, ?_⟩
  · intro right
    have length := right.length
    revert length
    decide
  · rw [NamedMaskRight, written]
    exact id

end LibTabula
