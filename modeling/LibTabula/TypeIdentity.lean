/-
What field types are compared by.

Two field types are compared by their `id()`, a word of 16 bits: the flags, moved up by
eight, over the basic type. Of the 32 bits of the flags the lower eight are left. The flags
for keys and those of MySQL are above them.
-/

import LibTabula.FieldType
import LibTabula.Foundation.Keyed
import Mathlib.Data.Set.Defs

set_option autoImplicit false

namespace LibTabula

open Foundation

/-! ### The flags -/

def tfPrimaryKey : UInt32 := (1 : UInt32) <<< 10
def tfUniqueKey : UInt32 := (1 : UInt32) <<< 11
def tfMultipleKey : UInt32 := (1 : UInt32) <<< 12
def tfAutoIncrement : UInt32 := (1 : UInt32) <<< 20
def tfBinary : UInt32 := (1 : UInt32) <<< 21
def tfZerofill : UInt32 := (1 : UInt32) <<< 22

/-- `enum Flag`. -/
def declaredFlags : List UInt32 :=
  [tfDefault, tfUnsigned, tfNull, tfPrimaryKey, tfUniqueKey, tfMultipleKey,
    tfAutoIncrement, tfBinary, tfZerofill]

theorem Base.toNat_lt (base : Base) : base.toNat < 2 ^ 8 := by
  cases base <;> decide

theorem Base.toNat_inj {base base' : Base} : base.toNat = base'.toNat ↔ base = base' := by
  constructor
  · intro same
    cases base <;> cases base' <;> first | rfl | cases same
  · intro same
    rw [same]

namespace FieldType

/-- The flags are a combination of declared ones. -/
def Declared (self : FieldType) : Prop :=
  ∃ chosen : List UInt32, chosen.Sublist declaredFlags ∧
    self.flags = chosen.foldr (fun flag flags => flag ||| flags) 0

/-! ### The operators -/

def id (self : FieldType) : UInt16 :=
  ((self.flags <<< 8) ||| UInt32.ofNat self.base.toNat).toUInt16

/-- `operator ==`. -/
def eq (lhs rhs : FieldType) : Bool := lhs.id == rhs.id

def ne (lhs rhs : FieldType) : Bool := lhs.id != rhs.id

def lt (lhs rhs : FieldType) : Bool := lhs.id < rhs.id

/-- Among these types the operators are those of the pairs of basic type and flags. -/
structure Identified (types : Set FieldType) : Prop where
  equal : ∀ a ∈ types, ∀ b ∈ types, a.eq b ↔ a.base = b.base ∧ a.flags = b.flags
  notEqual : ∀ a ∈ types, ∀ b ∈ types, a.ne b = !a.eq b
  less : IsStrictTotalOrder types fun a b => a.1.lt b.1

/-! ### What the word keeps -/

theorem toNat_id (self : FieldType) :
    self.id.toNat = (self.flags.toNat <<< 8 ||| self.base.toNat) % 2 ^ (8 + 8) := by
  have small : self.base.toNat < 2 ^ 32 := Nat.lt_of_lt_of_le self.base.toNat_lt (by decide)
  rw [id, UInt32.toNat_toUInt16, UInt32.toNat_or, UInt32.toNat_shiftLeft, UInt32.toNat_ofNat',
    Nat.mod_eq_of_lt small, Nat.or_mod_two_pow, Nat.or_mod_two_pow,
    Nat.mod_mod_of_dvd _ (by decide)]
  rfl

/-- Flags from bit 8 on are not compared. -/
theorem id_eq_iff (a b : FieldType) :
    a.id = b.id ↔ a.base = b.base ∧ a.flags.toUInt8 = b.flags.toUInt8 := by
  rw [← UInt16.toNat_inj, toNat_id, toNat_id,
    Keyed.packed_eq_iff a.base.toNat_lt b.base.toNat_lt, Base.toNat_inj, ← UInt8.toNat_inj,
    UInt32.toNat_toUInt8, UInt32.toNat_toUInt8]

/-- Of the declared flags those stand in the lower eight bits that every database has. -/
theorem Declared.flags_and {self : FieldType} (declared : self.Declared) :
    self.flags &&& 255 = self.flags &&& (tfDefault ||| tfUnsigned ||| tfNull) := by
  obtain ⟨chosen, sublist, same⟩ := declared
  have each : declaredFlags.all
      (fun flag => flag &&& 255 == flag &&& (tfDefault ||| tfUnsigned ||| tfNull)) := by decide
  have all : ∀ flag ∈ chosen,
      flag &&& 255 = flag &&& (tfDefault ||| tfUnsigned ||| tfNull) := by
    intro flag member
    exact eq_of_beq (List.all_eq_true.mp each flag (sublist.subset member))
  rw [same]
  clear same sublist
  induction chosen with
  | nil => rfl
  | cons flag chosen ih =>
      obtain ⟨first, others⟩ := List.forall_mem_cons.mp all
      have distrib : ∀ word mask : UInt32,
          (flag ||| word) &&& mask = flag &&& mask ||| word &&& mask := by
        intro word mask
        apply UInt32.toNat_inj.mp
        rw [UInt32.toNat_and, UInt32.toNat_or, UInt32.toNat_or, UInt32.toNat_and,
          UInt32.toNat_and, Nat.and_or_distrib_right]
      rw [List.foldr_cons, distrib, distrib, first, ih others]

theorem toUInt8_eq_iff (flags flags' : UInt32) :
    flags.toUInt8 = flags'.toUInt8 ↔ flags &&& 255 = flags' &&& 255 := by
  have low : ∀ word : UInt32, (word &&& 255).toNat = word.toNat % 2 ^ 8 := by
    intro word
    rw [UInt32.toNat_and]
    exact Nat.and_two_pow_sub_one_eq_mod word.toNat 8
  rw [← UInt8.toNat_inj, ← UInt32.toNat_inj, UInt32.toNat_toUInt8, UInt32.toNat_toUInt8, low, low]

/-- What two columns with declared flags are compared by. -/
theorem Declared.id_eq_iff {a b : FieldType} (left : a.Declared) (right : b.Declared) :
    a.id = b.id ↔ a.base = b.base ∧
      a.flags &&& (tfDefault ||| tfUnsigned ||| tfNull) =
        b.flags &&& (tfDefault ||| tfUnsigned ||| tfNull) := by
  rw [FieldType.id_eq_iff, toUInt8_eq_iff, left.flags_and, right.flags_and]

theorem eq_iff (a b : FieldType) : a.eq b ↔ a.id = b.id := beq_iff_eq

theorem lt_eq_invImage (types : Set FieldType) :
    (fun a b : types => (a.1.lt b.1 : Prop)) = InvImage (· < ·) fun a : types => a.1.id.toNat := by
  funext a b
  apply propext
  exact decide_eq_true_iff

/-! ### Which types are told apart -/

/-- No two of the types have the same basic type and differ only in flags from bit 8 on. -/
def Apart (types : Set FieldType) : Prop :=
  ∀ a ∈ types, ∀ b ∈ types, a.base = b.base → a.flags.toUInt8 = b.flags.toUInt8 →
    a.flags = b.flags

theorem Apart.id_eq_iff {types : Set FieldType} (apart : Apart types) {a b : FieldType}
    (left : a ∈ types) (right : b ∈ types) : a.id = b.id ↔ a = b := by
  constructor
  · intro same
    obtain ⟨sameBase, sameLow⟩ := (FieldType.id_eq_iff a b).mp same
    have sameFlags := apart a left b right sameBase sameLow
    cases a
    cases b
    rw [FieldType.mk.injEq]
    exact ⟨sameBase, sameFlags⟩
  · intro same
    rw [same]

theorem Apart.identified {types : Set FieldType} (apart : Apart types) : Identified types where
  equal a left b right := by
    rw [eq_iff, apart.id_eq_iff left right]
    cases a
    cases b
    rw [FieldType.mk.injEq]
  notEqual _ _ _ _ := rfl
  less := by
    rw [lt_eq_invImage, Keyed.isStrictTotalOrder_iff]
    intro a b same
    apply Subtype.ext
    exact (apart.id_eq_iff a.2 b.2).mp (UInt16.toNat_inj.mp same)

/-- The operators identify the types if and only if no two of them differ in flags from bit 8
on alone. -/
theorem identified_iff (types : Set FieldType) :
    Identified types ↔
      ∀ a ∈ types, ∀ b ∈ types, a.base = b.base → a.flags.toUInt8 = b.flags.toUInt8 →
        a.flags = b.flags := by
  constructor
  · intro identified a left b right sameBase sameLow
    have same : a.eq b = true := (eq_iff a b).mpr ((id_eq_iff a b).mpr ⟨sameBase, sameLow⟩)
    exact ((identified.equal a left b right).mp same).2
  · intro apart
    exact Apart.identified apart

/-- A primary key of integers counts as any integer column. -/
theorem declared_not_identified :
    (⟨.integer, tfDefault⟩ : FieldType).Declared ∧
      (⟨.integer, tfDefault ||| tfPrimaryKey⟩ : FieldType).Declared ∧
      (⟨.integer, tfDefault⟩ : FieldType).eq ⟨.integer, tfDefault ||| tfPrimaryKey⟩ ∧
      ¬ Identified {type | type.Declared} := by
  have plain : (⟨.integer, tfDefault⟩ : FieldType).Declared :=
    ⟨[tfDefault], by decide, by decide⟩
  have key : (⟨.integer, tfDefault ||| tfPrimaryKey⟩ : FieldType).Declared :=
    ⟨[tfDefault, tfPrimaryKey], by decide, by decide⟩
  have same : (⟨.integer, tfDefault⟩ : FieldType).eq ⟨.integer, tfDefault ||| tfPrimaryKey⟩ := by
    decide
  refine ⟨plain, key, same, ?_⟩
  intro identified
  have sameFlags := ((identified.equal _ plain _ key).mp same).2
  exact absurd sameFlags (by decide)

/-- The types that C++ types are mapped to have no such flags. -/
theorem ofCType_identified : Identified {type | ∃ cType, ofCType cType = some type} := by
  have low : ∀ type, (∃ cType, ofCType cType = some type) → type.flags < 256 := by
    intro type mapped
    obtain ⟨cType, found⟩ := mapped
    obtain ⟨entry, first, same⟩ := Option.map_eq_some_iff.mp found
    have inTypes := List.mem_reverse.mp (List.mem_of_find?_eq_some first)
    have entries : types.all (fun entry => entry.flags < 256) := by decide
    rw [← same]
    exact of_decide_eq_true (List.all_eq_true.mp entries entry inTypes)
  apply Apart.identified
  intro a left b right _ sameLow
  have whole : ∀ flags : UInt32, flags < 256 → flags.toUInt8.toNat = flags.toNat := by
    intro flags bound
    rw [UInt32.toNat_toUInt8]
    exact Nat.mod_eq_of_lt (UInt32.lt_iff_toNat_lt.mp bound)
  apply UInt32.toNat_inj.mp
  rw [← whole a.flags (low a left), ← whole b.flags (low b right), sameLow]

end FieldType

end LibTabula
