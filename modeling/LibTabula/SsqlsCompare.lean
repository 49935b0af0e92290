/-
Comparing SSQLS structures.

A structure has a list of fields, and COMPCOUNT says how many of them, from the
first one on, its comparison operators look at. What `sql_cmp()` does with a field
depends on its type. Widths are those of a 64-bit Unix, where `long` has 64 bits,
and an `int` is made of a wider number by keeping its low 32 bits, as the compilers
do it. The floating point arithmetic of the platform is a parameter.
-/

import LibTabula.DateTime
import LibTabula.Foundation.ThreeWay
import Mathlib.Data.List.Lex
import Mathlib.Order.WithBot

set_option autoImplicit false

namespace LibTabula

open Foundation
open ThreeWay (Lawful ByKey)

/-! ### Fields -/

inductive IntType
  | signedChar | unsignedChar
  | tinyint | tinyintUnsigned
  | signedInt | unsignedInt
  | signedShort | unsignedShort
  | signedLong | unsignedLong
  | longlong | ulonglong
deriving DecidableEq, Repr

namespace IntType

def bits : IntType → Nat
  | .signedChar | .unsignedChar | .tinyint | .tinyintUnsigned => 8
  | .signedShort | .unsignedShort => 16
  | .signedInt | .unsignedInt => 32
  | .signedLong | .unsignedLong | .longlong | .ulonglong => 64

def signed : IntType → Bool
  | .signedChar | .tinyint | .signedInt | .signedShort | .signedLong | .longlong => true
  | .unsignedChar | .tinyintUnsigned | .unsignedInt | .unsignedShort | .unsignedLong
  | .ulonglong => false

def InRange (self : IntType) (x : Int) : Prop :=
  if self.signed then -2 ^ (self.bits - 1) ≤ x ∧ x < 2 ^ (self.bits - 1)
  else 0 ≤ x ∧ x < 2 ^ self.bits

instance (self : IntType) (x : Int) : Decidable (self.InRange x) :=
  inferInstanceAs (Decidable (if self.signed then _ else _))

def Value (self : IntType) : Type := { x : Int // self.InRange x }

end IntType

/-- A floating point type: `fabs(x) < LIBTABULA_FP_MIN_DELTA` is `small x`. It has a
value that is no number, and comparisons with that are false. -/
structure FloatingType where
  Value : Type
  sub : Value → Value → Value
  small : Value → Bool
  eq : Value → Value → Bool
  lt : Value → Value → Bool
  nan : Value
  small_sub_nan : ∀ x, small (sub nan x) = false
  eq_nan : ∀ x, eq nan x = false
  lt_nan : ∀ x, lt nan x = false

/-- Whole numbers of millionths, and one value that is no number. Ten of them are the delta
that the generated header has by default. -/
instance : Inhabited FloatingType where
  default :=
    { Value := Option Int
      sub := fun a b => a.bind fun a => b.map fun b => a - b
      small := fun x => x.any fun x => x.natAbs < 10
      eq := fun a b => a.any fun a => b.any fun b => a = b
      lt := fun a b => a.any fun a => b.any fun b => a < b
      nan := none
      small_sub_nan := fun _ => rfl
      eq_nan := fun _ => rfl
      lt_nan := fun _ => rfl }

/-- The library's `String`: its buffer, once it has one. -/
structure MyString where
  buffer : Option Bytes
deriving DecidableEq, Repr

/-- A type that can be compared natively, and so be made nullable. -/
inductive PlainType
  | date | time | dateTime
  | stdString
  | int (type : IntType)
  | floating (type : FloatingType)

inductive FieldKind
  | plain (type : PlainType)
  | string
  | null (type : PlainType)

structure Null (α : Type) where
  data : α
  isNull : Bool

def PlainType.Value : PlainType → Type
  | .date => Date
  | .time => Time
  | .dateTime => DateTime
  | .stdString => Bytes
  | .int type => type.Value
  | .floating type => type.Value

def FieldKind.Value : FieldKind → Type
  | .plain type => type.Value
  | .string => MyString
  | .null type => Null type.Value

/-! ### Comparing fields -/

/-- The conversion of a result to the return type `int`. -/
def toInt32 (x : Int) : Int := (x + 2 ^ 31) % 2 ^ 32 - 2 ^ 31

def toInt8 (x : Int) : Int := (x + 2 ^ 7) % 2 ^ 8 - 2 ^ 7

def toUInt8 (x : Int) : Int := x % 2 ^ 8

/-- `sql_cmp()` of two integers. The difference of two `tiny_int` objects is one again. -/
def IntType.sqlCmp (self : IntType) (a b : Int) : Int :=
  match self with
  | .signedChar | .unsignedChar | .signedShort | .unsignedShort => a - b
  | .tinyint => toInt8 (a - b)
  | .tinyintUnsigned => toUInt8 (a - b)
  | .signedInt | .unsignedInt | .signedLong | .unsignedLong => toInt32 (a - b)
  | .longlong | .ulonglong => if a = b then 0 else if a < b then -1 else 1

/-- `std::string::compare()`. -/
def stdCompare : Bytes → Bytes → Int
  | [], [] => 0
  | [], _ :: _ => -1
  | _ :: _, [] => 1
  | x :: xs, y :: ys => if x = y then stdCompare xs ys else if x < y then -1 else 1

/-- `strncmp()`; each text has a NUL behind its end. -/
def strncmp (a b : Bytes) : Nat → Int
  | 0 => 0
  | num + 1 =>
      if a.headD 0 ≠ b.headD 0 then (a.headD 0).toNat - (b.headD 0).toNat
      else if a.headD 0 = 0 then 0
      else strncmp a.tail b.tail num

namespace MyString

def length (self : MyString) : Nat := (self.buffer.getD []).length

/-- `compare(0, num, other)`. -/
def compareData (self : MyString) (num : Nat) (other : Option Bytes) : Int :=
  match self.buffer, other with
  | some text, some other => strncmp text other num
  | _, none => if 0 < self.length then 1 else 0
  | none, some other => if other.headD 0 = 0 then 0 else -1

def compare (self other : MyString) : Int :=
  match other.buffer with
  | some text => self.compareData (max self.length other.length) (some text)
  | none => if 0 < self.length then 1 else 0

end MyString

def FloatingType.sqlCmp (self : FloatingType) (a b : self.Value) : Int :=
  if self.small (self.sub a b) then 0 else if self.lt a b then -1 else 1

def PlainType.sqlCmp : (type : PlainType) → type.Value → type.Value → Int
  | .date => Date.compare
  | .time => Time.compare
  | .dateTime => DateTime.compare
  | .stdString => stdCompare
  | .int type => fun a b => type.sqlCmp a.1 b.1
  | .floating type => type.sqlCmp

/-- The operators `==` and `<` of the type itself. -/
def PlainType.nativeEq : (type : PlainType) → type.Value → type.Value → Bool
  | .date => fun a b => a.compare b = 0
  | .time => fun a b => a.compare b = 0
  | .dateTime => fun a b => a.compare b = 0
  | .stdString => fun a b => stdCompare a b = 0
  | .int _ => fun a b => a.1 = b.1
  | .floating type => type.eq

def PlainType.nativeLt : (type : PlainType) → type.Value → type.Value → Bool
  | .date => fun a b => a.compare b < 0
  | .time => fun a b => a.compare b < 0
  | .dateTime => fun a b => a.compare b < 0
  | .stdString => fun a b => stdCompare a b < 0
  | .int _ => fun a b => a.1 < b.1
  | .floating type => type.lt

namespace Null

variable {α : Type}

/-- `operator ==`, by that of the data. -/
def eq (dataEq : α → α → Bool) (self rhs : Null α) : Bool :=
  if self.isNull && rhs.isNull then true
  else if self.isNull ≠ rhs.isNull then false
  else dataEq self.data rhs.data

def lt (dataLt : α → α → Bool) (self rhs : Null α) : Bool :=
  if self.isNull then !rhs.isNull
  else if rhs.isNull then false
  else dataLt self.data rhs.data

/-- `sql_cmp()` of two nullable values. -/
def sqlCmp (dataEq dataLt : α → α → Bool) (a b : Null α) : Int :=
  if eq dataEq a b then 0 else if lt dataLt a b then -1 else 1

end Null

def FieldKind.sqlCmp : (kind : FieldKind) → kind.Value → kind.Value → Int
  | .plain type => type.sqlCmp
  | .string => MyString.compare
  | .null type => Null.sqlCmp type.nativeEq type.nativeLt

/-! ### Comparing structures -/

/-- A structure with fields of these types. -/
@[reducible] def Record : List FieldKind → Type
  | [] => Unit
  | kind :: kinds => kind.Value × Record kinds

/-- `sql_compare_NAME()` with COMPCOUNT fields. The last of them needs no test. -/
def sqlCompare : (kinds : List FieldKind) → (compcount : Nat) → Record kinds → Record kinds → Int
  | [], _, _, _ => 0
  | _ :: _, 0, _, _ => 0
  | kind :: _, 1, x, y => kind.sqlCmp x.1 y.1
  | kind :: kinds, compcount + 2, x, y =>
      if kind.sqlCmp x.1 y.1 ≠ 0 then kind.sqlCmp x.1 y.1
      else sqlCompare kinds (compcount + 1) x.2 y.2

/-- `operator <` and `operator ==` of a structure. -/
def ssqlsLess (kinds : List FieldKind) (compcount : Nat) (x y : Record kinds) : Prop :=
  sqlCompare kinds compcount x y < 0

def ssqlsEqual (kinds : List FieldKind) (compcount : Nat) (x y : Record kinds) : Prop :=
  sqlCompare kinds compcount x y = 0

/-! ### Integers -/

theorem sign_eq_sign_iff (x y : Int) :
    x.sign = y.sign ↔ x < 0 ∧ y < 0 ∨ x = 0 ∧ y = 0 ∨ 0 < x ∧ 0 < y := by
  have cases_ : ∀ z : Int, z.sign = if z < 0 then -1 else if z = 0 then 0 else 1 := by
    intro z
    rcases Int.lt_trichotomy z 0 with below | rfl | above
    · rw [if_pos below, Int.sign_eq_neg_one_of_neg below]
    · rfl
    · rw [if_neg (by omega), if_neg (by omega), Int.sign_eq_one_of_pos above]
  rw [cases_ x, cases_ y]
  constructor
  · intro same
    split_ifs at same <;> omega
  · intro same
    split_ifs <;> omega

namespace IntType

/-- Where the conversions of `sql_cmp()` keep the sign of the difference. -/
def SignKept (self : IntType) (a b : Int) : Prop :=
  match self with
  | .signedChar | .unsignedChar | .signedShort | .unsignedShort | .longlong | .ulonglong => True
  | .tinyint => -2 ^ 7 ≤ a - b ∧ a - b < 2 ^ 7
  | .tinyintUnsigned => b ≤ a
  | .signedInt | .unsignedInt => -2 ^ 31 ≤ a - b ∧ a - b < 2 ^ 31
  | .signedLong | .unsignedLong =>
      a = b ∨ b < a ∧ 0 < (a - b) % 2 ^ 32 ∧ (a - b) % 2 ^ 32 < 2 ^ 31 ∨
        a < b ∧ 2 ^ 31 ≤ (a - b) % 2 ^ 32

theorem sqlCmp_sign_iff (self : IntType) (a b : self.Value) :
    (self.sqlCmp a.1 b.1).sign = (a.1 - b.1).sign ↔ self.SignKept a.1 b.1 := by
  obtain ⟨x, xRange⟩ := a
  obtain ⟨y, yRange⟩ := b
  rw [sign_eq_sign_iff]
  cases self <;>
    simp only [InRange, signed, bits, Bool.false_eq_true, if_true, if_false] at xRange yRange <;>
    simp only [sqlCmp, SignKept, toInt8, toUInt8, toInt32, iff_true]
  case longlong | ulonglong => split_ifs <;> omega
  case signedChar | unsignedChar | signedShort | unsignedShort => omega
  all_goals
    constructor
    · intro same
      omega
    · intro kept
      omega

/-- The types whose comparison has the right sign always. -/
def keepsSign : IntType → Bool
  | .signedChar | .unsignedChar | .signedShort | .unsignedShort | .longlong | .ulonglong => true
  | .tinyint | .tinyintUnsigned | .signedInt | .unsignedInt | .signedLong | .unsignedLong => false

end IntType

/-! ### Keys -/

def Date.key (self : Date) : Nat :=
  (self.year.toNat * 256 + self.month.toNat) * 256 + self.day.toNat

def Time.key (self : Time) : Nat :=
  (self.hour.toNat * 256 + self.minute.toNat) * 256 + self.second.toNat

def DateTime.key (self : DateTime) : Nat :=
  self.toDate.key * 2 ^ 24 + self.toTime.key

theorem Date.compare_byKey : ByKey Date.compare Date.key := by
  intro a b
  have monthBounds := And.intro a.month.toNat_lt b.month.toNat_lt
  have dayBounds := And.intro a.day.toNat_lt b.day.toNat_lt
  unfold Date.compare Date.key
  simp only [ne_eq, ← UInt16.toNat_inj, ← UInt8.toNat_inj]
  split_ifs <;> omega

theorem Time.compare_byKey : ByKey Time.compare Time.key := by
  intro a b
  have minuteBounds := And.intro a.minute.toNat_lt b.minute.toNat_lt
  have secondBounds := And.intro a.second.toNat_lt b.second.toNat_lt
  unfold Time.compare Time.key
  simp only [ne_eq, ← UInt8.toNat_inj]
  split_ifs <;> omega

theorem DateTime.key_of_now {self : DateTime} (now : self.now = true) : self.key = 0 := by
  obtain ⟨year, month, day, hour, minute, second⟩ := self.unset now
  simp only [key, toDate, toTime, Date.key, Time.key, year, month, day, hour, minute, second]
  rfl

theorem DateTime.compare_byKey : ByKey DateTime.compare DateTime.key := by
  intro a b
  have timeBounds : ∀ t : Time, t.key < 2 ^ 24 := by
    intro t
    have hour := t.hour.toNat_lt
    have minute := t.minute.toNat_lt
    have second := t.second.toNat_lt
    unfold Time.key
    omega
  have left := timeBounds a.toTime
  have right := timeBounds b.toTime
  have dates := Date.compare_byKey a.toDate b.toDate
  have times := Time.compare_byKey a.toTime b.toTime
  unfold DateTime.compare
  by_cases both : (a.now && b.now) = true
  · obtain ⟨leftNow, rightNow⟩ := Bool.and_eq_true_iff.mp both
    rw [if_pos both, key_of_now leftNow, key_of_now rightNow]
    omega
  · rw [if_neg both]
    unfold DateTime.key
    split_ifs <;> omega

theorem stdCompare_byKey : ByKey stdCompare (List.map UInt8.toNat) := by
  intro a b
  induction a generalizing b with
  | nil =>
      cases b with
      | nil => exact .inr (.inl ⟨rfl, rfl⟩)
      | cons y ys => exact .inl ⟨Int.negSucc_lt_zero 0, List.nil_lt_cons _ _⟩
  | cons x xs ih =>
      cases b with
      | nil => exact .inr (.inr ⟨Int.zero_lt_one, List.nil_lt_cons _ _⟩)
      | cons y ys =>
          simp only [List.map_cons, List.cons_lt_cons_iff, stdCompare, List.cons.injEq]
          by_cases same : x = y
          · subst same
            simp only [if_true, lt_irrefl, false_or, true_and]
            exact ih ys
          · rw [if_neg same]
            rw [← UInt8.toNat_inj] at same
            by_cases less : x < y
            · rw [if_pos less]
              exact .inl ⟨by decide, .inl (UInt8.lt_iff_toNat_lt.mp less)⟩
            · rw [if_neg less]
              rw [UInt8.lt_iff_toNat_lt] at less
              exact .inr (.inr ⟨by decide, .inl (by omega)⟩)

/-- What `==` and `<` of the data make of nullable values: null comes first. -/
theorem Null.sqlCmp_byKey {α γ : Type} [LinearOrder γ] {dataEq dataLt : α → α → Bool}
    (key : α → γ) (eq_iff : ∀ a b, dataEq a b = true ↔ key a = key b)
    (lt_iff : ∀ a b, dataLt a b = true ↔ key a < key b) :
    ByKey (Null.sqlCmp dataEq dataLt) fun self : Null α =>
      if self.isNull then (⊥ : WithBot γ) else (key self.data : WithBot γ) := by
  rintro ⟨left, leftNull⟩ ⟨right, rightNull⟩
  cases leftNull with
  | true =>
      cases rightNull with
      | true => exact .inr (.inl ⟨rfl, rfl⟩)
      | false => exact .inl ⟨Int.negSucc_lt_zero 0, WithBot.bot_lt_coe _⟩
  | false =>
      cases rightNull with
      | true => exact .inr (.inr ⟨Int.zero_lt_one, WithBot.bot_lt_coe _⟩)
      | false =>
          simp only [sqlCmp, eq, lt, Bool.false_eq_true, if_false, Bool.and_self, ne_eq,
            not_true_eq_false, WithBot.coe_lt_coe, WithBot.coe_inj, eq_iff, lt_iff]
          rcases lt_trichotomy (key left) (key right) with below | same | above
          · rw [if_neg below.ne, if_pos below]
            exact .inl ⟨Int.negSucc_lt_zero 0, below⟩
          · rw [if_pos same]
            exact .inr (.inl ⟨rfl, same⟩)
          · rw [if_neg above.ne', if_neg above.not_gt]
            exact .inr (.inr ⟨Int.zero_lt_one, above⟩)

/-! ### Which fields compare lawfully -/

def PlainType.Sound : PlainType → Prop
  | .date | .time | .dateTime | .stdString => True
  | .int type => type.keepsSign = true
  | .floating _ => False

/-- A nullable field compares by the operators of its type, not by `sql_cmp()` of it. -/
def FieldKind.Sound : FieldKind → Prop
  | .plain type => type.Sound
  | .string => False
  | .null (.floating _) => False
  | .null _ => True

theorem IntType.inRange_zero (type : IntType) : type.InRange 0 := by
  cases type <;> simp [InRange, signed, bits]

theorem IntType.sqlCmp_byKey {type : IntType} (keeps : type.keepsSign = true) :
    ByKey (fun a b : type.Value => type.sqlCmp a.1 b.1) Subtype.val := by
  intro a b
  cases type <;>
    first
      | exact absurd keeps (by decide)
      | simp only [sqlCmp]
  case longlong | ulonglong => split_ifs <;> omega
  all_goals omega

/-- Where the difference is narrowed, some two values are each less than the other, or
neither is and they are not equal. -/
theorem IntType.not_lawful {type : IntType} (narrowed : type.keepsSign = false) :
    ¬ Lawful fun a b : type.Value => type.sqlCmp a.1 b.1 := by
  cases type with
  | signedChar | unsignedChar | signedShort | unsignedShort | longlong | ulonglong =>
      exact absurd narrowed (by decide)
  | tinyint =>
      exact ThreeWay.not_lawful_of_both_less (a := ⟨0, by decide⟩) (b := ⟨-128, by decide⟩)
        (by decide) (by decide)
  | tinyintUnsigned =>
      exact ThreeWay.not_lawful_of_unmatched (a := ⟨1, by decide⟩) (b := ⟨0, by decide⟩)
        (by decide) (by decide) (by decide)
  | signedInt =>
      exact ThreeWay.not_lawful_of_both_less (a := ⟨0, by decide⟩) (b := ⟨-2 ^ 31, by decide⟩)
        (by decide) (by decide)
  | unsignedInt | signedLong | unsignedLong =>
      exact ThreeWay.not_lawful_of_both_less (a := ⟨0, by decide⟩) (b := ⟨2 ^ 31, by decide⟩)
        (by decide) (by decide)

theorem FloatingType.not_lawful (type : FloatingType) : ¬ Lawful type.sqlCmp := by
  have nan : type.sqlCmp type.nan type.nan = 1 := by
    rw [sqlCmp, type.small_sub_nan, type.lt_nan]
    rfl
  refine ThreeWay.not_lawful_of_unmatched (a := type.nan) (b := type.nan) ?_ ?_ ?_ <;>
    rw [nan] <;> decide

/-- Numbers as well, where each is within the delta of the next. -/
example :
    let cmp := (default : FloatingType).sqlCmp
    cmp (some 0) (some 9) = 0 ∧ cmp (some 9) (some 18) = 0 ∧ cmp (some 0) (some 18) = -1 := by
  decide

theorem FloatingType.null_not_lawful (type : FloatingType) :
    ¬ Lawful (Null.sqlCmp type.eq type.lt) := by
  have nan : Null.sqlCmp type.eq type.lt ⟨type.nan, false⟩ ⟨type.nan, false⟩ = 1 := by
    simp only [Null.sqlCmp, Null.eq, Null.lt, type.eq_nan, type.lt_nan]
    rfl
  refine ThreeWay.not_lawful_of_unmatched (a := ⟨type.nan, false⟩) (b := ⟨type.nan, false⟩)
    ?_ ?_ ?_ <;> rw [nan] <;> decide

/-- A string without a buffer equals one that begins with a NUL, but not the other way
around. -/
theorem MyString.not_lawful : ¬ Lawful MyString.compare :=
  ThreeWay.not_lawful_of_unmatched (a := ⟨some [0]⟩) (b := ⟨none⟩) (by decide) (by decide)
    (by decide)

theorem PlainType.lawful_iff (type : PlainType) : Lawful type.sqlCmp ↔ type.Sound := by
  cases type with
  | date => exact iff_of_true Date.compare_byKey.lawful trivial
  | time => exact iff_of_true Time.compare_byKey.lawful trivial
  | dateTime => exact iff_of_true DateTime.compare_byKey.lawful trivial
  | stdString => exact iff_of_true stdCompare_byKey.lawful trivial
  | floating type => exact iff_of_false type.not_lawful id
  | int type =>
      cases keeps : type.keepsSign with
      | true => exact iff_of_true (IntType.sqlCmp_byKey keeps).lawful keeps
      | false =>
          refine iff_of_false (IntType.not_lawful keeps) fun sound => ?_
          rw [Sound, keeps] at sound
          cases sound

/-- A comparison that goes by a key gives a native `==` and `<` that do. -/
theorem null_lawful_of_byKey {α γ : Type} [LinearOrder γ] {cmp : α → α → Int} {key : α → γ}
    (byKey : ByKey cmp key) :
    Lawful (Null.sqlCmp (fun a b => decide (cmp a b = 0)) fun a b => decide (cmp a b < 0)) := by
  refine (Null.sqlCmp_byKey key (fun a b => ?_) fun a b => ?_).lawful
  · rw [decide_eq_true_eq, byKey.equal_iff]
  · rw [decide_eq_true_eq, byKey.less_iff]

theorem FieldKind.lawful_iff (kind : FieldKind) : Lawful kind.sqlCmp ↔ kind.Sound := by
  cases kind with
  | plain type => exact type.lawful_iff
  | string => exact iff_of_false MyString.not_lawful id
  | null type =>
      cases type with
      | date => exact iff_of_true (null_lawful_of_byKey Date.compare_byKey) trivial
      | time => exact iff_of_true (null_lawful_of_byKey Time.compare_byKey) trivial
      | dateTime => exact iff_of_true (null_lawful_of_byKey DateTime.compare_byKey) trivial
      | stdString => exact iff_of_true (null_lawful_of_byKey stdCompare_byKey) trivial
      | floating type => exact iff_of_false type.null_not_lawful id
      | int type =>
          refine iff_of_true ?_ trivial
          refine (Null.sqlCmp_byKey Subtype.val (fun a b => ?_) fun a b => ?_).lawful
          · exact decide_eq_true_iff
          · exact decide_eq_true_iff

/-! ### The chain -/

theorem PlainType.nonempty (type : PlainType) : Nonempty type.Value := by
  cases type with
  | date => exact ⟨(⟨0, 0, 0⟩ : Date)⟩
  | time => exact ⟨(⟨0, 0, 0⟩ : Time)⟩
  | dateTime => exact ⟨DateTime.default⟩
  | stdString => exact ⟨([] : Bytes)⟩
  | int type => exact ⟨⟨0, type.inRange_zero⟩⟩
  | floating type => exact ⟨type.nan⟩

theorem FieldKind.nonempty (kind : FieldKind) : Nonempty kind.Value := by
  cases kind with
  | plain type => exact type.nonempty
  | string => exact ⟨(⟨none⟩ : MyString)⟩
  | null type =>
      obtain ⟨data⟩ := type.nonempty
      exact ⟨(⟨data, false⟩ : Null type.Value)⟩

theorem Record.nonempty (kinds : List FieldKind) : Nonempty (Record kinds) := by
  induction kinds with
  | nil => exact ⟨()⟩
  | cons kind kinds ih =>
      obtain ⟨value⟩ := kind.nonempty
      obtain ⟨rest⟩ := ih
      exact ⟨(value, rest)⟩

theorem sqlCompare_zero (kinds : List FieldKind) (x y : Record kinds) :
    sqlCompare kinds 0 x y = 0 := by
  cases kinds <;> rfl

theorem sqlCompare_succ (kind : FieldKind) (kinds : List FieldKind) (compcount : Nat)
    (x y : kind.Value × Record kinds) :
    sqlCompare (kind :: kinds) (compcount + 1) x y =
      ThreeWay.lex kind.sqlCmp (sqlCompare kinds compcount) x y := by
  unfold ThreeWay.lex
  cases compcount with
  | zero =>
      rw [sqlCompare_zero, sqlCompare]
      split_ifs with equal
      · exact equal
      · rfl
  | succ compcount =>
      rw [sqlCompare]
      exact ite_not _ _ _

theorem sqlCompare_lawful_iff (kinds : List FieldKind) (compcount : Nat) :
    Lawful (sqlCompare kinds compcount) ↔ ∀ kind ∈ kinds.take compcount, kind.Sound := by
  have constant : ∀ kinds : List FieldKind, ∀ cmp : Record kinds → Record kinds → Int,
      (∀ x y, cmp x y = 0) → Lawful cmp := by
    intro kinds cmp zero
    have byKey : ByKey cmp fun _ => (0 : Nat) := fun x y => .inr (.inl ⟨zero x y, rfl⟩)
    exact byKey.lawful
  induction kinds generalizing compcount with
  | nil =>
      rw [List.take_nil]
      exact iff_of_true (constant [] _ fun _ _ => rfl) nofun
  | cons kind kinds ih =>
      cases compcount with
      | zero => exact iff_of_true (constant _ _ (sqlCompare_zero _)) nofun
      | succ compcount =>
          have first := kind.nonempty
          have rest := Record.nonempty kinds
          have chain : sqlCompare (kind :: kinds) (compcount + 1) =
              ThreeWay.lex kind.sqlCmp (sqlCompare kinds compcount) :=
            funext fun x => funext fun y => sqlCompare_succ kind kinds compcount x y
          rw [chain, List.take_succ_cons, List.forall_mem_cons]
          exact ThreeWay.lawful_lex_iff.trans (and_congr kind.lawful_iff (ih compcount))

/-- The comparison of an integer field has the sign of the difference exactly where
that is kept, and the operators of a structure are those of a strict weak order
exactly when all fields they look at compare lawfully. -/
theorem ssqls_operators_iff (kinds : List FieldKind) (compcount : Nat) :
    (∀ (type : IntType) (a b : type.Value),
      (type.sqlCmp a.1 b.1).sign = (a.1 - b.1).sign ↔ type.SignKept a.1 b.1) ∧
    ((IsStrictWeakOrder (Record kinds) (ssqlsLess kinds compcount) ∧
        ∀ x y, ssqlsEqual kinds compcount x y ↔
          ¬ ssqlsLess kinds compcount x y ∧ ¬ ssqlsLess kinds compcount y x) ↔
      ∀ kind ∈ kinds.take compcount, kind.Sound) := by
  refine ⟨IntType.sqlCmp_sign_iff, ?_⟩
  rw [← sqlCompare_lawful_iff]
  exact ⟨fun both => ⟨both.1, both.2⟩, fun lawful => ⟨lawful.order, lawful.matching⟩⟩

/-- Three structures with one `sql_tinyint` field are less than each other in turn. -/
theorem tinyint_cycle :
    let field : FieldKind := .plain (.int .tinyint)
    let record (x : IntType.tinyint.Value) : Record [field] := (x, ())
    ssqlsLess [field] 1 (record ⟨100, by decide⟩) (record ⟨-100, by decide⟩) ∧
      ssqlsLess [field] 1 (record ⟨-100, by decide⟩) (record ⟨0, by decide⟩) ∧
      ssqlsLess [field] 1 (record ⟨0, by decide⟩) (record ⟨100, by decide⟩) ∧
      ¬ IsStrictWeakOrder (Record [field]) (ssqlsLess [field] 1) := by
  intro field record
  have down : ssqlsLess [field] 1 (record ⟨100, by decide⟩) (record ⟨-100, by decide⟩) :=
    show IntType.tinyint.sqlCmp 100 (-100) < 0 by decide
  have middle : ssqlsLess [field] 1 (record ⟨-100, by decide⟩) (record ⟨0, by decide⟩) :=
    show IntType.tinyint.sqlCmp (-100) 0 < 0 by decide
  have up : ssqlsLess [field] 1 (record ⟨0, by decide⟩) (record ⟨100, by decide⟩) :=
    show IntType.tinyint.sqlCmp 0 100 < 0 by decide
  refine ⟨down, middle, up, fun order => ?_⟩
  exact order.irrefl _ (order.trans _ _ _ (order.trans _ _ _ down middle) up)

end LibTabula
