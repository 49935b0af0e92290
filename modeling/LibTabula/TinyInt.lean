/-
A small integer of eight bits, signed or not.

Its compound operators accept an int, which is narrowed to eight bits before the operation
and not after it. For sums, products and what works bit by bit that makes no difference; a
divisor is another one then, and may become zero.
-/

import LibTabula.Foundation.Wrapping

set_option autoImplicit false

namespace LibTabula

open Foundation.Wrapping

/-- `tiny_int<signed char>` and `tiny_int<unsigned char>`. -/
structure TinyInt (isSigned : Bool) where
  value : BitVec 8
deriving DecidableEq, Repr

namespace TinyInt

variable {isSigned : Bool}

/-- `operator int` -/
def toInt (self : TinyInt isSigned) : Int :=
  if isSigned then self.value.toInt else self.value.toNat

/-- `static_cast<value_type>(v)` -/
def cast (v : Int) : TinyInt isSigned := ⟨BitVec.ofInt 8 v⟩

/-- What is left of an `int` that is narrowed to the type of `self`. -/
def narrow (_self : TinyInt isSigned) (v : Int32) : Int :=
  (cast v.toInt : TinyInt isSigned).toInt

/-! ### Compound operators -/

/-- Both sides are promoted to `int`, and what comes out is stored in eight bits again. -/
def combine (compute : Int → Int → Int) (self : TinyInt isSigned) (v : Int32) :
    TinyInt isSigned :=
  cast (compute self.toInt (self.narrow v))

/-- Division by zero has no meaning. -/
def divide (compute : Int → Int → Int) (self : TinyInt isSigned) (v : Int32) :
    Option (TinyInt isSigned) :=
  if self.narrow v = 0 then none else some (combine compute self v)

/-- An operation on the bits of two `int`s. -/
def onBits (compute : BitVec 32 → BitVec 32 → BitVec 32) (a b : Int) : Int :=
  (compute (BitVec.ofInt 32 a) (BitVec.ofInt 32 b)).toInt

/-- `operator +=` -/
def addAssign : TinyInt isSigned → Int32 → TinyInt isSigned := combine (· + ·)

/-- `operator -=` -/
def subAssign : TinyInt isSigned → Int32 → TinyInt isSigned := combine (· - ·)

/-- `operator *=` -/
def mulAssign : TinyInt isSigned → Int32 → TinyInt isSigned := combine (· * ·)

/-- `operator /=` -/
def divAssign : TinyInt isSigned → Int32 → Option (TinyInt isSigned) := divide Int.tdiv

/-- `operator %=` -/
def modAssign : TinyInt isSigned → Int32 → Option (TinyInt isSigned) := divide Int.tmod

/-- `operator &=` -/
def andAssign : TinyInt isSigned → Int32 → TinyInt isSigned := combine (onBits (· &&& ·))

/-- `operator |=` -/
def orAssign : TinyInt isSigned → Int32 → TinyInt isSigned := combine (onBits (· ||| ·))

/-- `operator ^=` -/
def xorAssign : TinyInt isSigned → Int32 → TinyInt isSigned := combine (onBits (· ^^^ ·))

inductive CompoundOp
  | add | sub | mul | div | mod | and | or | xor
deriving DecidableEq, Repr

def CompoundOp.divides : CompoundOp → Bool
  | .div | .mod => true
  | _ => false

def assign : CompoundOp → TinyInt isSigned → Int32 → Option (TinyInt isSigned)
  | .add, self, v => some (self.addAssign v)
  | .sub, self, v => some (self.subAssign v)
  | .mul, self, v => some (self.mulAssign v)
  | .div, self, v => self.divAssign v
  | .mod, self, v => self.modAssign v
  | .and, self, v => some (self.andAssign v)
  | .or, self, v => some (self.orAssign v)
  | .xor, self, v => some (self.xorAssign v)

/-! ### What is asked of them -/

/-- The mathematical result, of the numbers as they are. -/
def CompoundOp.result : CompoundOp → Int → Int → Int
  | .add => (· + ·)
  | .sub => (· - ·)
  | .mul => (· * ·)
  | .div => Int.tdiv
  | .mod => Int.tmod
  | .and => onBits (· &&& ·)
  | .or => onBits (· ||| ·)
  | .xor => onBits (· ^^^ ·)

/-- The result is left, reduced to eight bits, and nothing but zero divides by zero. -/
def Exact (op : CompoundOp) (self : TinyInt isSigned) (v : Int32) : Prop :=
  (op.divides = true → v.toInt ≠ 0) →
    assign op self v = some (cast (op.result self.toInt v.toInt))

/-- The divisor fits, or the number is less than both what it is and what it becomes. -/
def Near (self : TinyInt isSigned) (v : Int32) : Prop :=
  self.narrow v = v.toInt ∨
    self.toInt.natAbs < (self.narrow v).natAbs ∧ self.toInt.natAbs < v.toInt.natAbs

/-- Where it does not matter that a divisor is narrowed. -/
def Allowed (op : CompoundOp) (self : TinyInt isSigned) (v : Int32) : Prop :=
  match op with
  | .div => Near self v ∨
      isSigned = false ∧ self.toInt = 255 ∧ (v.toInt = -1 ∨ v.toInt = -255)
  | .mod => Near self v ∨
      (isSigned = true ∧ self.toInt = -128 ∧ v.toInt = 128) ∨
      (isSigned = false ∧ v.toInt < 0 ∧ -v.toInt ≤ self.toInt ∧
        self.narrow v ≤ self.toInt ∧ (v.toInt ∣ self.narrow v ∨ self.narrow v ∣ v.toInt))
  | _ => True

/-! ### Numbers of eight bits -/

theorem cast_eq_iff (a b : Int) :
    (cast a : TinyInt isSigned) = cast b ↔ a ≡ b [ZMOD (256 : Nat)] := by
  rw [cast, cast, TinyInt.mk.injEq]
  exact ofInt_eq_iff 8 a b

theorem toInt_modEq (self : TinyInt isSigned) :
    self.toInt ≡ self.value.toNat [ZMOD (256 : Nat)] := by
  cases isSigned with
  | false => rfl
  | true => exact Foundation.Wrapping.toInt_modEq self.value

theorem narrow_modEq (self : TinyInt isSigned) (v : Int32) :
    self.narrow v ≡ v.toInt [ZMOD (256 : Nat)] := by
  apply (toInt_modEq _).trans
  exact toNat_ofInt_modEq 8 v.toInt

theorem toInt_of_signed (self : TinyInt true) : -128 ≤ self.toInt ∧ self.toInt ≤ 127 := by
  have lower := BitVec.le_toInt self.value
  have upper := BitVec.toInt_lt (x := self.value)
  change -128 ≤ self.value.toInt ∧ self.value.toInt ≤ 127
  omega

theorem toInt_of_unsigned (self : TinyInt false) : 0 ≤ self.toInt ∧ self.toInt ≤ 255 := by
  have upper := self.value.isLt
  change 0 ≤ (self.value.toNat : Int) ∧ (self.value.toNat : Int) ≤ 255
  omega

theorem natAbs_toInt_lt (self : TinyInt isSigned) : self.toInt.natAbs < 256 := by
  cases isSigned with
  | false =>
    have range := toInt_of_unsigned self
    omega
  | true =>
    have range := toInt_of_signed self
    omega

/-- A divisor that is not farther out than the number and does not fit: the one above the
largest for the smallest number, or a negative one. -/
theorem narrowed_of_le (self : TinyInt isSigned) (v : Int32)
    (le : v.toInt.natAbs ≤ self.toInt.natAbs) (other : self.narrow v ≠ v.toInt) :
    (isSigned = true ∧ self.toInt = -128 ∧ v.toInt = 128 ∧ self.narrow v = -128) ∨
      (isSigned = false ∧ v.toInt < 0 ∧ self.narrow v = 256 + v.toInt) := by
  have same := narrow_modEq self v
  rw [Int.ModEq] at same
  push_cast at same
  cases isSigned with
  | false =>
    have range := toInt_of_unsigned self
    have narrowed := toInt_of_unsigned (cast v.toInt)
    change 0 ≤ self.narrow v ∧ self.narrow v ≤ 255 at narrowed
    right
    refine ⟨rfl, ?_⟩
    omega
  | true =>
    have range := toInt_of_signed self
    have narrowed := toInt_of_signed (cast v.toInt)
    change -128 ≤ self.narrow v ∧ self.narrow v ≤ 127 at narrowed
    left
    refine ⟨rfl, ?_⟩
    omega

/-! ### Sums, products and bits -/

theorem onBits_modEq (compute : ∀ {width : Nat}, BitVec width → BitVec width → BitVec width)
    (narrows : ∀ a b : BitVec 32, (compute a b).setWidth 8 =
      compute (a.setWidth 8) (b.setWidth 8))
    (a : Int) {b c : Int} (same : b ≡ c [ZMOD (256 : Nat)]) :
    onBits compute a b ≡ onBits compute a c [ZMOD (256 : Nat)] := by
  have le : 8 ≤ 32 := by decide
  have bits : BitVec.ofInt 8 b = BitVec.ofInt 8 c := (ofInt_eq_iff 8 b c).mpr same
  apply (ofInt_eq_iff 8 _ _).mp
  rw [onBits, onBits, ofInt_toInt_eq_setWidth le, ofInt_toInt_eq_setWidth le, narrows, narrows,
    setWidth_ofInt le, setWidth_ofInt le, setWidth_ofInt le, bits]

/-- What goes by the lower bits alone may be computed of them. -/
theorem result_modEq (op : CompoundOp) (keeps : op.divides = false) (a : Int) {b c : Int}
    (same : b ≡ c [ZMOD (256 : Nat)]) : op.result a b ≡ op.result a c [ZMOD (256 : Nat)] := by
  cases op with
  | add => exact same.add_left a
  | sub => exact same.sub_left a
  | mul => exact same.mul_left a
  | div => cases keeps
  | mod => cases keeps
  | and => exact onBits_modEq (· &&& ·) (fun _ _ => BitVec.setWidth_and) a same
  | or => exact onBits_modEq (· ||| ·) (fun _ _ => BitVec.setWidth_or) a same
  | xor => exact onBits_modEq (· ^^^ ·) (fun _ _ => BitVec.setWidth_xor) a same

theorem exact_of_keeps (op : CompoundOp) (keeps : op.divides = false) (self : TinyInt isSigned)
    (v : Int32) : Exact op self v := by
  intro _
  have same : (cast (op.result self.toInt (self.narrow v)) : TinyInt isSigned) =
      cast (op.result self.toInt v.toInt) :=
    (cast_eq_iff _ _).mpr (result_modEq op keeps self.toInt (narrow_modEq self v))
  rw [← same]
  cases op with
  | div => cases keeps
  | mod => cases keeps
  | _ => rfl

/-! ### Quotients and remainders -/

theorem exact_iff_of_divides (op : CompoundOp) (divides : op.divides = true)
    (self : TinyInt isSigned) (v : Int32) :
    Exact op self v ↔ (v.toInt ≠ 0 → self.narrow v ≠ 0 ∧
      op.result self.toInt (self.narrow v) ≡ op.result self.toInt v.toInt
        [ZMOD (256 : Nat)]) := by
  have divided : assign op self v = divide op.result self v := by
    cases op with
    | div => rfl
    | mod => rfl
    | _ => cases divides
  rw [Exact, divided, divide, forall_prop_of_true divides]
  apply imp_congr Iff.rfl
  by_cases zero : self.narrow v = 0
  · rw [if_pos zero]
    constructor
    · intro impossible
      cases impossible
    · intro given
      exact absurd zero given.1
  · rw [if_neg zero, Option.some.injEq, combine, cast_eq_iff]
    exact (and_iff_right zero).symm

theorem near_iff_of_lt (self : TinyInt isSigned) (v : Int32)
    (far : self.toInt.natAbs < v.toInt.natAbs) :
    Near self v ↔ self.toInt.natAbs < (self.narrow v).natAbs := by
  constructor
  · intro given
    rcases given with fits | less
    · rw [fits]
      exact far
    · exact less.1
  · intro less
    exact Or.inr ⟨less, far⟩

/-- A divisor that is not farther out than the number is still there when it is narrowed. -/
theorem near_iff_of_le (self : TinyInt isSigned) (v : Int32)
    (le : v.toInt.natAbs ≤ self.toInt.natAbs) : Near self v ↔ self.narrow v = v.toInt := by
  constructor
  · intro near
    exact near.resolve_right fun less => Nat.not_lt.mpr le less.2
  · exact Or.inl

/-- A negative divisor of a number that is not, and the numbers they are. -/
theorem exists_opposite (self : TinyInt false) (v : Int32) (negative : v.toInt < 0)
    (le : v.toInt.natAbs ≤ self.toInt.natAbs) (narrowed : self.narrow v = 256 + v.toInt) :
    ∃ a n x : Nat, v.toInt = -(a : Int) ∧ self.narrow v = n ∧ self.toInt = x ∧
      a + n = 256 ∧ x < 256 ∧ 0 < a ∧ a ≤ x := by
  have range := toInt_of_unsigned self
  refine ⟨v.toInt.natAbs, (self.narrow v).toNat, self.toInt.toNat, ?_⟩
  omega

theorem div_iff (self : TinyInt isSigned) (v : Int32) (some_ : v.toInt ≠ 0) :
    (self.narrow v ≠ 0 ∧ self.toInt.tdiv (self.narrow v) ≡ self.toInt.tdiv v.toInt
      [ZMOD (256 : Nat)]) ↔ Allowed .div self v := by
  have small := natAbs_toInt_lt self
  by_cases far : self.toInt.natAbs < v.toInt.natAbs
  · have zero : self.toInt.tdiv v.toInt = 0 := (tdiv_eq_zero_iff some_).mpr far
    rw [Allowed, near_iff_of_lt self v far, zero]
    constructor
    · intro given
      exact Or.inl ((tdiv_modEq_zero_iff small given.1).mp given.2)
    · intro given
      rcases given with less | ⟨_, largest, divisor⟩
      · have nonzero : self.narrow v ≠ 0 := by omega
        exact ⟨nonzero, (tdiv_modEq_zero_iff small nonzero).mpr less⟩
      · omega
  · have le := Nat.le_of_not_lt far
    rw [Allowed, near_iff_of_le self v le]
    by_cases fits : self.narrow v = v.toInt
    · rw [fits]
      exact iff_of_true ⟨some_, rfl⟩ (Or.inl rfl)
    · rw [or_iff_right fits]
      obtain ⟨rfl, least, divisor, narrowed⟩ | ⟨rfl, negative, narrowed⟩ :=
        narrowed_of_le self v le fits
      · rw [least, divisor, narrowed]
        decide
      · obtain ⟨a, n, x, divisor, left, number, sum, less, positive, within⟩ :=
          exists_opposite self v negative le narrowed
        rw [left, number, divisor, tdiv_neg_modEq_iff sum less positive within,
          and_iff_right rfl]
        omega

theorem mod_iff (self : TinyInt isSigned) (v : Int32) (some_ : v.toInt ≠ 0) :
    (self.narrow v ≠ 0 ∧ self.toInt.tmod (self.narrow v) ≡ self.toInt.tmod v.toInt
      [ZMOD (256 : Nat)]) ↔ Allowed .mod self v := by
  have small := natAbs_toInt_lt self
  by_cases far : self.toInt.natAbs < v.toInt.natAbs
  · have same : self.toInt.tmod v.toInt = self.toInt := by
      rw [Int.tmod_def, (tdiv_eq_zero_iff some_).mpr far, Int.mul_zero, Int.sub_zero]
    rw [Allowed, near_iff_of_lt self v far, same]
    constructor
    · intro given
      exact Or.inl ((tmod_modEq_self_iff small given.1).mp given.2)
    · intro given
      rcases given with less | ⟨_, least, divisor⟩ | ⟨_, negative, le, _⟩
      · have nonzero : self.narrow v ≠ 0 := by omega
        exact ⟨nonzero, (tmod_modEq_self_iff small nonzero).mpr less⟩
      · omega
      · omega
  · have le := Nat.le_of_not_lt far
    rw [Allowed, near_iff_of_le self v le]
    by_cases fits : self.narrow v = v.toInt
    · rw [fits]
      exact iff_of_true ⟨some_, rfl⟩ (Or.inl rfl)
    · rw [or_iff_right fits]
      obtain ⟨rfl, least, divisor, narrowed⟩ | ⟨rfl, negative, narrowed⟩ :=
        narrowed_of_le self v le fits
      · rw [least, divisor, narrowed]
        decide
      · obtain ⟨a, n, x, divisor, left, number, sum, less, positive, within⟩ :=
          exists_opposite self v negative le narrowed
        have notSigned : ¬(false = true ∧ (x : Int) = -128 ∧ -(a : Int) = 128) :=
          fun given => absurd given.1 Bool.false_ne_true
        rw [left, number, divisor, tmod_neg_modEq_iff sum less positive within,
          or_iff_right notSigned, and_iff_right rfl, Int.neg_dvd, Int.dvd_neg,
          Int.natCast_dvd_natCast, Int.natCast_dvd_natCast]
        omega

theorem near_of_zero (self : TinyInt isSigned) (v : Int32) (zero : v.toInt = 0) :
    Near self v := by
  apply Or.inl
  rw [narrow, zero]
  cases isSigned with
  | false => rfl
  | true => rfl

/-- An operation that divides, by what holds of it for a divisor that is not zero. -/
theorem exact_iff_of_nonzero (op : CompoundOp) (divides : op.divides = true)
    (self : TinyInt isSigned) (v : Int32) (ofNear : Near self v → Allowed op self v)
    (nonzero : v.toInt ≠ 0 → ((self.narrow v ≠ 0 ∧
      op.result self.toInt (self.narrow v) ≡ op.result self.toInt v.toInt
        [ZMOD (256 : Nat)]) ↔ Allowed op self v)) :
    Exact op self v ↔ Allowed op self v := by
  rw [exact_iff_of_divides op divides]
  by_cases zero : v.toInt = 0
  · exact iff_of_true (fun some_ => absurd zero some_) (ofNear (near_of_zero self v zero))
  · rw [forall_prop_of_true zero]
    exact nonzero zero

/-- The result is the mathematical one exactly where it does not matter that a divisor is
narrowed. -/
theorem exact_iff (op : CompoundOp) (self : TinyInt isSigned) (v : Int32) :
    Exact op self v ↔ Allowed op self v := by
  cases op with
  | div => exact exact_iff_of_nonzero .div rfl self v Or.inl (div_iff self v)
  | mod => exact exact_iff_of_nonzero .mod rfl self v Or.inl (mod_iff self v)
  | _ => exact iff_of_true (exact_of_keeps _ rfl self v) trivial

/-- The divisor 256 is no number of eight bits, and what is left of it is zero. -/
theorem nonzero_divides_by_zero : ¬Exact .div (cast 100 : TinyInt true) 256 := by
  intro exact_
  have left := exact_ (fun _ => by decide)
  have nothing : assign .div (cast 100 : TinyInt true) 256 = none := by decide
  rw [nothing] at left
  cases left

end TinyInt

end LibTabula
