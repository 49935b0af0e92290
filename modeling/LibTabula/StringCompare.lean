/-
`String::compare()` and the operators that go by it.

All overloads end in one `strncmp()`, which stops at a NUL that both sides have at the
same place. A buffer that was made from a null pointer holds no data: its length is 0,
but reading from it is not possible.
-/

import LibTabula.Foundation.Terminated
import LibTabula.SsqlsCompare

set_option autoImplicit false

namespace LibTabula

open Foundation Foundation.ThreeWay

/-- What stands before the first NUL. -/
def beforeNul (text : Bytes) : Bytes := Terminated.upTo 0 text

def strlen (text : Bytes) : Nat := (beforeNul text).length

/-- `SQLBuffer`, as far as it is compared. -/
structure RawBuffer where
  data : Option Bytes
deriving DecidableEq, Repr

def RawBuffer.length (self : RawBuffer) : Nat := (self.data.getD []).length

/-- `strncmp(data + pos, other, num)`, or nothing if it reads where no data is. -/
def RawBuffer.strncmpFrom (self : RawBuffer) (pos : Nat) (other : Bytes) (num : Nat) :
    Option Int :=
  match self.data with
  | some text => if pos ≤ text.length then some (strncmp (text.drop pos) other num) else none
  | none => if pos = 0 ∧ num = 0 then some 0 else none

theorem RawBuffer.strncmpFrom_noData (pos : Nat) (other : Bytes) {num : Nat} (some : num ≠ 0) :
    (RawBuffer.mk none).strncmpFrom pos other num = none :=
  if_neg fun both => some both.2

/-- `String`, with its buffer as it is. -/
structure StringObject where
  buffer : Option RawBuffer
deriving DecidableEq, Repr

namespace StringObject

def length (self : StringObject) : Nat :=
  match self.buffer with
  | some buffer => buffer.length
  | none => 0

/-- `compare(pos, num, other)`. -/
def compareFrom (self : StringObject) (pos num : Nat) (other : Option Bytes) : Option Int :=
  match self.buffer, other with
  | some buffer, some other => buffer.strncmpFrom pos other num
  | _, none => some (if 0 < self.length then 1 else 0)
  | none, some other => some (if other.headD 0 = 0 then 0 else -1)

def compare (self other : StringObject) : Option Int :=
  match other.buffer with
  | some buffer => self.compareFrom 0 (max self.length other.length) buffer.data
  | none => some (if 0 < self.length then 1 else 0)

/-- `compare(const std::string&)`. -/
def compareStd (self : StringObject) (other : Bytes) : Option Int :=
  self.compareFrom 0 (max self.length other.length) (some other)

/-- `compare(const char*)`. -/
def compareCString (self : StringObject) (other : Bytes) : Option Int :=
  self.compareFrom 0 (max self.length (strlen other)) (some other)

/-- `operator ==`. -/
def eq (self rhs : StringObject) : Option Bool := (self.compare rhs).map fun r => r = 0

/-- `operator !=`. -/
def ne (self rhs : StringObject) : Option Bool := (self.compare rhs).map fun r => r ≠ 0

/-- The bytes it holds, which are none without a buffer or without data. -/
def bytes (self : StringObject) : Bytes := (self.buffer.bind RawBuffer.data).getD []

def ofBytes (text : Bytes) : StringObject := { buffer := some { data := some text } }

def HasData (self : StringObject) : Prop := ∃ text, self.buffer = some { data := some text }

def NoData (self : StringObject) : Prop := self.buffer = some { data := none }

end StringObject

/-- Where there is data in every buffer, nothing is read from where there is none. -/
theorem StringObject.compare_of_data (a b : MyString) :
    (StringObject.mk (a.buffer.map fun text => ⟨some text⟩)).compare
      (StringObject.mk (b.buffer.map fun text => ⟨some text⟩)) = some (a.compare b) := by
  obtain ⟨first⟩ := a
  obtain ⟨second⟩ := b
  cases first with
  | none =>
      cases second with
      | none => rfl
      | some other => rfl
  | some text =>
      cases second with
      | none => rfl
      | some other => rfl

/-! ### What is expected -/

/-- The sign of a comparison, once it has been made. -/
def signOf (result : Option Int) : Option Int := result.map Int.sign

/-- Among these objects, comparing is comparing the bytes. -/
structure ComparesRight (objects : Set StringObject) : Prop where
  zero_iff : ∀ a ∈ objects, ∀ b ∈ objects, a.compare b = some 0 ↔ a.bytes = b.bytes
  order : ∀ a ∈ objects, ∀ b ∈ objects,
    signOf (a.compare b) = some (stdCompare a.bytes b.bytes).sign
  equality : ∀ a ∈ objects, ∀ b ∈ objects,
    a.eq b = some (decide (a.bytes = b.bytes)) ∧
      a.ne b = some (decide (a.bytes ≠ b.bytes))
  antisymmetric : ∀ a ∈ objects, ∀ b ∈ objects, ∀ r, a.compare b = some r →
    ∃ s, b.compare a = some s ∧ s.sign = -r.sign
  transitive : ∀ a ∈ objects, ∀ b ∈ objects, ∀ c ∈ objects, ∀ r s, a.compare b = some r →
    b.compare c = some s → r ≤ 0 → s ≤ 0 → ∃ t, a.compare c = some t ∧ t ≤ 0
  uninitialized : ∀ a ∈ objects, a.buffer = none → ∀ b ∈ objects,
    signOf (a.compare b) = signOf ((StringObject.ofBytes []).compare b) ∧
      signOf (b.compare a) = signOf (b.compare (StringObject.ofBytes []))
  std : ∀ a ∈ objects, ∀ b ∈ objects,
    signOf (a.compareStd b.bytes) = signOf (a.compare b)

/-- Different bytes differ before a NUL ends both, and no bytes are compared with a
buffer that has no data. -/
def StringObject.Comparable (a b : StringObject) : Prop :=
  (a.bytes = b.bytes ∨ beforeNul a.bytes ≠ beforeNul b.bytes) ∧ (a.NoData → b.bytes = [])

/-! ### `strncmp()` -/

/-- What `strncmp()` goes by. -/
def textKey (num : Nat) (text : Bytes) : List Nat :=
  (beforeNul (text.take num)).map UInt8.toNat

theorem toNat_injective : Function.Injective UInt8.toNat :=
  fun _ _ => UInt8.toNat_inj.mp

theorem textKey_eq_iff (num : Nat) (a b : Bytes) :
    textKey num a = textKey num b ↔ beforeNul (a.take num) = beforeNul (b.take num) :=
  (List.map_injective_iff.mpr toNat_injective).eq_iff

theorem textKey_eq_upTo (num : Nat) (text : Bytes) :
    textKey num text = Terminated.upTo 0 ((text.map UInt8.toNat).take num) := by
  rw [← List.map_take]
  exact (Terminated.upTo_map toNat_injective _).symm

theorem textKey_succ_of_zero (num : Nat) {text : Bytes} (ended : text.headD 0 = 0) :
    textKey (num + 1) text = [] := by
  cases text with
  | nil => rfl
  | cons c rest =>
      rw [List.headD_cons] at ended
      subst ended
      exact congrArg (List.map UInt8.toNat) (Terminated.upTo_stop _)

theorem textKey_succ_of_ne (num : Nat) {text : Bytes} (goesOn : text.headD 0 ≠ 0) :
    textKey (num + 1) text = (text.headD 0).toNat :: textKey num text.tail := by
  cases text with
  | nil => exact absurd rfl goesOn
  | cons c rest => exact congrArg (List.map UInt8.toNat) (Terminated.upTo_cons goesOn _)

theorem strncmp_byKey (num : Nat) : ByKey (fun a b => strncmp a b num) (textKey num) := by
  induction num with
  | zero => exact fun a b => .inr (.inl ⟨rfl, rfl⟩)
  | succ num ih =>
      intro a b
      simp only [strncmp]
      by_cases same : a.headD 0 = b.headD 0
      · rw [if_neg (not_not.mpr same)]
        by_cases ended : a.headD 0 = 0
        · rw [if_pos ended, textKey_succ_of_zero num ended,
            textKey_succ_of_zero num (same.symm.trans ended)]
          exact .inr (.inl ⟨rfl, rfl⟩)
        · rw [if_neg ended, textKey_succ_of_ne num ended,
            textKey_succ_of_ne num (same ▸ ended), same]
          simp only [List.cons_lt_cons_iff, List.cons.injEq, lt_irrefl, false_or, true_and]
          exact ih a.tail b.tail
      · rw [if_pos same]
        by_cases left : a.headD 0 = 0
        · have right : b.headD 0 ≠ 0 := fun ended => same (left.trans ended.symm)
          rw [textKey_succ_of_zero num left, textKey_succ_of_ne num right, left]
          have positive : 0 < (b.headD 0).toNat := by
            exact Nat.pos_of_ne_zero fun zero => right (toNat_injective zero)
          have zero : (0 : UInt8).toNat = 0 := rfl
          exact .inl ⟨by omega, List.nil_lt_cons _ _⟩
        · by_cases right : b.headD 0 = 0
          · rw [textKey_succ_of_ne num left, textKey_succ_of_zero num right, right]
            have positive : 0 < (a.headD 0).toNat := by
              exact Nat.pos_of_ne_zero fun zero => left (toNat_injective zero)
            have zero : (0 : UInt8).toNat = 0 := rfl
            exact .inr (.inr ⟨by omega, List.nil_lt_cons _ _⟩)
          · rw [textKey_succ_of_ne num left, textKey_succ_of_ne num right]
            simp only [List.cons_lt_cons_iff]
            have different := mt (@toNat_injective _ _) same
            rcases Nat.lt_or_gt_of_ne different with less | greater
            · exact .inl ⟨by omega, .inl less⟩
            · exact .inr (.inr ⟨by omega, .inl greater⟩)

/-- With enough of the first text, `strncmp()` orders the texts by what they have before
the first NUL, and cannot tell more. -/
theorem strncmp_sign_iff {a b : Bytes} {num : Nat} (fits : a.length ≤ num) :
    (strncmp a b num).sign = (stdCompare a b).sign ↔
      a = b ∨ beforeNul a ≠ beforeNul (b.take num) := by
  have whole : beforeNul (a.take num) = beforeNul a := by rw [List.take_of_length_le fits]
  have mapped : (a.map UInt8.toNat).length ≤ num := by rw [List.length_map]; exact fits
  have left : textKey num a = Terminated.upTo 0 (a.map UInt8.toNat) := by
    rw [textKey_eq_upTo, List.take_of_length_le mapped]
  rw [← whole, ne_eq, ← textKey_eq_iff, sign_eq_sign_iff]
  rcases strncmp_byKey num a b with ⟨less, below⟩ | ⟨equal, same⟩ | ⟨greater, above⟩
  · have lower : stdCompare a b < 0 := by
      rw [stdCompare_byKey.less_iff]
      rw [left, textKey_eq_upTo] at below
      exact Terminated.lt_of_upTo_lt_upTo_take Nat.zero_le _ _ _ below
    exact iff_of_true (.inl ⟨less, lower⟩) (.inr below.ne)
  · constructor
    · intro signs
      have zero : stdCompare a b = 0 := by
        change strncmp a b num = 0 at equal
        omega
      exact .inl (List.map_injective_iff.mpr toNat_injective
        ((stdCompare_byKey.equal_iff a b).mp zero))
    · intro either
      rcases either with rfl | different
      · exact .inr (.inl ⟨equal, (stdCompare_byKey.equal_iff a a).mpr rfl⟩)
      · exact absurd same different
  · have higher : 0 < stdCompare a b := by
      rw [stdCompare_byKey.greater_iff]
      rw [left, textKey_eq_upTo] at above
      exact Terminated.lt_of_upTo_take_lt_upTo Nat.zero_le _ _ mapped above
    exact iff_of_true (.inr (.inr ⟨greater, higher⟩)) (.inr above.ne')

theorem stdCompare_nil_right (text : Bytes) :
    (stdCompare text []).sign = if text = [] then 0 else 1 := by
  cases text with
  | nil => rfl
  | cons c rest => rfl

theorem stdCompare_nil_left (text : Bytes) :
    (stdCompare [] text).sign = if text = [] then 0 else -1 := by
  cases text with
  | nil => rfl
  | cons c rest => rfl

/-! ### Two objects -/

theorem beforeNul_eq_nil_iff (text : Bytes) : beforeNul text = [] ↔ text.headD 0 = 0 :=
  Terminated.upTo_eq_nil_iff text

namespace StringObject

theorem length_eq (self : StringObject) : self.length = self.bytes.length := by
  obtain ⟨buffer⟩ := self
  cases buffer with
  | none => rfl
  | some buffer => rfl

/-- Without a buffer, with one that has no data, or with data. -/
theorem cases_ (self : StringObject) :
    self.buffer = none ∨ self.NoData ∨ ∃ text, self = ofBytes text := by
  obtain ⟨buffer⟩ := self
  cases buffer with
  | none => exact Or.inl rfl
  | some buffer =>
      obtain ⟨data⟩ := buffer
      cases data with
      | none => exact Or.inr (Or.inl rfl)
      | some text => exact Or.inr (Or.inr ⟨text, rfl⟩)

theorem not_noData_ofBytes (text : Bytes) : ¬ (ofBytes text).NoData := nofun

/-- Comparing with what holds no data needs no more than the length. -/
theorem compare_without_data {self other : StringObject}
    (without : other.buffer = none ∨ other.NoData) :
    signOf (self.compare other) = some (stdCompare self.bytes other.bytes).sign := by
  have answer : self.compare other = some (if 0 < self.length then 1 else 0) := by
    obtain ⟨buffer⟩ := other
    rcases without with rfl | rfl
    · rfl
    · obtain ⟨own⟩ := self
      cases own with
      | none => rfl
      | some own => rfl
  have nothing : other.bytes = [] := by
    obtain ⟨buffer⟩ := other
    rcases without with rfl | rfl <;> rfl
  rw [answer, nothing, stdCompare_nil_right, length_eq]
  by_cases none : self.bytes = []
  · rw [none]
    rfl
  · rw [if_neg none, if_pos (List.length_pos_iff.mpr none)]
    rfl

/-- Comparing with a C++ string gives the right sign just where the NULs let it. -/
theorem compareStd_sign_iff (self : StringObject) (text : Bytes) :
    signOf (self.compareStd text) = some (stdCompare self.bytes text).sign ↔
      (self.bytes = text ∨ beforeNul self.bytes ≠ beforeNul text) ∧
        (self.NoData → text = []) := by
  rcases self.cases_ with unset | noData | ⟨own, rfl⟩
  · obtain ⟨buffer⟩ := self
    subst unset
    have given : beforeNul (StringObject.mk none).bytes ≠ beforeNul text ↔
        text.headD 0 ≠ 0 := by
      rw [ne_eq, ne_eq, ← beforeNul_eq_nil_iff]
      exact not_congr eq_comm
    rw [given, and_iff_left nofun]
    change some (if text.headD 0 = 0 then (0 : Int) else -1).sign =
      some (stdCompare [] text).sign ↔ [] = text ∨ _
    rw [stdCompare_nil_left]
    cases text with
    | nil => exact iff_of_true rfl (Or.inl rfl)
    | cons c rest =>
        rw [if_neg (List.cons_ne_nil c rest), List.headD_cons]
        by_cases ended : c = 0
        · rw [if_pos ended]
          refine iff_of_false nofun ?_
          intro either
          rcases either with same | different
          · cases same
          · exact different ended
        · rw [if_neg ended]
          exact iff_of_true rfl (Or.inr ended)
  · obtain ⟨buffer⟩ := self
    subst noData
    cases text with
    | nil => exact iff_of_true rfl ⟨Or.inl rfl, fun _ => rfl⟩
    | cons c rest =>
        have unread : (StringObject.mk (some ⟨none⟩)).compareStd (c :: rest) = none :=
          RawBuffer.strncmpFrom_noData 0 (c :: rest) (Nat.ne_of_gt (Nat.zero_lt_succ rest.length))
        rw [unread]
        refine iff_of_false nofun fun both => ?_
        exact absurd (both.2 rfl) (List.cons_ne_nil c rest)
  · rw [and_iff_left fun none => absurd none (not_noData_ofBytes own)]
    have fits : own.length ≤ max own.length text.length := Nat.le_max_left _ _
    have whole : text.take (max own.length text.length) = text :=
      List.take_of_length_le (Nat.le_max_right _ _)
    have signs := strncmp_sign_iff (b := text) fits
    rw [whole] at signs
    rw [← Option.some_inj] at signs
    exact signs

/-- The same for two objects: without data on the right side there is nothing to ask. -/
theorem compare_sign_iff (a b : StringObject) :
    signOf (a.compare b) = some (stdCompare a.bytes b.bytes).sign ↔
      (b.HasData → a.Comparable b) := by
  rcases b.cases_ with unset | noData | ⟨text, rfl⟩
  · refine iff_of_true (compare_without_data (Or.inl unset)) ?_
    intro both
    obtain ⟨text, given⟩ := both
    rw [unset] at given
    cases given
  · refine iff_of_true (compare_without_data (Or.inr noData)) ?_
    intro both
    obtain ⟨text, given⟩ := both
    rw [noData] at given
    cases given
  · exact (a.compareStd_sign_iff text).trans
      ⟨fun comparable _ => comparable, fun comparable => comparable ⟨text, rfl⟩⟩

theorem bytes_without_data {self : StringObject}
    (without : self.buffer = none ∨ self.NoData) : self.bytes = [] := by
  obtain ⟨buffer⟩ := self
  rcases without with rfl | rfl
  · rfl
  · rfl

theorem cases_data (self : StringObject) :
    (self.buffer = none ∨ self.NoData) ∨ self.HasData := by
  rcases self.cases_ with unset | noData | ⟨text, rfl⟩
  · exact Or.inl (Or.inl unset)
  · exact Or.inl (Or.inr noData)
  · exact Or.inr ⟨text, rfl⟩

end StringObject

/-- A C string is compared as the C++ string of its characters. -/
theorem StringObject.compareCString_eq (self : StringObject) {text : Bytes}
    (noNul : 0 ∉ text) : self.compareCString text = self.compareStd text := by
  have whole : beforeNul text = text := Terminated.upTo_of_not_mem noNul
  rw [compareCString, compareStd, strlen, whole]

/-! ### All of them -/

theorem stdCompare_eq_zero_iff (a b : Bytes) : stdCompare a b = 0 ↔ a = b :=
  (stdCompare_byKey.equal_iff a b).trans
    (List.map_injective_iff.mpr toNat_injective).eq_iff

theorem exists_of_signOf {result : Option Int} {expected : Int}
    (right : signOf result = some expected.sign) :
    ∃ r, result = some r ∧ (r < 0 ∧ expected < 0 ∨ r = 0 ∧ expected = 0 ∨
      0 < r ∧ 0 < expected) := by
  obtain ⟨r, rfl, same⟩ := Option.map_eq_some_iff.mp right
  exact ⟨r, rfl, (sign_eq_sign_iff r expected).mp same⟩

theorem zero_of_order {result : Option Int} {a b : Bytes}
    (right : signOf result = some (stdCompare a b).sign) :
    ∃ r, result = some r ∧ (r = 0 ↔ a = b) := by
  obtain ⟨r, answer, signs⟩ := exists_of_signOf right
  refine ⟨r, answer, ?_⟩
  rw [← stdCompare_eq_zero_iff]
  omega

theorem antisymmetric_of_order {forth back : Option Int} {a b : Bytes} {r : Int}
    (right : signOf forth = some (stdCompare a b).sign)
    (swapped : signOf back = some (stdCompare b a).sign) (answer : forth = some r) :
    ∃ s, back = some s ∧ s.sign = -r.sign := by
  obtain ⟨s, rfl, signs⟩ := exists_of_signOf swapped
  obtain ⟨_, found, others⟩ := exists_of_signOf right
  rw [answer, Option.some_inj] at found
  subst found
  refine ⟨s, rfl, ?_⟩
  rw [(sign_eq_sign_iff s _).mpr signs, (sign_eq_sign_iff r _).mpr others]
  exact stdCompare_byKey.sign_swap a b

/-- The laws hold once every pair has the sign of `std::string::compare()`. -/
theorem comparesRight_of_order {objects : Set StringObject}
    (comparable : ∀ a ∈ objects, ∀ b ∈ objects, a.Comparable b) : ComparesRight objects := by
  have order : ∀ a ∈ objects, ∀ b ∈ objects,
      signOf (a.compare b) = some (stdCompare a.bytes b.bytes).sign :=
    fun a memberA b memberB =>
      (a.compare_sign_iff b).mpr fun _ => comparable a memberA b memberB
  constructor
  case zero_iff =>
    intro a memberA b memberB
    obtain ⟨r, answer, zeroIff⟩ := zero_of_order (order a memberA b memberB)
    rw [answer, Option.some_inj]
    exact zeroIff
  case order => exact order
  case equality =>
    intro a memberA b memberB
    obtain ⟨r, answer, zeroIff⟩ := zero_of_order (order a memberA b memberB)
    rw [StringObject.eq, StringObject.ne, answer]
    constructor
    · exact congrArg some (decide_eq_decide.mpr zeroIff)
    · exact congrArg some (decide_eq_decide.mpr (not_congr zeroIff))
  case antisymmetric =>
    intro a memberA b memberB r answer
    exact antisymmetric_of_order (order a memberA b memberB) (order b memberB a memberA) answer
  case transitive =>
    intro a memberA b memberB c memberC r s first second below behind
    obtain ⟨_, found, left⟩ := exists_of_signOf (order a memberA b memberB)
    rw [first, Option.some_inj] at found
    subst found
    obtain ⟨_, found, right⟩ := exists_of_signOf (order b memberB c memberC)
    rw [second, Option.some_inj] at found
    subst found
    obtain ⟨t, answer, signs⟩ := exists_of_signOf (order a memberA c memberC)
    have lower := (stdCompare_byKey.le_iff a.bytes b.bytes).mp (by omega)
    have upper := (stdCompare_byKey.le_iff b.bytes c.bytes).mp (by omega)
    have together := (stdCompare_byKey.le_iff a.bytes c.bytes).mpr (lower.trans upper)
    exact ⟨t, answer, by omega⟩
  case uninitialized =>
    intro a memberA unset b memberB
    have nothing := StringObject.bytes_without_data (Or.inl unset)
    have forth := comparable a memberA b memberB
    have back := comparable b memberB a memberA
    rw [StringObject.Comparable, nothing] at forth back
    constructor
    · rw [order a memberA b memberB, nothing]
      refine ((StringObject.compare_sign_iff (.ofBytes []) b).mpr fun _ => ⟨forth.1, ?_⟩).symm
      exact fun noData => absurd noData (StringObject.not_noData_ofBytes [])
    · rw [order b memberB a memberA, nothing]
      exact ((StringObject.compare_sign_iff b (.ofBytes [])).mpr fun _ => back).symm
  case std =>
    intro a memberA b memberB
    rw [order a memberA b memberB]
    exact (a.compareStd_sign_iff b.bytes).mpr (comparable a memberA b memberB)

theorem comparesRight_iff (objects : Set StringObject) :
    ComparesRight objects ↔ ∀ a ∈ objects, ∀ b ∈ objects, a.Comparable b := by
  constructor
  · intro right a memberA b memberB
    have forth := (a.compare_sign_iff b).mp (right.order a memberA b memberB)
    have back := (b.compare_sign_iff a).mp (right.order b memberB a memberA)
    rcases b.cases_data with withoutB | dataB
    · have nothing := StringObject.bytes_without_data withoutB
      refine ⟨?_, fun _ => nothing⟩
      rcases a.cases_data with withoutA | dataA
      · rw [nothing]
        exact Or.inl (StringObject.bytes_without_data withoutA)
      · exact (back dataA).1.imp Eq.symm Ne.symm
    · exact forth dataB
  · exact comparesRight_of_order

/-- Two blobs that differ behind a NUL are equal to each other. -/
theorem blobs_compare_equal :
    (StringObject.ofBytes [97, 0, 98]).compare (StringObject.ofBytes [97, 0, 99]) = some 0 ∧
      ¬ ComparesRight
        {StringObject.ofBytes [97, 0, 98], StringObject.ofBytes [97, 0, 99]} := by
  have equal : (StringObject.ofBytes [97, 0, 98]).compare (StringObject.ofBytes [97, 0, 99]) =
      some 0 := by decide
  constructor
  · exact equal
  · intro right
    have same := (right.zero_iff _ (Or.inl rfl) _ (Or.inr rfl)).mp equal
    revert same
    decide

end LibTabula
