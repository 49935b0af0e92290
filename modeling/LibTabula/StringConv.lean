/-
`String::conv` for the integer types.

The content goes through a string stream with the classic locale: a number of a
type with 64 bits is extracted, what stands behind it is looked at, and the number
is narrowed to the type that was asked for. The extraction is that of the standard
library: it goes on to the end of the digits even when they are too many, stores
the nearest limit then, and takes a minus sign for an unsigned type as well.
-/

import LibTabula.Digits
import LibTabula.SsqlsCompare

set_option autoImplicit false

namespace LibTabula

open Query (isdigit atoi)

structure BadConversion where
  what : Bytes
  typeName : Bytes
  data : Bytes
  retrieved : Nat
  actualSize : Nat
deriving DecidableEq, Repr

/-- The constructor from a type's name and a C string. -/
def BadConversion.new (tn d : Bytes) (r a : Nat) : BadConversion :=
  { what := ascii "Bad type conversion: \"" ++ d ++ ascii "\" incompatible with \"" ++ tn ++
      ascii "\" type"
    typeName := tn
    data := d
    retrieved := r
    actualSize := a }

/-- A string stream that is read from. -/
structure StringStream where
  rest : Bytes
  eofbit : Bool
  failbit : Bool
deriving DecidableEq, Repr

/-- A number with its sign, as far as it goes, and what is behind it. -/
structure SignedDigits where
  negative : Bool
  digits : Bytes
  tail : Bytes
deriving DecidableEq, Repr

namespace SignedDigits

def scan : Bytes → SignedDigits
  | [] => { negative := false, digits := [], tail := [] }
  | c :: rest =>
      let unsigned := if c = byte '-' ∨ c = byte '+' then rest else c :: rest
      { negative := c = byte '-'
        digits := unsigned.takeWhile isdigit
        tail := unsigned.dropWhile isdigit }

def value (self : SignedDigits) : Int :=
  if self.negative then -(atoi self.digits : Int) else atoi self.digits

end SignedDigits

namespace StringStream

/-- The number as one of the 64-bit type. -/
def representable (signed : Bool) (number : SignedDigits) : Bool :=
  if signed then decide (-2 ^ 63 ≤ number.value ∧ number.value < 2 ^ 63)
  else decide (atoi number.digits < 2 ^ 64)

def limit (signed : Bool) (number : SignedDigits) : Int :=
  if signed then if number.negative then -2 ^ 63 else 2 ^ 63 - 1 else 2 ^ 64 - 1

/-- `buf >> num`, on a stream from which nothing was read. -/
def extractInteger (signed : Bool) (content : Bytes) : Int × StringStream :=
  match content.dropWhile isspace with
  | [] => (0, { rest := [], eofbit := true, failbit := true })
  | c :: rest =>
      let number := SignedDigits.scan (c :: rest)
      let ended := number.tail.isEmpty
      if number.digits = [] then
        (0, { rest := number.tail, eofbit := ended, failbit := true })
      else if representable signed number then
        (if signed then number.value else number.value % 2 ^ 64,
          { rest := number.tail, eofbit := ended, failbit := false })
      else
        (limit signed number, { rest := number.tail, eofbit := ended, failbit := true })

/-- `buf >> c`. -/
def extractChar (self : StringStream) (c : UInt8) : UInt8 × StringStream :=
  if self.eofbit || self.failbit then (c, { self with failbit := true })
  else
    match self.rest.dropWhile isspace with
    | [] => (c, { rest := [], eofbit := true, failbit := true })
    | next :: rest => (next, { self with rest := rest })

/-- `while (buf >> c && c == '0')`, on what is left in a good stream. -/
def spin : Bytes → UInt8 → UInt8 × StringStream
  | [], c => (c, { rest := [], eofbit := true, failbit := true })
  | next :: rest, c =>
      if isspace next then spin rest c
      else if next = byte '0' then spin rest next
      else (next, { rest := rest, eofbit := false, failbit := false })

/-- Behind a number there is nothing left, or only zeros after a decimal point. -/
def complete (self : StringStream) : Bool :=
  let (c, behind) := self.extractChar 0
  if behind.failbit then true
  else if c = byte '.' then
    let (last, ended) := spin behind.rest (byte '0')
    ended.eofbit && last = byte '0'
  else false

end StringStream

namespace IntType

/-- `conv_promotion`: whether the number goes through a signed type. `tiny_int` has no
`numeric_limits` of its own and counts as unsigned. -/
def promotesSigned : IntType → Bool
  | .signedChar | .signedShort | .signedInt | .signedLong | .longlong => true
  | .tinyint | .unsignedChar | .tinyintUnsigned | .unsignedShort | .unsignedInt
  | .unsignedLong | .ulonglong => false

/-- The conversion of a wider number, which keeps the low bits. -/
def narrow (self : IntType) (x : Int) : Int :=
  if self.signed then (x + 2 ^ (self.bits - 1)) % 2 ^ self.bits - 2 ^ (self.bits - 1)
  else x % 2 ^ self.bits

end IntType

namespace MyString

/-- `do_conv()`. -/
def doConv (self : MyString) (signed : Bool) (typeName : Bytes) : Except BadConversion Int :=
  match self.buffer with
  | none => .ok 0
  | some content =>
      let bad := BadConversion.new typeName (content.takeWhile (· ≠ 0)) 0 content.length
      let (num, buf) := StringStream.extractInteger signed content
      if buf.failbit then
        if buf.eofbit then .ok num else .error bad
      else if buf.complete then .ok num
      else .error bad

/-- `conv()`; `typeName` is what the compiler calls the type. -/
def conv (self : MyString) (typeName : IntType → Bytes) (type : IntType) :
    Except BadConversion Int :=
  (self.doConv type.promotesSigned (typeName type)).map type.narrow

end MyString

/-! ### What is expected -/

def AllSpace (text : Bytes) : Prop := ∀ c ∈ text, isspace c = true

def NumeralEnd (tail : Bytes) : Prop :=
  ∃ point after, tail = point ++ after ∧ AllSpace after ∧
    (point = [] ∨ ∃ zeros, point = byte '.' :: zeros ∧ ∀ c ∈ zeros, c = byte '0')

/-- White space, a sign or none, digits, perhaps a point with zeros, white space. -/
def Numeral (text : Bytes) (v : Int) : Prop :=
  ∃ before sign digits tail, text = before ++ (sign ++ (digits ++ tail)) ∧ AllSpace before ∧
    digits ≠ [] ∧ (∀ c ∈ digits, isdigit c = true) ∧ NumeralEnd tail ∧
    ((sign = [] ∨ sign = [byte '+']) ∧ v = atoi digits ∨
      sign = [byte '-'] ∧ v = -(atoi digits : Int))

/-- A blank content, or none, is 0, a numeral is its value if the type has it, and
anything else is not converted. -/
def ConvRight (self : MyString) (typeName : IntType → Bytes) (type : IntType) : Prop :=
  ∀ v, self.conv typeName type = .ok v ↔
    AllSpace (self.buffer.getD []) ∧ v = 0 ∨ Numeral (self.buffer.getD []) v ∧ type.InRange v

theorem isspace_of_isdigit {c : UInt8} (digit : isdigit c = true) : isspace c = false := by
  rw [isdigit, Bool.and_eq_true, decide_eq_true_iff, decide_eq_true_iff,
    UInt8.le_iff_toNat_le, UInt8.le_iff_toNat_le] at digit
  have low : (byte '0').toNat = 48 := rfl
  have high : (byte '9').toNat = 57 := rfl
  rw [isspace, Bool.or_eq_false_iff, Bool.and_eq_false_iff, decide_eq_false_iff_not,
    decide_eq_false_iff_not, decide_eq_false_iff_not, UInt8.le_iff_toNat_le,
    UInt8.le_iff_toNat_le]
  have thirteen : (13 : UInt8).toNat = 13 := rfl
  constructor
  · intro same
    subst same
    have blank : (byte ' ').toNat = 32 := rfl
    omega
  · exact Or.inr (by omega)

theorem isdigit_of_isspace {c : UInt8} (space : isspace c = true) : isdigit c = false := by
  cases digit : isdigit c with
  | false => rfl
  | true =>
      rw [isspace_of_isdigit digit] at space
      cases space

theorem ne_of_isdigit {c other : UInt8} (digit : isdigit c = true)
    (notDigit : isdigit other = false) : c ≠ other := by
  intro same
  subst same
  rw [notDigit] at digit
  cases digit

/-! ### What stands behind the digits -/

/-- The point and the zeros with white space anywhere. -/
def Loose (tail : Bytes) : Prop :=
  AllSpace tail ∨ ∃ space rest, tail = space ++ byte '.' :: rest ∧ AllSpace space ∧
    ∀ c ∈ rest, isspace c = true ∨ c = byte '0'

theorem dropWhile_isspace_eq_nil_iff (text : Bytes) :
    text.dropWhile isspace = [] ↔ AllSpace text :=
  List.dropWhile_eq_nil_iff

theorem dropWhile_isspace_append {space rest : Bytes} (blank : AllSpace space) {c : UInt8}
    (notSpace : isspace c = false) : (space ++ c :: rest).dropWhile isspace = c :: rest := by
  rw [List.dropWhile_append_of_pos blank, List.dropWhile_cons_of_neg (by rw [notSpace]; decide)]

theorem NumeralEnd.loose {tail : Bytes} (ending : NumeralEnd tail) : Loose tail := by
  obtain ⟨point, after, rfl, blank, rfl | ⟨zeros, rfl, allZero⟩⟩ := ending
  · exact Or.inl blank
  · refine Or.inr ⟨[], zeros ++ after, rfl, List.forall_mem_nil _, ?_⟩
    intro c member
    rcases List.mem_append.mp member with zero | space
    · exact Or.inr (allZero c zero)
    · exact Or.inl (blank c space)

theorem spin_ends_iff (rest : Bytes) :
    ((StringStream.spin rest (byte '0')).2.eofbit &&
        (StringStream.spin rest (byte '0')).1 = byte '0') = true ↔
      ∀ c ∈ rest, isspace c = true ∨ c = byte '0' := by
  induction rest with
  | nil => exact ⟨fun _ => List.forall_mem_nil _, fun _ => rfl⟩
  | cons next rest ih =>
      rw [StringStream.spin, List.forall_mem_cons]
      by_cases space : isspace next = true
      · rw [if_pos space, ih]
        exact ⟨fun all => ⟨Or.inl space, all⟩, fun all => all.2⟩
      · rw [if_neg space]
        by_cases zero : next = byte '0'
        · rw [if_pos zero, zero, ih]
          exact ⟨fun all => ⟨Or.inr rfl, all⟩, fun all => all.2⟩
        · rw [if_neg zero]
          constructor
          · intro impossible
            cases impossible
          · intro both
            obtain ⟨isSpace | isZero, _⟩ := both
            · exact absurd isSpace space
            · exact absurd isZero zero

theorem loose_iff_of_dropWhile {tail : Bytes} {c : UInt8} {rest : Bytes}
    (behind : tail.dropWhile isspace = c :: rest) :
    Loose tail ↔ c = byte '.' ∧ ∀ next ∈ rest, isspace next = true ∨ next = byte '0' := by
  constructor
  · rintro (blank | ⟨space, zeros, rfl, blank, all⟩)
    · rw [(dropWhile_isspace_eq_nil_iff tail).mpr blank] at behind
      cases behind
    · rw [dropWhile_isspace_append blank (by decide)] at behind
      obtain ⟨rfl, rfl⟩ := List.cons.inj behind
      exact ⟨rfl, all⟩
  · intro both
    obtain ⟨rfl, all⟩ := both
    refine Or.inr ⟨tail.takeWhile isspace, rest, ?_, ?_, all⟩
    · rw [← behind, List.takeWhile_append_dropWhile]
    · exact fun c member => List.mem_takeWhile_imp member

theorem complete_iff (tail : Bytes) :
    StringStream.complete { rest := tail, eofbit := tail.isEmpty, failbit := false } = true ↔
      Loose tail := by
  cases tail with
  | nil => exact ⟨fun _ => Or.inl (List.forall_mem_nil _), fun _ => rfl⟩
  | cons first more =>
      cases behind : (first :: more).dropWhile isspace with
      | nil =>
          have blank := (dropWhile_isspace_eq_nil_iff _).mp behind
          refine ⟨fun _ => Or.inl blank, fun _ => ?_⟩
          simp only [StringStream.complete, StringStream.extractChar, List.isEmpty_cons,
            Bool.or_self, Bool.false_eq_true, if_false, behind, if_true]
      | cons c rest =>
          rw [loose_iff_of_dropWhile behind, ← spin_ends_iff]
          simp only [StringStream.complete, StringStream.extractChar, List.isEmpty_cons,
            Bool.or_self, Bool.false_eq_true, if_false, behind]
          by_cases point : c = byte '.'
          · rw [if_pos point]
            exact ⟨fun ends => ⟨point, ends⟩, fun both => both.2⟩
          · rw [if_neg point]
            exact iff_of_false Bool.false_ne_true fun both => point both.1

/-! ### Numerals -/

theorem NumeralEnd.span {tail : Bytes} (ending : NumeralEnd tail) :
    tail.takeWhile isdigit = [] ∧ tail.dropWhile isdigit = tail := by
  have first : ∀ c rest, tail = c :: rest → isdigit c = false := by
    rintro c rest rfl
    obtain ⟨point, after, split, blank, rfl | ⟨zeros, rfl, _⟩⟩ := ending
    · rw [List.nil_append] at split
      exact isdigit_of_isspace (blank c (split ▸ List.mem_cons_self))
    · obtain ⟨rfl, _⟩ := List.cons.inj split
      decide
  cases tail with
  | nil => exact ⟨rfl, rfl⟩
  | cons c rest =>
      have notDigit := first c rest rfl
      exact ⟨List.takeWhile_cons_of_neg (by rw [notDigit]; decide),
        List.dropWhile_cons_of_neg (by rw [notDigit]; decide)⟩

theorem span_digits {digits tail : Bytes} (allDigits : ∀ c ∈ digits, isdigit c = true)
    (ending : NumeralEnd tail) :
    (digits ++ tail).takeWhile isdigit = digits ∧ (digits ++ tail).dropWhile isdigit = tail := by
  rw [List.takeWhile_append_of_pos allDigits, List.dropWhile_append_of_pos allDigits,
    ending.span.1, ending.span.2, List.append_nil]
  exact ⟨rfl, rfl⟩

namespace SignedDigits

theorem scan_minus (rest : Bytes) : scan (byte '-' :: rest) =
    { negative := true, digits := rest.takeWhile isdigit, tail := rest.dropWhile isdigit } :=
  rfl

theorem scan_plus (rest : Bytes) : scan (byte '+' :: rest) =
    { negative := false, digits := rest.takeWhile isdigit, tail := rest.dropWhile isdigit } :=
  rfl

theorem scan_unsigned {c : UInt8} (rest : Bytes) (noSign : ¬ (c = byte '-' ∨ c = byte '+')) :
    scan (c :: rest) =
      { negative := false
        digits := (c :: rest).takeWhile isdigit
        tail := (c :: rest).dropWhile isdigit } := by
  rw [scan, if_neg noSign, decide_eq_false fun minus => noSign (Or.inl minus)]

end SignedDigits

/-- A numeral is found by passing over white space, a sign and the digits. -/
theorem numeral_iff {text : Bytes} {c : UInt8} {rest : Bytes}
    (body : text.dropWhile isspace = c :: rest) (v : Int) :
    Numeral text v ↔
      (SignedDigits.scan (c :: rest)).digits ≠ [] ∧
        NumeralEnd (SignedDigits.scan (c :: rest)).tail ∧
        v = (SignedDigits.scan (c :: rest)).value := by
  constructor
  · intro found
    obtain ⟨before, sign, digits, tail, rfl, blank, some, allDigits, ending, valued⟩ := found
    obtain ⟨taken, dropped⟩ := span_digits allDigits ending
    obtain ⟨first, more, rfl⟩ := List.exists_cons_of_ne_nil some
    have firstDigit := allDigits first List.mem_cons_self
    rcases valued with ⟨rfl | rfl, rfl⟩ | ⟨rfl, rfl⟩
    · rw [List.nil_append, List.cons_append,
        dropWhile_isspace_append blank (isspace_of_isdigit firstDigit)] at body
      obtain ⟨rfl, rfl⟩ := List.cons.inj body
      have noSign : ¬ (first = byte '-' ∨ first = byte '+') := by
        intro either
        rcases either with minus | plus
        · exact ne_of_isdigit firstDigit (by decide) minus
        · exact ne_of_isdigit firstDigit (by decide) plus
      rw [SignedDigits.scan_unsigned _ noSign, ← List.cons_append, taken, dropped]
      exact ⟨some, ending, rfl⟩
    · rw [List.singleton_append, dropWhile_isspace_append blank (by decide)] at body
      obtain ⟨rfl, rfl⟩ := List.cons.inj body
      rw [SignedDigits.scan_plus, taken, dropped]
      exact ⟨some, ending, rfl⟩
    · rw [List.singleton_append, dropWhile_isspace_append blank (by decide)] at body
      obtain ⟨rfl, rfl⟩ := List.cons.inj body
      rw [SignedDigits.scan_minus, taken, dropped]
      exact ⟨some, ending, rfl⟩
  · intro found
    obtain ⟨some, ending, rfl⟩ := found
    have split : text = text.takeWhile isspace ++ (c :: rest) := by
      rw [← body, List.takeWhile_append_dropWhile]
    have blank : AllSpace (text.takeWhile isspace) := fun _ member => List.mem_takeWhile_imp member
    have digits : ∀ unsigned : Bytes, ∀ d ∈ unsigned.takeWhile isdigit, isdigit d = true :=
      fun _ _ member => List.mem_takeWhile_imp member
    by_cases minus : c = byte '-'
    · subst minus
      rw [SignedDigits.scan_minus] at some ending ⊢
      refine ⟨_, [byte '-'], _, _, ?_, blank, some, digits rest, ending, Or.inr ⟨rfl, rfl⟩⟩
      rw [List.takeWhile_append_dropWhile]
      exact split
    by_cases plus : c = byte '+'
    · subst plus
      rw [SignedDigits.scan_plus] at some ending ⊢
      refine ⟨_, [byte '+'], _, _, ?_, blank, some, digits rest, ending,
        Or.inl ⟨Or.inr rfl, rfl⟩⟩
      rw [List.takeWhile_append_dropWhile]
      exact split
    · have noSign : ¬ (c = byte '-' ∨ c = byte '+') := fun sign => sign.elim minus plus
      rw [SignedDigits.scan_unsigned rest noSign] at some ending ⊢
      refine ⟨_, [], _, _, ?_, blank, some, digits (c :: rest), ending,
        Or.inl ⟨Or.inl rfl, rfl⟩⟩
      rw [List.nil_append, List.takeWhile_append_dropWhile]
      exact split

theorem not_numeral_of_blank {text : Bytes} (blank : AllSpace text) (v : Int) :
    ¬ Numeral text v := by
  intro found
  obtain ⟨before, sign, digits, tail, rfl, _, some, allDigits, _, _⟩ := found
  obtain ⟨first, more, rfl⟩ := List.exists_cons_of_ne_nil some
  have space := blank first (by simp)
  rw [isspace_of_isdigit (allDigits first List.mem_cons_self)] at space
  cases space

/-! ### The two types a number goes through -/

theorem SignedDigits.value_cases (number : SignedDigits) :
    number.value = atoi number.digits ∨ number.value = -(atoi number.digits : Int) := by
  obtain ⟨negative, digits, tail⟩ := number
  cases negative with
  | false => exact Or.inl rfl
  | true => exact Or.inr rfl

theorem representable_of_inRange {type : IntType} {number : SignedDigits}
    (within : type.InRange number.value) :
    StringStream.representable type.promotesSigned number = true := by
  have size := number.value_cases
  unfold StringStream.representable
  cases type <;>
    simp only [IntType.InRange, IntType.signed, IntType.bits, IntType.promotesSigned, if_true,
      Bool.false_eq_true, if_false, decide_eq_true_eq] at within ⊢ <;> omega

theorem not_inRange_of_overflow {type : IntType} {number : SignedDigits}
    (overflow : StringStream.representable type.promotesSigned number = false) :
    ¬ type.InRange number.value := by
  intro within
  rw [representable_of_inRange within] at overflow
  cases overflow

/-- What is extracted narrows to the value, if the type has it. -/
theorem narrow_of_inRange {type : IntType} {v : Int} (within : type.InRange v) :
    type.narrow (if type.promotesSigned then v else v % 2 ^ 64) = v := by
  cases type <;>
    simp only [IntType.InRange, IntType.signed, IntType.bits, IntType.promotesSigned, if_true,
      Bool.false_eq_true, if_false, IntType.narrow] at within ⊢ <;> omega

theorem narrow_zero (type : IntType) : type.narrow 0 = 0 := by
  cases type <;> decide

/-! ### When the conversion is right -/

/-- The content is blank; or else it is not a sign alone that ends it, and if digits are
followed by nothing, or are a number of the 64-bit type and are followed by white space
or by a point with zeros and white space, then it is a numeral, with the white space at
its end, and its value is one of the type. -/
def ConvAllowed (type : IntType) (content : Bytes) : Prop :=
  ∀ c rest, content.dropWhile isspace = c :: rest →
    ((SignedDigits.scan (c :: rest)).digits = [] →
      (SignedDigits.scan (c :: rest)).tail ≠ []) ∧
    ((SignedDigits.scan (c :: rest)).digits ≠ [] →
      Loose (SignedDigits.scan (c :: rest)).tail →
      StringStream.representable type.promotesSigned (SignedDigits.scan (c :: rest)) = true ∨
        (SignedDigits.scan (c :: rest)).tail = [] →
      NumeralEnd (SignedDigits.scan (c :: rest)).tail ∧
        type.InRange (SignedDigits.scan (c :: rest)).value)

section Outcomes

variable (typeName : IntType → Bytes) (type : IntType)

theorem conv_of_blank {self : MyString} (blank : AllSpace (self.buffer.getD [])) :
    self.conv typeName type = .ok 0 := by
  obtain ⟨buffer⟩ := self
  cases buffer with
  | none => exact congrArg Except.ok (narrow_zero type)
  | some content =>
      have nothing := (dropWhile_isspace_eq_nil_iff content).mpr blank
      simp only [MyString.conv, MyString.doConv, StringStream.extractInteger, nothing, if_true]
      exact congrArg Except.ok (narrow_zero type)

/-- What becomes of a content that is not blank, by the number it begins with. -/
inductive Converts (number : SignedDigits) : Except BadConversion Int → Prop
  | signAlone (none : number.digits = []) (ended : number.tail = []) :
      Converts number (.ok 0)
  | noNumber (bad : BadConversion) (none : number.digits = []) (goesOn : number.tail ≠ []) :
      Converts number (.error bad)
  | converted (some : number.digits ≠ [])
      (fits : StringStream.representable type.promotesSigned number = true)
      (loose : Loose number.tail) :
      Converts number (.ok (type.narrow
        (if type.promotesSigned then number.value else number.value % 2 ^ 64)))
  | garbage (bad : BadConversion) (some : number.digits ≠ [])
      (fits : StringStream.representable type.promotesSigned number = true)
      (notLoose : ¬ Loose number.tail) : Converts number (.error bad)
  | limit (some : number.digits ≠ [])
      (overflow : StringStream.representable type.promotesSigned number = false)
      (ended : number.tail = []) :
      Converts number (.ok (type.narrow (StringStream.limit type.promotesSigned number)))
  | overflow (bad : BadConversion) (some : number.digits ≠ [])
      (overflow : StringStream.representable type.promotesSigned number = false)
      (goesOn : number.tail ≠ []) : Converts number (.error bad)

/-- What is made of the number and of the state the stream is left in. -/
theorem conv_of_extracted {content : Bytes} {num : Int} {buf : StringStream}
    (extracted : StringStream.extractInteger type.promotesSigned content = (num, buf)) :
    ∃ bad, (MyString.mk (some content)).conv typeName type =
      if buf.failbit then if buf.eofbit then .ok (type.narrow num) else .error bad
      else if buf.complete then .ok (type.narrow num) else .error bad := by
  refine ⟨BadConversion.new (typeName type) (content.takeWhile (· ≠ 0)) 0 content.length, ?_⟩
  simp only [MyString.conv, MyString.doConv, extracted]
  split_ifs <;> rfl

theorem conv_converts {content : Bytes} {c : UInt8} {rest : Bytes}
    (body : content.dropWhile isspace = c :: rest) :
    Converts type (SignedDigits.scan (c :: rest))
      ((MyString.mk (some content)).conv typeName type) := by
  by_cases none : (SignedDigits.scan (c :: rest)).digits = []
  · have extracted : StringStream.extractInteger type.promotesSigned content =
        (0, { rest := (SignedDigits.scan (c :: rest)).tail
              eofbit := (SignedDigits.scan (c :: rest)).tail.isEmpty
              failbit := true }) := by
      simp only [StringStream.extractInteger, body, none, if_true]
    obtain ⟨bad, answer⟩ := conv_of_extracted typeName type extracted
    rw [answer, if_pos rfl]
    by_cases ended : (SignedDigits.scan (c :: rest)).tail = []
    · rw [if_pos (List.isEmpty_iff.mpr ended), narrow_zero]
      exact .signAlone none ended
    · rw [if_neg (mt List.isEmpty_iff.mp ended)]
      exact .noNumber bad none ended
  cases fits : StringStream.representable type.promotesSigned
      (SignedDigits.scan (c :: rest)) with
  | true =>
      have extracted : StringStream.extractInteger type.promotesSigned content =
          (if type.promotesSigned then (SignedDigits.scan (c :: rest)).value
            else (SignedDigits.scan (c :: rest)).value % 2 ^ 64,
            { rest := (SignedDigits.scan (c :: rest)).tail
              eofbit := (SignedDigits.scan (c :: rest)).tail.isEmpty
              failbit := false }) := by
        simp only [StringStream.extractInteger, body, if_neg none, fits, if_true]
      obtain ⟨bad, answer⟩ := conv_of_extracted typeName type extracted
      have completes := complete_iff (SignedDigits.scan (c :: rest)).tail
      rw [answer, if_neg Bool.false_ne_true]
      by_cases loose : Loose (SignedDigits.scan (c :: rest)).tail
      · rw [if_pos (completes.mpr loose)]
        exact .converted none fits loose
      · rw [if_neg (mt completes.mp loose)]
        exact .garbage bad none fits loose
  | false =>
      have extracted : StringStream.extractInteger type.promotesSigned content =
          (StringStream.limit type.promotesSigned (SignedDigits.scan (c :: rest)),
            { rest := (SignedDigits.scan (c :: rest)).tail
              eofbit := (SignedDigits.scan (c :: rest)).tail.isEmpty
              failbit := true }) := by
        simp only [StringStream.extractInteger, body, if_neg none, fits, Bool.false_eq_true,
          if_false]
      obtain ⟨bad, answer⟩ := conv_of_extracted typeName type extracted
      rw [answer, if_pos rfl]
      by_cases ended : (SignedDigits.scan (c :: rest)).tail = []
      · rw [if_pos (List.isEmpty_iff.mpr ended)]
        exact .limit none fits ended
      · rw [if_neg (mt List.isEmpty_iff.mp ended)]
        exact .overflow bad none fits ended

variable {type} in
/-- One case for each way through the conversion: only the two that return a number can
be wrong, and those that take something for a number that is none. -/
theorem right_iff_of_converts {number : SignedDigits} {result : Except BadConversion Int}
    (outcome : Converts type number result) :
    (∀ v, result = .ok v ↔
        number.digits ≠ [] ∧ NumeralEnd number.tail ∧ v = number.value ∧ type.InRange v) ↔
      (number.digits = [] → number.tail ≠ []) ∧
        (number.digits ≠ [] → Loose number.tail →
          StringStream.representable type.promotesSigned number = true ∨ number.tail = [] →
          NumeralEnd number.tail ∧ type.InRange number.value) := by
  cases outcome with
  | signAlone none ended =>
      constructor
      · intro right
        exact absurd none ((right 0).mp rfl).1
      · intro allowed
        exact absurd ended (allowed.1 none)
  | noNumber bad none goesOn =>
      constructor
      · intro _
        exact ⟨fun _ => goesOn, fun some => absurd none some⟩
      · intro _ v
        exact ⟨nofun, fun expected => absurd none expected.1⟩
  | converted some fits loose =>
      constructor
      · intro right
        obtain ⟨_, ending, same, within⟩ := (right _).mp rfl
        rw [same] at within
        exact ⟨fun none => absurd none some, fun _ _ _ => ⟨ending, within⟩⟩
      · intro allowed v
        obtain ⟨ending, within⟩ := allowed.2 some loose (Or.inl fits)
        rw [narrow_of_inRange within]
        constructor
        · intro same
          rw [← Except.ok.inj same]
          exact ⟨some, ending, rfl, within⟩
        · intro expected
          exact congrArg Except.ok expected.2.2.1.symm
  | garbage bad some fits notLoose =>
      constructor
      · intro _
        exact ⟨fun none => absurd none some, fun _ loose => absurd loose notLoose⟩
      · intro _ v
        exact ⟨nofun, fun expected => absurd expected.2.1.loose notLoose⟩
  | limit some overflow ended =>
      have outside := not_inRange_of_overflow overflow
      constructor
      · intro right
        obtain ⟨_, _, same, within⟩ := (right _).mp rfl
        rw [same] at within
        exact absurd within outside
      · intro allowed
        have loose : Loose number.tail := by
          rw [ended]
          exact Or.inl (List.forall_mem_nil _)
        exact absurd (allowed.2 some loose (Or.inr ended)).2 outside
  | overflow bad some overflow goesOn =>
      have outside := not_inRange_of_overflow overflow
      constructor
      · intro _
        refine ⟨fun none => absurd none some, fun _ _ either => ?_⟩
        rcases either with fits | ended
        · rw [fits] at overflow
          cases overflow
        · exact absurd ended goesOn
      · intro _ v
        refine ⟨nofun, fun expected => absurd ?_ outside⟩
        rw [← expected.2.2.1]
        exact expected.2.2.2

end Outcomes

/-- For every content, or none, and every integer type. -/
theorem convRight_iff (typeName : IntType → Bytes) (type : IntType) (self : MyString) :
    ConvRight self typeName type ↔ ConvAllowed type (self.buffer.getD []) := by
  by_cases blank : AllSpace (self.buffer.getD [])
  · have nothing := (dropWhile_isspace_eq_nil_iff _).mpr blank
    constructor
    · intro _ c rest body
      rw [nothing] at body
      cases body
    · intro _ v
      rw [conv_of_blank typeName type blank]
      constructor
      · intro zero
        exact Or.inl ⟨blank, (Except.ok.inj zero).symm⟩
      · rintro (⟨_, rfl⟩ | ⟨numeral, _⟩)
        · rfl
        · exact absurd numeral (not_numeral_of_blank blank v)
  · cases body : (self.buffer.getD []).dropWhile isspace with
    | nil => exact absurd ((dropWhile_isspace_eq_nil_iff _).mp body) blank
    | cons c rest =>
        obtain ⟨buffer⟩ := self
        cases buffer with
        | none => cases body
        | some content =>
            have right := right_iff_of_converts (conv_converts typeName type body)
            constructor
            · intro expected d more found
              rw [body] at found
              obtain ⟨rfl, rfl⟩ := List.cons.inj found
              refine right.mp fun v => (expected v).trans ?_
              rw [numeral_iff body]
              exact ⟨fun either => either.elim (fun both => absurd both.1 blank)
                  fun both => ⟨both.1.1, both.1.2.1, both.1.2.2, both.2⟩,
                fun all => Or.inr ⟨⟨all.1, all.2.1, all.2.2.1⟩, all.2.2.2⟩⟩
            · intro allowed v
              refine (right.mpr (allowed c rest body) v).trans ?_
              rw [numeral_iff body]
              exact ⟨fun all => Or.inr ⟨⟨all.1, all.2.1, all.2.2.1⟩, all.2.2.2⟩,
                fun either => either.elim (fun both => absurd both.1 blank)
                  fun both => ⟨both.1.1, both.1.2.1, both.1.2.2, both.2⟩⟩

/-- 3000000000 is not an `int`, and what is returned is 2^32 less. -/
theorem large_number_narrowed :
    (MyString.mk (some (ascii "3000000000"))).conv (fun _ => ascii "i") .signedInt =
        .ok (-1294967296) ∧
      ¬ ConvRight (MyString.mk (some (ascii "3000000000"))) (fun _ => ascii "i")
        .signedInt := by
  have narrowed : (MyString.mk (some (ascii "3000000000"))).conv (fun _ => ascii "i")
      .signedInt = .ok (-1294967296) := by decide
  constructor
  · exact narrowed
  · intro right
    rcases (right _).mp narrowed with ⟨_, zero⟩ | ⟨numeral, _⟩
    · cases zero
    · have body : (ascii "3000000000").dropWhile isspace = byte '3' :: ascii "000000000" := by
        decide
      obtain ⟨_, _, value⟩ := (numeral_iff body _).mp numeral
      revert value
      decide

end LibTabula
