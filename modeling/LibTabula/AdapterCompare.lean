/-
`SQLTypeAdapter::compare()` and `at()`.

An adapter is compared with another, or with a C++ string, by as many bytes as it has
itself. What has no buffer is below everything that has one; a buffer without data is
told apart from both by the null pointer that its data is.
-/

import LibTabula.StringCompare
import LibTabula.TypeAdapter

set_option autoImplicit false

namespace LibTabula

open Foundation Foundation.ThreeWay

structure BadIndex where
  what : Bytes
deriving DecidableEq, Repr

def intText (n : Int) : Bytes :=
  if n < 0 then byte '-' :: (Decimal.digits n.natAbs).map digitChar
  else (Decimal.digits n.natAbs).map digitChar

def BadIndex.new (what : Bytes) (badIndex maxIndex : Int) : BadIndex :=
  { what := ascii "Index " ++ intText badIndex ++ ascii " on " ++ what ++
      ascii " out of range, max legal index is " ++ intText maxIndex }

/-- `SQLTypeAdapter`, with the pointer to its data as it is. -/
structure AdapterObject where
  buffer : Option RawBuffer
deriving DecidableEq, Repr

namespace AdapterObject

def length (self : AdapterObject) : Nat :=
  match self.buffer with
  | some buffer => buffer.length
  | none => 0

/-- `compare(pos, num, other)`. -/
def compareFrom (self : AdapterObject) (pos num : Nat) (other : Option Bytes) : Option Int :=
  match self.buffer, other with
  | some buffer, some other => buffer.strncmpFrom pos other num
  | _, none => some 1
  | none, some _ => some (-1)

def compare (self other : AdapterObject) : Option Int :=
  match other.buffer with
  | some buffer => self.compareFrom 0 self.length buffer.data
  | none => some (if self.buffer.isSome then 1 else 0)

/-- `compare(const std::string&)`. -/
def compareStd (self : AdapterObject) (other : Bytes) : Option Int :=
  self.compareFrom 0 self.length (some other)

/-- `at()`, or nothing if it reads through a null pointer. Behind a text is its NUL. -/
def charAt (self : AdapterObject) (i : Nat) : Option (Except BadIndex UInt8) :=
  match self.buffer with
  | some buffer =>
      if i ≤ self.length then buffer.data.map fun text => .ok (text.getD i 0)
      else
        some (.error (BadIndex.new (ascii "Not enough chars in SQLTypeAdapter") (toInt32 i)
          (toInt32 self.length)))
  | none =>
      some (.error (BadIndex.new (ascii "SQLTypeAdapter buffer not initialized") (toInt32 i) (-1)))

/-- The bytes it holds, which are none without a buffer or without data. -/
def bytes (self : AdapterObject) : Bytes := (self.buffer.bind RawBuffer.data).getD []

def ofBytes (text : Bytes) : AdapterObject := { buffer := some { data := some text } }

end AdapterObject

/-! ### What is expected -/

/-- These adapters, read at these indices, are like strings of their bytes. -/
structure WorksAsString (objects : Set AdapterObject) (indices : Set Nat) : Prop where
  order : ∀ a ∈ objects, ∀ b ∈ objects,
    signOf (a.compare b) = some (stdCompare a.bytes b.bytes).sign
  zero_iff : ∀ a ∈ objects, ∀ b ∈ objects, a.compare b = some 0 ↔ a.bytes = b.bytes
  antisymmetric : ∀ a ∈ objects, ∀ b ∈ objects, ∀ r, a.compare b = some r →
    ∃ s, b.compare a = some s ∧ s.sign = -r.sign
  properPrefix : ∀ a ∈ objects, ∀ b ∈ objects, a.bytes <+: b.bytes → a.bytes ≠ b.bytes →
    ∃ r, a.compare b = some r ∧ r < 0
  inside : ∀ a ∈ objects, ∀ i ∈ indices, ∀ c, a.bytes[i]? = some c → a.charAt i = some (.ok c)
  outside : ∀ a ∈ objects, ∀ i ∈ indices, a.bytes[i]? = none →
    ∃ thrown, a.charAt i = some (.error thrown)

/-- A text can be told from another by its own length: it has a NUL and the texts before
the NUL differ, or it has none and the other one does not go on from it. -/
def Tells (a b : Bytes) : Prop :=
  a = b ∨ 0 ∈ a ∧ beforeNul a ≠ beforeNul b ∨ 0 ∉ a ∧ ¬ a <+: b

def AdapterObject.Comparable (a b : AdapterObject) : Prop :=
  match a.buffer, b.buffer with
  | none, none => True
  | some ⟨some text⟩, some ⟨some other⟩ => Tells text other
  | some ⟨some text⟩, none | some ⟨some text⟩, some ⟨none⟩ => text ≠ []
  | none, some ⟨some other⟩ => other ≠ []
  | some ⟨none⟩, some ⟨some other⟩ => other = []
  | none, some ⟨none⟩ | some ⟨none⟩, none | some ⟨none⟩, some ⟨none⟩ => False

/-! ### Comparing -/

theorem tells_iff (a b : Bytes) :
    Tells a b ↔ a = b ∨ beforeNul a ≠ beforeNul (b.take a.length) := by
  rw [Tells, beforeNul, beforeNul, beforeNul, ne_eq, ne_eq, Terminated.upTo_eq_upTo_take_iff]
  by_cases nul : 0 ∈ a
  · rw [and_iff_right nul, and_iff_right nul]
    simp only [nul, not_true_eq_false, false_and, or_false]
  · simp only [nul, false_and, false_or, not_false_eq_true, true_and]

/-- Each pair of an adapter without a buffer, without data or with it. -/
theorem AdapterObject.compare_sign_iff (a b : AdapterObject) :
    signOf (a.compare b) = some (stdCompare a.bytes b.bytes).sign ↔ a.Comparable b := by
  obtain ⟨_ | ⟨_ | text⟩⟩ := a
  · obtain ⟨_ | ⟨_ | other⟩⟩ := b
    · exact iff_of_true rfl trivial
    · exact iff_of_false (by decide) id
    · change some (-1 : Int).sign = some (stdCompare [] other).sign ↔ other ≠ []
      rw [stdCompare_nil_left]
      cases other with
      | nil => exact iff_of_false (by decide) (fun some => some rfl)
      | cons c rest => exact iff_of_true rfl (List.cons_ne_nil c rest)
  · obtain ⟨_ | ⟨_ | other⟩⟩ := b
    · exact iff_of_false (by decide) id
    · exact iff_of_false (by decide) id
    · change some (0 : Int).sign = some (stdCompare [] other).sign ↔ other = []
      rw [stdCompare_nil_left]
      cases other with
      | nil => exact iff_of_true rfl rfl
      | cons c rest => exact iff_of_false (by simp) (List.cons_ne_nil c rest)
  · have above : some (1 : Int).sign = some (stdCompare text []).sign ↔ text ≠ [] := by
      rw [stdCompare_nil_right]
      cases text with
      | nil => exact iff_of_false (by decide) (fun some => some rfl)
      | cons c rest => exact iff_of_true rfl (List.cons_ne_nil c rest)
    obtain ⟨_ | ⟨_ | other⟩⟩ := b
    · exact above
    · exact above
    · change some (strncmp text other text.length).sign = some (stdCompare text other).sign ↔
        Tells text other
      rw [Option.some_inj, strncmp_sign_iff (Nat.le_refl _), tells_iff]

theorem stdCompare_of_prefix {a b : Bytes} (begins : a <+: b) (different : a ≠ b) :
    stdCompare a b < 0 := by
  induction a generalizing b with
  | nil =>
      cases b with
      | nil => exact absurd rfl different
      | cons d rest => exact Int.negSucc_lt_zero 0
  | cons c more ih =>
      cases b with
      | nil => exact absurd (List.prefix_nil.mp begins) (List.cons_ne_nil c more)
      | cons d rest =>
          obtain ⟨rfl, further⟩ := List.cons_prefix_cons.mp begins
          rw [stdCompare, if_pos rfl]
          exact ih further fun same => different (congrArg (List.cons c) same)

/-! ### One byte -/

theorem AdapterObject.charAt_iff (self : AdapterObject) (i : Nat) :
    (∀ c, self.bytes[i]? = some c → self.charAt i = some (.ok c)) ∧
        (self.bytes[i]? = none → ∃ thrown, self.charAt i = some (.error thrown)) ↔
      self.buffer = none ∨ i ≠ self.length := by
  obtain ⟨_ | ⟨_ | text⟩⟩ := self
  · exact iff_of_true ⟨nofun, fun _ => ⟨_, rfl⟩⟩ (Or.inl rfl)
  · cases i with
    | zero =>
        refine iff_of_false (fun both => ?_) (fun either => either.elim nofun fun n => n rfl)
        obtain ⟨thrown, answer⟩ := both.2 rfl
        cases answer
    | succ i => exact iff_of_true ⟨nofun, fun _ => ⟨_, rfl⟩⟩ (Or.inr (Nat.succ_ne_zero i))
  · have answer : (AdapterObject.ofBytes text).charAt i =
        if i ≤ text.length then some (.ok (text.getD i 0))
        else some (.error (BadIndex.new (ascii "Not enough chars in SQLTypeAdapter")
          (toInt32 i) (toInt32 text.length))) := rfl
    change (∀ c, text[i]? = some c → (AdapterObject.ofBytes text).charAt i = some (.ok c)) ∧
        (text[i]? = none → ∃ thrown,
          (AdapterObject.ofBytes text).charAt i = some (.error thrown)) ↔
      some (RawBuffer.mk (some text)) = none ∨ i ≠ text.length
    rw [answer]
    rcases Nat.lt_trichotomy i text.length with inside | same | beyond
    · rw [if_pos inside.le]
      refine iff_of_true ⟨fun c found => ?_, fun missing => ?_⟩ (Or.inr inside.ne)
      · rw [List.getD_eq_getElem?_getD, found]
        rfl
      · exact absurd (List.getElem?_eq_none_iff.mp missing) (Nat.not_le.mpr inside)
    · rw [if_pos same.le]
      refine iff_of_false (fun both => ?_) (fun either => either.elim nofun fun n => n same)
      obtain ⟨thrown, answered⟩ := both.2 (List.getElem?_eq_none_iff.mpr same.ge)
      cases answered
    · rw [if_neg (Nat.not_le.mpr beyond)]
      refine iff_of_true ⟨fun c found => ?_, fun _ => ⟨_, rfl⟩⟩ (Or.inr beyond.ne')
      rw [List.getElem?_eq_none_iff.mpr beyond.le] at found
      cases found

/-- For every set of adapters, in each order, and every set of indices. -/
theorem worksAsString_iff (objects : Set AdapterObject) (indices : Set Nat) :
    WorksAsString objects indices ↔
      (∀ a ∈ objects, ∀ b ∈ objects, a.Comparable b) ∧
        ∀ a ∈ objects, ∀ i ∈ indices, a.buffer = none ∨ i ≠ a.length := by
  constructor
  · intro works
    constructor
    · intro a memberA b memberB
      exact (a.compare_sign_iff b).mp (works.order a memberA b memberB)
    · intro a member i index
      exact (a.charAt_iff i).mp
        ⟨works.inside a member i index, works.outside a member i index⟩
  · intro both
    obtain ⟨comparable, within⟩ := both
    have order : ∀ a ∈ objects, ∀ b ∈ objects,
        signOf (a.compare b) = some (stdCompare a.bytes b.bytes).sign :=
      fun a memberA b memberB => (a.compare_sign_iff b).mpr (comparable a memberA b memberB)
    constructor
    case order => exact order
    case zero_iff =>
      intro a memberA b memberB
      obtain ⟨r, answer, zeroIff⟩ := zero_of_order (order a memberA b memberB)
      rw [answer, Option.some_inj]
      exact zeroIff
    case antisymmetric =>
      intro a memberA b memberB r answer
      exact antisymmetric_of_order (order a memberA b memberB) (order b memberB a memberA) answer
    case properPrefix =>
      intro a memberA b memberB begins different
      obtain ⟨r, answer, signs⟩ := exists_of_signOf (order a memberA b memberB)
      have lower := stdCompare_of_prefix begins different
      exact ⟨r, answer, by omega⟩
    case inside => exact fun a member i index => ((a.charAt_iff i).mpr (within a member i index)).1
    case outside => exact fun a member i index => ((a.charAt_iff i).mpr (within a member i index)).2

/-- A proper prefix is equal to what goes on from it, and the NUL behind it can be read. -/
theorem prefix_compares_equal :
    (AdapterObject.ofBytes (ascii "ab")).compare (AdapterObject.ofBytes (ascii "abc")) = some 0 ∧
      (AdapterObject.ofBytes (ascii "ab")).charAt 2 = some (.ok 0) ∧
      ¬ WorksAsString {AdapterObject.ofBytes (ascii "ab"), AdapterObject.ofBytes (ascii "abc")}
        ∅ ∧
      ¬ WorksAsString {AdapterObject.ofBytes (ascii "ab")} {2} := by
  have equal : (AdapterObject.ofBytes (ascii "ab")).compare
      (AdapterObject.ofBytes (ascii "abc")) = some 0 := by decide
  have read : (AdapterObject.ofBytes (ascii "ab")).charAt 2 = some (.ok 0) := by decide
  refine ⟨equal, read, ?_, ?_⟩
  · intro works
    have same := (works.zero_iff _ (Or.inl rfl) _ (Or.inr rfl)).mp equal
    revert same
    decide
  · intro works
    obtain ⟨thrown, answered⟩ := works.outside _ rfl 2 rfl (by decide)
    rw [read] at answered
    cases answered

end LibTabula
