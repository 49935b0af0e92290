/-
The literals that the fields of an SSQLS object are written as.

Whatever the type of a field, its text is one literal for a server, which ends where the
list goes on: a number, a string in quotes, or NULL.
-/

import LibTabula.AdapterCompare
import LibTabula.SsqlsObjects

set_option autoImplicit false

namespace LibTabula

open Foundation
open Foundation.Reader (Reads)
open InsertStatement (readLiteral EndsItem)
open Query (isdigit)
open SQLStream (EscapeRequest)

/-- What is documented of the escaping: it leaves `NULL` alone, and a server undoes it. -/
structure Undone (escape : EscapeRequest → Bytes × Nat) : Prop where
  nullKept : (escape
    { ps := [], original := some nullStr, length := nullStr.length }).1 = nullStr
  text : ∀ data rest : Bytes, rest.head? ≠ some (byte '\'') →
    SQLStream.literals.readBody
        ((escape { ps := [], original := some data, length := data.length }).1 ++
          byte '\'' :: rest) =
      some (data, rest)

theorem undone_generic : Undone SQLStream.escapeStringGeneric where
  nullKept := by decide +kernel
  text data rest ends := by
    have source : (EscapeRequest.mk [] (some data) data.length).source = data :=
      List.take_length
    rw [SQLStream.escapeStringGeneric_eq, source]
    exact SQLStream.literals.readBody_escape data rest ends

/-! ### What is expected -/

variable {typedefs : IntTypedefs}

namespace StoredType

def literal : (type : StoredType typedefs) → type.Object → Literal
  | .integer _ _, v => .number (intText v.val)
  | .text, data | .blob, data => .string data
  | .date, d => .string d.val.str
  | .time, t => .string t.val.str
  | .dateTime, dt => .string dt.val.str

/-- No number that is printed is longer than the first group of digits. -/
def Ungrouped (global : Locale) (type : StoredType typedefs) (object : type.Object) : Prop :=
  ∀ value ∈ type.sqlValue object, ∀ n ∈ value.numbers, global.Fits n

end StoredType

namespace StoredKind

def literal : (kind : StoredKind typedefs) → kind.Object → Literal
  | .plain type, object => type.literal object
  | .null type, some object => type.literal object
  | .null _, none => .null

def Ungrouped (global : Locale) : (kind : StoredKind typedefs) → kind.Object → Prop
  | .plain type, object => type.Ungrouped global object
  | .null type, some object => type.Ungrouped global object
  | .null _, none => True

end StoredKind

namespace StoredFields

def literals : (columns : List (StoredColumn typedefs)) → StoredFields columns → List Literal
  | [], _ => []
  | column :: rest, (object, others) => column.kind.literal object :: literals rest others

def Ungrouped (global : Locale) : (columns : List (StoredColumn typedefs)) →
    StoredFields columns → Prop
  | [], _ => True
  | column :: rest, (object, others) =>
      column.kind.Ungrouped global object ∧ Ungrouped global rest others

end StoredFields

/-- In a locale without groups every field can be printed. -/
theorem StoredFields.ungrouped_of_fits {global : Locale} (fits : ∀ n, global.Fits n)
    (columns : List (StoredColumn typedefs)) (fields : StoredFields columns) :
    StoredFields.Ungrouped global columns fields := by
  have scalar : ∀ (type : StoredType typedefs) (object : type.Object),
      type.Ungrouped global object := fun _ _ _ _ n _ => fits n
  induction columns with
  | nil => trivial
  | cons column rest ih =>
      obtain ⟨object, others⟩ := fields
      obtain ⟨name, kind⟩ := column
      refine ⟨?_, ih others⟩
      cases kind with
      | plain type => exact scalar type object
      | null type =>
          cases object with
          | none => trivial
          | some given => exact scalar type given

/-- The text of a field is the literal. -/
def WrittenAs (escape : EscapeRequest → Bytes × Nat) (field : SsqlsValue)
    (literal : Literal) : Prop :=
  ∃ text, field.written escape = .ok text ∧ readLiteral.Reads EndsItem text literal

/-! ### Texts of numbers and dates -/

namespace SqlValue

theorem written_field (escape : EscapeRequest → Bytes × Nat) {global : Locale} {self : SqlValue}
    (there : self.cType typedefs ≠ none) (fits : ∀ n ∈ self.numbers, global.Fits n)
    (given : self.inQuery.head? ≠ some (byte 'N')) :
    (self.field typedefs global).written escape =
      .ok (if self.quoted then byte '\'' :: (self.inQuery ++ [byte '\'']) else self.inQuery) := by
  obtain ⟨fieldType, tabulated⟩ := exists_tabulated there
  obtain ⟨type, known, _⟩ := tabulated.known
  have same := (stream2string_eq_iff global self).mpr fits
  have notNow : ¬ self.inQuery.take 5 = ascii "NOW()" := by
    intro now
    apply given
    have first := congrArg List.head? now
    rw [List.head?_take, if_neg (by decide)] at first
    exact first
  have quotes : SQLBuffer.quoteQ { data := self.inQuery, type := fieldType, isNull := false } =
      .ok self.quoted := by
    rw [SQLBuffer.quoteQ, known]
    simp only [notNow, decide_false, Bool.and_false, Bool.false_eq_true, if_false,
      ← tabulated.quotes]
    rfl
  rw [field, same, SsqlsValue.written_value escape tabulated.found quotes tabulated.bare]

end SqlValue

theorem isdigit_digits (n : Nat) : ∀ c ∈ (Decimal.digits n).map digitChar, isdigit c = true := by
  intro c member
  obtain ⟨digit, found, rfl⟩ := List.mem_map.mp member
  exact (digitChar_spec (Decimal.digit_lt_ten found)).2.1

theorem digits_ne_nil (n : Nat) : (Decimal.digits n).map digitChar ≠ [] := by
  intro nothing
  have none_ := List.map_eq_nil_iff.mp nothing
  have value := Decimal.value_digits n
  rw [none_] at value
  obtain rfl : 0 = n := value
  cases none_

/-- A decimal number is digits behind a minus sign or no sign. -/
theorem exists_intText (n : Int) : ∃ sign, (sign = [] ∨ sign = [byte '-']) ∧
    intText n = sign ++ (Decimal.digits n.natAbs).map digitChar := by
  unfold intText
  split
  · exact ⟨[byte '-'], Or.inr rfl, rfl⟩
  · exact ⟨[], Or.inl rfl, rfl⟩

theorem reads_intText (n : Int) : readLiteral.Reads EndsItem (intText n) (.number (intText n)) := by
  obtain ⟨sign, signed, same⟩ := exists_intText n
  rw [same]
  exact InsertStatement.reads_number signed (digits_ne_nil _) (isdigit_digits _)

theorem inQuery_integer (type : IntType) (notChar : type ≠ .signedChar ∧ type ≠ .unsignedChar)
    (v : type.Value) : (SqlValue.integer type notChar v).inQuery = intText v.val := by
  have unfilled : ∀ text : Bytes, Grouping.padTo (byte '0') 0 text = text := by
    intro text
    rw [Grouping.padTo, Nat.zero_sub]
    rfl
  rw [SqlValue.inQuery, SqlValue.insertions, List.flatMap_singleton, StreamPiece.put,
    Locale.digits_classic, unfilled, intText]
  split
  · rfl
  · rfl

/-- A text of which nothing needs to be escaped is a string as it is. -/
theorem reads_uncoded {text : Bytes} (uncoded : ∀ c ∈ text, SQLStream.literals.code c = none) :
    readLiteral.Reads EndsItem (byte '\'' :: (text ++ [byte '\''])) (.string text) := by
  apply InsertStatement.reads_string
  intro rest ends
  have found := SQLStream.literals.readBody_escape text rest ends
  rw [SQLStream.literals.escape_of_uncoded uncoded] at found
  exact found

theorem code_of_isdigit {c : UInt8} (digit : isdigit c = true) :
    SQLStream.literals.code c = none := by
  have other : ∀ {coded : UInt8}, isdigit coded = false → c ≠ coded := ne_of_isdigit digit
  change SQLStream.code c = none
  unfold SQLStream.code
  rw [if_neg, if_neg, if_neg, if_neg, if_neg, if_neg]
  · exact other (by decide)
  · exact other (by decide)
  · exact other (by decide)
  · exact other (by decide)
  · exact other (by decide)
  · exact other (by decide)

/-- The characters of dates and times. -/
def Temporal.Character (c : UInt8) : Prop :=
  isdigit c = true ∨ c = byte '-' ∨ c = byte ':' ∨ c = byte ' '

theorem Temporal.Character.uncoded {c : UInt8} (character : Temporal.Character c) :
    SQLStream.literals.code c = none := by
  rcases character with digit | rfl | rfl | rfl
  · exact code_of_isdigit digit
  · decide
  · decide
  · decide

theorem isdigit_setw (width n : Nat) : ∀ c ∈ setw width n, Temporal.Character c := by
  intro c member
  obtain ⟨digit, found, rfl⟩ := List.mem_map.mp member
  exact Or.inl (digitChar_spec (Decimal.padded_digit_lt_ten found)).2.1

/-- Three numbers with a separator between them. -/
theorem character_fields {separator : UInt8} (separates : Temporal.Character separator)
    (first second third : Nat × Nat) :
    ∀ c ∈ setw first.1 first.2 ++ separator :: (setw second.1 second.2 ++
      separator :: setw third.1 third.2), Temporal.Character c := by
  intro c member
  rw [List.mem_append, List.mem_cons, List.mem_append, List.mem_cons] at member
  rcases member with one | rfl | two | rfl | three
  · exact isdigit_setw _ _ c one
  · exact separates
  · exact isdigit_setw _ _ c two
  · exact separates
  · exact isdigit_setw _ _ c three

theorem Date.character_str (d : Date) : ∀ c ∈ d.str, Temporal.Character c :=
  character_fields (Or.inr (Or.inl rfl)) (4, _) (2, _) (2, _)

theorem Time.character_str (t : Time) : ∀ c ∈ t.str, Temporal.Character c :=
  character_fields (Or.inr (Or.inr (Or.inl rfl))) (2, _) (2, _) (2, _)

theorem DateTime.character_str {dt : DateTime} (given : dt.now = false) :
    ∀ c ∈ dt.str, Temporal.Character c := by
  intro c member
  rw [DateTime.str, given, if_neg Bool.false_ne_true, List.mem_append, List.mem_cons] at member
  rcases member with date | rfl | time
  · exact Date.character_str _ c date
  · exact Or.inr (Or.inr (Or.inr rfl))
  · exact Time.character_str _ c time

theorem character_intText (n : Int) : ∀ c ∈ intText n, Temporal.Character c := by
  intro c member
  obtain ⟨sign, signed, same⟩ := exists_intText n
  rw [same, List.mem_append] at member
  rcases member with inSign | inDigits
  · rcases signed with rfl | rfl
    · cases inSign
    · exact Or.inr (Or.inl (List.mem_singleton.mp inSign))
  · exact Or.inl (isdigit_digits _ c inDigits)

/-- No such text is `NULL` or a call of `NOW()`. -/
theorem head?_of_characters {text : Bytes} (all : ∀ c ∈ text, Temporal.Character c) :
    text.head? ≠ some (byte 'N') := by
  intro first
  rcases all _ (List.mem_of_head? first) with digit | other
  · exact absurd digit (by decide)
  · exact absurd other (by decide)

/-! ### Fields -/

section Fields

variable {escape : EscapeRequest → Bytes × Nat} {global : Locale}

theorem writtenAs_text (undone : Undone escape) (data : Bytes) :
    WrittenAs escape (.text data) (.string data) := by
  refine ⟨_, SsqlsValue.written_text escape data, ?_⟩
  exact InsertStatement.reads_string (undone.text data)

theorem writtenAs_null (undone : Undone escape) {field : SsqlsValue}
    (null : field = .nullText ∨ field = .null) : WrittenAs escape field .null := by
  refine ⟨nullStr, ?_, InsertStatement.reads_null⟩
  rcases null with rfl | rfl
  · rw [SsqlsValue.written_nullText, undone.nullKept]
  · rfl

theorem writtenAs_number {type : IntType} (known : type.tabulated typedefs = true)
    (v : type.Value)
    (fits : ∀ n ∈ (SqlValue.integer type (IntType.notChar known) v).numbers, global.Fits n) :
    WrittenAs escape ((SqlValue.integer type (IntType.notChar known) v).field typedefs global)
      (.number (intText v.val)) := by
  have same := inQuery_integer type (IntType.notChar known) v
  have there : (SqlValue.integer type (IntType.notChar known) v).cType typedefs ≠ none :=
    Option.isSome_iff_ne_none.mp known
  have characters := character_intText v.val
  rw [← same] at characters
  have written := SqlValue.written_field escape there fits (head?_of_characters characters)
  rw [same] at written
  exact ⟨_, written, reads_intText v.val⟩

variable (typedefs escape) in
theorem writtenAs_quoted (value : SqlValue) (there : value.cType typedefs ≠ none)
    (quoted : value.quoted = true) (fits : ∀ n ∈ value.numbers, global.Fits n)
    (characters : ∀ c ∈ value.inQuery, Temporal.Character c) :
    WrittenAs escape (value.field typedefs global) (.string value.inQuery) := by
  refine ⟨_, SqlValue.written_field escape there fits (head?_of_characters characters), ?_⟩
  rw [if_pos quoted]
  apply reads_uncoded
  intro c member
  exact (characters c member).uncoded

namespace StoredType

theorem writtenAs_field (undone : Undone escape) {type : StoredType typedefs} {object : type.Object}
    (ungrouped : type.Ungrouped global object) :
    WrittenAs escape (type.field global object) (type.literal object) := by
  cases type with
  | text => exact writtenAs_text undone object
  | blob => exact writtenAs_text undone object
  | integer type known => exact writtenAs_number known object (ungrouped _ rfl)
  | date =>
      have written := writtenAs_quoted typedefs escape (.date object.val)
        (Option.some_ne_none _) rfl (ungrouped _ rfl)
      rw [SqlValue.inQuery_date] at written
      exact written (Date.character_str object.val)
  | time =>
      have written := writtenAs_quoted typedefs escape (.time object.val)
        (Option.some_ne_none _) rfl (ungrouped _ rfl)
      rw [SqlValue.inQuery_time] at written
      exact written (Time.character_str object.val)
  | dateTime =>
      have written := writtenAs_quoted typedefs escape (.dateTime object.val)
        (Option.some_ne_none _) rfl (ungrouped _ rfl)
      rw [SqlValue.inQuery_dateTime] at written
      exact written (DateTime.character_str object.property.1)

end StoredType

theorem StoredKind.writtenAs_field (undone : Undone escape) {kind : StoredKind typedefs}
    {object : kind.Object} (ungrouped : kind.Ungrouped global object) :
    WrittenAs escape (kind.field global object) (kind.literal object) := by
  cases kind with
  | plain type => exact StoredType.writtenAs_field undone ungrouped
  | null type =>
      cases object with
      | none =>
          cases type with
          | text | blob => exact writtenAs_null undone (Or.inl rfl)
          | _ => exact writtenAs_null undone (Or.inr rfl)
      | some object =>
          cases type with
          | blob => exact writtenAs_text undone object
          | _ => exact StoredType.writtenAs_field undone ungrouped

end Fields

end LibTabula
