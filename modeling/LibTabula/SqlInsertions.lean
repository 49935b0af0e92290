/-
INSERT and REPLACE statements, as a server reads them.

The reader knows nothing of the library. It takes a statement apart into its table, its
columns and the literals of each row; a string in single quotes has backslash escapes. Names
stand in backticks, and nothing is left out or put in between.
-/

import LibTabula.Foundation.SelfDelimiting
import LibTabula.InsertFrom
import LibTabula.SQLStream

set_option autoImplicit false

namespace LibTabula

open Foundation
open Foundation.Reader (Reads Behind further)
open Query (isdigit)

/-! ### The reader -/

inductive Literal
  | null
  | number (text : Bytes)
  | string (data : Bytes)
deriving DecidableEq, Repr

structure InsertStatement where
  verb : Bytes
  table : Bytes
  columns : List Bytes
  rows : List (List Literal)
deriving DecidableEq, Repr

namespace InsertStatement

/-- The characters of a number, a name or a keyword. -/
def inWord (c : UInt8) : Bool :=
  isdigit c || (byte 'a' ≤ c && c ≤ byte 'z') || (byte 'A' ≤ c && c ≤ byte 'Z') ||
    c = byte '-' || c = byte '.' || c = byte '_'

def unsigned (word : Bytes) : Bytes :=
  if word.head? = some (byte '-') then word.tail else word

/-- Digits, behind a minus sign or not. -/
def isNumber (word : Bytes) : Bool := !(unsigned word).isEmpty && (unsigned word).all isdigit

def readWord (text : Bytes) : Option (Literal × Bytes) :=
  (Reader.longest inWord text).bind fun read =>
    if read.1 = nullStr then some (.null, read.2)
    else if isNumber read.1 then some (.number read.1, read.2)
    else none

def readLiteral : Reader UInt8 Literal := fun text =>
  if text.head? = some (byte '\'') then
    (SQLStream.literals.readText text).map fun read => (.string read.1, read.2)
  else readWord text

def readName : Reader UInt8 Bytes := fun text =>
  (Reader.exactly (ascii "\x60") text).bind fun read => Reader.upToClose (byte '\x60') read.2

/-- Behind an item of a list in parentheses. -/
def behindItem : Bytes → Behind UInt8
  | [] => .neither
  | c :: rest =>
      if c = byte ')' then .done rest else if c = byte ',' then .more rest else .neither

def readRow : Reader UInt8 (List Literal) := fun text =>
  (Reader.exactly (ascii "(") text).bind fun read =>
    Reader.severalOf readLiteral behindItem read.2

/-- Behind a row. -/
def behindRow : Bytes → Behind UInt8
  | [] => .done []
  | c :: rest => if c = byte ',' then .more rest else .neither

def isUpper (c : UInt8) : Bool := byte 'A' ≤ c && c ≤ byte 'Z'

def read (text : Bytes) : Option InsertStatement := do
  let (verb, rest) ← Reader.longest isUpper text
  let (_, rest) ← Reader.exactly (ascii " INTO ") rest
  let (table, rest) ← readName rest
  let (_, rest) ← Reader.exactly (ascii " (") rest
  let (columns, rest) ← Reader.severalOf readName behindItem rest
  let (_, rest) ← Reader.exactly (ascii " VALUES ") rest
  let (rows, rest) ← Reader.severalOf readRow behindRow rest
  if rest = [] then some { verb := verb, table := table, columns := columns, rows := rows }
  else none

/-! ### Texts that are read -/

/-- What stands behind an item of a list. -/
def EndsItem (rest : Bytes) : Prop :=
  ∃ c after, rest = c :: after ∧ (c = byte ',' ∨ c = byte ')')

theorem EndsItem.head?_ne {rest : Bytes} (ends : EndsItem rest) :
    rest.head? ≠ some (byte '\'') := by
  obtain ⟨c, after, rfl, either⟩ := ends
  intro same
  have quote := Option.some.inj same
  rcases either with rfl | rfl
  · exact absurd quote (by decide)
  · exact absurd quote (by decide)

theorem EndsItem.stops {rest : Bytes} (ends : EndsItem rest) :
    ∀ c ∈ rest.head?, inWord c = false := by
  obtain ⟨c, after, rfl, either⟩ := ends
  intro first member
  obtain rfl : c = first := Option.some.inj member
  rcases either with rfl | rfl
  · decide
  · decide

theorem inWord_of_isdigit {c : UInt8} (digit : isdigit c = true) : inWord c = true := by
  unfold inWord
  rw [digit]
  rfl

theorem reads_null : readLiteral.Reads EndsItem nullStr .null := by
  intro rest ends
  have word : Reader.longest inWord (nullStr ++ rest) = some (nullStr, rest) :=
    Reader.longest_append (by decide) (List.all_eq_true.mp (by decide)) ends.stops
  have notQuoted : ¬ (nullStr ++ rest).head? = some (byte '\'') := by
    intro same
    exact absurd (Option.some.inj same) (by decide)
  rw [readLiteral, if_neg notQuoted, readWord, word, Option.bind_some, if_pos rfl]

/-- Digits, with or without a minus sign, are a number. -/
theorem reads_number {sign digits : Bytes} (signed : sign = [] ∨ sign = [byte '-'])
    (nonempty : digits ≠ []) (all : ∀ c ∈ digits, isdigit c = true) :
    readLiteral.Reads EndsItem (sign ++ digits) (.number (sign ++ digits)) := by
  obtain ⟨first, more, rfl⟩ := List.exists_cons_of_ne_nil nonempty
  have firstDigit := all first List.mem_cons_self
  have kinds : ∀ c ∈ sign ++ first :: more, inWord c = true := by
    intro c member
    rcases List.mem_append.mp member with inSign | inDigits
    · rcases signed with rfl | rfl
      · cases inSign
      · rw [List.mem_singleton.mp inSign]
        decide
    · exact inWord_of_isdigit (all c inDigits)
  have notMinus : first ≠ byte '-' := by
    intro same
    rw [same] at firstDigit
    exact absurd firstDigit (by decide)
  have number : isNumber (sign ++ first :: more) = true := by
    have allDigits : (first :: more).all isdigit = true := List.all_eq_true.mpr all
    have same : unsigned (sign ++ first :: more) = first :: more := by
      unfold unsigned
      rcases signed with rfl | rfl
      · exact if_neg (mt Option.some.inj notMinus)
      · exact if_pos rfl
    rw [isNumber, same, allDigits]
    rfl
  have head : (sign ++ first :: more).head? ≠ some (byte '\'') ∧
      (sign ++ first :: more).head? ≠ some (byte 'N') := by
    rcases signed with rfl | rfl
    · constructor
      · intro same
        rw [Option.some.inj same] at firstDigit
        exact absurd firstDigit (by decide)
      · intro same
        rw [Option.some.inj same] at firstDigit
        exact absurd firstDigit (by decide)
    · constructor
      · intro same
        exact absurd (Option.some.inj same) (by decide)
      · intro same
        exact absurd (Option.some.inj same) (by decide)
  have present : sign ++ first :: more ≠ [] := by
    intro nothing
    rw [nothing] at number
    cases number
  intro rest ends
  have word : Reader.longest inWord ((sign ++ first :: more) ++ rest) =
      some (sign ++ first :: more, rest) :=
    Reader.longest_append present kinds ends.stops
  have notQuoted : ¬ ((sign ++ first :: more) ++ rest).head? = some (byte '\'') := by
    rw [List.head?_append_of_ne_nil _ present]
    exact head.1
  have notNull : sign ++ first :: more ≠ nullStr := by
    intro same
    apply head.2
    rw [same]
    rfl
  rw [readLiteral, if_neg notQuoted, readWord, word, Option.bind_some, if_neg notNull,
    if_pos number]

/-- What a reader of string literals makes of a text between quotes, it makes of it here. -/
theorem reads_string {body data : Bytes}
    (undone : ∀ rest : Bytes, rest.head? ≠ some (byte '\'') →
      SQLStream.literals.readBody (body ++ byte '\'' :: rest) = some (data, rest)) :
    readLiteral.Reads EndsItem (byte '\'' :: (body ++ [byte '\''])) (.string data) := by
  intro rest ends
  have found : SQLStream.literals.readText (byte '\'' :: (body ++ byte '\'' :: rest)) =
      some (data, rest) := by
    rw [EscapeCodec.readText]
    exact (if_pos rfl).trans (undone rest ends.head?_ne)
  have split : byte '\'' :: (body ++ [byte '\'']) ++ rest =
      byte '\'' :: (body ++ byte '\'' :: rest) := by
    rw [List.cons_append, List.append_assoc, List.singleton_append]
  rw [split, readLiteral, List.head?_cons, if_pos rfl, found]
  rfl

theorem reads_name {name : Bytes} (plain : byte '\x60' ∉ name) (follows : Bytes → Prop) :
    readName.Reads follows (ascii "\x60" ++ (name ++ ascii "\x60")) name := by
  intro rest _
  have split : ascii "\x60" ++ (name ++ ascii "\x60") ++ rest =
      ascii "\x60" ++ (name ++ byte '\x60' :: rest) := by
    rw [List.append_assoc, List.append_assoc]
    rfl
  rw [split, readName, Reader.exactly_append, Option.bind_some]
  exact Reader.upToClose_append plain rest

/-! ### Rows and statements -/

theorem endsItem_separator (after : Bytes) : EndsItem (ascii "," ++ after) :=
  ⟨byte ',', after, rfl, Or.inl rfl⟩

theorem endsItem_close (after : Bytes) : EndsItem (ascii ")" ++ after) :=
  ⟨byte ')', after, rfl, Or.inr rfl⟩

/-- A list in parentheses, behind the first of which the reader stands. -/
theorem severalOf_items {α : Type} {item : Reader UInt8 α} {first : Bytes × α}
    {items : List (Bytes × α)}
    (reads : ∀ one ∈ first :: items, item.Reads EndsItem one.1 one.2) (rest : Bytes) :
    Reader.severalOf item behindItem
        (first.1 ++ (further (ascii ",") (items.map Prod.fst) ++ (ascii ")" ++ rest))) =
      some (first.2 :: items.map Prod.snd, rest) := by
  apply Reader.severalOf_append _ _ endsItem_separator (endsItem_close rest) (by decide) reads
  · intro after
    rfl
  · rfl

theorem reads_row {first : Bytes × Literal} {cells : List (Bytes × Literal)}
    (reads : ∀ cell ∈ first :: cells, readLiteral.Reads EndsItem cell.1 cell.2)
    (follows : Bytes → Prop) :
    readRow.Reads follows
      (ascii "(" ++ (first.1 ++ (further (ascii ",") (cells.map Prod.fst) ++ ascii ")")))
      (first.2 :: cells.map Prod.snd) := by
  intro rest _
  have all := severalOf_items reads rest
  rw [← List.append_assoc _ (ascii ")") rest] at all
  rw [List.append_assoc, readRow, Reader.exactly_append, Option.bind_some,
    List.append_assoc first.1]
  exact all

/-- A statement that is put together of a verb, names without backticks, and rows. -/
theorem read_statement {verb table column : Bytes} {columns : List Bytes}
    {row : Bytes × List Literal} {rows : List (Bytes × List Literal)} (nonempty : verb ≠ [])
    (upper : ∀ c ∈ verb, isUpper c = true)
    (plain : ∀ name ∈ table :: column :: columns, byte '\x60' ∉ name)
    (reads : ∀ one ∈ row :: rows, ∀ follows, readRow.Reads follows one.1 one.2) :
    read (verb ++ (ascii " INTO " ++ ((ascii "\x60" ++ (table ++ ascii "\x60")) ++ (ascii " (" ++
      ((ascii "\x60" ++ (column ++ ascii "\x60")) ++ (further (ascii ",")
        (columns.map fun name => ascii "\x60" ++ (name ++ ascii "\x60")) ++ (ascii ")" ++
      (ascii " VALUES " ++ (row.1 ++ further (ascii ",") (rows.map Prod.fst)))))))))) =
    some
      { verb := verb, table := table, columns := column :: columns
        rows := row.2 :: rows.map Prod.snd } := by
  have verb_ (rest : Bytes) : Reader.longest isUpper (verb ++ (ascii " INTO " ++ rest)) =
      some (verb, ascii " INTO " ++ rest) := by
    apply Reader.longest_append nonempty upper
    intro c member
    obtain rfl : byte ' ' = c := Option.some.inj member
    decide
  have table_ (rest : Bytes) : readName ((ascii "\x60" ++ (table ++ ascii "\x60")) ++ rest) =
      some (table, rest) :=
    reads_name (plain table List.mem_cons_self) (fun _ => True) rest trivial
  have columns_ (rest : Bytes) : Reader.severalOf readName behindItem
      ((ascii "\x60" ++ (column ++ ascii "\x60")) ++ (further (ascii ",")
        (columns.map fun name => ascii "\x60" ++ (name ++ ascii "\x60")) ++
          (ascii ")" ++ rest))) = some (column :: columns, rest) := by
    let named (name : Bytes) : Bytes × Bytes := (ascii "\x60" ++ (name ++ ascii "\x60"), name)
    have texts : columns.map (fun name => ascii "\x60" ++ (name ++ ascii "\x60")) =
        (columns.map named).map Prod.fst := by
      rw [List.map_map]
      rfl
    have names : columns = (columns.map named).map Prod.snd := by
      rw [List.map_map, show Prod.snd ∘ named = id from rfl, List.map_id]
    have each : ∀ one ∈ named column :: columns.map named, readName.Reads EndsItem one.1 one.2 := by
      intro one member
      rw [← List.map_cons] at member
      obtain ⟨name, known, rfl⟩ := List.mem_map.mp member
      exact reads_name (plain name (List.mem_cons_of_mem table known)) EndsItem
    have found := severalOf_items each rest
    rw [← texts, ← names] at found
    exact found
  have rows_ : Reader.severalOf readRow behindRow
      (row.1 ++ further (ascii ",") (rows.map Prod.fst)) =
        some (row.2 :: rows.map Prod.snd, []) := by
    have each : ∀ one ∈ row :: rows, readRow.Reads (fun _ => True) one.1 one.2 := by
      intro one member
      exact reads one member fun _ => True
    have goesOn : ∀ after, behindRow (ascii "," ++ after) = .more after := fun _ => rfl
    have ends : behindRow ([] ++ []) = .done [] := rfl
    have found := Reader.severalOf_append goesOn ends (fun _ => trivial) trivial (by decide) each
    rw [List.append_nil, List.append_nil] at found
    exact found
  simp only [read, verb_, table_, columns_, rows_, Reader.exactly_append, Option.bind_eq_bind,
    Option.bind_some, if_true]

end InsertStatement

end LibTabula
