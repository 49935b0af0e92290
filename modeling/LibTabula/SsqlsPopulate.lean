/-
`populate_NAME`, which fills an SSQLS from a row.

The columns are looked up by name with exceptions off, so that a column that is not there
is the static empty `String`, and each value is converted to the type of its field.
-/

import LibTabula.CreateVector
import LibTabula.FieldConversion

set_option autoImplicit false

namespace LibTabula

open FieldNames (Same IsFirst)

/-! ### Populating -/

/-- `operator [](const char*)`. -/
def Row.getByName (self : Row) (memory : Nat → Bytes) (field : Bytes) :
    Except LookupFailure StoredString := do
  let si ← self.fieldNum field
  if si < self.size then
    match self.data[si]? with
    | some buffer => pure { content := some buffer.content, behind := memory si }
    | none => throw .outOfBounds
  else if self.throwExceptions then throw (badFieldName field)
  else pure StoredString.empty

structure Column where
  name : CString
  type : ColumnType

/-- The fields of an SSQLS. -/
def Fields : List Column → Type
  | [] => Unit
  | column :: rest => column.type.Value × Fields rest

section Populating

variable (typeName : IntType → Bytes)

/-- `row[N].conv(T())`. -/
def Row.fetch (row : Row) (memory : Nat → Bytes) (column : Column) :
    Except PopulateFailure column.type.Value := do
  let value ← (row.getByName memory column.name.chars).mapError .lookup
  column.type.conv typeName value

def assignFields (row : Row) (memory : Nat → Bytes) :
    (columns : List Column) → Fields columns → Except PopulateFailure Unit × Fields columns
  | [], fields => (.ok (), fields)
  | column :: rest, (old, others) =>
      match row.fetch typeName memory column with
      | .error failure => (.error failure, (old, others))
      | .ok value =>
          let (outcome, after) := assignFields row memory rest others
          (outcome, (value, after))

/-- What is left behind: the fields, and the row with its flag. -/
structure Populated (columns : List Column) where
  outcome : Except PopulateFailure Unit
  fields : Fields columns
  row : Row

/-- `NoExceptions` puts the flag back on every way out. -/
def populate (columns : List Column) (s : Fields columns) (row : Row) (memory : Nat → Bytes) :
    Populated columns :=
  let exceptionsWereEnabled := row.throwExceptions
  let quiet := { row with throwExceptions := false }
  let (outcome, fields) := assignFields typeName quiet memory columns s
  { outcome := outcome, fields := fields
    row := { quiet with throwExceptions := exceptionsWereEnabled } }

end Populating

/-! ### What is expected -/

/-- A row with distinct names. The client library counts columns in an `unsigned int`. -/
structure TableRow where
  row : Row
  wellFormed : row.WellFormed
  few : row.fieldNames.length < 2 ^ 32
  distinct : row.fieldNames.Pairwise fun one other => ¬ Same one other

/-- The row has a column of that name, but for its case, with that value. -/
def TableRow.Holds (self : TableRow) (name : CString) (content : Content) : Prop :=
  ∃ (i : Nat) (field : Bytes) (buffer : SQLBuffer), self.row.fieldNames[i]? = some field ∧
    Same field name.chars ∧ self.row.data[i]? = some buffer ∧ buffer.content = content

/-- Two rows that have the same values for the columns of an SSQLS. -/
structure AgreeingRows (columns : List Column) where
  first : TableRow
  second : TableRow
  agree : ∀ column ∈ columns, ∀ content,
    first.Holds column.name content ↔ second.Holds column.name content

/-- The fields whose columns are not in the row have the defaults of their types. -/
def AbsentDefault (row : TableRow) : (columns : List Column) → Fields columns → Prop
  | [], _ => True
  | column :: rest, (value, others) =>
      ((∀ content, ¬ row.Holds column.name content) → value = column.type.default) ∧
        AbsentDefault row rest others

section Expected

variable (typeName : IntType → Bytes) {columns : List Column}

/-- Populating from one row, whatever is in memory behind its buffers: an exception is that of
the conversion of a value that is there, and the row's flag is put back. -/
structure PopulatesFrom (columns : List Column) (row : TableRow) : Prop where
  absent : ∀ s memory, (populate typeName columns s row.row memory).outcome = .ok () →
    AbsentDefault row columns (populate typeName columns s row.row memory).fields
  blamed : ∀ s memory failure,
    (populate typeName columns s row.row memory).outcome = .error failure →
      ∃ column ∈ columns, ∃ content, row.Holds column.name content ∧
        ∃ behind, column.type.conv typeName ⟨some content, behind⟩ = .error failure
  restored : ∀ s memory, (populate typeName columns s row.row memory).row = row.row

/-- From either row the fields come to the same. -/
structure SchemaTolerant (rows : AgreeingRows columns) : Prop where
  same : ∀ s t memory other,
    (populate typeName columns s rows.first.row memory).outcome =
        (populate typeName columns t rows.second.row other).outcome ∧
      ((populate typeName columns s rows.first.row memory).outcome = .ok () ∨ s = t →
        (populate typeName columns s rows.first.row memory).fields =
          (populate typeName columns t rows.second.row other).fields)
  first : PopulatesFrom typeName columns rows.first
  second : PopulatesFrom typeName columns rows.second

end Expected

/-- The value, if there is one, is long enough for the column's parser, and, unless its
conversion throws, so it is for the columns behind. -/
def ReadsInside (typeName : IntType → Bytes) (row : TableRow) : List Column → Prop
  | [] => True
  | column :: rest =>
      (∀ content, row.Holds column.name content → column.type.Contained content) ∧
        ((∀ content, row.Holds column.name content →
            ∃ value, column.type.conv typeName ⟨some content, []⟩ = .ok value) →
          ReadsInside typeName row rest)

/-! ### Looking up -/

def Row.quiet (self : Row) : Row := { self with throwExceptions := false }

namespace TableRow

variable {self : TableRow} {name : CString}

/-- With the names distinct, the first column of a name is the only one. -/
theorem index_of_same {i j : Nat} {field : Bytes}
    (first : IsFirst self.row.fieldNames name.chars i)
    (there : self.row.fieldNames[j]? = some field) (same : Same field name.chars) : j = i := by
  obtain ⟨⟨found, foundThere, foundSame⟩, _⟩ := first
  obtain ⟨inside, rfl⟩ := List.getElem?_eq_some_iff.mp there
  obtain ⟨foundInside, rfl⟩ := List.getElem?_eq_some_iff.mp foundThere
  have both := List.pairwise_iff_getElem.mp self.distinct
  rcases Nat.lt_trichotomy j i with less | equal | more
  · exact absurd (same.trans foundSame.symm) (both j i inside foundInside less)
  · exact equal
  · exact absurd (foundSame.trans same.symm) (both i j foundInside inside more)

/-- How far the lookup goes, in a row that is set. -/
theorem fieldNum_quiet (self : TableRow) (set_ : self.row.initialized = true) (name : CString) :
    self.row.quiet.fieldNum name.chars =
      .ok (FieldNames.position self.row.fieldNames name.chars) := by
  have low : FieldNames.position self.row.fieldNames name.chars < 2 ^ 32 :=
    Nat.lt_of_le_of_lt List.findIdx_le_length self.few
  have given : self.row.quiet.initialized = true := set_
  rw [Row.fieldNum, if_pos given, FieldNames.index]
  exact congrArg Except.ok (Nat.mod_eq_of_lt low)

theorem size_quiet (self : TableRow) : self.row.quiet.size = self.row.fieldNames.length := by
  rw [self.wellFormed.width, Row.size]
  cases set_ : self.row.initialized with
  | true => exact if_pos set_
  | false =>
      rw [self.wellFormed.unset set_]
      exact if_neg (Bool.eq_false_iff.mp set_)

theorem getByName_found (self : TableRow) {name : CString} {i : Nat} (memory : Nat → Bytes)
    (first : IsFirst self.row.fieldNames name.chars i) :
    ∃ buffer, self.row.data[i]? = some buffer ∧
      self.row.quiet.getByName memory name.chars = .ok ⟨some buffer.content, memory i⟩ := by
  obtain ⟨inside, stopped⟩ := (FieldNames.isFirst_iff _ _ _).mp first
  have insideData : i < self.row.data.length := self.wellFormed.width ▸ inside
  have set_ : self.row.initialized = true := by
    cases given : self.row.initialized with
    | true => rfl
    | false =>
        rw [self.wellFormed.unset given] at insideData
        cases insideData
  have there : self.row.quiet.data[i]? = some self.row.data[i] :=
    List.getElem?_eq_getElem insideData
  refine ⟨self.row.data[i], there, ?_⟩
  simp only [Row.getByName, self.fieldNum_quiet set_, stopped, self.size_quiet, inside, if_true,
    there, bind, Except.bind]
  rfl

theorem getByName_missing (self : TableRow) {name : CString} (memory : Nat → Bytes)
    (missing : ∀ field ∈ self.row.fieldNames, ¬ Same field name.chars) :
    self.row.quiet.getByName memory name.chars = .ok .empty := by
  have beyond : ∃ si, self.row.quiet.fieldNum name.chars = .ok si ∧
      ¬ si < self.row.quiet.size := by
    rw [self.size_quiet]
    cases set_ : self.row.initialized with
    | true =>
        refine ⟨_, self.fieldNum_quiet set_ name, ?_⟩
        rw [(FieldNames.position_eq_length_iff _ _).mpr missing]
        exact Nat.lt_irrefl _
    | false =>
        have unset : ¬ self.row.quiet.initialized = true := Bool.eq_false_iff.mp set_
        refine ⟨0, ?_, ?_⟩
        · rw [Row.fieldNum, if_neg unset]
          rfl
        · rw [self.wellFormed.width, self.wellFormed.unset set_]
          exact Nat.lt_irrefl 0
  obtain ⟨si, looked, outside⟩ := beyond
  simp only [Row.getByName, looked, bind, Except.bind, if_neg outside]
  rfl

/-- With exceptions off, what is looked up is the value of the column, or empty. -/
theorem getByName_quiet (self : TableRow) (name : CString) (memory : Nat → Bytes) :
    ∃ value, self.row.quiet.getByName memory name.chars = .ok value ∧
      (∀ content, value.content = some content ↔ self.Holds name content) ∧
      (value.content = none ∨ ∃ i, value.behind = memory i) := by
  rcases FieldNames.position_cases self.row.fieldNames name.chars with first | stopped
  · obtain ⟨buffer, there, found⟩ := self.getByName_found memory first
    refine ⟨_, found, fun content => ?_, Or.inr ⟨_, rfl⟩⟩
    constructor
    · intro same
      obtain ⟨field, named, sameName⟩ := first.named
      exact ⟨_, field, buffer, named, sameName, there, Option.some.inj same⟩
    · intro ⟨j, field, other, named, sameName, otherThere, same⟩
      rw [index_of_same first named sameName, there] at otherThere
      rw [Option.some.inj otherThere, same]
  · have missing := (FieldNames.position_eq_length_iff _ _).mp stopped
    refine ⟨_, self.getByName_missing memory missing, fun content => ?_, Or.inl rfl⟩
    constructor
    · intro none
      cases none
    · intro ⟨j, field, other, named, sameName, _⟩
      exact absurd sameName (missing field (List.mem_of_getElem? named))

end TableRow

/-! ### One field -/

section OneField

variable (typeName : IntType → Bytes) (row : TableRow) (column : Column)

theorem fetch_quiet (memory : Nat → Bytes) :
    ∃ value, row.row.quiet.fetch typeName memory column = column.type.conv typeName value ∧
      (∀ content, value.content = some content ↔ row.Holds column.name content) ∧
      (value.content = none ∨ ∃ i, value.behind = memory i) := by
  obtain ⟨value, found, held, behind⟩ := row.getByName_quiet column.name memory
  refine ⟨value, ?_, held, behind⟩
  simp only [Row.fetch, found, bind, Except.bind]
  rfl

/-- A column that is not there. -/
theorem fetch_absent (absent : ∀ content, ¬ row.Holds column.name content)
    (memory : Nat → Bytes) :
    row.row.quiet.fetch typeName memory column = .ok column.type.default := by
  obtain ⟨⟨content, behind⟩, fetched, held, _⟩ := fetch_quiet typeName row column memory
  cases content with
  | none => rw [fetched, column.type.conv_none]
  | some content => exact absurd ((held content).mp rfl) (absent content)

/-- One that is there. -/
theorem fetch_present {content : Content} (held : row.Holds column.name content)
    (memory : Nat → Bytes) :
    ∃ i, row.row.quiet.fetch typeName memory column =
      column.type.conv typeName ⟨some content, memory i⟩ := by
  obtain ⟨⟨found, behind⟩, fetched, heldIff, origin⟩ := fetch_quiet typeName row column memory
  obtain rfl : found = some content := (heldIff content).mpr held
  rcases origin with none | ⟨i, same⟩
  · cases none
  · obtain rfl : behind = memory i := same
    exact ⟨i, fetched⟩

variable {row column}

theorem fetch_same {second : TableRow}
    (agree : ∀ content, row.Holds column.name content ↔ second.Holds column.name content)
    (inside : ∀ content, row.Holds column.name content → column.type.Contained content)
    (memory other : Nat → Bytes) :
    row.row.quiet.fetch typeName memory column =
      second.row.quiet.fetch typeName other column := by
  by_cases present : ∃ content, row.Holds column.name content
  · obtain ⟨content, held⟩ := present
    obtain ⟨i, fetched⟩ := fetch_present typeName row column held memory
    obtain ⟨j, fetchedToo⟩ := fetch_present typeName second column ((agree content).mp held) other
    rw [fetched, fetchedToo]
    exact column.type.conv_contained typeName (inside content held) _ _
  · have absent : ∀ content, ¬ row.Holds column.name content := not_exists.mp present
    have absentToo : ∀ content, ¬ second.Holds column.name content := fun content held =>
      absent content ((agree content).mpr held)
    rw [fetch_absent typeName row column absent, fetch_absent typeName second column absentToo]

theorem fetch_short {content : Content} (held : row.Holds column.name content)
    (short : ¬ column.type.Contained content) :
    Outside (row.row.quiet.fetch typeName (fun _ => []) column) := by
  obtain ⟨i, fetched⟩ := fetch_present typeName row column held fun _ => []
  rw [fetched]
  exact column.type.conv_short typeName short

variable (row column) in
theorem fetch_ample :
    ¬ Outside (row.row.quiet.fetch typeName (fun _ => ampleMemory) column) := by
  obtain ⟨⟨content, behind⟩, fetched, _, origin⟩ :=
    fetch_quiet typeName row column fun _ => ampleMemory
  rw [fetched]
  rcases origin with none | ⟨i, same⟩
  · obtain rfl : content = Option.none := none
    rw [column.type.conv_none]
    exact ScalarType.not_outside_ok _
  · obtain rfl : behind = ampleMemory := same
    exact column.type.conv_ample typeName content

end OneField

/-! ### All fields -/

section AllFields

variable (typeName : IntType → Bytes)

theorem assignFields_ok {row : Row} {memory : Nat → Bytes} {column : Column}
    {value : column.type.Value} (fetched : row.fetch typeName memory column = .ok value)
    (rest : List Column) (fields : Fields (column :: rest)) :
    assignFields typeName row memory (column :: rest) fields =
      ((assignFields typeName row memory rest fields.2).1,
        (value, (assignFields typeName row memory rest fields.2).2)) := by
  obtain ⟨old, others⟩ := fields
  simp only [assignFields, fetched]
  rfl

theorem assignFields_error {row : Row} {memory : Nat → Bytes} {column : Column}
    {failure : PopulateFailure} (failed : row.fetch typeName memory column = .error failure)
    (rest : List Column) (fields : Fields (column :: rest)) :
    assignFields typeName row memory (column :: rest) fields = (.error failure, fields) := by
  obtain ⟨old, others⟩ := fields
  simp only [assignFields, failed]

/-- What is read inside is the same whatever is behind it, and so is what is assigned. -/
theorem assignFields_same {first second : TableRow} {columns : List Column}
    (agree : ∀ column ∈ columns, ∀ content,
      first.Holds column.name content ↔ second.Holds column.name content)
    (inside : ReadsInside typeName first columns) (memory other : Nat → Bytes)
    (s t : Fields columns) :
    (assignFields typeName first.row.quiet memory columns s).1 =
        (assignFields typeName second.row.quiet other columns t).1 ∧
      ((assignFields typeName first.row.quiet memory columns s).1 = .ok () ∨ s = t →
        (assignFields typeName first.row.quiet memory columns s).2 =
          (assignFields typeName second.row.quiet other columns t).2) := by
  induction columns with
  | nil => exact ⟨rfl, fun _ => rfl⟩
  | cons column rest ih =>
      obtain ⟨contained, behind⟩ := inside
      have same := fetch_same typeName (agree column List.mem_cons_self) contained memory other
      cases fetched : first.row.quiet.fetch typeName memory column with
      | error failure =>
          rw [assignFields_error typeName fetched, assignFields_error typeName (same ▸ fetched)]
          refine ⟨rfl, ?_⟩
          intro cases_
          rcases cases_ with returned | begun
          · cases returned
          · exact begun
      | ok value =>
          have converts : ∀ content, first.Holds column.name content →
              ∃ result, column.type.conv typeName ⟨some content, []⟩ = .ok result := by
            intro content held
            obtain ⟨i, conversion⟩ := fetch_present typeName first column held memory
            rw [fetched, column.type.conv_contained typeName (contained content held) _ []]
              at conversion
            exact ⟨value, conversion.symm⟩
          have others := ih (fun later member => agree later (List.mem_cons_of_mem _ member))
            (behind converts) s.2 t.2
          rw [assignFields_ok typeName fetched, assignFields_ok typeName (same ▸ fetched)]
          refine ⟨others.1, fun either => ?_⟩
          have tails := others.2 (either.imp id (congrArg Prod.snd))
          rw [tails]

theorem assignFields_ample (row : TableRow) (columns : List Column) (s : Fields columns) :
    ¬ Outside (assignFields typeName row.row.quiet (fun _ => ampleMemory) columns s).1 := by
  induction columns with
  | nil => exact ScalarType.not_outside_ok ()
  | cons column rest ih =>
      cases fetched : row.row.quiet.fetch typeName (fun _ => ampleMemory) column with
      | error failure =>
          rw [assignFields_error typeName fetched]
          intro ⟨outside, same⟩
          have notOutside := fetch_ample typeName row column
          rw [fetched, Except.error.inj same] at notOutside
          exact notOutside ⟨outside, rfl⟩
      | ok value =>
          rw [assignFields_ok typeName fetched]
          exact ih s.2

/-- An object to begin with. -/
def defaults : (columns : List Column) → Fields columns
  | [] => ()
  | column :: rest => (column.type.default, defaults rest)

/-- If memory makes no difference, nothing is read from it. -/
theorem readsInside_of_same {first second : TableRow} {columns : List Column}
    (agree : ∀ column ∈ columns, ∀ content,
      first.Holds column.name content ↔ second.Holds column.name content)
    (same : ∀ memory other s t,
      (assignFields typeName first.row.quiet memory columns s).1 =
        (assignFields typeName second.row.quiet other columns t).1) :
    ReadsInside typeName first columns := by
  induction columns with
  | nil => trivial
  | cons column rest ih =>
      have agreeHere := agree column List.mem_cons_self
      have contained : ∀ content, first.Holds column.name content →
          column.type.Contained content := by
        intro content held
        by_contra short
        obtain ⟨failure, failed⟩ := fetch_short typeName held short
        have runs := same (fun _ => []) (fun _ => ampleMemory) (defaults _) (defaults _)
        rw [assignFields_error typeName failed] at runs
        exact assignFields_ample typeName second (column :: rest) (defaults _) ⟨failure, runs.symm⟩
      refine ⟨contained, fun converts => ih ?_ fun memory other s t => ?_⟩
      · exact fun later member => agree later (List.mem_cons_of_mem _ member)
      have returns : ∃ value, first.row.quiet.fetch typeName memory column = .ok value := by
        by_cases present : ∃ content, first.Holds column.name content
        · obtain ⟨content, held⟩ := present
          obtain ⟨value, converted⟩ := converts content held
          obtain ⟨i, fetched⟩ := fetch_present typeName first column held memory
          rw [column.type.conv_contained typeName (contained content held) _ []] at fetched
          exact ⟨value, fetched.trans converted⟩
        · exact ⟨_, fetch_absent typeName first column (not_exists.mp present) memory⟩
      obtain ⟨value, fetched⟩ := returns
      have fetchedToo := fetch_same typeName agreeHere contained memory other
      rw [fetched] at fetchedToo
      have runs := same memory other (column.type.default, s) (column.type.default, t)
      rw [assignFields_ok typeName fetched rest (column.type.default, s),
        assignFields_ok typeName fetchedToo.symm rest (column.type.default, t)] at runs
      exact runs

/-- A field is what was fetched for it. -/
theorem assignFields_absent {row : TableRow} {memory : Nat → Bytes} {columns : List Column}
    {s : Fields columns}
    (returned : (assignFields typeName row.row.quiet memory columns s).1 = .ok ()) :
    AbsentDefault row columns (assignFields typeName row.row.quiet memory columns s).2 := by
  induction columns with
  | nil => trivial
  | cons column rest ih =>
      cases fetched : row.row.quiet.fetch typeName memory column with
      | error failure =>
          rw [assignFields_error typeName fetched] at returned
          cases returned
      | ok value =>
          rw [assignFields_ok typeName fetched] at returned ⊢
          refine ⟨fun absent => ?_, ih returned⟩
          rw [fetch_absent typeName row column absent] at fetched
          exact (Except.ok.inj fetched).symm

/-- What ends it is the conversion of a value that is there. -/
theorem assignFields_blamed {row : TableRow} {memory : Nat → Bytes} {columns : List Column}
    {s : Fields columns} {failure : PopulateFailure}
    (failed : (assignFields typeName row.row.quiet memory columns s).1 = .error failure) :
    ∃ column ∈ columns, ∃ content, row.Holds column.name content ∧
      ∃ behind, column.type.conv typeName ⟨some content, behind⟩ = .error failure := by
  induction columns with
  | nil => cases failed
  | cons column rest ih =>
      cases fetched : row.row.quiet.fetch typeName memory column with
      | error other =>
          rw [assignFields_error typeName fetched] at failed
          rw [Except.error.inj failed] at fetched
          by_cases present : ∃ content, row.Holds column.name content
          · obtain ⟨content, held⟩ := present
            obtain ⟨i, conversion⟩ := fetch_present typeName row column held memory
            exact ⟨column, List.mem_cons_self, content, held, memory i,
              conversion.symm.trans fetched⟩
          · rw [fetch_absent typeName row column (not_exists.mp present)] at fetched
            cases fetched
      | ok value =>
          rw [assignFields_ok typeName fetched] at failed
          obtain ⟨later, member, blame⟩ := ih failed
          exact ⟨later, List.mem_cons_of_mem _ member, blame⟩

/-- This much of populating holds of every row. -/
theorem populatesFrom (columns : List Column) (row : TableRow) :
    PopulatesFrom typeName columns row where
  absent _ _ returned := assignFields_absent typeName returned
  blamed _ _ _ failed := assignFields_blamed typeName failed
  restored _ _ := rfl

end AllFields

/-- For every SSQLS and every two rows that agree on its columns. -/
theorem schemaTolerant_iff (typeName : IntType → Bytes) {columns : List Column}
    (rows : AgreeingRows columns) :
    SchemaTolerant typeName rows ↔ ReadsInside typeName rows.first columns := by
  constructor
  · intro tolerant
    exact readsInside_of_same typeName rows.agree fun memory other s t =>
      (tolerant.same s t memory other).1
  · intro inside
    constructor
    · intro s t memory other
      exact assignFields_same typeName rows.agree inside memory other s t
    · exact populatesFrom typeName columns rows.first
    · exact populatesFrom typeName columns rows.second

/-! ### A null date -/

def dateColumn : Column :=
  { name := CString.ofData (ascii "d"), type := .plain .date }

def nullDate : SQLBuffer := { data := nullStr, type := SQLBuffer.stringType, isNull := true }

/-- A row with one column `d` that is null. -/
def nullRow : TableRow where
  row := Row.new [nullDate] [ascii "d"] true
  wellFormed :=
    { width := rfl
      unset := nofun
      noNul := fun name member => by
        rw [List.mem_singleton.mp member]
        decide }
  few := by decide
  distinct := List.pairwise_singleton _ _

def nullRows : AgreeingRows [dateColumn] :=
  { first := nullRow, second := nullRow, agree := fun _ _ _ => Iff.rfl }

/-- The day of a null is read behind its text. -/
theorem null_day_from_memory :
    (populate (fun _ => []) [dateColumn] (defaults _) nullRow.row fun _ => ascii "?07").fields.1 =
        (⟨0, 0, 7⟩ : Date) ∧
      (populate (fun _ => []) [dateColumn] (defaults _) nullRow.row fun _ => ascii "?08").fields.1 =
        (⟨0, 0, 8⟩ : Date) ∧
      ¬ SchemaTolerant (fun _ => []) nullRows := by
  have seven : (populate (fun _ => []) [dateColumn] (defaults _) nullRow.row
      fun _ => ascii "?07").fields.1 = (⟨0, 0, 7⟩ : Date) := rfl
  have eight : (populate (fun _ => []) [dateColumn] (defaults _) nullRow.row
      fun _ => ascii "?08").fields.1 = (⟨0, 0, 8⟩ : Date) := rfl
  refine ⟨seven, eight, ?_⟩
  intro tolerant
  have fields := (tolerant.same (defaults _) (defaults _) (fun _ => ascii "?07")
    fun _ => ascii "?08").2 (Or.inr rfl)
  have days : (⟨0, 0, 7⟩ : Date) = ⟨0, 0, 8⟩ :=
    seven.symm.trans ((congrArg Prod.fst fields).trans eight)
  revert days
  decide

end LibTabula
