/-
Writing an SSQLS v2 parse and parsing what was written.

What a parse returns is made of tokens, and its fields stand under tables, whatever
was included on the way. Both are what the second parse needs, with one exception:
the printed lines spell out what was left to a default, and a line that has become
too long for the reader's buffer ends the second parse without an error.
-/

import LibTabula.SsqlsLines
import LibTabula.Foundation.Depth

set_option autoImplicit false

namespace LibTabula.ParseV2

open Foundation

/-! ### What one line of a file does -/

/-- A directive that was parsed: the lines that it stands for and the static variables
after it. -/
inductive Parsed (includeFile : Bytes → EStateM Exception Statics (List Line)) (tl : List Bytes)
    (before : Statics) : List Line → Statics → Prop
  | table (made : Table) (proper : made.Proper) :
      Parsed includeFile tl before [.table made] { before with lastTldWasTable := true }
  | field (made : Field) (proper : made.Proper) (underTable : before.lastTldWasTable = true) :
      Parsed includeFile tl before [.field made] before
  | option (made : OptionLine) (proper : made.Proper) :
      Parsed includeFile tl before [.option made] { before with lastTldWasTable := false }
  | included (fileName : Bytes) (lines : List Line) (after : Statics)
      (ran : (includeFile fileName).run { before with lastTldWasTable := false } =
        .ok lines after) :
      Parsed includeFile tl before lines after

theorem topLevel_of_include {tl : List Bytes} {subdirective : Bool} {file : File}
    {fileName : Bytes} (parsed : includeParse tl subdirective file = .ok fileName) :
    subdirective = false := by
  unfold includeParse at parsed
  split at parsed
  · cases subdirective with
    | false => rfl
    | true => cases parsed
  · cases parsed

section Line

variable {includeFile : Bytes → EStateM Exception Statics (List Line)} {tl : List Bytes}
  {file : File} {before after : Statics} {subdirective : Bool} {lines : List Line}

theorem parsed_of_parse (tokens : ∀ w ∈ tl, IsToken w)
    (ran : (Line.parse includeFile tl subdirective file).run before = .ok lines after) :
    Parsed includeFile tl before lines after := by
  unfold Line.parse at ran
  extract_lets directive at ran
  have noted : (modify (noteDirective (directive = ascii "table") subdirective) :
      EStateM Exception Statics PUnit).run before =
      .ok () (noteDirective (directive = ascii "table") subdirective before) := rfl
  rw [run_bind_of_ok noted] at ran
  split at ran
  next isTable =>
    obtain ⟨made, parsed, returned⟩ := exists_of_run_ofExcept_bind ran
    obtain ⟨proper, topLevel⟩ := Table.proper_of_parse tokens parsed
    cases returned
    rw [topLevel, decide_eq_true isTable]
    exact .table made proper
  next notTable =>
    rw [decide_eq_false notTable] at ran
    split at ran
    · obtain ⟨_, _, got, ran⟩ := exists_of_run_bind_ok ran
      cases got
      split at ran
      next underTable =>
        obtain ⟨made, parsed, returned⟩ := exists_of_run_ofExcept_bind ran
        obtain ⟨proper, indented⟩ := Field.proper_of_parse tokens parsed
        cases returned
        rw [indented] at underTable ⊢
        exact .field made proper underTable
      next => cases ran
    · split at ran
      · obtain ⟨fileName, parsed, ran⟩ := exists_of_run_ofExcept_bind ran
        rw [topLevel_of_include parsed] at ran
        exact .included fileName lines after ran
      · split at ran
        · obtain ⟨made, parsed, returned⟩ := exists_of_run_ofExcept_bind ran
          obtain ⟨proper, topLevel⟩ := OptionLine.proper_of_parse tokens parsed
          cases returned
          rw [topLevel]
          exact .option made proper
        · cases ran

end Line

/-! ### Fields under tables -/

/-- Whether the last line at the top level is a table, one line later. -/
def Line.tableAfter (wasTable : Bool) : Line → Bool
  | table _ => true
  | field _ => wasTable
  | option _ => false

def Placed : Bool → List Line → Prop
  | _, [] => True
  | wasTable, line :: lines =>
      (line.isField = true → wasTable = true) ∧ Placed (Line.tableAfter wasTable line) lines

theorem placed_append (wasTable : Bool) (lines rest : List Line) :
    Placed wasTable (lines ++ rest) ↔
      Placed wasTable lines ∧ Placed (lines.foldl Line.tableAfter wasTable) rest := by
  induction lines generalizing wasTable with
  | nil => exact (iff_of_eq (true_and _)).symm
  | cons line lines ih =>
      rw [List.cons_append, Placed, Placed, ih, List.foldl_cons, and_assoc]

/-! ### What a parse returns -/

/-- The lines that were parsed between two states. The last top-level line of the
files is one of the lines, or an include that gave none and after which no field is
accepted. -/
structure Accounted (before : Statics) (lines : List Line) (after : Statics) : Prop where
  proper : ∀ line ∈ lines, line.Proper
  placed : ∀ wasTable, (before.lastTldWasTable = true → wasTable = true) → Placed wasTable lines
  followed : ∀ wasTable, (before.lastTldWasTable = true → wasTable = true) →
    after.lastTldWasTable = true → lines.foldl Line.tableAfter wasTable = true

namespace Accounted

variable {before middle after : Statics} {lines rest : List Line}

theorem nil (same : after.lastTldWasTable = before.lastTldWasTable) :
    Accounted before [] after where
  proper := nofun
  placed := fun _ _ => trivial
  followed := fun _ under isTable => under (same ▸ isTable)

theorem append (first : Accounted before lines middle) (second : Accounted middle rest after) :
    Accounted before (lines ++ rest) after where
  proper := List.forall_mem_append.mpr ⟨first.proper, second.proper⟩
  placed := by
    intro wasTable under
    rw [placed_append]
    exact ⟨first.placed wasTable under, second.placed _ (first.followed wasTable under)⟩
  followed := by
    intro wasTable under isTable
    rw [List.foldl_append]
    exact second.followed _ (first.followed wasTable under) isTable

/-- What is accounted for from a state is so from one that allows more. -/
theorem of_le (accounted : Accounted middle lines after)
    (weaker : middle.lastTldWasTable = true → before.lastTldWasTable = true) :
    Accounted before lines after where
  proper := accounted.proper
  placed := fun wasTable under => accounted.placed wasTable (under ∘ weaker)
  followed := fun wasTable under => accounted.followed wasTable (under ∘ weaker)

theorem single {line : Line} (proper : line.Proper)
    (underTable : line.isField = true → before.lastTldWasTable = true)
    (noted : after.lastTldWasTable = Line.tableAfter before.lastTldWasTable line) :
    Accounted before [line] after where
  proper := List.forall_mem_singleton.mpr proper
  placed := fun _ under => ⟨under ∘ underTable, trivial⟩
  followed := by
    intro wasTable under isTable
    cases line with
    | table made => rfl
    | field made =>
        rw [noted] at isTable
        exact under isTable
    | option made =>
        rw [noted] at isTable
        cases isTable

end Accounted

section Parse

variable {includeFile : Bytes → EStateM Exception Statics (List Line)}

theorem accounted_of_parsed {tl : List Bytes} {before after : Statics} {lines : List Line}
    (included : ∀ {fileName before lines after},
      (includeFile fileName).run before = .ok lines after → Accounted before lines after)
    (parsed : Parsed includeFile tl before lines after) : Accounted before lines after := by
  cases parsed with
  | table made proper => exact .single proper nofun rfl
  | field made proper underTable => exact .single proper (fun _ => underTable) rfl
  | option made proper => exact .single proper nofun rfl
  | included fileName _ _ ran => exact (included ran).of_le nofun

theorem accounted_of_parseLines {fileName : Bytes} {ahead : List Bytes} {lineNumber : Nat}
    {before after : Statics} {lines : List Line}
    (included : ∀ {fileName before lines after},
      (includeFile fileName).run before = .ok lines after → Accounted before lines after)
    (ran : (parseLines includeFile fileName ahead lineNumber).run before = .ok lines after) :
    Accounted before lines after := by
  induction ahead generalizing lineNumber before lines with
  | nil =>
      cases ran
      exact .nil rfl
  | cons temp ahead ih =>
      rw [parseLines] at ran
      split at ran
      next =>
        cases ran
        exact .nil rfl
      next line subdirective read =>
        split at ran
        next => exact ih ran
        next =>
          obtain ⟨parsed, middle, first, ran⟩ := exists_of_run_bind_ok ran
          obtain ⟨rest, last, others, returned⟩ := exists_of_run_bind_ok ran
          cases returned
          have directive := parsed_of_parse (isToken_of_readLine read) first
          exact (accounted_of_parsed included directive).append (ih others)

@[simp] theorem lastTldWasTable_addDirectoryToSearchPath (filepath : Bytes) (self : Statics) :
    (addDirectoryToSearchPath filepath self).lastTldWasTable = self.lastTldWasTable := by
  unfold addDirectoryToSearchPath
  extract_lets parts path
  split
  · split <;> rfl
  · rfl

theorem preserves_openFile (fs : FileSystem) (fileName : Bytes) :
    Preserves Statics.lastTldWasTable (openFile fs fileName) := by
  intro self
  rw [openFile, run_bind_of_ok (x := get) rfl]
  split
  · exact lastTldWasTable_addDirectoryToSearchPath fileName self
  · rfl

theorem accounted_of_parse {fs : FileSystem} {depth : Nat} {fileName : Bytes}
    {before after : Statics} {lines : List Line}
    (ran : (parse fs depth fileName).run before = .ok lines after) :
    Accounted before lines after := by
  induction depth generalizing fileName before lines after with
  | zero => cases ran
  | succ depth ih =>
      rw [parse] at ran
      obtain ⟨text, opened, isOpen, ran⟩ := exists_of_run_bind_ok ran
      have same := preserves_openFile fs fileName before
      rw [isOpen] at same
      exact (accounted_of_parseLines ih ran).of_le fun isTable => same ▸ isTable

end Parse

/-! ### The depth of includes -/

section Depth

/-- Whatever the first parser of included files returns, the second does. -/
def Extends (first second : Bytes → EStateM Exception Statics (List Line)) : Prop :=
  ∀ {fileName before lines after}, (first fileName).run before = .ok lines after →
    (second fileName).run before = .ok lines after

section Included

variable {first second : Bytes → EStateM Exception Statics (List Line)}
  (included : ∀ fileName, Outlasts .stackOverflow (first fileName) (second fileName))

include included

theorem Line.parse_outlasts (tl : List Bytes) (subdirective : Bool) (file : File) :
    Outlasts .stackOverflow (Line.parse first tl subdirective file)
      (Line.parse second tl subdirective file) := by
  by_cases isInclude : strToLwr (tl.headD []) = ascii "include"
  · have notTable : ascii "include" ≠ ascii "table" := by decide
    have notField : ascii "include" ≠ ascii "field" := by decide
    simp only [Line.parse, isInclude, if_neg notTable, if_neg notField, if_true]
    apply Outlasts.bind (.refl _)
    intro _
    exact .bind (.refl _) included
  · have same : Line.parse first tl subdirective file = Line.parse second tl subdirective file := by
      simp only [Line.parse, if_neg isInclude]
    rw [same]
    exact .refl _

theorem parseLines_outlasts (fileName : Bytes) (ahead : List Bytes) (lineNumber : Nat) :
    Outlasts .stackOverflow (parseLines first fileName ahead lineNumber)
      (parseLines second fileName ahead lineNumber) := by
  induction ahead generalizing lineNumber with
  | nil => exact .refl _
  | cons temp ahead ih =>
      rw [parseLines, parseLines]
      cases readLine temp with
      | none => exact .refl _
      | some reading =>
          by_cases empty : tokenize reading.1 = []
          · simp only [if_pos empty]
            exact ih (lineNumber + 1)
          · simp only [if_neg empty]
            apply Outlasts.bind (Line.parse_outlasts included _ _ _)
            intro parsed
            exact .bind (ih (lineNumber + 1)) fun rest => .refl _

end Included

/-- With more room for includes the parse of a file stays the same. -/
theorem parse_outlasts (fs : FileSystem) (depth : Nat) (fileName : Bytes) :
    Outlasts .stackOverflow (parse fs depth fileName) (parse fs (depth + 1) fileName) := by
  induction depth generalizing fileName with
  | zero => exact .throw _
  | succ depth ih =>
      apply Outlasts.bind (.refl _)
      intro text
      exact parseLines_outlasts ih fileName _ 1

theorem parse_extends_of_le (fs : FileSystem) {depth more : Nat} (le : depth ≤ more) :
    Extends (parse fs depth) (parse fs more) := by
  intro fileName before lines after ran
  have inside : ((parse fs depth fileName).run before).outcome ≠ .error .stackOverflow := by
    rw [ran]
    exact ok_ne_error
  rw [Outlasts.of_le (fun depth => parse_outlasts fs depth fileName) le before inside, ran]

end Depth

/-! ### Parsing what was written -/

section Written

variable (includeFile : Bytes → EStateM Exception Statics (List Line))

/-- A directive gets its own line back from the printed one. -/
theorem Line.parse_tokens {line : Line} (proper : line.Proper) {before : Statics}
    (underTable : line.isField = true → before.lastTldWasTable = true) (file : File) :
    ∃ after, (Line.parse includeFile line.tokens line.isField file).run before =
        .ok [line] after ∧
      after.lastTldWasTable = Line.tableAfter before.lastTldWasTable line := by
  cases line with
  | table made =>
      refine ⟨{ before with lastTldWasTable := true }, ?_, rfl⟩
      simp only [Line.parse, Line.tokens, Line.isField, Table.parse_tokens proper]
      rfl
  | field made =>
      obtain ⟨searchPath, lastTldWasTable⟩ := before
      have isTable : lastTldWasTable = true := underTable rfl
      refine ⟨⟨searchPath, lastTldWasTable⟩, ?_, rfl⟩
      simp only [Line.parse, Line.tokens, Line.isField, Field.parse_tokens, isTable]
      rfl
  | option made =>
      refine ⟨{ before with lastTldWasTable := false }, ?_, rfl⟩
      have keyword : strToLwr (made.tokens.headD []) = ascii "option" := by cases made <;> rfl
      simp only [Line.parse, Line.tokens, Line.isField, OptionLine.parse_tokens, keyword]
      rfl

/-- The lines are read back up to the first that does not fit into the buffer. -/
theorem run_parseLines_written {lines : List Line} (proper : ∀ line ∈ lines, line.Proper)
    {before : Statics} (placed : Placed before.lastTldWasTable lines) (fileName : Bytes)
    (lineNumber : Nat) :
    ((parseLines includeFile fileName (lines.map Line.written) lineNumber).run before).outcome =
      .ok (lines.takeWhile fun line => line.written.length < bufferSize) := by
  induction lines generalizing before lineNumber with
  | nil => rfl
  | cons line lines ih =>
      obtain ⟨first, others⟩ := List.forall_mem_cons.mp proper
      obtain ⟨underTable, rest⟩ := placed
      rw [List.map_cons, parseLines, readLine_written first]
      by_cases short : line.written.length < bufferSize
      · obtain ⟨after, ran, noted⟩ := Line.parse_tokens includeFile first underTable
          { fileName := fileName, lineNumber := lineNumber + 1 }
        have nonempty : line.tokens ≠ [] := by
          cases line with
          | table made => nofun
          | field made => nofun
          | option made => cases made <;> nofun
        rw [← noted] at rest
        have again := EStateM.Result.eq_ok (ih others rest (lineNumber + 1))
        rw [if_pos short, List.takeWhile_cons, if_pos (decide_eq_true short)]
        simp only [tokenize_written first, if_neg nonempty]
        rw [run_bind_of_ok ran, run_bind_of_ok again]
        rfl
      · rw [if_neg short, List.takeWhile_cons, decide_eq_false short]
        rfl

theorem openFirst_of_ok {fs : FileSystem} {path text : Bytes} (opened : fs path = .ok text)
    (rest : List Bytes) : openFirst fs (path :: rest) = .ok text := by
  cases rest with
  | nil => exact opened
  | cons next rest => rw [openFirst, opened]; exact nofun

theorem run_parse_written {lines : List Line} (proper : ∀ line ∈ lines, line.Proper)
    {before : Statics} (placed : Placed before.lastTldWasTable lines) {fs : FileSystem}
    {fileName : Bytes} (written : fs fileName = .ok (generateSsqls2 lines)) (depth : Nat) :
    ((parse fs (depth + 1) fileName).run before).outcome =
      .ok (lines.takeWhile fun line => line.written.length < bufferSize) := by
  have opened : (openFile fs fileName).run before =
      .ok (generateSsqls2 lines) (addDirectoryToSearchPath fileName before) := by
    rw [openFile, run_bind_of_ok (x := get) rfl]
    simp only [openFirst_of_ok written]
    rfl
  have terminated : textLines (byte '\n') (generateSsqls2 lines) = lines.map Line.written := by
    apply textLines_unlines
    intro text member
    obtain ⟨line, inLines, rfl⟩ := List.mem_map.mp member
    intro newline
    exact (Line.plain_written (proper line inLines) _ newline).1 rfl
  rw [parse, run_bind_of_ok opened, terminated]
  apply run_parseLines_written _ proper
  rw [lastTldWasTable_addDirectoryToSearchPath]
  exact placed

end Written

/-! ### Lines that fit -/

def Table.Fits (self : Table) : Prop :=
  self.name.length + self.aliasName.length + self.filebase.length ≤ 76

def Field.Fits (self : Field) : Prop :=
  self.name.length + self.type.name.length + (if self.isAutoinc then 11 else 0) +
    (if self.isKey then 7 else 0) + (if self.isNull then 8 else 0) +
    (if self.isUnsigned then 12 else 0) +
    (if self.aliasName ≠ [] then 7 + self.aliasName.length else 0) ≤ 86

def OptionLine.Fits : OptionLine → Prop
  | headerExtension value => value.length ≤ 75
  | implementationExtension value => value.length ≤ 67
  | _ => True

/-- The names are short enough. A table prints three names, also where its declaration
has one, and the attributes of a field count with their names. -/
def Line.Fits : Line → Prop
  | table made => made.Fits
  | field made => made.Fits
  | option made => made.Fits

theorem Table.written_short_iff {made : Table} (proper : made.Proper) :
    (Line.table made).written.length < bufferSize ↔ made.Fits := by
  have length : (Line.table made).written.length =
      23 + (made.name.length + made.aliasName.length + made.filebase.length) := by
    rw [Line.written, Line.print, Table.print, if_pos proper.aliasName.nonempty,
      if_pos proper.filebase.nonempty]
    simp [Line.isField, ascii]
    omega
  rw [length, Table.Fits, bufferSize]
  omega

theorem Field.written_short_iff (made : Field) :
    (Line.field made).written.length < bufferSize ↔ made.Fits := by
  have length_ite : ∀ (given : Prop) [Decidable given] (text : Bytes),
      (if given then text else []).length = if given then text.length else 0 := by
    intro given _ text
    split <;> rfl
  simp only [Line.written, Line.print, Line.isField, Field.print, TypeValue.print, Field.Fits,
    List.length_append, length_ite, bufferSize]
  simp [ascii]
  omega

theorem OptionLine.written_short_iff (made : OptionLine) :
    (Line.option made).written.length < bufferSize ↔ made.Fits := by
  cases made with
  | accessorStyle type =>
      refine iff_of_true ?_ trivial
      cases type <;> decide
  | exceptionOnSchemaMismatch throws =>
      refine iff_of_true ?_ trivial
      cases throws <;> decide
  | headerExtension value =>
      simp [Line.written, Line.print, Line.isField, OptionLine.print, OptionLine.Fits, ascii,
        bufferSize]
      omega
  | implementationExtension value =>
      simp [Line.written, Line.print, Line.isField, OptionLine.print, OptionLine.Fits, ascii,
        bufferSize]
      omega

theorem Line.written_short_iff {line : Line} (proper : line.Proper) :
    line.written.length < bufferSize ↔ line.Fits := by
  cases line with
  | table made => exact Table.written_short_iff proper
  | field made => exact made.written_short_iff
  | option made => exact made.written_short_iff

/-! ### The fixed point -/

/-- The lines of a file that a new process parses without an exception. -/
def Accepts (fs : FileSystem) (fileName : Bytes) (lines : List Line) : Prop :=
  ∃ depth, ((parse fs depth fileName).run Statics.initial).outcome = .ok lines

/-- A file has one parse. -/
theorem Accepts.unique {fs : FileSystem} {fileName : Bytes} {lines others : List Line}
    (first : Accepts fs fileName lines) (second : Accepts fs fileName others) :
    lines = others := by
  obtain ⟨depth, returned⟩ := first
  obtain ⟨more, again⟩ := second
  have left := parse_extends_of_le fs (Nat.le_max_left depth more) (EStateM.Result.eq_ok returned)
  have right := parse_extends_of_le fs (Nat.le_max_right depth more) (EStateM.Result.eq_ok again)
  rw [left] at right
  exact (EStateM.Result.ok.inj right).1

/-- What is generated from the lines is accepted wherever it is written to, and gives
the same text and the same lines. -/
def Regenerates (lines : List Line) : Prop :=
  ∀ fs out, fs out = .ok (generateSsqls2 lines) →
    ∃ again, Accepts fs out again ∧ generateSsqls2 again = generateSsqls2 lines ∧ again = lines

theorem accounted_of_accepts {fs : FileSystem} {fileName : Bytes} {lines : List Line}
    (accepted : Accepts fs fileName lines) :
    (∀ line ∈ lines, line.Proper) ∧ Placed false lines := by
  obtain ⟨depth, returned⟩ := accepted
  have accounted := accounted_of_parse (EStateM.Result.eq_ok returned)
  exact ⟨accounted.proper, accounted.placed false nofun⟩

/-- The second parse has no errors, but it may have fewer lines. -/
theorem accepts_generated_iff {lines : List Line} (proper : ∀ line ∈ lines, line.Proper)
    (placed : Placed false lines) {fs : FileSystem} {out : Bytes}
    (written : fs out = .ok (generateSsqls2 lines)) (again : List Line) :
    Accepts fs out again ↔
      again = lines.takeWhile fun line => line.written.length < bufferSize := by
  let kept := lines.takeWhile fun line => line.written.length < bufferSize
  have parsed : Accepts fs out kept := ⟨1, run_parse_written proper placed written 0⟩
  constructor
  · intro accepted
    exact accepted.unique parsed
  · intro same
    rw [same]
    exact parsed

theorem regenerates_iff {lines : List Line} (proper : ∀ line ∈ lines, line.Proper)
    (placed : Placed false lines) : Regenerates lines ↔ ∀ line ∈ lines, line.Fits := by
  have short : (lines.takeWhile fun line => line.written.length < bufferSize) = lines ↔
      ∀ line ∈ lines, line.Fits := by
    rw [List.takeWhile_eq_self_iff]
    exact forall₂_congr fun line member =>
      decide_eq_true_iff.trans (Line.written_short_iff (proper line member))
  rw [← short]
  constructor
  · intro regenerates
    -- A file system that has only what was written.
    let fs : FileSystem := fun _ => .ok (generateSsqls2 lines)
    have written : fs [] = .ok (generateSsqls2 lines) := rfl
    obtain ⟨again, accepted, -, same⟩ := regenerates fs [] written
    have cut := (accepts_generated_iff proper placed written again).mp accepted
    exact cut.symm.trans same
  · intro whole fs out written
    refine ⟨lines, ?_, rfl, rfl⟩
    rw [accepts_generated_iff proper placed written]
    exact whole.symm

/-- A parse is written to a text that parses to it again if and only if the names in
it are short enough. -/
theorem regeneration_iff {fs : FileSystem} {fileName : Bytes} {lines : List Line}
    (accepted : Accepts fs fileName lines) :
    Regenerates lines ↔ ∀ line ∈ lines, line.Fits := by
  obtain ⟨proper, placed⟩ := accounted_of_accepts accepted
  exact regenerates_iff proper placed

/-- Two files, one of which includes the other. -/
def stockFiles : FileSystem := fun path =>
  if path = ascii "all.ssqls" then
    .ok (ascii "option accessor_style get_x\ninclude stock.ssqls # tables\n\tfield num type INT1")
  else if path = ascii "stock.ssqls" then
    .ok (ascii "table stock alias Stock\n\n field item type VARCHAR is key\n")
  else .error (ascii "No such file or directory")

def stockLines : List Line :=
  [.option (.accessorStyle .stroustrup),
    .table { name := ascii "stock", aliasName := ascii "Stock", filebase := ascii "stock" },
    .field { name := ascii "item", type := .string, isAutoinc := false, isKey := true
             isNull := false, isUnsigned := false, aliasName := [] },
    .field { name := ascii "num", type := .tinyint, isAutoinc := false, isKey := false
             isNull := false, isUnsigned := false, aliasName := [] }]

theorem regeneration_iff_stock :
    Accepts stockFiles (ascii "all.ssqls") stockLines ∧
      (Regenerates stockLines ↔ ∀ line ∈ stockLines, line.Fits) :=
  have accepted : Accepts stockFiles (ascii "all.ssqls") stockLines := ⟨2, by decide +kernel⟩
  ⟨accepted, regeneration_iff accepted⟩

def longNameLines : List Line :=
  [.table (.new (ascii "customer_orders_by_quarter") [] [])]

/-- A line of 32 characters is printed as one of 101. -/
theorem long_name_vanishes :
    Accepts (fun _ => .ok (ascii "table customer_orders_by_quarter")) (ascii "orders.ssqls")
        longNameLines ∧
      ¬ Regenerates longNameLines := by
  have accepted : Accepts (fun _ => .ok (ascii "table customer_orders_by_quarter"))
      (ascii "orders.ssqls") longNameLines := ⟨1, by decide +kernel⟩
  obtain ⟨proper, placed⟩ := accounted_of_accepts accepted
  refine ⟨accepted, fun regenerates => ?_⟩
  have fits := (regenerates_iff proper placed).mp regenerates _ List.mem_cons_self
  have tooLong : ¬ 26 + 26 + 26 ≤ 76 := by decide
  exact tooLong fits

end LibTabula.ParseV2
