/-
What one line of an SSQLS v2 file does, and what the loop makes of it.

A line that is parsed without an exception gives the same lines and leaves the same
static variables whatever the file is called, since a name is needed for errors only.
Said once here, with nothing left out, it is what the proofs about whole parses go by.
-/

import LibTabula.SsqlsAttributes
import LibTabula.SearchPath

set_option autoImplicit false

namespace LibTabula.ParseV2

open Foundation

/-! ### Directives without their file -/

theorem Table.parse_ok_anywhere {tl : List Bytes} {subdirective : Bool} {file : File}
    {made : Table} (parsed : Table.parse tl subdirective file = .ok made) (other : File) :
    Table.parse tl subdirective other = .ok made :=
  (Table.parse_ok_iff other tl subdirective made).mpr
    ((Table.parse_ok_iff file tl subdirective made).mp parsed)

theorem Field.parse_ok_anywhere {tl : List Bytes} {subdirective : Bool} {file : File}
    {made : Field} (parsed : Field.parse tl subdirective file = .ok made) (other : File) :
    Field.parse tl subdirective other = .ok made := by
  rw [Field.parse_ok_iff] at parsed ⊢
  -- What an attribute does is an error without file and line, or no error.
  exact parsed

theorem OptionLine.parse_ok_anywhere {tl : List Bytes} {subdirective : Bool} {file : File}
    {made : OptionLine} (parsed : OptionLine.parse tl subdirective file = .ok made)
    (other : File) : OptionLine.parse tl subdirective other = .ok made := by
  unfold OptionLine.parse at parsed ⊢
  split at parsed
  next directive name value =>
    split at parsed
    next => cases parsed
    next topLevel =>
      rw [if_neg topLevel]
      exact parsed
  next => cases parsed

theorem includeParse_ok_anywhere {tl : List Bytes} {subdirective : Bool} {file : File}
    {fileName : Bytes} (parsed : includeParse tl subdirective file = .ok fileName)
    (other : File) : includeParse tl subdirective other = .ok fileName := by
  unfold includeParse at parsed ⊢
  split at parsed
  next directive name =>
    split at parsed
    next => cases parsed
    next topLevel =>
      rw [if_neg topLevel]
      exact parsed
  next => cases parsed

/-! ### One line -/

/-- What a directive gives, and the static variables after it. -/
inductive Line.Gives (includeFile : Bytes → EStateM Exception Statics (List Line))
    (tl : List Bytes) (subdirective : Bool) (before : Statics) : List Line → Statics → Prop
  | table (isTable : strToLwr (tl.headD []) = ascii "table") {made : Table}
      (parsed : ∀ file, Table.parse tl subdirective file = .ok made) :
      Gives includeFile tl subdirective before [.table made]
        { before with lastTldWasTable := true }
  | field (isField : strToLwr (tl.headD []) = ascii "field")
      (underTable : before.lastTldWasTable = true) {made : Field}
      (parsed : ∀ file, Field.parse tl subdirective file = .ok made) :
      Gives includeFile tl subdirective before [.field made] before
  | option (isOption : strToLwr (tl.headD []) = ascii "option") {made : OptionLine}
      (parsed : ∀ file, OptionLine.parse tl subdirective file = .ok made) :
      Gives includeFile tl subdirective before [.option made]
        { before with lastTldWasTable := false }
  | included (isInclude : strToLwr (tl.headD []) = ascii "include") {fileName : Bytes}
      (named : ∀ file, includeParse tl subdirective file = .ok fileName)
      {lines : List Line} {after : Statics}
      (ran : (includeFile fileName).run { before with lastTldWasTable := false } =
        .ok lines after) :
      Gives includeFile tl subdirective before lines after

/-- Whether a line that is parsed is indented. -/
theorem Table.topLevel_of_parse {tl : List Bytes} {subdirective : Bool} {file : File}
    {made : Table} (parsed : Table.parse tl subdirective file = .ok made) :
    subdirective = false :=
  ((Table.parse_ok_iff file tl subdirective made).mp parsed).1.topLevel

theorem Field.indented_of_parse {tl : List Bytes} {subdirective : Bool} {file : File}
    {made : Field} (parsed : Field.parse tl subdirective file = .ok made) :
    subdirective = true :=
  ((Field.parse_ok_iff file tl subdirective made).mp parsed).1.indented

theorem OptionLine.topLevel_of_parse {tl : List Bytes} {subdirective : Bool} {file : File}
    {made : OptionLine} (parsed : OptionLine.parse tl subdirective file = .ok made) :
    subdirective = false := by
  unfold OptionLine.parse at parsed
  split at parsed
  · cases subdirective with
    | false => rfl
    | true => cases parsed
  · cases parsed

section Line

variable {includeFile : Bytes → EStateM Exception Statics (List Line)} {tl : List Bytes}
  {subdirective : Bool} {before after : Statics} {lines : List Line}

theorem run_noteDirective (isTable subdirective : Bool) (before : Statics) :
    (modify (noteDirective isTable subdirective) : EStateM Exception Statics PUnit).run before =
      .ok () (noteDirective isTable subdirective before) := rfl

theorem Line.parse_ok_iff (file : File) :
    (Line.parse includeFile tl subdirective file).run before = .ok lines after ↔
      Gives includeFile tl subdirective before lines after := by
  have fieldTable : ascii "field" ≠ ascii "table" := by decide
  have includeTable : ascii "include" ≠ ascii "table" := by decide
  have includeField : ascii "include" ≠ ascii "field" := by decide
  have optionTable : ascii "option" ≠ ascii "table" := by decide
  have optionField : ascii "option" ≠ ascii "field" := by decide
  have optionInclude : ascii "option" ≠ ascii "include" := by decide
  constructor
  · intro ran
    unfold Line.parse at ran
    extract_lets directive at ran
    rw [run_bind_of_ok (run_noteDirective _ _ _)] at ran
    split at ran
    next isTable =>
      obtain ⟨made, parsed, returned⟩ := exists_of_run_ofExcept_bind ran
      obtain rfl := Table.topLevel_of_parse parsed
      cases returned
      rw [decide_eq_true isTable]
      exact .table isTable (Table.parse_ok_anywhere parsed)
    next notTable =>
      rw [decide_eq_false notTable] at ran
      split at ran
      next isField =>
        obtain ⟨_, _, got, ran⟩ := exists_of_run_bind_ok ran
        cases got
        split at ran
        next underTable =>
          obtain ⟨made, parsed, returned⟩ := exists_of_run_ofExcept_bind ran
          obtain rfl := Field.indented_of_parse parsed
          cases returned
          exact .field isField underTable (Field.parse_ok_anywhere parsed)
        next => cases ran
      next =>
        split at ran
        next isInclude =>
          obtain ⟨fileName, parsed, ran⟩ := exists_of_run_ofExcept_bind ran
          obtain rfl := topLevel_of_include parsed
          exact .included isInclude (includeParse_ok_anywhere parsed) ran
        next =>
          split at ran
          next isOption =>
            obtain ⟨made, parsed, returned⟩ := exists_of_run_ofExcept_bind ran
            obtain rfl := OptionLine.topLevel_of_parse parsed
            cases returned
            exact .option isOption (OptionLine.parse_ok_anywhere parsed)
          next => cases ran
  · intro gives
    unfold Line.parse
    extract_lets directive
    rw [run_bind_of_ok (run_noteDirective _ _ _)]
    cases gives with
    | table isTable parsed =>
        obtain rfl := Table.topLevel_of_parse (parsed file)
        rw [if_pos isTable, parsed file, decide_eq_true isTable]
        rfl
    | field isField underTable parsed =>
        obtain rfl := Field.indented_of_parse (parsed file)
        have notTable : directive ≠ ascii "table" := by
          intro same
          exact fieldTable (isField.symm.trans same)
        rw [if_neg notTable, if_pos isField, run_bind_of_ok (x := get) rfl]
        have under : (noteDirective (decide (directive = ascii "table")) true
            before).lastTldWasTable = true := underTable
        rw [if_pos under, parsed file]
        rfl
    | option isOption parsed =>
        obtain rfl := OptionLine.topLevel_of_parse (parsed file)
        have notTable : directive ≠ ascii "table" :=
          fun same => optionTable (isOption.symm.trans same)
        have notField : directive ≠ ascii "field" :=
          fun same => optionField (isOption.symm.trans same)
        have notInclude : directive ≠ ascii "include" :=
          fun same => optionInclude (isOption.symm.trans same)
        rw [if_neg notTable, if_neg notField, if_neg notInclude, if_pos isOption, parsed file,
          decide_eq_false notTable]
        rfl
    | included isInclude named ran =>
        obtain rfl := topLevel_of_include (named file)
        have notTable : directive ≠ ascii "table" :=
          fun same => includeTable (isInclude.symm.trans same)
        have notField : directive ≠ ascii "field" :=
          fun same => includeField (isInclude.symm.trans same)
        rw [if_neg notTable, if_neg notField, if_pos isInclude, named file,
          decide_eq_false notTable]
        exact ran

end Line

/-! ### Includes, and directives by themselves -/

/-- The file that a directive includes. -/
def includedFile (tl : List Bytes) (subdirective : Bool) : Option Bytes :=
  match tl with
  | [directive, fileName] =>
      if strToLwr directive = ascii "include" ∧ subdirective = false then some fileName else none
  | _ => none

theorem includeParse_of_includedFile {tl : List Bytes} {subdirective : Bool} {fileName : Bytes}
    (named : includedFile tl subdirective = some fileName) :
    strToLwr (tl.headD []) = ascii "include" ∧ subdirective = false ∧
      ∀ file, includeParse tl subdirective file = .ok fileName := by
  unfold includedFile at named
  split at named
  next directive other =>
    split at named
    next includes =>
      obtain ⟨isInclude, topLevel⟩ := includes
      cases named
      subst topLevel
      exact ⟨isInclude, rfl, fun _ => rfl⟩
    next => cases named
  next => cases named

theorem includedFile_of_includeParse {tl : List Bytes} {subdirective : Bool} {file : File}
    {fileName : Bytes} (isInclude : strToLwr (tl.headD []) = ascii "include")
    (parsed : includeParse tl subdirective file = .ok fileName) :
    includedFile tl subdirective = some fileName := by
  obtain rfl := topLevel_of_include parsed
  unfold includeParse at parsed
  split at parsed
  next directive other =>
    cases parsed
    exact if_pos ⟨isInclude, rfl⟩
  next => cases parsed

section Include

variable {tl : List Bytes} {subdirective : Bool} {fileName : Bytes}

theorem Line.run_parse_of_included (named : includedFile tl subdirective = some fileName)
    (includeFile : Bytes → EStateM Exception Statics (List Line)) (file : File)
    (before : Statics) :
    (Line.parse includeFile tl subdirective file).run before =
      (includeFile fileName).run { before with lastTldWasTable := false } := by
  have includeTable : ascii "include" ≠ ascii "table" := by decide
  have includeField : ascii "include" ≠ ascii "field" := by decide
  obtain ⟨isInclude, topLevel, parsed⟩ := includeParse_of_includedFile named
  subst topLevel
  unfold Line.parse
  extract_lets directive
  have notTable : directive ≠ ascii "table" := fun same => includeTable (isInclude.symm.trans same)
  have notField : directive ≠ ascii "field" := fun same => includeField (isInclude.symm.trans same)
  rw [run_bind_of_ok (run_noteDirective _ _ _), if_neg notTable, if_neg notField,
    if_pos isInclude, parsed file, decide_eq_false notTable]
  rfl

/-- Other directives are the same whatever an include would do. -/
theorem Line.parse_of_not_included (alone : includedFile tl subdirective = none)
    (includeFile other : Bytes → EStateM Exception Statics (List Line)) (file : File) :
    Line.parse includeFile tl subdirective file = Line.parse other tl subdirective file := by
  unfold Line.parse
  extract_lets directive
  by_cases isInclude : directive = ascii "include"
  · cases parsed : includeParse tl subdirective file with
    | ok fileName =>
        rw [includedFile_of_includeParse isInclude parsed] at alone
        cases alone
    | error failure => rfl
  · rw [if_neg isInclude, if_neg isInclude]

end Include

/-! ### Errors of a directive -/

/-- An exception about the line that a file is at, or one that has lost it. -/
inductive ErrorOf (file : File) : Exception → Prop
  | located (what : Bytes) : ErrorOf file (.parse what file.fileName file.lineNumber)
  | lost (what : Bytes) : ErrorOf file (.file what)

theorem ErrorOf.line {file : File} {what fileName : Bytes} {lineNumber : Nat}
    (about : ErrorOf file (.parse what fileName lineNumber)) :
    fileName = file.fileName ∧ lineNumber = file.lineNumber := by
  cases about
  exact ⟨rfl, rfl⟩

section Errors

variable {file : File} {tl : List Bytes} {subdirective : Bool} {failure : Exception}

/-- What is wrong with an attribute is reported without the line. -/
theorem lost_readAttributes {σ : Type} {setAttribute : Bytes → Bytes → σ → Except Exception σ}
    (lost : ∀ {attr value read failure}, setAttribute attr value read = .error failure →
      ∃ what, failure = .file what)
    {read : σ} (thrown : readAttributes setAttribute tl read = .error failure) :
    ∃ what, failure = .file what := by
  induction tl, read using readAttributes.induct with
  | case1 attr value rest read ih =>
      rw [readAttributes] at thrown
      cases first : setAttribute (strToLwr attr) value read with
      | error other =>
          rw [first] at thrown
          cases thrown
          exact lost first
      | ok next =>
          rw [first] at thrown
          exact ih next thrown
  | case2 rest read short =>
      rw [readAttributes] at thrown
      · cases thrown
      · exact short

theorem Table.lost_setAttribute {name attr value : Bytes} {read : Bytes × Bytes}
    (refused : Table.setAttribute name file attr value read = .error failure) :
    ∃ what, failure = .file what := by
  obtain ⟨aliasName, filebase⟩ := read
  rw [Table.setAttribute] at refused
  split at refused
  · cases refused
  split at refused
  · cases refused
  · cases refused
    exact ⟨_, rfl⟩

theorem Table.errorOf_parse (thrown : Table.parse tl subdirective file = .error failure) :
    ErrorOf file failure := by
  unfold Table.parse at thrown
  split at thrown
  next directive name rest =>
    split at thrown
    next =>
      cases thrown
      exact .located _
    next =>
      cases read : readAttributes (Table.setAttribute name file) rest ([], []) with
      | ok last =>
          rw [read] at thrown
          cases thrown
      | error other =>
          rw [read] at thrown
          cases thrown
          obtain ⟨what, rfl⟩ := lost_readAttributes Table.lost_setAttribute read
          exact .lost what
  next =>
    cases thrown
    exact .located _

theorem Field.lost_setAttribute {name attr value : Bytes} {read : FieldAttributes}
    (refused : Field.setAttribute name file attr value read = .error failure) :
    ∃ what, failure = .file what := by
  unfold Field.setAttribute at refused
  split at refused
  · cases refused
  split at refused
  · split at refused
    · cases refused
    split at refused
    · cases refused
    split at refused
    · cases refused
    split at refused
    · cases refused
    · cases refused
      exact ⟨_, rfl⟩
  split at refused
  · cases refused
  · cases refused
    exact ⟨_, rfl⟩

theorem Field.errorOf_parse (thrown : Field.parse tl subdirective file = .error failure) :
    ErrorOf file failure := by
  unfold Field.parse at thrown
  split at thrown
  next directive name rest =>
    split at thrown
    next =>
      cases thrown
      exact .located _
    next =>
      cases read : readAttributes (Field.setAttribute name file) rest .none with
      | ok last =>
          rw [read] at thrown
          cases thrown
      | error other =>
          rw [read] at thrown
          cases thrown
          obtain ⟨what, rfl⟩ := lost_readAttributes Field.lost_setAttribute read
          exact .lost what
  next =>
    cases thrown
    exact .located _

theorem OptionLine.errorOf_parse (thrown : OptionLine.parse tl subdirective file = .error failure) :
    ErrorOf file failure := by
  unfold OptionLine.parse at thrown
  split at thrown
  next directive name value =>
    split at thrown
    · cases thrown
      exact .located _
    split at thrown
    next =>
      cases style : AccessorStyle.parseType value file with
      | ok type =>
          rw [style] at thrown
          cases thrown
      | error other =>
          rw [style] at thrown
          cases thrown
          unfold AccessorStyle.parseType at style
          repeat' split at style
          all_goals cases style
          exact .lost _
    split at thrown
    · cases thrown
    split at thrown
    · cases thrown
    split at thrown
    · cases thrown
    · cases thrown
      exact .lost _
  next =>
    cases thrown
    exact .located _

theorem errorOf_includeParse (thrown : includeParse tl subdirective file = .error failure) :
    ErrorOf file failure := by
  unfold includeParse at thrown
  split at thrown
  · split at thrown
    · cases thrown
      exact .located _
    · cases thrown
  · cases thrown
    exact .located _

theorem run_ofExcept_bind_error {α β : Type} {x : Except Exception α}
    {f : α → EStateM Exception Statics β} (returns : ∀ value state, ∃ result,
      (f value).run state = .ok result state) {before after : Statics}
    (thrown : (ofExcept x >>= f).run before = .error failure after) : x = .error failure := by
  cases x with
  | ok value =>
      obtain ⟨result, returned⟩ := returns value before
      have ran : (f value).run before = .error failure after := thrown
      rw [returned] at ran
      cases ran
  | error other =>
      cases thrown
      rfl

theorem Line.errorOf_parse (alone : includedFile tl subdirective = none)
    {includeFile : Bytes → EStateM Exception Statics (List Line)} {before after : Statics}
    (thrown : (Line.parse includeFile tl subdirective file).run before = .error failure after) :
    ErrorOf file failure := by
  unfold Line.parse at thrown
  extract_lets directive at thrown
  rw [run_bind_of_ok (run_noteDirective _ _ _)] at thrown
  split at thrown
  · exact Table.errorOf_parse (run_ofExcept_bind_error (fun value state => ⟨_, rfl⟩) thrown)
  split at thrown
  · rw [run_bind_of_ok (x := get) rfl] at thrown
    split at thrown
    · exact Field.errorOf_parse (run_ofExcept_bind_error (fun value state => ⟨_, rfl⟩) thrown)
    · cases thrown
      exact .located _
  split at thrown
  next isInclude =>
    cases parsed : includeParse tl subdirective file with
    | ok fileName =>
        rw [includedFile_of_includeParse isInclude parsed] at alone
        cases alone
    | error other =>
        rw [parsed] at thrown
        cases thrown
        exact errorOf_includeParse parsed
  split at thrown
  · exact OptionLine.errorOf_parse (run_ofExcept_bind_error (fun value state => ⟨_, rfl⟩) thrown)
  · cases thrown
    exact .lost _

end Errors

/-! ### The loop -/

/-- A line that is handed over to be parsed, with its number. -/
structure Directive where
  tl : List Bytes
  subdirective : Bool
  lineNumber : Nat
deriving DecidableEq, Repr

def Directive.includedFile (self : Directive) : Option Bytes :=
  ParseV2.includedFile self.tl self.subdirective

/-- What is handed over of the lines that are ahead. A line that does not fit into the
buffer is the end, and blank lines are left out. -/
def handed : List Bytes → Nat → List Directive
  | [], _ => []
  | temp :: ahead, lineNumber =>
      match readLine temp with
      | none => []
      | some (line, subdirective) =>
          if tokenize line = [] then handed ahead (lineNumber + 1)
          else
            { tl := tokenize line, subdirective := subdirective, lineNumber := lineNumber + 1 } ::
              handed ahead (lineNumber + 1)

theorem lineNumber_of_mem_handed {ahead : List Bytes} {lineNumber : Nat} {directive : Directive}
    (member : directive ∈ handed ahead lineNumber) : lineNumber < directive.lineNumber := by
  induction ahead generalizing lineNumber with
  | nil => cases member
  | cons temp ahead ih =>
      rw [handed] at member
      split at member
      next => cases member
      next =>
        split at member
        next => exact Nat.lt_of_succ_lt (ih member)
        next =>
          rcases List.mem_cons.mp member with rfl | later
          · exact Nat.lt_succ_self lineNumber
          · exact Nat.lt_of_succ_lt (ih later)

/-- No two directives have the same number. -/
theorem lineNumber_lt_of_handed {ahead : List Bytes} {lineNumber : Nat} {first : Directive}
    {rest : List Directive} (same : handed ahead lineNumber = first :: rest) :
    ∀ directive ∈ rest, first.lineNumber < directive.lineNumber := by
  induction ahead generalizing lineNumber with
  | nil => cases same
  | cons temp ahead ih =>
      rw [handed] at same
      split at same
      next => cases same
      next =>
        split at same
        next => exact ih same
        next =>
          cases same
          exact fun directive => lineNumber_of_mem_handed

/-- The directives of a file, one after the other. -/
def interpret (includeFile : Bytes → EStateM Exception Statics (List Line)) (fileName : Bytes) :
    List Directive → EStateM Exception Statics (List Line)
  | [] => return []
  | directive :: ahead => do
      let parsed ← Line.parse includeFile directive.tl directive.subdirective
        { fileName := fileName, lineNumber := directive.lineNumber }
      let rest ← interpret includeFile fileName ahead
      return parsed ++ rest

/-- Reading a file and making sense of it can be taken apart. -/
theorem parseLines_eq_interpret (includeFile : Bytes → EStateM Exception Statics (List Line))
    (fileName : Bytes) (ahead : List Bytes) (lineNumber : Nat) :
    parseLines includeFile fileName ahead lineNumber =
      interpret includeFile fileName (handed ahead lineNumber) := by
  induction ahead generalizing lineNumber with
  | nil => rfl
  | cons temp ahead ih =>
      rw [parseLines, handed]
      cases readLine temp with
      | none => rfl
      | some read =>
          obtain ⟨line, subdirective⟩ := read
          dsimp only
          by_cases blank : tokenize line = []
          · rw [if_pos blank, if_pos blank]
            exact ih (lineNumber + 1)
          · rw [if_neg blank, if_neg blank, interpret, ih]

/-- The lines of a text that are handed over. -/
def directives (text : Bytes) : List Directive := handed (textLines (byte '\n') text) 1

/-- What the directives of a file give, and the static variables after them. -/
inductive Interprets (includeFile : Bytes → EStateM Exception Statics (List Line)) :
    List Directive → Statics → List Line → Statics → Prop
  | nil (before : Statics) : Interprets includeFile [] before [] before
  | cons {directive : Directive} {ahead : List Directive} {before middle after : Statics}
      {lines rest : List Line}
      (gives : Line.Gives includeFile directive.tl directive.subdirective before lines middle)
      (later : Interprets includeFile ahead middle rest after) :
      Interprets includeFile (directive :: ahead) before (lines ++ rest) after

theorem interpret_ok_iff {includeFile : Bytes → EStateM Exception Statics (List Line)}
    (fileName : Bytes) {ahead : List Directive} {before after : Statics} {lines : List Line} :
    (interpret includeFile fileName ahead).run before = .ok lines after ↔
      Interprets includeFile ahead before lines after := by
  induction ahead generalizing before lines with
  | nil =>
      constructor
      · intro ran
        cases ran
        exact .nil _
      · intro interprets
        cases interprets
        rfl
  | cons directive ahead ih =>
      constructor
      · intro ran
        obtain ⟨parsed, middle, first, ran⟩ := exists_of_run_bind_ok ran
        obtain ⟨rest, _, later, returned⟩ := exists_of_run_bind_ok ran
        cases returned
        exact .cons ((Line.parse_ok_iff _).mp first) (ih.mp later)
      · intro interprets
        cases interprets with
        | cons gives later =>
            rw [interpret, run_bind_of_ok ((Line.parse_ok_iff _).mpr gives),
              run_bind_of_ok (ih.mpr later)]
            rfl

/-! ### Files -/

/-- A file that is to be parsed, and the static variables by then. -/
structure Call where
  before : Statics
  fileName : Bytes

/-- The text that a call reads. -/
def Call.contents (fs : FileSystem) (self : Call) : Option Bytes :=
  (opened fs self.before.searchPath self.fileName).bind fun path => (fs path).toOption

/-- The static variables when the file has been opened. -/
def Call.start (self : Call) : Statics := addDirectoryToSearchPath self.fileName self.before

section Call

variable {fs : FileSystem} {call : Call} {text : Bytes}

theorem Call.contents_eq_some_iff :
    call.contents fs = some text ↔
      ∃ path, opened fs call.before.searchPath call.fileName = some path ∧ fs path = .ok text := by
  rw [contents, Option.bind_eq_some_iff]
  apply exists_congr
  intro path
  apply and_congr_right
  intro _
  cases fs path with
  | ok other =>
      change some other = some text ↔ _
      rw [Option.some.injEq, Except.ok.injEq]
  | error reason => exact iff_of_false nofun nofun

theorem run_openFile_of_contents (read : call.contents fs = some text) :
    (openFile fs call.fileName).run call.before = .ok text call.start := by
  obtain ⟨path, found, isText⟩ := Call.contents_eq_some_iff.mp read
  exact run_openFile_of_opened found isText

theorem run_openFile_of_no_contents (missing : call.contents fs = none) :
    ∃ what, (openFile fs call.fileName).run call.before = .error (.file what) call.before := by
  apply run_openFile_of_not_opened
  cases found : opened fs call.before.searchPath call.fileName with
  | none => rfl
  | some path =>
      have isOk := List.find?_some found
      cases read : fs path with
      | ok text =>
          rw [Call.contents_eq_some_iff.mpr ⟨path, found, read⟩] at missing
          cases missing
      | error reason =>
          rw [read] at isOk
          cases isOk

theorem run_parse_of_contents (read : call.contents fs = some text) (depth : Nat) :
    (parse fs (depth + 1) call.fileName).run call.before =
      (interpret (parse fs depth) call.fileName (directives text)).run call.start := by
  rw [parse, run_bind_of_ok (run_openFile_of_contents read), parseLines_eq_interpret]
  rfl

theorem run_parse_of_no_contents (missing : call.contents fs = none) (depth : Nat) :
    ∃ what, (parse fs (depth + 1) call.fileName).run call.before =
      .error (.file what) call.before := by
  obtain ⟨what, ran⟩ := run_openFile_of_no_contents missing
  exact ⟨what, by rw [parse, run_bind_of_error ran]⟩

end Call

/-! ### Deeper includes -/

section Outlasts

variable {first second : Bytes → EStateM Exception Statics (List Line)}
  (included : ∀ fileName, Outlasts .stackOverflow (first fileName) (second fileName))

include included

theorem interpret_outlasts (fileName : Bytes) (ahead : List Directive) :
    Outlasts .stackOverflow (interpret first fileName ahead) (interpret second fileName ahead) := by
  induction ahead with
  | nil => exact .refl _
  | cons directive ahead ih =>
      apply Outlasts.bind (Line.parse_outlasts included _ _ _)
      intro parsed
      exact .bind ih fun rest => .refl _

end Outlasts

end LibTabula.ParseV2
