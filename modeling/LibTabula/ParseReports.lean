/-
What the parser says about a line that is not a directive.

The line counter starts at one and is increased before a line is parsed, so an exception
names the line behind the one that it is about, and the exceptions whose text is put
together by a stream lose file and line altogether. No file has its first offending
line reported, whatever it includes in front of that line.
-/

import LibTabula.WholeFiles

set_option autoImplicit false

namespace LibTabula.ParseV2

open Foundation
open Relation (TransGen ReflTransGen)

/-! ### Valid lines -/

/-- An option that is known, and a style that is if the option has one. -/
def KnownOption (name value : Bytes) : Prop :=
  name ∈ [ascii "exception_on_schema_mismatch", ascii "header_extension",
      ascii "implementation_extension"] ∨
    name = ascii "accessor_style" ∧
      value ∈ [ascii "getX", ascii "GetX", ascii "get_x", ascii "x"]

/-- A directive of the language. Fields stand under a table of the same file. -/
inductive ValidDirective (tl : List Bytes) (subdirective underTable : Bool) : Prop
  | table (isTable : strToLwr (tl.headD []) = ascii "table")
      (taken : Table.Taken tl subdirective) (complete : tl.length % 2 = 0)
  | field (isField : strToLwr (tl.headD []) = ascii "field") (under : underTable = true)
      (taken : Field.Taken tl subdirective) (complete : tl.length % 2 = 0)
  | included (isInclude : strToLwr (tl.headD []) = ascii "include")
      (topLevel : subdirective = false) (named : tl.length = 2)
  | option (isOption : strToLwr (tl.headD []) = ascii "option") (topLevel : subdirective = false)
      {directive name value : Bytes} (two : tl = [directive, name, value])
      (known : KnownOption name value)

/-- A line that is neither blank nor a directive. A NUL has no place in a directive. -/
def Offends (temp : Bytes) (underTable : Bool) : Prop :=
  0 ∈ withoutComment temp ∨
    ∃ tl subdirective, tokensOf (withoutComment temp) = some (tl, subdirective) ∧
      ¬ ValidDirective tl subdirective underTable

/-- Whether the last line that is not indented is a table, one line later. -/
def underTableAfter (temp : Bytes) (underTable : Bool) : Bool :=
  match tokensOf (withoutComment temp) with
  | some (tl, false) => strToLwr (tl.headD []) = ascii "table"
  | _ => underTable

/-- The number, counted from one, of the first line that offends. -/
inductive FirstOffending : List Bytes → Bool → Nat → Prop
  | here {temp : Bytes} {ahead : List Bytes} {underTable : Bool}
      (offends : Offends temp underTable) :
      FirstOffending (temp :: ahead) underTable 1
  | later {temp : Bytes} {ahead : List Bytes} {underTable : Bool} {number : Nat}
      (fine : ¬ Offends temp underTable)
      (first : FirstOffending ahead (underTableAfter temp underTable) number) :
      FirstOffending (temp :: ahead) underTable (number + 1)

/-- The parse throws a `ParseException` with the name of the file and the number. -/
def Reports (fs : FileSystem) (call : Call) (number : Nat) : Prop :=
  ∃ depth what after, (parse fs depth call.fileName).run call.before =
    .error (.parse what call.fileName number) after

/-! ### Valid directives are taken -/

section Valid

variable {tl : List Bytes} {subdirective underTable : Bool}

theorem OptionLine.exists_parse_ok {directive name value : Bytes} (known : KnownOption name value)
    (file : File) : ∃ made, OptionLine.parse [directive, name, value] false file = .ok made := by
  rcases known with member | ⟨rfl, member⟩
  · simp only [List.mem_cons, List.not_mem_nil, or_false] at member
    rcases member with rfl | rfl | rfl
    · exact ⟨_, rfl⟩
    · exact ⟨_, rfl⟩
    · exact ⟨_, rfl⟩
  · simp only [List.mem_cons, List.not_mem_nil, or_false] at member
    rcases member with rfl | rfl | rfl | rfl
    · exact ⟨_, rfl⟩
    · exact ⟨_, rfl⟩
    · exact ⟨_, rfl⟩
    · exact ⟨_, rfl⟩

theorem Table.exists_parse_ok (taken : Table.Taken tl subdirective) (file : File) :
    ∃ made, Table.parse tl subdirective file = .ok made := by
  obtain ⟨directive, name, rest, same⟩ := exists_name taken.named
  exact ⟨_, (Table.parse_ok_iff file tl subdirective _).mpr
    ⟨taken, directive, name, rest, same, rfl⟩⟩

theorem includedFile_of_length (isInclude : strToLwr (tl.headD []) = ascii "include")
    (topLevel : subdirective = false) (named : tl.length = 2) :
    includedFile tl subdirective ≠ none := by
  obtain ⟨directive, fileName, rfl⟩ := List.length_eq_two.mp named
  have isSome : includedFile [directive, fileName] subdirective = some fileName :=
    if_pos ⟨isInclude, topLevel⟩
  rw [isSome]
  exact Option.some_ne_none fileName

theorem taken_of_valid (valid : ValidDirective tl subdirective underTable)
    (alone : includedFile tl subdirective = none) {state : Statics}
    (under : underTable = true → state.lastTldWasTable = true) (lineNumber : Nat) :
    Directive.Taken { tl := tl, subdirective := subdirective, lineNumber := lineNumber } state := by
  let file : File := { fileName := [], lineNumber := 0 }
  cases valid with
  | table isTable taken complete =>
      obtain ⟨made, parsed⟩ := Table.exists_parse_ok taken file
      exact ⟨_, _, .table isTable (Table.parse_ok_anywhere parsed)⟩
  | field isField isUnder taken complete =>
      obtain ⟨made, parsed⟩ := Field.exists_parse_ok taken file
      exact ⟨_, _, .field isField (under isUnder) (Field.parse_ok_anywhere parsed)⟩
  | included isInclude topLevel named =>
      exact absurd alone (includedFile_of_length isInclude topLevel named)
  | option isOption topLevel two known =>
      subst two
      subst topLevel
      obtain ⟨made, parsed⟩ := OptionLine.exists_parse_ok known file
      exact ⟨_, _, .option isOption (OptionLine.parse_ok_anywhere parsed)⟩

end Valid

/-! ### Lines in front of the first that offends -/

section Lines

variable {fs : FileSystem} {before state : Statics} {directive : Directive}

/-- A line that is a directive leaves the static variable as the file has it. -/
theorem under_of_gives {depth : Nat} {temp : Bytes} {tl : List Bytes} {subdirective : Bool}
    {lines : List Line} {middle : Statics} {underTable : Bool}
    (tokens : tokensOf (withoutComment temp) = some (tl, subdirective))
    (under : underTable = true → before.lastTldWasTable = true)
    (gives : Line.Gives (parse fs depth) tl subdirective before lines middle) :
    underTableAfter temp underTable = true → middle.lastTldWasTable = true := by
  intro isTable
  unfold underTableAfter at isTable
  rw [tokens] at isTable
  have notTable : ascii "option" ≠ ascii "table" ∧ ascii "include" ≠ ascii "table" := by decide
  let file : File := { fileName := [], lineNumber := 0 }
  cases gives with
  | table => rfl
  | field isField underTable parsed =>
      obtain rfl := Field.indented_of_parse (parsed file)
      exact under isTable
  | option isOption parsed =>
      obtain rfl := OptionLine.topLevel_of_parse (parsed file)
      exact absurd (isOption.symm.trans (of_decide_eq_true isTable)) notTable.1
  | included isInclude named ran =>
      obtain rfl := topLevel_of_include (named file)
      exact absurd (isInclude.symm.trans (of_decide_eq_true isTable)) notTable.2

/-- No line in front of the first that offends is refused. -/
theorem refused_behind_first {ahead : List Bytes} {lineNumber number : Nat} {underTable : Bool}
    (first : FirstOffending ahead underTable number)
    (under : underTable = true → before.lastTldWasTable = true)
    (reached : Reached fs (handed ahead lineNumber) before directive state)
    (alone : directive.includedFile = none) (isRefused : ¬ directive.Taken state) :
    lineNumber + number ≤ directive.lineNumber := by
  induction first generalizing lineNumber before with
  | here offends => exact lineNumber_of_mem_handed (mem_of_reached reached)
  | @later temp ahead underTable number fine first ih =>
      have next : ∀ {middle}, (underTableAfter temp underTable = true →
          middle.lastTldWasTable = true) →
          Reached fs (handed ahead (lineNumber + 1)) middle directive state →
          lineNumber + (number + 1) ≤ directive.lineNumber := by
        intro middle flag later
        have bound := ih flag later
        omega
      have noNul : 0 ∉ withoutComment temp := fun hasNul => fine (Or.inl hasNul)
      rw [handed, readLine_eq, upToNul_of_noNul noNul] at reached
      by_cases short : fitsBuffer temp = true
      · rw [if_pos short] at reached
        dsimp only at reached
        by_cases blank : tokenize (withoutComment temp) = []
        · rw [if_pos blank] at reached
          apply next _ reached
          have same : underTableAfter temp underTable = underTable := by
            rw [underTableAfter, tokensOf, if_pos blank]
          rw [same]
          exact under
        · rw [if_neg blank] at reached
          have tokens : tokensOf (withoutComment temp) = some (tokenize (withoutComment temp),
              (withoutComment temp).head?.any isspace) := if_neg blank
          cases reached with
          | here =>
              have valid : ValidDirective (tokenize (withoutComment temp))
                  ((withoutComment temp).head?.any isspace) underTable := by
                by_contra notValid
                exact fine (Or.inr ⟨_, _, tokens, notValid⟩)
              exact absurd (taken_of_valid valid alone under _) isRefused
          | later gives later => exact next (under_of_gives tokens under gives) later
      · rw [if_neg short] at reached
        cases reached

end Lines

/-! ### Reports -/

theorem grows_of_visited {fs : FileSystem} {call file : Call}
    (visited : ReflTransGen (Includes fs) call file) : Grows call.before file.before := by
  induction visited with
  | refl => exact Grows.refl call.before
  | @tail middle _ _ includes ih =>
      have opens := grows_addDirectory middle.fileName middle.before
      exact Grows.trans _ _ _ ih (Grows.trans _ _ _ opens (grows_of_includes includes))

/-- No parse reports the first line that offends. -/
theorem first_offending_not_reported (fs : FileSystem) {call : Call} {text : Bytes}
    (readable : call.contents fs = some text) {number : Nat}
    (first : FirstOffending (textLines (byte '\n') text) false number) :
    ¬ Reports fs call number := by
  intro given
  obtain ⟨depth, what, after, ran⟩ := given
  have inside : Exception.parse what call.fileName number ≠ .stackOverflow := by
    intro impossible
    cases impossible
  obtain ⟨file, visited, throws⟩ := exists_throws ran inside
  cases throws with
  | @refused other directive state _ _ read reached alone thrown =>
      have located : call.fileName = file.fileName ∧ number = directive.lineNumber :=
        (Line.errorOf_parse alone thrown).line
      obtain ⟨sameName, sameNumber⟩ := located
      -- An include of the same name is the same file.
      have again : file.contents fs = some text := by
        obtain ⟨path, found, isText⟩ := Call.contents_eq_some_iff.mp readable
        apply Call.contents_eq_some_iff.mpr
        rw [← sameName]
        exact ⟨path, opened_of_prefix (grows_of_visited visited) found, isText⟩
      cases again.symm.trans read
      have isRefused : ¬ directive.Taken state := by
        intro both
        obtain ⟨given, behind, gives⟩ := both
        rw [(Line.parse_ok_iff _).mpr gives] at thrown
        cases thrown
      have top : false = true → file.start.lastTldWasTable = true :=
        fun impossible => absurd impossible Bool.false_ne_true
      have behind := refused_behind_first first top reached alone isRefused
      omega

/-- A table with a field of an unknown attribute. -/
def misspeltFiles : FileSystem := fun path =>
  if path = ascii "stock.ssqls" then .ok (ascii "table stock\n\tfield price typ int\n")
  else .error (ascii "No such file or directory")

theorem misspelt_offends :
    FirstOffending (textLines (byte '\n') (ascii "table stock\n\tfield price typ int\n"))
      false 2 := by
  have lines : textLines (byte '\n') (ascii "table stock\n\tfield price typ int\n") =
      [ascii "table stock", ascii "\tfield price typ int"] := by decide
  have table : tokensOf (withoutComment (ascii "table stock")) =
      some ([ascii "table", ascii "stock"], false) := by decide
  have field : tokensOf (withoutComment (ascii "\tfield price typ int")) =
      some ([ascii "field", ascii "price", ascii "typ", ascii "int"], true) := by decide
  rw [lines]
  apply FirstOffending.later
  · intro given
    rcases given with hasNul | ⟨tl, subdirective, tokens, notValid⟩
    · revert hasNul
      decide
    · cases table.symm.trans tokens
      exact notValid (.table (by decide) ⟨by decide, rfl, nofun⟩ (by decide))
  · apply FirstOffending.here
    refine Or.inr ⟨_, _, field, ?_⟩
    intro valid
    cases valid with
    | field isField under taken complete =>
        have known := taken.known _ List.mem_cons_self
        revert known
        unfold Field.KnownAttribute
        decide
    | table isTable => revert isTable; decide
    | included isInclude => revert isInclude; decide
    | option isOption => revert isOption; decide

theorem first_offending_not_reported_misspelt :
    ¬ Reports misspeltFiles { before := .initial, fileName := ascii "stock.ssqls" } 2 :=
  first_offending_not_reported misspeltFiles rfl misspelt_offends

/-- The exception is one of the file, not of its second line. -/
theorem misspelt_not_reported :
    ¬ ∀ number, FirstOffending (textLines (byte '\n')
        (ascii "table stock\n\tfield price typ int\n")) false number →
      Reports misspeltFiles { before := .initial, fileName := ascii "stock.ssqls" } number := by
  intro reports
  obtain ⟨depth, what, after, ran⟩ := reports 2 misspelt_offends
  have lost : ((parse misspeltFiles 1 (ascii "stock.ssqls")).run .initial).outcome =
      .error (.file (ascii "bad attribute 'typ' for field price")) := by decide +kernel
  have first : ((parse misspeltFiles depth (ascii "stock.ssqls")).run .initial).outcome ≠
      .error .stackOverflow := by
    rw [ran]
    intro impossible
    cases impossible
  have defined : ((parse misspeltFiles 1 (ascii "stock.ssqls")).run .initial).outcome ≠
      .error .stackOverflow := by
    rw [lost]
    intro impossible
    cases impossible
  have same := Outlasts.agree (fun depth => parse_outlasts misspeltFiles depth _) first defined
  rw [← same, ran] at lost
  cases lost

end LibTabula.ParseV2
