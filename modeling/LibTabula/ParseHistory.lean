/-
Whether earlier parses show in a later one.

The parser keeps two static variables, and neither is reset. The search path is meant to
be shared. The other one says whether the last directive at the top level was a table,
of whatever file: it lets a file that begins with an indented field through after a
parse that has ended under a table, and after no other.
-/

import LibTabula.ParseReports
import LibTabula.Foundation.Transcript

set_option autoImplicit false

namespace LibTabula.ParseV2

open Foundation

/-! ### Histories -/

/-- The static variables after some parses, each of it with the files as they were then. -/
inductive AfterParses : Statics → Prop
  | none : AfterParses .initial
  | next {before : Statics} (earlier : AfterParses before) (fs : FileSystem) (fileName : Bytes)
      {depth : Nat}
      (ended : ((parse fs depth fileName).run before).outcome ≠ .error .stackOverflow) :
      AfterParses ((parse fs depth fileName).run before).final

/-- After all histories with which the name stands for the text, the parse has one outcome. -/
def Independent (fs : FileSystem) (fileName text : Bytes) : Prop :=
  ∀ first second, AfterParses first → AfterParses second →
    Call.contents fs { before := first, fileName := fileName } = some text →
    Call.contents fs { before := second, fileName := fileName } = some text →
    ∀ depth, ((parse fs depth fileName).run first).outcome =
      ((parse fs depth fileName).run second).outcome

/-- The first directive of the text is an indented field. -/
def FieldFirst (text : Bytes) : Prop :=
  ∃ directive rest, directives text = directive :: rest ∧
    strToLwr (directive.tl.headD []) = ascii "field" ∧ directive.subdirective = true

/-! ### Two runs -/

def SameFlag (self other : Statics) : Prop := self.lastTldWasTable = other.lastTldWasTable

section Alike

variable {includeFile : Bytes → EStateM Exception Statics (List Line)}

/-- A directive that includes nothing does not see more than the flag, and only a field
sees that. -/
theorem Line.alike_parse {R : Statics → Statics → Prop} {tl : List Bytes} {subdirective : Bool}
    (alone : includedFile tl subdirective = none)
    (notes : ∀ isTable state other, R state other →
      R (noteDirective isTable subdirective state) (noteDirective isTable subdirective other))
    (seen : strToLwr (tl.headD []) = ascii "field" → ∀ state other, R state other →
      SameFlag state other) (file : File) :
    Alike R (Line.parse includeFile tl subdirective file)
      (Line.parse includeFile tl subdirective file) := by
  unfold Line.parse
  extract_lets directive
  apply Alike.bind
  · exact Alike.modify fun state other related => notes _ state other related
  intro _
  split
  · exact .bind (.lift _) fun _ => .pure _
  split
  next isField =>
    intro state other related
    have same : state.lastTldWasTable = other.lastTldWasTable := seen isField state other related
    rw [run_bind_of_ok (x := get) rfl, run_bind_of_ok (x := get) rfl, ← same]
    split
    · exact Alike.bind (.lift _) (fun _ => .pure _) state other related
    · exact Alike.lift _ state other related
  split
  next isInclude =>
    cases parsed : includeParse tl subdirective file with
    | ok fileName =>
        rw [includedFile_of_includeParse isInclude parsed] at alone
        cases alone
    | error failure => exact fun _ _ related => ⟨rfl, related⟩
  split
  · exact .bind (.lift _) fun _ => .pure _
  · exact .lift _

theorem alike_interpret {fileName : Bytes} {ahead : List Directive}
    (alone : ∀ directive ∈ ahead, directive.includedFile = none) :
    Alike SameFlag (interpret includeFile fileName ahead)
      (interpret includeFile fileName ahead) := by
  induction ahead with
  | nil => exact .pure []
  | cons directive ahead ih =>
      obtain ⟨first, rest⟩ := List.forall_mem_cons.mp alone
      apply Alike.bind
      · apply Line.alike_parse first
        · intro isTable state other same
          cases hidden : directive.subdirective with
          | true => exact same
          | false => rfl
        · exact fun _ _ _ same => same
      · intro parsed
        exact .bind (ih rest) fun _ => .pure _

end Alike

/-! ### Files that do not begin with a field -/

section First

variable {includeFile : Bytes → EStateM Exception Statics (List Line)} {fileName : Bytes}
  {directive : Directive} {rest : List Directive} {first second : Statics}

/-- What is not indented sets the flag before anything looks at it. -/
theorem run_parse_topLevel {tl : List Bytes} (file : File) (flag : Bool) (state : Statics) :
    (Line.parse includeFile tl false file).run state =
      (Line.parse includeFile tl false file).run { state with lastTldWasTable := flag } := by
  unfold Line.parse
  extract_lets named
  rw [run_bind_of_ok (run_noteDirective _ _ _), run_bind_of_ok (run_noteDirective _ _ _)]
  rfl

/-- What is indented is a field or it is refused. -/
theorem field_of_indented {depth : Nat} {fs : FileSystem} {tl : List Bytes} {before after : Statics}
    {lines : List Line} (gives : Line.Gives (parse fs depth) tl true before lines after) :
    strToLwr (tl.headD []) = ascii "field" := by
  let file : File := { fileName := [], lineNumber := 0 }
  cases gives with
  | table isTable parsed => cases Table.topLevel_of_parse (parsed file)
  | field isField => exact isField
  | option isOption parsed => cases OptionLine.topLevel_of_parse (parsed file)
  | included isInclude named => cases topLevel_of_include (named file)

theorem outcome_eq_of_not_field {fs : FileSystem} {depth : Nat}
    (alone : ∀ other ∈ directive :: rest, other.includedFile = none)
    (notField : ¬ (strToLwr (directive.tl.headD []) = ascii "field" ∧
      directive.subdirective = true)) :
    ((interpret (parse fs depth) fileName (directive :: rest)).run first).outcome =
      ((interpret (parse fs depth) fileName (directive :: rest)).run second).outcome := by
  let file : File := { fileName := fileName, lineNumber := directive.lineNumber }
  cases indented : directive.subdirective with
  | false =>
      -- The two runs meet behind the first directive.
      let moved : Statics := { first with lastTldWasTable := second.lastTldWasTable }
      have begun : (interpret (parse fs depth) fileName (directive :: rest)).run first =
          (interpret (parse fs depth) fileName (directive :: rest)).run moved := by
        rw [interpret, EStateM.run_bind, EStateM.run_bind, indented,
          run_parse_topLevel _ second.lastTldWasTable first]
      rw [begun]
      exact (alike_interpret alone moved second rfl).1
  | true =>
      have other : strToLwr (directive.tl.headD []) ≠ ascii "field" :=
        fun isField => notField ⟨isField, indented⟩
      let step := Line.parse (parse fs depth) directive.tl directive.subdirective file
      have alike : Alike (fun _ _ => True) step step :=
        Line.alike_parse (alone directive List.mem_cons_self) (fun _ _ _ _ => trivial)
          (fun isField => absurd isField other) file
      have same := (alike first second trivial).1
      cases ran : step.run first with
      | ok lines after =>
          have gives := (Line.parse_ok_iff file).mp ran
          rw [indented] at gives
          exact absurd (field_of_indented gives) other
      | error failure after =>
          rw [ran] at same
          have again := EStateM.Result.eq_error same.symm
          rw [interpret, run_bind_of_error ran, run_bind_of_error again]
          rfl

end First

/-! ### Files that begin with a field -/

section Field

variable {fs : FileSystem} {depth : Nat} {fileName : Bytes} {directive : Directive}
  {rest : List Directive} {state : Statics}

/-- What the first directive throws without a table in front of it. -/
def misplaced (fileName : Bytes) (lineNumber : Nat) : Exception :=
  .parse (ascii "'field' directive must follow 'table'") fileName lineNumber

theorem ne_misplaced_of_field {tl : List Bytes} {file : File} {failure : Exception}
    (thrown : Field.parse tl true file = .error failure) :
    failure ≠ misplaced file.fileName file.lineNumber := by
  have different : ascii "'field' directive requires at least one argument" ≠
      ascii "'field' directive must follow 'table'" := by decide
  unfold Field.parse at thrown
  split at thrown
  next directive name rest =>
    rw [Bool.not_true, if_neg Bool.false_ne_true] at thrown
    cases read : readAttributes (Field.setAttribute name file) rest .none with
    | ok last =>
        rw [read] at thrown
        cases thrown
    | error other =>
        rw [read] at thrown
        cases thrown
        obtain ⟨what, rfl⟩ := lost_readAttributes Field.lost_setAttribute read
        intro impossible
        cases impossible
  next =>
    cases thrown
    exact fun same => different (Exception.parse.inj same).1

section Parse

variable {includeFile : Bytes → EStateM Exception Statics (List Line)} {tl : List Bytes}
  (isField : strToLwr (tl.headD []) = ascii "field")

include isField

/-- An indented field goes by the flag. -/
theorem run_parse_field (file : File) :
    (Line.parse includeFile tl true file).run state =
      if state.lastTldWasTable then
        (ofExcept (Field.parse tl true file) >>= fun parsed => return [.field parsed] :
          EStateM Exception Statics (List Line)).run state
      else .error (misplaced file.fileName file.lineNumber) state := by
  have notTable : ascii "field" ≠ ascii "table" := by decide
  have other : strToLwr (tl.headD []) ≠ ascii "table" :=
    fun same => notTable (isField.symm.trans same)
  unfold Line.parse
  extract_lets directive
  rw [run_bind_of_ok (run_noteDirective _ _ _), if_neg other, if_pos isField,
    run_bind_of_ok (x := get) rfl, noteDirective, if_pos rfl]
  by_cases flag : state.lastTldWasTable = true
  · rw [if_pos flag, if_pos flag]
  · rw [if_neg flag, if_neg flag]
    rfl

end Parse

/-- Under a table the parse does something else than without one. -/
theorem ne_misplaced_of_under (isField : strToLwr (directive.tl.headD []) = ascii "field")
    (indented : directive.subdirective = true)
    (alone : ∀ other ∈ directive :: rest, other.includedFile = none)
    (increasing : ∀ other ∈ rest, directive.lineNumber < other.lineNumber)
    (under : state.lastTldWasTable = true) :
    ((interpret (parse fs depth) fileName (directive :: rest)).run state).outcome ≠
      .error (misplaced fileName directive.lineNumber) := by
  intro thrown
  have ran := EStateM.Result.eq_error thrown
  obtain ⟨other, reachedState, reached, refused⟩ := exists_reached_of_error ran
  have located := (Line.errorOf_parse (alone other (mem_of_reached reached)) refused).line
  cases reached with
  | here =>
      rw [indented, run_parse_field isField, if_pos under] at refused
      exact ne_misplaced_of_field
        (run_ofExcept_bind_error (fun value state => ⟨_, rfl⟩) refused) rfl
  | later _ later =>
      have behind := increasing other (mem_of_reached later)
      have same : directive.lineNumber = other.lineNumber := located.2
      omega

theorem misplaced_of_not_under (isField : strToLwr (directive.tl.headD []) = ascii "field")
    (indented : directive.subdirective = true) (notUnder : state.lastTldWasTable = false) :
    ((interpret (parse fs depth) fileName (directive :: rest)).run state).outcome =
      .error (misplaced fileName directive.lineNumber) := by
  have ran : (Line.parse (parse fs depth) directive.tl directive.subdirective
      { fileName := fileName, lineNumber := directive.lineNumber }).run state =
      .error (misplaced fileName directive.lineNumber) state := by
    rw [indented, run_parse_field isField, if_neg (by rw [notUnder]; exact Bool.false_ne_true)]
  rw [interpret, run_bind_of_error ran]
  rfl

end Field

/-! ### Either flag may be left over -/

/-- A directive by itself, and the flag after it. -/
theorem exists_directive (state : Statics) (flag : Bool) :
    ∃ text directive lines, directives text = [directive] ∧
      ∀ includeFile, Line.Gives includeFile directive.tl directive.subdirective state lines
        { state with lastTldWasTable := flag } := by
  cases flag with
  | true =>
      have listed : directives (ascii "table t") =
          [{ tl := [ascii "table", ascii "t"], subdirective := false, lineNumber := 2 }] := by
        decide
      exact ⟨_, _, _, listed, fun _ => .table (by decide) fun _ => rfl⟩
  | false =>
      have listed : directives (ascii "option accessor_style x") =
          [{ tl := [ascii "option", ascii "accessor_style", ascii "x"], subdirective := false
             lineNumber := 2 }] := by
        decide
      exact ⟨_, _, _, listed, fun _ => .option (by decide) fun _ => rfl⟩

/-- One more parse leaves the flag as one likes, and the search path as it was. -/
theorem afterParses_flag {state : Statics} (earlier : AfterParses state) (flag : Bool) :
    AfterParses { state with lastTldWasTable := flag } := by
  obtain ⟨text, directive, lines, listed, gives⟩ := exists_directive state flag
  let fs : FileSystem := fun _ => .ok text
  let call : Call := { before := state, fileName := ascii "t" }
  have read : call.contents fs = some text := rfl
  have start : call.start = state := rfl
  have interprets := Interprets.cons (gives (parse fs 0)) (.nil _)
  have ran := (interpret_ok_iff call.fileName).mpr interprets
  rw [← listed, ← start, ← run_parse_of_contents read] at ran
  have ended : ((parse fs 1 call.fileName).run call.before).outcome ≠ .error .stackOverflow := by
    rw [ran]
    exact ok_ne_error
  have next := AfterParses.next earlier fs call.fileName ended
  rw [ran] at next
  exact next

/-- Earlier parses do not show in the parse of a file without includes if and only if the
file does not begin with an indented field. -/
theorem independent_iff {fs : FileSystem} {fileName text : Bytes} {state : Statics}
    (earlier : AfterParses state)
    (readable : Call.contents fs { before := state, fileName := fileName } = some text)
    (alone : ∀ directive ∈ directives text, directive.includedFile = none) :
    Independent fs fileName text ↔ ¬ FieldFirst text := by
  constructor
  · intro independent given
    obtain ⟨directive, rest, listed, isField, indented⟩ := given
    -- Two histories that differ in the flag only.
    let under : Call := { before := { state with lastTldWasTable := true }, fileName := fileName }
    let free : Call := { before := { state with lastTldWasTable := false }, fileName := fileName }
    have same := independent under.before free.before (afterParses_flag earlier true)
      (afterParses_flag earlier false) readable readable 1
    have readUnder : under.contents fs = some text := readable
    have readFree : free.contents fs = some text := readable
    have outcomes : ((parse fs 1 under.fileName).run under.before).outcome =
        ((parse fs 1 free.fileName).run free.before).outcome := same
    rw [run_parse_of_contents readUnder, run_parse_of_contents readFree, listed] at outcomes
    rw [listed] at alone
    apply ne_misplaced_of_under isField indented alone (lineNumber_lt_of_handed listed)
      under.lastTldWasTable_start
    rw [outcomes]
    exact misplaced_of_not_under isField indented free.lastTldWasTable_start
  · intro notField first second _ _ readFirst readSecond depth
    let one : Call := { before := first, fileName := fileName }
    let two : Call := { before := second, fileName := fileName }
    cases depth with
    | zero => rfl
    | succ depth =>
        change ((parse fs (depth + 1) one.fileName).run one.before).outcome =
          ((parse fs (depth + 1) two.fileName).run two.before).outcome
        rw [run_parse_of_contents readFirst, run_parse_of_contents readSecond]
        cases listed : directives text with
        | nil => rfl
        | cons directive rest =>
            rw [listed] at alone
            apply outcome_eq_of_not_field alone
            intro given
            obtain ⟨isField, indented⟩ := given
            exact notField ⟨directive, rest, listed, isField, indented⟩

theorem independent_iff_stock :
    Independent (fun _ => .ok (ascii "table stock\n\tfield price")) (ascii "stock.ssqls")
        (ascii "table stock\n\tfield price") ↔
      ¬ FieldFirst (ascii "table stock\n\tfield price") :=
  independent_iff .none rfl (by decide)

/-- A field without a table is refused in a new process, and accepted when another file
has ended with a table. -/
theorem field_goes_by_history :
    ¬ Independent (fun _ => .ok (ascii "\tfield price")) (ascii "price.ssqls")
      (ascii "\tfield price") := by
  intro independent
  have same := independent .initial { searchPath := [], lastTldWasTable := true } .none
    (afterParses_flag .none true) rfl rfl 1
  revert same
  decide +kernel

end LibTabula.ParseV2
