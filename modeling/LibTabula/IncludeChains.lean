/-
Which includes have an end.

Nothing keeps a file from being included while it is parsed. The static variables do not
help either: once a file has been parsed as far as an include, it gets as far as that
again, because its search path finds what was found before. So a parse comes to an end
if and only if no chain of includes comes to a text that it has been through.
-/

import LibTabula.ParseSteps

set_option autoImplicit false

namespace LibTabula.ParseV2

open Foundation
open Relation (TransGen ReflTransGen)

/-! ### What a file includes -/

/-- A directive is reached when those before it have been interpreted. -/
inductive Reached (fs : FileSystem) : List Directive → Statics → Directive → Statics → Prop
  | here (directive : Directive) (ahead : List Directive) (before : Statics) :
      Reached fs (directive :: ahead) before directive before
  | later {directive other : Directive} {ahead : List Directive} {before middle state : Statics}
      {lines : List Line} {depth : Nat}
      (gives : Line.Gives (parse fs depth) directive.tl directive.subdirective before lines middle)
      (reached : Reached fs ahead middle other state) :
      Reached fs (directive :: ahead) before other state

/-- The file of the one call has an include that is reached and makes the other. -/
def Includes (fs : FileSystem) (call next : Call) : Prop :=
  ∃ text directive state, call.contents fs = some text ∧
    Reached fs (directives text) call.start directive state ∧
    directive.includedFile = some next.fileName ∧
    next.before = { state with lastTldWasTable := false }

/-- The parse comes to an end, be it with lines or with an exception. -/
def Ends (fs : FileSystem) (call : Call) : Prop :=
  ∃ depth, ((parse fs depth call.fileName).run call.before).outcome ≠ .error .stackOverflow

theorem mem_of_reached {fs : FileSystem} {ahead : List Directive} {before state : Statics}
    {directive : Directive} (reached : Reached fs ahead before directive state) :
    directive ∈ ahead := by
  induction reached with
  | here => exact List.mem_cons_self
  | later _ _ ih => exact List.mem_cons_of_mem _ ih

/-! ### Parses that end have chains that end -/

section Ends

variable {fs : FileSystem} {fileName : Bytes} {ahead : List Directive} {before state : Statics}

/-- Within a parse that ends, each include ends. -/
theorem inside_of_reached {depth : Nat}
    (inside : ((interpret (parse fs depth) fileName ahead).run before).outcome ≠
      .error .stackOverflow)
    {directive : Directive} (reached : Reached fs ahead before directive state) {other : Bytes}
    (named : directive.includedFile = some other) :
    ((parse fs depth other).run { state with lastTldWasTable := false }).outcome ≠
      .error .stackOverflow := by
  induction reached with
  | here directive ahead before =>
      have first := inside_of_bind inside
      rw [Line.run_parse_of_included named] at first
      exact first
  | @later directive target ahead before middle state lines enough gives reached ih =>
      let step := fun depth => Line.parse (parse fs depth) directive.tl directive.subdirective
        { fileName := fileName, lineNumber := directive.lineNumber }
      have outlasts : ∀ depth, Outlasts .stackOverflow (step depth) (step (depth + 1)) :=
        fun depth => Line.parse_outlasts (parse_outlasts fs depth) _ _ _
      have given : (step enough).run before = .ok lines middle := (Line.parse_ok_iff _).mpr gives
      have first : ((step depth).run before).outcome ≠ .error .stackOverflow :=
        inside_of_bind inside
      have same : (step depth).run before = .ok lines middle := by
        rw [Outlasts.agree outlasts first (by rw [given]; exact ok_ne_error), given]
      rw [interpret, run_bind_of_ok same] at inside
      exact ih (inside_of_bind inside) named

theorem acc_of_inside {depth : Nat} {call : Call}
    (inside : ((parse fs depth call.fileName).run call.before).outcome ≠ .error .stackOverflow) :
    Acc (fun next call => Includes fs call next) call := by
  induction depth generalizing call with
  | zero => exact absurd rfl inside
  | succ depth ih =>
      constructor
      intro next given
      obtain ⟨text, directive, state, read, reached, named, begun⟩ := given
      rw [run_parse_of_contents read] at inside
      apply ih
      rw [begun]
      exact inside_of_reached inside reached named

/-- If what is reached ends, so does the whole. -/
theorem exists_inside_of_reached (fileName : Bytes)
    (included : ∀ {directive state other}, Reached fs ahead before directive state →
      directive.includedFile = some other →
      Ends fs { before := { state with lastTldWasTable := false }, fileName := other }) :
    ∃ depth, ((interpret (parse fs depth) fileName ahead).run before).outcome ≠
      .error .stackOverflow := by
  induction ahead generalizing before with
  | nil => exact ⟨0, ok_ne_error⟩
  | cons directive ahead ih =>
      let step := fun depth => Line.parse (parse fs depth) directive.tl directive.subdirective
        { fileName := fileName, lineNumber := directive.lineNumber }
      have outlasts : ∀ depth, Outlasts .stackOverflow (step depth) (step (depth + 1)) :=
        fun depth => Line.parse_outlasts (parse_outlasts fs depth) _ _ _
      have first : ∃ depth, ((step depth).run before).outcome ≠ .error .stackOverflow := by
        cases named : directive.includedFile with
        | some other =>
            obtain ⟨depth, inside⟩ := included (.here directive ahead before) named
            refine ⟨depth, ?_⟩
            rw [Line.run_parse_of_included named]
            exact inside
        | none =>
            refine ⟨0, fun thrown => ?_⟩
            have about := Line.errorOf_parse named (EStateM.Result.eq_error thrown)
            cases about
      obtain ⟨depth, inside⟩ := first
      cases ran : (step depth).run before with
      | error failure middle =>
          refine ⟨depth, ?_⟩
          rw [interpret, run_bind_of_error ran]
          rw [ran] at inside
          exact inside
      | ok lines middle =>
          have gives := (Line.parse_ok_iff _).mp ran
          obtain ⟨more, rest⟩ := ih fun reached named => included (.later gives reached) named
          -- A depth that is enough for this directive and for the others.
          let most := max depth more
          have again : (step most).run before = .ok lines middle := by
            rw [Outlasts.of_le outlasts (Nat.le_max_left depth more) before inside, ran]
          have others := Outlasts.of_le
            (x := fun depth => interpret (parse fs depth) fileName ahead)
            (fun depth => interpret_outlasts (parse_outlasts fs depth) fileName ahead)
            (Nat.le_max_right depth more) middle rest
          refine ⟨most, ?_⟩
          rw [interpret, run_bind_of_ok again]
          cases ending : (interpret (parse fs most) fileName ahead).run middle with
          | ok results after => rw [run_bind_of_ok ending]; exact ok_ne_error
          | error failure after =>
              rw [← others, ending] at rest
              rw [run_bind_of_error ending]
              exact rest

theorem ends_of_acc {call : Call} (ends : Acc (fun next call => Includes fs call next) call) :
    Ends fs call := by
  induction ends with
  | intro call _ ih =>
      cases read : call.contents fs with
      | none =>
          obtain ⟨what, ran⟩ := run_parse_of_no_contents read 0
          refine ⟨1, ?_⟩
          rw [ran]
          intro impossible
          cases impossible
      | some text =>
          have whole : ∃ depth, ((interpret (parse fs depth) call.fileName
              (directives text)).run call.start).outcome ≠ .error .stackOverflow := by
            apply exists_inside_of_reached
            intro directive state other reached named
            exact ih _ ⟨text, directive, state, read, reached, named, rfl⟩
          obtain ⟨depth, inside⟩ := whole
          refine ⟨depth + 1, ?_⟩
          rw [run_parse_of_contents read]
          exact inside

theorem ends_iff_acc (call : Call) :
    Ends fs call ↔ Acc (fun next call => Includes fs call next) call := by
  constructor
  · intro given
    obtain ⟨depth, inside⟩ := given
    exact acc_of_inside inside
  · exact ends_of_acc

end Ends

/-! ### Where an exception comes from -/

/-- A file throws by itself if it is not there or if a directive that it has reached and
that includes nothing is refused. -/
inductive Throws (fs : FileSystem) (file : Call) : Exception → Prop
  | missing (noText : file.contents fs = none) (what : Bytes) : Throws fs file (.file what)
  | refused {text : Bytes} {directive : Directive} {state after : Statics} {failure : Exception}
      (read : file.contents fs = some text)
      (reached : Reached fs (directives text) file.start directive state)
      (alone : directive.includedFile = none)
      (ran : (Line.parse (fun _ => return []) directive.tl directive.subdirective
        { fileName := file.fileName, lineNumber := directive.lineNumber }).run state =
          .error failure after) : Throws fs file failure

section Throws

variable {fs : FileSystem}

/-- The directive at which the loop has stopped. -/
theorem exists_reached_of_error {depth : Nat} {fileName : Bytes} {ahead : List Directive}
    {before after : Statics} {failure : Exception}
    (ran : (interpret (parse fs depth) fileName ahead).run before = .error failure after) :
    ∃ directive state, Reached fs ahead before directive state ∧
      (Line.parse (parse fs depth) directive.tl directive.subdirective
        { fileName := fileName, lineNumber := directive.lineNumber }).run state =
          .error failure after := by
  induction ahead generalizing before with
  | nil => cases ran
  | cons directive ahead ih =>
      cases first : (Line.parse (parse fs depth) directive.tl directive.subdirective
          { fileName := fileName, lineNumber := directive.lineNumber }).run before with
      | error other middle =>
          rw [interpret, run_bind_of_error first] at ran
          cases ran
          exact ⟨directive, before, .here directive ahead before, first⟩
      | ok lines middle =>
          rw [interpret, run_bind_of_ok first] at ran
          cases rest : (interpret (parse fs depth) fileName ahead).run middle with
          | ok results last =>
              rw [run_bind_of_ok rest] at ran
              cases ran
          | error other last =>
              rw [run_bind_of_error rest] at ran
              cases ran
              obtain ⟨found, state, reached, thrown⟩ := ih rest
              exact ⟨found, state, .later ((Line.parse_ok_iff _).mp first) reached, thrown⟩

theorem exists_throws {depth : Nat} {call : Call} {failure : Exception} {after : Statics}
    (ran : (parse fs depth call.fileName).run call.before = .error failure after)
    (inside : failure ≠ .stackOverflow) :
    ∃ file, ReflTransGen (Includes fs) call file ∧ Throws fs file failure := by
  induction depth generalizing call with
  | zero =>
      cases ran
      exact absurd rfl inside
  | succ depth ih =>
      cases read : call.contents fs with
      | none =>
          obtain ⟨what, failed⟩ := run_parse_of_no_contents read depth
          rw [failed] at ran
          cases ran
          exact ⟨call, .refl, .missing read what⟩
      | some text =>
          rw [run_parse_of_contents read] at ran
          obtain ⟨directive, state, reached, thrown⟩ := exists_reached_of_error ran
          cases named : directive.includedFile with
          | none =>
              rw [Line.parse_of_not_included named _ fun _ => return []] at thrown
              exact ⟨call, .refl, .refused read reached named thrown⟩
          | some other =>
              rw [Line.run_parse_of_included named] at thrown
              let next : Call :=
                { before := { state with lastTldWasTable := false }, fileName := other }
              have includes : Includes fs call next :=
                ⟨text, directive, state, read, reached, named, rfl⟩
              have ranNext : (parse fs depth next.fileName).run next.before =
                  .error failure after := thrown
              obtain ⟨file, chain, throws⟩ := ih ranNext
              exact ⟨file, .head includes chain, throws⟩

end Throws

/-! ### Parsing again with a longer search path -/

section Grown

variable {fs : FileSystem} {ahead : List Directive} {before after state : Statics}
  {directive : Directive} {lines : List Line}

theorem grows_of_gives {depth : Nat} {tl : List Bytes} {subdirective : Bool}
    (gives : Line.Gives (parse fs depth) tl subdirective before lines after) :
    Grows before after := by
  cases gives with
  | table => exact Grows.refl before
  | field => exact Grows.refl before
  | option => exact Grows.refl before
  | @included _ fileName _ _ _ ran =>
      have led := grows_parse fs depth fileName { before with lastTldWasTable := false }
      rw [ran] at led
      exact led

theorem grows_of_interprets {depth : Nat}
    (interprets : Interprets (parse fs depth) ahead before lines after) : Grows before after := by
  induction interprets with
  | nil before => exact Grows.refl before
  | cons gives _ ih => exact Grows.trans _ _ _ (grows_of_gives gives) ih

theorem grows_of_reached (reached : Reached fs ahead before directive state) :
    Grows before state := by
  induction reached with
  | here directive ahead before => exact Grows.refl before
  | later gives _ ih => exact Grows.trans _ _ _ (grows_of_gives gives) ih

end Grown

/-- The same state with another search path. -/
def Statics.withPath (self : Statics) (searchPath : List Bytes) : Statics :=
  { self with searchPath := searchPath }

def Call.withPath (self : Call) (searchPath : List Bytes) : Call :=
  { self with before := self.before.withPath searchPath }

/-- A directory that is on the search path is not added again. -/
theorem addDirectory_withPath {fileName : Bytes} {before : Statics} {searchPath : List Bytes}
    (known : (addDirectoryToSearchPath fileName before).searchPath <+: searchPath) :
    addDirectoryToSearchPath fileName (before.withPath searchPath) =
      before.withPath searchPath := by
  have flag := lastTldWasTable_addDirectoryToSearchPath fileName (before.withPath searchPath)
  have path := searchPath_addDirectory fileName (before.withPath searchPath)
  have kept : (addDirectoryToSearchPath fileName (before.withPath searchPath)).searchPath =
      searchPath := by
    rw [path]
    rw [searchPath_addDirectory] at known
    cases own : ownDirectory fileName with
    | none => rfl
    | some directory =>
        rw [own] at known
        have member : directory ∈ searchPath := by
          apply known.subset
          dsimp only
          split
          next already => exact already
          next => exact List.mem_append_right _ List.mem_cons_self
        exact if_pos member
  generalize addDirectoryToSearchPath fileName (before.withPath searchPath) = result at flag kept
  obtain ⟨_, _⟩ := result
  cases flag
  cases kept
  rfl

section WithPath

variable {fs : FileSystem} {searchPath : List Bytes}

theorem Call.contents_withPath {call : Call} {text : Bytes}
    (known : call.before.searchPath <+: searchPath) (read : call.contents fs = some text) :
    (call.withPath searchPath).contents fs = some text := by
  rw [contents_eq_some_iff] at read ⊢
  obtain ⟨path, found, isText⟩ := read
  exact ⟨path, opened_of_prefix known found, isText⟩

theorem Call.start_withPath {call : Call} (known : call.start.searchPath <+: searchPath) :
    (call.withPath searchPath).start = call.before.withPath searchPath :=
  addDirectory_withPath known

theorem Call.lastTldWasTable_start (call : Call) :
    call.start.lastTldWasTable = call.before.lastTldWasTable :=
  lastTldWasTable_addDirectoryToSearchPath call.fileName call.before

theorem Call.before_withPath_eq_start (call : Call) :
    call.before.withPath call.start.searchPath = call.start := by
  have flag := call.lastTldWasTable_start
  rw [Statics.withPath, ← flag]

section Again

variable {depth : Nat} (again : ∀ {fileName before after lines},
  (parse fs depth fileName).run before = .ok lines after → after.searchPath <+: searchPath →
  (parse fs depth fileName).run (before.withPath searchPath) =
    .ok lines (after.withPath searchPath))

include again

/-- What a directive gave it gives again. -/
theorem gives_withPath {tl : List Bytes} {subdirective : Bool} {before after : Statics}
    {lines : List Line} (gives : Line.Gives (parse fs depth) tl subdirective before lines after)
    (known : after.searchPath <+: searchPath) :
    Line.Gives (parse fs depth) tl subdirective (before.withPath searchPath) lines
      (after.withPath searchPath) := by
  cases gives with
  | table isTable parsed => exact .table isTable parsed
  | field isField underTable parsed =>
      have under : (before.withPath searchPath).lastTldWasTable = true := underTable
      exact .field isField under parsed
  | option isOption parsed => exact .option isOption parsed
  | included isInclude named ran => exact .included isInclude named (again ran known)

theorem interprets_withPath {ahead : List Directive} {before after : Statics} {lines : List Line}
    (interprets : Interprets (parse fs depth) ahead before lines after)
    (known : after.searchPath <+: searchPath) :
    Interprets (parse fs depth) ahead (before.withPath searchPath) lines
      (after.withPath searchPath) := by
  induction interprets with
  | nil before => exact .nil _
  | cons gives later ih =>
      have middle := List.IsPrefix.trans (grows_of_interprets later) known
      exact .cons (gives_withPath again gives middle) (ih known)

end Again

theorem parse_withPath {depth : Nat} {fileName : Bytes} {before after : Statics}
    {lines : List Line} (ran : (parse fs depth fileName).run before = .ok lines after)
    (known : after.searchPath <+: searchPath) :
    (parse fs depth fileName).run (before.withPath searchPath) =
      .ok lines (after.withPath searchPath) := by
  induction depth generalizing fileName before after lines with
  | zero => cases ran
  | succ depth ih =>
      let call : Call := { before := before, fileName := fileName }
      cases read : call.contents fs with
      | none =>
          obtain ⟨what, failed⟩ := run_parse_of_no_contents read depth
          rw [failed] at ran
          cases ran
      | some text =>
          rw [run_parse_of_contents read, interpret_ok_iff] at ran
          have begun : call.start.searchPath <+: searchPath :=
            List.IsPrefix.trans (grows_of_interprets ran) known
          have shorter : call.before.searchPath <+: searchPath :=
            List.IsPrefix.trans (grows_addDirectory fileName before) begun
          have whole := run_parse_of_contents (Call.contents_withPath shorter read) depth
          have same : (call.withPath searchPath).start = call.start.withPath searchPath := by
            rw [Call.start_withPath begun, Statics.withPath, Statics.withPath,
              call.lastTldWasTable_start]
          rw [same] at whole
          exact whole.trans ((interpret_ok_iff _).mpr (interprets_withPath ih ran known))

theorem reached_withPath {ahead : List Directive} {before state : Statics} {directive : Directive}
    (reached : Reached fs ahead before directive state)
    (known : state.searchPath <+: searchPath) :
    Reached fs ahead (before.withPath searchPath) directive (state.withPath searchPath) := by
  induction reached with
  | here directive ahead before => exact .here _ _ _
  | later gives reached ih =>
      have middle := List.IsPrefix.trans (grows_of_reached reached) known
      exact .later (gives_withPath parse_withPath gives middle) (ih known)

theorem grows_of_includes {call next : Call} (includes : Includes fs call next) :
    Grows call.start next.before := by
  obtain ⟨text, directive, state, -, reached, -, begun⟩ := includes
  have grown := grows_of_reached reached
  rw [begun]
  exact grown

theorem includes_withPath {call next : Call} (includes : Includes fs call next)
    (known : next.before.searchPath <+: searchPath) :
    Includes fs (call.withPath searchPath) (next.withPath searchPath) := by
  have begunPath := List.IsPrefix.trans (grows_of_includes includes) known
  have shorter := List.IsPrefix.trans (grows_addDirectory call.fileName call.before) begunPath
  obtain ⟨text, directive, state, read, reached, named, begun⟩ := includes
  rw [begun] at known
  refine ⟨text, directive, state.withPath searchPath, ?_, ?_, named, ?_⟩
  · exact Call.contents_withPath shorter read
  · have same : (call.withPath searchPath).start = call.start.withPath searchPath := by
      rw [Call.start_withPath begunPath, Statics.withPath, Statics.withPath,
        call.lastTldWasTable_start]
    rw [same]
    exact reached_withPath reached known
  · change next.before.withPath searchPath = _
    rw [begun]
    rfl

end WithPath

/-! ### Chains that come to a text again -/

section Chains

variable {fs : FileSystem} {call next first second : Call}

theorem grows_of_transGen (chain : TransGen (Includes fs) first second) :
    Grows first.start second.before := by
  induction chain with
  | single includes => exact grows_of_includes includes
  | @tail middle _ _ includes ih =>
      have opens := grows_addDirectory middle.fileName middle.before
      exact Grows.trans _ _ _ ih (Grows.trans _ _ _ opens (grows_of_includes includes))

theorem transGen_withPath (chain : TransGen (Includes fs) first second)
    {searchPath : List Bytes} (known : second.before.searchPath <+: searchPath) :
    TransGen (Includes fs) (first.withPath searchPath) (second.withPath searchPath) := by
  induction chain with
  | single includes => exact .single (includes_withPath includes known)
  | @tail middle last _ includes ih =>
      have opens := grows_addDirectory middle.fileName middle.before
      have grown := Grows.trans _ _ _ opens (grows_of_includes includes)
      exact .tail (ih (List.IsPrefix.trans grown known)) (includes_withPath includes known)

/-- An included file starts without a table. -/
theorem topLevel_of_transGen (chain : TransGen (Includes fs) first second) :
    second.before.lastTldWasTable = false := by
  obtain ⟨_, _, includes⟩ := Relation.TransGen.tail'_iff.mp chain
  obtain ⟨text, directive, state, -, -, -, begun⟩ := includes
  rw [begun]

/-- What is included depends on the text and on the state behind its opening. -/
theorem transGen_of_same (text : first.contents fs = second.contents fs)
    (start : first.start = second.start) (chain : TransGen (Includes fs) first next) :
    TransGen (Includes fs) second next := by
  obtain ⟨middle, includes, rest⟩ := Relation.TransGen.head'_iff.mp chain
  apply Relation.TransGen.head'_iff.mpr
  refine ⟨middle, ?_, rest⟩
  unfold Includes at includes ⊢
  rw [← text, ← start]
  exact includes

theorem contents_of_transGen (chain : TransGen (Includes fs) first next) :
    ∃ text, first.contents fs = some text := by
  obtain ⟨_, includes, _⟩ := Relation.TransGen.head'_iff.mp chain
  obtain ⟨text, _, _, read, _⟩ := includes
  exact ⟨text, read⟩

/-- A chain that comes to a text again goes round from there. -/
theorem exists_round (flag : first.before.lastTldWasTable = false)
    (chain : TransGen (Includes fs) first second)
    (same : first.contents fs = second.contents fs) :
    ∃ again, TransGen (Includes fs) second again ∧ TransGen (Includes fs) again again := by
  let searchPath := second.start.searchPath
  have shorter : second.before.searchPath <+: searchPath :=
    grows_addDirectory second.fileName second.before
  obtain ⟨text, read⟩ := contents_of_transGen chain
  have readFirst : (first.withPath searchPath).contents fs = some text := by
    apply Call.contents_withPath _ read
    apply List.IsPrefix.trans (grows_addDirectory first.fileName first.before)
    exact List.IsPrefix.trans (grows_of_transGen chain) shorter
  have readSecond : (second.withPath searchPath).contents fs = some text :=
    Call.contents_withPath shorter (same.symm.trans read)
  -- All three start from the same state.
  have startSecond : (second.withPath searchPath).start = second.start := by
    rw [Call.start_withPath (List.prefix_refl _), Call.before_withPath_eq_start]
  have startFirst : (first.withPath searchPath).start = second.start := by
    rw [Call.start_withPath (List.IsPrefix.trans (grows_of_transGen chain) shorter),
      ← second.before_withPath_eq_start, Statics.withPath, Statics.withPath, flag,
      topLevel_of_transGen chain]
  have round := transGen_withPath chain shorter
  refine ⟨second.withPath searchPath, ?_, ?_⟩
  · exact transGen_of_same (readFirst.trans (read.symm.trans same)) startFirst round
  · exact transGen_of_same (readFirst.trans readSecond.symm)
      (startFirst.trans startSecond.symm) round

end Chains

/-! ### Finitely many files -/

/-- Files of finitely many texts, whatever paths lead to them. -/
structure FiniteFiles where
  read : FileSystem
  finite : { text | ∃ path, read path = .ok text }.Finite

/-- No chain of includes comes to a text that it has been through. -/
def NoRepeat (fs : FileSystem) (call : Call) : Prop :=
  ∀ first second, TransGen (Includes fs) call first → TransGen (Includes fs) first second →
    first.contents fs ≠ second.contents fs

theorem acc_iff_noRepeat (files : FiniteFiles) (call : Call) :
    Acc (fun next call => Includes files.read call next) call ↔ NoRepeat files.read call := by
  constructor
  · intro ends first second reached chain same
    obtain ⟨again, later, round⟩ := exists_round (topLevel_of_transGen reached) chain same
    have arrived := (reached.trans (chain.trans later)).to_reflTransGen
    exact not_transGen_self_of_acc ends arrived round
  · intro distinct
    have finite := (files.finite.image some).insert none
    apply acc_of_distinct finite call _ distinct
    intro next _
    cases read : next.contents files.read with
    | none => exact Set.mem_insert _ _
    | some text =>
        obtain ⟨path, _, isText⟩ := Call.contents_eq_some_iff.mp read
        exact Set.mem_insert_of_mem _ ⟨text, ⟨path, isText⟩, rfl⟩

/-- A parse comes to an end if and only if its includes never come to a text that they
have been through. -/
theorem ends_iff_noRepeat (files : FiniteFiles) (call : Call) :
    Ends files.read call ↔ NoRepeat files.read call := by
  rw [ends_iff_acc]
  exact acc_iff_noRepeat files call

/-- A directory with one file. -/
def loopFiles : FiniteFiles where
  read := fun path =>
    if path = ascii "loop.ssqls" then .ok (ascii "include loop.ssqls")
    else .error (ascii "No such file or directory")
  finite := by
    apply (Set.finite_singleton (ascii "include loop.ssqls")).subset
    intro text given
    obtain ⟨path, read⟩ := given
    split at read
    · cases read
      rfl
    · cases read

/-- A file that includes itself. -/
theorem loop_never_ends :
    ¬ Ends loopFiles.read { before := .initial, fileName := ascii "loop.ssqls" } := by
  let call : Call := { before := .initial, fileName := ascii "loop.ssqls" }
  have read : call.contents loopFiles.read = some (ascii "include loop.ssqls") := by decide
  have listed : directives (ascii "include loop.ssqls") =
      [{ tl := [ascii "include", ascii "loop.ssqls"], subdirective := false
         lineNumber := 2 }] := by
    decide
  have named : includedFile [ascii "include", ascii "loop.ssqls"] false =
      some (ascii "loop.ssqls") := by decide
  have start : call.start = .initial := by decide
  intro given
  obtain ⟨depth, inside⟩ := given
  apply inside
  clear inside
  induction depth with
  | zero => rfl
  | succ depth ih =>
      rw [run_parse_of_contents read, listed, start, interpret, run_bind_of_error]
      · rfl
      · rw [Line.run_parse_of_included named]
        exact EStateM.Result.eq_error ih

end LibTabula.ParseV2
