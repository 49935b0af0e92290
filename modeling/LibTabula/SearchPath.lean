/-
Where the SSQLS v2 parser looks for files.

A file is opened under its own name or in the first directory of the search path that
has it, and the directory part of its name is put on the search path. The search path
only grows, at its end, so that a name that has been found once stands for the same file
from then on.
-/

import LibTabula.Regeneration

set_option autoImplicit false

namespace LibTabula.ParseV2

open Foundation

/-! ### Which path is opened -/

def candidates (searchPath : List Bytes) (fileName : Bytes) : List Bytes :=
  fileName :: searchPath.map fun path => path ++ pathSeparator :: fileName

/-- The path that `File` opens. -/
def opened (fs : FileSystem) (searchPath : List Bytes) (fileName : Bytes) : Option Bytes :=
  (candidates searchPath fileName).find? fun path => (fs path).isOk

theorem openFirst_ok_iff (fs : FileSystem) (paths : List Bytes) (text : Bytes) :
    openFirst fs paths = .ok text ↔
      ∃ path, paths.find? (fun path => (fs path).isOk) = some path ∧ fs path = .ok text := by
  induction paths with
  | nil =>
      apply iff_of_false error_ne_ok
      intro given
      obtain ⟨path, impossible, _⟩ := given
      cases impossible
  | cons path rest ih =>
      cases found : fs path with
      | ok other =>
          have first : (path :: rest).find? (fun path => (fs path).isOk) = some path :=
            List.find?_cons_of_pos (by rw [found]; rfl)
          rw [openFirst_of_ok found, first]
          constructor
          · intro same
            exact ⟨path, rfl, found.trans same⟩
          · intro given
            obtain ⟨_, same, read⟩ := given
            cases same
            exact found.symm.trans read
      | error reason =>
          have later : (path :: rest).find? (fun path => (fs path).isOk) =
              rest.find? (fun path => (fs path).isOk) :=
            List.find?_cons_of_neg (by rw [found]; exact Bool.false_ne_true)
          rw [later, ← ih]
          cases rest with
          | nil =>
              have alone : openFirst fs [path] = fs path := rfl
              rw [alone, found]
              exact iff_of_false error_ne_ok error_ne_ok
          | cons next rest =>
              rw [openFirst, found]
              intro impossible
              cases impossible

section Open

variable {fs : FileSystem} {fileName path text : Bytes} {before after : Statics}

theorem run_openFile_of_opened (found : opened fs before.searchPath fileName = some path)
    (read : fs path = .ok text) :
    (openFile fs fileName).run before =
      .ok text (addDirectoryToSearchPath fileName before) := by
  have first := (openFirst_ok_iff fs (candidates before.searchPath fileName) text).mpr
    ⟨path, found, read⟩
  unfold candidates at first
  rw [openFile, run_bind_of_ok (EStateM.run_get before)]
  simp only [first]
  rfl

theorem run_openFile_of_not_opened (missing : opened fs before.searchPath fileName = none) :
    ∃ what, (openFile fs fileName).run before = .error (.file what) before := by
  rw [openFile, run_bind_of_ok (x := get) rfl]
  split
  next text first =>
    obtain ⟨path, found, -⟩ := (openFirst_ok_iff fs _ text).mp first
    have same : opened fs before.searchPath fileName = some path := found
    rw [missing] at same
    cases same
  next reason _ => exact ⟨_, rfl⟩

theorem opened_of_run (ran : (openFile fs fileName).run before = .ok text after) :
    after = addDirectoryToSearchPath fileName before ∧
      ∃ path, opened fs before.searchPath fileName = some path ∧ fs path = .ok text := by
  rw [openFile, run_bind_of_ok (x := get) rfl] at ran
  split at ran
  next other first =>
    cases ran
    exact ⟨rfl, (openFirst_ok_iff fs _ text).mp first⟩
  next => cases ran

end Open

/-- What has been found is found again when the search path has grown. -/
theorem opened_of_prefix {fs : FileSystem} {shorter longer : List Bytes} {fileName path : Bytes}
    (grown : shorter <+: longer) (found : opened fs shorter fileName = some path) :
    opened fs longer fileName = some path := by
  obtain ⟨added, rfl⟩ := grown
  have appended : candidates (shorter ++ added) fileName = candidates shorter fileName ++
      added.map fun path => path ++ pathSeparator :: fileName := by
    rw [candidates, candidates, List.map_append, List.cons_append]
  rw [opened] at found
  rw [opened, appended, List.find?_append, found, Option.some_or]

/-! ### The search path grows -/

/-- The directory part of a name, if the parser has one to put on the search path. -/
def ownDirectory (fileName : Bytes) : Option Bytes :=
  let parts := splitPath fileName
  if 1 < parts.length ∧ (parts.length ≠ 2 ∨ parts.head? ≠ some (ascii ".")) then
    some ([pathSeparator].intercalate parts.dropLast)
  else none

theorem searchPath_addDirectory (fileName : Bytes) (before : Statics) :
    (addDirectoryToSearchPath fileName before).searchPath =
      match ownDirectory fileName with
      | some path =>
          if path ∈ before.searchPath then before.searchPath else before.searchPath ++ [path]
      | none => before.searchPath := by
  unfold addDirectoryToSearchPath ownDirectory
  extract_lets parts path
  by_cases interesting : 1 < parts.length ∧ (parts.length ≠ 2 ∨ parts.head? ≠ some (ascii "."))
  · rw [if_pos interesting, if_pos interesting]
    exact apply_ite Statics.searchPath _ _ _
  · rw [if_neg interesting, if_neg interesting]

def Grows (before after : Statics) : Prop := before.searchPath <+: after.searchPath

theorem Grows.refl (state : Statics) : Grows state state := List.prefix_refl state.searchPath

theorem Grows.trans (a b c : Statics) (first : Grows a b) (second : Grows b c) : Grows a c :=
  List.IsPrefix.trans first second

theorem grows_addDirectory (fileName : Bytes) (before : Statics) :
    Grows before (addDirectoryToSearchPath fileName before) := by
  rw [Grows, searchPath_addDirectory]
  cases ownDirectory fileName with
  | none => exact List.prefix_refl before.searchPath
  | some path =>
      dsimp only
      split
      · exact List.prefix_refl before.searchPath
      · exact List.prefix_append before.searchPath [path]

theorem grows_openFile (fs : FileSystem) (fileName : Bytes) :
    Advances Grows (openFile fs fileName) := by
  intro before
  cases found : opened fs before.searchPath fileName with
  | none =>
      obtain ⟨what, ran⟩ := run_openFile_of_not_opened found
      rw [ran]
      exact Grows.refl before
  | some path =>
      have isOk := List.find?_some found
      cases read : fs path with
      | error reason =>
          rw [read] at isOk
          cases isOk
      | ok text =>
          rw [run_openFile_of_opened found read]
          exact grows_addDirectory fileName before

section Parse

variable {includeFile : Bytes → EStateM Exception Statics (List Line)}
  (included : ∀ fileName, Advances Grows (includeFile fileName))

include included

theorem grows_line (tl : List Bytes) (subdirective : Bool) (file : File) :
    Advances Grows (Line.parse includeFile tl subdirective file) := by
  have noted : ∀ isTable, Advances Grows (modify (noteDirective isTable subdirective) :
      EStateM Exception Statics PUnit) := by
    intro isTable before
    cases subdirective <;> exact Grows.refl _
  unfold Line.parse
  extract_lets directive
  apply Advances.bind Grows.trans (noted _)
  intro _
  split
  · exact .bind Grows.trans (.lift Grows.refl _) fun _ => .pure Grows.refl _
  split
  · apply Advances.bind Grows.trans (.get Grows.refl)
    intro _
    split
    · exact .bind Grows.trans (.lift Grows.refl _) fun _ => .pure Grows.refl _
    · exact .lift Grows.refl _
  split
  · exact .bind Grows.trans (.lift Grows.refl _) included
  split
  · exact .bind Grows.trans (.lift Grows.refl _) fun _ => .pure Grows.refl _
  · exact .lift Grows.refl _

theorem grows_parseLines (fileName : Bytes) (ahead : List Bytes) (lineNumber : Nat) :
    Advances Grows (parseLines includeFile fileName ahead lineNumber) := by
  induction ahead generalizing lineNumber with
  | nil => exact .pure Grows.refl _
  | cons temp ahead ih =>
      rw [parseLines]
      split
      · exact .pure Grows.refl _
      split
      · exact ih (lineNumber + 1)
      · apply Advances.bind Grows.trans (grows_line included _ _ _)
        intro parsed
        exact .bind Grows.trans (ih (lineNumber + 1)) fun _ => .pure Grows.refl _

end Parse

/-- Every parse leaves the search path as it was or longer. -/
theorem grows_parse (fs : FileSystem) (depth : Nat) (fileName : Bytes) :
    Advances Grows (parse fs depth fileName) := by
  induction depth generalizing fileName with
  | zero => exact .throw Grows.refl _
  | succ depth ih =>
      rw [parse]
      apply Advances.bind Grows.trans (grows_openFile fs fileName)
      intro text
      exact grows_parseLines ih fileName _ 1

end LibTabula.ParseV2
