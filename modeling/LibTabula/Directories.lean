/-
Directories on the search path.

Two paths lead to the same directory if they differ only in repeated separators and in
steps to the directory that one is in. What the parser puts on the search path is made
from the name that was asked for, and not from the path that was opened.
-/

import LibTabula.SearchPath

set_option autoImplicit false

namespace LibTabula.ParseV2

open Foundation

/-! ### Directories -/

structure Directory where
  absolute : Bool
  steps : List Bytes
deriving DecidableEq, Repr

namespace Directory

/-- The directory that the program runs in. -/
def current : Directory := { absolute := false, steps := [] }

def isSeparator (c : UInt8) : Bool := c = pathSeparator

def walked (parts : List Bytes) : List Bytes := parts.filter fun part => part ≠ ascii "."

/-- The directory that a path of a file leads to. -/
def containing (path : Bytes) : Directory :=
  { absolute := path.head? = some pathSeparator
    steps := walked (words isSeparator path).dropLast }

/-- What an entry of the search path stands for. A separator is put behind it, so an empty
one is the root. -/
def ofEntry (entry : Bytes) : Directory :=
  { absolute := (entry ++ [pathSeparator]).head? = some pathSeparator
    steps := walked (words isSeparator entry) }

/-- A name with no directory part. -/
def PlainName (name : Bytes) : Prop := IsWord isSeparator name

theorem separates : isSeparator pathSeparator = true := rfl

theorem words_entry {name : Bytes} (plain : PlainName name) (entry : Bytes) :
    words isSeparator (entry ++ pathSeparator :: name) = words isSeparator entry ++ [name] := by
  rw [words_append_cons separates, words_of_isWord plain]

theorem containing_entry {name : Bytes} (plain : PlainName name) (entry : Bytes) :
    containing (entry ++ pathSeparator :: name) = ofEntry entry := by
  have front : (entry ++ pathSeparator :: name).head? = (entry ++ [pathSeparator]).head? := by
    cases entry <;> rfl
  rw [containing, ofEntry, words_entry plain, List.dropLast_concat, front]

theorem containing_plain {name : Bytes} (plain : PlainName name) :
    containing name = current := by
  have relative : name.head? ≠ some pathSeparator := by
    intro first
    have isSep := plain.unbroken _ (List.mem_of_head? first)
    rw [separates] at isSep
    cases isSep
  rw [containing, words_of_isWord plain, decide_eq_false relative]
  rfl

theorem splitPath_of_separator (rest : Bytes) :
    splitPath (pathSeparator :: rest) = [] :: words isSeparator (pathSeparator :: rest) := rfl

theorem splitPath_of_other {c : UInt8} (other : c ≠ pathSeparator) (rest : Bytes) :
    splitPath (c :: rest) = words isSeparator (c :: rest) := by
  have first : (c :: rest).takeWhile (· ≠ pathSeparator) =
      c :: rest.takeWhile (· ≠ pathSeparator) := List.takeWhile_cons_of_pos (decide_eq_true other)
  have isWord : IsWord isSeparator ((c :: rest).takeWhile (· ≠ pathSeparator)) := by
    constructor
    · rw [first]
      exact List.cons_ne_nil _ _
    · intro d member
      have passes := List.mem_takeWhile_imp member
      exact decide_eq_false (of_decide_eq_true passes)
  have whole := List.takeWhile_append_dropWhile (p := (· ≠ pathSeparator)) (l := c :: rest)
  have split_ : splitPath (c :: rest) = (c :: rest).takeWhile (· ≠ pathSeparator) ::
      words isSeparator ((c :: rest).dropWhile (· ≠ pathSeparator)) := rfl
  rw [split_]
  cases behind : (c :: rest).dropWhile (· ≠ pathSeparator) with
  | nil =>
      rw [behind, List.append_nil] at whole
      rw [whole] at isWord ⊢
      rw [words_of_isWord isWord]
      rfl
  | cons d tail =>
      have isSep : d = pathSeparator := by
        have stopped := List.head?_dropWhile_not (· ≠ pathSeparator) (c :: rest)
        rw [behind] at stopped
        simpa using stopped
      rw [behind, isSep] at whole
      rw [← whole, words_append_separator isWord separates, isSep,
        words_cons_separator separates, whole]

section Joined

variable {ws : List Bytes} (areWords : ∀ word ∈ ws, IsWord isSeparator word)

include areWords

/-- Parts with an empty one before them are joined to an absolute path. -/
theorem ofEntry_absolute :
    ofEntry ([pathSeparator].intercalate ([] :: ws)) = ⟨true, walked ws⟩ := by
  cases ws with
  | nil => rfl
  | cons word ws =>
      have joined : [pathSeparator].intercalate ([] :: word :: ws) =
          pathSeparator :: [pathSeparator].intercalate (word :: ws) := by
        rw [List.intercalate_cons_cons, List.nil_append, List.singleton_append]
      rw [joined, ofEntry, words_cons_separator separates, words_intercalate separates areWords]
      rfl

theorem ofEntry_relative (some_ : ws ≠ []) :
    ofEntry ([pathSeparator].intercalate ws) = ⟨false, walked ws⟩ := by
  rw [ofEntry, words_intercalate separates areWords]
  obtain ⟨word, ws, rfl⟩ := List.exists_cons_of_ne_nil some_
  have first := areWords word List.mem_cons_self
  obtain ⟨c, tail, rfl⟩ := List.exists_cons_of_ne_nil first.nonempty
  have other : c ≠ pathSeparator := by
    intro isSep
    have unbroken := first.unbroken c List.mem_cons_self
    rw [isSep, separates] at unbroken
    cases unbroken
  rw [intercalate_cons_eq_flatMap]
  have head : some c ≠ some pathSeparator := fun same => other (Option.some.inj same)
  exact congrArg (Directory.mk · _) (decide_eq_false head)

end Joined

/-- The directory part of a name leads to where the name does. -/
theorem ofEntry_ownDirectory {fileName entry : Bytes}
    (own : ownDirectory fileName = some entry) : ofEntry entry = containing fileName := by
  unfold ownDirectory at own
  extract_lets parts at own
  have areWords : ∀ word ∈ (words isSeparator fileName).dropLast, IsWord isSeparator word :=
    fun word member => (isWord_of_mem_words (List.dropLast_subset _ member)).1
  split at own
  next interesting =>
    have more : 1 < parts.length := interesting.1
    rw [← Option.some.inj own]
    cases fileName with
    | nil => exact absurd more (by decide)
    | cons c rest =>
        by_cases isSep : c = pathSeparator
        · rw [isSep] at areWords
          have split_ : parts = [] :: words isSeparator (pathSeparator :: rest) := by
            rw [← splitPath_of_separator rest, ← isSep]
          rw [split_, List.length_cons] at more
          have some_ : words isSeparator (pathSeparator :: rest) ≠ [] :=
            List.ne_nil_of_length_pos (Nat.lt_of_succ_lt_succ more)
          rw [split_, List.dropLast_cons_of_ne_nil some_, ofEntry_absolute areWords, isSep]
          rfl
        · have split_ : parts = words isSeparator (c :: rest) := splitPath_of_other isSep rest
          rw [split_] at more
          have some_ : (words isSeparator (c :: rest)).dropLast ≠ [] := by
            apply List.ne_nil_of_length_pos
            rw [List.length_dropLast]
            omega
          have head : some c ≠ some pathSeparator := fun same => isSep (Option.some.inj same)
          rw [split_, ofEntry_relative areWords some_, containing, List.head?_cons,
            decide_eq_false head]
  next => cases own

end Directory

/-! ### Files in directories -/

open Directory

/-- A file system in which names are looked up in directories. -/
structure Volume where
  fs : FileSystem
  sameDirectory : ∀ {entry other name}, PlainName name → ofEntry entry = ofEntry other →
    fs (entry ++ pathSeparator :: name) = fs (other ++ pathSeparator :: name)
  currentDirectory : ∀ {entry name}, PlainName name → ofEntry entry = current →
    fs (entry ++ pathSeparator :: name) = fs name

/-- The file system that a look into directories gives. -/
def Volume.ofLook (look : Directory → Bytes → Except Bytes Bytes) : Volume where
  fs path := look (containing path) ((words isSeparator path).getLastD [])
  sameDirectory := by
    intro entry other name plain same
    simp only [containing_entry plain, words_entry plain, List.getLastD_concat, same]
  currentDirectory := by
    intro entry name plain isCurrent
    simp only [containing_entry plain, words_entry plain, List.getLastD_concat, isCurrent,
      containing_plain plain, words_of_isWord plain, List.getLastD_cons, List.getLastD_nil]

/-- After a file has been opened: its directory is on the search path once, unless it is the
current one, what was there before is there in its order, and from then on the name of a
file in the same directory opens that file. -/
structure DirectoryKept (volume : Volume) (path : Bytes) (before after : Statics) : Prop where
  directory : containing path = current ∨
    after.searchPath.countP (fun entry => ofEntry entry = containing path) = 1
  order : before.searchPath <+: after.searchPath
  sibling : ∀ entry name text, PlainName name → ofEntry entry = containing path →
    volume.fs (entry ++ pathSeparator :: name) = .ok text →
    ∀ later, Grows after later → ∃ last,
      (openFile volume.fs name).run later = .ok text last

/-- Whatever file is opened under the name. -/
def KeepsDirectory (volume : Volume) (before : Statics) (fileName : Bytes) : Prop :=
  ∀ text after, (openFile volume.fs fileName).run before = .ok text after →
    ∃ path, opened volume.fs before.searchPath fileName = some path ∧
      DirectoryKept volume path before after

def listed (searchPath : List Bytes) (directory : Directory) : Nat :=
  searchPath.countP fun entry => ofEntry entry = directory

/-- The directory of the path is the current one; or it is on the search path once and is
not put there under another spelling; or it is not on the search path, and the directory
part of the name that was asked for leads to it. -/
inductive DirectoryAllowed (searchPath : List Bytes) (fileName path : Bytes) : Prop
  | current (isCurrent : containing path = current)
  | known (once : listed searchPath (containing path) = 1)
      (spelled : ∀ entry, ownDirectory fileName = some entry →
        ofEntry entry = containing path → entry ∈ searchPath)
  | added (missing : listed searchPath (containing path) = 0) (entry : Bytes)
      (own : ownDirectory fileName = some entry) (leads : ofEntry entry = containing path)

/-- The entries that are tried before those that lead to the directory. -/
def entriesBefore (searchPath : List Bytes) (directory : Directory) : List Bytes :=
  searchPath.takeWhile fun entry => ofEntry entry ≠ directory

/-- No file beside the opened one is hidden: what is found under the name of one before its
directory is tried has the same text. -/
def NotShadowed (volume : Volume) (searchPath : List Bytes) (path : Bytes) : Prop :=
  ∀ entry name text other, PlainName name → ofEntry entry = containing path →
    volume.fs (entry ++ pathSeparator :: name) = .ok text →
    openFirst volume.fs (candidates (entriesBefore searchPath (containing path)) name) =
      .ok other → other = text

section Kept

variable {volume : Volume} {before after : Statics} {fileName path : Bytes}

theorem listed_addDirectory (fileName : Bytes) (before : Statics) (directory : Directory) :
    listed (addDirectoryToSearchPath fileName before).searchPath directory =
      match ownDirectory fileName with
      | some entry =>
          if entry ∉ before.searchPath ∧ ofEntry entry = directory
            then listed before.searchPath directory + 1
            else listed before.searchPath directory
      | none => listed before.searchPath directory := by
  rw [searchPath_addDirectory]
  cases ownDirectory fileName with
  | none => rfl
  | some entry =>
      dsimp only
      by_cases known : entry ∈ before.searchPath
      · rw [if_pos known, if_neg fun new => new.1 known]
      · rw [if_neg known, listed, List.countP_append, List.countP_singleton]
        by_cases leads : ofEntry entry = directory
        · rw [if_pos (decide_eq_true leads), if_pos ⟨known, leads⟩]
          rfl
        · rw [if_neg (mt of_decide_eq_true leads), if_neg fun new => leads new.2]
          rfl

theorem directoryAllowed_iff (searchPath : List Bytes) (fileName path : Bytes)
    (wasTable : Bool) :
    DirectoryAllowed searchPath fileName path ↔
      containing path = current ∨
        listed (addDirectoryToSearchPath fileName ⟨searchPath, wasTable⟩).searchPath
          (containing path) = 1 := by
  rw [listed_addDirectory]
  constructor
  · intro allowed
    cases allowed with
    | current isCurrent => exact Or.inl isCurrent
    | known once spelled =>
        right
        cases own : ownDirectory fileName with
        | none => exact once
        | some entry =>
            have old : ¬ (entry ∉ searchPath ∧ ofEntry entry = containing path) :=
              fun new => new.1 (spelled entry own new.2)
            dsimp only
            rw [if_neg old]
            exact once
    | added missing entry own leads =>
        right
        have new : entry ∉ searchPath := by
          intro member
          have none := List.countP_eq_zero.mp missing entry member
          exact none (decide_eq_true leads)
        rw [own]
        dsimp only
        rw [if_pos ⟨new, leads⟩, missing]
  · intro onPath
    rcases onPath with isCurrent | once
    · exact .current isCurrent
    · cases own : ownDirectory fileName with
      | none =>
          rw [own] at once
          exact .known once fun entry own' => by rw [own] at own'; cases own'
      | some entry =>
          rw [own] at once
          dsimp only at once
          split at once
          next new => exact .added (Nat.succ.inj once) entry own new.2
          next old =>
            apply DirectoryAllowed.known once
            intro other own' leads
            rw [own] at own'
            cases own'
            by_contra new
            exact old ⟨new, leads⟩

theorem entriesBefore_isPrefix (searchPath : List Bytes) (directory : Directory) :
    entriesBefore searchPath directory <+: searchPath := List.takeWhile_prefix _

theorem exists_entriesBefore {searchPath : List Bytes} {directory : Directory}
    (some_ : 0 < listed searchPath directory) :
    ∃ entry rest, ofEntry entry = directory ∧
      searchPath = entriesBefore searchPath directory ++ entry :: rest := by
  have whole := List.takeWhile_append_dropWhile
    (p := fun entry => ofEntry entry ≠ directory) (l := searchPath)
  cases behind : searchPath.dropWhile fun entry => ofEntry entry ≠ directory with
  | nil =>
      obtain ⟨entry, member, leads⟩ := List.countP_pos_iff.mp some_
      have differs := List.dropWhile_eq_nil_iff.mp behind entry member
      exact absurd (of_decide_eq_true leads) (of_decide_eq_true differs)
  | cons entry rest =>
      have stopped := List.head?_dropWhile_not (fun entry => ofEntry entry ≠ directory) searchPath
      rw [behind] at stopped
      have leads : ofEntry entry = directory := by simpa using stopped
      rw [behind] at whole
      exact ⟨entry, rest, leads, whole.symm⟩

/-- A directory that is put on the search path has all other entries before it. -/
theorem entriesBefore_addDirectory {directory : Directory}
    (some_ : 0 < listed (addDirectoryToSearchPath fileName before).searchPath directory) :
    entriesBefore (addDirectoryToSearchPath fileName before).searchPath directory =
      entriesBefore before.searchPath directory := by
  rw [listed_addDirectory] at some_
  rw [searchPath_addDirectory]
  cases own : ownDirectory fileName with
  | none => rfl
  | some entry =>
      rw [own] at some_
      dsimp only at some_ ⊢
      by_cases known : entry ∈ before.searchPath
      · rw [if_pos known]
      · rw [if_neg known, entriesBefore, List.takeWhile_append]
        split
        next all =>
          have missing : listed before.searchPath directory = 0 := by
            apply List.countP_eq_zero.mpr
            intro other member leads
            have whole := (List.takeWhile_prefix _).eq_of_length all
            rw [← whole] at member
            have differs := List.mem_takeWhile_imp member
            exact absurd (of_decide_eq_true leads) (of_decide_eq_true differs)
          have leads : ofEntry entry = directory := by
            by_contra other
            rw [if_neg fun new => other new.2, missing] at some_
            exact Nat.lt_irrefl 0 some_
          have stops : [entry].takeWhile (fun entry => ofEntry entry ≠ directory) = [] :=
            List.takeWhile_cons_of_neg fun differs => of_decide_eq_true differs leads
          have whole := (List.takeWhile_prefix _).eq_of_length all
          rw [stops, List.append_nil, entriesBefore, whole]
        next => rfl

/-- A file in an entry is what its name opens, if nothing else is found before. -/
theorem openFirst_behind {text entry name : Bytes} {ahead rest : List Bytes}
    (present : volume.fs (entry ++ pathSeparator :: name) = .ok text)
    (same : ∀ other, openFirst volume.fs (candidates ahead name) = .ok other → other = text) :
    openFirst volume.fs (candidates (ahead ++ entry :: rest) name) = .ok text := by
  rw [openFirst_ok_iff]
  have appended : candidates (ahead ++ entry :: rest) name = candidates ahead name ++
      (entry ++ pathSeparator :: name) :: rest.map (· ++ pathSeparator :: name) := by
    rw [candidates, candidates, List.map_append, List.cons_append, List.map_cons]
  rw [appended, List.find?_append]
  cases found : opened volume.fs ahead name with
  | none =>
      have nothing : (candidates ahead name).find? (fun path => (volume.fs path).isOk) = none :=
        found
      rw [nothing, Option.none_or]
      exact ⟨_, List.find?_cons_of_pos (by rw [present]; rfl), present⟩
  | some earlier =>
      have isFirst : (candidates ahead name).find? (fun path => (volume.fs path).isOk) =
        some earlier := found
      have isOk := List.find?_some isFirst
      rw [isFirst, Option.some_or]
      cases read : volume.fs earlier with
      | error reason =>
          rw [read] at isOk
          cases isOk
      | ok other =>
          have isSame := same other ((openFirst_ok_iff volume.fs _ other).mpr
            ⟨earlier, isFirst, read⟩)
          rw [isSame] at read
          exact ⟨earlier, rfl, read⟩

theorem sibling_found {text entry name : Bytes} (plain : PlainName name)
    (leads : ofEntry entry = containing path)
    (directory : containing path = current ∨
      0 < listed (addDirectoryToSearchPath fileName before).searchPath (containing path))
    (unshadowed : NotShadowed volume before.searchPath path)
    (present : volume.fs (entry ++ pathSeparator :: name) = .ok text)
    {later : Statics} (grown : Grows (addDirectoryToSearchPath fileName before) later) :
    ∃ last, (openFile volume.fs name).run later = .ok text last := by
  have first : openFirst volume.fs (candidates later.searchPath name) = .ok text := by
    rcases directory with isCurrent | some_
    · rw [isCurrent] at leads
      rw [volume.currentDirectory plain leads] at present
      exact openFirst_of_ok present _
    · obtain ⟨other, rest, same, split_⟩ := exists_entriesBefore some_
      rw [entriesBefore_addDirectory some_] at split_
      obtain ⟨added, isLater⟩ := grown
      have again : volume.fs (other ++ pathSeparator :: name) = .ok text := by
        rw [← present]
        exact volume.sameDirectory plain (same.trans leads.symm)
      rw [← isLater, split_, List.append_assoc, List.cons_append]
      apply openFirst_behind again
      intro hidden isHidden
      exact unshadowed entry name text hidden plain leads present isHidden
  obtain ⟨candidate, found, read⟩ := (openFirst_ok_iff volume.fs _ text).mp first
  exact ⟨_, run_openFile_of_opened found read⟩

theorem directoryKept_addDirectory (path : Bytes)
    (directory : containing path = current ∨
      listed (addDirectoryToSearchPath fileName before).searchPath (containing path) = 1)
    (unshadowed : NotShadowed volume before.searchPath path) :
    DirectoryKept volume path before (addDirectoryToSearchPath fileName before) where
  directory := directory
  order := grows_addDirectory fileName before
  sibling := by
    intro entry name text plain leads present later grown
    apply sibling_found plain leads _ unshadowed present grown
    rcases directory with isCurrent | once
    · exact Or.inl isCurrent
    · exact Or.inr (Nat.lt_of_lt_of_eq Nat.one_pos once.symm)

/-- What is found earlier is found first ever after, so it is what the name opens. -/
theorem notShadowed_of_kept (kept : DirectoryKept volume path before after) :
    NotShadowed volume before.searchPath path := by
  intro entry name text other plain leads present hidden
  obtain ⟨last, ran⟩ := kept.sibling entry name text plain leads present after (Grows.refl after)
  obtain ⟨-, first, found, read⟩ := opened_of_run ran
  obtain ⟨earlier, isEarlier, readEarlier⟩ := (openFirst_ok_iff volume.fs _ other).mp hidden
  have ahead := (entriesBefore_isPrefix before.searchPath (containing path)).trans kept.order
  have atLast := opened_of_prefix ahead isEarlier
  have same : some first = some earlier := found.symm.trans atLast
  rw [Option.some.inj same, readEarlier] at read
  exact Except.ok.inj read

end Kept

/-- The directory of the opened file ends up on the search path, once, in exactly the
allowed cases, and the files in it are found from then on if no other files hide them. -/
theorem keepsDirectory_iff (volume : Volume) (before : Statics) (fileName : Bytes) :
    KeepsDirectory volume before fileName ↔
      ∀ path, opened volume.fs before.searchPath fileName = some path →
        DirectoryAllowed before.searchPath fileName path ∧
          NotShadowed volume before.searchPath path := by
  constructor
  · intro keeps path found
    have isOk := List.find?_some found
    cases read : volume.fs path with
    | error reason =>
        rw [read] at isOk
        cases isOk
    | ok text =>
        obtain ⟨other, same, kept⟩ := keeps text _ (run_openFile_of_opened found read)
        rw [found] at same
        cases same
        constructor
        · exact (directoryAllowed_iff _ fileName path before.lastTldWasTable).mpr kept.directory
        · exact notShadowed_of_kept kept
  · intro given text after ran
    obtain ⟨rfl, path, found, -⟩ := opened_of_run ran
    obtain ⟨allowed, unshadowed⟩ := given path found
    have directory := (directoryAllowed_iff _ fileName path before.lastTldWasTable).mp allowed
    exact ⟨path, found, directoryKept_addDirectory path directory unshadowed⟩

/-- A file that is opened under its own name leads to its directory, whose name is then on
the search path if no other spelling was. -/
theorem directoryAllowed_of_own {searchPath : List Bytes} {fileName entry : Bytes}
    (own : ownDirectory fileName = some entry)
    (missing : listed searchPath (containing fileName) = 0) :
    DirectoryAllowed searchPath fileName fileName :=
  .added missing entry own (ofEntry_ownDirectory own)

/-- Two files in a directory below the one that the search path has. -/
def nestedVolume : Volume := .ofLook fun directory name =>
  if directory = ⟨false, [ascii "sql", ascii "shop"]⟩ ∧
      (name = ascii "stock.ssqls" ∨ name = ascii "item.ssqls") then .ok []
  else .error (ascii "No such file or directory")

/-- The first file is found below the directory, and the second one is not. -/
theorem nested_sibling_missing :
    let before : Statics := ⟨[ascii "sql"], false⟩
    let after : Statics := ⟨[ascii "sql", ascii "shop"], false⟩
    opened nestedVolume.fs before.searchPath (ascii "shop/stock.ssqls") =
        some (ascii "sql/shop/stock.ssqls") ∧
      (openFile nestedVolume.fs (ascii "shop/stock.ssqls")).run before = .ok [] after ∧
      opened nestedVolume.fs after.searchPath (ascii "item.ssqls") = none ∧
      ¬ KeepsDirectory nestedVolume before (ascii "shop/stock.ssqls") := by
  intro before after
  have found : opened nestedVolume.fs before.searchPath (ascii "shop/stock.ssqls") =
      some (ascii "sql/shop/stock.ssqls") := by decide +kernel
  have read : nestedVolume.fs (ascii "sql/shop/stock.ssqls") = .ok [] := by decide +kernel
  have added : addDirectoryToSearchPath (ascii "shop/stock.ssqls") before = after := by
    decide +kernel
  have ran := run_openFile_of_opened found read
  rw [added] at ran
  refine ⟨found, ran, by decide +kernel, ?_⟩
  intro keeps
  obtain ⟨path, same, kept⟩ := keeps [] after ran
  rw [found] at same
  cases same
  have directory := kept.directory
  revert directory
  decide +kernel

end LibTabula.ParseV2
