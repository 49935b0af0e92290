/-
The translator on its own output.

Where files keep what is written to them, a run on what a run has written is never stopped by
the parser. It may lose lines, but one more run does not. What goes to the standard output is
not read back at all.
-/

import LibTabula.SsqlsxlatMain

set_option autoImplicit false

namespace LibTabula.Ssqlsxlat

open Foundation ParseV2

/-! ### Its own output -/

section OwnOutput

variable {files : Files}

/-- Shorter output means fewer lines. -/
theorem generate_takeWhile_iff (short : Line → Bool) (lines : List Line) :
    ParseV2.generateSsqls2 (lines.takeWhile short) = ParseV2.generateSsqls2 lines ↔
      lines.takeWhile short = lines := by
  constructor
  · intro same
    have split_ : ParseV2.generateSsqls2 lines =
        ParseV2.generateSsqls2 (lines.takeWhile short) ++
          ParseV2.generateSsqls2 (lines.dropWhile short) := by
      rw [ParseV2.generateSsqls2, ParseV2.generateSsqls2, ParseV2.generateSsqls2, unlines, unlines,
        unlines, ← List.flatMap_append, ← List.map_append, List.takeWhile_append_dropWhile]
    rw [same] at split_
    have nothing := List.self_eq_append_right.mp split_
    cases left_ : lines.dropWhile short with
    | nil =>
        have whole := List.takeWhile_append_dropWhile (p := short) (l := lines)
        rw [left_, List.append_nil] at whole
        exact whole
    | cons line rest =>
        rw [left_, ParseV2.generateSsqls2, unlines, List.map_cons, List.flatMap_cons] at nothing
        have impossible := (List.append_eq_nil_iff.mp (List.append_eq_nil_iff.mp nothing).1).2
        cases impossible
  · intro same
    rw [same]

variable {argv argv' argv'' : List Bytes} {disk : files.State} {first second third : Finished files}
  {input one two three : Bytes}

/-- What a run that has succeeded has left in its output file. -/
theorem read_output (keeps : files.Keeps) {lines : List Line} (job : Job argv input one)
    (file : one ≠ ascii "-") (accepted : Accepts (files.read disk) input lines)
    (exits : Exits files argv disk first) (done : first.code = 0) :
    files.read first.disk one = .ok (ParseV2.generateSsqls2 lines) := by
  obtain ⟨input', out, others, asks', again, generated⟩ :=
    (exits_zero_iff job.strings job.named first.disk).mp ⟨first, exits, done, rfl⟩
  obtain ⟨rfl, rfl⟩ := job.asks.same asks'
  obtain rfl := accepted.unique again
  rw [Generated, if_neg file] at generated
  exact keeps generated

/-- The lines of a file that are short enough to be read back, up to the first that is
not. -/
def readBack (lines : List Line) : List Line :=
  lines.takeWhile fun line => line.written.length < bufferSize

theorem readBack_readBack (lines : List Line) : readBack (readBack lines) = readBack lines := by
  rw [readBack, readBack, List.takeWhile_takeWhile]
  simp only [and_self, Bool.decide_eq_true]

theorem readBack_eq_iff {lines : List Line} (proper : ∀ line ∈ lines, line.Proper) :
    readBack lines = lines ↔ ∀ line ∈ lines, line.Fits := by
  rw [readBack, List.takeWhile_eq_self_iff]
  constructor
  · intro short line member
    exact (Line.written_short_iff (proper line member)).mp (of_decide_eq_true (short line member))
  · intro fits line member
    exact decide_eq_true ((Line.written_short_iff (proper line member)).mpr (fits line member))

/-- What a run has left is parsed to the lines that are short enough. -/
theorem accepts_output (keeps : files.Keeps) {lines : List Line} (job : Job argv input one)
    (file : one ≠ ascii "-") (accepted : Accepts (files.read disk) input lines)
    (exits : Exits files argv disk first) (done : first.code = 0) (again : List Line) :
    Accepts (files.read first.disk) one again ↔ again = readBack lines := by
  obtain ⟨proper, placed⟩ := accounted_of_accepts accepted
  exact accepts_generated_iff proper placed (read_output keeps job file accepted exits done) again

/-- A run on the output of a run that has succeeded parses it: it succeeds if and only if
its own output can be written. -/
theorem own_output_accepted (keeps : files.Keeps) {lines : List Line} (job : Job argv input one)
    (job' : Job argv' one two) (file : one ≠ ascii "-")
    (accepted : Accepts (files.read disk) input lines) (exits : Exits files argv disk first)
    (done : first.code = 0) :
    (∃ second, Exits files argv' first.disk second ∧ second.code = 0) ↔
      ∃ last, Generated files two (readBack lines) first.disk last := by
  have accepts := accepts_output keeps job file accepted exits done
  constructor
  · intro ran
    obtain ⟨second, exits', done'⟩ := ran
    obtain ⟨input', out, again, other, accepted', generated⟩ :=
      (exits_zero_iff job'.strings job'.named second.disk).mp ⟨second, exits', done', rfl⟩
    obtain ⟨rfl, rfl⟩ := job'.asks.same other
    obtain rfl := (accepts again).mp accepted'
    exact ⟨second.disk, generated⟩
  · intro given
    obtain ⟨last, generated⟩ := given
    obtain ⟨second, exits', done', _⟩ := (exits_zero_iff job'.strings job'.named last).mpr
      ⟨one, two, readBack lines, job'.asks, (accepts _).mpr rfl, generated⟩
    exact ⟨second, exits', done'⟩

theorem own_output_accepted_stock :
    ∃ first : Finished plainFiles,
      Exits plainFiles (plainArgs (ascii "all.ssqls") (ascii "a.ssqls")) stockFiles first ∧
        first.code = 0 ∧
        ∃ second, Exits plainFiles (plainArgs (ascii "a.ssqls") (ascii "-")) first.disk second ∧
          second.code = 0 := by
  have job := job_plainArgs (ascii "all.ssqls") (ascii "a.ssqls") (by decide) (by decide)
  have job' := job_plainArgs (ascii "a.ssqls") (ascii "-") (by decide) (by decide)
  obtain ⟨first, exits, done⟩ := exists_run opens_plainFiles job accepts_stock
  exact ⟨first, exits, done,
    (own_output_accepted keeps_plainFiles job job' (by decide) accepts_stock exits done).mpr
      (exists_generated opens_plainFiles _ _ _)⟩

/-- Three runs in a row, each on the output of the one before. The third writes what the
second has written, and the second what the first has written if and only if the names in
the parse fit into the lines that are read back. -/
theorem own_output_settles (keeps : files.Keeps) {lines : List Line} (job : Job argv input one)
    (job' : Job argv' one two) (job'' : Job argv'' two three) (file : one ≠ ascii "-")
    (file' : two ≠ ascii "-") (file'' : three ≠ ascii "-")
    (accepted : Accepts (files.read disk) input lines)
    (exits : Exits files argv disk first) (done : first.code = 0)
    (exits' : Exits files argv' first.disk second) (done' : second.code = 0)
    (exits'' : Exits files argv'' second.disk third) (done'' : third.code = 0) :
    files.read third.disk three = files.read second.disk two ∧
      (files.read second.disk two = files.read first.disk one ↔ ∀ line ∈ lines, line.Fits) := by
  have written := read_output keeps job file accepted exits done
  have accepted' := (accepts_output keeps job file accepted exits done _).mpr rfl
  have written' := read_output keeps job' file' accepted' exits' done'
  have accepted'' := (accepts_output keeps job' file' accepted' exits' done' _).mpr rfl
  have written'' := read_output keeps job'' file'' accepted'' exits'' done''
  rw [readBack_readBack] at written''
  constructor
  · rw [written'', written']
  · rw [written', written, ← readBack_eq_iff (accounted_of_accepts accepted).1, Except.ok.injEq]
    exact generate_takeWhile_iff _ lines

theorem own_output_settles_stock :
    ∃ first second third : Finished plainFiles,
      Exits plainFiles (plainArgs (ascii "all.ssqls") (ascii "a.ssqls")) stockFiles first ∧
        Exits plainFiles (plainArgs (ascii "a.ssqls") (ascii "b.ssqls")) first.disk second ∧
        Exits plainFiles (plainArgs (ascii "b.ssqls") (ascii "c.ssqls")) second.disk third ∧
        plainFiles.read third.disk (ascii "c.ssqls") =
          plainFiles.read second.disk (ascii "b.ssqls") := by
  have job := job_plainArgs (ascii "all.ssqls") (ascii "a.ssqls") (by decide) (by decide)
  have job' := job_plainArgs (ascii "a.ssqls") (ascii "b.ssqls") (by decide) (by decide)
  have job'' := job_plainArgs (ascii "b.ssqls") (ascii "c.ssqls") (by decide) (by decide)
  obtain ⟨first, exits, done⟩ := exists_run opens_plainFiles job accepts_stock
  have accepted' :=
    (accepts_output keeps_plainFiles job (by decide) accepts_stock exits done _).mpr rfl
  obtain ⟨second, exits', done'⟩ := exists_run opens_plainFiles job' accepted'
  have accepted'' :=
    (accepts_output keeps_plainFiles job' (by decide) accepted' exits' done' _).mpr rfl
  obtain ⟨third, exits'', done''⟩ := exists_run opens_plainFiles job'' accepted''
  exact ⟨first, second, third, exits, exits', exits'',
    (own_output_settles keeps_plainFiles job job' job'' (by decide) (by decide) (by decide)
      accepts_stock exits done exits' done' exits'' done'').1⟩

end OwnOutput

/-! ### The standard output -/

theorem generateSsqls2_cout (files : Files) (out : Bytes) (pparse : Option (List Line))
    (disk : files.State) (console : Console) :
    ∃ more, (generateSsqls2 files out pparse disk console).2.2.cout = console.cout ++ more := by
  unfold generateSsqls2
  cases pparse with
  | none => exact ⟨[], (List.append_nil _).symm⟩
  | some lines =>
      by_cases piped : out = ascii "-"
      · simp only [if_pos piped]
        exact ⟨_, rfl⟩
      · simp only [if_neg piped]
        cases files.write disk out (ParseV2.generateSsqls2 lines) with
        | some next => exact ⟨_, rfl⟩
        | none => exact ⟨[], (List.append_nil _).symm⟩

/-- The output of a run that parses begins with its announcement. -/
theorem translate_cout {files : Files} {depth code : Nat} {cmdline : CommandLine}
    {disk last : files.State} {console after : Console}
    (ran : translate files depth cmdline disk console = some (code, last, after)) :
    after.cout = console.cout ∨
      ∃ fileName more, after.cout = console.cout ++ (announcement fileName ++ more) := by
  rw [translate] at ran
  by_cases dsl : cmdline.inputSource = .ssqls2
  · right
    rw [if_pos dsl] at ran
    cases parsed : parseSsqls2 (files.read disk) depth (cmdline.input.getD []) console with
    | none =>
        rw [parsed] at ran
        cases ran
    | some result =>
        obtain ⟨ptree, begun⟩ := result
        obtain ⟨_, more, announced⟩ := parseSsqls2_spec parsed
        obtain ⟨behind, generated⟩ :=
          generateSsqls2_cout files (cmdline.output.getD []) ptree disk begun
        rw [parsed] at ran
        refine ⟨cmdline.input.getD [], ?_⟩
        simp only [Option.map_some] at ran
        split at ran
        · split at ran
          · split at ran
            · cases ran
              refine ⟨more ++ behind, ?_⟩
              rw [generated, announced]
              simp only [List.append_assoc]
            · cases ran
              exact ⟨more, announced⟩
          · cases ran
            exact ⟨more, announced⟩
        · cases ran
          exact ⟨more, announced⟩
  · rw [if_neg dsl] at ran
    cases ran
    exact .inl rfl

/-- The first word of an announcement is no directive. -/
theorem parse_announced (includeFile : Bytes → EStateM Exception Statics (List Line))
    (tl : List Bytes) (subdirective : Bool) (file : File) (before : Statics) :
    ∃ failure after, (Line.parse includeFile (ascii "Parsing" :: tl) subdirective file).run before =
      .error failure after := by
  have keyword : strToLwr (ascii "Parsing") = ascii "parsing" := by decide
  have notTable : ascii "parsing" ≠ ascii "table" := by decide
  have notField : ascii "parsing" ≠ ascii "field" := by decide
  have notInclude : ascii "parsing" ≠ ascii "include" := by decide
  have notOption : ascii "parsing" ≠ ascii "option" := by decide
  simp only [Line.parse, List.headD_cons, keyword, if_neg notTable, if_neg notField,
    if_neg notInclude, if_neg notOption]
  exact ⟨_, _, rfl⟩

theorem parseLines_of_accepts {fs : FileSystem} {path text : Bytes} {lines : List Line}
    (opened : fs path = .ok text) (accepted : Accepts fs path lines) :
    ∃ depth, ((parseLines (parse fs depth) path (textLines (byte '\n') text) 1).run
      (addDirectoryToSearchPath path Statics.initial)).outcome = .ok lines := by
  obtain ⟨depth, returned⟩ := accepted
  cases depth with
  | zero => cases returned
  | succ depth =>
      have read : (openFile fs path).run Statics.initial =
          .ok text (addDirectoryToSearchPath path Statics.initial) := by
        rw [openFile, run_bind_of_ok (x := get) rfl]
        simp only [openFirst_of_ok opened]
        rfl
      rw [parse, run_bind_of_ok read] at returned
      exact ⟨depth, returned⟩

/-- A text that begins with an announcement has no line that is read. -/
theorem accepts_announcement {fs : FileSystem} {path fileName more : Bytes} {lines : List Line}
    (opened : fs path = .ok (announcement fileName ++ more)) (accepted : Accepts fs path lines) :
    lines = [] := by
  -- The first line, up to the first newline.
  let tail := ascii "SSQLS v2 file " ++ fileName ++ ascii "...\n" ++ more
  have whole : announcement fileName ++ more = ascii "Parsing" ++ byte ' ' :: tail := by
    have start : ascii "Parsing SSQLS v2 file " =
        ascii "Parsing" ++ byte ' ' :: ascii "SSQLS v2 file " := by decide
    simp only [announcement, start, tail, List.append_assoc, List.cons_append]
  obtain ⟨front, back, plain, split_⟩ : ∃ front back, byte '\n' ∉ front ∧
      tail = front ++ byte '\n' :: back := by
    have member : byte '\n' ∈ tail := by
      have inside : byte '\n' ∈ ascii "...\n" := by decide
      exact List.mem_append_left _ (List.mem_append_right _ inside)
    obtain ⟨front, back, same, plain⟩ := List.eq_append_cons_of_mem member
    exact ⟨front, back, plain, same⟩
  have first : textLines (byte '\n') (announcement fileName ++ more) =
      (ascii "Parsing" ++ byte ' ' :: front) :: textLines (byte '\n') back := by
    rw [whole, split_, ← List.cons_append, ← List.append_assoc]
    apply textLines_append
    intro member
    rcases List.mem_append.mp member with word | later
    · exact absurd word (by decide)
    · rcases List.mem_cons.mp later with space | behind
      · exact absurd space (by decide)
      · exact plain behind
  obtain ⟨depth, returned⟩ := parseLines_of_accepts opened accepted
  rw [first, parseLines] at returned
  cases read : readLine (ascii "Parsing" ++ byte ' ' :: front) with
  | none =>
      rw [read] at returned
      cases returned
      rfl
  | some reading =>
      exfalso
      -- What is left of the line begins with the same word.
      obtain ⟨kept, said⟩ : ∃ kept, reading.1 = ascii "Parsing" ++ byte ' ' :: kept := by
        rw [readLine] at read
        split at read
        · cases read
          have word : (ascii "Parsing" ++ [byte ' ']).all
              (fun c => decide (c ≠ 0) && decide (c ≠ byte '#')) = true := by decide
          refine ⟨(front.takeWhile (· ≠ 0)).takeWhile (· ≠ byte '#'), ?_⟩
          rw [List.append_cons, List.takeWhile_append_of_pos, List.takeWhile_append_of_pos,
            ← List.append_cons]
          · intro c member
            exact (Bool.and_eq_true_iff.mp (List.all_eq_true.mp word c member)).2
          · intro c member
            exact (Bool.and_eq_true_iff.mp (List.all_eq_true.mp word c member)).1
        · cases read
      have unbroken : (ascii "Parsing").all (fun c => !isspace c) = true := by decide
      have isWord : IsWord isspace (ascii "Parsing") := by
        refine ⟨by decide, ?_⟩
        intro c member
        exact Bool.not_eq_eq_eq_not.mp (List.all_eq_true.mp unbroken c member)
      have tokens : tokenize reading.1 = ascii "Parsing" :: words isspace kept := by
        rw [tokenize, said]
        exact words_append_separator isWord rfl kept
      rw [read] at returned
      simp only [tokens, List.cons_ne_nil, if_false] at returned
      obtain ⟨failure, after, thrown⟩ := parse_announced (parse fs depth) (words isspace kept)
        reading.2 { fileName := path, lineNumber := 1 + 1 }
        (addDirectoryToSearchPath path Statics.initial)
      rw [run_bind_of_error thrown] at returned
      cases returned

/-- What a run writes to the standard output is never read back as a line: the program
announces there what it does. -/
theorem standard_output_lost {files : Files} {argv : List Bytes} {disk : files.State}
    {finished : Finished files} (exits : Exits files argv disk finished) (fs : FileSystem)
    {path : Bytes} (saved : fs path = .ok finished.console.cout) {lines : List Line}
    (accepted : Accepts fs path lines) : lines = [] := by
  have nothing : ∀ {lines}, fs path = .ok [] → Accepts fs path lines → lines = [] := by
    intro lines empty accepted
    obtain ⟨depth, returned⟩ := parseLines_of_accepts empty accepted
    rw [textLines_nil] at returned
    cases returned
    rfl
  obtain ⟨depth, ran⟩ := exits
  rw [main] at ran
  cases built : CommandLine.new argv with
  | none =>
      rw [built] at ran
      cases ran
  | some cmdline =>
      rw [built, Option.bind_some] at ran
      by_cases going : cmdline.base.successful = true
      · rw [if_pos going] at ran
        cases translated : translate files depth cmdline disk { cout := [], cerr := [] } with
        | none =>
            rw [translated] at ran
            cases ran
        | some result =>
            obtain ⟨code, last, after⟩ := result
            rw [translated] at ran
            cases ran
            rcases translate_cout translated with silent | ⟨fileName, more, announced⟩
            · exact nothing (saved.trans (congrArg Except.ok silent)) accepted
            · rw [List.nil_append] at announced
              exact accepts_announcement (saved.trans (congrArg Except.ok announced)) accepted
      · rw [if_neg going] at ran
        cases ran
        exact nothing saved accepted

/-- The path of a file with one line. -/
def longPath : Bytes := List.replicate 100 (byte 'a')

def longFiles : FileSystem := fun path =>
  if path = longPath then .ok (ascii "table stock\n")
  else .error (ascii "No such file or directory")

/-- A saved output whose first line is too long, so that nothing of it is refused or read. -/
theorem standard_output_lost_stock :
    ∃ finished : Finished plainFiles,
      Exits plainFiles (plainArgs longPath (ascii "-")) longFiles finished ∧
        finished.code = 0 ∧
        Accepts (fun _ => .ok finished.console.cout) (ascii "saved.ssqls") [] ∧
        ∀ lines, Accepts (fun _ => .ok finished.console.cout) (ascii "saved.ssqls") lines →
          lines = [] := by
  have printed : (main plainFiles 2 (plainArgs longPath (ascii "-")) longFiles).map
      (fun finished => (finished.code, finished.console.cout)) =
        some (0, announcement longPath ++ (longPath ++
          (ascii " parsed successfully, 1 interesting lines.\n" ++
            ParseV2.generateSsqls2 [.table (.new (ascii "stock") [] [])]))) := by
    decide +kernel
  obtain ⟨finished, ran, has⟩ := Option.map_eq_some_iff.mp printed
  obtain ⟨done, text⟩ := Prod.mk.inj has
  have exits : Exits plainFiles (plainArgs longPath (ascii "-")) longFiles finished := ⟨2, ran⟩
  refine ⟨finished, exits, done, ?_, ?_⟩
  · rw [text]
    exact ⟨2, by decide +kernel⟩
  · intro lines accepted
    exact standard_output_lost exits (fun _ => .ok finished.console.cout) rfl accepted

end LibTabula.Ssqlsxlat
