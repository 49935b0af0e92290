/-
The translator as a program.

It parses the file that is given last with `-i` and writes what it has read to the file that
is given last with `-o`. It ends with 0 exactly where both are given, the one is parsed and the
other opened, with 1 where the command line is refused, and with 2 otherwise, and then no file
has changed. Whether anything is kept of what it writes is not looked at.
-/

import LibTabula.SsqlsxlatCommandLine
import LibTabula.Regeneration

set_option autoImplicit false

namespace LibTabula.Ssqlsxlat

open Foundation Foundation.OptionWords GetOpt ParseV2

/-! ### The world of the program -/

/-- The files as the system gives access to them: what a path reads as, and what is left
behind where a path can be opened and a text is written to it, be it all of the text, a part
of it or none. -/
structure Files where
  State : Type
  read : State → FileSystem
  write : State → Bytes → Bytes → Option State

/-- What is written to a file that could be opened is in the file. -/
def Files.Keeps (files : Files) : Prop :=
  ∀ {state next : files.State} {path text : Bytes}, files.write state path text = some next →
    files.read next path = .ok text

/-- Every file can be opened. -/
def Files.Opens (files : Files) : Prop :=
  ∀ state path text, (files.write state path text).isSome = true

/-- What the two output streams have got. -/
structure Console where
  cout : Bytes
  cerr : Bytes
deriving DecidableEq, Repr

namespace Console

def out (text : Bytes) (self : Console) : Console := { self with cout := self.cout ++ text }

def err (text : Bytes) (self : Console) : Console := { self with cerr := self.cerr ++ text }

end Console

def decimal (n : Nat) : Bytes := ascii (toString n)

/-- `int()` of a source or sink. -/
def SourceSink.number : SourceSink → Nat
  | unknown => 0
  | ssqls1 => 1
  | ssqls2 => 2
  | table => 3

/-- A null pointer for a parse that has failed, after a message. There is no result where
includes are nested too deep. -/
def parseSsqls2 (fs : FileSystem) (depth : Nat) (fileName : Bytes) (console : Console) :
    Option (Option (List Line) × Console) :=
  let begun := console.out (ascii "Parsing SSQLS v2 file " ++ fileName ++ ascii "...\n")
  match ((parse fs depth fileName).run Statics.initial).outcome with
  | .ok lines =>
      some (some lines, begun.out (fileName ++ ascii " parsed successfully, " ++
        decimal lines.length ++ ascii " interesting lines.\n"))
  | .error (.file what) =>
      some (none, begun.err (fileName ++ ascii ":0: file I/O error in SSQLS v2 parse: " ++ what ++
        ascii "\n"))
  | .error (.parse what inFile line) =>
      some (none, begun.err (inFile ++ ascii ":" ++ decimal line ++ ascii ":" ++ what ++
        ascii "\n"))
  | .error .stackOverflow => none

/-- `generate_ssqls2` for a file name, where `-` is the standard output. -/
def generateSsqls2 (files : Files) (fileName : Bytes) (pparse : Option (List Line))
    (disk : files.State) (console : Console) : Bool × files.State × Console :=
  match pparse with
  | some lines =>
      if fileName = ascii "-" then (true, disk, console.out (ParseV2.generateSsqls2 lines))
      else
        match files.write disk fileName (ParseV2.generateSsqls2 lines) with
        | some disk =>
            (true, disk, console.out (ascii "TRACE: Generating SSQLS v2 file " ++ fileName ++
              ascii " from " ++ decimal lines.length ++ ascii " line parse result.\n"))
        | none =>
            (false, disk, console.err (ascii "Failed to open " ++ fileName ++
              ascii " for writing for -o!\n"))
  | none => (false, disk, console.err (ascii "No parse result given to -o handler!\n"))

/-- How a run ends. -/
structure Finished (files : Files) where
  code : Nat
  disk : files.State
  console : Console
  notices : List Notice

/-- The part of `main()` behind the command line. -/
def translate (files : Files) (depth : Nat) (cmdline : CommandLine) (disk : files.State)
    (console : Console) : Option (Nat × files.State × Console) :=
  if cmdline.inputSource = .ssqls2 then
    (parseSsqls2 (files.read disk) depth (cmdline.input.getD []) console).map
      fun (ptree, console) =>
        if cmdline.outputSink ≠ .unknown then
          if ptree.isSome then
            if cmdline.outputSink = .ssqls2 then
              let (generated, disk, console) :=
                generateSsqls2 files (cmdline.output.getD []) ptree disk console
              (if generated then 0 else 2, disk, console)
            else
              (2, disk, console.err (ascii "Sorry, I don't yet know what to do with sink type " ++
                decimal cmdline.outputSink.number ++ ascii "!\n"))
          else (2, disk, console)
        else
          (2, disk, console.err (ascii "Sorry, I don't know how to write C++ output yet.\n"))
  else
    some (2, disk,
      console.err (ascii "Sorry, I don't yet know what to do with input source type " ++
        decimal cmdline.inputSource.number ++ ascii "!\n"))

/-- A run of a new process, with includes nested up to a given depth. -/
def main (files : Files) (depth : Nat) (argv : List Bytes) (disk : files.State) :
    Option (Finished files) :=
  (CommandLine.new argv).bind fun cmdline =>
    if cmdline.base.successful then
      (translate files depth cmdline disk { cout := [], cerr := [] }).map
        fun (code, disk, console) =>
          { code := code, disk := disk, console := console, notices := cmdline.base.notices }
    else
      some { code := 1, disk := disk, console := { cout := [], cerr := [] }
             notices := cmdline.base.notices }

/-! ### What a run does -/

/-- A run that ends. -/
def Exits (files : Files) (argv : List Bytes) (disk : files.State) (finished : Finished files) :
    Prop :=
  ∃ depth, main files depth argv disk = some finished

/-- The command line gives an input in the language of the tool, and a name for the
output. -/
def Asks (argv : List Bytes) (input out : Bytes) : Prop :=
  ∃ readings rest, Accepted CommandLine.opts CommandLine.refused argv readings rest ∧
    lastWritten CommandLine.sourceOf readings = some .ssqls2 ∧
    lastWritten CommandLine.inputOf readings = some input ∧
    lastWritten (valueOf (byte 'o')) readings = some out

/-- The command line makes sense. -/
def Sound (argv : List Bytes) : Prop :=
  ∃ readings rest, Accepted CommandLine.opts CommandLine.refused argv readings rest ∧
    CommandLine.Sensible readings

/-- What is left behind by the lines: no change for the standard output, and otherwise a file
that could be opened and has been written to. -/
def Generated (files : Files) (out : Bytes) (lines : List Line) (disk last : files.State) :
    Prop :=
  if out = ascii "-" then last = disk
  else files.write disk out (ParseV2.generateSsqls2 lines) = some last

section Steps

variable {files : Files} {depth : Nat} {disk last : files.State} {console after : Console}
  {fs : FileSystem} {fileName : Bytes} {ptree : Option (List Line)}

/-- At a depth that is enough the parse is the one there is. -/
theorem accepts_iff_outcome
    (inside : ((parse fs depth fileName).run Statics.initial).outcome ≠ .error .stackOverflow)
    (lines : List Line) :
    Accepts fs fileName lines ↔
      ((parse fs depth fileName).run Statics.initial).outcome = .ok lines := by
  constructor
  · intro accepted
    obtain ⟨other, returned⟩ := accepted
    have otherInside :
        ((parse fs other fileName).run Statics.initial).outcome ≠ .error .stackOverflow := by
      rw [returned]
      intro impossible
      cases impossible
    rw [Outlasts.agree (fun depth => parse_outlasts fs depth fileName) inside otherInside]
    exact returned
  · intro returned
    exact ⟨depth, returned⟩

/-- The first thing the program says. -/
def announcement (fileName : Bytes) : Bytes :=
  ascii "Parsing SSQLS v2 file " ++ fileName ++ ascii "...\n"

theorem parseSsqls2_spec (ran : parseSsqls2 fs depth fileName console = some (ptree, after)) :
    (∀ lines, Accepts fs fileName lines ↔ ptree = some lines) ∧
      ∃ more, after.cout = console.cout ++ (announcement fileName ++ more) := by
  have decided : ((parse fs depth fileName).run Statics.initial).outcome ≠
      .error .stackOverflow → ∀ lines, Accepts fs fileName lines ↔
        ((parse fs depth fileName).run Statics.initial).outcome = .ok lines :=
    accepts_iff_outcome
  rw [parseSsqls2] at ran
  cases outcome : ((parse fs depth fileName).run Statics.initial).outcome with
  | ok lines =>
      rw [outcome] at ran decided
      cases ran
      have inside : (Except.ok lines : Except Exception (List Line)) ≠ .error .stackOverflow := by
        intro impossible
        cases impossible
      constructor
      · intro others
        rw [decided inside others]
        constructor
        · intro same
          rw [Except.ok.inj same]
        · intro same
          rw [Option.some.inj same]
      · refine ⟨fileName ++ ascii " parsed successfully, " ++ decimal lines.length ++
          ascii " interesting lines.\n", ?_⟩
        simp only [Console.out, announcement, List.append_assoc]
  | error failure =>
      rw [outcome] at ran decided
      have none_ : failure ≠ .stackOverflow → ptree = none →
          ∀ lines, Accepts fs fileName lines ↔ ptree = some lines := by
        intro other nothing lines
        have inside : (Except.error failure : Except Exception (List Line)) ≠
            .error .stackOverflow := by
          intro same
          exact other (Except.error.inj same)
        rw [decided inside lines, nothing]
        constructor
        · intro impossible
          cases impossible
        · intro impossible
          cases impossible
      cases failure with
      | stackOverflow => cases ran
      | file what =>
          cases ran
          refine ⟨none_ (by intro impossible; cases impossible) rfl, [], ?_⟩
          rw [List.append_nil]
          rfl
      | parse what inFile line =>
          cases ran
          refine ⟨none_ (by intro impossible; cases impossible) rfl, [], ?_⟩
          rw [List.append_nil]
          rfl

theorem parseSsqls2_of_accepts {lines : List Line} (accepted : Accepts fs fileName lines)
    (console : Console) :
    ∃ depth after, parseSsqls2 fs depth fileName console = some (some lines, after) := by
  obtain ⟨depth, returned⟩ := accepted
  refine ⟨depth, ?_⟩
  rw [parseSsqls2, returned]
  exact ⟨_, rfl⟩

theorem generateSsqls2_spec (files : Files) (out : Bytes) (lines : List Line)
    (disk : files.State) (console : Console) :
    (∃ last after, generateSsqls2 files out (some lines) disk console = (true, last, after) ∧
        ∀ other, Generated files out lines disk other ↔ other = last) ∨
      ∃ after, generateSsqls2 files out (some lines) disk console = (false, disk, after) ∧
        ∀ other, ¬ Generated files out lines disk other := by
  unfold generateSsqls2 Generated
  by_cases piped : out = ascii "-"
  · left
    simp only [if_pos piped]
    refine ⟨disk, _, rfl, ?_⟩
    intro other
    rfl
  · simp only [if_neg piped]
    cases written : files.write disk out (ParseV2.generateSsqls2 lines) with
    | some next =>
        left
        refine ⟨next, _, rfl, ?_⟩
        intro other
        constructor
        · intro same
          exact (Option.some.inj same).symm
        · intro same
          rw [same]
    | none =>
        right
        refine ⟨_, rfl, ?_⟩
        intro other impossible
        cases impossible

/-- What is known of a command line that makes sense. -/
theorem Asks.of_accepted {argv : List Bytes} {input out : Bytes} {readings : List (Reading UInt8)}
    {rest : List Bytes}
    (accepted : Accepted CommandLine.opts CommandLine.refused argv readings rest)
    (asks : Asks argv input out) :
    lastWritten CommandLine.sourceOf readings = some .ssqls2 ∧
      lastWritten CommandLine.inputOf readings = some input ∧
      lastWritten (valueOf (byte 'o')) readings = some out := by
  obtain ⟨others, words, written, source, named, output⟩ := asks
  obtain ⟨rfl, rfl⟩ := accepted.unique written
  exact ⟨source, named, output⟩

theorem Asks.same {argv : List Bytes} {input out input' out' : Bytes}
    (first : Asks argv input out) (second : Asks argv input' out') :
    input = input' ∧ out = out' := by
  obtain ⟨readings, rest, accepted, _, named, output⟩ := first
  obtain ⟨_, named', output'⟩ := second.of_accepted accepted
  rw [named] at named'
  rw [output] at output'
  exact ⟨Option.some.inj named', Option.some.inj output'⟩

theorem Generated.same {out : Bytes} {lines : List Line} {other : files.State}
    (first : Generated files out lines disk last) (second : Generated files out lines disk other) :
    last = other := by
  unfold Generated at first second
  by_cases piped : out = ascii "-"
  · rw [if_pos piped] at first second
    rw [first, second]
  · rw [if_neg piped] at first second
    rw [first] at second
    exact Option.some.inj second

theorem Asks.sound {argv : List Bytes} {input out : Bytes} (asks : Asks argv input out) :
    Sound argv := by
  obtain ⟨readings, rest, accepted, source, _⟩ := asks
  exact ⟨readings, rest, accepted, .ssqls2, source, .inl rfl⟩

/-- Where an option names a source it names an input. -/
theorem exists_input {readings : List (Reading UInt8)} {source : SourceSink}
    (given : lastWritten CommandLine.sourceOf readings = some source) :
    ∃ input, lastWritten CommandLine.inputOf readings = some input := by
  induction readings generalizing source with
  | nil => cases given
  | cons reading readings ih =>
      rw [lastWritten_cons] at given ⊢
      cases later : lastWritten CommandLine.sourceOf readings with
      | some kind =>
          obtain ⟨input, named⟩ := ih later
          rw [named]
          exact ⟨input, rfl⟩
      | none =>
          rw [later, Option.none_or] at given
          cases lastWritten CommandLine.inputOf readings with
          | some input => exact ⟨input, rfl⟩
          | none =>
              cases reading with
              | argument c value =>
                  refine ⟨value, ?_⟩
                  rw [Option.none_or, CommandLine.inputOf, given]
                  rfl
              | flag c | illegal c | missing c => cases given

/-- The part behind a command line that makes sense. -/
theorem translate_spec {readings : List (Reading UInt8)} {rest : List Bytes} {code : Nat}
    (sensible : CommandLine.Sensible readings)
    (ran : translate files depth (CommandLine.ofReadings readings rest) disk console =
      some (code, last, after)) :
    (code = 2 ∧ last = disk ∧
        ∀ input out lines other, lastWritten CommandLine.sourceOf readings = some .ssqls2 →
          lastWritten CommandLine.inputOf readings = some input →
          lastWritten (valueOf (byte 'o')) readings = some out →
          Accepts (files.read disk) input lines → ¬ Generated files out lines disk other) ∨
      (code = 0 ∧ ∃ input out lines,
        lastWritten CommandLine.sourceOf readings = some .ssqls2 ∧
        lastWritten CommandLine.inputOf readings = some input ∧
        lastWritten (valueOf (byte 'o')) readings = some out ∧
        Accepts (files.read disk) input lines ∧ Generated files out lines disk last) := by
  obtain ⟨source, given, _⟩ := sensible
  have inputSource : (CommandLine.ofReadings readings rest).inputSource = source := by
    rw [CommandLine.ofReadings, given]
    rfl
  rw [translate, inputSource] at ran
  by_cases dsl : source = .ssqls2
  · rw [if_pos dsl] at ran
    obtain ⟨input, named⟩ := exists_input given
    have input_ : (CommandLine.ofReadings readings rest).input.getD [] = input := by
      rw [CommandLine.ofReadings, named]
      rfl
    rw [input_] at ran
    cases parsed : parseSsqls2 (files.read disk) depth input console with
    | none =>
        rw [parsed] at ran
        cases ran
    | some result =>
        obtain ⟨ptree, begun⟩ := result
        obtain ⟨accepts, _⟩ := parseSsqls2_spec parsed
        rw [parsed] at ran
        cases output : lastWritten (valueOf (byte 'o')) readings with
        | none =>
            have sink : (CommandLine.ofReadings readings rest).outputSink = .unknown := by
              rw [CommandLine.ofReadings, output]
              rfl
            simp only [Option.map_some, sink, ne_eq, not_true_eq_false, if_false] at ran
            cases ran
            left
            refine ⟨rfl, rfl, ?_⟩
            intro _ out _ _ _ _ impossible
            cases impossible
        | some out =>
            have sink : (CommandLine.ofReadings readings rest).outputSink = .ssqls2 := by
              rw [CommandLine.ofReadings, output]
              rfl
            have out_ : (CommandLine.ofReadings readings rest).output.getD [] = out := by
              rw [CommandLine.ofReadings, output]
              rfl
            have other : SourceSink.ssqls2 ≠ .unknown := by decide
            simp only [Option.map_some, sink, if_pos other, out_, if_true] at ran
            cases ptree with
            | none =>
                cases ran
                left
                refine ⟨rfl, rfl, ?_⟩
                intro named' _ lines _ _ same _ accepted
                rw [named] at same
                cases same
                cases (accepts lines).mp accepted
            | some lines =>
                rcases generateSsqls2_spec files out lines disk begun with
                  ⟨next, told, said, done⟩ | ⟨told, said, failed⟩
                · simp only [Option.isSome_some, if_true, said] at ran
                  cases ran
                  right
                  exact ⟨rfl, input, out, lines, by rw [given, dsl], named, rfl,
                    (accepts lines).mpr rfl, (done last).mpr rfl⟩
                · simp only [Option.isSome_some, if_true, said] at ran
                  cases ran
                  left
                  refine ⟨rfl, rfl, ?_⟩
                  intro input' out' others other' _ same same' accepted
                  rw [named] at same
                  cases same
                  cases same'
                  cases (accepts others).mp accepted
                  exact failed other'
  · rw [if_neg dsl] at ran
    cases ran
    left
    refine ⟨rfl, rfl, ?_⟩
    intro _ _ _ _ same
    rw [given] at same
    exact absurd (Option.some.inj same) dsl

end Steps

/-! ### Whole runs -/

section Runs

variable {files : Files} {argv : List Bytes} {disk : files.State} {finished : Finished files}

/-- The three ways a run ends. -/
theorem exits_cases (strings : CStrings argv) (named : argv ≠ [])
    (exits : Exits files argv disk finished) :
    (finished.code = 1 ∧ finished.disk = disk ∧ ¬ Sound argv) ∨
      (finished.code = 2 ∧ finished.disk = disk ∧ Sound argv ∧
        ∀ input out lines last, Asks argv input out → Accepts (files.read disk) input lines →
          ¬ Generated files out lines disk last) ∨
      (finished.code = 0 ∧ ∃ input out lines, Asks argv input out ∧
        Accepts (files.read disk) input lines ∧
        Generated files out lines disk finished.disk) := by
  obtain ⟨depth, ran⟩ := exits
  obtain ⟨self, built, success, made, _⟩ := CommandLine.new_spec strings named
  rw [main, built, Option.bind_some] at ran
  cases going : self.base.successful with
  | false =>
      rw [going] at success
      simp only [going, Bool.false_eq_true, if_false] at ran
      cases ran
      left
      refine ⟨rfl, rfl, ?_⟩
      intro sound
      exact absurd (success.mpr sound) Bool.false_ne_true
  | true =>
      right
      obtain ⟨readings, rest, accepted, sensible⟩ := success.mp going
      rw [made readings rest accepted sensible] at ran
      have starts : (CommandLine.ofReadings readings rest).base.successful = true := rfl
      rw [if_pos starts] at ran
      cases translated : translate files depth (CommandLine.ofReadings readings rest) disk
          { cout := [], cerr := [] } with
      | none =>
          rw [translated] at ran
          cases ran
      | some result =>
          obtain ⟨code, last, after⟩ := result
          rw [translated] at ran
          cases ran
          rcases translate_spec sensible translated with
            ⟨failed, stays, never⟩ | ⟨done, input, out, lines, source, named, output, rest_⟩
          · left
            refine ⟨failed, stays, ⟨readings, rest, accepted, sensible⟩, ?_⟩
            intro input out lines other asks
            obtain ⟨source, named, output⟩ := asks.of_accepted accepted
            exact never input out lines other source named output
          · right
            exact ⟨done, input, out, lines,
              ⟨readings, rest, accepted, source, named, output⟩, rest_⟩

/-- A file that is accepted is not left unfinished. -/
theorem exists_exits {input out : Bytes} {lines : List Line} (strings : CStrings argv)
    (named : argv ≠ []) (asks : Asks argv input out)
    (accepted : Accepts (files.read disk) input lines) :
    ∃ finished, Exits files argv disk finished := by
  obtain ⟨self, built, success, made, _⟩ := CommandLine.new_spec strings named
  obtain ⟨readings, rest, written, source, input_, output⟩ := asks
  have sensible : CommandLine.Sensible readings := ⟨.ssqls2, source, .inl rfl⟩
  obtain ⟨depth, after, parsed⟩ :=
    parseSsqls2_of_accepts accepted { cout := [], cerr := [] }
  have translated : ∃ result, translate files depth (CommandLine.ofReadings readings rest) disk
      { cout := [], cerr := [] } = some result := by
    have inputSource : (CommandLine.ofReadings readings rest).inputSource = .ssqls2 := by
      rw [CommandLine.ofReadings, source]
      rfl
    have named_ : (CommandLine.ofReadings readings rest).input.getD [] = input := by
      rw [CommandLine.ofReadings, input_]
      rfl
    rw [translate, if_pos inputSource, named_, parsed]
    exact ⟨_, rfl⟩
  obtain ⟨result, translated⟩ := translated
  have ran : ∃ finished, main files depth argv disk = some finished := by
    rw [main, built, Option.bind_some, made readings rest written sensible]
    have starts : (CommandLine.ofReadings readings rest).base.successful = true := rfl
    rw [if_pos starts, translated]
    exact ⟨_, rfl⟩
  obtain ⟨finished, ran⟩ := ran
  exact ⟨finished, depth, ran⟩

theorem exits_zero_iff (strings : CStrings argv) (named : argv ≠ []) (last : files.State) :
    (∃ finished, Exits files argv disk finished ∧ finished.code = 0 ∧ finished.disk = last) ↔
      ∃ input out lines, Asks argv input out ∧ Accepts (files.read disk) input lines ∧
        Generated files out lines disk last := by
  constructor
  · intro ended
    obtain ⟨finished, exits, done, rfl⟩ := ended
    rcases exits_cases strings named exits with ⟨code, _⟩ | ⟨code, _⟩ | ⟨_, did⟩
    · rw [code] at done
      cases done
    · rw [code] at done
      cases done
    · exact did
  · intro given
    obtain ⟨input, out, lines, asks, accepted, generated⟩ := given
    obtain ⟨finished, exits⟩ := exists_exits strings named asks accepted
    refine ⟨finished, exits, ?_⟩
    rcases exits_cases strings named exits with
      ⟨_, _, senseless⟩ | ⟨_, _, _, never⟩ | ⟨done, input', out', others, asks', again, did⟩
    · exact absurd asks.sound senseless
    · exact absurd generated (never input out lines last asks accepted)
    · obtain ⟨rfl, rfl⟩ := asks.same asks'
      obtain rfl := accepted.unique again
      exact ⟨done, did.same generated⟩

end Runs

/-! ### Plain runs -/

/-- A command line that turns one file into another. -/
structure Job (argv : List Bytes) (input out : Bytes) : Prop where
  strings : CStrings argv
  named : argv ≠ []
  asks : Asks argv input out

/-- The plain way to give both names. -/
def plainArgs (input out : Bytes) : List Bytes :=
  [ascii "ssqlsxlat", ascii "-i", input, ascii "-o", out]

theorem job_plainArgs (input out : Bytes) (noNul : 0 ∉ input) (noNul' : 0 ∉ out) :
    Job (plainArgs input out) input out where
  strings := by
    intro arg member
    simp only [plainArgs, List.mem_cons, List.not_mem_nil, or_false] at member
    rcases member with rfl | rfl | rfl | rfl | rfl
    · decide
    · decide
    · exact noNul
    · decide
    · exact noNul'
  named := List.cons_ne_nil _ _
  asks := by
    refine ⟨[.argument (byte 'i') input, .argument (byte 'o') out], [], ⟨?_, ?_⟩, rfl, rfl, rfl⟩
    · refine ⟨[⟨[], .separate (byte 'i') input⟩, ⟨[], .separate (byte 'o') out⟩], ?_, ?_, rfl,
        rfl⟩
      · intro group member
        simp only [List.mem_cons, List.not_mem_nil, or_false] at member
        rcases member with rfl | rfl
        · exact OptionGroup.valid_separate (by decide) input
        · exact OptionGroup.valid_separate (by decide) out
      · intro word impossible
        cases impossible
    · rfl

/-- Files of which each path names one, all of them writable. -/
def plainFiles : Files where
  State := FileSystem
  read fs := fs
  write fs path text := some fun other => if other = path then .ok text else fs other

theorem keeps_plainFiles : plainFiles.Keeps := by
  intro fs next path text written
  cases written
  exact if_pos rfl

theorem opens_plainFiles : plainFiles.Opens := fun _ _ _ => rfl

/-- Files on a disk that is full. -/
def fullFiles : Files where
  State := FileSystem
  read fs := fs
  write fs path _ := some fun other => if other = path then .ok [] else fs other

theorem opens_fullFiles : fullFiles.Opens := fun _ _ _ => rfl

theorem exists_generated {files : Files} (opens : files.Opens) (out : Bytes) (lines : List Line)
    (disk : files.State) : ∃ last, Generated files out lines disk last := by
  unfold Generated
  by_cases piped : out = ascii "-"
  · simp only [if_pos piped]
    exact ⟨disk, rfl⟩
  · simp only [if_neg piped]
    exact Option.isSome_iff_exists.mp (opens disk out _)

theorem accepts_stock : Accepts stockFiles (ascii "all.ssqls") stockLines :=
  ⟨2, by decide +kernel⟩

theorem exists_run {files : Files} (opens : files.Opens) {argv : List Bytes} {input out : Bytes}
    {lines : List Line} {disk : files.State} (job : Job argv input out)
    (accepted : Accepts (files.read disk) input lines) :
    ∃ finished, Exits files argv disk finished ∧ finished.code = 0 := by
  obtain ⟨last, generated⟩ := exists_generated opens out lines disk
  obtain ⟨finished, exits, done, _⟩ := (exits_zero_iff job.strings job.named last).mpr
    ⟨input, out, lines, job.asks, accepted, generated⟩
  exact ⟨finished, exits, done⟩

section Codes

variable {files : Files} {argv : List Bytes} {disk : files.State} {finished : Finished files}

/-- How a run ends says what it has done: 0 stands for an output that was open for the lines
of the input, 1 for a command line that makes no sense, and where it is not 0 no file has
changed. -/
theorem exit_code (strings : CStrings argv) (named : argv ≠ [])
    (exits : Exits files argv disk finished) :
    (finished.code = 0 ↔ ∃ input out lines, Asks argv input out ∧
        Accepts (files.read disk) input lines ∧
        Generated files out lines disk finished.disk) ∧
      (finished.code = 1 ↔ ¬ Sound argv) ∧
      (finished.code ≠ 0 → finished.code ≤ 2 ∧ finished.disk = disk) := by
  rcases exits_cases strings named exits with
    ⟨code, stays, senseless⟩ | ⟨code, stays, sound, never⟩ | ⟨code, did⟩
  · rw [code]
    refine ⟨?_, iff_of_true rfl senseless, fun _ => ⟨Nat.le_succ 1, stays⟩⟩
    constructor
    · intro impossible
      cases impossible
    · intro given
      obtain ⟨input, out, lines, asks, _⟩ := given
      exact absurd asks.sound senseless
  · rw [code]
    refine ⟨?_, ?_, fun _ => ⟨Nat.le_refl 2, stays⟩⟩
    · constructor
      · intro impossible
        cases impossible
      · intro given
        obtain ⟨input, out, lines, asks, accepted, generated⟩ := given
        exact absurd generated (never input out lines finished.disk asks accepted)
    · constructor
      · intro impossible
        cases impossible
      · intro senseless
        exact absurd sound senseless
  · rw [code]
    refine ⟨iff_of_true rfl did, ?_, fun impossible => absurd rfl impossible⟩
    constructor
    · intro impossible
      cases impossible
    · intro senseless
      obtain ⟨input, out, lines, asks, _⟩ := did
      exact absurd asks.sound senseless

/-- A run that ends with 0, and leaves its output empty. -/
theorem exit_code_stock :
    ∃ finished : Finished fullFiles,
      Exits fullFiles (plainArgs (ascii "all.ssqls") (ascii "a.ssqls")) stockFiles finished ∧
        finished.code = 0 ∧
        fullFiles.read finished.disk (ascii "a.ssqls") = .ok [] ∧
        (finished.code = 0 ↔ ∃ input out lines,
          Asks (plainArgs (ascii "all.ssqls") (ascii "a.ssqls")) input out ∧
            Accepts stockFiles input lines ∧
            Generated fullFiles out lines stockFiles finished.disk) := by
  have job := job_plainArgs (ascii "all.ssqls") (ascii "a.ssqls") (by decide) (by decide)
  obtain ⟨finished, exits, done⟩ := exists_run opens_fullFiles job accepts_stock
  have codes := (exit_code job.strings job.named exits).1
  refine ⟨finished, exits, done, ?_, codes⟩
  obtain ⟨input, out, lines, asks, _accepted, generated⟩ := codes.mp done
  obtain ⟨rfl, rfl⟩ := job.asks.same asks
  have file : ascii "a.ssqls" ≠ ascii "-" := by decide
  unfold Generated at generated
  rw [if_neg file] at generated
  rw [← Option.some.inj generated]
  rfl

end Codes

end LibTabula.Ssqlsxlat
