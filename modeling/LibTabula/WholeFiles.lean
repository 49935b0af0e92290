/-
Whether a parse accounts for every line of its files.

The reader has a buffer of fixed size. A line that does not fit puts the stream into the
state that the end of the file does, so the rest is left out without an exception, and
what stands behind a NUL is left out of a line. A parse that returns accounts for
all lines if and only if nothing of that kind happens in a file that it visits.
-/

import LibTabula.IncludeChains

set_option autoImplicit false

namespace LibTabula.ParseV2

open Foundation
open Relation (TransGen ReflTransGen)

/-! ### The lines of a text -/

/-- A line without its comment. -/
def withoutComment (temp : Bytes) : Bytes := temp.takeWhile (· ≠ byte '#')

/-- The tokens of a line that is not blank, and whether it is indented. -/
def tokensOf (line : Bytes) : Option (List Bytes × Bool) :=
  if tokenize line = [] then none else some (tokenize line, line.head?.any isspace)

/-- What a text asks for: the tokens of its lines without their comments. -/
def account (text : Bytes) : List (List Bytes × Bool) :=
  (textLines (byte '\n') text).filterMap fun temp => tokensOf (withoutComment temp)

def Directive.tokens (self : Directive) : List Bytes × Bool := (self.tl, self.subdirective)

def fitsBuffer (temp : Bytes) : Bool := temp.length < bufferSize

/-- The lines up to the first that is too long have no NUL in front of their comments, and
the others are blank. -/
structure Plain (text : Bytes) : Prop where
  noNul : ∀ temp ∈ (textLines (byte '\n') text).takeWhile fitsBuffer, 0 ∉ withoutComment temp
  noneLeft : ∀ temp ∈ (textLines (byte '\n') text).dropWhile fitsBuffer,
    tokenize (withoutComment temp) = []

theorem takeWhile_comm (p q : UInt8 → Bool) (text : Bytes) :
    (text.takeWhile p).takeWhile q = (text.takeWhile q).takeWhile p := by
  rw [List.takeWhile_takeWhile, List.takeWhile_takeWhile]
  congr 1
  funext c
  exact decide_eq_decide.mpr and_comm

theorem readLine_eq (temp : Bytes) :
    readLine temp =
      if fitsBuffer temp then
        let line := (withoutComment temp).takeWhile (· ≠ 0)
        some (line, line.head?.any isspace)
      else none := by
  unfold readLine fitsBuffer withoutComment
  rw [takeWhile_comm]
  by_cases short : temp.length < bufferSize
  · rw [if_pos short, decide_eq_true short]
    rfl
  · rw [if_neg short, decide_eq_false short]
    rfl

theorem tokens_handed (ahead : List Bytes) (lineNumber : Nat) :
    (handed ahead lineNumber).map Directive.tokens =
      (ahead.takeWhile fitsBuffer).filterMap fun temp =>
        tokensOf ((withoutComment temp).takeWhile (· ≠ 0)) := by
  induction ahead generalizing lineNumber with
  | nil => rfl
  | cons temp ahead ih =>
      rw [handed, readLine_eq]
      by_cases short : fitsBuffer temp = true
      · rw [if_pos short, List.takeWhile_cons_of_pos short, List.filterMap_cons]
        dsimp only
        rw [tokensOf]
        by_cases blank : tokenize ((withoutComment temp).takeWhile (· ≠ 0)) = []
        · rw [if_pos blank, if_pos blank]
          exact ih (lineNumber + 1)
        · rw [if_neg blank, if_neg blank, List.map_cons, ih]
          rfl
      · rw [if_neg short, List.takeWhile_cons_of_neg short]
        rfl

theorem upToNul_of_noNul {line : Bytes} (noNul : 0 ∉ line) :
    line.takeWhile (· ≠ 0) = line := by
  rw [List.takeWhile_eq_self_iff]
  intro c member
  apply decide_eq_true
  intro same
  subst same
  exact noNul member

/-- A NUL is not white space, so it is in a token. -/
theorem noNul_of_tokenize_same {line : Bytes}
    (same : tokenize (line.takeWhile (· ≠ 0)) = tokenize line) : 0 ∉ line := by
  intro hasNul
  have found : ∃ word ∈ tokenize line, 0 ∈ word := exists_word_of_mem hasNul (by decide)
  obtain ⟨word, member, inWord⟩ := found
  rw [← same] at member
  have notNul := List.mem_takeWhile_imp ((isWord_of_mem_words member).2 0 inWord)
  exact absurd rfl (of_decide_eq_true notNul)

theorem noNul_of_blank {line : Bytes} (blank : tokenize line = []) : 0 ∉ line := by
  intro hasNul
  have found : ∃ word ∈ tokenize line, 0 ∈ word := exists_word_of_mem hasNul (by decide)
  obtain ⟨word, member, -⟩ := found
  rw [blank] at member
  cases member

theorem tokensOf_eq_none_iff (line : Bytes) : tokensOf line = none ↔ tokenize line = [] := by
  unfold tokensOf
  split
  next blank => exact iff_of_true rfl blank
  next tokens => exact iff_of_false (Option.some_ne_none _) tokens

theorem tokensOf_upToNul_iff (line : Bytes) :
    tokensOf (line.takeWhile (· ≠ 0)) = tokensOf line ↔ 0 ∉ line := by
  constructor
  · intro same
    by_cases blank : tokenize line = []
    · exact noNul_of_blank blank
    · apply noNul_of_tokenize_same
      unfold tokensOf at same
      rw [if_neg blank] at same
      split at same
      next => cases same
      next => exact congrArg Prod.fst (Option.some.inj same)
  · intro noNul
    rw [upToNul_of_noNul noNul]

/-- All that a text asks for is handed over if and only if the text is plain. -/
theorem tokens_directives_iff (text : Bytes) :
    (directives text).map Directive.tokens = account text ↔ Plain text := by
  have less : ∀ temp, tokensOf (withoutComment temp) = none →
      tokensOf ((withoutComment temp).takeWhile (· ≠ 0)) = none := by
    intro temp nothing
    have blank := (tokensOf_eq_none_iff _).mp nothing
    rw [upToNul_of_noNul (noNul_of_blank blank), nothing]
  rw [directives, tokens_handed, account, filterMap_takeWhile_eq_iff less]
  constructor
  · intro given
    obtain ⟨same, nothing⟩ := given
    constructor
    · intro temp member
      exact (tokensOf_upToNul_iff _).mp (same temp member)
    · intro temp member
      exact (tokensOf_eq_none_iff _).mp (nothing temp member)
  · intro plain
    constructor
    · intro temp member
      exact (tokensOf_upToNul_iff _).mpr (plain.noNul temp member)
    · intro temp member
      exact (tokensOf_eq_none_iff _).mpr (plain.noneLeft temp member)

/-! ### Contributions -/

/-- `interpret`, with the lines that each directive contributes. -/
def contribute (includeFile : Bytes → EStateM Exception Statics (List Line)) (fileName : Bytes) :
    List Directive → EStateM Exception Statics (List (Directive × List Line))
  | [] => return []
  | directive :: ahead => do
      let parsed ← Line.parse includeFile directive.tl directive.subdirective
        { fileName := fileName, lineNumber := directive.lineNumber }
      let rest ← contribute includeFile fileName ahead
      return (directive, parsed) :: rest

section Contribute

variable {includeFile : Bytes → EStateM Exception Statics (List Line)} {fileName : Bytes}
  {ahead : List Directive} {before after : Statics}

theorem directives_of_contribute {parts : List (Directive × List Line)}
    (ran : (contribute includeFile fileName ahead).run before = .ok parts after) :
    parts.map Prod.fst = ahead := by
  induction ahead generalizing before parts with
  | nil =>
      cases ran
      rfl
  | cons directive ahead ih =>
      obtain ⟨parsed, middle, -, ran⟩ := exists_of_run_bind_ok ran
      obtain ⟨rest, _, others, returned⟩ := exists_of_run_bind_ok ran
      cases returned
      rw [List.map_cons, ih others]

/-- The lines of a file are put together from what its directives contribute. -/
theorem contribute_of_interpret {lines : List Line}
    (ran : (interpret includeFile fileName ahead).run before = .ok lines after) :
    ∃ parts, (contribute includeFile fileName ahead).run before = .ok parts after ∧
      lines = parts.flatMap Prod.snd := by
  induction ahead generalizing before lines with
  | nil =>
      cases ran
      exact ⟨[], rfl, rfl⟩
  | cons directive ahead ih =>
      obtain ⟨parsed, middle, first, ran⟩ := exists_of_run_bind_ok ran
      obtain ⟨rest, _, others, returned⟩ := exists_of_run_bind_ok ran
      cases returned
      obtain ⟨parts, contributed, same⟩ := ih others
      refine ⟨(directive, parsed) :: parts, ?_, ?_⟩
      · rw [contribute, run_bind_of_ok first, run_bind_of_ok contributed]
        rfl
      · rw [same, List.flatMap_cons]

end Contribute

/-- If the file is parsed without an exception, what is returned is what the directives of
its text contribute, all of them and in order. -/
def AccountsFor (fs : FileSystem) (file : Call) : Prop :=
  ∀ depth lines after, (parse fs (depth + 1) file.fileName).run file.before = .ok lines after →
    ∃ text parts, file.contents fs = some text ∧
      (contribute (parse fs depth) file.fileName (directives text)).run file.start =
        .ok parts after ∧
      lines = parts.flatMap Prod.snd ∧
      parts.map (fun part => part.1.tokens) = account text

/-- The parse returns a line list. -/
def Returns (fs : FileSystem) (call : Call) : Prop :=
  ∃ depth lines after, (parse fs depth call.fileName).run call.before = .ok lines after

section Account

variable {fs : FileSystem} {call next file : Call} {text : Bytes}

theorem exists_interprets_of_returns (returns : Returns fs call) :
    ∃ text depth lines after, call.contents fs = some text ∧
      Interprets (parse fs depth) (directives text) call.start lines after := by
  obtain ⟨depth, lines, after, ran⟩ := returns
  cases depth with
  | zero => cases ran
  | succ depth =>
      cases read : call.contents fs with
      | none =>
          obtain ⟨what, failed⟩ := run_parse_of_no_contents read depth
          rw [failed] at ran
          cases ran
      | some text =>
          rw [run_parse_of_contents read, interpret_ok_iff] at ran
          exact ⟨text, depth, lines, after, rfl, ran⟩

theorem accountsFor_iff (returns : Returns fs file) (read : file.contents fs = some text) :
    AccountsFor fs file ↔ Plain text := by
  have tokens : ∀ {depth parts after},
      (contribute (parse fs depth) file.fileName (directives text)).run file.start =
        .ok parts after →
      parts.map (fun part => part.1.tokens) = (directives text).map Directive.tokens := by
    intro depth parts after contributed
    rw [← directives_of_contribute contributed, List.map_map]
    rfl
  rw [← tokens_directives_iff]
  constructor
  · intro accounts
    obtain ⟨_, depth, lines, after, alsoRead, interprets⟩ := exists_interprets_of_returns returns
    cases read.symm.trans alsoRead
    have ran := (interpret_ok_iff file.fileName).mpr interprets
    rw [← run_parse_of_contents read] at ran
    obtain ⟨_, parts, again, contributed, -, complete⟩ := accounts depth lines after ran
    cases read.symm.trans again
    rw [← tokens contributed, complete]
  · intro complete depth lines after ran
    rw [run_parse_of_contents read] at ran
    obtain ⟨parts, contributed, same⟩ := contribute_of_interpret ran
    exact ⟨text, parts, read, contributed, same, (tokens contributed).trans complete⟩

end Account

/-! ### Which parses return -/

/-- A directive that is accepted where the static variables are as given. -/
def Directive.Taken (self : Directive) (state : Statics) : Prop :=
  ∃ lines after,
    Line.Gives (fun _ => return []) self.tl self.subdirective state lines after

/-- A file that is visited is not there, or a directive that is reached is refused. -/
def Refused (fs : FileSystem) (call : Call) : Prop :=
  ∃ file, ReflTransGen (Includes fs) call file ∧
    (file.contents fs = none ∨ ∃ text directive state, file.contents fs = some text ∧
      Reached fs (directives text) file.start directive state ∧
      directive.includedFile = none ∧ ¬ directive.Taken state)

section Returns

variable {fs : FileSystem} {call next file : Call}

theorem gives_unique {depth more : Nat} {tl : List Bytes} {subdirective : Bool}
    {before after other : Statics} {lines others : List Line}
    (first : Line.Gives (parse fs depth) tl subdirective before lines after)
    (second : Line.Gives (parse fs more) tl subdirective before others other) :
    after = other := by
  let file : File := { fileName := [], lineNumber := 0 }
  have left := (Line.parse_ok_iff file).mpr first
  have right := (Line.parse_ok_iff file).mpr second
  let step := fun depth => Line.parse (parse fs depth) tl subdirective file
  have outlasts : ∀ depth, Outlasts .stackOverflow (step depth) (step (depth + 1)) :=
    fun depth => Line.parse_outlasts (parse_outlasts fs depth) _ _ _
  have same := Outlasts.agree outlasts (by rw [left]; exact ok_ne_error)
    (by rw [right]; exact ok_ne_error)
  rw [left, right] at same
  exact (EStateM.Result.ok.inj same).2

theorem gives_of_reached {depth : Nat} {ahead : List Directive} {before after state : Statics}
    {lines : List Line} {directive : Directive}
    (interprets : Interprets (parse fs depth) ahead before lines after)
    (reached : Reached fs ahead before directive state) :
    ∃ given behind,
      Line.Gives (parse fs depth) directive.tl directive.subdirective state given behind := by
  induction reached generalizing lines with
  | here directive ahead before =>
      cases interprets with
      | cons gives _ => exact ⟨_, _, gives⟩
  | later gives _ ih =>
      cases interprets with
      | cons first rest =>
          rw [gives_unique first gives] at rest
          exact ih rest

/-- If a parse returns, so does that of each file that it visits. -/
theorem returns_of_includes (returns : Returns fs call) (includes : Includes fs call next) :
    Returns fs next := by
  obtain ⟨text, depth, lines, after, read, interprets⟩ := exists_interprets_of_returns returns
  obtain ⟨_, directive, state, alsoRead, reached, named, begun⟩ := includes
  cases read.symm.trans alsoRead
  obtain ⟨given, behind, gives⟩ := gives_of_reached interprets reached
  have ran := (Line.parse_ok_iff { fileName := [], lineNumber := 0 }).mpr gives
  rw [Line.run_parse_of_included named, ← begun] at ran
  exact ⟨depth, given, behind, ran⟩

theorem returns_of_visited (returns : Returns fs call)
    (visited : ReflTransGen (Includes fs) call file) : Returns fs file := by
  induction visited with
  | refl => exact returns
  | tail _ includes ih => exact returns_of_includes ih includes

theorem returns_iff (ends : Ends fs call) : Returns fs call ↔ ¬ Refused fs call := by
  constructor
  · intro returns given
    obtain ⟨file, visited, isRefused⟩ := given
    obtain ⟨text, depth, lines, after, read, interprets⟩ :=
      exists_interprets_of_returns (returns_of_visited returns visited)
    rcases isRefused with missing | ⟨_, directive, state, alsoRead, reached, alone, notTaken⟩
    · rw [missing] at read
      cases read
    · cases read.symm.trans alsoRead
      obtain ⟨given, behind, gives⟩ := gives_of_reached interprets reached
      have ran := (Line.parse_ok_iff { fileName := [], lineNumber := 0 }).mpr gives
      rw [Line.parse_of_not_included alone _ fun _ => return []] at ran
      exact notTaken ⟨given, behind, (Line.parse_ok_iff _).mp ran⟩
  · intro notRefused
    obtain ⟨depth, inside⟩ := ends
    cases ran : (parse fs depth call.fileName).run call.before with
    | ok lines after => exact ⟨depth, lines, after, ran⟩
    | error failure after =>
        rw [ran] at inside
        have other : failure ≠ .stackOverflow := fun same => inside (congrArg Except.error same)
        obtain ⟨file, visited, throws⟩ := exists_throws ran other
        refine absurd ⟨file, visited, ?_⟩ notRefused
        cases throws with
        | missing noText what => exact .inl noText
        | @refused text directive state _ _ read reached alone thrown =>
            refine .inr ⟨text, directive, state, read, reached, alone, ?_⟩
            intro both
            obtain ⟨given, behind, gives⟩ := both
            rw [(Line.parse_ok_iff _).mpr gives] at thrown
            cases thrown

end Returns

/-- The parse throws, or it returns a line list that accounts for every line of the file
and of those that it includes. -/
def Whole (fs : FileSystem) (call : Call) : Prop :=
  Ends fs call ∧ (Returns fs call →
    ∀ file, ReflTransGen (Includes fs) call file → AccountsFor fs file)

theorem whole_iff (files : FiniteFiles) (call : Call) :
    Whole files.read call ↔
      NoRepeat files.read call ∧ (Refused files.read call ∨
        ∀ file text, ReflTransGen (Includes files.read) call file →
          file.contents files.read = some text → Plain text) := by
  rw [Whole, ends_iff_acc, acc_iff_noRepeat]
  apply and_congr_right
  intro noRepeat
  have ends := (ends_iff_acc call).mpr ((acc_iff_noRepeat files call).mpr noRepeat)
  by_cases isRefused : Refused files.read call
  · have throws : ¬ Returns files.read call := by
      intro returns
      exact (returns_iff ends).mp returns isRefused
    exact iff_of_true (fun returns => absurd returns throws) (Or.inl isRefused)
  · rw [or_iff_right isRefused]
    have returns := (returns_iff ends).mpr isRefused
    constructor
    · intro accounts file text visited read
      exact (accountsFor_iff (returns_of_visited returns visited) read).mp
        (accounts returns file visited)
    · intro plain _ file visited
      obtain ⟨text, _, _, _, read, _⟩ :=
        exists_interprets_of_returns (returns_of_visited returns visited)
      exact (accountsFor_iff (returns_of_visited returns visited) read).mpr
        (plain file text visited read)

/-- A directive of 100 characters, and one behind it. -/
def longText : Bytes :=
  ascii "table " ++ List.replicate 94 (byte 'x') ++ ascii "\ntable stock\n"

def longFiles : FiniteFiles where
  read := fun _ => .ok longText
  finite := by
    apply (Set.finite_singleton longText).subset
    intro text given
    obtain ⟨_, read⟩ := given
    cases read
    rfl

/-- Neither is parsed, and there is no exception. -/
theorem long_line_ends_file :
    ¬ Whole longFiles.read { before := .initial, fileName := ascii "long.ssqls" } := by
  let call : Call := { before := .initial, fileName := ascii "long.ssqls" }
  have read : call.contents longFiles.read = some longText := rfl
  have nothing : directives longText = [] := by decide +kernel
  have asked : (account longText).length = 2 := by decide +kernel
  have ran : (parse longFiles.read 1 call.fileName).run call.before = .ok [] call.start := by
    rw [run_parse_of_contents read, nothing]
    rfl
  intro given
  obtain ⟨-, whole⟩ := given
  obtain ⟨_, parts, again, contributed, -, complete⟩ :=
    whole ⟨1, [], call.start, ran⟩ call .refl 0 [] call.start ran
  cases read.symm.trans again
  have none_ := directives_of_contribute contributed
  rw [nothing, List.map_eq_nil_iff] at none_
  rw [← complete, none_] at asked
  cases asked

end LibTabula.ParseV2
