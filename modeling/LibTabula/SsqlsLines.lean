/-
One line of SSQLS v2, printed and read back.

A line is printed as words with one space between them. The words of a parsed line
are tokens, which no comment or separator cuts, so the reader sees the printed words
again and each directive gets its own arguments back. The reader's buffer is the only
thing that can be in the way.
-/

import LibTabula.ParseV2

set_option autoImplicit false

namespace LibTabula.ParseV2

open Foundation

/-! ### Tokens -/

/-- A word that the reader leaves whole. -/
structure IsToken (w : Bytes) : Prop where
  nonempty : w ≠ []
  plain : ∀ c ∈ w, isspace c = false ∧ c ≠ 0 ∧ c ≠ byte '#'

/-- By going through the word, and not through all bytes. -/
instance (w : Bytes) : Decidable (IsToken w) :=
  have : Decidable (∀ c ∈ w, isspace c = false ∧ c ≠ 0 ∧ c ≠ byte '#') := List.decidableBAll _ w
  decidable_of_iff (w ≠ [] ∧ ∀ c ∈ w, isspace c = false ∧ c ≠ 0 ∧ c ≠ byte '#')
    ⟨fun ⟨nonempty, plain⟩ => ⟨nonempty, plain⟩, fun ⟨nonempty, plain⟩ => ⟨nonempty, plain⟩⟩

theorem IsToken.isWord {w : Bytes} (token : IsToken w) : IsWord isspace w :=
  ⟨token.nonempty, fun c inWord => (token.plain c inWord).1⟩

/-- What the reader hands to the parser. -/
theorem isToken_of_readLine {temp line : Bytes} {subdirective : Bool}
    (read : readLine temp = some (line, subdirective)) : ∀ w ∈ tokenize line, IsToken w := by
  unfold readLine at read
  split at read
  · simp only [Option.some.injEq, Prod.mk.injEq] at read
    intro w member
    obtain ⟨isWord, inLine⟩ := isWord_of_mem_words member
    refine ⟨isWord.nonempty, fun c inWord => ⟨isWord.unbroken c inWord, ?_⟩⟩
    have kept := inLine c inWord
    rw [← read.1] at kept
    have notComment := List.mem_takeWhile_imp kept
    have notNull := List.mem_takeWhile_imp ((List.takeWhile_sublist _).mem kept)
    exact ⟨of_decide_eq_true notNull, of_decide_eq_true notComment⟩
  · cases read

/-! ### Lines made of tokens -/

/-- What an attribute that may be missing has. -/
def OptionalToken (w : Bytes) : Prop := w = [] ∨ IsToken w

structure Table.Proper (made : Table) : Prop where
  name : IsToken made.name
  aliasName : IsToken made.aliasName
  filebase : IsToken made.filebase

structure Field.Proper (made : Field) : Prop where
  name : IsToken made.name
  aliasName : OptionalToken made.aliasName

def OptionLine.Proper : OptionLine → Prop
  | headerExtension value => IsToken value
  | implementationExtension value => IsToken value
  | _ => True

def Line.Proper : Line → Prop
  | table declared => declared.Proper
  | field declared => declared.Proper
  | option chosen => chosen.Proper

/-- What every attribute keeps, the whole loop keeps. -/
theorem readAttributes_keeps {σ : Type} {setAttribute : Bytes → Bytes → σ → Except Exception σ}
    {Inv : σ → Prop}
    (step : ∀ {attr value read next}, IsToken value → Inv read →
      setAttribute attr value read = .ok next → Inv next)
    {tl : List Bytes} (tokens : ∀ w ∈ tl, IsToken w) {start last : σ} (holds : Inv start)
    (parsed : readAttributes setAttribute tl start = .ok last) : Inv last := by
  induction tl, start using readAttributes.induct with
  | case1 attr value rest read ih =>
      obtain ⟨-, valueToken, others⟩ : _ ∧ IsToken value ∧ ∀ w ∈ rest, IsToken w := by
        simpa only [List.forall_mem_cons] using tokens
      rw [readAttributes] at parsed
      obtain ⟨next, made, rest⟩ := exists_of_bind_ok parsed
      exact ih next others (step valueToken holds made) rest
  | case2 rest read short =>
      rw [readAttributes] at parsed
      · cases parsed
        exact holds
      · exact short

theorem Table.new_proper {name aliasName filebase : Bytes} (nameToken : IsToken name)
    (aliasToken : OptionalToken aliasName) (filebaseToken : OptionalToken filebase) :
    (Table.new name aliasName filebase).Proper := by
  have byDefault : ∀ {w : Bytes}, OptionalToken w → IsToken (if w = [] then name else w) := by
    intro w optional
    split
    next => exact nameToken
    next given => exact optional.resolve_left given
  exact ⟨nameToken, byDefault aliasToken, byDefault filebaseToken⟩

theorem Table.setAttribute_keeps {name attr value : Bytes} {file : File}
    {read next : Bytes × Bytes} (valueToken : IsToken value)
    (holds : OptionalToken read.1 ∧ OptionalToken read.2)
    (changed : Table.setAttribute name file attr value read = .ok next) :
    OptionalToken next.1 ∧ OptionalToken next.2 := by
  obtain ⟨aliasName, filebase⟩ := read
  rw [Table.setAttribute] at changed
  split at changed
  · cases changed
    exact ⟨.inr valueToken, holds.2⟩
  · split at changed
    · cases changed
      exact ⟨holds.1, .inr valueToken⟩
    · cases changed

theorem Table.proper_of_parse {tl : List Bytes} (tokens : ∀ w ∈ tl, IsToken w)
    {subdirective : Bool} {file : File} {made : Table}
    (parsed : Table.parse tl subdirective file = .ok made) :
    made.Proper ∧ subdirective = false := by
  unfold Table.parse at parsed
  split at parsed
  next directive name rest =>
    obtain ⟨-, nameToken, others⟩ : _ ∧ IsToken name ∧ ∀ w ∈ rest, IsToken w := by
      simpa only [List.forall_mem_cons] using tokens
    cases subdirective with
    | true => cases parsed
    | false =>
        rw [if_neg Bool.false_ne_true] at parsed
        obtain ⟨last, read, returned⟩ := exists_of_bind_ok parsed
        cases returned
        obtain ⟨aliasToken, filebaseToken⟩ :=
          readAttributes_keeps Table.setAttribute_keeps others ⟨.inl rfl, .inl rfl⟩ read
        exact ⟨Table.new_proper nameToken aliasToken filebaseToken, rfl⟩
  next => cases parsed

/-- Only the alias is a word that is kept. -/
theorem Field.setAttribute_keeps {name attr value : Bytes} {file : File}
    {read next : FieldAttributes} (valueToken : IsToken value)
    (holds : OptionalToken read.aliasName)
    (changed : Field.setAttribute name file attr value read = .ok next) :
    OptionalToken next.aliasName := by
  unfold Field.setAttribute at changed
  split at changed
  · cases changed
    exact .inr valueToken
  · repeat' split at changed
    all_goals cases changed
    all_goals exact holds

theorem Field.proper_of_parse {tl : List Bytes} (tokens : ∀ w ∈ tl, IsToken w)
    {subdirective : Bool} {file : File} {made : Field}
    (parsed : Field.parse tl subdirective file = .ok made) :
    made.Proper ∧ subdirective = true := by
  unfold Field.parse at parsed
  split at parsed
  next directive name rest =>
    obtain ⟨-, nameToken, others⟩ : _ ∧ IsToken name ∧ ∀ w ∈ rest, IsToken w := by
      simpa only [List.forall_mem_cons] using tokens
    cases subdirective with
    | false => cases parsed
    | true =>
        rw [Bool.not_true, if_neg Bool.false_ne_true] at parsed
        obtain ⟨last, read, returned⟩ := exists_of_bind_ok parsed
        cases returned
        have aliasToken := readAttributes_keeps Field.setAttribute_keeps others (.inl rfl) read
        exact ⟨⟨nameToken, aliasToken⟩, rfl⟩
  next => cases parsed

theorem OptionLine.proper_of_parse {tl : List Bytes} (tokens : ∀ w ∈ tl, IsToken w)
    {subdirective : Bool} {file : File} {made : OptionLine}
    (parsed : OptionLine.parse tl subdirective file = .ok made) :
    made.Proper ∧ subdirective = false := by
  unfold OptionLine.parse at parsed
  split at parsed
  next directive name value =>
    have valueToken : IsToken value := tokens value (by simp)
    cases subdirective with
    | true => cases parsed
    | false =>
        rw [if_neg Bool.false_ne_true] at parsed
        split at parsed
        · obtain ⟨type, style, returned⟩ := exists_of_bind_ok parsed
          cases returned
          exact ⟨trivial, rfl⟩
        · repeat' split at parsed
          all_goals cases parsed
          · exact ⟨trivial, rfl⟩
          · exact ⟨valueToken, rfl⟩
          · exact ⟨valueToken, rfl⟩
  next => cases parsed

/-! ### Printed lines as words -/

def Table.tokens (self : Table) : List Bytes :=
  [ascii "table", self.name, ascii "alias", self.aliasName, ascii "filebase", self.filebase]

def isTokens (holds : Bool) (value : Bytes) : List Bytes :=
  if holds then [ascii "is", value] else []

def Field.tokens (self : Field) : List Bytes :=
  [ascii "field", self.name, ascii "type", self.type.name] ++
    isTokens self.isAutoinc (ascii "autoinc") ++ isTokens self.isKey (ascii "key") ++
    isTokens self.isNull (ascii "null") ++ isTokens self.isUnsigned (ascii "unsigned") ++
    (if self.aliasName ≠ [] then [ascii "alias", self.aliasName] else [])

def OptionLine.tokens : OptionLine → List Bytes
  | accessorStyle type => [ascii "option", ascii "accessor_style", type.name]
  | exceptionOnSchemaMismatch throws =>
      [ascii "option", ascii "exception_on_schema_mismatch",
        if throws then ascii "true" else ascii "false"]
  | headerExtension value => [ascii "option", ascii "header_extension", value]
  | implementationExtension value => [ascii "option", ascii "implementation_extension", value]

def Line.tokens : Line → List Bytes
  | table declared => declared.tokens
  | field declared => declared.tokens
  | option chosen => chosen.tokens

theorem Table.print_eq_intercalate {self : Table} (proper : self.Proper) :
    self.print = [byte ' '].intercalate self.tokens := by
  rw [Table.print, if_pos proper.aliasName.nonempty, if_pos proper.filebase.nonempty,
    Table.tokens, intercalate_cons_eq_flatMap]
  simp [List.flatMap_cons, ascii, byte]

theorem flatMap_isTokens (holds : Bool) (value : Bytes) :
    ((isTokens holds value).flatMap fun next => byte ' ' :: next) =
      if holds then ascii " is " ++ value else [] := by
  cases holds with
  | false => rfl
  | true =>
      simp [isTokens, List.flatMap_cons, ascii, byte]

theorem Field.print_eq_intercalate (self : Field) :
    self.print = [byte ' '].intercalate self.tokens := by
  rw [Field.print, Field.tokens, TypeValue.print]
  simp only [List.cons_append, List.nil_append, intercalate_cons_eq_flatMap, List.flatMap_cons,
    List.flatMap_append, flatMap_isTokens]
  by_cases unnamed : self.aliasName = []
  · simp [unnamed, ascii, byte]
  · simp [unnamed, ascii, byte]

theorem OptionLine.print_eq_intercalate (self : OptionLine) :
    self.print = [byte ' '].intercalate self.tokens := by
  cases self <;>
    simp [OptionLine.print, OptionLine.tokens, ascii, byte]

theorem Line.print_eq_intercalate {line : Line} (proper : line.Proper) :
    line.print = [byte ' '].intercalate line.tokens := by
  cases line with
  | table declared => exact declared.print_eq_intercalate proper
  | field declared => exact declared.print_eq_intercalate
  | option chosen => exact chosen.print_eq_intercalate

theorem isToken_isTokens {value : Bytes} (token : IsToken value) (holds : Bool) :
    ∀ w ∈ isTokens holds value, IsToken w := by
  have isToken : IsToken (ascii "is") := by decide
  cases holds with
  | false => exact nofun
  | true =>
      simp only [isTokens, if_true, List.forall_mem_cons]
      exact ⟨isToken, token, nofun⟩

theorem TypeValue.isToken_name (self : TypeValue) : IsToken self.name := by
  cases self <;> decide

theorem AccessorStyle.isToken_name (self : AccessorStyle) : IsToken self.name := by
  cases self <;> decide

theorem Table.isToken_tokens {made : Table} (proper : made.Proper) :
    ∀ w ∈ made.tokens, IsToken w := by
  simp only [Table.tokens, List.forall_mem_cons]
  exact ⟨by decide, proper.name, by decide, proper.aliasName, by decide, proper.filebase, nofun⟩

theorem Field.isToken_tokens {made : Field} (proper : made.Proper) :
    ∀ w ∈ made.tokens, IsToken w := by
  have declaration : ∀ w ∈ [ascii "field", made.name, ascii "type", made.type.name], IsToken w := by
    simp only [List.forall_mem_cons]
    exact ⟨by decide, proper.name, by decide, made.type.isToken_name, nofun⟩
  simp only [Field.tokens, List.forall_mem_append]
  refine ⟨⟨⟨⟨⟨declaration, ?_⟩, ?_⟩, ?_⟩, ?_⟩, ?_⟩
  · exact isToken_isTokens (by decide) made.isAutoinc
  · exact isToken_isTokens (by decide) made.isKey
  · exact isToken_isTokens (by decide) made.isNull
  · exact isToken_isTokens (by decide) made.isUnsigned
  · by_cases unnamed : made.aliasName = []
    · rw [if_neg (not_not_intro unnamed)]
      exact nofun
    · rw [if_pos unnamed]
      simp only [List.forall_mem_cons]
      exact ⟨by decide, proper.aliasName.resolve_left unnamed, nofun⟩

theorem OptionLine.isToken_tokens {made : OptionLine} (proper : made.Proper) :
    ∀ w ∈ made.tokens, IsToken w := by
  have keyword : IsToken (ascii "option") := by decide
  cases made with
  | accessorStyle type =>
      simp only [OptionLine.tokens, List.forall_mem_cons]
      exact ⟨keyword, by decide, type.isToken_name, nofun⟩
  | exceptionOnSchemaMismatch throws =>
      simp only [OptionLine.tokens, List.forall_mem_cons]
      exact ⟨keyword, by decide, by cases throws <;> decide, nofun⟩
  | headerExtension value =>
      simp only [OptionLine.tokens, List.forall_mem_cons]
      exact ⟨keyword, by decide, proper, nofun⟩
  | implementationExtension value =>
      simp only [OptionLine.tokens, List.forall_mem_cons]
      exact ⟨keyword, by decide, proper, nofun⟩

theorem Line.isToken_tokens {line : Line} (proper : line.Proper) :
    ∀ w ∈ line.tokens, IsToken w := by
  cases line with
  | table declared => exact declared.isToken_tokens proper
  | field declared => exact declared.isToken_tokens proper
  | option chosen => exact chosen.isToken_tokens proper

/-! ### Reading a printed line -/

theorem Line.plain_written {line : Line} (proper : line.Proper) :
    ∀ c ∈ line.written, c ≠ byte '\n' ∧ c ≠ 0 ∧ c ≠ byte '#' := by
  have plainPrint : ∀ c ∈ line.print, c ≠ byte '\n' ∧ c ≠ 0 ∧ c ≠ byte '#' := by
    intro c printed
    rw [Line.print_eq_intercalate proper] at printed
    rcases mem_intercalate printed with isBlank | ⟨word, member, inWord⟩
    · rw [isBlank]
      decide
    · have token := Line.isToken_tokens proper word member
      obtain ⟨notBlank, notNull, notComment⟩ := token.plain c inWord
      refine ⟨?_, notNull, notComment⟩
      intro isNewline
      rw [isNewline] at notBlank
      cases notBlank
  intro c inWritten
  rcases List.mem_append.mp inWritten with indent | printed
  · split at indent
    · rw [List.mem_singleton.mp indent]
      decide
    · cases indent
  · exact plainPrint c printed

/-- What is printed begins in the first column. -/
theorem Line.head_print (line : Line) : line.print.head?.any isspace = false := by
  cases line with
  | table declared => rfl
  | field declared => rfl
  | option chosen => cases chosen <;> rfl

/-- The reader takes a written line as it is, if its buffer has room for it. -/
theorem readLine_written {line : Line} (proper : line.Proper) :
    readLine line.written =
      if line.written.length < bufferSize then some (line.written, line.isField) else none := by
  have plain := Line.plain_written proper
  have whole : (line.written.takeWhile (· ≠ 0)).takeWhile (· ≠ byte '#') = line.written := by
    rw [List.takeWhile_eq_self_iff.mpr fun c inLine => decide_eq_true (plain c inLine).2.1,
      List.takeWhile_eq_self_iff.mpr fun c inLine => decide_eq_true (plain c inLine).2.2]
  have indented : line.written.head?.any isspace = line.isField := by
    cases isField : line.isField with
    | true =>
        rw [Line.written, isField]
        rfl
    | false =>
        rw [Line.written, isField]
        exact line.head_print
  simp only [readLine, whole, indented]

theorem tokenize_written {line : Line} (proper : line.Proper) :
    tokenize line.written = line.tokens := by
  have printed : words isspace line.print = line.tokens := by
    rw [Line.print_eq_intercalate proper]
    exact words_intercalate rfl fun w member => (Line.isToken_tokens proper w member).isWord
  rw [tokenize, Line.written]
  split
  · rw [List.singleton_append, words_cons_separator rfl]
    exact printed
  · exact printed

/-! ### Parsing a printed line -/

theorem Table.parse_tokens {made : Table} (proper : made.Proper) (file : File) :
    Table.parse made.tokens false file = .ok made := by
  have read : readAttributes (Table.setAttribute made.name file)
      [ascii "alias", made.aliasName, ascii "filebase", made.filebase] ([], []) =
      .ok (made.aliasName, made.filebase) := rfl
  have again : Table.new made.name made.aliasName made.filebase = made := by
    rw [Table.new, if_neg proper.aliasName.nonempty, if_neg proper.filebase.nonempty]
  simp only [Table.parse, Table.tokens, Bool.false_eq_true, if_false, read]
  exact congrArg Except.ok again

theorem TypeValue.ofText_name (self : TypeValue) : TypeValue.ofText self.name = self := by
  cases self <;> decide

theorem readAttributes_isTokens {name value : Bytes} {file : File}
    (set : Bool → FieldAttributes)
    (sets : Field.setAttribute name file (ascii "is") value (set false) = .ok (set true))
    (holds : Bool) (rest : List Bytes) :
    readAttributes (Field.setAttribute name file) (isTokens holds value ++ rest) (set false) =
      readAttributes (Field.setAttribute name file) rest (set holds) := by
  cases holds with
  | false => rfl
  | true =>
      have lower : strToLwr (ascii "is") = ascii "is" := by decide
      simp only [isTokens, if_true, List.cons_append, List.nil_append, readAttributes, lower, sets]
      rfl

theorem readAttributes_alias (name aliasName : Bytes) (file : File) {read : FieldAttributes}
    (unset : read.aliasName = []) :
    readAttributes (Field.setAttribute name file)
        (if aliasName ≠ [] then [ascii "alias", aliasName] else []) read =
      .ok { read with aliasName := aliasName } := by
  by_cases unnamed : aliasName = []
  · rw [if_neg (not_not_intro unnamed), unnamed, ← unset]
    rfl
  · rw [if_pos unnamed]
    rfl

/-- Every flag that is printed is read in its turn, and no other changes it. -/
theorem Field.readAttributes_tokens (made : Field) (file : File) :
    readAttributes (Field.setAttribute made.name file)
        (ascii "type" :: made.type.name :: (isTokens made.isAutoinc (ascii "autoinc") ++
          (isTokens made.isKey (ascii "key") ++ (isTokens made.isNull (ascii "null") ++
            (isTokens made.isUnsigned (ascii "unsigned") ++
              if made.aliasName ≠ [] then [ascii "alias", made.aliasName] else []))))) .none =
      .ok ⟨made.type.name, made.aliasName, made.isAutoinc, made.isKey, made.isNull,
        made.isUnsigned⟩ := by
  obtain ⟨name, type, isAutoinc, isKey, isNull, isUnsigned, aliasName⟩ := made
  calc
    _ = readAttributes (Field.setAttribute name file) _
        ⟨type.name, [], false, false, false, false⟩ := rfl
    _ = readAttributes (Field.setAttribute name file) _
        ⟨type.name, [], isAutoinc, false, false, false⟩ :=
      readAttributes_isTokens (fun holds => ⟨type.name, [], holds, false, false, false⟩) rfl _ _
    _ = readAttributes (Field.setAttribute name file) _
        ⟨type.name, [], isAutoinc, isKey, false, false⟩ :=
      readAttributes_isTokens (fun holds => ⟨type.name, [], isAutoinc, holds, false, false⟩) rfl _ _
    _ = readAttributes (Field.setAttribute name file) _
        ⟨type.name, [], isAutoinc, isKey, isNull, false⟩ :=
      readAttributes_isTokens (fun holds => ⟨type.name, [], isAutoinc, isKey, holds, false⟩) rfl _ _
    _ = readAttributes (Field.setAttribute name file) _
        ⟨type.name, [], isAutoinc, isKey, isNull, isUnsigned⟩ :=
      readAttributes_isTokens (fun holds => ⟨type.name, [], isAutoinc, isKey, isNull, holds⟩) rfl
        _ _
    _ = _ := readAttributes_alias name aliasName file rfl

theorem Field.parse_tokens (made : Field) (file : File) :
    Field.parse made.tokens true file = .ok made := by
  simp only [Field.parse, Field.tokens, List.append_assoc, List.cons_append, List.nil_append,
    Bool.not_true, Bool.false_eq_true, if_false]
  rw [made.readAttributes_tokens file]
  exact congrArg (fun type => Except.ok { made with type := type }) made.type.ofText_name

theorem OptionLine.parse_tokens (made : OptionLine) (file : File) :
    OptionLine.parse made.tokens false file = .ok made := by
  cases made with
  | accessorStyle type => cases type <;> rfl
  | exceptionOnSchemaMismatch throws => cases throws <;> rfl
  | headerExtension value => rfl
  | implementationExtension value => rfl

end LibTabula.ParseV2
