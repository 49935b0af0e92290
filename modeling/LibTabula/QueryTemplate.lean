/-
Queries and the parsing of templates.

A query holds the text built so far, the parameters' defaults and, once `parse()`
has run, the elements of a template. Its connection is a parameter of what uses
one. The scan stops at the first NUL, as the loop over a C string does.
-/

import LibTabula.QueryParms
import LibTabula.Foundation.Effect

set_option autoImplicit false

namespace LibTabula

open Foundation

structure SQLParseElement where
  before : Bytes
  option : UInt8
  /-- A `signed char`. -/
  num : Int
deriving DecidableEq, Repr

structure Query where
  templateDefaults : SQLQueryParms
  copacetic : Bool
  parseElems : List SQLParseElement
  parsedNames : List Bytes
  parsedNums : Bytes → Option Int
  sbuffer : Bytes
  throwExceptions : Bool

namespace Query

/-- The constructor; `self` is the address of the new query. -/
def new (self : QueryId) (te : Bool) (qstr : Bytes) : Query :=
  { templateDefaults := SQLQueryParms.ofQuery self
    copacetic := true
    parseElems := []
    parsedNames := []
    parsedNums := fun _ => none
    sbuffer := qstr
    throwExceptions := te }

/-- `operator =` with another query on the right. The text is inserted behind the
one there is. -/
def assign (self rhs : Query) : Query :=
  { templateDefaults := self.templateDefaults.copyFrom rhs.templateDefaults
    copacetic := rhs.copacetic
    parseElems := rhs.parseElems
    parsedNames := rhs.parsedNames
    parsedNums := rhs.parsedNums
    sbuffer := self.sbuffer ++ rhs.sbuffer
    throwExceptions := rhs.throwExceptions }

/-- The copy constructor, which assigns to a query that is otherwise empty. -/
def copy (q : Query) : Query :=
  assign { new 0 q.throwExceptions [] with templateDefaults := SQLQueryParms.empty } q

def reset (self : Query) : Query :=
  { self with
    sbuffer := []
    parseElems := []
    templateDefaults := self.templateDefaults.clear }

def write (self : Query) (text : Bytes) : Query := { self with sbuffer := self.sbuffer ++ text }

/-! ### Parsing -/

def isdigit (c : UInt8) : Bool := byte '0' ≤ c && c ≤ byte '9'

/-- `isalnum` in the C locale, or an underscore. -/
def isNameChar (c : UInt8) : Bool :=
  isdigit c || byte 'a' ≤ c && c ≤ byte 'z' || byte 'A' ≤ c && c ≤ byte 'Z' || c = byte '_'

def atoi (digits : Bytes) : Nat :=
  digits.foldl (fun n c => 10 * n + (c.toNat - (byte '0').toNat)) 0

def signedChar (n : Nat) : Int := (n + 128) % 256 - 128

structure Placeholder where
  num : Int
  option : UInt8
  name : Option Bytes
  rest : Bytes
deriving DecidableEq, Repr

def readOption (s : Bytes) : UInt8 × Bytes :=
  match s with
  | c :: rest => if c = byte 'q' ∨ c = byte 'Q' then (c, rest) else (byte ' ', s)
  | [] => (byte ' ', [])

def readName (s : Bytes) : Option Bytes × Bytes :=
  match s with
  | c :: rest =>
      if c = byte ':' then
        let behind := rest.dropWhile isNameChar
        (some (rest.takeWhile isNameChar),
          if behind.head? = some (byte ':') then behind.tail else behind)
      else (none, s)
  | [] => (none, [])

/-- A placeholder behind its percent sign: a position of up to three digits, an
option and a name. -/
def readPlaceholder (s : Bytes) : Placeholder :=
  let digits := (s.take 3).takeWhile isdigit
  let option := readOption (s.drop digits.length)
  let name := readName option.2
  { num := signedChar (atoi digits), option := option.1, name := name.1, rest := name.2 }

/-- The update of the name tables. A position that has become negative is used as
an index all the same. -/
def declareName (n : Int) (name : Bytes) : EStateM Failure Query Unit := do
  if n < 0 then throw .outOfBounds
  modify fun q =>
    { q with
      parsedNames :=
        (q.parsedNames ++ List.replicate (n.toNat + 1 - q.parsedNames.length) []).set n.toNat name
      parsedNums := fun other => if other = name then some n else q.parsedNums other }

def pushElem (elem : SQLParseElement) : EStateM Failure Query Unit :=
  modify fun q => { q with parseElems := q.parseElems ++ [elem] }

def saveParameter (str : Bytes) (parameter : Placeholder) : EStateM Failure Query Unit := do
  match parameter.name with
  | some name => declareName parameter.num name
  | none => pure ()
  pushElem { before := str, option := parameter.option, num := parameter.num }

theorem readOption_length (s : Bytes) : (readOption s).2.length ≤ s.length := by
  cases s with
  | nil => exact Nat.le_refl 0
  | cons c rest =>
      simp only [readOption]
      split_ifs
      · exact Nat.le_succ rest.length
      · exact Nat.le_refl _

theorem readName_length (s : Bytes) : (readName s).2.length ≤ s.length := by
  cases s with
  | nil => exact Nat.le_refl 0
  | cons c rest =>
      have behind := (List.dropWhile_suffix isNameChar (l := rest)).length_le
      simp only [readName]
      split_ifs
      · simp only [List.length_tail, List.length_cons]
        omega
      · simp only [List.length_cons]
        omega
      · exact Nat.le_refl _

theorem readPlaceholder_length (s : Bytes) : (readPlaceholder s).rest.length ≤ s.length := by
  have option := readOption_length (s.drop ((s.take 3).takeWhile isdigit).length)
  have name := readName_length (readOption (s.drop ((s.take 3).takeWhile isdigit).length)).2
  rw [List.length_drop] at option
  simp only [readPlaceholder]
  omega

/-- The loop of `parse()`, with the literal text read since the last element. -/
def parseLoop (s str : Bytes) : EStateM Failure Query Bytes :=
  match s with
  | [] => pure str
  | c :: s =>
      if c = 0 then pure str
      else if c = byte '%' then
        if s.head? = some (byte '%') then parseLoop s.tail (str ++ [byte '%'])
        else if s.head?.any isdigit then do
          saveParameter str (readPlaceholder s)
          parseLoop (readPlaceholder s).rest []
        else parseLoop s (str ++ [byte '%'])
      else parseLoop s (str ++ [c])
termination_by s.length
decreasing_by
  · simp only [List.length_tail, List.length_cons]
    omega
  · have shorter := readPlaceholder_length s
    simp only [List.length_cons]
    omega
  · exact Nat.lt_succ_self s.length
  · exact Nat.lt_succ_self s.length

def parse : EStateM Failure Query Unit := do
  let q ← get
  let str ← parseLoop q.sbuffer []
  pushElem { before := str, option := byte ' ', num := -1 }

end Query

/-! ### Parsed templates -/

/-- What parsing a text makes: placeholders, each with the literal text before it,
and the text behind the last one. -/
structure ParsedTemplate where
  placeholders : List SQLParseElement
  trailing : Bytes
  options : ∀ elem ∈ placeholders,
    elem.option = byte ' ' ∨ elem.option = byte 'q' ∨ elem.option = byte 'Q'
  nums : ∀ elem ∈ placeholders, -128 ≤ elem.num ∧ elem.num < 128

namespace ParsedTemplate

def elems (self : ParsedTemplate) : List SQLParseElement :=
  self.placeholders ++ [{ before := self.trailing, option := byte ' ', num := -1 }]

theorem elems_ne_nil (self : ParsedTemplate) : self.elems ≠ [] := by
  unfold elems
  exact List.append_ne_nil_of_right_ne_nil _ (List.cons_ne_nil _ _)

theorem length_elems (self : ParsedTemplate) :
    self.elems.length = self.placeholders.length + 1 := by
  rw [elems, List.length_append, List.length_singleton]

end ParsedTemplate

namespace Query

theorem readOption_option (s : Bytes) :
    (readOption s).1 = byte ' ' ∨ (readOption s).1 = byte 'q' ∨
      (readOption s).1 = byte 'Q' := by
  cases s with
  | nil => exact Or.inl rfl
  | cons c rest =>
      simp only [readOption]
      by_cases known : c = byte 'q' ∨ c = byte 'Q'
      · rw [if_pos known]
        exact Or.inr known
      · rw [if_neg known]
        exact Or.inl rfl

theorem signedChar_bounds (n : Nat) : -128 ≤ signedChar n ∧ signedChar n < 128 := by
  unfold signedChar
  omega

theorem declareName_elems {n : Int} {name : Bytes} {q after : Query}
    (declared : (declareName n name).run q = .ok () after) :
    after.parseElems = q.parseElems := by
  unfold declareName at declared
  by_cases negative : n < 0
  · rw [if_pos negative] at declared
    cases declared
  · rw [if_neg negative] at declared
    cases declared
    rfl

theorem saveParameter_elems {str : Bytes} {parameter : Placeholder} {q after : Query}
    (saved : (saveParameter str parameter).run q = .ok () after) :
    after.parseElems = q.parseElems ++
      [{ before := str, option := parameter.option, num := parameter.num }] := by
  unfold saveParameter at saved
  cases named : parameter.name with
  | none =>
      rw [named] at saved
      cases saved
      rfl
  | some name =>
      simp only [named] at saved
      obtain ⟨value, middle, declared, pushed⟩ := exists_of_run_bind_ok saved
      cases pushed
      rw [← declareName_elems declared]

theorem parseLoop_literal {c : UInt8} (notNul : c ≠ 0) (notPercent : c ≠ byte '%')
    (s str : Bytes) : parseLoop (c :: s) str = parseLoop s (str ++ [c]) := by
  rw [parseLoop, if_neg notNul, if_neg notPercent]

theorem parseLoop_placeholder {s str : Bytes} {q middle : Query}
    (single : s.head? ≠ some (byte '%')) (digit : s.head?.any isdigit = true)
    (saved : (saveParameter str (readPlaceholder s)).run q = .ok () middle) :
    (parseLoop (byte '%' :: s) str).run q =
      (parseLoop (readPlaceholder s).rest []).run middle := by
  have notNul : byte '%' ≠ 0 := by decide
  rw [parseLoop, if_neg notNul, if_pos rfl, if_neg single, if_pos digit,
    run_bind_of_ok saved]

/-- Computations that save one placeholder after the other, and return a text. -/
inductive Saving : EStateM Failure Query Bytes → Prop
  | returns (str : Bytes) : Saving (pure str)
  | saves (str s : Bytes) {rest : EStateM Failure Query Bytes} : Saving rest →
      Saving (saveParameter str (readPlaceholder s) >>= fun _ => rest)

theorem parseLoop_saving (s str : Bytes) : Saving (parseLoop s str) := by
  induction s, str using parseLoop.induct with
  | case1 str =>
      rw [parseLoop]
      exact Saving.returns str
  | case2 str s =>
      rw [parseLoop, if_pos rfl]
      exact Saving.returns str
  | case3 str s doubled notNul ih =>
      rw [parseLoop, if_neg notNul, if_pos rfl, if_pos doubled]
      exact ih
  | case4 str s single digit notNul ih =>
      rw [parseLoop, if_neg notNul, if_pos rfl, if_neg single, if_pos digit]
      exact Saving.saves str s ih
  | case5 str s single noDigit notNul ih =>
      rw [parseLoop, if_neg notNul, if_pos rfl, if_neg single, if_neg noDigit]
      exact ih
  | case6 str c s notNul notPercent ih =>
      rw [parseLoop_literal notNul notPercent]
      exact ih

/-- The placeholders that a text adds to a query are those of a template. -/
theorem parseLoop_elems {s str text : Bytes} {q after : Query}
    (parsed : (parseLoop s str).run q = .ok text after) :
    ∃ placeholders : List SQLParseElement,
      (∀ elem ∈ placeholders, elem.option = byte ' ' ∨ elem.option = byte 'q' ∨
          elem.option = byte 'Q') ∧
        (∀ elem ∈ placeholders, -128 ≤ elem.num ∧ elem.num < 128) ∧
        after.parseElems = q.parseElems ++ placeholders := by
  have saving := parseLoop_saving s str
  generalize parseLoop s str = loop at saving parsed
  induction saving generalizing q with
  | returns str =>
      cases parsed
      exact ⟨[], by simp, by simp, (List.append_nil _).symm⟩
  | saves str s rest ih =>
      obtain ⟨_, middle, saved, continued⟩ := exists_of_run_bind_ok parsed
      obtain ⟨later, options, nums, elems⟩ := ih continued
      refine ⟨{ before := str
                option := (readPlaceholder s).option
                num := (readPlaceholder s).num } :: later, ?_, ?_, ?_⟩
      · exact List.forall_mem_cons.mpr ⟨readOption_option _, options⟩
      · exact List.forall_mem_cons.mpr ⟨signedChar_bounds _, nums⟩
      · rw [elems, saveParameter_elems saved, List.append_assoc, List.singleton_append]

theorem parse_elems {q after : Query} (parsed : parse.run q = .ok () after) :
    ∃ template : ParsedTemplate, after.parseElems = q.parseElems ++ template.elems := by
  change (parseLoop q.sbuffer [] >>= fun str =>
    pushElem { before := str, option := byte ' ', num := -1 }).run q = .ok () after at parsed
  obtain ⟨str, middle, looped, pushed⟩ := exists_of_run_bind_ok parsed
  cases pushed
  obtain ⟨placeholders, options, nums, elems⟩ := parseLoop_elems looped
  refine ⟨⟨placeholders, str, options, nums⟩, ?_⟩
  rw [ParsedTemplate.elems, ← List.append_assoc, ← elems]

theorem preserves_declareName (n : Int) (name : Bytes) :
    Preserves templateDefaults (declareName n name) := by
  intro q
  unfold declareName
  by_cases negative : n < 0
  · rw [if_pos negative]
    rfl
  · rw [if_neg negative]
    rfl

theorem preserves_saveParameter (str : Bytes) (parameter : Placeholder) :
    Preserves templateDefaults (saveParameter str parameter) := by
  unfold saveParameter
  cases parameter.name with
  | none =>
      intro q
      rfl
  | some name =>
      apply Preserves.bind (preserves_declareName parameter.num name)
      intro _named q
      rfl

theorem preserves_parseLoop (s str : Bytes) : Preserves templateDefaults (parseLoop s str) := by
  have saving := parseLoop_saving s str
  generalize parseLoop s str = loop at saving
  induction saving with
  | returns str => exact Preserves.pure str
  | saves str s _rest kept => exact Preserves.bind (preserves_saveParameter str _) fun _ => kept

theorem preserves_parse : Preserves templateDefaults parse := by
  apply Preserves.bind Preserves.get
  intro q
  apply Preserves.bind (preserves_parseLoop q.sbuffer [])
  intro _str q
  rfl

end Query

end LibTabula
