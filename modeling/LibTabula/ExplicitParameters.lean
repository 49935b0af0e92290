/-
Filling in a template with a list of the caller's.

Parameters in a list that is tied to no query are formatted in copies. What a
template says is then a text for each element, or the first reason to fail.
-/

import LibTabula.DefaultParameters

set_option autoImplicit false

namespace LibTabula

open Foundation

namespace SQLTypeAdapter

/-- The constructor from a `String`, whose buffer is shared. -/
def ofBuffer (buffer : SQLBuffer) (processed : Bool) : SQLTypeAdapter :=
  { buffer := some buffer, isProcessed := processed }

/-- Made from a value, of whatever kind. -/
def Initialised (self : SQLTypeAdapter) : Prop := self.buffer.isSome = true

/-- The quoting that the adapter's type asks for. A type that is unknown asks for none. -/
def needsQuotes (self : SQLTypeAdapter) : Bool :=
  match self.quoteQ with
  | .ok quote => quote
  | .error _ => false

/-- The failure of the type lookup before quoting. Neither a null nor a parameter that has
been processed is quoted. -/
def formatFailure (option : UInt8) (self : SQLTypeAdapter) : Option Failure :=
  if self.isNull = .ok true ∨ self.isProcessed = true ∨ option ≠ byte 'q' ∧ option ≠ byte 'Q' then
    none
  else
    match self.quoteQ with
    | .ok _ => none
    | .error failure => some failure

/-- The text for a parameter by the option of its element. -/
def optionText (escape : Bytes → Bytes) (option : UInt8) (self : SQLTypeAdapter) : Bytes :=
  if self.isNull = .ok true then ascii "NULL"
  else if self.isProcessed then self.data
  else if option = byte 'q' then
    Query.inQuotes self.needsQuotes (if self.escapeQ then escape self.data else self.data)
  else if option = byte 'Q' then Query.inQuotes self.needsQuotes self.data
  else self.data

theorem isNull_of_initialised {S : SQLTypeAdapter} (initialised : S.Initialised) :
    ∃ null, S.isNull = .ok null := by
  obtain ⟨buffer, given⟩ := Option.isSome_iff_exists.mp initialised
  exact ⟨buffer.isNull, by rw [isNull, given]⟩

theorem isNull_ne {S : SQLTypeAdapter} {null other : Bool} (isNull : S.isNull = .ok null)
    (differs : null ≠ other) : S.isNull ≠ .ok other := by
  rw [isNull]
  exact fun same => differs (Except.ok.inj same)

/-- The two options that quote are not the same. -/
theorem quoteOnly_ne_quote : ¬ byte 'Q' = byte 'q' := by decide

theorem rendered_eq (escape : Bytes → Bytes) (option : UInt8) {S : SQLTypeAdapter}
    (initialised : S.Initialised) :
    rendered escape option S =
      Segment.textUnless (S.formatFailure option) (S.optionText escape option) := by
  obtain ⟨null, isNull⟩ := isNull_of_initialised initialised
  cases null with
  | true =>
      simp only [rendered, formatFailure, optionText, isNull, true_or, if_true, Segment.textUnless]
  | false =>
      have notNull : S.isNull ≠ .ok true := isNull_ne isNull Bool.false_ne_true
      simp only [rendered, isNull, formatFailure, optionText, Query.pprepare]
      by_cases processed : S.isProcessed = true
      · simp only [processed, if_true, true_or, or_true]
        rfl
      · by_cases q : option = byte 'q'
        · simp only [processed, q, needsQuotes]
          cases S.quoteQ <;> rfl
        · by_cases Q : option = byte 'Q'
          · simp only [processed, Q, needsQuotes]
            cases S.quoteQ with
            | error failure => rfl
            | ok quote =>
                cases quote with
                | true => rfl
                | false =>
                    simp [quoteOnly_ne_quote, Except.map, Query.unprepared, Query.inQuotes,
                      Segment.textUnless]
          · simp [processed, q, Q, Except.map, Query.unprepared, Segment.textUnless]

end SQLTypeAdapter

namespace SQLParseElement

/-- Why a position cannot be filled in from the list with an option. -/
def slotFailure (p : List SQLTypeAdapter) (slot : Nat × UInt8) : Option Failure :=
  match p[slot.1]? with
  | none => some Filling.tooFew
  | some S => S.formatFailure slot.2

def parameterText (escape : Bytes → Bytes) (p : List SQLTypeAdapter) (slot : Nat × UInt8) :
    Bytes :=
  match p[slot.1]? with
  | none => []
  | some S => S.optionText escape slot.2

def failure (p : List SQLTypeAdapter) (elem : SQLParseElement) : Option Failure :=
  if elem.num < 0 then none else slotFailure p (elem.num.toNat, elem.option)

/-- The text before the element, and its parameter by its own option. -/
def text (escape : Bytes → Bytes) (p : List SQLTypeAdapter) (elem : SQLParseElement) : Bytes :=
  elem.before ++
    if elem.num < 0 then [] else parameterText escape p (elem.num.toNat, elem.option)

theorem failure_eq (p : List SQLTypeAdapter) (elem : SQLParseElement) :
    elem.failure p = elem.segment.slot.bind (slotFailure p) := by
  rw [failure, segment]
  by_cases negative : elem.num < 0
  · rw [if_pos negative]
    simp only [if_neg (Int.not_le.mpr negative), Option.bind_none]
  · rw [if_neg negative]
    simp only [if_pos (Int.not_lt.mp negative), Option.bind_some]

theorem text_eq (escape : Bytes → Bytes) (p : List SQLTypeAdapter) (elem : SQLParseElement) :
    elem.text escape p =
      elem.segment.before ++ elem.segment.slot.elim [] (parameterText escape p) := by
  rw [text, segment]
  by_cases negative : elem.num < 0
  · simp only [if_pos negative, if_neg (Int.not_le.mpr negative), Option.elim_none]
  · simp only [if_neg negative, if_pos (Int.not_lt.mp negative), Option.elim_some]

end SQLParseElement

namespace Filling

/-- A query without defaults, with a list that is tied to no query. -/
structure Explicit (filling : Filling) (p : SQLQueryParms) : Prop where
  passed : filling.passed = some p
  unbound : p.bound = false
  noDefaults : filling.query.templateDefaults.elems = []
  initialised : ∀ S ∈ p.elems, S.Initialised

variable {self : Filling} {p : SQLQueryParms} (escape : Bytes → Bytes)

theorem Explicit.cells (explicit : self.Explicit p) (num : Nat) :
    self.cells num =
      match p.elems[num]? with
      | none => .missing
      | some S => .explicit S := by
  have noneLeft : ¬ num < self.query.templateDefaults.size := by
    rw [SQLQueryParms.size, explicit.noDefaults]
    exact Nat.not_lt_zero num
  by_cases short : num < p.size
  · have within : num < p.elems.length := short
    rw [List.getElem?_eq_getElem within]
    simp only [Filling.cells, select, explicit.passed, if_pos short, parms, Option.getD_some,
      explicit.unbound, Bool.false_eq_true, if_false, param, List.getD_eq_getElem?_getD,
      List.getElem?_eq_getElem within]
  · rw [List.getElem?_eq_none (Nat.not_lt.mp short)]
    simp only [Filling.cells, select, explicit.passed, if_neg short, if_neg noneLeft]

theorem Explicit.slotText (explicit : self.Explicit p)
    (segments : List (Segment UInt8 Nat UInt8)) (slot : Nat × UInt8) :
    slotText escape segments self.cells slot =
      Segment.textUnless (SQLParseElement.slotFailure p.elems slot)
        (SQLParseElement.parameterText escape p.elems slot) := by
  rw [LibTabula.slotText, explicit.cells, SQLParseElement.slotFailure,
    SQLParseElement.parameterText]
  cases found : p.elems[slot.1]? with
  | none => rfl
  | some S =>
      exact SQLTypeAdapter.rendered_eq escape slot.2
        (explicit.initialised S (List.mem_of_getElem? found))

/-- `str(p)`: what the elements say, or the first reason why one cannot be filled in. The
list stays as it is. -/
theorem Explicit.str_run (explicit : self.Explicit p) (template : self.query.parseElems ≠ []) :
    ((Filling.str escape).run self).final.passed = some p ∧
      ((Filling.str escape).run self).outcome =
        Segment.textUnless (self.query.parseElems.findSome? (SQLParseElement.failure p.elems))
          (self.query.parseElems.map (SQLParseElement.text escape p.elems)).flatten := by
  obtain ⟨after, kept, _cells, finished⟩ := Filling.str_run escape self template
  have failures : SQLParseElement.failure p.elems = fun elem =>
      elem.segment.slot.bind (SQLParseElement.slotFailure p.elems) :=
    funext (SQLParseElement.failure_eq p.elems)
  have texts : SQLParseElement.text escape p.elems = fun elem =>
      elem.segment.before ++ elem.segment.slot.elim []
        (SQLParseElement.parameterText escape p.elems) :=
    funext (SQLParseElement.text_eq escape p.elems)
  have filled := Segment.fill_eq fun slot
    (_member : slot ∈ Segment.slots (self.query.parseElems.map SQLParseElement.segment)) =>
      explicit.slotText escape (self.query.parseElems.map SQLParseElement.segment) slot
  rw [List.findSome?_map, List.map_map] at filled
  have unchanged : after.passed = some p := by
    obtain ⟨elems, passed, _length, same⟩ := kept.passed p explicit.passed
    rw [passed, same explicit.unbound]
  rw [failures, texts]
  rcases finished with ⟨text, filledText, ran⟩ | ⟨failure, failed, ran⟩
  · rw [ran]
    exact ⟨unchanged, filledText.symm.trans filled⟩
  · rw [ran]
    exact ⟨unchanged, failed.symm.trans filled⟩

/-- No parameter that an element refers to fails for its type. -/
def TypesKnown (self : Filling) (p : SQLQueryParms) : Prop :=
  ∀ elem ∈ self.query.parseElems, ∀ S, p.elems[elem.num.toNat]? = some S →
    S.formatFailure elem.option = none

theorem failure_of_typesKnown (known : self.TypesKnown p) {elem : SQLParseElement}
    (member : elem ∈ self.query.parseElems) :
    elem.failure p.elems = if (p.size : Int) ≤ elem.num then some tooFew else none := by
  rw [SQLParseElement.failure]
  by_cases negative : elem.num < 0
  · have inside : ¬ (p.size : Int) ≤ elem.num := by omega
    rw [if_pos negative, if_neg inside]
  · rw [if_neg negative, SQLParseElement.slotFailure]
    cases found : p.elems[elem.num.toNat]? with
    | none =>
        have outside : (p.size : Int) ≤ elem.num := by
          have past : p.size ≤ elem.num.toNat := List.getElem?_eq_none_iff.mp found
          omega
        rw [if_pos outside]
    | some S =>
        have inside : ¬ (p.size : Int) ≤ elem.num := by
          have short : elem.num.toNat < p.size := (List.getElem?_eq_some_iff.mp found).1
          omega
        rw [if_neg inside]
        exact known elem member S found

/-- Where the types are known, only a position past the end of the list can fail. -/
theorem Explicit.tooFew_iff (explicit : self.Explicit p) (template : self.query.parseElems ≠ [])
    (known : self.TypesKnown p) :
    ((Filling.str escape).run self).outcome = .error tooFew ↔
      ∃ elem ∈ self.query.parseElems, (p.size : Int) ≤ elem.num := by
  rw [(explicit.str_run escape template).2]
  constructor
  · intro failed
    cases found : self.query.parseElems.findSome? (SQLParseElement.failure p.elems) with
    | none =>
        rw [found] at failed
        cases failed
    | some failure =>
        obtain ⟨front, elem, back, split, fails, _earlier⟩ := List.findSome?_eq_some_iff.mp found
        have member : elem ∈ self.query.parseElems := by
          rw [split]
          exact List.mem_append_right _ List.mem_cons_self
        rw [failure_of_typesKnown known member] at fails
        refine ⟨elem, member, ?_⟩
        by_contra inside
        rw [if_neg inside] at fails
        cases fails
  · rintro ⟨elem, member, outside⟩
    cases found : self.query.parseElems.findSome? (SQLParseElement.failure p.elems) with
    | none =>
        have none := List.findSome?_eq_none_iff.mp found elem member
        rw [failure_of_typesKnown known member, if_pos outside] at none
        cases none
    | some failure =>
        obtain ⟨front, other, back, split, fails, _earlier⟩ := List.findSome?_eq_some_iff.mp found
        have otherMember : other ∈ self.query.parseElems := by
          rw [split]
          exact List.mem_append_right _ List.mem_cons_self
        rw [failure_of_typesKnown known otherMember] at fails
        split_ifs at fails
        rw [← Option.some.inj fails]
        rfl

end Filling

/-- `str(p)` for any elements and any list of the caller's. -/
theorem str_explicit (escape : Bytes → Bytes) (self : Filling) (p : SQLQueryParms)
    (explicit : self.Explicit p) :
    let result := (Filling.str escape).run self
    result.final.passed = some p ∧
      (self.query.parseElems = [] → result.outcome = .ok self.query.sbuffer) ∧
      (self.query.parseElems ≠ [] → result.outcome =
        Segment.textUnless (self.query.parseElems.findSome? (SQLParseElement.failure p.elems))
          (self.query.parseElems.map (SQLParseElement.text escape p.elems)).flatten) ∧
      (self.query.parseElems ≠ [] → self.TypesKnown p →
        (result.outcome = .error Filling.tooFew ↔
          ∃ elem ∈ self.query.parseElems, (p.size : Int) ≤ elem.num)) := by
  intro result
  by_cases template : self.query.parseElems = []
  · have ran : result = .ok self.query.sbuffer self := Filling.str_of_noElems escape template
    rw [ran]
    exact ⟨explicit.passed, fun _ => rfl, fun some => absurd template some,
      fun some => absurd template some⟩
  · obtain ⟨passed, outcome⟩ := explicit.str_run escape template
    exact ⟨passed, fun none => absurd none template, fun _ => outcome,
      fun _ known => explicit.tooFew_iff escape template known⟩

/-- A query with one element, `%0q`. -/
def quotedPosition : Query :=
  { Query.new 1 true [] with parseElems := [{ before := [], option := byte 'q', num := 0 }] }

def bitColumn : SQLTypeAdapter :=
  SQLTypeAdapter.ofBuffer { data := [1], type := { base := .unsupported, flags := tfDefault }
                            isNull := false } false

def fillingWith (query : Query) (arg : SQLTypeAdapter) : Filling :=
  { query := query, passed := some (SQLQueryParms.ofList [arg]) }

theorem explicit_fillingWith {query : Query} (noDefaults : query.templateDefaults.elems = [])
    {arg : SQLTypeAdapter} (initialised : arg.Initialised) :
    (fillingWith query arg).Explicit (SQLQueryParms.ofList [arg]) where
  passed := rfl
  unbound := rfl
  noDefaults := noDefaults
  initialised := List.forall_mem_singleton.mpr initialised

/-- A query with `%1q`, `%0q` and `%1q` again. -/
def repeatedPositions : Query :=
  { Query.new 1 true [] with
    parseElems :=
      [{ before := ascii "a = ", option := byte 'q', num := 1 },
        { before := ascii ", b = ", option := byte 'q', num := 0 },
        { before := ascii ", c = ", option := byte 'q', num := 1 }] }

def twoStrings : SQLQueryParms :=
  SQLQueryParms.ofList
    [SQLTypeAdapter.ofString (ascii "x") false, SQLTypeAdapter.ofString (ascii "it's") false]

theorem str_explicit_repeatedPositions :
    let filling : Filling := { query := repeatedPositions, passed := some twoStrings }
    let result := (Filling.str SQLStream.escapeText).run filling
    result.final.passed = some twoStrings ∧
      result.outcome = .ok (ascii "a = 'it\\'s', b = 'x', c = 'it\\'s'") ∧
      (result.outcome = .error Filling.tooFew ↔
        ∃ elem ∈ repeatedPositions.parseElems, (2 : Int) ≤ elem.num) := by
  intro filling result
  have explicit : filling.Explicit twoStrings := by
    have all : twoStrings.elems.all (fun arg => arg.buffer.isSome) = true := by decide
    refine ⟨rfl, rfl, rfl, ?_⟩
    intro arg member
    exact List.all_eq_true.mp all arg member
  obtain ⟨passed, _plain, text, tooFew⟩ := str_explicit SQLStream.escapeText filling _ explicit
  refine ⟨passed, text (by decide), tooFew (by decide) ?_⟩
  intro elem member S found
  simp only [filling, repeatedPositions, List.mem_cons, List.not_mem_nil, or_false] at member
  rcases member with rfl | rfl | rfl
  · cases found
    rfl
  · cases found
    rfl
  · cases found
    rfl

/-- The position is within the list, and yet there is no text: the value of a BIT
column has no entry in the type table. And where nothing was parsed, the text is the
query's own. -/
theorem bitColumn_not_rendered :
    (fillingWith quotedPosition bitColumn).Explicit (SQLQueryParms.ofList [bitColumn]) ∧
      (∀ elem ∈ quotedPosition.parseElems, 0 ≤ elem.num ∧ elem.num < 1) ∧
      ((Filling.str SQLStream.escapeText).run (fillingWith quotedPosition bitColumn)).outcome =
        .error (.typeLookupFailed
          "FieldType::annotate() called before object fully initted") ∧
      ((Filling.str SQLStream.escapeText).run
          (fillingWith (Query.new 1 true (ascii "SELECT 1")) bitColumn)).outcome =
        .ok (ascii "SELECT 1") :=
  ⟨explicit_fillingWith rfl rfl, by decide, rfl, rfl⟩

end LibTabula
