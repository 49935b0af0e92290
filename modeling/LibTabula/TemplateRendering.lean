/-
Filling in a template.

`proc` writes the elements of a template one after another. A parameter passed to
it is formatted in a copy; a default is formatted in place and marked as
processed, and from then on stands for itself. The model keeps both lists in its
state. How a default fares over a whole template is the business of
`Foundation.Segment.run`, which the loop is shown to follow.
-/

import LibTabula.QueryTemplate
import Mathlib.Tactic.SplitIfs
import LibTabula.Foundation.SlotTemplate

set_option autoImplicit false

namespace LibTabula

open Foundation

namespace Query

def inQuotes (quote : Bool) (text : Bytes) : Bytes :=
  let quotes := if quote then [byte '\''] else []
  quotes ++ text ++ quotes

/-- The end of `pprepare` that replaces `S` by the formatted text or leaves it. -/
def prepared (temp : Bytes) (S : SQLTypeAdapter) (replace : Bool) :
    SQLTypeAdapter × SQLTypeAdapter :=
  let ss := SQLTypeAdapter.ofString temp false
  if replace then (ss.copy.setProcessed, ss.copy.setProcessed) else (ss, S)

def unprepared (S : SQLTypeAdapter) (replace : Bool) : SQLTypeAdapter × SQLTypeAdapter :=
  if replace then (S.setProcessed, S.setProcessed) else (S, S)

/-- `pprepare()`: the adapter to insert, and `S` afterwards. `escape` is the
driver's `escape_string`. -/
def pprepare (escape : Bytes → Bytes) (option : UInt8) (S : SQLTypeAdapter) (replace : Bool) :
    Except Failure (SQLTypeAdapter × SQLTypeAdapter) :=
  if S.isProcessed then .ok (S, S)
  else if option = byte 'q' then
    S.quoteQ.map fun quote =>
      prepared (inQuotes quote (if S.escapeQ then escape S.data else S.data)) S replace
  else if option = byte 'Q' then
    S.quoteQ.map fun quote =>
      if quote then prepared (inQuotes true S.data) S replace else unprepared S replace
  else .ok (unprepared S replace)

end Query

/-- Which list a parameter is taken from. -/
inductive Source
  | passed
  | defaults
deriving DecidableEq, Repr

/-- What `proc` works on: the query, and the list passed to it if that is not the
query's own. -/
structure Filling where
  query : Query
  passed : Option SQLQueryParms

namespace Filling

def write (self : Filling) (text : Bytes) : Filling :=
  { self with query := self.query.write text }

def parms (self : Filling) : Source → SQLQueryParms
  | .passed => self.passed.getD SQLQueryParms.empty
  | .defaults => self.query.templateDefaults

def select (self : Filling) (num : Nat) : Option Source :=
  match self.passed with
  | some p =>
      if num < p.size then some .passed
      else if num < self.query.templateDefaults.size then some .defaults
      else none
  | none => if num < self.query.templateDefaults.size then some .defaults else none

def param (self : Filling) (c : Source) (num : Nat) : SQLTypeAdapter :=
  (self.parms c).elems.getD num SQLTypeAdapter.default

/-- Assigns to a parameter through the reference that `proc` holds. -/
def put (self : Filling) (c : Source) (num : Nat) (S : SQLTypeAdapter) : Filling :=
  match c with
  | .passed =>
      { self with
        passed := self.passed.map fun p => { p with elems := p.elems.set num S } }
  | .defaults =>
      { self with
        query :=
          { self.query with
            templateDefaults :=
              { self.query.templateDefaults with
                elems := self.query.templateDefaults.elems.set num S } } }

def tooFew : Failure := .badParamCount "Not enough parameters to fill the template."

variable (escape : Bytes → Bytes)

/-- The part of the loop body of `proc` for an element with a position. -/
def procParam (option : UInt8) (num : Nat) : EStateM Failure Filling Unit := do
  let self ← get
  match self.select num with
  | none =>
      set (self.write (ascii " ERROR"))
      throw tooFew
  | some c =>
      let null ← ofExcept (self.param c num).isNull
      if null then set (self.write (ascii "NULL"))
      else
        let formatted ←
          ofExcept (Query.pprepare escape option (self.param c num) (self.parms c).bound)
        set ((self.put c num formatted.2).write formatted.1.data)

def procElem (elem : SQLParseElement) : EStateM Failure Filling Unit := do
  modify fun self => self.write elem.before
  if 0 ≤ elem.num then procParam escape elem.option elem.num.toNat

def procLoop : List SQLParseElement → EStateM Failure Filling Unit
  | [] => pure ()
  | elem :: rest => do
      procElem escape elem
      procLoop rest

def proc : EStateM Failure Filling Unit := do
  modify fun self => { self with query := { self.query with sbuffer := [] } }
  let self ← get
  procLoop escape self.query.parseElems

/-- `str(SQLQueryParms&)`. -/
def str : EStateM Failure Filling Bytes := do
  let self ← get
  if self.query.parseElems ≠ [] then proc escape
  let self ← get
  return self.query.sbuffer

end Filling

/-- `str(p)` with a list that the caller drops afterwards; `none` stands for
`template_defaults` and so for `str()`. -/
def Query.str (escape : Bytes → Bytes) (passed : Option SQLQueryParms) :
    EStateM Failure Query Bytes := fun self =>
  match (Filling.str escape).run { query := self, passed := passed } with
  | .ok text after => .ok text after.query
  | .error failure after => .error failure after.query

/-! ### One parameter -/

/-- The text that stands for a parameter when it is formatted with an option. -/
def rendered (escape : Bytes → Bytes) (option : UInt8) (S : SQLTypeAdapter) :
    Except Failure Bytes :=
  match S.isNull with
  | .error failure => .error failure
  | .ok true => .ok (ascii "NULL")
  | .ok false => (Query.pprepare escape option S false).map fun formatted => formatted.1.data

inductive Cell
  | missing
  | explicit (S : SQLTypeAdapter)
  | inPlace (S : SQLTypeAdapter)

namespace Cell

variable (escape : Bytes → Bytes)

/-- Formatting what a position refers to: the text, and what is there then. -/
def use (option : UInt8) : Cell → Except Failure (Bytes × Cell)
  | missing => .error Filling.tooFew
  | explicit S => (rendered escape option S).map fun text => (text, explicit S)
  | inPlace S =>
      match S.isNull with
      | .error failure => .error failure
      | .ok true => .ok (ascii "NULL", inPlace S)
      | .ok false =>
          (Query.pprepare escape option S true).map
            fun formatted => (formatted.1.data, inPlace formatted.2)

def steady : Cell → Bool
  | inPlace _ => false
  | _ => true

theorem prepared_data (temp : Bytes) (S : SQLTypeAdapter) (replace : Bool) :
    (Query.prepared temp S replace).1.data = temp := by
  unfold Query.prepared
  cases replace <;> rfl

theorem unprepared_data (S : SQLTypeAdapter) (replace : Bool) :
    (Query.unprepared S replace).1.data = S.data := by
  unfold Query.unprepared
  cases replace <;> rfl

theorem pprepare_data (option : UInt8) (S : SQLTypeAdapter) (replace : Bool) :
    (Query.pprepare escape option S replace).map (fun formatted => formatted.1.data) =
      (Query.pprepare escape option S false).map fun formatted => formatted.1.data := by
  unfold Query.pprepare
  by_cases processed : S.isProcessed = true
  · rw [if_pos processed, if_pos processed]
  · rw [if_neg processed, if_neg processed]
    by_cases q : option = byte 'q'
    · rw [if_pos q, if_pos q]
      cases S.quoteQ with
      | error failure => rfl
      | ok quote =>
          simp only [Except.map, prepared_data]
    · rw [if_neg q, if_neg q]
      by_cases Q : option = byte 'Q'
      · rw [if_pos Q, if_pos Q]
        cases S.quoteQ with
        | error failure => rfl
        | ok quote => cases quote <;> simp [Except.map, prepared_data, unprepared_data]
      · rw [if_neg Q, if_neg Q]
        simp only [Except.map, unprepared_data]

/-- What a call that succeeds comes to: a processed adapter as it is, or one of the two ends. -/
theorem pprepare_cases {option : UInt8} {S inserted after : SQLTypeAdapter} {replace : Bool}
    (formatted : Query.pprepare escape option S replace = .ok (inserted, after)) :
    (S.isProcessed = true ∧ inserted = S ∧ after = S) ∨
      (∃ temp, Query.prepared temp S replace = (inserted, after)) ∨
      Query.unprepared S replace = (inserted, after) := by
  unfold Query.pprepare at formatted
  by_cases processed : S.isProcessed = true
  · rw [if_pos processed] at formatted
    cases formatted
    exact .inl ⟨processed, rfl, rfl⟩
  · rw [if_neg processed] at formatted
    right
    by_cases q : option = byte 'q'
    · rw [if_pos q] at formatted
      obtain ⟨quote, _, ended⟩ := exists_of_map_ok formatted
      exact .inl ⟨_, ended⟩
    · rw [if_neg q] at formatted
      by_cases Q : option = byte 'Q'
      · rw [if_pos Q] at formatted
        obtain ⟨quote, _, ended⟩ := exists_of_map_ok formatted
        cases quote with
        | true => exact .inl ⟨_, ended⟩
        | false => exact .inr ended
      · rw [if_neg Q] at formatted
        exact .inr (Except.ok.inj formatted)

theorem pprepare_unchanged {option : UInt8} {S inserted after : SQLTypeAdapter}
    (formatted : Query.pprepare escape option S false = .ok (inserted, after)) : after = S := by
  rcases pprepare_cases escape formatted with ⟨_, _, same⟩ | ⟨temp, ended⟩ | ended
  · exact same
  · cases ended
    rfl
  · cases ended
    rfl

theorem pprepare_processed {option : UInt8} {S inserted after : SQLTypeAdapter}
    (formatted : Query.pprepare escape option S true = .ok (inserted, after)) :
    inserted = after ∧ after.isProcessed = true ∧
      (S.isNull = .ok false → after.isNull = .ok false) := by
  rcases pprepare_cases escape formatted with ⟨processed, same, unchanged⟩ | ⟨temp, ended⟩ | ended
  · rw [same, unchanged]
    exact ⟨rfl, processed, fun notNull => notNull⟩
  · cases ended
    exact ⟨rfl, rfl, fun _ => rfl⟩
  · cases ended
    exact ⟨rfl, rfl, fun notNull => notNull⟩

theorem use_inPlace_text (option : UInt8) (S : SQLTypeAdapter) :
    (use escape option (inPlace S)).map Prod.fst = rendered escape option S := by
  simp only [use, rendered]
  cases S.isNull with
  | error failure => rfl
  | ok null =>
      cases null with
      | true => rfl
      | false =>
          have same := pprepare_data escape option S true
          rw [← same]
          cases Query.pprepare escape option S true <;> rfl

theorem use_explicit_text (option : UInt8) (S : SQLTypeAdapter) :
    (use escape option (explicit S)).map Prod.fst = rendered escape option S := by
  simp only [use]
  cases rendered escape option S <;> rfl

/-- A cell formatted in place is settled by that: it has the same text from then
on, whatever the option. -/
theorem use_settles {option : UInt8} {S : SQLTypeAdapter} {text : Bytes} {cell : Cell}
    (used : use escape option (inPlace S) = .ok (text, cell)) (other : UInt8) :
    use escape other cell = .ok (text, cell) := by
  simp only [use] at used
  cases null : S.isNull with
  | error failure =>
      rw [null] at used
      cases used
  | ok isNull =>
      rw [null] at used
      cases isNull with
      | true =>
          cases used
          simp only [use, null]
      | false =>
          obtain ⟨result, formatted, ended⟩ := exists_of_map_ok used
          obtain ⟨inserted, after⟩ := result
          cases ended
          obtain ⟨rfl, processed, notNull⟩ := pprepare_processed escape formatted
          simp only [use, notNull null, Query.pprepare, if_pos processed, Except.map]

theorem settling (cells : Nat → Cell) :
    Segment.Settling (use escape) (fun num => (cells num).steady) cells where
  keeps num option text cell kind used := by
    cases place : cells num with
    | missing =>
        rw [place] at used
        cases used
    | explicit S =>
        rw [place, use] at used
        cases text : rendered escape option S with
        | error failure =>
            rw [text] at used
            cases used
        | ok text =>
            rw [text] at used
            cases used
            rfl
    | inPlace S =>
        rw [place] at kind
        cases kind
  settles num option text cell kind used other := by
    cases place : cells num with
    | missing =>
        rw [place] at kind
        cases kind
    | explicit S =>
        rw [place] at kind
        cases kind
    | inPlace S =>
        rw [place] at used
        exact use_settles escape used other

end Cell

/-! ### The loop -/

/-- An element as a segment of a template. A negative position is no slot. -/
def SQLParseElement.segment (elem : SQLParseElement) : Segment UInt8 Nat UInt8 :=
  { before := elem.before
    slot := if 0 ≤ elem.num then some (elem.num.toNat, elem.option) else none }

namespace Filling

def cells (self : Filling) (num : Nat) : Cell :=
  match self.select num with
  | none => .missing
  | some c =>
      if (self.parms c).bound then .inPlace (self.param c num) else .explicit (self.param c num)

/-- What filling in a template leaves alone: everything but the text and the
parameters, and of these the ones that are only copied and the defaults that are
not needed. -/
structure Kept (before after : Filling) : Prop where
  query : ∃ text elems,
    after.query = { before.query with
      sbuffer := text
      templateDefaults := { before.query.templateDefaults with elems := elems } } ∧
    elems.length = before.query.templateDefaults.elems.length
  passed : ∀ p, before.passed = some p →
    ∃ elems, after.passed = some { p with elems := elems } ∧ elems.length = p.elems.length ∧
      (p.bound = false → elems = p.elems)
  none : before.passed = none → after.passed = none
  shadowed : ∀ p, before.passed = some p → ∀ num < p.size,
    after.query.templateDefaults.elems[num]? = before.query.templateDefaults.elems[num]?

theorem Kept.refl (self : Filling) : Kept self self where
  query := ⟨_, _, rfl, rfl⟩
  passed p given := ⟨p.elems, given, rfl, fun _ => rfl⟩
  none given := given
  shadowed _ _ _ _ := rfl

theorem Kept.trans {before middle after : Filling} (first : Kept before middle)
    (second : Kept middle after) : Kept before after := by
  constructor
  · obtain ⟨_text, elems, query, length⟩ := first.query
    obtain ⟨text, others, queryAfter, lengthAfter⟩ := second.query
    refine ⟨text, others, ?_, ?_⟩
    · rw [queryAfter, query]
    · rw [lengthAfter, query]
      exact length
  · intro p given
    obtain ⟨elems, passed, length, unchanged⟩ := first.passed p given
    obtain ⟨others, passedAfter, lengthAfter, unchangedAfter⟩ := second.passed _ passed
    refine ⟨others, passedAfter, lengthAfter.trans length, ?_⟩
    intro unbound
    rw [unchangedAfter unbound]
    exact unchanged unbound
  · intro given
    exact second.none (first.none given)
  · intro p given num short
    obtain ⟨elems, passed, length, _unchanged⟩ := first.passed p given
    rw [second.shadowed _ passed num (Nat.lt_of_lt_of_eq short length.symm),
      first.shadowed p given num short]

theorem Kept.write (self : Filling) (text : Bytes) : Kept self (self.write text) where
  query := ⟨_, _, rfl, rfl⟩
  passed p given := ⟨p.elems, given, rfl, fun _ => rfl⟩
  none given := given
  shadowed _ _ _ _ := rfl

@[simp] theorem cells_write (self : Filling) (text : Bytes) :
    (self.write text).cells = self.cells :=
  rfl

@[simp] theorem sbuffer_write (self : Filling) (text : Bytes) :
    (self.write text).query.sbuffer = self.query.sbuffer ++ text :=
  rfl

@[simp] theorem sbuffer_put (self : Filling) (c : Source) (num : Nat) (S : SQLTypeAdapter) :
    (self.put c num S).query.sbuffer = self.query.sbuffer := by
  cases c <;> rfl

theorem Kept.put_bound {self : Filling} {c : Source} (bound : (self.parms c).bound = true)
    {num : Nat} (selected : self.select num = some c) (S : SQLTypeAdapter) :
    Kept self (self.put c num S) := by
  cases c with
  | passed =>
      constructor
      · exact ⟨_, _, rfl, rfl⟩
      · intro p given
        refine ⟨p.elems.set num S, ?_, List.length_set, ?_⟩
        · simp only [put, given, Option.map_some]
        · intro unbound
          rw [parms, given, Option.getD_some, unbound] at bound
          cases bound
      · intro given
        simp only [put, given, Option.map_none]
      · intro p given other short
        rfl
  | defaults =>
      constructor
      · exact ⟨_, _, rfl, List.length_set⟩
      · intro p given
        exact ⟨p.elems, given, rfl, fun _ => rfl⟩
      · intro given
        exact given
      · intro p given other short
        have elsewhere : num ≠ other := by
          intro same
          subst same
          rw [select, given] at selected
          simp only [if_pos short] at selected
          cases selected
        exact List.getElem?_set_ne elsewhere

theorem lt_of_select {self : Filling} {num : Nat} {c : Source}
    (selected : self.select num = some c) : num < (self.parms c).elems.length := by
  unfold select at selected
  cases given : self.passed with
  | none =>
      simp only [given] at selected
      split_ifs at selected with short
      cases selected
      exact short
  | some p =>
      simp only [given] at selected
      split_ifs at selected with inPassed short
      · cases selected
        rw [parms, given]
        exact inPassed
      · cases selected
        exact short

theorem put_param {self : Filling} {num : Nat} {c : Source}
    (selected : self.select num = some c) : self.put c num (self.param c num) = self := by
  have within := lt_of_select selected
  have same : (self.parms c).elems.set num (self.param c num) = (self.parms c).elems := by
    rw [param, List.getD_eq_getElem?_getD, List.getElem?_eq_getElem within, Option.getD_some,
      List.set_getElem_self]
  cases c with
  | passed =>
      cases given : self.passed with
      | none =>
          rw [parms, given] at within
          cases within
      | some p =>
          rw [parms, given] at same
          rw [put, given, Option.map_some]
          rw [show p.elems.set num (self.param .passed num) = p.elems from same]
          cases self
          simp only at given
          rw [given]
  | defaults =>
      rw [put]
      rw [show self.query.templateDefaults.elems.set num (self.param .defaults num) =
        self.query.templateDefaults.elems from same]

theorem size_set (p : SQLQueryParms) (num : Nat) (S : SQLTypeAdapter) :
    SQLQueryParms.size { p with elems := p.elems.set num S } = p.size :=
  List.length_set

theorem select_put (self : Filling) (c : Source) (num other : Nat) (S : SQLTypeAdapter) :
    (self.put c num S).select other = self.select other := by
  cases c with
  | passed =>
      cases given : self.passed <;>
        simp only [select, put, given, Option.map_some, Option.map_none, size_set]
  | defaults => simp only [select, put, size_set]

theorem bound_put (self : Filling) (c other : Source) (num : Nat) (S : SQLTypeAdapter) :
    ((self.put c num S).parms other).bound = (self.parms other).bound := by
  cases c with
  | passed =>
      cases other with
      | passed => cases given : self.passed <;> simp only [put, parms, given] <;> rfl
      | defaults => rfl
  | defaults => cases other <;> rfl

theorem param_put {self : Filling} {num : Nat} {c : Source}
    (selected : self.select num = some c) (S : SQLTypeAdapter) (place : Source) (other : Nat) :
    (self.put c num S).param place other =
      if place = c ∧ other = num then S else self.param place other := by
  have within := lt_of_select selected
  have setting : ∀ elems : List SQLTypeAdapter, num < elems.length →
      (elems.set num S).getD other SQLTypeAdapter.default =
        if other = num then S else elems.getD other SQLTypeAdapter.default := by
    intro elems short
    simp only [List.getD_eq_getElem?_getD, List.getElem?_set, short, if_true]
    by_cases same : num = other
    · rw [if_pos same, if_pos same.symm]
      rfl
    · rw [if_neg same, if_neg (Ne.symm same)]
  cases c with
  | passed =>
      cases place with
      | passed =>
          cases given : self.passed with
          | none =>
              rw [parms, given] at within
              cases within
          | some p =>
              rw [parms, given] at within
              simp only [param, parms, put, given, Option.map_some, Option.getD_some,
                setting p.elems within, true_and]
      | defaults => simp [param, parms, put]
  | defaults =>
      cases place with
      | passed => simp [param, parms, put]
      | defaults =>
          simp only [param, parms, put, true_and]
          exact setting _ within

theorem cells_put {self : Filling} {num : Nat} {c : Source}
    (selected : self.select num = some c) (S : SQLTypeAdapter) :
    (self.put c num S).cells = Function.update self.cells num
      (if (self.parms c).bound then .inPlace S else .explicit S) := by
  funext other
  by_cases same : other = num
  · subst other
    rw [Function.update_self, cells, select_put, selected]
    simp only [bound_put, param_put selected, and_self, if_true]
  · rw [Function.update_of_ne same, cells, select_put, cells]
    cases self.select other with
    | none => rfl
    | some place => simp only [bound_put, param_put selected, same, and_false, if_false]

variable (escape : Bytes → Bytes)

/-- What a slot does to the parameters and the buffer is what it does to its cell. -/
def UsesCell (option : UInt8) (num : Nat) (self : Filling) : Prop :=
  ∃ after, Kept self after ∧
    ((∃ text cell, Cell.use escape option (self.cells num) = .ok (text, cell) ∧
        (procParam escape option num).run self = .ok () after ∧
        after.query.sbuffer = self.query.sbuffer ++ text ∧
        after.cells = Function.update self.cells num cell) ∨
      (∃ failure, Cell.use escape option (self.cells num) = .error failure ∧
        (procParam escape option num).run self = .error failure after ∧
        after.cells = self.cells))

section Selected

variable (option : UInt8) {num : Nat} {self : Filling} {c : Source}
  (selected : self.select num = some c)

include selected

theorem cells_of_selected : self.cells num = if (self.parms c).bound
    then .inPlace (self.param c num) else .explicit (self.param c num) := by
  rw [cells, selected]

theorem usesCell_of_nullFailure {failure : Failure}
    (null : (self.param c num).isNull = .error failure) : UsesCell escape option num self := by
  refine ⟨self, Kept.refl self, Or.inr ⟨failure, ?_, ?_, rfl⟩⟩
  · rw [cells_of_selected selected]
    cases (self.parms c).bound <;> simp [Cell.use, rendered, null, Except.map]
  · simp [procParam, selected, null]

theorem usesCell_of_null (null : (self.param c num).isNull = .ok true) :
    UsesCell escape option num self := by
  refine ⟨self.write (ascii "NULL"), Kept.write self _,
    Or.inl ⟨ascii "NULL", self.cells num, ?_, ?_, rfl, (Function.update_eq_self num _).symm⟩⟩
  · rw [cells_of_selected selected]
    cases (self.parms c).bound <;> simp [Cell.use, rendered, null, Except.map]
  · simp [procParam, selected, null]

/-- A default is replaced, in place, by what it is prepared to. -/
theorem usesCell_of_bound (null : (self.param c num).isNull = .ok false)
    (kind : (self.parms c).bound = true) : UsesCell escape option num self := by
  have here := cells_of_selected selected
  rw [kind, if_pos rfl] at here
  cases formatted : Query.pprepare escape option (self.param c num) true with
  | error failure =>
      refine ⟨self, Kept.refl self, Or.inr ⟨failure, ?_, ?_, rfl⟩⟩
      · simp [here, Cell.use, null, formatted, Except.map]
      · simp [procParam, selected, null, kind, formatted]
  | ok result =>
      obtain ⟨inserted, S⟩ := result
      refine ⟨(self.put c num S).write inserted.data,
        (Kept.put_bound kind selected S).trans (Kept.write _ _),
        Or.inl ⟨inserted.data, .inPlace S, ?_, ?_, ?_, ?_⟩⟩
      · simp [here, Cell.use, null, formatted, Except.map]
      · simp [procParam, selected, null, kind, formatted]
      · rw [sbuffer_write, sbuffer_put]
      · rw [cells_write, cells_put selected, kind, if_pos rfl]

/-- An explicit parameter stays. -/
theorem usesCell_of_unbound (null : (self.param c num).isNull = .ok false)
    (kind : (self.parms c).bound = false) : UsesCell escape option num self := by
  have here := cells_of_selected selected
  rw [kind, if_neg Bool.false_ne_true] at here
  cases formatted : Query.pprepare escape option (self.param c num) false with
  | error failure =>
      refine ⟨self, Kept.refl self, Or.inr ⟨failure, ?_, ?_, rfl⟩⟩
      · simp [here, Cell.use, rendered, null, formatted, Except.map]
      · simp [procParam, selected, null, kind, formatted]
  | ok result =>
      obtain ⟨inserted, S⟩ := result
      have unchanged := Cell.pprepare_unchanged escape formatted
      refine ⟨self.write inserted.data, Kept.write self _,
        Or.inl ⟨inserted.data, self.cells num, ?_, ?_, rfl,
          (Function.update_eq_self num _).symm⟩⟩
      · simp [here, Cell.use, rendered, null, formatted, Except.map]
      · simp [procParam, selected, null, kind, formatted, unchanged, put_param selected]

end Selected

theorem procParam_run (option : UInt8) (num : Nat) (self : Filling) :
    UsesCell escape option num self := by
  cases selected : self.select num with
  | none =>
      refine ⟨self.write (ascii " ERROR"), Kept.write self _, Or.inr ⟨tooFew, ?_, ?_, rfl⟩⟩
      · simp only [cells, selected, Cell.use]
      · simp [procParam, selected]
  | some c =>
      cases null : (self.param c num).isNull with
      | error failure => exact usesCell_of_nullFailure escape option selected null
      | ok isNull =>
          cases isNull with
          | true => exact usesCell_of_null escape option selected null
          | false =>
              cases kind : (self.parms c).bound with
              | true => exact usesCell_of_bound escape option selected null kind
              | false => exact usesCell_of_unbound escape option selected null kind

theorem procElem_literal {elem : SQLParseElement} (literal : elem.segment.slot = none)
    (self : Filling) : (procElem escape elem).run self = .ok () (self.write elem.before) := by
  have negative : ¬ 0 ≤ elem.num := by
    intro position
    rw [SQLParseElement.segment, if_pos position] at literal
    cases literal
  simp [procElem, negative]

theorem procElem_slot {elem : SQLParseElement} {num : Nat} {option : UInt8}
    (slot : elem.segment.slot = some (num, option)) (self : Filling) :
    (procElem escape elem).run self =
      (procParam escape option num).run (self.write elem.before) := by
  have position : 0 ≤ elem.num := by
    by_contra negative
    rw [SQLParseElement.segment, if_neg negative] at slot
    cases slot
  rw [SQLParseElement.segment, if_pos position] at slot
  cases slot
  simp [procElem, position]

/-- The loop makes of a template and the parameters what `Segment.run` makes of
them. -/
theorem procLoop_run (elems : List SQLParseElement) (self : Filling) :
    ∃ after, Kept self after ∧
      after.cells =
        (Segment.run (Cell.use escape) (elems.map SQLParseElement.segment) self.cells).2 ∧
      ((∃ text,
          (Segment.run (Cell.use escape) (elems.map SQLParseElement.segment) self.cells).1 =
            .ok text ∧
          (procLoop escape elems).run self = .ok () after ∧
          after.query.sbuffer = self.query.sbuffer ++ text) ∨
        (∃ failure,
          (Segment.run (Cell.use escape) (elems.map SQLParseElement.segment) self.cells).1 =
            .error failure ∧
          (procLoop escape elems).run self = .error failure after)) := by
  induction elems generalizing self with
  | nil =>
      exact ⟨self, Kept.refl self, rfl,
        Or.inl ⟨[], rfl, rfl, (List.append_nil _).symm⟩⟩
  | cons elem rest ih =>
      rw [List.map_cons]
      cases slot : elem.segment.slot with
      | none =>
          have first := procElem_literal escape slot self
          obtain ⟨after, kept, cells, finished⟩ := ih (self.write elem.before)
          refine ⟨after, (Kept.write self elem.before).trans kept, ?_, ?_⟩
          · rw [cells, Segment.run_cons_none _ slot]
            rfl
          · rw [Segment.run_cons_none _ slot]
            rcases finished with ⟨text, filled, ran, buffer⟩ | ⟨failure, failed, ran⟩
            · refine Or.inl ⟨elem.before ++ text, ?_, ?_, ?_⟩
              · rw [cells_write] at filled
                rw [filled]
                rfl
              · rw [procLoop, run_bind_of_ok first, ran]
              · rw [buffer, sbuffer_write, List.append_assoc]
            · refine Or.inr ⟨failure, ?_, ?_⟩
              · rw [cells_write] at failed
                rw [failed]
                rfl
              · rw [procLoop, run_bind_of_ok first, ran]
      | some key =>
          obtain ⟨num, option⟩ := key
          have first := procElem_slot escape slot self
          obtain ⟨middle, keptFirst, step⟩ :=
            procParam_run escape option num (self.write elem.before)
          rcases step with ⟨text, cell, used, ran, buffer, cells⟩ | ⟨failure, failed, ran, cells⟩
          · rw [ran] at first
            rw [cells_write] at used cells
            obtain ⟨after, kept, cellsAfter, finished⟩ := ih middle
            rw [cells] at cellsAfter finished
            rw [Segment.run_cons_ok _ slot used]
            refine ⟨after, (Kept.write self _).trans (keptFirst.trans kept), cellsAfter, ?_⟩
            rcases finished with ⟨tail, filled, ranRest, bufferRest⟩ | ⟨failure, failed, ranRest⟩
            · refine Or.inl ⟨elem.before ++ text ++ tail, ?_, ?_, ?_⟩
              · rw [filled]
                rfl
              · rw [procLoop, run_bind_of_ok first, ranRest]
              · rw [bufferRest, buffer, sbuffer_write]
                simp only [List.append_assoc]
            · refine Or.inr ⟨failure, ?_, ?_⟩
              · rw [failed]
                rfl
              · rw [procLoop, run_bind_of_ok first, ranRest]
          · rw [ran] at first
            rw [cells_write] at failed cells
            rw [Segment.run_cons_error _ slot failed]
            refine ⟨middle, (Kept.write self _).trans keptFirst, cells,
              Or.inr ⟨failure, rfl, ?_⟩⟩
            rw [procLoop, run_bind_of_error first]

end Filling

/-! ### Whole templates -/

def ParsedTemplate.segments (self : ParsedTemplate) : List (Segment UInt8 Nat UInt8) :=
  self.elems.map SQLParseElement.segment

/-- What a slot says: an explicit parameter by the slot's own option, a default by
the option of the first slot for it. -/
def slotText (escape : Bytes → Bytes) (segments : List (Segment UInt8 Nat UInt8))
    (cells : Nat → Cell) (slot : Nat × UInt8) : Except Failure Bytes :=
  match cells slot.1 with
  | .missing => .error Filling.tooFew
  | .explicit S => rendered escape slot.2 S
  | .inPlace S => rendered escape ((Segment.firstOption segments slot.1).getD slot.2) S

theorem settledText_eq (escape : Bytes → Bytes) (segments : List (Segment UInt8 Nat UInt8))
    (cells : Nat → Cell) (slot : Nat × UInt8) :
    Segment.settledText (Cell.use escape) (fun num => (cells num).steady) segments cells slot =
      slotText escape segments cells slot := by
  cases place : cells slot.1 with
  | missing =>
      simp only [Segment.settledText, slotText, place]
      rfl
  | explicit S =>
      simp only [Segment.settledText, slotText, place, Cell.steady, if_true]
      exact Cell.use_explicit_text escape slot.2 S
  | inPlace S =>
      simp only [Segment.settledText, slotText, place, Cell.steady, Bool.false_eq_true, if_false]
      exact Cell.use_inPlace_text escape _ S

/-- The number of positions that a list passed to `str` covers. -/
def passedSize : Option SQLQueryParms → Nat
  | some p => p.size
  | none => 0

theorem select_behind {self : Filling} {num : Nat} (behind : passedSize self.passed ≤ num) :
    self.select num =
      if num < self.query.templateDefaults.size then some .defaults else none := by
  cases given : self.passed with
  | none => rw [Filling.select, given]
  | some p =>
      rw [given] at behind
      have notInList : ¬ num < p.size := Nat.not_lt.mpr behind
      simp only [Filling.select, given, if_neg notInList]

variable (escape : Bytes → Bytes)

/-- Where nothing was parsed, the text is the query's own. -/
theorem Filling.str_of_noElems {self : Filling} (plain : self.query.parseElems = []) :
    (Filling.str escape).run self = .ok self.query.sbuffer self := by
  simp only [Filling.str, plain, EStateM.run_bind, EStateM.run_get]
  rfl

theorem Filling.str_of_elems {self : Filling} (template : self.query.parseElems ≠ []) :
    (Filling.str escape).run self =
      EStateM.run (do
        Filling.procLoop escape self.query.parseElems
        let self ← get
        return self.query.sbuffer) { self with query := { self.query with sbuffer := [] } } := by
  simp [Filling.str, template, Filling.proc]

/-- `str(p)` of a template: the outcome, and what becomes of the query and the list. -/
theorem Filling.str_run (self : Filling) (template : self.query.parseElems ≠ []) :
    let segments := self.query.parseElems.map SQLParseElement.segment
    ∃ after, Filling.Kept self after ∧
      after.cells = (Segment.run (Cell.use escape) segments self.cells).2 ∧
      ((∃ text, Segment.fill (slotText escape segments self.cells) segments = .ok text ∧
          (Filling.str escape).run self = .ok text after) ∨
        (∃ failure, Segment.fill (slotText escape segments self.cells) segments =
            .error failure ∧
          (Filling.str escape).run self = .error failure after)) := by
  intro segments
  have emptied : Filling.Kept self { self with query := { self.query with sbuffer := [] } } :=
    ⟨⟨_, _, rfl, rfl⟩, fun p given => ⟨p.elems, given, rfl, fun _ => rfl⟩, fun given => given,
      fun _ _ _ _ => rfl⟩
  obtain ⟨after, kept, cells, finished⟩ := Filling.procLoop_run escape self.query.parseElems
    { self with query := { self.query with sbuffer := [] } }
  have whole := Segment.run_eq_fill (Cell.settling escape self.cells) segments
  rw [Segment.fill_congr fun slot _member => settledText_eq escape segments _ slot] at whole
  have sameCells : Filling.cells { self with query := { self.query with sbuffer := [] } } =
      self.cells := rfl
  rw [sameCells] at cells finished
  refine ⟨after, emptied.trans kept, cells, ?_⟩
  rcases finished with ⟨text, filled, ran, buffer⟩ | ⟨failure, failed, ran⟩
  · refine Or.inl ⟨text, whole.symm.trans filled, ?_⟩
    rw [List.nil_append] at buffer
    rw [Filling.str_of_elems escape template, run_bind_of_ok ran, ← buffer]
    rfl
  · refine Or.inr ⟨failure, whole.symm.trans failed, ?_⟩
    rw [Filling.str_of_elems escape template, run_bind_of_error ran]

theorem Filling.str_outcome (self : Filling) (template : self.query.parseElems ≠ []) :
    ((Filling.str escape).run self).outcome =
      Segment.fill
        (slotText escape (self.query.parseElems.map SQLParseElement.segment) self.cells)
        (self.query.parseElems.map SQLParseElement.segment) := by
  obtain ⟨after, _kept, _cells, finished⟩ := Filling.str_run escape self template
  rcases finished with ⟨text, filled, ran⟩ | ⟨failure, failed, ran⟩
  · rw [ran, filled]
    rfl
  · rw [ran, failed]
    rfl

namespace Query

theorem str_outcome (q : Query) (passed : Option SQLQueryParms) :
    ((str escape passed).run q).outcome =
      ((Filling.str escape).run { query := q, passed := passed }).outcome := by
  simp only [str, EStateM.run]
  cases Filling.str escape { query := q, passed := passed } <;> rfl

theorem str_final (q : Query) (passed : Option SQLQueryParms) :
    ((str escape passed).run q).final =
      ((Filling.str escape).run { query := q, passed := passed }).final.query := by
  simp only [str, EStateM.run]
  cases Filling.str escape { query := q, passed := passed } <;> rfl

theorem str_of_noElems {q : Query} (plain : q.parseElems = []) (passed : Option SQLQueryParms) :
    (str escape passed).run q = .ok q.sbuffer q := by
  have ran : (Filling.str escape).run ⟨q, passed⟩ = .ok q.sbuffer ⟨q, passed⟩ :=
    Filling.str_of_noElems escape plain
  simp only [str, EStateM.run] at ran ⊢
  rw [ran]

/-- `str()` of a template: the outcome, and what becomes of the query. -/
theorem str_run {q : Query} {template : ParsedTemplate} (parsed : q.parseElems = template.elems)
    (passed : Option SQLQueryParms) :
    ((str escape passed).run q).outcome =
        Segment.fill (slotText escape template.segments (Filling.cells ⟨q, passed⟩))
          template.segments ∧
      ∃ after : Filling, Filling.Kept ⟨q, passed⟩ after ∧
        after.query = ((str escape passed).run q).final ∧
        after.cells = (Segment.run (Cell.use escape) template.segments
          (Filling.cells ⟨q, passed⟩)).2 := by
  have nonempty : q.parseElems ≠ [] := by
    rw [parsed]
    exact template.elems_ne_nil
  have ran := Filling.str_run escape ⟨q, passed⟩ nonempty
  simp only [parsed] at ran
  rw [str_outcome, str_final]
  obtain ⟨after, kept, cells, ⟨text, filled, made⟩ | ⟨failure, failed, made⟩⟩ := ran
  · rw [made]
    exact ⟨filled.symm, after, kept, rfl, cells⟩
  · rw [made]
    exact ⟨failed.symm, after, kept, rfl, cells⟩

end Query

end LibTabula
