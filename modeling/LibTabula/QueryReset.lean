/-
Queries that are used again.

`reset()` empties the text, the template and the list of defaults. It leaves the
record of names, the room of the list, and how the stream formats what is inserted.
A query that was reset is seen to differ from a new one exactly where one of these
three is not as it was at first.
-/

import LibTabula.QueryCopies
import LibTabula.Foundation.Transcript

set_option autoImplicit false

namespace LibTabula

open Foundation

inductive StreamCall
  | insert (item : Inserter)
  | build (item : Inserter)
  | reset
  | parse
  | setDefault (n : Nat) (value : SQLTypeAdapter)
  | setNamed (name : Bytes) (value : SQLTypeAdapter)
  | str (passed : Option SQLQueryParms)

namespace StreamCall

/-- The call, with the text that a render returns. -/
def run (escape : Bytes → Bytes) : StreamCall → EStateM Failure QueryStream Bytes
  | insert item => do
      modify fun self => self.insert item
      return []
  | build item => do
      modify fun self => self.build item
      return []
  | reset => do
      modify QueryStream.reset
      return []
  | parse => do
      QueryStream.onQuery Query.parse
      return []
  | setDefault n value => do
      QueryStream.onQuery (modify fun query => query.setDefault n value)
      return []
  | setNamed name value => do
      QueryStream.onQuery (Query.setNamed name value)
      return []
  | str passed => QueryStream.str escape passed

/-- An insert, `parse()`, an assignment to a default, or a render. -/
def Plain : StreamCall → Prop
  | build _ => False
  | reset => False
  | _ => True

end StreamCall

/-- From one query on, later calls give the same texts as from the other. -/
def SameTexts (escape : Bytes → Bytes) (left right : QueryStream) : Prop :=
  ∀ calls : List StreamCall, (∀ call ∈ calls, call.Plain) →
    transcript (StreamCall.run escape) calls left = transcript (StreamCall.run escape) calls right

/-! ### What cannot be told apart -/

namespace SQLQueryParms

/-- Lists with the same elements and the same room. Empty lists need the same room only past
the first element: any growth gives them that. -/
structure Indistinct (left right : SQLQueryParms) : Prop where
  elems : left.elems = right.elems
  bound : left.bound = right.bound
  room : left.capacity = right.capacity ∨
    left.elems = [] ∧ left.capacity ≤ 1 ∧ right.capacity ≤ 1

namespace Indistinct

variable {left right : SQLQueryParms}

theorem size (same : Indistinct left right) : left.size = right.size :=
  congrArg List.length same.elems

theorem insertEnd (same : Indistinct left right) {extra : Nat} (some : 0 < extra)
    (value : SQLTypeAdapter) :
    Indistinct (left.insertEnd extra value) (right.insertEnd extra value) := by
  have bound : (left.insertEnd extra value).bound = (right.insertEnd extra value).bound := by
    rw [SQLQueryParms.bound, SQLQueryParms.bound, insertEnd_parent, insertEnd_parent]
    exact same.bound
  have size := same.size
  rcases same.room with room | ⟨empty, little, littleToo⟩
  · have moves : left.Reallocates extra ↔ right.Reallocates extra := by
      rw [Reallocates, Reallocates, room, size]
    refine ⟨?_, bound, Or.inl ?_⟩
    · rw [insertEnd_elems, insertEnd_elems, same.elems]
      simp only [moves]
    · simp only [SQLQueryParms.insertEnd, moves, size]
      split_ifs
      · rfl
      · exact room
  · have emptyToo : right.elems = [] := by rw [← same.elems, empty]
    have none : left.size = 0 := congrArg List.length empty
    have noneToo : right.size = 0 := congrArg List.length emptyToo
    refine ⟨?_, bound, Or.inl ?_⟩
    · rw [insertEnd_elems, insertEnd_elems, empty, emptyToo]
      simp only [List.map_nil, ite_self]
    · simp only [SQLQueryParms.insertEnd, Reallocates, none, noneToo]
      split_ifs <;> simp only <;> omega

theorem ensure (same : Indistinct left right) (n : Nat) :
    Indistinct (left.ensure n) (right.ensure n) := by
  have size := same.size
  simp only [SQLQueryParms.ensure, size]
  split_ifs with short
  · exact same.insertEnd (by omega) _
  · exact same

theorem set (same : Indistinct left right) (n : Nat) (value : SQLTypeAdapter) :
    Indistinct { left with elems := left.elems.set n value }
      { right with elems := right.elems.set n value } where
  elems := by rw [same.elems]
  bound := same.bound
  room := by
    rcases same.room with room | ⟨empty, little, littleToo⟩
    · exact Or.inl room
    · refine Or.inr ⟨?_, little, littleToo⟩
      rw [empty]
      rfl

theorem assign (same : Indistinct left right) (n : Nat) (value : SQLTypeAdapter) :
    Indistinct (left.assign n value) (right.assign n value) :=
  (same.ensure n).set n value.copy

end Indistinct

end SQLQueryParms

namespace Query

/-- Queries with the same text, template and defaults, in which every name refers to the same
position. -/
structure Indistinct (left right : Query) : Prop where
  sbuffer : left.sbuffer = right.sbuffer
  parseElems : left.parseElems = right.parseElems
  defaults : left.templateDefaults.Indistinct right.templateDefaults
  positions : left.recordedPosition = right.recordedPosition

theorem recordedPosition_record (q : Query) (name : Bytes) (n : Int) :
    recordedPosition
        { q with parsedNums := fun other => if other = name then some n else q.parsedNums other } =
      fun other => if other = name then n.toNat else q.recordedPosition other := by
  funext other
  simp only [recordedPosition]
  split_ifs <;> rfl

/-- Looking a name up leaves it where it was. -/
theorem recordedPosition_named (q : Query) (name : Bytes) :
    (q.named name).recordedPosition = q.recordedPosition := by
  funext other
  have looked := congrFun (recordedPosition_record q name ((q.parsedNums name).getD 0)) other
  refine looked.trans ?_
  by_cases same : other = name
  · rw [if_pos same, same]
    rfl
  · rw [if_neg same]

theorem declareName_alike (n : Int) (name : Bytes) :
    Alike Indistinct (declareName n name) (declareName n name) := by
  intro left right same
  unfold declareName
  by_cases negative : n < 0
  · rw [if_pos negative]
    exact ⟨rfl, same⟩
  · rw [if_neg negative]
    refine ⟨rfl, same.sbuffer, same.parseElems, same.defaults, ?_⟩
    have leftAfter := recordedPosition_record left name n
    have rightAfter := recordedPosition_record right name n
    rw [same.positions] at leftAfter
    exact leftAfter.trans rightAfter.symm

theorem pushElem_alike (elem : SQLParseElement) :
    Alike Indistinct (pushElem elem) (pushElem elem) := by
  apply Alike.modify
  intro left right same
  refine ⟨same.sbuffer, ?_, same.defaults, same.positions⟩
  rw [same.parseElems]

theorem saveParameter_alike (str : Bytes) (parameter : Placeholder) :
    Alike Indistinct (saveParameter str parameter) (saveParameter str parameter) := by
  unfold saveParameter
  cases parameter.name with
  | none => exact pushElem_alike _
  | some name => exact (declareName_alike _ name).bind fun _ => pushElem_alike _

theorem parseLoop_alike (s str : Bytes) :
    Alike Indistinct (parseLoop s str) (parseLoop s str) := by
  have saving := parseLoop_saving s str
  generalize parseLoop s str = loop at saving
  induction saving with
  | returns str => exact Alike.pure str
  | saves str s _rest ih => exact (saveParameter_alike str _).bind fun _ => ih

theorem parse_alike : Alike Indistinct parse parse := by
  intro left right same
  change ((parseLoop left.sbuffer [] >>= _).run left).outcome =
      ((parseLoop right.sbuffer [] >>= _).run right).outcome ∧
    Indistinct ((parseLoop left.sbuffer [] >>= _).run left).final
      ((parseLoop right.sbuffer [] >>= _).run right).final
  rw [← same.sbuffer]
  exact ((parseLoop_alike left.sbuffer []).bind fun str => pushElem_alike _) left right same

theorem setNamed_unbound (name : Bytes) (value : SQLTypeAdapter) {q : Query}
    (unbound : q.templateDefaults.bound = false) :
    (setNamed name value).run q = .error noParent q := by
  simp only [setNamed, namedPosition, EStateM.run_bind, EStateM.run_get, unbound, if_true]
  rfl

theorem setNamed_alike (name : Bytes) (value : SQLTypeAdapter) :
    Alike Indistinct (setNamed name value) (setNamed name value) := by
  intro left right same
  have bounds := same.defaults.bound
  have position : left.recordedPosition name = right.recordedPosition name :=
    congrFun same.positions name
  cases bound : left.templateDefaults.bound with
  | false =>
      have unbound : right.templateDefaults.bound = false := by rw [← bounds, bound]
      rw [setNamed_unbound name value bound, setNamed_unbound name value unbound]
      exact ⟨rfl, same⟩
  | true =>
      have boundToo : right.templateDefaults.bound = true := by rw [← bounds, bound]
      rw [setNamed_run name value bound, setNamed_run name value boundToo]
      have lists (n : Nat) (here : n = left.recordedPosition name) :
          SQLQueryParms.Indistinct
            { left.templateDefaults.ensure (left.recordedPosition name) with
              elems := (left.templateDefaults.ensure (left.recordedPosition name)).elems.set
                (left.recordedPosition name) value.copy }
            { right.templateDefaults.ensure n with
              elems := (right.templateDefaults.ensure n).elems.set n value.copy } := by
        subst here
        exact (same.defaults.ensure _).set _ value.copy
      refine ⟨rfl, same.sbuffer, same.parseElems, lists _ position.symm, ?_⟩
      exact (recordedPosition_named left name).trans
        (same.positions.trans (recordedPosition_named right name).symm)

end Query

namespace Filling

/-- Fillings of such queries with the same list. -/
structure Indistinct (left right : Filling) : Prop where
  query : left.query.Indistinct right.query
  passed : left.passed = right.passed

namespace Indistinct

variable {left right : Filling}

theorem write (same : Indistinct left right) (text : Bytes) :
    Indistinct (left.write text) (right.write text) where
  query := by
    refine ⟨?_, same.query.parseElems, same.query.defaults, same.query.positions⟩
    exact congrArg (fun sbuffer => sbuffer ++ text) same.query.sbuffer
  passed := same.passed

theorem put (same : Indistinct left right) (c : Source) (num : Nat) (S : SQLTypeAdapter) :
    Indistinct (left.put c num S) (right.put c num S) := by
  cases c with
  | passed =>
      refine ⟨same.query, ?_⟩
      simp only [Filling.put, same.passed]
  | defaults =>
      refine ⟨⟨same.query.sbuffer, same.query.parseElems, ?_, same.query.positions⟩, same.passed⟩
      exact same.query.defaults.set num S

theorem select_eq (same : Indistinct left right) (num : Nat) :
    left.select num = right.select num := by
  rw [select, select, same.passed, same.query.defaults.size]

theorem param_eq (same : Indistinct left right) (c : Source) (num : Nat) :
    left.param c num = right.param c num := by
  cases c with
  | passed => rw [param, param, parms, parms, same.passed]
  | defaults => rw [param, param, parms, parms, same.query.defaults.elems]

theorem bound_eq (same : Indistinct left right) (c : Source) :
    (left.parms c).bound = (right.parms c).bound := by
  cases c with
  | passed => rw [parms, parms, same.passed]
  | defaults => exact same.query.defaults.bound

end Indistinct

variable (escape : Bytes → Bytes)

/-- What `proc` does with a parameter that there is. -/
theorem procParam_of_select (option : UInt8) {num : Nat} {self : Filling} {c : Source}
    (selected : self.select num = some c) :
    (procParam escape option num).run self =
      match (self.param c num).isNull with
      | .error failure => .error failure self
      | .ok true => .ok () (self.write (ascii "NULL"))
      | .ok false =>
          match Query.pprepare escape option (self.param c num) (self.parms c).bound with
          | .error failure => .error failure self
          | .ok formatted => .ok () ((self.put c num formatted.2).write formatted.1.data) := by
  cases null : (self.param c num).isNull with
  | error failure => simp [procParam, selected, null]
  | ok isNull =>
      cases isNull with
      | true => simp [procParam, selected, null]
      | false =>
          cases formatted : Query.pprepare escape option (self.param c num) (self.parms c).bound <;>
            simp [procParam, selected, null, formatted]

theorem procParam_alike (option : UInt8) (num : Nat) :
    Alike Indistinct (procParam escape option num) (procParam escape option num) := by
  intro left right same
  have selected := same.select_eq num
  cases source : right.select num with
  | none =>
      rw [source] at selected
      simp only [procParam, EStateM.run_bind, EStateM.run_get, selected, source]
      exact ⟨rfl, same.write _⟩
  | some c =>
      rw [source] at selected
      rw [procParam_of_select escape option selected, procParam_of_select escape option source,
        same.param_eq c num, same.bound_eq c]
      cases (right.param c num).isNull with
      | error failure => exact ⟨rfl, same⟩
      | ok null =>
          cases null with
          | true => exact ⟨rfl, same.write _⟩
          | false =>
              cases Query.pprepare escape option (right.param c num) (right.parms c).bound with
              | error failure => exact ⟨rfl, same⟩
              | ok formatted => exact ⟨rfl, (same.put c num formatted.2).write _⟩

theorem procElem_alike (elem : SQLParseElement) :
    Alike Indistinct (procElem escape elem) (procElem escape elem) := by
  unfold procElem
  refine (Alike.modify fun _ _ same => same.write elem.before).bind fun _ => ?_
  by_cases position : 0 ≤ elem.num
  · simp only [if_pos position]
    exact procParam_alike escape elem.option elem.num.toNat
  · simp only [if_neg position]
    exact Alike.pure _

theorem procLoop_alike (elems : List SQLParseElement) :
    Alike Indistinct (procLoop escape elems) (procLoop escape elems) := by
  induction elems with
  | nil => exact Alike.pure _
  | cons elem rest ih => exact (procElem_alike escape elem).bind fun _ => ih

theorem str_alike : Alike Indistinct (str escape) (str escape) := by
  intro left right same
  have elems := same.query.parseElems
  by_cases template : left.query.parseElems = []
  · have templateToo : right.query.parseElems = [] := by rw [← elems, template]
    rw [str_of_noElems escape template, str_of_noElems escape templateToo]
    exact ⟨congrArg Except.ok same.query.sbuffer, same⟩
  · have templateToo : right.query.parseElems ≠ [] := by
      rw [← elems]
      exact template
    have emptied : Indistinct { left with query := { left.query with sbuffer := [] } }
        { right with query := { right.query with sbuffer := [] } } :=
      ⟨⟨rfl, elems, same.query.defaults, same.query.positions⟩, same.passed⟩
    have reads : Alike Indistinct
        (do
          let self ← get
          return self.query.sbuffer : EStateM Failure Filling Bytes)
        (do
          let self ← get
          return self.query.sbuffer) :=
      fun _ _ related => ⟨congrArg Except.ok related.query.sbuffer, related⟩
    rw [str_of_elems escape template, str_of_elems escape templateToo, ← elems]
    exact ((procLoop_alike escape left.query.parseElems).bind fun _ => reads) _ _ emptied

end Filling

theorem Query.str_alike (escape : Bytes → Bytes) (passed : Option SQLQueryParms) :
    Alike Query.Indistinct (Query.str escape passed) (Query.str escape passed) := by
  intro left right same
  obtain ⟨outcome, after⟩ := Filling.str_alike escape { query := left, passed := passed }
    { query := right, passed := passed } ⟨same, rfl⟩
  rw [Query.str_outcome, Query.str_outcome, Query.str_final, Query.str_final]
  exact ⟨outcome, after.query⟩

namespace QueryStream

structure Indistinct (left right : QueryStream) : Prop where
  query : left.query.Indistinct right.query
  format : left.format = right.format

variable (escape : Bytes → Bytes)

theorem onQuery_alike {α : Type} {x : EStateM Failure Query α}
    (alike : Alike Query.Indistinct x x) : Alike Indistinct (onQuery x) (onQuery x) := by
  intro left right same
  obtain ⟨outcome, after⟩ := alike left.query right.query same.query
  rw [onQuery, outcome_onPart, outcome_onPart, final_onPart, final_onPart]
  exact ⟨outcome, after, same.format⟩

theorem str_alike (passed : Option SQLQueryParms) :
    Alike Indistinct (str escape passed) (str escape passed) := by
  intro left right same
  have elems := same.query.parseElems
  have padded : Query.Indistinct
      { left.query with parseElems := padFirst left.format left.query.parseElems }
      { right.query with parseElems := padFirst right.format right.query.parseElems } := by
    refine ⟨same.query.sbuffer, ?_, same.query.defaults, same.query.positions⟩
    rw [same.format, elems]
  obtain ⟨outcome, after⟩ := Query.str_alike escape passed _ _ padded
  obtain ⟨leftOutcome, leftFinal⟩ := str_run escape passed left
  obtain ⟨rightOutcome, rightFinal⟩ := str_run escape passed right
  rw [leftOutcome, rightOutcome, leftFinal, rightFinal]
  refine ⟨outcome, ⟨after.sbuffer, elems, after.defaults, after.positions⟩, ?_⟩
  rw [elems, same.format]

theorem Indistinct.reset {left right : QueryStream} (same : Indistinct left right) :
    Indistinct left.reset right.reset where
  query := by
    refine ⟨rfl, rfl, ⟨rfl, same.query.defaults.bound, ?_⟩, same.query.positions⟩
    rcases same.query.defaults.room with room | ⟨_, little, littleToo⟩
    · exact Or.inl room
    · exact Or.inr ⟨rfl, little, littleToo⟩
  format := same.format

theorem Indistinct.insert {left right : QueryStream} (same : Indistinct left right)
    (item : Inserter) : Indistinct (left.insert item) (right.insert item) where
  query := by
    refine ⟨?_, same.query.parseElems, same.query.defaults, same.query.positions⟩
    simp only [QueryStream.insert, Query.write, same.query.sbuffer, same.format]
  format := by
    simp only [QueryStream.insert, same.format]

theorem Indistinct.build {left right : QueryStream} (same : Indistinct left right)
    (item : Inserter) : Indistinct (left.build item) (right.build item) := by
  have emptied := same.reset
  have precise : Indistinct
      { left.reset with format := { left.reset.format with precision := 16 } }
      { right.reset with format := { right.reset.format with precision := 16 } } := by
    refine ⟨emptied.query, ?_⟩
    rw [emptied.format]
  exact precise.insert item

end QueryStream

/-- No call tells such queries apart. -/
theorem StreamCall.run_alike (escape : Bytes → Bytes) (call : StreamCall) :
    Alike QueryStream.Indistinct (call.run escape) (call.run escape) := by
  have quiet {x : EStateM Failure QueryStream PUnit} (alike : Alike QueryStream.Indistinct x x) :
      Alike QueryStream.Indistinct (x >>= fun _ => pure ([] : Bytes)) (x >>= fun _ => pure []) :=
    alike.bind fun _ => Alike.pure _
  cases call with
  | insert item => exact quiet (Alike.modify fun _ _ same => same.insert item)
  | build item => exact quiet (Alike.modify fun _ _ same => same.build item)
  | reset => exact quiet (Alike.modify fun _ _ same => same.reset)
  | parse => exact quiet (QueryStream.onQuery_alike Query.parse_alike)
  | setDefault n value =>
      refine quiet (QueryStream.onQuery_alike (Alike.modify fun _ _ same => ?_))
      exact ⟨same.sbuffer, same.parseElems, same.defaults.assign n value, same.positions⟩
  | setNamed name value =>
      exact quiet (QueryStream.onQuery_alike (Query.setNamed_alike name value))
  | str passed => exact QueryStream.str_alike escape passed

/-! ### After a reset -/

/-- A query whose reset leaves nothing behind: it formats as at first, all names refer to
position 0, and its list has had room for one default at most. -/
structure QueryStream.Unspoilt (stream : QueryStream) : Prop where
  format : stream.format = StreamFormat.initial
  names : ∀ name, stream.query.recordedPosition name = 0
  room : stream.query.templateDefaults.capacity ≤ 1

/-! ### Calls that tell queries apart -/

/-- A query as it is after a reset. -/
structure Blank (stream : QueryStream) : Prop where
  sbuffer : stream.query.sbuffer = []
  parseElems : stream.query.parseElems = []
  elems : stream.query.templateDefaults.elems = []
  bound : stream.query.templateDefaults.bound = true

theorem blank_reset {used : QueryStream} (bound : used.query.templateDefaults.bound = true) :
    Blank used.reset :=
  ⟨rfl, rfl, rfl, bound⟩

theorem blank_new (self : QueryId) (te : Bool) : Blank (QueryStream.new self te []) :=
  ⟨rfl, rfl, rfl, rfl⟩

/-- A text written as it is. -/
def literal (text : Bytes) : Inserter := fun format => (text, format)

/-- A value that writes whether the format is the initial one. -/
def formatProbe : Inserter := fun format =>
  (if format = StreamFormat.initial then ascii "1" else ascii "0", format)

section Probes

variable (escape : Bytes → Bytes) {stream : QueryStream}

theorem transcript_format (blank : Blank stream) :
    transcript (StreamCall.run escape) [.insert formatProbe, .str none] stream =
      [.ok [], .ok (formatProbe stream.format).1] := by
  have inserted : ((StreamCall.insert formatProbe).run escape).run stream =
      .ok [] (stream.insert formatProbe) := rfl
  rw [transcript_cons inserted]
  have shown := QueryStream.str_of_noElems escape (stream.insert formatProbe) blank.parseElems
    none
  have text : (stream.insert formatProbe).query.sbuffer = (formatProbe stream.format).1 := by
    rw [QueryStream.insert, Query.write, blank.sbuffer]
    rfl
  rw [text] at shown
  exact congrArg (fun outcome => [_, outcome]) shown

/-- The stream with the template `%0` and an option. -/
def templated (stream : QueryStream) (text : Bytes) (option : UInt8) : QueryStream :=
  { stream with
    query := { stream.query with sbuffer := text, parseElems := placeholderElems option 0 } }

theorem transcript_template (empty : stream.query.sbuffer = [])
    (plain : stream.query.parseElems = []) (rest : Bytes) (option : UInt8)
    (single : rest.head? ≠ some (byte '%')) (digit : rest.head?.any Query.isdigit = true)
    (read : Query.readPlaceholder rest = { num := 0, option := option, name := none, rest := [] })
    (calls : List StreamCall) :
    transcript (StreamCall.run escape) (.insert (literal (byte '%' :: rest)) :: .parse :: calls)
        stream =
      .ok [] :: .ok [] ::
        transcript (StreamCall.run escape) calls
          (templated stream (byte '%' :: rest) option) := by
  let unparsed : QueryStream :=
    { stream with query := { stream.query with sbuffer := byte '%' :: rest } }
  have inserted : ((StreamCall.insert (literal (byte '%' :: rest))).run escape).run stream =
      .ok [] unparsed := by
    change EStateM.Result.ok []
      { stream with
        query := { stream.query with sbuffer := stream.query.sbuffer ++ byte '%' :: rest } } = _
    rw [empty]
    rfl
  have parsed : (StreamCall.parse.run escape).run unparsed =
      .ok [] (templated stream (byte '%' :: rest) option) := by
    have noElems : unparsed.query.parseElems = [] := plain
    have text : unparsed.query.sbuffer = byte '%' :: rest := rfl
    have inner := Query.parse_placeholder noElems text single digit read
    exact run_bind_of_ok (run_onPart_of_ok _ inner)
  rw [transcript_cons inserted, transcript_cons parsed]

/-- Without a width a render is that of the query. -/
theorem str_of_noWidth (stream : QueryStream) (width : stream.format.width = 0) :
    let rendered := (QueryStream.str escape none).run stream
    rendered.outcome = ((Query.str escape none).run stream.query).outcome ∧
      rendered.final.query =
        { ((Query.str escape none).run stream.query).final with
          parseElems := stream.query.parseElems } ∧
      rendered.final.format.width = 0 := by
  intro rendered
  obtain ⟨outcome, final⟩ := QueryStream.str_run escape none stream
  rw [QueryStream.padFirst_of_noWidth width] at outcome final
  refine ⟨outcome, ?_, ?_⟩
  · rw [final]
  · rw [final]
    split_ifs
    · exact width
    · rfl

theorem Query.str_default {q : Query} {option : UInt8}
    (parsed : q.parseElems = placeholderElems option 0)
    (bound : q.templateDefaults.bound = true) {S : SQLTypeAdapter}
    (there : q.templateDefaults.elems[0]? = some S) :
    ((Query.str escape none).run q).outcome = rendered escape option S := by
  have template : q.parseElems ≠ [] := by
    rw [parsed]
    exact List.cons_ne_nil _ _
  have left : ¬ ((0, option) : Nat × UInt8).1 < passedSize none := Nat.not_lt_zero 0
  have first : Segment.firstOption q.segments 0 = some option := by
    rw [Query.segments, parsed]
    exact firstOption_placeholder option 0
  rw [Query.str_fill escape template, Query.segments, parsed]
  refine (fill_placeholder _ option 0).trans ?_
  rw [Query.placeholderText_left escape bound left]
  simp only [there, first, Option.getD_some]

def textX : SQLTypeAdapter := SQLTypeAdapter.ofString (ascii "x") false

theorem set_ensure_of_empty {list : SQLQueryParms} (empty : list.elems = []) (n : Nat)
    (value : SQLTypeAdapter) :
    ((list.ensure n).elems.set n value)[0]? =
      some (if n = 0 then value else SQLTypeAdapter.ofString [] false) := by
  have size : list.size = 0 := congrArg List.length empty
  have created := list.ensure_created (Nat.le_of_eq size) (Nat.zero_le n)
  by_cases first : n = 0
  · subst first
    have within := (List.getElem?_eq_some_iff.mp created).1
    rw [if_pos rfl, List.getElem?_set_self within]
  · rw [if_neg first, List.getElem?_set_ne first, created]

theorem transcript_name (blank : Blank stream) (width : stream.format.width = 0) (name : Bytes) :
    transcript (StreamCall.run escape)
        [.insert (literal (ascii "%0")), .parse, .setNamed name textX, .str none] stream =
      [.ok [], .ok [], .ok [],
        .ok (if stream.query.recordedPosition name = 0 then ascii "x" else [])] := by
  let template := templated stream (ascii "%0") (byte ' ')
  let position := stream.query.recordedPosition name
  let named : Query :=
    { template.query.named name with
      templateDefaults :=
        { (template.query.named name).templateDefaults with
          elems := (template.query.named name).templateDefaults.elems.set position textX.copy } }
  have assigned : ((StreamCall.setNamed name textX).run escape).run template =
      .ok [] { template with query := named } := by
    have inner : (Query.setNamed name textX).run template.query = .ok () named :=
      Query.setNamed_run name textX blank.bound
    exact run_bind_of_ok (run_onPart_of_ok _ inner)
  have there : named.templateDefaults.elems[0]? =
      some (if position = 0 then textX.copy else SQLTypeAdapter.ofString [] false) :=
    set_ensure_of_empty blank.elems position textX.copy
  have bound : named.templateDefaults.bound = true := by
    rw [SQLQueryParms.bound]
    exact (congrArg Option.isSome (SQLQueryParms.ensure_parent _ position)).trans blank.bound
  have shown : ((QueryStream.str escape none).run { template with query := named }).outcome =
      .ok (if position = 0 then ascii "x" else []) := by
    rw [(str_of_noWidth escape { template with query := named } width).1,
      Query.str_default escape rfl bound there]
    split_ifs <;> rfl
  have parsed := transcript_template escape blank.sbuffer blank.parseElems (ascii "0") (byte ' ')
    (by decide) (by decide) rfl [.setNamed name textX, .str none]
  have later : transcript (StreamCall.run escape) [.setNamed name textX, .str none] template =
      [.ok [], .ok (if position = 0 then ascii "x" else [])] := by
    rw [transcript_cons assigned]
    exact congrArg (fun outcome => [_, outcome]) shown
  exact parsed.trans (congrArg (fun outcomes => .ok [] :: .ok [] :: outcomes) later)

/-- The first default has room, or gets it. -/
theorem assign_first {list : SQLQueryParms} (empty : list.elems = []) (value : SQLTypeAdapter) :
    list.assign 0 value =
      { list with elems := [value.copy], capacity := max list.capacity 1 } := by
  obtain ⟨elems, capacity, parent, processing⟩ := list
  cases empty
  simp only [SQLQueryParms.assign, SQLQueryParms.ensure, SQLQueryParms.insertEnd,
    SQLQueryParms.Reallocates, SQLQueryParms.size, List.length_nil, Nat.le_refl, if_true,
    Nat.zero_add, Nat.sub_zero]
  by_cases short : capacity < 1
  · have room : max capacity 1 = 1 := by omega
    simp only [if_pos short, room]
    rfl
  · have room : max capacity 1 = capacity := by omega
    simp only [if_neg short, room]
    rfl

/-- The first default is copied, and loses its mark, where the second one makes the list grow. -/
theorem assign_second {list : SQLQueryParms} {S : SQLTypeAdapter} (single : list.elems = [S])
    (value : SQLTypeAdapter) :
    (list.assign 1 value).elems[0]? = some (if list.capacity ≤ 1 then S.copy else S) := by
  have size : list.size = 1 := congrArg List.length single
  have grows : list.size ≤ 1 ∧ list.Reallocates (1 + 1 - list.size) ↔ list.capacity ≤ 1 := by
    rw [SQLQueryParms.Reallocates, size]
    omega
  rw [SQLQueryParms.assign_elems, List.getElem?_set_ne Nat.one_ne_zero, single]
  simp only [grows]
  split_ifs <;> rfl

/-- A default formatted in place is kept, and marked. -/
theorem str_quoted {q : Query} (parsed : q.parseElems = placeholderElems (byte 'Q') 0)
    (list : q.templateDefaults.elems = [textX]) (bound : q.templateDefaults.bound = true) :
    ((Query.str escape none).run q).final.templateDefaults =
      { q.templateDefaults with elems := [SQLTypeAdapter.ofString (ascii "'x'") true] } := by
  obtain ⟨⟨elems, capacity, parent, processing⟩, copacetic, parseElems, names, nums, text, te⟩ := q
  cases parsed
  cases list
  obtain ⟨parent, rfl⟩ := Option.isSome_iff_exists.mp bound
  rfl

/-- Rendering twice, with another default assigned in between. -/
theorem transcript_again (template : QueryStream)
    (parsed : template.query.parseElems = placeholderElems (byte 'Q') 0)
    (width : template.format.width = 0) (list : template.query.templateDefaults.elems = [textX])
    (bound : template.query.templateDefaults.bound = true) :
    transcript (StreamCall.run escape) [.str none, .setDefault 1 textX, .str none] template =
      [.ok (ascii "'x'"), .ok [],
        .ok (if template.query.templateDefaults.capacity ≤ 1 then ascii "''x''"
          else ascii "'x'")] := by
  let marked := SQLTypeAdapter.ofString (ascii "'x'") true
  -- The first render formats the default in place.
  obtain ⟨outcome, query, format⟩ := str_of_noWidth escape template width
  let shown := ((QueryStream.str escape none).run template).final
  have ran : ((StreamCall.str none).run escape).run template = .ok (ascii "'x'") shown := by
    apply EStateM.Result.eq_ok
    refine outcome.trans ?_
    exact Query.str_default escape parsed bound (congrArg (fun elems => elems[0]?) list)
  have kept : shown.query.templateDefaults =
      { template.query.templateDefaults with elems := [marked] } :=
    (congrArg Query.templateDefaults query).trans (str_quoted escape parsed list bound)
  -- The assignment moves it where there is no room.
  let two : QueryStream := { shown with query := shown.query.setDefault 1 textX }
  have assigned : ((StreamCall.setDefault 1 textX).run escape).run shown = .ok [] two := rfl
  have room : shown.query.templateDefaults.capacity =
      template.query.templateDefaults.capacity := by
    rw [kept]
  have there := assign_second (congrArg SQLQueryParms.elems kept) textX
  rw [room] at there
  have boundToo : two.query.templateDefaults.bound = true := by
    have parent := SQLQueryParms.assign_parent shown.query.templateDefaults 1 textX
    refine (congrArg Option.isSome parent).trans ?_
    rw [kept]
    exact bound
  have elems : two.query.parseElems = placeholderElems (byte 'Q') 0 :=
    (congrArg Query.parseElems query).trans parsed
  have last : ((QueryStream.str escape none).run two).outcome =
      .ok (if template.query.templateDefaults.capacity ≤ 1 then ascii "''x''"
        else ascii "'x'") := by
    rw [(str_of_noWidth escape two format).1,
      Query.str_default escape elems boundToo there]
    split_ifs <;> rfl
  rw [transcript_cons ran, transcript_cons assigned]
  exact congrArg (fun outcome => [_, _, outcome]) last

theorem transcript_room (blank : Blank stream) (width : stream.format.width = 0) :
    transcript (StreamCall.run escape)
        [.setDefault 0 textX, .insert (literal (ascii "%0Q")), .parse, .str none,
          .setDefault 1 textX, .str none] stream =
      [.ok [], .ok [], .ok [], .ok (ascii "'x'"), .ok [],
        .ok (if stream.query.templateDefaults.capacity ≤ 1 then ascii "''x''"
          else ascii "'x'")] := by
  let one : QueryStream := { stream with query := stream.query.setDefault 0 textX }
  have assigned : ((StreamCall.setDefault 0 textX).run escape).run stream = .ok [] one := rfl
  have list : one.query.templateDefaults =
      { stream.query.templateDefaults with
        elems := [textX], capacity := max stream.query.templateDefaults.capacity 1 } :=
    assign_first blank.elems textX
  have bound : one.query.templateDefaults.bound = true := by
    rw [list]
    exact blank.bound
  have room : one.query.templateDefaults.capacity ≤ 1 ↔
      stream.query.templateDefaults.capacity ≤ 1 := by
    rw [list]
    exact ⟨fun little => (Nat.le_max_left _ 1).trans little,
      fun little => Nat.max_le.mpr ⟨little, Nat.le_refl 1⟩⟩
  have empty : one.query.sbuffer = [] := blank.sbuffer
  have parsed := transcript_template escape empty blank.parseElems (ascii "0Q") (byte 'Q')
    (by decide) (by decide) rfl [.str none, .setDefault 1 textX, .str none]
  have renders := transcript_again escape (templated one (byte '%' :: ascii "0Q") (byte 'Q')) rfl
    width (congrArg SQLQueryParms.elems list) bound
  have shown := parsed.trans (congrArg (fun outcomes => .ok [] :: .ok [] :: outcomes) renders)
  rw [transcript_cons assigned]
  refine (congrArg (fun outcomes => .ok [] :: outcomes) shown).trans ?_
  simp only [templated, room]

end Probes

section Reuse

variable (escape : Bytes → Bytes) {used : QueryStream} (other : QueryId) (te : Bool)

theorem sameTexts_of_unspoilt (bound : used.query.templateDefaults.bound = true)
    (unspoilt : used.Unspoilt) : SameTexts escape used.reset (QueryStream.new other te []) := by
  have same : QueryStream.Indistinct used.reset (QueryStream.new other te []) := by
    refine ⟨⟨rfl, rfl, ⟨rfl, bound, ?_⟩, ?_⟩, unspoilt.format⟩
    · exact Or.inr ⟨rfl, unspoilt.room, Nat.zero_le 1⟩
    · funext name
      exact unspoilt.names name
  intro calls _plain
  exact transcript_eq_of_alike calls (fun call _member => call.run_alike escape) same

theorem format_of_sameTexts (bound : used.query.templateDefaults.bound = true)
    (same : SameTexts escape used.reset (QueryStream.new other te [])) :
    used.format = StreamFormat.initial := by
  have seen := same [.insert formatProbe, .str none] (by simp [StreamCall.Plain])
  rw [transcript_format escape (blank_reset bound),
    transcript_format escape (blank_new other te)] at seen
  by_contra spoilt
  have probed : (formatProbe used.reset.format).1 = ascii "0" := if_neg spoilt
  have initially : (formatProbe (QueryStream.new other te []).format).1 = ascii "1" := rfl
  rw [probed, initially] at seen
  exact absurd seen (by decide)

theorem names_of_sameTexts (bound : used.query.templateDefaults.bound = true)
    (format : used.format = StreamFormat.initial)
    (same : SameTexts escape used.reset (QueryStream.new other te [])) (name : Bytes) :
    used.query.recordedPosition name = 0 := by
  have seen := same
    [.insert (literal (ascii "%0")), .parse, .setNamed name textX, .str none]
    (by simp [StreamCall.Plain])
  have width : used.reset.format.width = 0 := congrArg StreamFormat.width format
  rw [transcript_name escape (blank_reset bound) width,
    transcript_name escape (blank_new other te) rfl] at seen
  by_contra elsewhere
  have usedText : used.reset.query.recordedPosition name ≠ 0 := elsewhere
  have newText : (QueryStream.new other te []).query.recordedPosition name = 0 := rfl
  rw [if_neg usedText, if_pos newText] at seen
  exact absurd seen (by decide)

theorem room_of_sameTexts (bound : used.query.templateDefaults.bound = true)
    (format : used.format = StreamFormat.initial)
    (same : SameTexts escape used.reset (QueryStream.new other te [])) :
    used.query.templateDefaults.capacity ≤ 1 := by
  have seen := same
    [.setDefault 0 textX, .insert (literal (ascii "%0Q")), .parse, .str none,
      .setDefault 1 textX, .str none]
    (by simp [StreamCall.Plain])
  have width : used.reset.format.width = 0 := congrArg StreamFormat.width format
  rw [transcript_room escape (blank_reset bound) width,
    transcript_room escape (blank_new other te) rfl] at seen
  by_contra spacious
  have usedRoom : ¬ used.reset.query.templateDefaults.capacity ≤ 1 := spacious
  have newRoom : (QueryStream.new other te []).query.templateDefaults.capacity ≤ 1 :=
    Nat.zero_le 1
  rw [if_neg usedRoom, if_pos newRoom] at seen
  exact absurd seen (by decide)

end Reuse

theorem Query.preserves_bound_setNamed (name : Bytes) (value : SQLTypeAdapter) :
    Preserves (fun q : Query => q.templateDefaults.bound) (Query.setNamed name value) := by
  intro q
  cases bound : q.templateDefaults.bound with
  | false =>
      rw [Query.setNamed_unbound name value bound]
      rfl
  | true =>
      have parent := SQLQueryParms.ensure_parent q.templateDefaults (q.recordedPosition name)
      rw [Query.setNamed_run name value bound]
      exact congrArg Option.isSome parent

/-- No call takes the list of defaults away from its query. -/
theorem StreamCall.preserves_bound (escape : Bytes → Bytes) (call : StreamCall) :
    Preserves (fun stream : QueryStream => stream.query.templateDefaults.bound)
      (call.run escape) := by
  have quiet {x : EStateM Failure QueryStream PUnit}
      (keeps : Preserves (fun stream : QueryStream => stream.query.templateDefaults.bound) x) :
      Preserves (fun stream : QueryStream => stream.query.templateDefaults.bound)
        (x >>= fun _ => pure ([] : Bytes)) :=
    keeps.bind fun _ => Preserves.pure _
  have onQuery {x : EStateM Failure Query PUnit}
      (keeps : Preserves (fun q : Query => q.templateDefaults.bound) x) :
      Preserves (fun stream : QueryStream => stream.query.templateDefaults.bound)
        (QueryStream.onQuery x) := by
    intro stream
    rw [QueryStream.onQuery, final_onPart]
    exact keeps stream.query
  cases call with
  | insert item => exact fun _ => rfl
  | build item => exact fun _ => rfl
  | reset => exact fun _ => rfl
  | parse =>
      have kept : Preserves (fun q : Query => q.templateDefaults.bound) Query.parse :=
        fun q => congrArg SQLQueryParms.bound (Query.preserves_parse q)
      exact quiet (onQuery kept)
  | setDefault n value =>
      refine quiet (onQuery fun q => ?_)
      exact congrArg Option.isSome (SQLQueryParms.assign_parent q.templateDefaults n value)
  | setNamed name value => exact quiet (onQuery (Query.preserves_bound_setNamed name value))
  | str passed =>
      intro stream
      have kept := Query.preserves_names_str escape passed
        { stream.query with
          parseElems := QueryStream.padFirst stream.format stream.query.parseElems }
      simp only [Prod.mk.injEq] at kept
      rw [StreamCall.run, (QueryStream.str_run escape passed stream).2]
      exact congrArg Option.isSome kept.2.2

/-- Whatever a query was used for: after a reset it gives the same texts as a new one exactly
if it is unspoilt. -/
theorem reset_sameTexts_iff (escape : Bytes → Bytes) (self other : QueryId) (te : Bool)
    (qstr : Bytes) (history : List StreamCall) :
    let used := finalState (StreamCall.run escape) history (QueryStream.new self te qstr)
    SameTexts escape used.reset (QueryStream.new other te []) ↔ used.Unspoilt := by
  intro used
  have bound : used.query.templateDefaults.bound = true :=
    finalState_invariant (fun state : QueryStream => state.query.templateDefaults.bound = true)
      (fun call state bound => (call.preserves_bound escape state).trans bound) history rfl
  constructor
  · intro same
    have format := format_of_sameTexts escape other te bound same
    exact ⟨format, names_of_sameTexts escape other te bound format same,
      room_of_sameTexts escape other te bound format same⟩
  · exact sameTexts_of_unspoilt escape other te bound

/-- A template with two names. -/
def twoNames : List StreamCall := [.insert (literal (ascii "%0:a, %1:b")), .parse]

/-- After the reset the second name still refers to position 1. -/
theorem twoNames_not_sameTexts :
    ¬ SameTexts id
      (finalState (StreamCall.run id) twoNames (QueryStream.new 0 true [])).reset
      (QueryStream.new 1 true []) := by
  intro same
  have seen := same
    [.insert (literal (ascii "%0")), .parse, .setNamed (ascii "b") textX, .str none]
    (by simp [StreamCall.Plain])
  exact absurd seen (by decide +kernel)

end LibTabula
