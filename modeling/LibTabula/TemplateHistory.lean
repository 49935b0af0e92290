/-
Template queries over their whole life.

What a template query should be is said by `TemplateValues`: a template and the
values last assigned to its defaults. Rendering one reads them, and copying one
copies them. A run of queries follows these values as long as no default that has
been replaced by its formatted text is copied, be it by the growth of the list or
with the whole query: a copy is unprocessed and would be formatted again.
-/

import LibTabula.Foundation.Run
import LibTabula.DefaultParameters

set_option autoImplicit false

namespace LibTabula

open Foundation

/-- What happens to the queries of a program, each known by its number. -/
inductive TemplateEvent
  | rendered (query : Nat) (args : List SQLTypeAdapter) (text : Bytes)
  | threw (query : Nat) (args : List SQLTypeAdapter) (failure : Failure)
  | setDefault (query : Nat) (n : Nat) (value : SQLTypeAdapter)
  | copied (query : Nat)
  | assigned (target source : Nat)

def Query.setDefault (self : Query) (n : Nat) (value : SQLTypeAdapter) : Query :=
  { self with templateDefaults := self.templateDefaults.assign n value }

/-- One operation on the queries of a program. A render that uses a null pointer
is not followed by anything. -/
inductive TemplateStep (escape : Bytes → Bytes) :
    List Query → TemplateEvent → List Query → Prop
  | rendered {queries : List Query} {i : Nat} {q after : Query} {args : List SQLTypeAdapter}
      {text : Bytes} (here : queries[i]? = some q)
      (ran : (Query.strArgs escape args).run q = .ok text after) :
      TemplateStep escape queries (.rendered i args text) (queries.set i after)
  | threw {queries : List Query} {i : Nat} {q after : Query} {args : List SQLTypeAdapter}
      {failure : Failure} (here : queries[i]? = some q)
      (ran : (Query.strArgs escape args).run q = .error failure after)
      (defined : failure ≠ .nullPointer) :
      TemplateStep escape queries (.threw i args failure) (queries.set i after)
  | setDefault {queries : List Query} {i : Nat} {q : Query} {n : Nat} {value : SQLTypeAdapter}
      (here : queries[i]? = some q) :
      TemplateStep escape queries (.setDefault i n value) (queries.set i (q.setDefault n value))
  | copied {queries : List Query} {i : Nat} {q : Query} (here : queries[i]? = some q) :
      TemplateStep escape queries (.copied i) (queries ++ [q.copy])
  | assigned {queries : List Query} {i j : Nat} {q other : Query} (distinct : i ≠ j)
      (here : queries[i]? = some q) (there : queries[j]? = some other) :
      TemplateStep escape queries (.assigned i j) (queries.set i (q.assign other))

/-! ### What the queries stand for -/

structure TemplateValues where
  template : ParsedTemplate
  values : List SQLTypeAdapter

namespace TemplateValues

/-- The text for some arguments: a function of the template and the values. -/
def text (self : TemplateValues) (escape : Bytes → Bytes) (args : List SQLTypeAdapter) :
    Except Failure Bytes :=
  Segment.fill (slotText escape self.template.segments (Query.parameter args self.values))
    self.template.segments

def setDefault (self : TemplateValues) (n : Nat) (value : SQLTypeAdapter) : TemplateValues :=
  { self with
    values :=
      (self.values ++ List.replicate (n + 1 - self.values.length)
        (SQLTypeAdapter.ofString [] false)).set n value }

end TemplateValues

/-- What the same operations do to templates and values. -/
inductive ValuesStep (escape : Bytes → Bytes) :
    List TemplateValues → TemplateEvent → List TemplateValues → Prop
  | rendered {all : List TemplateValues} {i : Nat} {self : TemplateValues}
      {args : List SQLTypeAdapter} {text : Bytes} (here : all[i]? = some self)
      (reads : self.text escape args = .ok text) :
      ValuesStep escape all (.rendered i args text) all
  | threw {all : List TemplateValues} {i : Nat} {self : TemplateValues}
      {args : List SQLTypeAdapter} {failure : Failure} (here : all[i]? = some self)
      (reads : self.text escape args = .error failure) :
      ValuesStep escape all (.threw i args failure) all
  | setDefault {all : List TemplateValues} {i : Nat} {self : TemplateValues} {n : Nat}
      {value : SQLTypeAdapter} (here : all[i]? = some self) :
      ValuesStep escape all (.setDefault i n value) (all.set i (self.setDefault n value))
  | copied {all : List TemplateValues} {i : Nat} {self : TemplateValues}
      (here : all[i]? = some self) :
      ValuesStep escape all (.copied i) (all ++ [self])
  | assigned {all : List TemplateValues} {i j : Nat} {self other : TemplateValues}
      (distinct : i ≠ j) (here : all[i]? = some self) (there : all[j]? = some other) :
      ValuesStep escape all (.assigned i j) (all.set i other)

/-! ### The representation -/

section Representation

variable (escape : Bytes → Bytes)

/-- A default that is as assigned, or settled by the first slot for it. -/
def Stored (template : ParsedTemplate) (num : Nat) (value S : SQLTypeAdapter) : Prop :=
  S = value.copy ∨
    ∃ option text, Segment.firstOption template.segments num = some option ∧
      Cell.use escape option (.inPlace value.copy) = .ok (text, .inPlace S)

structure Represents (q : Query) (state : TemplateValues) : Prop where
  parsed : q.parseElems = state.template.elems
  bound : q.templateDefaults.bound = true
  size : q.templateDefaults.elems.length = state.values.length
  stored : ∀ (num : Nat) (S : SQLTypeAdapter), q.templateDefaults.elems[num]? = some S →
    ∃ value, state.values[num]? = some value ∧ Stored escape state.template num value S

theorem Query.Prepared.represents {q : Query} {template : ParsedTemplate}
    {defaults : List SQLTypeAdapter} (prepared : q.Prepared template defaults) :
    Represents escape q ⟨template, defaults⟩ where
  parsed := prepared.parsed
  bound := prepared.bound
  size := by rw [prepared.assigned, List.length_map]
  stored num S here := by
    rw [prepared.assigned, List.getElem?_map] at here
    obtain ⟨value, there, rfl⟩ := Option.map_eq_some_iff.mp here
    exact ⟨value, there, Or.inl rfl⟩

variable {escape}

theorem Stored.rendered_eq {template : ParsedTemplate} {num : Nat} {value S : SQLTypeAdapter}
    (stored : Stored escape template num value S) (option : UInt8) :
    rendered escape ((Segment.firstOption template.segments num).getD option) S =
      rendered escape ((Segment.firstOption template.segments num).getD option) value.copy := by
  rcases stored with rfl | ⟨first, text, found, used⟩
  · rfl
  · have before := Cell.use_inPlace_text escape first value.copy
    have after := Cell.use_inPlace_text escape first S
    rw [Cell.use_settles escape used first] at after
    rw [used] at before
    rw [found, Option.getD_some, ← before, ← after]

theorem Stored.again {template : ParsedTemplate} {num : Nat} {value S after : SQLTypeAdapter}
    (stored : Stored escape template num value S) {option : UInt8} {text : Bytes}
    (first : Segment.firstOption template.segments num = some option)
    (used : Cell.use escape option (.inPlace S) = .ok (text, .inPlace after)) :
    Stored escape template num value after := by
  rcases stored with rfl | ⟨earlier, settled, found, usedBefore⟩
  · exact Or.inr ⟨option, text, first, used⟩
  · rw [Cell.use_settles escape usedBefore option, Except.ok.injEq, Prod.mk.injEq,
      Cell.inPlace.injEq] at used
    rw [← used.2]
    exact Or.inr ⟨earlier, settled, found, usedBefore⟩

theorem passed_of_kept {q : Query} {args : List SQLTypeAdapter} {after : Filling}
    (kept : Filling.Kept ⟨q, Query.passedArgs args⟩ after) :
    after.passed = Query.passedArgs args := by
  cases given : Query.passedArgs args with
  | none => exact kept.none given
  | some p =>
      obtain ⟨elems, passed, _length, unchanged⟩ := kept.passed p given
      have unbound : p.bound = false := by
        unfold Query.passedArgs at given
        split_ifs at given
        cases given
        exact SQLQueryParms.ofList_bound args
      rw [passed, unchanged unbound]

theorem Represents.strArgs_outcome {q : Query} {state : TemplateValues}
    (represents : Represents escape q state) (args : List SQLTypeAdapter) :
    ((Query.strArgs escape args).run q).outcome = state.text escape args := by
  have outcome := (Query.str_run escape represents.parsed (Query.passedArgs args)).1
  rw [Query.cells_passedArgs represents.bound] at outcome
  rw [Query.strArgs, outcome, TemplateValues.text]
  apply Segment.fill_congr
  rintro ⟨num, option⟩ _member
  simp only [slotText, Query.place, Query.parameter, represents.size]
  by_cases inArgs : num < args.length
  · simp only [if_pos inArgs]
  · by_cases short : num < state.values.length
    · have within : num < q.templateDefaults.elems.length := by
        rw [represents.size]
        exact short
      obtain ⟨value, there, stored⟩ := represents.stored num _ (List.getElem?_eq_getElem within)
      simp only [if_neg inArgs, if_pos short, List.getD_eq_getElem?_getD, there,
        List.getElem?_eq_getElem within, Option.getD_some]
      exact stored.rendered_eq option
    · simp only [if_neg inArgs, if_neg short]

theorem Represents.strArgs_final {q : Query} {state : TemplateValues}
    (represents : Represents escape q state) (args : List SQLTypeAdapter) :
    Represents escape ((Query.strArgs escape args).run q).final state := by
  obtain ⟨_outcome, after, kept, final, cells⟩ :=
    Query.str_run escape represents.parsed (Query.passedArgs args)
  rw [Query.strArgs, ← final]
  obtain ⟨_text, elems, shape, length⟩ := kept.query
  have parsed : after.query.parseElems = q.parseElems := by rw [shape]
  have parent : after.query.templateDefaults.parent = q.templateDefaults.parent := by rw [shape]
  have size : after.query.templateDefaults.elems.length = q.templateDefaults.elems.length := by
    rw [shape]
    exact length
  have bound : after.query.templateDefaults.bound = true := by
    rw [SQLQueryParms.bound, parent]
    exact represents.bound
  have whole : after = ⟨after.query, Query.passedArgs args⟩ := by
    rw [← passed_of_kept kept]
  rw [whole, Query.cells_passedArgs bound, Query.cells_passedArgs represents.bound] at cells
  constructor
  · rw [parsed]
    exact represents.parsed
  · exact bound
  · rw [size]
    exact represents.size
  · intro num S here
    by_cases inArgs : num < args.length
    · have given : Query.passedArgs args = some (SQLQueryParms.ofList args) := by
        rw [Query.passedArgs, if_neg]
        intro equal
        subst equal
        cases inArgs
      have inList : num < (SQLQueryParms.ofList args).size := by
        rw [SQLQueryParms.ofList_size]
        exact inArgs
      rw [kept.shadowed _ given num inList] at here
      exact represents.stored num S here
    · obtain ⟨short, _⟩ := List.getElem?_eq_some_iff.mp here
      have within : num < q.templateDefaults.elems.length := by
        rw [← size]
        exact short
      obtain ⟨value, there, stored⟩ := represents.stored num _ (List.getElem?_eq_getElem within)
      refine ⟨value, there, ?_⟩
      have settled := Segment.run_store
        (Cell.settling escape (Query.place args q.templateDefaults.elems))
        state.template.segments num
      rw [← cells] at settled
      simp only [Query.place, if_neg inArgs, if_pos short, if_pos within,
        List.getD_eq_getElem?_getD, here, List.getElem?_eq_getElem within,
        Option.getD_some] at settled
      rcases settled with same | ⟨_kind, option, text, first, used⟩
      · rw [Cell.inPlace.injEq] at same
        rw [same]
        exact stored
      · exact stored.again first used

end Representation

/-! ### Copying defaults -/

/-- Each processed default is still the value it was assigned, because the first
placeholder for it neither quotes nor escapes it. Clearing its flag is harmless
then. -/
def Query.Copyable (q : Query) : Prop :=
  ∀ (num : Nat) (S : SQLTypeAdapter) (option : UInt8),
    q.templateDefaults.elems[num]? = some S → S.isProcessed = true →
      Segment.firstOption (q.parseElems.map SQLParseElement.segment) num = some option →
        option ≠ byte 'q' ∧ (option = byte 'Q' → S.quoteQ = .ok false)

/-- A step copies only defaults that can be copied. -/
def TemplateEvent.SafeIn (queries : List Query) : TemplateEvent → Prop
  | .rendered _ _ _ => True
  | .threw _ _ _ => True
  | .setDefault i n _ => ∀ q, queries[i]? = some q → q.templateDefaults.size ≤ n →
      q.templateDefaults.Reallocates (n + 1 - q.templateDefaults.size) → q.Copyable
  | .copied i => ∀ q, queries[i]? = some q → q.Copyable
  | .assigned _ j => ∀ q, queries[j]? = some q → q.Copyable

def SafeStep (escape : Bytes → Bytes) (before : List Query) (event : TemplateEvent)
    (after : List Query) : Prop :=
  TemplateStep escape before event after ∧ event.SafeIn before

section Copies

variable {escape : Bytes → Bytes}

theorem Stored.copy_eq {template : ParsedTemplate} {num : Nat} {value S : SQLTypeAdapter}
    (stored : Stored escape template num value S)
    (unchanged : ∀ option, S.isProcessed = true →
      Segment.firstOption template.segments num = some option →
        option ≠ byte 'q' ∧ (option = byte 'Q' → S.quoteQ = .ok false)) :
    S.copy = value.copy := by
  rcases stored with rfl | ⟨option, text, first, used⟩
  · rfl
  · simp only [Cell.use] at used
    cases null : value.copy.isNull with
    | error failure =>
        rw [null] at used
        cases used
    | ok isNull =>
        rw [null] at used
        cases isNull with
        | true =>
            cases used
            rfl
        | false =>
            obtain ⟨result, formatted, ended⟩ := exists_of_map_ok used
            obtain ⟨inserted, after⟩ := result
            cases ended
            obtain ⟨_same, processed, _notNull⟩ := Cell.pprepare_processed escape formatted
            obtain ⟨notQ, quoting⟩ := unchanged option processed first
            have marked : Query.unprepared value.copy true = (inserted, after) →
                after.copy = value.copy := by
              intro result
              cases result
              rfl
            simp only [Query.pprepare, SQLTypeAdapter.copy_isProcessed, Bool.false_eq_true,
              if_false, if_neg notQ] at formatted
            by_cases Q : option = byte 'Q'
            · rw [if_pos Q] at formatted
              obtain ⟨quote, _, ended⟩ := exists_of_map_ok formatted
              cases quote with
              | false => exact marked ended
              | true =>
                  cases ended
                  have isText := SQLTypeAdapter.ofString_quoteQ
                    (Query.inQuotes true value.copy.data) false
                  have impossible : (Except.ok false : Except Failure Bool) = .ok true :=
                    (quoting Q).symm.trans isText
                  cases impossible
            · rw [if_neg Q] at formatted
              exact marked (Except.ok.inj formatted)

theorem Represents.stored_copy {q : Query} {state : TemplateValues}
    (represents : Represents escape q state) (copyable : q.Copyable) {num : Nat}
    {S : SQLTypeAdapter} (here : q.templateDefaults.elems[num]? = some S) :
    ∃ value, state.values[num]? = some value ∧ S.copy = value.copy := by
  obtain ⟨value, there, stored⟩ := represents.stored num S here
  refine ⟨value, there, stored.copy_eq ?_⟩
  intro option processed first
  apply copyable num S option here processed
  rw [represents.parsed]
  exact first

theorem Represents.assign {q : Query} {state : TemplateValues}
    (represents : Represents escape q state) (copyable : q.Copyable) (target : Query) :
    Represents escape (target.assign q) state := by
  constructor
  · exact represents.parsed
  · exact represents.bound
  · rw [← represents.size]
    exact List.length_map _
  · intro num S here
    have copied : (q.templateDefaults.elems.map SQLTypeAdapter.copy)[num]? = some S := here
    rw [List.getElem?_map] at copied
    obtain ⟨original, found, rfl⟩ := Option.map_eq_some_iff.mp copied
    obtain ⟨value, there, same⟩ := represents.stored_copy copyable found
    exact ⟨value, there, Or.inl same⟩

/-- A list that has grown up to a position and been assigned there. -/
theorem getElem?_grown (front : List SQLTypeAdapter) (n num : Nat)
    (filler value : SQLTypeAdapter) :
    ((front ++ List.replicate (n + 1 - front.length) filler).set n value)[num]? =
      if n = num then some value
      else if num < front.length then front[num]?
      else if num < n + 1 then some filler else none := by
  have within : n < (front ++ List.replicate (n + 1 - front.length) filler).length := by
    rw [List.length_append, List.length_replicate]
    omega
  rw [List.getElem?_set, if_pos within]
  by_cases assigned : n = num
  · rw [if_pos assigned, if_pos assigned]
  · rw [if_neg assigned, if_neg assigned]
    by_cases short : num < front.length
    · rw [if_pos short, List.getElem?_append_left short]
    · have inGap : num - front.length < n + 1 - front.length ↔ num < n + 1 := by omega
      rw [if_neg short, List.getElem?_append_right (by omega), List.getElem?_replicate]
      simp only [inGap]

theorem Represents.setDefault {q : Query} {state : TemplateValues}
    (represents : Represents escape q state) {n : Nat} (value : SQLTypeAdapter)
    (safe : q.templateDefaults.size ≤ n →
      q.templateDefaults.Reallocates (n + 1 - q.templateDefaults.size) → q.Copyable) :
    Represents escape (q.setDefault n value) (state.setDefault n value) := by
  have size : q.templateDefaults.size = state.values.length := represents.size
  constructor
  · exact represents.parsed
  · rw [SQLQueryParms.bound, Query.setDefault, SQLQueryParms.assign_parent]
    exact represents.bound
  · simp only [Query.setDefault, SQLQueryParms.assign_elems, TemplateValues.setDefault,
      List.length_set, List.length_append, List.length_replicate, size]
    split_ifs <;> simp only [List.length_map, represents.size]
  · intro num S here
    simp only [Query.setDefault, SQLQueryParms.assign_elems, size] at here
    simp only [TemplateValues.setDefault]
    -- What the elements that were there have become.
    have old : ∀ (S : SQLTypeAdapter),
        (if state.values.length ≤ n ∧
            q.templateDefaults.Reallocates (n + 1 - state.values.length)
          then q.templateDefaults.elems.map SQLTypeAdapter.copy
          else q.templateDefaults.elems)[num]? = some S →
        ∃ value, state.values[num]? = some value ∧
          Stored escape state.template num value S := by
      intro S found
      split_ifs at found with moved
      · rw [List.getElem?_map] at found
        obtain ⟨original, there, rfl⟩ := Option.map_eq_some_iff.mp found
        rw [← size] at moved
        obtain ⟨value, at_, same⟩ := represents.stored_copy (safe moved.1 moved.2) there
        exact ⟨value, at_, Or.inl same⟩
      · exact represents.stored num S found
    have oldLength :
        (if state.values.length ≤ n ∧
            q.templateDefaults.Reallocates (n + 1 - state.values.length)
          then q.templateDefaults.elems.map SQLTypeAdapter.copy
          else q.templateDefaults.elems).length = state.values.length := by
      split_ifs
      · rw [List.length_map, represents.size]
      · exact represents.size
    generalize (if state.values.length ≤ n ∧
        q.templateDefaults.Reallocates (n + 1 - state.values.length)
      then q.templateDefaults.elems.map SQLTypeAdapter.copy
      else q.templateDefaults.elems) = front at here old oldLength
    rw [← oldLength, getElem?_grown, oldLength] at here
    rw [getElem?_grown]
    by_cases assigned : n = num
    · rw [if_pos assigned] at here ⊢
      cases here
      exact ⟨value, rfl, Or.inl rfl⟩
    · rw [if_neg assigned] at here ⊢
      by_cases short : num < state.values.length
      · rw [if_pos short] at here ⊢
        exact old S here
      · rw [if_neg short] at here ⊢
        split_ifs at here ⊢ with inGap
        cases here
        exact ⟨SQLTypeAdapter.ofString [] false, rfl, Or.inl rfl⟩

end Copies

/-! ### Runs -/

structure Matches (escape : Bytes → Bytes) (queries : List Query)
    (states : List TemplateValues) : Prop where
  length : queries.length = states.length
  represents : ∀ (i : Nat) (q : Query) (state : TemplateValues), queries[i]? = some q →
    states[i]? = some state → Represents escape q state

namespace Matches

variable {escape : Bytes → Bytes} {queries : List Query} {states : List TemplateValues}

theorem find (matches_ : Matches escape queries states) {i : Nat} {q : Query}
    (here : queries[i]? = some q) :
    ∃ state, states[i]? = some state ∧ Represents escape q state := by
  obtain ⟨short, _⟩ := List.getElem?_eq_some_iff.mp here
  have within : i < states.length := by
    rw [← matches_.length]
    exact short
  have there := List.getElem?_eq_getElem within
  exact ⟨states[i], there, matches_.represents i q _ here there⟩

theorem set (matches_ : Matches escape queries states) (i : Nat) {q : Query}
    {state : TemplateValues} (represents : Represents escape q state) :
    Matches escape (queries.set i q) (states.set i state) := by
  constructor
  · rw [List.length_set, List.length_set]
    exact matches_.length
  · intro other found value here there
    rw [List.getElem?_set] at here there
    by_cases same : i = other
    · rw [if_pos same] at here there
      split_ifs at here there
      cases here
      cases there
      exact represents
    · rw [if_neg same] at here there
      exact matches_.represents other found value here there

theorem setLeft (matches_ : Matches escape queries states) {i : Nat} {q : Query}
    {state : TemplateValues} (there : states[i]? = some state)
    (represents : Represents escape q state) : Matches escape (queries.set i q) states := by
  have same : states.set i state = states := by
    obtain ⟨within, rfl⟩ := List.getElem?_eq_some_iff.mp there
    exact List.set_getElem_self within
  rw [← same]
  exact matches_.set i represents

theorem append (matches_ : Matches escape queries states) {q : Query} {state : TemplateValues}
    (represents : Represents escape q state) :
    Matches escape (queries ++ [q]) (states ++ [state]) := by
  constructor
  · simp only [List.length_append, matches_.length, List.length_singleton]
  · intro i found value here there
    by_cases short : i < queries.length
    · rw [List.getElem?_append_left short] at here
      rw [List.getElem?_append_left (by rw [← matches_.length]; exact short)] at there
      exact matches_.represents i found value here there
    · rw [List.getElem?_append_right (by omega)] at here
      rw [List.getElem?_append_right (by rw [← matches_.length]; omega), ← matches_.length]
        at there
      cases behind : i - queries.length with
      | zero =>
          rw [behind] at here there
          cases here
          cases there
          exact represents
      | succ rest =>
          rw [behind] at here
          cases here

theorem step (matches_ : Matches escape queries states) {event : TemplateEvent}
    {after : List Query} (stepped : SafeStep escape queries event after) :
    ∃ next, ValuesStep escape states event next ∧ Matches escape after next := by
  obtain ⟨stepped, safe⟩ := stepped
  cases stepped with
  | rendered here ran =>
      rename_i i q after args text
      obtain ⟨state, there, represents⟩ := matches_.find here
      have outcome := represents.strArgs_outcome args
      have final := represents.strArgs_final args
      rw [ran] at outcome final
      exact ⟨states, .rendered there outcome.symm, matches_.setLeft there final⟩
  | threw here ran _defined =>
      rename_i i q after args failure
      obtain ⟨state, there, represents⟩ := matches_.find here
      have outcome := represents.strArgs_outcome args
      have final := represents.strArgs_final args
      rw [ran] at outcome final
      exact ⟨states, .threw there outcome.symm, matches_.setLeft there final⟩
  | setDefault here =>
      rename_i i q n value
      obtain ⟨state, there, represents⟩ := matches_.find here
      exact ⟨_, .setDefault there, matches_.set i (represents.setDefault value (safe q here))⟩
  | copied here =>
      rename_i i q
      obtain ⟨state, there, represents⟩ := matches_.find here
      exact ⟨_, .copied there, matches_.append (represents.assign (safe q here) _)⟩
  | assigned distinct here there =>
      rename_i i j q other
      obtain ⟨state, stateHere, _represents⟩ := matches_.find here
      obtain ⟨source, sourceThere, represents⟩ := matches_.find there
      exact ⟨_, .assigned distinct stateHere sourceThere,
        matches_.set i (represents.assign (safe other there) q)⟩

end Matches

/-- In a run without unsafe copies the queries follow their values: each render
gives the text of the template and the values last assigned, a render that throws
changes nothing, a copy has the values of its original, and at the end every
query renders by its values whatever the arguments. -/
theorem safe_run_follows_values (escape : Bytes → Bytes) {queries final : List Query}
    {states : List TemplateValues} {events : List TemplateEvent}
    (length : queries.length = states.length)
    (prepared : ∀ (i : Nat) (q : Query) (state : TemplateValues), queries[i]? = some q →
      states[i]? = some state → q.Prepared state.template state.values)
    (run : Run (SafeStep escape) queries events final) :
    ∃ last, Run (ValuesStep escape) states events last ∧ final.length = last.length ∧
      ∀ (i : Nat) (q : Query) (state : TemplateValues), final[i]? = some q →
        last[i]? = some state →
          ∀ args, ((Query.strArgs escape args).run q).outcome = state.text escape args := by
  have initially : Matches escape queries states :=
    ⟨length, fun i q state here there => (prepared i q state here there).represents escape⟩
  obtain ⟨last, values, matches_⟩ :=
    run.simulation (fun _ _ _ _ matched stepped => matched.step stepped) initially
  refine ⟨last, values, matches_.length, ?_⟩
  intro i q state here there args
  exact (matches_.represents i q state here there).strArgs_outcome args

def letterX : TemplateValues := ⟨quotedThenPlain, [SQLTypeAdapter.ofString (ascii "x") false]⟩

def letterXQuery : Query := Query.ofTemplate 0 letterX.template letterX.values

theorem letterXQuery_copyable : letterXQuery.Copyable := by
  intro num S option here processed _first
  cases num with
  | zero =>
      cases here
      cases processed
  | succ num => cases here

theorem safe_run_follows_values_letterX :
    ∃ final last, Run (SafeStep SQLStream.escapeText) [letterXQuery]
        [.copied 0, .rendered 1 [] (ascii "'x' 'x'")] final ∧
      Run (ValuesStep SQLStream.escapeText) [letterX]
        [.copied 0, .rendered 1 [] (ascii "'x' 'x'")] last ∧ final.length = last.length ∧
      ∀ (i : Nat) (q : Query) (state : TemplateValues), final[i]? = some q →
        last[i]? = some state → ∀ args,
          ((Query.strArgs SQLStream.escapeText args).run q).outcome =
            state.text SQLStream.escapeText args := by
  have copied : SafeStep SQLStream.escapeText [letterXQuery] (.copied 0)
      ([letterXQuery] ++ [letterXQuery.copy]) := by
    refine ⟨.copied rfl, ?_⟩
    intro q here
    cases here
    exact letterXQuery_copyable
  have rendered : SafeStep SQLStream.escapeText ([letterXQuery] ++ [letterXQuery.copy])
      (.rendered 1 [] (ascii "'x' 'x'")) _ :=
    ⟨.rendered rfl (EStateM.Result.eq_ok rfl), trivial⟩
  have run := Run.cons copied (Run.single rendered)
  obtain ⟨last, follows⟩ := safe_run_follows_values SQLStream.escapeText
    (show [letterXQuery].length = [letterX].length from rfl) (fun i q state here there => by
      cases i with
      | zero =>
          cases here
          cases there
          exact Query.ofTemplate_prepared 0 letterX.template letterX.values
      | succ i => cases here) run
  exact ⟨_, last, run, follows⟩

/-- The default x, quoted by the first render, is quoted and escaped once more by
the next one when a second default has been assigned in between. -/
theorem letterX_quoted_twice :
    (∃ final, Run (TemplateStep SQLStream.escapeText) [letterXQuery]
        [.rendered 0 [] (ascii "'x' 'x'"),
          .setDefault 0 1 (SQLTypeAdapter.ofString (ascii "y") false),
          .rendered 0 [] (ascii "'\\'x\\'' '\\'x\\''")] final) ∧
      ¬ ∃ last, Run (ValuesStep SQLStream.escapeText) [letterX]
        [.rendered 0 [] (ascii "'x' 'x'"),
          .setDefault 0 1 (SQLTypeAdapter.ofString (ascii "y") false),
          .rendered 0 [] (ascii "'\\'x\\'' '\\'x\\''")] last := by
  constructor
  · exact ⟨_, .cons (.rendered rfl (EStateM.Result.eq_ok rfl)) (.cons (.setDefault rfl)
      (.single (.rendered rfl (EStateM.Result.eq_ok rfl))))⟩
  · intro both
    obtain ⟨last, run⟩ := both
    cases run with
    | cons first run =>
        cases first
        cases run with
        | cons second run =>
            cases second with
            | setDefault here =>
                cases here
                cases run with
                | cons third run =>
                    cases third with
                    | rendered here reads =>
                        cases here
                        exact absurd (Except.ok.inj reads) (by decide)

end LibTabula
