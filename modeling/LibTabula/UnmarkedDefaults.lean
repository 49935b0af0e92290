/-
Defaults whose marks are cleared.

A copied query has copies of the defaults, none of them marked as processed, so that each
is formatted once more. This makes no difference to a default that its option and type
leave as it is, nor to one that is in use only where the template cannot be filled in
anyway, for the same first reason with and without the marks.
-/

import LibTabula.Manipulators
import LibTabula.NamedDefaults

set_option autoImplicit false

namespace LibTabula

open Foundation

/-! ### One default -/

/-- The options that format a parameter. -/
def Query.formats (option : UInt8) : Bool := option = byte 'q' || option = byte 'Q'

namespace SQLTypeAdapter

/-- Formatting the adapter again makes no difference: it is not marked as processed, or null,
or its type is one that the option does not format. -/
def Settled (escape : Bytes → Bytes) (option : UInt8) (self : SQLTypeAdapter) : Prop :=
  self.isProcessed = true → self.isNull = .ok false →
    (option = byte 'q' → self.quoteQ = .ok false ∧ self.escapedData escape = self.data) ∧
      (option = byte 'Q' → self.quoteQ = .ok false)

/-- Why the adapter cannot be used: it has no buffer, or it is to be formatted and its type is
not in the type table. -/
def refusal (option : UInt8) (self : SQLTypeAdapter) : Option Failure :=
  match self.isNull with
  | .error failure => some failure
  | .ok true => none
  | .ok false =>
      if !self.isProcessed && Query.formats option then
        match self.quoteQ with
        | .error failure => some failure
        | .ok _ => none
      else none

/-- An option that formats refuses all that one that does not refuses. -/
theorem refusal_mono {option other : UInt8} {self : SQLTypeAdapter}
    (more : Query.formats option = true → Query.formats other = true)
    (usable : self.refusal other = none) : self.refusal option = none := by
  cases formats : Query.formats option with
  | true =>
      have formatsToo := more formats
      simp only [refusal, formats, formatsToo] at usable ⊢
      exact usable
  | false =>
      simp only [refusal, formats, Bool.and_false] at usable ⊢
      cases isNull : self.isNull with
      | error failure =>
          rw [isNull] at usable
          cases usable
      | ok null => cases null <;> rfl

/-- A mark only ever spares an adapter. -/
theorem refusal_copy_of_refused {option : UInt8} {self : SQLTypeAdapter} {failure : Failure}
    (refused : self.refusal option = some failure) :
    self.copy.refusal option = some failure := by
  unfold refusal at refused ⊢
  rw [copy_isNull, copy_isProcessed, copy_quoteQ]
  cases isNull : self.isNull with
  | error other =>
      rw [isNull] at refused
      exact refused
  | ok null =>
      rw [isNull] at refused
      cases null with
      | true => cases refused
      | false =>
          cases processed : self.isProcessed with
          | true =>
              rw [processed] at refused
              cases refused
          | false =>
              rw [processed] at refused
              exact refused

theorem quoteQ_error {self : SQLTypeAdapter} {failure : Failure}
    (unknown : self.quoteQ = .error failure) : ∃ what, failure = .typeLookupFailed what := by
  cases given : self.buffer with
  | none =>
      rw [quoteQ, given] at unknown
      cases unknown
  | some buffer =>
      rw [quoteQ, given] at unknown
      cases type : buffer.type.annotate with
      | ok entry =>
          simp only [SQLBuffer.quoteQ, FieldType.cType, type, bind, Except.bind, pure,
            Except.pure] at unknown
          split_ifs at unknown
      | error other =>
          simp only [SQLBuffer.quoteQ, FieldType.cType, type, bind, Except.bind] at unknown
          cases unknown
          unfold FieldType.annotate at type
          split_ifs at type
          · cases type
            exact ⟨_, rfl⟩
          · cases found : buffer.type.annotateFrom none types with
            | some entry =>
                rw [found] at type
                cases type
            | none =>
                rw [found] at type
                cases type
                exact ⟨_, rfl⟩

/-- What only the copy is refused for is its type. -/
theorem refusal_copy {option : UInt8} {self : SQLTypeAdapter} {failure : Failure}
    (usable : self.refusal option = none) (refused : self.copy.refusal option = some failure) :
    ∃ what, failure = .typeLookupFailed what := by
  simp only [refusal, copy_isNull, copy_isProcessed, copy_quoteQ, Bool.not_false,
    Bool.true_and] at usable refused
  cases isNull : self.isNull with
  | error other =>
      rw [isNull] at usable
      cases usable
  | ok null =>
      rw [isNull] at refused
      cases null with
      | true => cases refused
      | false =>
          simp only at refused
          split_ifs at refused
          cases quoteQ : self.quoteQ with
          | ok quote =>
              rw [quoteQ] at refused
              cases refused
          | error other =>
              rw [quoteQ] at refused
              cases refused
              exact quoteQ_error quoteQ

end SQLTypeAdapter

theorem reason_rendered (escape : Bytes → Bytes) (option : UInt8) (S : SQLTypeAdapter) :
    Segment.reason (rendered escape option S) = S.refusal option := by
  rw [rendered, SQLTypeAdapter.refusal]
  cases S.isNull with
  | error failure => rfl
  | ok null =>
      cases null with
      | true => rfl
      | false =>
          simp only [Query.pprepare, Query.formats]
          cases S.isProcessed with
          | true => rfl
          | false =>
              by_cases q : option = byte 'q'
              · subst q
                cases S.quoteQ <;> rfl
              · by_cases Q : option = byte 'Q'
                · subst Q
                  cases S.quoteQ with
                  | error failure => rfl
                  | ok quote => cases quote <;> rfl
                · simp [q, Q, Except.map, Segment.reason]

theorem rendered_processed (escape : Bytes → Bytes) (option : UInt8) {S : SQLTypeAdapter}
    (processed : S.isProcessed = true) (notNull : S.isNull = .ok false) :
    rendered escape option S = .ok S.data := by
  rw [rendered, notNull]
  simp only [Query.pprepare, if_pos processed]
  rfl

theorem rendered_of_isNull_ne (escape : Bytes → Bytes) (option : UInt8) {S : SQLTypeAdapter}
    (other : S.isNull ≠ .ok false) : rendered escape option S.copy = rendered escape option S := by
  rw [rendered, rendered, SQLTypeAdapter.copy_isNull]
  cases isNull : S.isNull with
  | error failure => rfl
  | ok null =>
      cases null with
      | true => rfl
      | false => exact absurd isNull other

theorem le_inQuotes (quote : Bool) (text : Bytes) :
    text.length ≤ (Query.inQuotes quote text).length := by
  rw [Query.inQuotes, List.length_append, List.length_append]
  omega

/-- Quotes show, where the text within is not shorter than it was. -/
theorem map_inQuotes_eq_iff {quoteQ : Except Failure Bool} {text data : Bytes}
    (le : data.length ≤ text.length) :
    (quoteQ.map fun quote => Query.inQuotes quote text) = .ok data ↔
      quoteQ = .ok false ∧ text = data := by
  cases quoteQ with
  | error failure => simp [Except.map]
  | ok quote =>
      cases quote with
      | false => simp [Except.map, Query.inQuotes]
      | true =>
          simp only [Except.map, Except.ok.injEq, Bool.true_eq_false, false_and, iff_false]
          intro same
          have lengths := congrArg List.length same
          simp only [Query.inQuotes, if_true, List.length_append, List.length_singleton] at lengths
          omega

section Marks

variable {escape : Bytes → Bytes} (documented : DocumentedEscape escape)

include documented

theorem data_le_escapedData (S : SQLTypeAdapter) :
    S.data.length ≤ (S.escapedData escape).length := by
  rw [SQLTypeAdapter.escapedData]
  split_ifs
  · exact documented.length_le S.data
  · exact Nat.le_refl _

/-- Without its mark an adapter has no shorter a text. -/
theorem rendered_le_copy {option : UInt8} {S : SQLTypeAdapter} {text more : Bytes}
    (said : rendered escape option S = .ok text)
    (saidToo : rendered escape option S.copy = .ok more) : text.length ≤ more.length := by
  by_cases notNull : S.isNull = .ok false
  · by_cases processed : S.isProcessed = true
    · rw [rendered_processed escape option processed notNull] at said
      cases said
      rw [rendered_copy escape notNull] at saidToo
      split_ifs at saidToo
      · cases quoteQ : S.quoteQ with
        | error failure =>
            rw [quoteQ] at saidToo
            cases saidToo
        | ok quote =>
            rw [quoteQ] at saidToo
            cases saidToo
            exact Nat.le_trans (data_le_escapedData documented S) (le_inQuotes quote _)
      · cases quoteQ : S.quoteQ with
        | error failure =>
            rw [quoteQ] at saidToo
            cases saidToo
        | ok quote =>
            rw [quoteQ] at saidToo
            cases saidToo
            exact le_inQuotes quote _
      · cases saidToo
        exact Nat.le_refl _
    · rw [Query.copy_of_raw (Bool.eq_false_iff.mpr processed), said] at saidToo
      cases saidToo
      exact Nat.le_refl _
  · rw [rendered_of_isNull_ne escape option notNull, said] at saidToo
    cases saidToo
    exact Nat.le_refl _

theorem rendered_copy_eq_iff (option : UInt8) (S : SQLTypeAdapter) :
    rendered escape option S.copy = rendered escape option S ↔ S.Settled escape option := by
  by_cases notNull : S.isNull = .ok false
  · by_cases processed : S.isProcessed = true
    · have other := SQLTypeAdapter.quoteOnly_ne_quote
      rw [rendered_processed escape option processed notNull, rendered_copy escape notNull,
        SQLTypeAdapter.Settled]
      by_cases q : option = byte 'q'
      · rw [if_pos q, map_inQuotes_eq_iff (data_le_escapedData documented S)]
        subst q
        simp [processed, notNull, Ne.symm other]
      · by_cases Q : option = byte 'Q'
        · rw [if_neg q, if_pos Q, map_inQuotes_eq_iff (Nat.le_refl _)]
          subst Q
          simp [processed, notNull, other]
        · rw [if_neg q, if_neg Q]
          simp [q, Q]
    · rw [Query.copy_of_raw (Bool.eq_false_iff.mpr processed)]
      exact iff_of_true rfl fun marked => absurd marked processed
  · rw [rendered_of_isNull_ne escape option notNull]
    exact iff_of_true rfl fun _ isFalse => absurd isFalse notNull

end Marks

/-! ### The defaults of a template -/

namespace Filling

theorem cells_passed_eq (q other : Query) {passed : Option SQLQueryParms} {num : Nat}
    (given : num < passedSize passed) :
    cells { query := q, passed := passed } num =
      cells { query := other, passed := passed } num := by
  cases passed with
  | none => exact absurd given (Nat.not_lt_zero num)
  | some p =>
      have short : num < p.size := given
      simp only [cells, select, if_pos short, parms, param]
      rfl

theorem cells_left (q : Query) {passed : Option SQLQueryParms} {num : Nat}
    (left : ¬ num < passedSize passed) :
    cells { query := q, passed := passed } num =
      match q.templateDefaults.elems[num]? with
      | none => .missing
      | some S => if q.templateDefaults.bound then .inPlace S else .explicit S := by
  have selected : select { query := q, passed := passed } num =
      if num < q.templateDefaults.size then some .defaults else none :=
    select_behind (Nat.not_lt.mp left)
  by_cases inside : num < q.templateDefaults.size
  · have within : num < q.templateDefaults.elems.length := inside
    simp only [cells, selected, if_pos inside, parms, param, List.getD_eq_getElem?_getD,
      List.getElem?_eq_getElem within, Option.getD_some]
  · have outside : q.templateDefaults.elems[num]? = none :=
      List.getElem?_eq_none_iff.mpr (Nat.not_lt.mp inside)
    simp only [cells, selected, if_neg inside, outside]

end Filling

namespace Query

def segments (self : Query) : List (Segment UInt8 Nat UInt8) :=
  self.parseElems.map SQLParseElement.segment

/-- The query with no default marked as processed. -/
def unmarked (self : Query) : Query :=
  { self with
    templateDefaults :=
      { self.templateDefaults with elems := self.templateDefaults.elems.map SQLTypeAdapter.copy } }

/-- The option that a default is formatted with. -/
def defaultOption (self : Query) (num : Nat) : UInt8 :=
  (Segment.firstOption self.segments num).getD (byte ' ')

/-- Why there is no default to be used at a position. -/
def refusal (self : Query) (num : Nat) : Option Failure :=
  match self.templateDefaults.elems[num]? with
  | none => some Filling.tooFew
  | some S => S.refusal (self.defaultOption num)

/-- A list of parameters that leaves a default in use that would be formatted once more leaves
another one in use that is refused. -/
def Unused (escape : Bytes → Bytes) (q : Query) : Prop :=
  ∀ slot ∈ Segment.slots q.segments, ∀ S, q.templateDefaults.elems[slot.1]? = some S →
    ¬ S.Settled escape (q.defaultOption slot.1) →
      ∃ other ∈ Segment.slots q.segments, slot.1 ≤ other.1 ∧ q.refusal other.1 ≠ none

/-- A default that is refused only without its mark comes behind another one that is refused
without, or before one that is refused for the same reason. In the latter case no parameter of
the list can be refused in between that was not refused before. -/
def Overtaken (q : Query) : Prop :=
  ∀ before slot after, Segment.slots q.segments = before ++ slot :: after →
    ∀ failure, q.refusal slot.1 = none → q.unmarked.refusal slot.1 = some failure →
      (∃ earlier ∈ before, slot.1 ≤ earlier.1 ∧ q.unmarked.refusal earlier.1 ≠ none) ∨
        ∃ between later rest, after = between ++ later :: rest ∧ slot.1 ≤ later.1 ∧
          q.refusal later.1 = some failure ∧
          ∀ other ∈ between,
            if slot.1 ≤ other.1 then q.refusal other.1 = none
            else ∃ earlier ∈ before, earlier.1 = other.1 ∧
              (formats other.2 = true → formats earlier.2 = true)

/-- Clearing the marks of the defaults makes no difference. -/
structure FormatsAlike (escape : Bytes → Bytes) (q : Query) : Prop where
  unused : q.Unused escape
  overtaken : q.Overtaken

variable (escape : Bytes → Bytes)

/-- What a placeholder says with a list of parameters. -/
def placeholderText (self : Query) (passed : Option SQLQueryParms) (slot : Nat × UInt8) :
    Except Failure Bytes :=
  slotText escape self.segments (Filling.cells { query := self, passed := passed }) slot

theorem str_fill {q : Query} (template : q.parseElems ≠ []) (passed : Option SQLQueryParms) :
    ((str escape passed).run q).outcome =
      Segment.fill (q.placeholderText escape passed) q.segments := by
  rw [str_outcome]
  exact Filling.str_outcome escape { query := q, passed := passed } template

theorem placeholderText_left {q : Query} (bound : q.templateDefaults.bound = true)
    {passed : Option SQLQueryParms} {slot : Nat × UInt8} (left : ¬ slot.1 < passedSize passed) :
    q.placeholderText escape passed slot =
      match q.templateDefaults.elems[slot.1]? with
      | none => .error Filling.tooFew
      | some S => rendered escape ((Segment.firstOption q.segments slot.1).getD slot.2) S := by
  rw [placeholderText, slotText, Filling.cells_left q left]
  cases q.templateDefaults.elems[slot.1]? with
  | none => rfl
  | some S =>
      simp only [bound, if_true]

theorem placeholderText_unmarked_left {q : Query} (bound : q.templateDefaults.bound = true)
    {passed : Option SQLQueryParms} {slot : Nat × UInt8} (left : ¬ slot.1 < passedSize passed) :
    q.unmarked.placeholderText escape passed slot =
      match q.templateDefaults.elems[slot.1]? with
      | none => .error Filling.tooFew
      | some S =>
          rendered escape ((Segment.firstOption q.segments slot.1).getD slot.2) S.copy := by
  have list : q.unmarked.templateDefaults.elems[slot.1]? =
      q.templateDefaults.elems[slot.1]?.map SQLTypeAdapter.copy := List.getElem?_map
  rw [placeholderText_left escape (q := q.unmarked) bound left, list]
  cases q.templateDefaults.elems[slot.1]? <;> rfl

theorem placeholderText_unmarked_given (q : Query) {passed : Option SQLQueryParms}
    {slot : Nat × UInt8} (given : slot.1 < passedSize passed) :
    q.unmarked.placeholderText escape passed slot = q.placeholderText escape passed slot := by
  rw [placeholderText, placeholderText, slotText, slotText,
    Filling.cells_passed_eq q.unmarked q given]
  rfl

/-! ### Reasons -/

theorem defaultOption_eq {q : Query} {slot : Nat × UInt8}
    (member : slot ∈ Segment.slots q.segments) :
    (Segment.firstOption q.segments slot.1).getD slot.2 = q.defaultOption slot.1 := by
  obtain ⟨option, first⟩ := Segment.firstOption_isSome member
  rw [defaultOption, first, Option.getD_some, Option.getD_some]

theorem reason_left {q : Query} (bound : q.templateDefaults.bound = true)
    {passed : Option SQLQueryParms} {slot : Nat × UInt8} (member : slot ∈ Segment.slots q.segments)
    (left : ¬ slot.1 < passedSize passed) :
    Segment.reason (q.placeholderText escape passed slot) = q.refusal slot.1 := by
  rw [placeholderText_left escape bound left, defaultOption_eq member, refusal]
  cases q.templateDefaults.elems[slot.1]? with
  | none => rfl
  | some S => exact reason_rendered escape _ S

theorem refusal_unmarked {q : Query} {num : Nat} {failure : Failure}
    (refused : q.refusal num = some failure) : q.unmarked.refusal num = some failure := by
  have list : q.unmarked.templateDefaults.elems[num]? =
      q.templateDefaults.elems[num]?.map SQLTypeAdapter.copy := List.getElem?_map
  rw [refusal] at refused
  rw [refusal, list]
  cases there : q.templateDefaults.elems[num]? with
  | none =>
      rw [there] at refused
      exact refused
  | some S =>
      rw [there] at refused
      exact SQLTypeAdapter.refusal_copy_of_refused refused

/-- What is only refused without its mark is refused for its type. -/
theorem typeLookupFailed_of_unmarked {q : Query} {num : Nat} {failure : Failure}
    (usable : q.refusal num = none) (refused : q.unmarked.refusal num = some failure) :
    ∃ what, failure = .typeLookupFailed what := by
  have list : q.unmarked.templateDefaults.elems[num]? =
      q.templateDefaults.elems[num]?.map SQLTypeAdapter.copy := List.getElem?_map
  rw [refusal] at usable
  rw [refusal, list] at refused
  cases there : q.templateDefaults.elems[num]? with
  | none =>
      rw [there] at usable
      cases usable
  | some S =>
      rw [there] at usable refused
      exact SQLTypeAdapter.refusal_copy usable refused

/-- What one placeholder takes is taken by another one for the same position, unless only that
formats it. -/
theorem reason_mono {q : Query} {passed : Option SQLQueryParms} {slot earlier : Nat × UInt8}
    (member : slot ∈ Segment.slots q.segments) (memberToo : earlier ∈ Segment.slots q.segments)
    (same : earlier.1 = slot.1)
    (more : formats slot.2 = true → formats earlier.2 = true)
    (taken : Segment.reason (q.placeholderText escape passed earlier) = none) :
    Segment.reason (q.placeholderText escape passed slot) = none := by
  rw [placeholderText, slotText] at taken ⊢
  rw [same] at taken
  cases cell : Filling.cells { query := q, passed := passed } slot.1 with
  | missing =>
      rw [cell] at taken
      cases taken
  | explicit S =>
      rw [cell] at taken
      simp only [reason_rendered] at taken ⊢
      exact S.refusal_mono more taken
  | inPlace S =>
      rw [cell] at taken
      have option : (Segment.firstOption q.segments slot.1).getD earlier.2 =
          q.defaultOption slot.1 := by
        rw [← same]
        exact defaultOption_eq memberToo
      simp only [option] at taken
      simp only [defaultOption_eq member]
      exact taken

theorem placeholderText_ofList (q : Query) (args : List SQLTypeAdapter) {slot : Nat × UInt8}
    (given : slot.1 < args.length) :
    q.placeholderText escape (some (SQLQueryParms.ofList args)) slot =
      rendered escape slot.2 (args.getD slot.1 SQLTypeAdapter.default).copy := by
  have cell : Filling.cells { query := q, passed := some (SQLQueryParms.ofList args) } slot.1 =
      .explicit (args.getD slot.1 SQLTypeAdapter.default).copy := by
    simp only [Filling.cells, Filling.select, SQLQueryParms.ofList_size, if_pos given,
      Filling.parms, Option.getD_some, SQLQueryParms.ofList_bound, Bool.false_eq_true, if_false,
      Filling.param, SQLQueryParms.ofList_elems, getD_map_copy]
  rw [placeholderText, slotText, cell]

theorem reason_unmarked_of_some {q : Query} (bound : q.templateDefaults.bound = true)
    {passed : Option SQLQueryParms} {slot : Nat × UInt8} (member : slot ∈ Segment.slots q.segments)
    {why : Failure} (refused : Segment.reason (q.placeholderText escape passed slot) = some why) :
    Segment.reason (q.unmarked.placeholderText escape passed slot) = some why := by
  by_cases given : slot.1 < passedSize passed
  · rw [placeholderText_unmarked_given escape q given, refused]
  · rw [reason_left escape bound member given] at refused
    rw [reason_left escape (q := q.unmarked) bound member given]
    exact refusal_unmarked refused

/-- The first reason why a placeholder cannot be filled in. -/
def firstReason (self : Query) (passed : Option SQLQueryParms) : Option Failure :=
  (Segment.slots self.segments).findSome? fun slot =>
    Segment.reason (self.placeholderText escape passed slot)

theorem firstReason_unmarked_of_overtaken {q : Query} (bound : q.templateDefaults.bound = true)
    (overtaken : q.Overtaken) (passed : Option SQLQueryParms) :
    q.firstReason escape passed = q.unmarked.firstReason escape passed := by
  apply (Segment.findSome?_eq_iff_of_le fun slot member why refused =>
    reason_unmarked_of_some escape bound member refused).mpr
  intro before slot after split quiet why added free
  have within {other : Nat × UInt8} (member : other ∈ before) :
      other ∈ Segment.slots q.segments := by
    rw [split]
    exact List.mem_append_left _ member
  have member : slot ∈ Segment.slots q.segments := by
    rw [split]
    exact List.mem_append_right _ List.mem_cons_self
  have left : ¬ slot.1 < passedSize passed := by
    intro given
    rw [placeholderText_unmarked_given escape q given, free] at added
    cases added
  rw [reason_left escape bound member left] at free
  rw [reason_left escape (q := q.unmarked) bound member left] at added
  rcases overtaken before slot after split why free added with
    ⟨earlier, there, le, refused⟩ | ⟨between, later, rest, rfl, le, refused, others⟩
  · have leftToo : ¬ earlier.1 < passedSize passed := by omega
    have taken := quiet earlier there
    rw [reason_left escape (q := q.unmarked) bound (within there) leftToo] at taken
    exact absurd taken refused
  · have behind {other : Nat × UInt8} (there : other ∈ between ++ later :: rest) :
        other ∈ Segment.slots q.segments := by
      rw [split]
      exact List.mem_append_right _ (List.mem_cons_of_mem _ there)
    have first : between.findSome? (fun slot =>
        Segment.reason (q.placeholderText escape passed slot)) = none := by
      rw [List.findSome?_eq_none_iff]
      intro other there
      have memberToo := behind (List.mem_append_left _ there)
      have harmless := others other there
      split_ifs at harmless with leOther
      · rw [reason_left escape bound memberToo (by omega)]
        exact harmless
      · obtain ⟨earlier, sooner, same, more⟩ := harmless
        apply reason_mono escape memberToo (within sooner) same more
        cases taken : Segment.reason (q.placeholderText escape passed earlier) with
        | none => rfl
        | some failure =>
            have refusedToo := reason_unmarked_of_some escape bound (within sooner) taken
            rw [quiet earlier sooner] at refusedToo
            cases refusedToo
    have last := behind (List.mem_append_right between List.mem_cons_self)
    rw [List.findSome?_append, first, List.findSome?_cons,
      reason_left escape bound last (by omega), refused]
    rfl

/-- So many parameters that no placeholder refuses. -/
def nulls (size : Nat) : List SQLTypeAdapter := List.replicate size SQLTypeAdapter.ofNull

theorem placeholderText_nulls (q : Query) {size : Nat} {slot : Nat × UInt8}
    (given : slot.1 < size) :
    q.placeholderText escape (some (SQLQueryParms.ofList (nulls size))) slot =
      .ok (ascii "NULL") := by
  have within : slot.1 < (nulls size).length := by rwa [nulls, List.length_replicate]
  rw [placeholderText_ofList escape q _ within, nulls, List.getD_eq_getElem?_getD,
    List.getElem?_replicate_of_lt given]
  rfl

theorem reason_nulls (q : Query) {size : Nat} {slot : Nat × UInt8} (given : slot.1 < size) :
    Segment.reason (q.placeholderText escape (some (SQLQueryParms.ofList (nulls size))) slot) =
      none := by
  rw [placeholderText_nulls escape q given]
  rfl

/-- The same with one parameter replaced. -/
theorem reason_nulls_set (q : Query) (S : SQLTypeAdapter) {size position : Nat}
    {slot : Nat × UInt8} (given : slot.1 < size) :
    Segment.reason
        (q.placeholderText escape
          (some (SQLQueryParms.ofList ((nulls size).set position S))) slot) =
      if slot.1 = position then S.copy.refusal slot.2 else none := by
  have within : slot.1 < ((nulls size).set position S).length := by
    rwa [List.length_set, nulls, List.length_replicate]
  rw [placeholderText_ofList escape q _ within, reason_rendered, List.getD_eq_getElem?_getD,
    List.getElem?_set]
  by_cases same : position = slot.1
  · subst same
    rw [List.length_set] at within
    rw [if_pos rfl, if_pos within, if_pos rfl]
    rfl
  · rw [if_neg same, if_neg (Ne.symm same), nulls, List.getElem?_replicate_of_lt given]
    rfl

end Query

/-- A text of some type. -/
def SQLTypeAdapter.ofType (type : FieldType) : SQLTypeAdapter :=
  { buffer := some { data := [], type := type, isNull := false }, isProcessed := false }

/-- An adapter is refused with an option, always for the same reason, which is not the given
one, and not with an option that does not format, if the first does. -/
structure RefusedInstead (failure : Failure) (option : UInt8) (S : SQLTypeAdapter)
    (why : Failure) : Prop where
  differs : why ≠ failure
  refused : S.copy.refusal option = some why
  only : ∀ other reason, S.copy.refusal other = some reason → reason = why
  spared : ∀ other, ¬ (Query.formats option = true → Query.formats other = true) →
    S.copy.refusal other = none

theorem refusedInstead_ofType {failure why : Failure} {option : UInt8} {type : FieldType}
    (formats : Query.formats option = true) (differs : why ≠ failure)
    (unknown : type.annotate = .error why) :
    RefusedInstead failure option (.ofType type) why := by
  have refusal (other : UInt8) : (SQLTypeAdapter.ofType type).copy.refusal other =
      if Query.formats other then some why else none := by
    have quoteQ : (SQLTypeAdapter.ofType type).quoteQ = .error why := by
      simp only [SQLTypeAdapter.ofType, SQLTypeAdapter.quoteQ, SQLBuffer.quoteQ, FieldType.cType,
        unknown, bind, Except.bind]
    unfold SQLTypeAdapter.refusal
    rw [SQLTypeAdapter.copy_quoteQ, quoteQ]
    rfl
  refine ⟨differs, ?_, ?_, ?_⟩
  · rw [refusal, if_pos formats]
  · intro other reason refused
    rw [refusal] at refused
    split_ifs at refused
    exact (Option.some.inj refused).symm
  · intro other unformatted
    rw [refusal, if_neg fun yes => unformatted fun _ => yes]

/-- There is always something that is refused for another reason than a given unknown type. -/
theorem exists_refusedInstead {failure : Failure}
    (known : ∃ what, failure = .typeLookupFailed what) (option : UInt8) :
    ∃ S why, RefusedInstead failure option S why := by
  cases formats : Query.formats option with
  | false =>
      refine ⟨.default, .nullPointer, ?_, rfl, ?_, ?_⟩
      · obtain ⟨what, rfl⟩ := known
        intro same
        cases same
      · intro other reason refused
        exact (Option.some.inj refused).symm
      · intro other impossible
        rw [formats] at impossible
        exact absurd (fun no => absurd no Bool.false_ne_true) impossible
  | true =>
      by_cases unsupported :
          failure = .typeLookupFailed "FieldType::annotate() called before object fully initted"
      · refine ⟨.ofType ⟨.boolean, tfDefault⟩, _, refusedInstead_ofType formats ?_ rfl⟩
        rw [unsupported]
        decide
      · exact ⟨.ofType ⟨.unsupported, tfDefault⟩, _,
          refusedInstead_ofType formats (Ne.symm unsupported) rfl⟩

namespace Query

variable (escape : Bytes → Bytes)

section Overtaken

variable {q : Query} (bound : q.templateDefaults.bound = true)
  (same : ∀ passed, q.firstReason escape passed = q.unmarked.firstReason escape passed)
  {before after : List (Nat × UInt8)} {slot : Nat × UInt8}
  (split : Segment.slots q.segments = before ++ slot :: after) {failure : Failure}
  (usable : q.refusal slot.1 = none) (refused : q.unmarked.refusal slot.1 = some failure)

include bound same split usable refused

/-- With a list that ends before the position of such a default, and of which nothing is refused
before it, the copy fails there, and so the query behind it. -/
theorem findSome?_after_of_firstReason_eq
    (notSooner : ∀ earlier ∈ before, slot.1 ≤ earlier.1 → q.unmarked.refusal earlier.1 = none)
    {args : List SQLTypeAdapter} (size : args.length = slot.1)
    (taken : ∀ earlier ∈ before, earlier.1 < slot.1 →
      Segment.reason (q.unmarked.placeholderText escape
        (some (SQLQueryParms.ofList args)) earlier) = none) :
    after.findSome? (fun slot => Segment.reason (q.placeholderText escape
      (some (SQLQueryParms.ofList args)) slot)) = some failure := by
  have covered : passedSize (some (SQLQueryParms.ofList args)) = slot.1 := by
    rw [passedSize, SQLQueryParms.ofList_size, size]
  have left : ¬ slot.1 < passedSize (some (SQLQueryParms.ofList args)) := by omega
  have member : slot ∈ Segment.slots q.segments := by
    rw [split]
    exact List.mem_append_right _ List.mem_cons_self
  apply (Segment.findSome?_eq_iff_of_le fun slot member why refused =>
    reason_unmarked_of_some escape bound member refused).mp (same _) before slot after split
  · intro earlier there
    by_cases given : earlier.1 < slot.1
    · exact taken earlier there given
    · have within : earlier ∈ Segment.slots q.segments := by
        rw [split]
        exact List.mem_append_left _ there
      rw [reason_left escape (q := q.unmarked) bound within (by omega)]
      exact notSooner earlier there (by omega)
  · rw [reason_left escape (q := q.unmarked) bound member left, refused]
  · rw [reason_left escape bound member left, usable]

/-- If the query fails behind it for the same reason, each slot of a lower position in between
has one for the position before. Otherwise the list may have something there that is refused
for another reason. -/
theorem exists_before_of_firstReason_eq
    (notSooner : ∀ earlier ∈ before, slot.1 ≤ earlier.1 → q.unmarked.refusal earlier.1 = none)
    {between rest : List (Nat × UInt8)} (behind : after = between ++ rest)
    (quiet : ∀ other ∈ between, slot.1 ≤ other.1 → q.refusal other.1 = none)
    {other : Nat × UInt8} (there : other ∈ between) (lower : other.1 < slot.1) :
    ∃ earlier ∈ before, earlier.1 = other.1 ∧
      (formats other.2 = true → formats earlier.2 = true) := by
  by_contra harmful
  obtain ⟨S, why, instead⟩ :=
    exists_refusedInstead (typeLookupFailed_of_unmarked usable refused) other.2
  let args := (nulls slot.1).set other.1 S
  have size : args.length = slot.1 := by rw [List.length_set, nulls, List.length_replicate]
  have found : after.findSome? (fun slot => Segment.reason (q.placeholderText escape
      (some (SQLQueryParms.ofList args)) slot)) = some failure := by
    apply findSome?_after_of_firstReason_eq escape bound same split usable refused notSooner size
    intro earlier thereToo given
    rw [reason_nulls_set escape q.unmarked S given]
    split_ifs with samePosition
    · apply instead.spared
      intro more
      exact harmful ⟨earlier, thereToo, samePosition, more⟩
    · rfl
  have agreed : ∀ item ∈ between, ∀ reason, Segment.reason (q.placeholderText escape
      (some (SQLQueryParms.ofList args)) item) = some reason → reason = why := by
    intro item member reason refusedToo
    by_cases given : item.1 < slot.1
    · rw [reason_nulls_set escape q S given] at refusedToo
      split_ifs at refusedToo
      exact instead.only item.2 reason refusedToo
    · have within : item ∈ Segment.slots q.segments := by
        rw [split, behind]
        exact List.mem_append_right _ (List.mem_cons_of_mem _ (List.mem_append_left _ member))
      have left : ¬ item.1 < passedSize (some (SQLQueryParms.ofList args)) := by
        rw [passedSize, SQLQueryParms.ofList_size, size]
        exact given
      rw [reason_left escape bound within left, quiet item member (by omega)] at refusedToo
      cases refusedToo
  have here : Segment.reason (q.placeholderText escape
      (some (SQLQueryParms.ofList args)) other) = some why := by
    rw [reason_nulls_set escape q S lower, if_pos rfl, instead.refused]
  rw [behind, Segment.findSome?_append_of_agreed rest there here agreed] at found
  exact instead.differs (Option.some.inj found)

end Overtaken

theorem overtaken_of_firstReason_eq {q : Query} (bound : q.templateDefaults.bound = true)
    (same : ∀ passed, q.firstReason escape passed = q.unmarked.firstReason escape passed) :
    q.Overtaken := by
  intro before slot after split failure usable refused
  by_cases sooner : ∃ earlier ∈ before, slot.1 ≤ earlier.1 ∧
      q.unmarked.refusal earlier.1 ≠ none
  · exact Or.inl sooner
  right
  have notSooner : ∀ earlier ∈ before, slot.1 ≤ earlier.1 →
      q.unmarked.refusal earlier.1 = none := by
    intro earlier there le
    by_contra refusedToo
    exact sooner ⟨earlier, there, le, refusedToo⟩
  have size : (nulls slot.1).length = slot.1 := by rw [nulls, List.length_replicate]
  have first := findSome?_after_of_firstReason_eq escape bound same split usable refused notSooner
    size fun earlier _there given => reason_nulls escape q.unmarked given
  obtain ⟨between, later, rest, behind, last, quiet⟩ := List.findSome?_eq_some_iff.mp first
  have reasonLeft {other : Nat × UInt8} (there : other ∈ after) (le : slot.1 ≤ other.1) :
      Segment.reason (q.placeholderText escape
        (some (SQLQueryParms.ofList (nulls slot.1))) other) = q.refusal other.1 := by
    apply reason_left escape bound
    · rw [split]
      exact List.mem_append_right _ (List.mem_cons_of_mem _ there)
    · rw [passedSize, SQLQueryParms.ofList_size, size]
      omega
  have le : slot.1 ≤ later.1 := by
    by_contra given
    rw [reason_nulls escape q (by omega)] at last
    cases last
  have leftQuiet : ∀ other ∈ between, slot.1 ≤ other.1 → q.refusal other.1 = none := by
    intro other there leOther
    rw [← reasonLeft (by rw [behind]; exact List.mem_append_left _ there) leOther]
    exact quiet other there
  rw [reasonLeft (by rw [behind]; exact List.mem_append_right _ List.mem_cons_self) le] at last
  refine ⟨between, later, rest, behind, le, last, ?_⟩
  intro other there
  split_ifs with leOther
  · exact leftQuiet other there leOther
  · exact exists_before_of_firstReason_eq escape bound same split usable refused notSooner behind
      leftQuiet there (by omega)

/-! ### Texts -/

section Texts

variable {escape : Bytes → Bytes} (documented : DocumentedEscape escape) {q : Query}
  (template : q.parseElems ≠ []) (bound : q.templateDefaults.bound = true)

include documented template bound

/-- With some list a template says the same with and without the marks exactly if the first
reason not to say anything is the same, and without one, what each placeholder says. -/
theorem str_unmarked_eq_iff (passed : Option SQLQueryParms) :
    ((str escape passed).run q.unmarked).outcome = ((str escape passed).run q).outcome ↔
      q.firstReason escape passed = q.unmarked.firstReason escape passed ∧
        (q.firstReason escape passed = none →
          ∀ slot ∈ Segment.slots q.segments,
            q.placeholderText escape passed slot =
              q.unmarked.placeholderText escape passed slot) := by
  rw [str_fill escape template, str_fill escape (q := q.unmarked) template, eq_comm]
  refine Segment.fill_eq_fill_iff ?_
  intro slot _member text more said saidToo
  by_cases given : slot.1 < passedSize passed
  · rw [placeholderText_unmarked_given escape q given, said] at saidToo
    cases saidToo
    exact Nat.le_refl _
  · rw [placeholderText_left escape bound given] at said
    rw [placeholderText_unmarked_left escape bound given] at saidToo
    cases there : q.templateDefaults.elems[slot.1]? with
    | none =>
        rw [there] at said
        cases said
    | some S =>
        rw [there] at said saidToo
        exact rendered_le_copy documented said saidToo

theorem unused_of_str_unmarked
    (same : ∀ passed, ((str escape passed).run q.unmarked).outcome =
      ((str escape passed).run q).outcome) : q.Unused escape := by
  intro slot member S there unsettled
  by_contra none_
  let passed := some (SQLQueryParms.ofList (nulls slot.1))
  have size : passedSize passed = slot.1 := by
    rw [passedSize, SQLQueryParms.ofList_size, nulls, List.length_replicate]
  have noReason : q.firstReason escape passed = none := by
    rw [firstReason, List.findSome?_eq_none_iff]
    intro other memberToo
    by_cases given : other.1 < slot.1
    · exact reason_nulls escape q given
    · rw [reason_left escape bound memberToo (by omega)]
      by_contra refused
      exact none_ ⟨other, memberToo, by omega, refused⟩
  have alike := ((str_unmarked_eq_iff documented template bound passed).mp (same passed)).2
    noReason slot member
  have left : ¬ slot.1 < passedSize passed := by omega
  rw [placeholderText_left escape bound left, placeholderText_unmarked_left escape bound left,
    there] at alike
  simp only [defaultOption_eq member] at alike
  exact unsettled ((rendered_copy_eq_iff documented _ S).mp alike.symm)

/-- A template says the same with and without the marks of its defaults, whatever it is given,
exactly if it formats them alike. -/
theorem str_unmarked_iff :
    (∀ passed, ((str escape passed).run q.unmarked).outcome =
        ((str escape passed).run q).outcome) ↔ q.FormatsAlike escape := by
  constructor
  · intro same
    refine ⟨unused_of_str_unmarked documented template bound same, ?_⟩
    apply overtaken_of_firstReason_eq escape bound
    intro passed
    exact ((str_unmarked_eq_iff documented template bound passed).mp (same passed)).1
  · intro alike passed
    apply (str_unmarked_eq_iff documented template bound passed).mpr
    refine ⟨firstReason_unmarked_of_overtaken escape bound alike.overtaken passed, ?_⟩
    intro noReason slot member
    by_cases given : slot.1 < passedSize passed
    · exact (placeholderText_unmarked_given escape q given).symm
    · rw [placeholderText_left escape bound given, placeholderText_unmarked_left escape bound given]
      cases there : q.templateDefaults.elems[slot.1]? with
      | none => rfl
      | some S =>
          simp only [defaultOption_eq member]
          by_contra differs
          have unsettled : ¬ S.Settled escape (q.defaultOption slot.1) := fun settled =>
            differs ((rendered_copy_eq_iff documented _ S).mpr settled).symm
          obtain ⟨other, memberToo, le, refused⟩ := alike.unused slot member S there unsettled
          have taken := List.findSome?_eq_none_iff.mp noReason other memberToo
          rw [reason_left escape bound memberToo (by omega)] at taken
          exact refused taken

end Texts

end Query

end LibTabula
