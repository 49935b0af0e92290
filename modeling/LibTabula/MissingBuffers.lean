/-
Parameters without a buffer.

An adapter that its default constructor made, or that was made from a `String` without a
buffer, is documented as an empty string. Whatever else it is asked, it looks for a buffer
first. Whether it is null it looks up in the buffer at once, and that is what filling in a
template asks before anything else.
-/

import LibTabula.ExplicitParameters

set_option autoImplicit false

namespace LibTabula

open Foundation

namespace SQLTypeAdapter

/-- The empty string that an adapter without a buffer is documented to be. -/
def orEmpty (self : SQLTypeAdapter) : SQLTypeAdapter :=
  match self.buffer with
  | some _ => self
  | none => ofString [] self.isProcessed

theorem orEmpty_of_some {S : SQLTypeAdapter} {buffer : SQLBuffer} (given : S.buffer = some buffer) :
    S.orEmpty = S := by
  rw [orEmpty, given]

theorem orEmpty_of_none {S : SQLTypeAdapter} (noBuffer : S.buffer = none) :
    S.orEmpty = ofString [] S.isProcessed := by
  rw [orEmpty, noBuffer]

/-- Such a string is left out, or two quotes. -/
theorem rendered_orEmpty {escape : Bytes → Bytes} (nothing : escape [] = []) (option : UInt8)
    {S : SQLTypeAdapter} (noBuffer : S.buffer = none) (raw : S.isProcessed = false) :
    rendered escape option S.orEmpty =
      .ok (Query.inQuotes (option = byte 'q' ∨ option = byte 'Q') []) := by
  have initialised : (ofString [] false).Initialised := rfl
  have notNull : (ofString [] false).isNull ≠ .ok true := isNull_ne rfl Bool.false_ne_true
  have known : (ofString [] false).formatFailure option = none := by
    rw [formatFailure, ofString_quoteQ, ite_self]
  have quotes : (ofString [] false).needsQuotes = true := by rw [needsQuotes, ofString_quoteQ]
  rw [orEmpty_of_none noBuffer, raw, rendered_eq escape option initialised, known, optionText,
    if_neg notNull, quotes, ofString_data, nothing, ite_self]
  by_cases q : option = byte 'q'
  · subst q
    rfl
  · by_cases Q : option = byte 'Q'
    · subst Q
      rfl
    · simp only [q, Q, if_false]
      rfl

theorem rendered_of_noBuffer (escape : Bytes → Bytes) (option : UInt8) {S : SQLTypeAdapter}
    (noBuffer : S.buffer = none) : rendered escape option S = .error .nullPointer := by
  rw [rendered, isNull_of_noBuffer noBuffer]

theorem formatFailure_of_noBuffer (option : UInt8) {S : SQLTypeAdapter}
    (noBuffer : S.buffer = none) : S.formatFailure option = none := by
  rw [formatFailure, quoteQ_of_noBuffer noBuffer, ite_self]

theorem cType_ne_nullPointer (type : FieldType) : type.cType ≠ .error .nullPointer := by
  unfold FieldType.cType FieldType.annotate
  by_cases unsupported : type.base = .unsupported
  · rw [if_pos unsupported]
    intro impossible
    cases impossible
  · rw [if_neg unsupported]
    cases type.annotateFrom none types with
    | none =>
      intro impossible
      cases impossible
    | some entry =>
      intro impossible
      cases impossible

theorem quoteQ_ne_nullPointer (S : SQLTypeAdapter) : S.quoteQ ≠ .error .nullPointer := by
  intro failed
  unfold quoteQ at failed
  cases given : S.buffer with
  | none =>
    rw [given] at failed
    cases failed
  | some buffer =>
    simp only [given, SQLBuffer.quoteQ] at failed
    cases known : buffer.type.cType with
    | error failure =>
      rw [known] at failed
      cases failed
      exact cType_ne_nullPointer buffer.type known
    | ok type =>
      rw [known] at failed
      simp only [bind, Except.bind] at failed
      split_ifs at failed <;> cases failed

theorem formatFailure_ne_nullPointer (option : UInt8) (S : SQLTypeAdapter) :
    S.formatFailure option ≠ some .nullPointer := by
  intro failed
  unfold formatFailure at failed
  split_ifs at failed with unasked
  cases quoting : S.quoteQ with
  | ok quote =>
    rw [quoting] at failed
    cases failed
  | error failure =>
    rw [quoting] at failed
    cases failed
    exact quoteQ_ne_nullPointer S quoting

end SQLTypeAdapter

/-! ### Where filling in a template gets to -/

namespace Filling

def orEmpty (self : Filling) : Filling :=
  { query :=
      { self.query with
        templateDefaults :=
          { self.query.templateDefaults with
            elems := self.query.templateDefaults.elems.map SQLTypeAdapter.orEmpty } }
    passed := self.passed.map fun p => { p with elems := p.elems.map SQLTypeAdapter.orEmpty } }

def segments (self : Filling) : List (Segment UInt8 Nat UInt8) :=
  self.query.parseElems.map SQLParseElement.segment

/-- The option by which a position is formatted, that of its first slot if it is formatted in
place. -/
def usedOption (self : Filling) (c : Source) (slot : Nat × UInt8) : UInt8 :=
  if (self.parms c).bound then (Segment.firstOption self.segments slot.1).getD slot.2 else slot.2

/-- A slot stands for a parameter that has no buffer. -/
def Blank (self : Filling) (slot : Nat × UInt8) : Prop :=
  ∃ c, self.select slot.1 = some c ∧ (self.param c slot.1).buffer = none

/-- A slot ends the template: there is no parameter, or one of a type that is unknown. -/
def Stops (self : Filling) (slot : Nat × UInt8) : Prop :=
  ∀ c, self.select slot.1 = some c →
    (self.param c slot.1).formatFailure (self.usedOption c slot) ≠ none

/-- The template ends before each parameter that has no buffer. -/
def BlankUnreached (self : Filling) : Prop :=
  ∀ front slot back, Segment.slots self.segments = front ++ slot :: back → self.Blank slot →
    ∃ earlier ∈ front, self.Stops earlier

/-- No missing buffer is looked into, and the text is that for empty strings. -/
structure Spared (escape : Bytes → Bytes) (filling : Filling) : Prop where
  defined : ((str escape).run filling).outcome ≠ .error .nullPointer
  same : ((str escape).run filling).outcome = ((str escape).run filling.orEmpty).outcome

theorem select_orEmpty (self : Filling) (num : Nat) :
    self.orEmpty.select num = self.select num := by
  cases given : self.passed with
  | none =>
    simp only [select, orEmpty, given, Option.map_none, SQLQueryParms.size, List.length_map]
    rfl
  | some p =>
    simp only [select, orEmpty, given, Option.map_some, SQLQueryParms.size, List.length_map]
    rfl

theorem parms_orEmpty (self : Filling) (c : Source) :
    self.orEmpty.parms c =
      { self.parms c with elems := (self.parms c).elems.map SQLTypeAdapter.orEmpty } := by
  cases c with
  | passed => cases given : self.passed <;> simp only [parms, orEmpty, given] <;> rfl
  | defaults => rfl

theorem param_orEmpty {self : Filling} {num : Nat} {c : Source}
    (selected : self.select num = some c) :
    self.orEmpty.param c num = (self.param c num).orEmpty := by
  have within := lt_of_select selected
  rw [param, param, parms_orEmpty]
  simp only [List.getD_eq_getElem?_getD, List.getElem?_map, List.getElem?_eq_getElem within,
    Option.map_some, Option.getD_some]

theorem usedOption_orEmpty (self : Filling) (c : Source) (slot : Nat × UInt8) :
    self.orEmpty.usedOption c slot = self.usedOption c slot := by
  rw [usedOption, usedOption, parms_orEmpty]
  rfl

/-! ### What a slot says -/

variable (escape : Bytes → Bytes) (self : Filling)

/-- The text of a slot, or why there is none. -/
def said (slot : Nat × UInt8) : Except Failure Bytes :=
  slotText escape self.segments self.cells slot

theorem said_of_missing {slot : Nat × UInt8} (missing : self.select slot.1 = none) :
    self.said escape slot = .error tooFew := by
  rw [said, slotText, cells, missing]

theorem said_of_select {slot : Nat × UInt8} {c : Source} (selected : self.select slot.1 = some c) :
    self.said escape slot = rendered escape (self.usedOption c slot) (self.param c slot.1) := by
  rw [said, slotText, cells_of_selected selected, usedOption]
  by_cases bound : (self.parms c).bound = true
  · rw [if_pos bound, if_pos bound]
  · rw [if_neg bound, if_neg bound]

theorem said_of_blank {slot : Nat × UInt8} (blank : self.Blank slot) :
    self.said escape slot = .error .nullPointer := by
  obtain ⟨c, selected, noBuffer⟩ := blank
  rw [said_of_select escape self selected]
  exact SQLTypeAdapter.rendered_of_noBuffer escape _ noBuffer

/-- A parameter with a buffer says something unless its type is unknown. -/
theorem said_of_not_blank {slot : Nat × UInt8} (filled : ¬self.Blank slot) :
    (∃ failure, failure ≠ .nullPointer ∧ self.said escape slot = .error failure) ∧
        self.Stops slot ∨
      (∃ text, self.said escape slot = .ok text) ∧ ¬self.Stops slot := by
  cases selected : self.select slot.1 with
  | none =>
    left
    constructor
    · exact ⟨tooFew, by decide, said_of_missing escape self selected⟩
    · intro c impossible
      rw [selected] at impossible
      cases impossible
  | some c =>
    have initialised : (self.param c slot.1).Initialised := by
      apply Option.isSome_iff_ne_none.mpr
      intro noBuffer
      exact filled ⟨c, selected, noBuffer⟩
    rw [said_of_select escape self selected, SQLTypeAdapter.rendered_eq escape _ initialised]
    have only : ∀ other, self.select slot.1 = some other → other = c := by
      intro other given
      exact (Option.some.inj (selected.symm.trans given)).symm
    cases known : (self.param c slot.1).formatFailure (self.usedOption c slot) with
    | none =>
      right
      constructor
      · exact ⟨_, rfl⟩
      · intro stops
        exact stops c selected known
    | some failure =>
      left
      constructor
      · refine ⟨failure, ?_, rfl⟩
        intro crashes
        rw [crashes] at known
        exact SQLTypeAdapter.formatFailure_ne_nullPointer _ _ known
      · intro other given
        rw [only other given, known]
        exact Option.some_ne_none failure

theorem stops_or_blank {slot : Nat × UInt8} {failure : Failure}
    (failed : self.said escape slot = .error failure) :
    self.Blank slot ∧ failure = .nullPointer ∨ self.Stops slot ∧ failure ≠ .nullPointer := by
  by_cases blank : self.Blank slot
  · left
    rw [said_of_blank escape self blank] at failed
    exact ⟨blank, (Except.error.inj failed).symm⟩
  · obtain ⟨⟨reason, other, stopped⟩, stops⟩ | ⟨⟨text, there⟩, _⟩ :=
      said_of_not_blank escape self blank
    · right
      rw [stopped] at failed
      cases failed
      exact ⟨stops, other⟩
    · rw [there] at failed
      cases failed

theorem said_of_stops {slot : Nat × UInt8} (stops : self.Stops slot) :
    ∃ failure, failure ≠ .nullPointer ∧ self.said escape slot = .error failure := by
  by_cases blank : self.Blank slot
  · obtain ⟨c, selected, noBuffer⟩ := blank
    exact absurd (SQLTypeAdapter.formatFailure_of_noBuffer _ noBuffer) (stops c selected)
  · obtain ⟨stopped, _⟩ | ⟨_, goesOn⟩ := said_of_not_blank escape self blank
    · exact stopped
    · exact absurd stops goesOn

theorem said_alike (slot : Nat × UInt8) :
    self.said escape slot = .error .nullPointer ∨
      self.said escape slot = self.orEmpty.said escape slot := by
  by_cases blank : self.Blank slot
  · exact Or.inl (said_of_blank escape self blank)
  · right
    cases selected : self.select slot.1 with
    | none =>
      rw [said_of_missing escape self selected, said_of_missing]
      rw [select_orEmpty, selected]
    | some c =>
      have selectedToo : self.orEmpty.select slot.1 = some c := by rw [select_orEmpty, selected]
      have given : (self.param c slot.1).buffer ≠ none :=
        fun noBuffer => blank ⟨c, selected, noBuffer⟩
      obtain ⟨buffer, given⟩ := Option.ne_none_iff_exists'.mp given
      rw [said_of_select escape self selected, said_of_select escape self.orEmpty selectedToo,
        param_orEmpty selected, SQLTypeAdapter.orEmpty_of_some given, usedOption_orEmpty]

/-! ### The whole template -/

theorem str_outcome_eq_fill (template : self.query.parseElems ≠ []) :
    ((str escape).run self).outcome = Segment.fill (self.said escape) self.segments :=
  str_outcome escape self template

theorem blankUnreached_iff :
    Segment.fill (self.said escape) self.segments ≠ .error .nullPointer ↔
      self.BlankUnreached := by
  rw [Ne, Segment.fill_eq_error_iff_split]
  constructor
  · intro defined front slot back split blank
    by_contra none_
    apply defined
    refine ⟨front, slot, back, split, said_of_blank escape self blank, ?_⟩
    intro earlier member failure failed
    obtain ⟨_, same⟩ | ⟨stops, _⟩ := stops_or_blank escape self failed
    · exact same
    · exact absurd ⟨earlier, member, stops⟩ none_
  · intro unreached reached
    obtain ⟨front, slot, back, split, failed, first⟩ := reached
    obtain ⟨blank, _⟩ | ⟨_, other⟩ := stops_or_blank escape self failed
    · obtain ⟨earlier, member, stops⟩ := unreached front slot back split blank
      obtain ⟨failure, other, stopped⟩ := said_of_stops escape self stops
      exact other (first earlier member failure stopped)
    · exact other rfl

/-- Missing buffers do no harm exactly where the template ends before them. -/
theorem spared_iff : Spared escape self ↔ self.BlankUnreached := by
  by_cases plain : self.query.parseElems = []
  · have plainToo : self.orEmpty.query.parseElems = [] := plain
    have ran := str_of_noElems escape plain
    have ranToo := str_of_noElems escape plainToo
    constructor
    · intro _ front slot back split
      have nothing : Segment.slots self.segments = [] := by rw [segments, plain]; rfl
      rw [nothing] at split
      exact absurd split.symm (List.append_ne_nil_of_right_ne_nil _ (List.cons_ne_nil _ _))
    · intro _
      constructor
      · rw [ran]
        intro impossible
        cases impossible
      · rw [ran, ranToo]
        rfl
  · have templateToo : self.orEmpty.query.parseElems ≠ [] := plain
    rw [← blankUnreached_iff escape, ← str_outcome_eq_fill escape self plain]
    constructor
    · intro spared
      exact spared.defined
    · intro defined
      refine ⟨defined, ?_⟩
      rw [str_outcome_eq_fill escape self plain] at defined ⊢
      rw [str_outcome_eq_fill escape self.orEmpty templateToo]
      exact Segment.fill_eq_of_ne (said_alike escape self) defined

/-- One parameter that was never given a value, in `%0q`. -/
theorem default_not_spared :
    ¬Spared SQLStream.escapeText (fillingWith quotedPosition SQLTypeAdapter.default) := by
  intro spared
  exact spared.defined rfl

end Filling

end LibTabula
