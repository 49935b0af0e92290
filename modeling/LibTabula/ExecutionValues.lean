/-
What a single value says in a template.

A template with one placeholder says what is around it and the value as its option wants
it. Some functions hand over the value's text instead, as a parameter or, if there is not
exactly one placeholder, as the whole query. For both it is said here when that makes no
difference.
-/

import LibTabula.ExecutionTexts

set_option autoImplicit false

namespace LibTabula

open Foundation

/-! ### Templates with one placeholder -/

def Query.argument (q : Query) (p : Option SQLQueryParms) (num : Nat) : Option SQLTypeAdapter :=
  match Filling.cells ⟨q, p⟩ num with
  | .missing => none
  | .explicit S => some S
  | .inPlace S => some S

def Query.parameterText (escape : Bytes → Bytes) (q : Query) (p : Option SQLQueryParms)
    (elem : SQLParseElement) : Except Failure Bytes :=
  match q.argument p elem.num.toNat with
  | none => .error Filling.tooFew
  | some S => rendered escape elem.option S

def around (elem : SQLParseElement) (trailing text : Bytes) : Bytes :=
  elem.before ++ text ++ trailing

theorem around_injective (elem : SQLParseElement) (trailing : Bytes) :
    Function.Injective (around elem trailing) := by
  intro text other same
  exact List.append_cancel_left (List.append_cancel_right same)

theorem map_around_injective {elem : SQLParseElement} {trailing : Bytes}
    {left right : Except Failure Bytes} :
    left.map (around elem trailing) = right.map (around elem trailing) ↔ left = right := by
  constructor
  · intro same
    cases left <;> cases right <;> simp only [Except.map, Except.ok.injEq, Except.error.injEq,
      reduceCtorEq] at same
    · rw [same]
    · rw [around_injective elem trailing same]
  · intro same
    rw [same]

section Single

variable {δ : Type} {driver : DBDriver δ} {session : Session δ} {template : ParsedTemplate}
  {elem : SQLParseElement}

theorem segments_single (single : template.placeholders = [elem]) :
    template.segments =
      [elem.segment, { before := template.trailing, slot := none }] := by
  rw [ParsedTemplate.segments, ParsedTemplate.elems, single]
  rfl

theorem strOutcome_negative (parsed : session.query.parseElems = template.elems)
    (single : template.placeholders = [elem]) (negative : elem.num < 0)
    (p : Option SQLQueryParms) :
    session.strOutcome driver p = .ok (around elem template.trailing []) := by
  have literal : elem.segment.slot = none := by
    rw [SQLParseElement.segment, if_neg (by omega)]
  rw [Session.strOutcome, (Query.str_run driver.escapeString parsed p).1, segments_single single,
    Segment.fill_cons_none literal]
  simp [Segment.fill, Except.map, around, SQLParseElement.segment]

theorem strOutcome_single (parsed : session.query.parseElems = template.elems)
    (single : template.placeholders = [elem]) (position : 0 ≤ elem.num)
    (p : Option SQLQueryParms) :
    session.strOutcome driver p =
      (session.query.parameterText driver.escapeString p elem).map
        (around elem template.trailing) := by
  have slot : elem.segment.slot = some (elem.num.toNat, elem.option) := by
    rw [SQLParseElement.segment, if_pos position]
  have first : Segment.firstOption template.segments elem.num.toNat = some elem.option := by
    rw [segments_single single]
    exact Segment.firstOption_cons_some slot _
  have text : slotText driver.escapeString template.segments
      (Filling.cells ⟨session.query, p⟩) (elem.num.toNat, elem.option) =
        session.query.parameterText driver.escapeString p elem := by
    unfold slotText Query.parameterText Query.argument
    simp only [first, Option.getD_some]
    cases Filling.cells ⟨session.query, p⟩ elem.num.toNat <;> rfl
  rw [Session.strOutcome, (Query.str_run driver.escapeString parsed p).1]
  cases value : session.query.parameterText driver.escapeString p elem with
  | error failure =>
      rw [value] at text
      have failed := Segment.fill_cons_error slot text
        [{ before := template.trailing, slot := none }]
      rw [← segments_single single] at failed
      rw [failed]
      rfl
  | ok text_ =>
      rw [value] at text
      have filled := Segment.fill_cons_ok slot text
        [{ before := template.trailing, slot := none }]
      rw [← segments_single single] at filled
      rw [filled]
      simp [Segment.fill, Except.map, around, SQLParseElement.segment]

end Single

/-! ### Parameters behind a list -/

theorem cells_behind {self : Filling} (bound : self.query.templateDefaults.bound = true)
    {num : Nat} (behind : passedSize self.passed ≤ num) {S : SQLTypeAdapter}
    (there : self.query.templateDefaults.elems[num]? = some S) : self.cells num = .inPlace S := by
  have short : num < self.query.templateDefaults.size := by
    obtain ⟨within, _⟩ := List.getElem?_eq_some_iff.mp there
    exact within
  rw [Filling.cells, select_behind behind, if_pos short]
  simp only [Filling.parms, bound, if_true, Filling.param, List.getD_eq_getElem?_getD, there,
    Option.getD_some]

theorem argument_behind {q : Query} {p : Option SQLQueryParms} {num : Nat}
    (behind : passedSize p ≤ num) : q.argument p num = q.templateDefaults.elems[num]? := by
  unfold Query.argument Filling.cells
  rw [select_behind behind]
  by_cases short : num < q.templateDefaults.size
  · have there : q.templateDefaults.elems[num]? =
        some (q.templateDefaults.elems.get ⟨num, short⟩) := List.getElem?_eq_getElem short
    simp only [if_pos short, Filling.param, Filling.parms, List.getD_eq_getElem?_getD, there,
      Option.getD_some]
    cases q.templateDefaults.bound <;> rfl
  · have outside : q.templateDefaults.elems[num]? = none :=
      List.getElem?_eq_none (Nat.not_lt.mp short)
    simp only [if_neg short, outside]

theorem argument_ofList_zero (q : Query) (s : SQLTypeAdapter) :
    q.argument (some (SQLQueryParms.ofList [s])) 0 = some s.copy := by
  simp [Query.argument, Filling.cells, Filling.select, Filling.parms, Filling.param]

theorem argument_ofList_pos (q : Query) (s : SQLTypeAdapter) {num : Nat} (positive : 0 < num) :
    q.argument (some (SQLQueryParms.ofList [s])) num = q.templateDefaults.elems[num]? := by
  apply argument_behind
  simp only [passedSize, SQLQueryParms.ofList_size, List.length_singleton]
  omega

/-! ### Values that become texts -/

def Plain (option : UInt8) : Prop := option ≠ byte 'q' ∧ option ≠ byte 'Q'

instance (option : UInt8) : Decidable (Plain option) :=
  inferInstanceAs (Decidable (option ≠ byte 'q' ∧ option ≠ byte 'Q'))

/-- A value whose text, taken for a text parameter, is formatted like the value. -/
def KeepsText (escape : Bytes → Bytes) (option : UInt8) (s : SQLTypeAdapter) : Prop :=
  s.isNull = .ok true ∧ Plain option ∧ s.data = ascii "NULL" ∨
    s.isNull = .ok false ∧
      (Plain option ∨
        s.quoteQ = .ok true ∧
          (option = byte 'q' → s.escapeQ = true ∨ escape s.data = s.data))

theorem inQuotes_injective {text other : Bytes}
    (same : Query.inQuotes true text = Query.inQuotes true other) : text = other := by
  unfold Query.inQuotes at same
  exact List.append_cancel_left (List.append_cancel_right same)

theorem inQuotes_ne_null (text : Bytes) : Query.inQuotes true text ≠ ascii "NULL" := by
  intro same
  have heads := congrArg List.head? same
  simp only [Query.inQuotes, if_true, List.cons_append, List.head?_cons] at heads
  exact absurd heads (by decide)

theorem formattedText_plain (escape : Bytes → Bytes) {option : UInt8} (plain : Plain option)
    (text : Bytes) : formattedText escape option text = text := by
  rw [formattedText, if_neg plain.1, if_neg plain.2]

theorem formattedText_quoted (escape : Bytes → Bytes) {option : UInt8} (quoting : ¬ Plain option)
    (text : Bytes) :
    formattedText escape option text =
      Query.inQuotes true (if option = byte 'q' then escape text else text) := by
  by_cases q : option = byte 'q'
  · rw [formattedText, if_pos q, if_pos q]
  · have Q : option = byte 'Q' := by
      by_contra notQ
      exact quoting ⟨q, notQ⟩
    rw [formattedText, if_neg q, if_pos Q, if_neg q]

theorem rendered_of_notNull (escape : Bytes → Bytes) {option : UInt8} {s : SQLTypeAdapter}
    (notNull : s.isNull = .ok false) :
    rendered escape option s.copy =
      if Plain option then .ok s.data
      else s.quoteQ.map fun quote =>
        Query.inQuotes quote
          (if option = byte 'q' ∧ s.escapeQ = true then escape s.data else s.data) := by
  simp only [rendered, SQLTypeAdapter.copy_isNull, notNull, Query.pprepare,
    SQLTypeAdapter.copy_isProcessed, Bool.false_eq_true, if_false, SQLTypeAdapter.copy_quoteQ,
    SQLTypeAdapter.copy_escapeQ, SQLTypeAdapter.copy_data]
  by_cases q : option = byte 'q'
  · have quoting : ¬ Plain option := fun plain => plain.1 q
    rw [if_pos q, if_neg quoting]
    simp only [q, true_and]
    cases s.quoteQ with
    | error failure => rfl
    | ok quote =>
        by_cases escaping : s.escapeQ = true <;>
          simp [Except.map, Cell.prepared_data, escaping]
  · by_cases Q : option = byte 'Q'
    · have quoting : ¬ Plain option := fun plain => plain.2 Q
      rw [if_neg q, if_pos Q, if_neg quoting]
      simp only [q, false_and, if_false]
      cases s.quoteQ with
      | error failure => rfl
      | ok quote =>
          cases quote <;>
            simp [Except.map, Cell.prepared_data, Cell.unprepared_data, Query.inQuotes]
    · have plain : Plain option := ⟨q, Q⟩
      simp only [if_neg q, if_neg Q, if_pos plain, Except.map, Cell.unprepared_data,
        SQLTypeAdapter.copy_data]

/-- A text in quotes against a value that may be quoted and escaped. -/
theorem inQuotes_eq_iff {escape : Bytes → Bytes} (documented : DocumentedEscape escape)
    (option : UInt8) (quote escaping : Bool) (data : Bytes) :
    Query.inQuotes true (if option = byte 'q' then escape data else data) =
        Query.inQuotes quote (if option = byte 'q' ∧ escaping = true then escape data else data) ↔
      quote = true ∧ (option = byte 'q' → escaping = true ∨ escape data = data) := by
  cases quote with
  | false =>
      have longer := documented.length_le data
      simp only [Bool.false_eq_true, false_and, iff_false]
      intro same
      have lengths := congrArg List.length same
      rw [length_inQuotes] at lengths
      simp only [Query.inQuotes, Bool.false_eq_true, if_false, List.nil_append,
        List.append_nil] at lengths
      by_cases q : option = byte 'q'
      · simp only [q, true_and, if_true] at lengths
        split_ifs at lengths <;> omega
      · simp only [q, false_and, if_false] at lengths
        omega
  | true =>
      rw [and_iff_right rfl]
      constructor
      · intro same q
        have texts := inQuotes_injective same
        simp only [q, true_and, if_true] at texts
        by_cases escaped : escaping = true
        · exact Or.inl escaped
        · rw [if_neg escaped] at texts
          exact Or.inr texts
      · intro alike
        by_cases q : option = byte 'q'
        · simp only [q, true_and, if_true]
          cases alike q with
          | inl escaped => rw [if_pos escaped]
          | inr same => rw [same, ite_self]
        · simp only [q, false_and, if_false]

theorem rendered_text_iff {escape : Bytes → Bytes} (documented : DocumentedEscape escape)
    (option : UInt8) (s : SQLTypeAdapter) :
    rendered escape option (SQLTypeAdapter.ofString s.data false).copy =
      rendered escape option s.copy ↔ KeepsText escape option s := by
  rw [rendered_ofString]
  cases null : s.isNull with
  | error failure =>
      have failed : rendered escape option s.copy = .error failure := by
        simp only [rendered, SQLTypeAdapter.copy_isNull, null]
      simp [failed, KeepsText, null]
  | ok isNull =>
      cases isNull with
      | true =>
          have standsFor : rendered escape option s.copy = .ok (ascii "NULL") := by
            simp only [rendered, SQLTypeAdapter.copy_isNull, null]
          simp only [standsFor, Except.ok.injEq, KeepsText, null, Bool.true_eq_false,
            false_and, or_false, true_and]
          by_cases plain : Plain option
          · simp only [formattedText_plain escape plain, plain, true_and]
          · simp only [formattedText_quoted escape plain, plain, false_and, iff_false]
            exact inQuotes_ne_null _
      | false =>
          rw [rendered_of_notNull escape null]
          by_cases plain : Plain option
          · rw [if_pos plain, formattedText_plain escape plain]
            simp only [KeepsText, null, plain, true_or, and_self, or_true]
          · rw [formattedText_quoted escape plain, if_neg plain]
            simp only [KeepsText, null, plain, false_and, and_false, false_or, true_and,
              Except.ok.injEq, Bool.false_eq_true]
            cases quoting : s.quoteQ with
            | error failure => simp [Except.map]
            | ok quote =>
                simp only [Except.map, Except.ok.injEq]
                exact inQuotes_eq_iff documented option quote s.escapeQ s.data

/-! ### Values that are taken for the whole text -/

namespace ParsedTemplate

variable (self : ParsedTemplate)

/-- The placeholders for the first parameter. -/
def firstPlaces : List SQLParseElement := self.placeholders.filter fun elem => elem.num = 0

theorem countP_slots :
    (Segment.slots self.segments).countP (fun slot => slot.1 = 0) = self.firstPlaces.length := by
  have slots : Segment.slots self.segments =
      self.placeholders.filterMap fun elem => elem.segment.slot := by
    rw [Segment.slots, segments, elems, List.map_append, List.filterMap_append,
      List.filterMap_map]
    exact List.append_nil _
  rw [slots, List.countP_filterMap, firstPlaces, ← List.countP_eq_length_filter]
  apply List.countP_congr
  intro elem _
  unfold SQLParseElement.segment
  by_cases position : 0 ≤ elem.num
  · simp only [if_pos position, Option.map_some, Option.getD_some, decide_eq_true_eq]
    omega
  · simp only [if_neg position, Option.map_none, Option.getD_none, Bool.false_eq_true,
      decide_eq_true_eq, false_iff]
    omega

/-- What the template says with a text for the first parameter, and its defaults in the
other places. -/
def textAround (escape : Bytes → Bytes) (q : Query) (text : Bytes) : Except Failure Bytes :=
  Segment.fill (fun slot => if slot.1 = 0 then .ok text
    else slotText escape self.segments (Filling.cells ⟨q, none⟩) slot) self.segments

end ParsedTemplate

/-- A value that is not null and is formatted as its text, as it is. -/
def KeepsData (escape : Bytes → Bytes) (option : UInt8) (s : SQLTypeAdapter) : Prop :=
  Plain option ∨
    s.quoteQ = .ok false ∧
      (option = byte 'q' → s.escapeQ = true → escape s.data = s.data)

/-- The text of a value is what the template says with it: the template does not use the value
and says the same by chance, or says it around the word for the value's null, or there is
nothing in the template but the value, and it but once unless it is empty. -/
inductive StandsForTemplate (escape : Bytes → Bytes) (template : ParsedTemplate) (q : Query)
    (s : SQLTypeAdapter) : Prop
  | unused (none_ : template.firstPlaces = [])
      (same : template.textAround escape q [] = .ok s.data)
  | null (isNull : s.isNull = .ok true)
      (same : template.textAround escape q (ascii "NULL") = .ok s.data)
  | alone (notNull : s.isNull = .ok false) (nothing : template.textAround escape q [] = .ok [])
      (kept : ∀ elem ∈ template.firstPlaces, KeepsData escape elem.option s)
      (once : template.firstPlaces.length = 1 ∨ s.data = [])

section Whole

variable {escape : Bytes → Bytes} {template : ParsedTemplate} {q : Query} {s : SQLTypeAdapter}

theorem cells_ofList_zero (q : Query) (s : SQLTypeAdapter) :
    Filling.cells ⟨q, some (SQLQueryParms.ofList [s])⟩ 0 = .explicit s.copy := by
  simp [Filling.cells, Filling.select, Filling.parms, Filling.param]

theorem cells_ofList_pos (q : Query) (s : SQLTypeAdapter) {num : Nat} (positive : num ≠ 0) :
    Filling.cells ⟨q, some (SQLQueryParms.ofList [s])⟩ num = Filling.cells ⟨q, none⟩ num := by
  have behind : passedSize (some (SQLQueryParms.ofList [s])) ≤ num := by
    simp only [passedSize, SQLQueryParms.ofList_size, List.length_singleton]
    omega
  unfold Filling.cells
  rw [select_behind behind, select_behind (Nat.zero_le num)]
  by_cases short : num < q.templateDefaults.size
  · simp only [if_pos short]
    rfl
  · simp only [if_neg short]

variable (escape template q s) in
/-- What a slot says if only the value is passed. -/
def valueText (slot : Nat × UInt8) : Except Failure Bytes :=
  if slot.1 = 0 then rendered escape slot.2 s.copy
  else slotText escape template.segments (Filling.cells ⟨q, none⟩) slot

theorem slotText_ofList (slot : Nat × UInt8) :
    slotText escape template.segments
        (Filling.cells ⟨q, some (SQLQueryParms.ofList [s])⟩) slot =
      valueText escape template q s slot := by
  unfold valueText
  by_cases first : slot.1 = 0
  · rw [if_pos first, slotText, first, cells_ofList_zero]
  · rw [if_neg first, slotText, cells_ofList_pos q s first]
    rfl

/-- Formatting makes no value shorter, and the same of it only where it adds nothing. -/
theorem rendered_notNull (documented : DocumentedEscape escape) {option : UInt8}
    (notNull : s.isNull = .ok false) :
    (rendered escape option s.copy = .ok s.data ↔ KeepsData escape option s) ∧
      ∀ text, rendered escape option s.copy = .ok text → s.data.length ≤ text.length := by
  rw [rendered_of_notNull escape notNull]
  unfold KeepsData
  by_cases plain : Plain option
  · rw [if_pos plain]
    exact ⟨iff_of_true rfl (Or.inl plain), fun text said => by rw [Except.ok.inj said]⟩
  · rw [if_neg plain]
    simp only [plain, false_or]
    cases quoting : s.quoteQ with
    | error failure =>
        constructor
        · apply iff_of_false
          · intro impossible
            cases impossible
          · intro given
            cases given.1
        · intro text impossible
          cases impossible
    | ok quote =>
        have longer : s.data.length ≤
            (if option = byte 'q' ∧ s.escapeQ = true then escape s.data else s.data).length := by
          split
          · exact documented.length_le s.data
          · exact Nat.le_refl _
        simp only [Except.map, Except.ok.injEq]
        cases quote with
        | true =>
            constructor
            · apply iff_of_false
              · intro same
                have lengths := congrArg List.length same
                rw [length_inQuotes] at lengths
                omega
              · intro given
                cases given.1
            · intro text same
              rw [← same, length_inQuotes]
              omega
        | false =>
            have bare : ∀ text, Query.inQuotes false text = text := fun text => List.append_nil text
            rw [bare, and_iff_right rfl]
            constructor
            · by_cases escaped : option = byte 'q' ∧ s.escapeQ = true
              · rw [if_pos escaped]
                exact ⟨fun same _ _ => same, fun kept => kept escaped.1 escaped.2⟩
              · rw [if_neg escaped]
                exact iff_of_true rfl fun q given => absurd ⟨q, given⟩ escaped
            · intro text same
              rw [← same]
              exact longer

theorem mem_firstPlaces {elem : SQLParseElement} :
    elem ∈ template.firstPlaces ↔ elem ∈ template.placeholders ∧ elem.num = 0 := by
  rw [ParsedTemplate.firstPlaces, List.mem_filter, decide_eq_true_eq]

/-- A template in which the value says one text wherever it has a place. -/
theorem fill_value_of_rendered {text : Bytes}
    (said : ∀ elem ∈ template.firstPlaces, rendered escape elem.option s.copy = .ok text) :
    Segment.fill (valueText escape template q s) template.segments =
      template.textAround escape q text := by
  apply Segment.fill_congr
  intro slot member
  unfold valueText
  by_cases first : slot.1 = 0
  · obtain ⟨elem, there, position, option⟩ := (template.mem_slots slot.1 slot.2).mp member
    have place : elem ∈ template.firstPlaces := mem_firstPlaces.mpr ⟨there, by omega⟩
    rw [if_pos first, if_pos first, ← option, said elem place]
  · rw [if_neg first, if_neg first]

/-- What a template says that has a place for the value. -/
theorem fill_value_eq_iff (documented : DocumentedEscape escape)
    (used : template.firstPlaces ≠ []) (notNull : s.isNull = .ok false) :
    Segment.fill (valueText escape template q s) template.segments = .ok s.data ↔
      template.textAround escape q [] = .ok [] ∧
        (∀ elem ∈ template.firstPlaces, KeepsData escape elem.option s) ∧
        (template.firstPlaces.length = 1 ∨ s.data = []) := by
  have long : ∀ slot ∈ Segment.slots template.segments, decide (slot.1 = 0) = true →
      ∀ text, valueText escape template q s slot = .ok text →
        s.data.length ≤ text.length := by
    intro slot _ first text said
    rw [valueText, if_pos (of_decide_eq_true first)] at said
    exact (rendered_notNull documented notNull).2 text said
  have some_ : 0 < (Segment.slots template.segments).countP fun slot => slot.1 = 0 := by
    rw [template.countP_slots]
    exact List.length_pos_iff.mpr used
  rw [Segment.fill_eq_ok_iff_alone long some_, template.countP_slots]
  have blanked : Segment.blank (fun slot : Nat × UInt8 => decide (slot.1 = 0))
      (valueText escape template q s) =
      fun slot => if slot.1 = 0 then .ok []
        else slotText escape template.segments (Filling.cells ⟨q, none⟩) slot := by
    funext slot
    by_cases first : slot.1 = 0
    · rw [Segment.blank, if_pos (decide_eq_true first), if_pos first]
    · rw [Segment.blank, if_neg (mt of_decide_eq_true first), if_neg first, valueText,
        if_neg first]
  rw [blanked]
  apply and_congr_right
  intro _
  apply and_congr_left
  intro _
  constructor
  · intro kept elem member
    obtain ⟨there, position⟩ := mem_firstPlaces.mp member
    have slot := (template.mem_slots 0 elem.option).mpr ⟨elem, there, position, rfl⟩
    exact (rendered_notNull documented notNull).1.mp (kept _ slot rfl)
  · intro kept slot member first
    have isFirst := of_decide_eq_true first
    obtain ⟨elem, there, position, option⟩ := (template.mem_slots slot.1 slot.2).mp member
    have place : elem ∈ template.firstPlaces := mem_firstPlaces.mpr ⟨there, by omega⟩
    rw [valueText, if_pos isFirst, ← option]
    exact (rendered_notNull documented notNull).1.mpr (kept elem place)

theorem fill_value_unused_iff (unused : template.firstPlaces = []) :
    Segment.fill (valueText escape template q s) template.segments = .ok s.data ↔
      StandsForTemplate escape template q s := by
  have around (text : Bytes) : Segment.fill (valueText escape template q s) template.segments =
      template.textAround escape q text := by
    apply fill_value_of_rendered
    rw [unused]
    exact List.forall_mem_nil _
  constructor
  · intro same
    exact .unused unused ((around []).symm.trans same)
  · intro stands
    cases stands with
    | unused _ same => exact (around []).trans same
    | null _ same => exact (around (ascii "NULL")).trans same
    | alone _ nothing _ once =>
        rw [unused] at once
        cases once with
        | inl one => cases one
        | inr empty => rw [around [], nothing, empty]

theorem fill_value_null_iff (used : template.firstPlaces ≠ []) (isNull : s.isNull = .ok true) :
    Segment.fill (valueText escape template q s) template.segments = .ok s.data ↔
      StandsForTemplate escape template q s := by
  have around : Segment.fill (valueText escape template q s) template.segments =
      template.textAround escape q (ascii "NULL") := by
    apply fill_value_of_rendered
    intro elem _
    rw [rendered, SQLTypeAdapter.copy_isNull, isNull]
  rw [around]
  constructor
  · intro same
    exact .null isNull same
  · intro stands
    cases stands with
    | unused none_ _ => exact absurd none_ used
    | null _ same => exact same
    | alone given _ _ _ =>
        rw [isNull] at given
        cases given

theorem fill_value_failed_iff (used : template.firstPlaces ≠ []) {failure : Failure}
    (isNull : s.isNull = .error failure) :
    Segment.fill (valueText escape template q s) template.segments = .ok s.data ↔
      StandsForTemplate escape template q s := by
  obtain ⟨elem, place⟩ := List.exists_mem_of_ne_nil _ used
  obtain ⟨there, position⟩ := mem_firstPlaces.mp place
  have slot := (template.mem_slots 0 elem.option).mpr ⟨elem, there, position, rfl⟩
  apply iff_of_false
  · intro filled
    obtain ⟨rest, apart⟩ := Segment.exists_apart (fun _ => false) filled
    have reads := apart.there _ slot
    rw [valueText, if_pos rfl, rendered, SQLTypeAdapter.copy_isNull, isNull] at reads
    cases reads
  · intro stands
    cases stands with
    | unused none_ _ => exact used none_
    | null given _ | alone given _ _ _ =>
        rw [isNull] at given
        cases given

/-- When a template with the value says the value's text. -/
theorem fill_eq_data_iff (documented : DocumentedEscape escape) :
    Segment.fill (slotText escape template.segments
        (Filling.cells ⟨q, some (SQLQueryParms.ofList [s])⟩)) template.segments = .ok s.data ↔
      StandsForTemplate escape template q s := by
  rw [Segment.fill_congr fun slot _ => slotText_ofList slot]
  by_cases used : template.firstPlaces = []
  · exact fill_value_unused_iff used
  · cases isNull : s.isNull with
    | error failure => exact fill_value_failed_iff used isNull
    | ok null =>
        cases null with
        | true => exact fill_value_null_iff used isNull
        | false =>
            rw [fill_value_eq_iff documented used isNull]
            constructor
            · intro given
              obtain ⟨nothing, kept, once⟩ := given
              exact .alone isNull nothing kept once
            · intro stands
              cases stands with
              | unused none_ _ => exact absurd none_ used
              | null given _ =>
                  rw [isNull] at given
                  cases given
              | alone _ nothing kept once => exact ⟨nothing, kept, once⟩

end Whole

end LibTabula
