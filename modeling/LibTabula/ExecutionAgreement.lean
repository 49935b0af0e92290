/-
When the execution functions send the text of `str()`.

They do wherever a call substitutes the parameters once and in the form in which it
got them. That leaves a value given to a template without exactly one placeholder,
a value that `store`, `use` and `storein` turn into a text, and a text that
`storein` has made of the other parameters and takes for a parameter again.
-/

import LibTabula.ExecutionValues

set_option autoImplicit false

namespace LibTabula

open Foundation

/-! ### A second substitution -/

theorem rendered_of_use {escape : Bytes → Bytes} {option : UInt8} {S : SQLTypeAdapter}
    {text : Bytes} {cell : Cell} (used : Cell.use escape option (.inPlace S) = .ok (text, cell)) :
    rendered escape option S = .ok text := by
  rw [← Cell.use_inPlace_text, used]
  rfl

section Again

variable {δ : Type} {driver : DBDriver δ} {session : Session δ} {template : ParsedTemplate}
  {elem : SQLParseElement}

theorem afterStr_default_covered (parsed : session.query.parseElems = template.elems)
    {p : Option SQLQueryParms} {num : Nat} (covered : num < passedSize p) :
    (session.afterStr driver p).query.templateDefaults.elems[num]? =
      session.query.templateDefaults.elems[num]? := by
  obtain ⟨_outcome, after, kept, final, _cells⟩ := Query.str_run driver.escapeString parsed p
  cases p with
  | none => exact absurd covered (Nat.not_lt_zero num)
  | some list =>
      have shadowed := kept.shadowed list rfl num covered
      rw [final] at shadowed
      exact shadowed

theorem afterStr_default_behind (parsed : session.query.parseElems = template.elems)
    (bound : session.query.templateDefaults.bound = true)
    (single : template.placeholders = [elem]) (position : 0 ≤ elem.num)
    {p : Option SQLQueryParms} (behind : passedSize p ≤ elem.num.toNat) {S : SQLTypeAdapter}
    (there : session.query.templateDefaults.elems[elem.num.toNat]? = some S) {text : Bytes}
    (stated : rendered driver.escapeString elem.option S = .ok text) :
    ∃ S', (session.afterStr driver p).query.templateDefaults.elems[elem.num.toNat]? = some S' ∧
      rendered driver.escapeString elem.option S' = .ok text := by
  obtain ⟨_outcome, after, kept, final, cells⟩ := Query.str_run driver.escapeString parsed p
  obtain ⟨_text, elems, query, length⟩ := kept.query
  have within : elem.num.toNat < elems.length := by
    obtain ⟨short, _value⟩ := List.getElem?_eq_some_iff.mp there
    rw [length]
    exact short
  have result : (session.afterStr driver p).query.templateDefaults.elems = elems := by
    change ((Query.str driver.escapeString p).run session.query).final.templateDefaults.elems = _
    rw [← final, query]
  have found : elems[elem.num.toNat]? = some (elems.get ⟨elem.num.toNat, within⟩) :=
    List.getElem?_eq_getElem within
  rw [result]
  refine ⟨_, found, ?_⟩
  have sizeAfter : passedSize after.passed = passedSize p := by
    cases p with
    | none => rw [kept.none rfl]
    | some list =>
        obtain ⟨others, passed, sameLength, _unchanged⟩ := kept.passed list rfl
        rw [passed]
        exact sameLength
  have before : Filling.cells ⟨session.query, p⟩ elem.num.toNat = .inPlace S :=
    cells_behind bound behind there
  have later : after.cells elem.num.toNat = .inPlace (elems.get ⟨elem.num.toNat, within⟩) := by
    apply cells_behind
    · rw [query]
      exact bound
    · rw [sizeAfter]
      exact behind
    · rw [query]
      exact found
  have store := Segment.run_store (Cell.settling driver.escapeString
    (Filling.cells ⟨session.query, p⟩)) template.segments elem.num.toNat
  rw [← cells, before, later] at store
  rcases store with same | ⟨_kind, option, value, first, used⟩
  · rw [Cell.inPlace.inj same]
    exact stated
  · -- The only slot has settled it.
    have slot : elem.segment.slot = some (elem.num.toNat, elem.option) := by
      rw [SQLParseElement.segment, if_pos position]
    rw [segments_single single, Segment.firstOption_cons_some slot, Option.some.injEq] at first
    subst first
    rw [rendered_of_use (Cell.use_settles driver.escapeString used elem.option)]
    rw [← stated, rendered_of_use used]

end Again

/-! ### Agreement -/

structure Session.Ready {δ : Type} (template : ParsedTemplate) (session : Session δ) :
    Prop where
  parsed : session.query.parseElems = template.elems
  bound : session.query.templateDefaults.bound = true
  idle : session.query.templateDefaults.processing = false

theorem Session.ready_of_parse {δ : Type} {self : QueryId} {te : Bool} {qstr : Bytes}
    {after : Query} (parsed : Query.parse.run (Query.new self te qstr) = .ok () after)
    (conn : Connection δ) :
    ∃ template, Session.Ready template { query := after, conn := conn } := by
  obtain ⟨template, elems⟩ := Query.parse_elems parsed
  have kept := Query.preserves_parse (Query.new self te qstr)
  rw [parsed] at kept
  change after.templateDefaults = _ at kept
  refine ⟨template, ?_, ?_, ?_⟩
  · rw [elems]
    rfl
  · rw [kept]
    rfl
  · rw [kept]
    rfl

/-- An execution function called with some parameters sends what `str` says for them,
and throws what `str` throws. -/
def SendsStr {δ : Type} (driver : DBDriver δ) (session : Session δ) (entry : Entry)
    (parameters : Parameters) : Prop :=
  Delivers ((entry.run driver parameters).run session) session.texts
    (session.strOutcome driver parameters.passed)

/-- The text of a template with one placeholder, given to it as a parameter again,
gives the same text: either it is the parameter and nothing else, or it does not
reach the placeholder, whose default says what the parameter said. -/
def SubstitutesOnce (escape : Bytes → Bytes) (template : ParsedTemplate) (q : Query)
    (p : Option SQLQueryParms) (elem : SQLParseElement) : Prop :=
  ∀ text, 0 ≤ elem.num → q.parameterText escape p elem = .ok text →
    if elem.num = 0 then Plain elem.option ∧ elem.before = [] ∧ template.trailing = []
    else ∃ S, q.templateDefaults.elems[elem.num.toNat]? = some S ∧
      rendered escape elem.option S = .ok text

def Entry.AgreesWithStr {δ : Type} (driver : DBDriver δ) (template : ParsedTemplate)
    (session : Session δ) : Entry → Parameters → Prop
  | entry, .one s =>
      match template.placeholders with
      | [elem] =>
          entry = execute ∨ elem.num ≠ 0 ∨ KeepsText driver.escapeString elem.option s
      | _ => StandsForTemplate driver.escapeString template session.query s
  | storein, parameters =>
      ∀ elem, template.placeholders = [elem] →
        SubstitutesOnce driver.escapeString template session.query parameters.passed elem
  | _, _ => True

section Agreement

variable {δ : Type} {driver : DBDriver δ} {session : Session δ} {template : ParsedTemplate}
  {elem : SQLParseElement}

/-- A value and its text, each given to a template with one placeholder. -/
theorem strOutcome_text_iff (documented : DocumentedEscape driver.escapeString)
    (ready : session.Ready template) (single : template.placeholders = [elem])
    (s : SQLTypeAdapter) :
    session.strOutcome driver
          (some (SQLQueryParms.ofList [SQLTypeAdapter.ofString s.data false])) =
        session.strOutcome driver (some (SQLQueryParms.ofList [s])) ↔
      elem.num ≠ 0 ∨ KeepsText driver.escapeString elem.option s := by
  by_cases position : 0 ≤ elem.num
  · rw [strOutcome_single ready.parsed single position,
      strOutcome_single ready.parsed single position, map_around_injective]
    by_cases zero : elem.num = 0
    · simp only [Query.parameterText, zero, Int.toNat_zero, argument_ofList_zero, ne_eq,
        not_true_eq_false, false_or]
      exact rendered_text_iff documented elem.option s
    · have positive : 0 < elem.num.toNat := by omega
      simp only [Query.parameterText, argument_ofList_pos _ _ positive, ne_eq, zero,
        not_false_eq_true, true_or]
  · have negative : elem.num < 0 := Int.not_le.mp position
    have notZero : elem.num ≠ 0 := by omega
    simp only [strOutcome_negative ready.parsed single negative, ne_eq, notZero,
      not_false_eq_true, true_or]

theorem around_again_iff {escape : Bytes → Bytes} (documented : DocumentedEscape escape)
    (elem : SQLParseElement) (trailing text : Bytes) :
    formattedText escape elem.option (around elem trailing text) = text ↔
      Plain elem.option ∧ elem.before = [] ∧ trailing = [] := by
  by_cases plain : Plain elem.option
  · rw [formattedText_plain escape plain]
    constructor
    · intro same
      have lengths := congrArg List.length same
      simp only [around, List.length_append] at lengths
      have nothingBefore : elem.before.length = 0 := by omega
      have nothingBehind : trailing.length = 0 := by omega
      exact ⟨plain, List.length_eq_zero_iff.mp nothingBefore,
        List.length_eq_zero_iff.mp nothingBehind⟩
    · intro found
      obtain ⟨_plain, nothingBefore, nothingBehind⟩ := found
      simp only [around, nothingBefore, nothingBehind, List.nil_append, List.append_nil]
  · simp only [plain, false_and, iff_false]
    intro same
    have lengths := congrArg List.length same
    rw [formattedText_quoted escape plain, length_inQuotes] at lengths
    have longer := documented.length_le (around elem trailing text)
    have contains : text.length ≤ (around elem trailing text).length := by
      simp only [around, List.length_append]
      omega
    split_ifs at lengths <;> omega

/-- The text of a template with one placeholder as a parameter of the same template. -/
theorem strOutcome_again_iff (documented : DocumentedEscape driver.escapeString)
    (ready : session.Ready template) (single : template.placeholders = [elem])
    {p : Option SQLQueryParms} {whole : Bytes}
    (made : session.strOutcome driver p = .ok whole) :
    (session.afterStr driver p).strOutcome driver
          (some (SQLQueryParms.ofList [SQLTypeAdapter.ofString whole false])) = .ok whole ↔
      SubstitutesOnce driver.escapeString template session.query p elem := by
  obtain ⟨parsedAfter, _flag⟩ := Session.afterStr_query driver ready.parsed p
  by_cases position : 0 ≤ elem.num
  · rw [strOutcome_single ready.parsed single position] at made
    rw [strOutcome_single parsedAfter single position]
    unfold SubstitutesOnce
    cases value : session.query.parameterText driver.escapeString p elem with
    | error failure =>
        rw [value] at made
        cases made
    | ok text =>
        rw [value] at made
        cases made
        have wrapped : (Except.ok (around elem template.trailing text) : Except Failure Bytes) =
            (Except.ok text : Except Failure Bytes).map (around elem template.trailing) := rfl
        rw [wrapped, map_around_injective]
        simp only [position, Except.ok.injEq, forall_const, forall_eq']
        by_cases zero : elem.num = 0
        · simp only [Query.parameterText, zero, Int.toNat_zero, argument_ofList_zero, if_true,
            rendered_ofString, Except.ok.injEq]
          exact around_again_iff documented elem template.trailing text
        · have positive : 0 < elem.num.toNat := by omega
          rw [if_neg zero, Query.parameterText, argument_ofList_pos _ _ positive]
          by_cases covered : elem.num.toNat < passedSize p
          · rw [afterStr_default_covered ready.parsed covered]
            cases session.query.templateDefaults.elems[elem.num.toNat]? with
            | none => simp
            | some S => simp
          · have behind : passedSize p ≤ elem.num.toNat := Nat.not_lt.mp covered
            rw [Query.parameterText, argument_behind behind] at value
            cases there : session.query.templateDefaults.elems[elem.num.toNat]? with
            | none =>
                rw [there] at value
                cases value
            | some S =>
                rw [there] at value
                obtain ⟨S', later, same⟩ := afterStr_default_behind ready.parsed ready.bound
                  single position behind there value
                rw [later]
                exact iff_of_true same ⟨S, rfl, value⟩
  · have negative : elem.num < 0 := Int.not_le.mp position
    rw [strOutcome_negative ready.parsed single negative] at made
    rw [strOutcome_negative parsedAfter single negative, made]
    exact iff_of_true rfl fun _text nonnegative _value => absurd nonnegative position

theorem delivered_one_iff (documented : DocumentedEscape driver.escapeString)
    (ready : session.Ready template) (entry : Entry) (s : SQLTypeAdapter) :
    entry.delivered driver template session (.one s) =
        session.strOutcome driver (Parameters.one s).passed ↔
      entry.AgreesWithStr driver template session (.one s) := by
  have several : template.placeholders.length ≠ 1 →
      (entry.delivered driver template session (.one s) =
          session.strOutcome driver (Parameters.one s).passed ↔
        StandsForTemplate driver.escapeString template session.query s) := by
    intro notOne
    rw [Entry.delivered, if_neg notOne, Session.strOutcome,
      (Query.str_run driver.escapeString ready.parsed _).1, eq_comm]
    exact fill_eq_data_iff documented
  cases placeholders : template.placeholders with
  | nil =>
      simp only [Entry.AgreesWithStr, placeholders]
      exact several (by simp [placeholders])
  | cons elem rest =>
      cases rest with
      | cons second rest =>
          simp only [Entry.AgreesWithStr, placeholders]
          exact several (by simp [placeholders])
      | nil =>
          have one : template.placeholders.length = 1 := by rw [placeholders, List.length_singleton]
          simp only [Entry.AgreesWithStr, placeholders]
          rw [Entry.delivered, if_pos one]
          by_cases keeps : entry = .execute
          · rw [if_pos keeps]
            exact iff_of_true rfl (Or.inl keeps)
          · simp only [keeps, false_or]
            exact strOutcome_text_iff documented ready placeholders s

/-- What `storein` and its relatives send for other parameters. -/
theorem delivered_again_iff (documented : DocumentedEscape driver.escapeString)
    (ready : session.Ready template) (p : Option SQLQueryParms) :
    ((match session.strOutcome driver p with
        | .error failure => .error failure
        | .ok text =>
            if template.placeholders.length = 1 then
              (session.afterStr driver p).strOutcome driver
                (some (SQLQueryParms.ofList [SQLTypeAdapter.ofString text false]))
            else .ok text) : Except Failure Bytes) = session.strOutcome driver p ↔
      ∀ elem, template.placeholders = [elem] →
        SubstitutesOnce driver.escapeString template session.query p elem := by
  cases made : session.strOutcome driver p with
  | error failure =>
      apply iff_of_true rfl
      intro elem single text position value
      rw [strOutcome_single ready.parsed single position, value] at made
      cases made
  | ok whole =>
      by_cases one : template.placeholders.length = 1
      · obtain ⟨elem, single⟩ := List.length_eq_one_iff.mp one
        simp only [if_pos one, strOutcome_again_iff documented ready single made]
        constructor
        · intro once other sameElem
          rw [single] at sameElem
          rw [← List.singleton_inj.mp sameElem]
          exact once
        · intro once
          exact once elem single
      · simp only [if_neg one, true_iff]
        intro elem single
        rw [single] at one
        exact absurd rfl one

end Agreement

/-- Exactly then does an execution function send the text of `str`. -/
theorem sends_str_iff {δ : Type} {driver : DBDriver δ}
    (documented : DocumentedEscape driver.escapeString) {template : ParsedTemplate}
    {session : Session δ} (ready : session.Ready template) (entry : Entry)
    (parameters : Parameters) :
    SendsStr driver session entry parameters ↔
      entry.AgreesWithStr driver template session parameters := by
  have sent : Delivers ((entry.run driver parameters).run session) session.texts
      (entry.delivered driver template session parameters) :=
    Entry.run_delivers session ready.parsed ready.idle entry parameters
  have comparison : SendsStr driver session entry parameters ↔
      entry.delivered driver template session parameters =
        session.strOutcome driver parameters.passed := by
    constructor
    · intro agrees
      exact sent.unique agrees
    · intro same
      rw [same] at sent
      exact sent
  rw [comparison]
  cases parameters with
  | one s => exact delivered_one_iff documented ready entry s
  | none =>
      cases entry with
      | storein => exact delivered_again_iff documented ready none
      | _ => exact iff_of_true rfl trivial
  | list p =>
      cases entry with
      | storein => exact delivered_again_iff documented ready (some p)
      | _ => exact iff_of_true rfl trivial

/-! ### An integer -/

def quotedValue : ParsedTemplate where
  placeholders := [{ before := ascii "SELECT ", option := byte 'q', num := 0 }]
  trailing := []
  options := by decide
  nums := by decide

def quotedValueSession : Session Unit :=
  { query := Query.ofTemplate 0 quotedValue []
    conn := { state := (), sent := [] } }

theorem quotedValueSession_ready : quotedValueSession.Ready quotedValue := ⟨rfl, rfl, rfl⟩

def five : SQLTypeAdapter :=
  { buffer := some
      { data := ascii "5", type := { base := .integer, flags := tfDefault }, isNull := false }
    isProcessed := false }

example : SQLTypeAdapter.ofValue (ascii "5") .int32 = .ok five := by decide

theorem sends_str_iff_executeFive :
    DocumentedEscape acceptingDriver.escapeString ∧ quotedValueSession.Ready quotedValue ∧
      SendsStr acceptingDriver quotedValueSession .execute (.one five) :=
  ⟨SQLStream.escapeText_documented, quotedValueSession_ready,
    (sends_str_iff SQLStream.escapeText_documented
      quotedValueSession_ready .execute (.one five)).mpr (Or.inl rfl)⟩

theorem storeFive_sends_text :
    ((Entry.store.run acceptingDriver (.one five)).run quotedValueSession).final.texts =
        [ascii "SELECT '5'"] ∧
      quotedValueSession.strOutcome acceptingDriver (Parameters.one five).passed =
        .ok (ascii "SELECT 5") ∧
      ¬ SendsStr acceptingDriver quotedValueSession .store (.one five) := by
  have sent : ((Entry.store.run acceptingDriver (.one five)).run quotedValueSession).final.texts =
      [ascii "SELECT '5'"] := by decide
  have text : quotedValueSession.strOutcome acceptingDriver (Parameters.one five).passed =
      .ok (ascii "SELECT 5") := by rfl
  refine ⟨sent, text, ?_⟩
  intro agrees
  rw [SendsStr, text] at agrees
  have same : [ascii "SELECT '5'"] = [] ++ [ascii "SELECT 5"] := sent.symm.trans agrees
  exact absurd same (by decide)

end LibTabula
