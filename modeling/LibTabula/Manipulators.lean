/-
Quoting and escaping by manipulator.

A manipulator formats the value after it, in a query's text or on its way into a
parameter list. What is stored in the list is a copy, and a copy is not marked as
processed.
-/

import LibTabula.ExplicitParameters

set_option autoImplicit false

namespace LibTabula

open Foundation

/-- What `escape_string` of a driver makes of a request. `escape` is the escaping function of
the connection. -/
def SQLStream.EscapeRequest.byDriver (escape : Bytes → Bytes) (request : EscapeRequest) :
    Bytes × Nat :=
  (escape request.driverSource, (escape request.driverSource).length)

/-- `SQLQueryParms::escape_string`. A list that is tied to no query leaves `*ps` as it is. -/
def SQLQueryParms.escapeString (escape : Bytes → Bytes) (self : SQLQueryParms)
    (request : SQLStream.EscapeRequest) : Bytes × Nat :=
  if self.bound then request.byDriver escape else (request.ps, 0)

/-- The request to escape a value into a text that is empty. -/
def SQLTypeAdapter.escapeRequest (self : SQLTypeAdapter) : SQLStream.EscapeRequest :=
  { ps := [], original := self.buffer.map SQLBuffer.data, length := self.length }

/-- The insertion of a value by a manipulator that has made a text of it, or that leaves it
as it is: the list, and the value afterwards. -/
def insertFormatted (formatted : Option Bytes) (qparms : SQLQueryParms) (value : SQLTypeAdapter) :
    SQLQueryParms × SQLTypeAdapter :=
  match formatted with
  | some temp => (qparms.push (SQLTypeAdapter.ofString temp true), value)
  | none => (qparms.push value.setProcessed, value.setProcessed)

section Insertion

variable (escape : Bytes → Bytes) (qparms : SQLQueryParms) (value : SQLTypeAdapter)

/-- `qparms << quote << value`. -/
def quoteType2 : Except Failure (SQLQueryParms × SQLTypeAdapter) :=
  value.quoteQ.map fun quote =>
    let escaped := (qparms.escapeString escape value.escapeRequest).1
    insertFormatted (if quote then some (Query.inQuotes true escaped) else none) qparms value

def quoteOnlyType2 : Except Failure (SQLQueryParms × SQLTypeAdapter) :=
  value.quoteQ.map fun quote =>
    insertFormatted (if quote then some (Query.inQuotes true value.data) else none) qparms value

def escapeType2 : Except Failure (SQLQueryParms × SQLTypeAdapter) :=
  let escaped := (qparms.escapeString escape value.escapeRequest).1
  .ok (insertFormatted (if value.escapeQ then some escaped else none) qparms value)

def doNothingType2 : Except Failure (SQLQueryParms × SQLTypeAdapter) :=
  .ok (insertFormatted none qparms value)

end Insertion

/-- `query << quote << value`. -/
def quoteType1 (escape : Bytes → Bytes) (value : SQLTypeAdapter) :
    EStateM Failure Query Unit := do
  let text ← ofExcept
    (SQLStream.quoteType1 (SQLStream.EscapeRequest.byDriver escape) value)
  modify fun query => query.write text

theorem SQLTypeAdapter.escapeRequest_source (self : SQLTypeAdapter) :
    self.escapeRequest.driverSource = self.data := by
  rw [escapeRequest, SQLStream.EscapeRequest.driverSource, length, data]
  cases self.buffer with
  | none => rfl
  | some buffer =>
      simp only [Option.map_some]
      split_ifs with empty
      · rw [List.length_eq_zero_iff.mp empty]
        rfl
      · exact List.take_length

theorem SQLQueryParms.escapeString_eq (escape : Bytes → Bytes) (self : SQLQueryParms)
    (value : SQLTypeAdapter) :
    (self.escapeString escape value.escapeRequest).1 =
      if self.bound then escape value.data else [] := by
  rw [escapeString]
  split_ifs
  · exact congrArg escape value.escapeRequest_source
  · rfl

/-! ### A template with one placeholder -/

/-- What is made of a placeholder with nothing around it. -/
def placeholderElems (option : UInt8) (num : Nat) : List SQLParseElement :=
  [{ before := [], option := option, num := num },
    { before := [], option := byte ' ', num := -1 }]

theorem firstOption_placeholder (option : UInt8) (num : Nat) :
    Segment.firstOption ((placeholderElems option num).map SQLParseElement.segment) num =
      some option := by
  simp [Segment.firstOption, Segment.slots, placeholderElems, SQLParseElement.segment]

theorem fill_placeholder (value : Nat × UInt8 → Except Failure Bytes) (option : UInt8)
    (num : Nat) :
    Segment.fill value ((placeholderElems option num).map SQLParseElement.segment) =
      value (num, option) := by
  rw [placeholderElems, List.map_cons]
  cases formatted : value (num, option) with
  | error failure => exact Segment.fill_cons_error rfl formatted _
  | ok inserted =>
      rw [Segment.fill_cons_ok rfl formatted]
      simp [Segment.fill, SQLParseElement.segment, Except.map]

theorem Filling.cells_passed {self : Filling} {p : SQLQueryParms} (passed : self.passed = some p)
    {num : Nat} {S : SQLTypeAdapter} (there : p.elems[num]? = some S) :
    self.cells num = if p.bound then .inPlace S else .explicit S := by
  have within : num < p.size := (List.getElem?_eq_some_iff.mp there).1
  have found : p.elems.getD num SQLTypeAdapter.default = S := by
    rw [List.getD_eq_getElem?_getD, there]
    rfl
  simp only [Filling.cells, select, passed, if_pos within, parms, Option.getD_some, param, found]

/-- The text of a placeholder with nothing around it is that of its parameter. -/
theorem Query.str_placeholder (escape : Bytes → Bytes) {q : Query} {option : UInt8} {num : Nat}
    (parsed : q.parseElems = placeholderElems option num) {p : SQLQueryParms}
    {S : SQLTypeAdapter} (there : p.elems[num]? = some S) :
    ((Query.str escape (some p)).run q).outcome = rendered escape option S := by
  have template : q.parseElems ≠ [] := by
    rw [parsed]
    exact List.cons_ne_nil _ _
  have text : slotText escape ((placeholderElems option num).map SQLParseElement.segment)
      (Filling.cells { query := q, passed := some p }) (num, option) =
        rendered escape option S := by
    rw [slotText, Filling.cells_passed rfl there]
    cases p.bound with
    | true => simp only [if_true, firstOption_placeholder, Option.getD_some]
    | false => rfl
  rw [Query.str_outcome, Filling.str_outcome escape _ template]
  simp only [parsed]
  rw [fill_placeholder, text]

/-! ### Three ways to quote -/

section Paths

variable (escape : Bytes → Bytes) (self : QueryId) (v : SQLTypeAdapter)

/-- `query << quote << v`, and `query.str()`. -/
def quotedInStream : Except Failure Bytes :=
  EStateM.Result.outcome <| EStateM.run (do
    quoteType1 escape v
    Query.str escape none) (Query.new self true [])

/-- Parsing the text of a new query and filling it in. -/
def renderTemplate (template : Bytes) (passed : Option SQLQueryParms) : Except Failure Bytes :=
  EStateM.Result.outcome <| EStateM.run (do
    Query.parse
    Query.str escape passed) (Query.new self true template)

/-- `query.str(v)` with the template `%0q`. -/
def quotedInTemplate : Except Failure Bytes :=
  renderTemplate escape self (ascii "%0q") (Query.passedArgs [v])

/-- `parms << quote << v` with a list tied to the query, and `query.str(parms)` with the
template `%0`. -/
def quotedInParms : Except Failure Bytes := do
  let (parms, _) ← quoteType2 escape (SQLQueryParms.ofQuery self) v
  renderTemplate escape self (ascii "%0") (some parms)

end Paths

theorem Query.parse_placeholder {q : Query} {rest : Bytes} {option : UInt8}
    (plain : q.parseElems = []) (text : q.sbuffer = byte '%' :: rest)
    (single : rest.head? ≠ some (byte '%')) (digit : rest.head?.any Query.isdigit = true)
    (read : Query.readPlaceholder rest = { num := 0, option := option, name := none, rest := [] }) :
    Query.parse.run q = .ok () { q with parseElems := placeholderElems option 0 } := by
  let first := { q with parseElems := [{ before := [], option := option, num := 0 }] }
  have saved : (Query.saveParameter [] (Query.readPlaceholder rest)).run q = .ok () first := by
    rw [read]
    change EStateM.Result.ok () { q with parseElems := q.parseElems ++ _ } = _
    rw [plain]
    rfl
  have looped : (Query.parseLoop q.sbuffer []).run q = .ok [] first := by
    rw [text, Query.parseLoop_placeholder single digit saved, read, Query.parseLoop]
    rfl
  exact run_bind_of_ok looped

theorem renderTemplate_placeholder (escape : Bytes → Bytes) (self : QueryId) (rest : Bytes)
    {option : UInt8} (single : rest.head? ≠ some (byte '%'))
    (digit : rest.head?.any Query.isdigit = true)
    (read : Query.readPlaceholder rest = { num := 0, option := option, name := none, rest := [] })
    {p : SQLQueryParms} {S : SQLTypeAdapter} (there : p.elems[0]? = some S) :
    renderTemplate escape self (byte '%' :: rest) (some p) = rendered escape option S := by
  have text : (Query.new self true (byte '%' :: rest)).sbuffer = byte '%' :: rest := rfl
  rw [renderTemplate, run_bind_of_ok (Query.parse_placeholder rfl text single digit read)]
  exact Query.str_placeholder escape rfl there

namespace SQLTypeAdapter

/-- The text of a value, escaped if its type is. -/
def escapedData (escape : Bytes → Bytes) (self : SQLTypeAdapter) : Bytes :=
  if self.escapeQ then escape self.data else self.data

/-- Nothing that is null is quoted. -/
theorem quoteQ_of_isNull {self : SQLTypeAdapter} {quote : Bool} (null : self.isNull = .ok true)
    (known : self.quoteQ = .ok quote) : quote = false := by
  cases given : self.buffer with
  | none => simp [isNull, given] at null
  | some buffer =>
      have isNull : buffer.isNull = true := by simpa [SQLTypeAdapter.isNull, given] using null
      simp only [quoteQ, given, SQLBuffer.quoteQ, isNull] at known
      cases type : buffer.type.cType with
      | error failure =>
          rw [type] at known
          cases known
      | ok cType =>
          rw [type] at known
          simp only [bind, Except.bind, pure, Except.pure, if_true] at known
          split_ifs at known <;> exact (Except.ok.inj known).symm

end SQLTypeAdapter

theorem rendered_copy (escape : Bytes → Bytes) {value : SQLTypeAdapter}
    (notNull : value.isNull = .ok false) (option : UInt8) :
    rendered escape option value.copy =
      if option = byte 'q' then
        value.quoteQ.map fun quote => Query.inQuotes quote (value.escapedData escape)
      else if option = byte 'Q' then
        value.quoteQ.map fun quote => Query.inQuotes quote value.data
      else .ok value.data := by
  rw [rendered, SQLTypeAdapter.copy_isNull, notNull]
  simp only [Query.pprepare, SQLTypeAdapter.copy_isProcessed, SQLTypeAdapter.copy_quoteQ,
    SQLTypeAdapter.copy_escapeQ, SQLTypeAdapter.copy_data, Bool.false_eq_true, if_false]
  by_cases q : option = byte 'q'
  · simp only [q, if_true]
    cases value.quoteQ <;> rfl
  · by_cases Q : option = byte 'Q'
    · simp only [if_neg q, if_pos Q]
      cases value.quoteQ with
      | error failure => rfl
      | ok quote =>
          cases quote <;> simp [Except.map, Query.inQuotes, Query.prepared, Query.unprepared]
    · simp only [if_neg q, if_neg Q]
      rfl

section Paths

variable (escape : Bytes → Bytes) (self : QueryId) (v : SQLTypeAdapter)

theorem quoteType1_text :
    SQLStream.quoteType1 (SQLStream.EscapeRequest.byDriver escape) v =
      v.quoteQ.map fun quote => Query.inQuotes quote (v.escapedData escape) := by
  have escaped : (v.escapeRequest.byDriver escape).1 = escape v.data :=
    congrArg escape v.escapeRequest_source
  have body : (if v.escapeQ then (v.escapeRequest.byDriver escape).1 else v.data) =
      v.escapedData escape := by
    rw [escaped, SQLTypeAdapter.escapedData]
  rw [← body, SQLStream.quoteType1]
  cases v.quoteQ <;> rfl

theorem quotedInStream_eq :
    quotedInStream escape self v =
      v.quoteQ.map fun quote => Query.inQuotes quote (v.escapedData escape) := by
  rw [quotedInStream, quoteType1, quoteType1_text]
  cases v.quoteQ with
  | error failure => rfl
  | ok quote => rfl

theorem quotedInTemplate_eq :
    quotedInTemplate escape self v =
      match v.isNull with
      | .error failure => .error failure
      | .ok true => .ok (ascii "NULL")
      | .ok false => v.quoteQ.map fun quote => Query.inQuotes quote (v.escapedData escape) := by
  have there : (SQLQueryParms.ofList [v]).elems[0]? = some v.copy := by
    rw [SQLQueryParms.ofList_elems]
    rfl
  have text : quotedInTemplate escape self v = rendered escape (byte 'q') v.copy :=
    renderTemplate_placeholder escape self (ascii "0q") (by decide) (by decide) rfl there
  rw [text]
  cases isNull : v.isNull with
  | error failure => rw [rendered, SQLTypeAdapter.copy_isNull, isNull]
  | ok null =>
      cases null with
      | true => rw [rendered, SQLTypeAdapter.copy_isNull, isNull]
      | false => rw [rendered_copy escape isNull, if_pos rfl]

theorem quotedInParms_eq :
    quotedInParms escape self v =
      match v.quoteQ with
      | .error failure => .error failure
      | .ok true => .ok (Query.inQuotes true (escape v.data))
      | .ok false => v.isNull.map fun null => if null then ascii "NULL" else v.data := by
  have plain (value : SQLTypeAdapter) :
      renderTemplate escape self (ascii "%0")
          (some ((SQLQueryParms.ofQuery self).push value)) =
        rendered escape (byte ' ') value.copy :=
    renderTemplate_placeholder escape self (ascii "0") (by decide) (by decide) rfl rfl
  rw [quotedInParms, quoteType2]
  simp only [SQLQueryParms.escapeString_eq]
  cases v.quoteQ with
  | error failure => rfl
  | ok quote =>
      cases quote with
      | true => exact plain (SQLTypeAdapter.ofString (Query.inQuotes true (escape v.data)) true)
      | false =>
          refine (plain v.setProcessed).trans ?_
          have null : v.setProcessed.copy.isNull = v.isNull := rfl
          rw [rendered, null]
          cases v.isNull with
          | error failure => rfl
          | ok null => cases null <;> rfl

/-- The three ways to quote a value with a connection's escaping function agree. -/
def PathsAgree : Prop :=
  quotedInStream escape self v = quotedInTemplate escape self v ∧
    quotedInTemplate escape self v = quotedInParms escape self v

/-- A null has a known type and the text NULL. Any other value has a type that is both
quoted and escaped or neither, or a text that escaping does not change. -/
structure QuotedAlike : Prop where
  initialised : v.Initialised
  null : v.isNull = .ok true → v.quoteQ = .ok false ∧ v.escapedData escape = ascii "NULL"
  notNull : v.isNull = .ok false → ∀ quote, v.quoteQ = .ok quote →
    quote = v.escapeQ ∨ escape v.data = v.data

theorem pathsAgree_of_null {v : SQLTypeAdapter} (null : v.isNull = .ok true) :
    PathsAgree escape self v ↔
      v.quoteQ = .ok false ∧ v.escapedData escape = ascii "NULL" := by
  rw [PathsAgree, quotedInStream_eq, quotedInTemplate_eq, quotedInParms_eq, null]
  cases known : v.quoteQ with
  | error failure =>
      constructor
      · intro both
        obtain ⟨same, _⟩ := both
        cases same
      · intro both
        obtain ⟨impossible, _⟩ := both
        cases impossible
  | ok quote =>
      rw [SQLTypeAdapter.quoteQ_of_isNull null known]
      simp [Except.map, Query.inQuotes]

theorem pathsAgree_of_notNull {v : SQLTypeAdapter} (notNull : v.isNull = .ok false) :
    PathsAgree escape self v ↔
      ∀ quote, v.quoteQ = .ok quote → quote = v.escapeQ ∨ escape v.data = v.data := by
  rw [PathsAgree, quotedInStream_eq, quotedInTemplate_eq, quotedInParms_eq, notNull]
  cases v.quoteQ with
  | error failure => simp [Except.map]
  | ok quote =>
      cases quote <;> cases escapes : v.escapeQ <;>
        simp [Except.map, Query.inQuotes, SQLTypeAdapter.escapedData, escapes, eq_comm]

/-- Without a buffer there is nothing to ask whether it is null. -/
theorem not_pathsAgree_of_noBuffer {v : SQLTypeAdapter} (noBuffer : v.buffer = none) :
    ¬ PathsAgree escape self v := by
  have isNull := SQLTypeAdapter.isNull_of_noBuffer noBuffer
  have quoteQ := SQLTypeAdapter.quoteQ_of_noBuffer noBuffer
  intro both
  obtain ⟨same, _⟩ := both
  rw [quotedInStream_eq, quotedInTemplate_eq, isNull, quoteQ] at same
  cases same

/-- The three ways to quote agree exactly for the values that are quoted alike. -/
theorem pathsAgree_iff (escape : Bytes → Bytes) (self : QueryId) (v : SQLTypeAdapter) :
    PathsAgree escape self v ↔ QuotedAlike escape v := by
  by_cases initialised : v.Initialised
  · obtain ⟨null, isNull⟩ := SQLTypeAdapter.isNull_of_initialised initialised
    cases null with
    | true =>
        rw [pathsAgree_of_null escape self isNull]
        constructor
        · intro alike
          have contrary : v.isNull ≠ .ok false :=
            SQLTypeAdapter.isNull_ne isNull Bool.false_ne_true.symm
          exact ⟨initialised, fun _ => alike, fun notNull => absurd notNull contrary⟩
        · intro alike
          exact alike.null isNull
    | false =>
        rw [pathsAgree_of_notNull escape self isNull]
        constructor
        · intro alike
          have contrary : v.isNull ≠ .ok true :=
            SQLTypeAdapter.isNull_ne isNull Bool.false_ne_true
          exact ⟨initialised, fun null => absurd null contrary, fun _ => alike⟩
        · intro alike
          exact alike.notNull isNull
  · have noBuffer : v.buffer = none := Option.not_isSome_iff_eq_none.mp initialised
    constructor
    · intro agree
      exact absurd agree (not_pathsAgree_of_noBuffer escape self noBuffer)
    · intro alike
      exact absurd alike.initialised initialised

end Paths

/-- The constructor from a `float`, with the text of the value unless that is infinite or
undefined. Such a value is stored as 0, and as null. -/
def SQLTypeAdapter.ofFloat (text : Option Bytes) : Except Failure SQLTypeAdapter :=
  match FieldType.ofCType .float with
  | some fieldType =>
      .ok
        { buffer := some
            { data := text.getD (ascii "0"), type := fieldType, isNull := text.isNone }
          isProcessed := false }
  | none => .error (.typeLookupFailed "Failed to find libtabula type info for ")

def infiniteFloat : SQLTypeAdapter :=
  { buffer := some
      { data := ascii "0", type := { base := .real, flags := tfUnsigned }, isNull := true }
    isProcessed := false }

/-- An infinite `float` is inserted as 0 in a query's text, and as NULL in a template. -/
theorem infiniteFloat_not_pathsAgree :
    SQLTypeAdapter.ofFloat none = .ok infiniteFloat ∧
      quotedInStream SQLStream.escapeText 0 infiniteFloat = .ok (ascii "0") ∧
      quotedInTemplate SQLStream.escapeText 0 infiniteFloat = .ok (ascii "NULL") ∧
      ¬ PathsAgree SQLStream.escapeText 0 infiniteFloat := by
  have stream : quotedInStream SQLStream.escapeText 0 infiniteFloat = .ok (ascii "0") := rfl
  have template : quotedInTemplate SQLStream.escapeText 0 infiniteFloat = .ok (ascii "NULL") :=
    quotedInTemplate_eq SQLStream.escapeText 0 infiniteFloat
  refine ⟨rfl, stream, template, ?_⟩
  intro both
  obtain ⟨same, _⟩ := both
  rw [stream, template] at same
  exact absurd same (by decide)

/-! ### What becomes of an inserted value -/

/-- The new parameter is a copy. -/
theorem SQLQueryParms.push_last (self : SQLQueryParms) (str : SQLTypeAdapter) :
    (self.push str).elems[self.size]? = some str.copy := by
  rw [push, insertEnd_elems,
    List.getElem?_append_right (Nat.le_of_eq (self.front_length _)), front_length, Nat.sub_self]
  rfl

theorem inQuotes_eq_self {quote : Bool} {text : Bytes} (same : Query.inQuotes quote text = text) :
    quote = false := by
  cases quote with
  | false => rfl
  | true =>
      have lengths := congrArg List.length same
      simp only [Query.inQuotes, if_true, List.length_append, List.length_singleton] at lengths
      omega

/-- A text stored in a list is quoted again by one placeholder and not by another. -/
theorem not_rendered_ofString (escape : Bytes → Bytes) (temp text : Bytes) :
    ¬ ∀ option, rendered escape option (SQLTypeAdapter.ofString temp true).copy = .ok text := by
  intro same
  have plain : rendered escape (byte ' ') (SQLTypeAdapter.ofString temp true).copy =
      .ok temp := rfl
  have quoted : rendered escape (byte 'Q') (SQLTypeAdapter.ofString temp true).copy =
      .ok (Query.inQuotes true temp) := by
    simp [rendered, Query.pprepare, SQLTypeAdapter.quoteOnly_ne_quote, Except.map, Query.prepared]
  rw [same] at plain quoted
  have unquoted : true = false :=
    inQuotes_eq_self ((Except.ok.inj quoted).symm.trans (Except.ok.inj plain))
  cases unquoted

theorem rendered_copy_iff_of_notNull (escape : Bytes → Bytes) {value : SQLTypeAdapter}
    (notNull : value.isNull = .ok false) :
    (∀ option, rendered escape option value.copy = .ok value.data) ↔
      value.quoteQ = .ok false ∧ value.escapedData escape = value.data := by
  constructor
  · intro same
    have quoted := same (byte 'Q')
    have escaped := same (byte 'q')
    rw [rendered_copy escape notNull, if_neg SQLTypeAdapter.quoteOnly_ne_quote, if_pos rfl]
      at quoted
    rw [rendered_copy escape notNull, if_pos rfl] at escaped
    cases known : value.quoteQ with
    | error failure =>
        rw [known] at quoted
        cases quoted
    | ok quote =>
        rw [known] at quoted escaped
        have unquoted : quote = false := inQuotes_eq_self (Except.ok.inj quoted)
        subst unquoted
        have unescaped := Except.ok.inj escaped
        simp only [Query.inQuotes, Bool.false_eq_true, if_false, List.nil_append,
          List.append_nil] at unescaped
        exact ⟨rfl, unescaped⟩
  · rintro ⟨unquoted, unescaped⟩ option
    rw [rendered_copy escape notNull, unquoted, unescaped]
    split_ifs
    · simp [Except.map, Query.inQuotes]
    · simp [Except.map, Query.inQuotes]
    · rfl

/-- A value stored as it is has the same text in every placeholder if it is null, or if its
type is not quoted and escaping does not change it. -/
theorem rendered_copy_iff (escape : Bytes → Bytes) (value : SQLTypeAdapter) :
    (∀ option, rendered escape option value.copy =
        .ok (if value.isNull = .ok true then ascii "NULL" else value.data)) ↔
      value.isNull = .ok true ∨
        value.quoteQ = .ok false ∧ value.escapedData escape = value.data := by
  by_cases initialised : value.Initialised
  · obtain ⟨null, isNull⟩ := SQLTypeAdapter.isNull_of_initialised initialised
    cases null with
    | true =>
        simp only [rendered, SQLTypeAdapter.copy_isNull, isNull, if_true, true_or, implies_true]
    | false =>
        have notNull : ¬ value.isNull = .ok true :=
          SQLTypeAdapter.isNull_ne isNull Bool.false_ne_true
        simp only [if_neg notNull]
        rw [rendered_copy_iff_of_notNull escape isNull, or_iff_right notNull]
  · have noBuffer : value.buffer = none := Option.not_isSome_iff_eq_none.mp initialised
    have isNull := SQLTypeAdapter.isNull_of_noBuffer noBuffer
    have quoteQ := SQLTypeAdapter.quoteQ_of_noBuffer noBuffer
    constructor
    · intro same
      have failed := same (byte ' ')
      rw [rendered, SQLTypeAdapter.copy_isNull, isNull] at failed
      cases failed
    · rintro (null | ⟨unquoted, _⟩)
      · rw [isNull] at null
        cases null
      · rw [quoteQ] at unquoted
        cases unquoted

inductive Manipulator
  | doNothing
  | quote
  | quoteOnly
  | escape
deriving DecidableEq, Repr

namespace Manipulator

variable (escape : Bytes → Bytes)

/-- `qparms << manipulator << value`. -/
def insert (self : Manipulator) (qparms : SQLQueryParms) (value : SQLTypeAdapter) :
    Except Failure (SQLQueryParms × SQLTypeAdapter) :=
  match self with
  | doNothing => doNothingType2 qparms value
  | quote => quoteType2 escape qparms value
  | quoteOnly => quoteOnlyType2 qparms value
  | .escape => escapeType2 escape qparms value

/-- Whether the value has the type that the manipulator formats. -/
def formats (self : Manipulator) (value : SQLTypeAdapter) : Except Failure Bool :=
  match self with
  | doNothing => .ok false
  | quote => value.quoteQ
  | quoteOnly => value.quoteQ
  | .escape => .ok value.escapeQ

/-- What the manipulator makes of the text of such a value. -/
def format (self : Manipulator) (text : Bytes) : Bytes :=
  match self with
  | doNothing => text
  | quote => Query.inQuotes true (escape text)
  | quoteOnly => Query.inQuotes true text
  | .escape => escape text

/-- What a manipulator stores for such a value in a list. -/
def stores (self : Manipulator) (qparms : SQLQueryParms) (value : SQLTypeAdapter) : Bytes :=
  match self with
  | doNothing => value.data
  | quote => Query.inQuotes true (qparms.escapeString escape value.escapeRequest).1
  | quoteOnly => Query.inQuotes true value.data
  | .escape => (qparms.escapeString escape value.escapeRequest).1

/-- The text for a value behind a manipulator: as formatted by it, if it formats the value;
NULL, if the value is null. -/
def textFor (self : Manipulator) (value : SQLTypeAdapter) : Bytes :=
  if self.formats value = .ok true then self.format escape value.data
  else if value.isNull = .ok true then ascii "NULL"
  else value.data

theorem insert_eq (self : Manipulator) (qparms : SQLQueryParms) (value : SQLTypeAdapter) :
    self.insert escape qparms value =
      (self.formats value).map fun formats =>
        insertFormatted (if formats then some (self.stores escape qparms value) else none)
          qparms value := by
  cases self <;> rfl

/-- Where every placeholder for the inserted value has the text that the manipulator made. -/
def Rendered (self : Manipulator) (qparms after : SQLQueryParms) (value : SQLTypeAdapter) : Prop :=
  ∀ (q : Query) (option : UInt8), q.parseElems = placeholderElems option qparms.size →
    ((Query.str escape (some after)).run q).outcome = .ok (self.textFor escape value)

/-- The stored parameter is marked as processed and has the content that the manipulator
made of the value, and so has every placeholder for it. -/
structure Preserved (manipulator : Manipulator) (qparms after : SQLQueryParms)
    (value : SQLTypeAdapter) : Prop where
  stored : ∃ S, after.elems[qparms.size]? = some S ∧ S.isProcessed = true ∧
    S.data =
      if manipulator.formats value = .ok true then manipulator.format escape value.data
      else value.data
  rendered : manipulator.Rendered escape qparms after value

/-- Where an insertion leaves every placeholder with the text of the manipulator: nothing was
formatted, and no option formats the value. -/
theorem rendered_iff {self : Manipulator} {qparms after : SQLQueryParms}
    {value value' : SQLTypeAdapter}
    (inserted : self.insert escape qparms value = .ok (after, value')) :
    self.Rendered escape qparms after value ↔
      self.formats value = .ok false ∧
        (value.isNull = .ok true ∨
          value.quoteQ = .ok false ∧ value.escapedData escape = value.data) := by
  have through {S : SQLTypeAdapter} (there : after.elems[qparms.size]? = some S) :
      self.Rendered escape qparms after value ↔
        ∀ option, rendered escape option S = .ok (self.textFor escape value) := by
    constructor
    · intro same option
      have text := same { Query.new 0 true [] with
        parseElems := placeholderElems option qparms.size } option rfl
      rwa [Query.str_placeholder escape rfl there] at text
    · intro same q option parsed
      rw [Query.str_placeholder escape parsed there]
      exact same option
  rw [insert_eq] at inserted
  cases formats : self.formats value with
  | error failure =>
      rw [formats] at inserted
      cases inserted
  | ok formatted =>
      rw [formats] at inserted
      cases formatted with
      | true =>
          cases inserted
          rw [through (SQLQueryParms.push_last _ _)]
          constructor
          · intro same
            exact absurd same (not_rendered_ofString escape _ _)
          · intro both
            obtain ⟨impossible, _⟩ := both
            cases impossible
      | false =>
          cases inserted
          rw [through (SQLQueryParms.push_last _ _)]
          have text : self.textFor escape value =
              if value.isNull = .ok true then ascii "NULL" else value.data := by
            rw [textFor, formats]
            rfl
          rw [text, and_iff_right rfl]
          exact rendered_copy_iff escape value

/-- Whatever the manipulator, what is stored is not marked. -/
theorem stored_unmarked {self : Manipulator} {qparms after : SQLQueryParms}
    {value value' : SQLTypeAdapter}
    (inserted : self.insert escape qparms value = .ok (after, value')) :
    ∃ S : SQLTypeAdapter, after.elems[qparms.size]? = some S.copy := by
  rw [insert_eq] at inserted
  cases formats : self.formats value with
  | error failure =>
      rw [formats] at inserted
      cases inserted
  | ok formatted =>
      rw [formats] at inserted
      cases formatted <;> cases inserted <;> exact ⟨_, SQLQueryParms.push_last _ _⟩

/-- No inserted value is preserved; where its text is all the same, nothing would have
changed it. -/
theorem inserted_not_preserved (self : Manipulator) (qparms after : SQLQueryParms)
    (value value' : SQLTypeAdapter)
    (inserted : self.insert escape qparms value = .ok (after, value')) :
    ¬ self.Preserved escape qparms after value ∧
      (self.Rendered escape qparms after value ↔
        self.formats value = .ok false ∧
          (value.isNull = .ok true ∨
            value.quoteQ = .ok false ∧ value.escapedData escape = value.data)) := by
  refine ⟨?_, rendered_iff escape inserted⟩
  intro preserved
  obtain ⟨S, there⟩ := stored_unmarked escape inserted
  obtain ⟨stored, found, marked, _content⟩ := preserved.stored
  rw [there] at found
  cases found
  cases marked

theorem inserted_not_preserved_quote :
    let value := SQLTypeAdapter.ofString (ascii "it's") false
    let after := (SQLQueryParms.ofQuery 0).push
      (SQLTypeAdapter.ofString (ascii "'it\\'s'") true)
    ¬ quote.Preserved SQLStream.escapeText (SQLQueryParms.ofQuery 0) after value := by
  intro value after
  have inserted : quote.insert SQLStream.escapeText (SQLQueryParms.ofQuery 0) value =
      .ok (after, value) := rfl
  exact (inserted_not_preserved SQLStream.escapeText quote _ _ _ _ inserted).1

/-- The placeholder quotes what do_nothing was to leave as it is. -/
theorem doNothing_quoted :
    let value := SQLTypeAdapter.ofString (ascii "x") false
    let after := SQLQueryParms.empty.push value.setProcessed
    let template := { Query.new 0 true [] with parseElems := placeholderElems (byte 'q') 0 }
    doNothing.insert SQLStream.escapeText SQLQueryParms.empty value =
        .ok (after, value.setProcessed) ∧
      ((Query.str SQLStream.escapeText (some after)).run template).outcome =
        .ok (ascii "'x'") ∧
      ¬ doNothing.Preserved SQLStream.escapeText SQLQueryParms.empty after value := by
  intro value after template
  have quoted : ((Query.str SQLStream.escapeText (some after)).run template).outcome =
      .ok (ascii "'x'") :=
    (Query.str_placeholder SQLStream.escapeText rfl rfl).trans rfl
  refine ⟨rfl, quoted, ?_⟩
  intro preserved
  have asItIs := preserved.rendered template (byte 'q') rfl
  rw [quoted] at asItIs
  exact absurd (Except.ok.inj asItIs) (by decide)

end Manipulator

end LibTabula
