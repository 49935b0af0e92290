/-
Default parameters against explicit ones.

A default is formatted once, by the first placeholder that falls back on it; an
explicit parameter is formatted anew by each placeholder. The two give the same
texts exactly where no defaulted position is mentioned with different options.
-/

import LibTabula.SQLStream
import LibTabula.TemplateRendering

set_option autoImplicit false

namespace LibTabula

open Foundation

/-- What is documented of the escaping function of a connection: it writes at
least one character and at most two for each one, and there are texts that it
lengthens. -/
structure DocumentedEscape (escape : Bytes → Bytes) : Prop where
  length_le : ∀ text, text.length ≤ (escape text).length
  le_double : ∀ text, (escape text).length ≤ 2 * text.length
  lengthens : ∃ text, text.length < (escape text).length

def SQLStream.escapeText (text : Bytes) : Bytes :=
  (escapeStringGeneric { ps := [], original := some text, length := text.length }).1

theorem SQLStream.escapeText_documented : DocumentedEscape SQLStream.escapeText := by
  have same : ∀ text, escapeText text = literals.escape text := by
    intro text
    rw [escapeText, escapeStringGeneric_eq]
    simp only [EscapeRequest.source, List.take_length]
  constructor
  · intro text
    rw [same]
    exact literals.length_le_escape text
  · intro text
    rw [same]
    exact literals.escape_length_le text
  · exact ⟨[byte '\''], by decide⟩

namespace Query

/-- The list that the overloads with adapter arguments make; without arguments it
is the query's own. -/
def passedArgs (args : List SQLTypeAdapter) : Option SQLQueryParms :=
  if args = [] then none else some (SQLQueryParms.ofList args)

/-- The overloads of `str` with adapter arguments, and `str()`. -/
def strArgs (escape : Bytes → Bytes) (args : List SQLTypeAdapter) :
    EStateM Failure Query Bytes :=
  str escape (passedArgs args)

/-- A query with a parsed template whose defaults have just been assigned. -/
structure Prepared (q : Query) (template : ParsedTemplate)
    (defaults : List SQLTypeAdapter) : Prop where
  parsed : q.parseElems = template.elems
  bound : q.templateDefaults.bound = true
  assigned : q.templateDefaults.elems = defaults.map SQLTypeAdapter.copy

/-- A query as it is after parsing a template and assigning defaults. -/
def ofTemplate (self : QueryId) (template : ParsedTemplate) (defaults : List SQLTypeAdapter) :
    Query :=
  { new self true [] with
    parseElems := template.elems
    templateDefaults :=
      { SQLQueryParms.ofQuery self with
        elems := defaults.map SQLTypeAdapter.copy
        capacity := defaults.length } }

theorem ofTemplate_prepared (self : QueryId) (template : ParsedTemplate)
    (defaults : List SQLTypeAdapter) :
    (ofTemplate self template defaults).Prepared template defaults :=
  ⟨rfl, rfl, rfl⟩

/-- The parameter for a position among the arguments and the defaults. -/
def parameter (args defaults : List SQLTypeAdapter) (num : Nat) : Cell :=
  if num < args.length then .explicit (args.getD num SQLTypeAdapter.default).copy
  else if num < defaults.length then .inPlace (defaults.getD num SQLTypeAdapter.default).copy
  else .missing

theorem getD_map_copy (args : List SQLTypeAdapter) (num : Nat) :
    (args.map SQLTypeAdapter.copy).getD num SQLTypeAdapter.default =
      (args.getD num SQLTypeAdapter.default).copy := by
  simp only [List.getD_eq_getElem?_getD, List.getElem?_map]
  cases args[num]? <;> rfl

def place (args elems : List SQLTypeAdapter) (num : Nat) : Cell :=
  if num < args.length then .explicit (args.getD num SQLTypeAdapter.default).copy
  else if num < elems.length then .inPlace (elems.getD num SQLTypeAdapter.default)
  else .missing

theorem place_map_copy (args defaults : List SQLTypeAdapter) :
    place args (defaults.map SQLTypeAdapter.copy) = parameter args defaults := by
  funext num
  simp only [place, parameter, List.length_map, getD_map_copy]

theorem cells_default {q : Query} {passed : Option SQLQueryParms} {num : Nat}
    (bound : q.templateDefaults.bound = true)
    (left : Filling.select ⟨q, passed⟩ num =
      if num < q.templateDefaults.size then some .defaults else none) :
    Filling.cells ⟨q, passed⟩ num =
      if num < q.templateDefaults.elems.length then
        .inPlace (q.templateDefaults.elems.getD num SQLTypeAdapter.default)
      else .missing := by
  by_cases short : num < q.templateDefaults.size
  · have within : num < q.templateDefaults.elems.length := short
    rw [if_pos short] at left
    simp only [Filling.cells, left, if_pos within, Filling.parms, bound, if_true, Filling.param]
  · have outside : ¬ num < q.templateDefaults.elems.length := short
    rw [if_neg short] at left
    simp only [Filling.cells, left, if_neg outside]

theorem cells_passedArgs {q : Query} (bound : q.templateDefaults.bound = true)
    (args : List SQLTypeAdapter) :
    Filling.cells ⟨q, passedArgs args⟩ = place args q.templateDefaults.elems := by
  funext num
  by_cases noArgs : args = []
  · subst args
    have none : ¬ num < ([] : List SQLTypeAdapter).length := Nat.not_lt_zero num
    rw [place, if_neg none]
    exact cells_default bound rfl
  · have given : passedArgs args = some (SQLQueryParms.ofList args) := if_neg noArgs
    rw [place, given]
    by_cases inArgs : num < args.length
    · simp only [Filling.cells, Filling.select, SQLQueryParms.ofList_size, if_pos inArgs,
        Filling.parms, Option.getD_some, SQLQueryParms.ofList_bound, Bool.false_eq_true, if_false,
        Filling.param, SQLQueryParms.ofList_elems, getD_map_copy]
    · rw [if_neg inArgs]
      apply cells_default bound
      simp only [Filling.select, SQLQueryParms.ofList_size, if_neg inArgs]

theorem Prepared.strArgs_outcome {q : Query} {template : ParsedTemplate}
    {defaults : List SQLTypeAdapter} (prepared : q.Prepared template defaults)
    (escape : Bytes → Bytes) (args : List SQLTypeAdapter) :
    ((strArgs escape args).run q).outcome =
      Segment.fill (slotText escape template.segments (parameter args defaults))
        template.segments := by
  rw [← place_map_copy, ← prepared.assigned, ← cells_passedArgs prepared.bound]
  exact (str_run escape prepared.parsed (passedArgs args)).1

end Query

namespace ParsedTemplate

theorem mem_slots (self : ParsedTemplate) (num : Nat) (option : UInt8) :
    (num, option) ∈ Segment.slots self.segments ↔
      ∃ elem ∈ self.placeholders, elem.num = num ∧ elem.option = option := by
  simp only [Segment.slots, segments, elems, List.map_append, List.filterMap_append,
    List.mem_append, List.mem_filterMap, List.mem_map]
  constructor
  · rintro (⟨segment, ⟨elem, member, rfl⟩, slot⟩ | ⟨segment, ⟨elem, member, rfl⟩, slot⟩)
    · unfold SQLParseElement.segment at slot
      by_cases position : 0 ≤ elem.num
      · simp only [if_pos position, Option.some.injEq, Prod.mk.injEq] at slot
        refine ⟨elem, member, ?_, slot.2⟩
        omega
      · simp only [if_neg position] at slot
        cases slot
    · rw [List.mem_singleton.mp member] at slot
      cases slot
  · intro found
    obtain ⟨elem, member, position, option⟩ := found
    refine Or.inl ⟨elem.segment, ⟨elem, member, rfl⟩, ?_⟩
    have here : (0 : Int) ≤ num := Int.natCast_nonneg num
    simp only [SQLParseElement.segment, position, if_pos here, option, Int.toNat_natCast]

/-- From position `n` on, no position is mentioned with two different options. -/
def UniformFrom (self : ParsedTemplate) (n : Nat) : Prop :=
  ∀ left ∈ self.placeholders, ∀ right ∈ self.placeholders,
    (n : Int) ≤ left.num → left.num = right.num → left.option = right.option

instance (self : ParsedTemplate) (n : Nat) : Decidable (self.UniformFrom n) :=
  inferInstanceAs (Decidable (∀ left ∈ self.placeholders, ∀ right ∈ self.placeholders,
    (n : Int) ≤ left.num → left.num = right.num → left.option = right.option))

theorem UniformFrom.firstOption {self : ParsedTemplate} {n : Nat} (uniform : self.UniformFrom n)
    {num : Nat} {option : UInt8} (member : (num, option) ∈ Segment.slots self.segments)
    (defaulted : n ≤ num) : Segment.firstOption self.segments num = some option := by
  obtain ⟨first, found⟩ := Segment.firstOption_isSome member
  obtain ⟨left, leftIn, leftNum, leftOption⟩ :=
    (self.mem_slots num first).mp (Segment.mem_of_firstOption found)
  obtain ⟨right, rightIn, rightNum, rightOption⟩ := (self.mem_slots num option).mp member
  have same := uniform left leftIn right rightIn (by omega) (by omega)
  rw [found, ← leftOption, same, rightOption]

end ParsedTemplate

/-- A vector of parameters that is passed up to a point and set as defaults from
there on. -/
structure Split (p d v : List SQLTypeAdapter) : Prop where
  passed : p <+: v
  defaults : ∀ num, p.length ≤ num → d[num]? = v[num]?

namespace Split

variable {p d v : List SQLTypeAdapter}

theorem getD_passed (split : Split p d v) {num : Nat} (inArgs : num < p.length) :
    v.getD num SQLTypeAdapter.default = p.getD num SQLTypeAdapter.default := by
  obtain ⟨rest, rfl⟩ := split.passed
  simp only [List.getD_eq_getElem?_getD, List.getElem?_append_left inArgs]

theorem getD_defaults (split : Split p d v) {num : Nat} (behind : p.length ≤ num) :
    v.getD num SQLTypeAdapter.default = d.getD num SQLTypeAdapter.default := by
  simp only [List.getD_eq_getElem?_getD, split.defaults num behind]

theorem lt_defaults_iff (split : Split p d v) {num : Nat} (behind : p.length ≤ num) :
    num < d.length ↔ num < v.length := by
  have same := split.defaults num behind
  rw [← not_iff_not, Nat.not_lt, Nat.not_lt, ← List.getElem?_eq_none_iff,
    ← List.getElem?_eq_none_iff, same]

/-- Each placeholder says the same for both, if the ones that fall back on a
default say the same with the option of the first one for it. -/
theorem slotText_eq (split : Split p d v) (escape : Bytes → Bytes) (template : ParsedTemplate)
    (alike : ∀ num option, (num, option) ∈ Segment.slots template.segments →
      p.length ≤ num → num < v.length →
        rendered escape ((Segment.firstOption template.segments num).getD option)
            (v.getD num SQLTypeAdapter.default).copy =
          rendered escape option (v.getD num SQLTypeAdapter.default).copy)
    {slot : Nat × UInt8} (member : slot ∈ Segment.slots template.segments) :
    slotText escape template.segments (Query.parameter p d) slot =
      slotText escape template.segments (Query.parameter v []) slot := by
  obtain ⟨num, option⟩ := slot
  simp only [slotText, Query.parameter, List.length_nil, Nat.not_lt_zero, if_false]
  by_cases inArgs : num < p.length
  · have inAll : num < v.length := Nat.lt_of_lt_of_le inArgs split.passed.length_le
    simp only [if_pos inArgs, if_pos inAll, split.getD_passed inArgs]
  · have behind : p.length ≤ num := Nat.le_of_not_lt inArgs
    by_cases inAll : num < v.length
    · have inDefaults := (split.lt_defaults_iff behind).mpr inAll
      have same := alike num option member behind inAll
      rw [split.getD_defaults behind] at same
      simp only [if_neg inArgs, if_pos inDefaults, if_pos inAll, split.getD_defaults behind, same]
    · have notInDefaults : ¬ num < d.length := fun less =>
        inAll ((split.lt_defaults_iff behind).mp less)
      simp only [if_neg inArgs, if_neg notInDefaults, if_neg inAll]

end Split

/-! ### Texts that tell options apart -/

def formattedText (escape : Bytes → Bytes) (option : UInt8) (text : Bytes) : Bytes :=
  if option = byte 'q' then Query.inQuotes true (escape text)
  else if option = byte 'Q' then Query.inQuotes true text
  else text

theorem rendered_ofString (escape : Bytes → Bytes) (option : UInt8) (text : Bytes) :
    rendered escape option (SQLTypeAdapter.ofString text false).copy =
      .ok (formattedText escape option text) := by
  simp only [rendered, SQLTypeAdapter.copy_isNull, SQLTypeAdapter.ofString_isNull,
    Query.pprepare, SQLTypeAdapter.copy_isProcessed, Bool.false_eq_true, if_false,
    SQLTypeAdapter.copy_quoteQ, SQLTypeAdapter.ofString_quoteQ, SQLTypeAdapter.copy_escapeQ,
    SQLTypeAdapter.ofString_escapeQ, SQLTypeAdapter.copy_data, SQLTypeAdapter.ofString_data,
    formattedText]
  split_ifs <;>
    simp [Except.map, Cell.prepared_data, Cell.unprepared_data]

theorem rendered_ofNull (escape : Bytes → Bytes) (option : UInt8) :
    rendered escape option SQLTypeAdapter.ofNull.copy = .ok (ascii "NULL") :=
  rfl

theorem length_inQuotes (text : Bytes) : (Query.inQuotes true text).length = text.length + 2 := by
  simp only [Query.inQuotes, if_true, List.length_append, List.length_singleton]
  omega

/-- Some text has only two lengths over a set of options of which two differ. -/
theorem exists_contrast {escape : Bytes → Bytes} (documented : DocumentedEscape escape)
    (options : UInt8 → Prop)
    (known : ∀ option, options option →
      option = byte ' ' ∨ option = byte 'q' ∨ option = byte 'Q')
    {left right : UInt8} (leftIn : options left) (rightIn : options right)
    (different : left ≠ right) :
    ∃ text low high, options low ∧ options high ∧
      (formattedText escape low text).length < (formattedText escape high text).length ∧
      ∀ option, options option →
        (formattedText escape option text).length = (formattedText escape low text).length ∨
          (formattedText escape option text).length =
            (formattedText escape high text).length := by
  have plain : ∀ text, formattedText escape (byte ' ') text = text := fun _ => rfl
  have quoted : ∀ text,
      (formattedText escape (byte 'Q') text).length = text.length + 2 := length_inQuotes
  have escaped : ∀ text,
      (formattedText escape (byte 'q') text).length = (escape text).length + 2 :=
    fun text => length_inQuotes (escape text)
  have empty : (escape []).length = 0 := Nat.le_zero.mp (documented.le_double [])
  by_cases some : options (byte ' ')
  · -- The empty text has length 0 plain and length 2 in quotes.
    have inQuotes : ∀ option, options option → option ≠ byte ' ' →
        (formattedText escape option []).length = 2 := by
      intro option member notPlain
      rcases known option member with rfl | rfl | rfl
      · exact absurd rfl notPlain
      · rw [escaped, empty]
      · rw [quoted]
        rfl
    obtain ⟨high, highIn, notPlain⟩ : ∃ high, options high ∧ high ≠ byte ' ' := by
      by_cases leftPlain : left = byte ' '
      · exact ⟨right, rightIn, fun same => different (leftPlain.trans same.symm)⟩
      · exact ⟨left, leftIn, leftPlain⟩
    refine ⟨[], byte ' ', high, some, highIn, ?_, ?_⟩
    · rw [plain, inQuotes high highIn notPlain]
      decide
    · intro option member
      by_cases isPlain : option = byte ' '
      · exact Or.inl (by rw [isPlain])
      · exact Or.inr (by rw [inQuotes option member isPlain, inQuotes high highIn notPlain])
  · -- Only escaping makes a difference between the two quoting options.
    obtain ⟨text, longer⟩ := documented.lengthens
    have quotes : ∀ option, options option → option = byte 'q' ∨ option = byte 'Q' := by
      intro option member
      rcases known option member with rfl | quote
      · exact absurd member some
      · exact quote
    have both : options (byte 'q') ∧ options (byte 'Q') := by
      rcases quotes left leftIn with rfl | rfl <;> rcases quotes right rightIn with rfl | rfl
      · exact absurd rfl different
      · exact ⟨leftIn, rightIn⟩
      · exact ⟨rightIn, leftIn⟩
      · exact absurd rfl different
    refine ⟨text, byte 'Q', byte 'q', both.2, both.1, ?_, ?_⟩
    · rw [quoted, escaped]
      omega
    · intro option member
      rcases quotes option member with rfl | rfl
      · exact Or.inr rfl
      · exact Or.inl rfl

/-! ### Defaults against explicit parameters -/

/-- With `n` explicit parameters, a template says the same whether the others are
passed as well or set as defaults. -/
def DefaultsAsExplicit (escape : Bytes → Bytes) (template : ParsedTemplate) (n : Nat) : Prop :=
  ∀ (p d v : List SQLTypeAdapter) (q q' : Query), p.length = n → Split p d v →
    q.Prepared template d → q'.Prepared template [] →
      ((Query.strArgs escape p).run q).outcome = ((Query.strArgs escape v).run q').outcome

/-- Parameters that tell apart the options of one position: a text there, and
nulls everywhere else. -/
def probe (position size : Nat) (text : Bytes) : List SQLTypeAdapter :=
  (List.range size).map fun num =>
    if num = position then SQLTypeAdapter.ofString text false else SQLTypeAdapter.ofNull

theorem length_probe (position size : Nat) (text : Bytes) :
    (probe position size text).length = size := by
  rw [probe, List.length_map, List.length_range]

theorem rendered_probe (escape : Bytes → Bytes) (option : UInt8) (position size : Nat)
    (text : Bytes) {num : Nat} (within : num < size) :
    rendered escape option ((probe position size text).getD num SQLTypeAdapter.default).copy =
      .ok (if num = position then formattedText escape option text else ascii "NULL") := by
  have here : (probe position size text).getD num SQLTypeAdapter.default =
      if num = position then SQLTypeAdapter.ofString text false else SQLTypeAdapter.ofNull := by
    simp [probe, List.getD_eq_getElem?_getD, within]
  rw [here]
  by_cases same : num = position
  · rw [if_pos same, if_pos same]
    exact rendered_ofString escape option text
  · rw [if_neg same, if_neg same]
    exact rendered_ofNull escape option

theorem slotText_probe (escape : Bytes → Bytes) (template : ParsedTemplate)
    {position n : Nat} (text : Bytes) (defaulted : n ≤ position)
    {num : Nat} {option : UInt8} (within : num < n + 128) :
    slotText escape template.segments
        (Query.parameter ((probe position (n + 128) text).take n)
          (probe position (n + 128) text)) (num, option) =
        .ok (if num = position then formattedText escape
          ((Segment.firstOption template.segments num).getD option) text else ascii "NULL") ∧
      slotText escape template.segments
        (Query.parameter (probe position (n + 128) text) []) (num, option) =
        .ok (if num = position then formattedText escape option text else ascii "NULL") := by
  have taken : ((probe position (n + 128) text).take n).length = n := by
    rw [List.length_take, length_probe]
    omega
  have wholeLength := length_probe position (n + 128) text
  constructor
  · by_cases inArgs : num < n
    · have same : ((probe position (n + 128) text).take n).getD num SQLTypeAdapter.default =
          (probe position (n + 128) text).getD num SQLTypeAdapter.default := by
        simp only [List.getD_eq_getElem?_getD, List.getElem?_take, if_pos inArgs]
      have elsewhere : num ≠ position := by omega
      simp only [slotText, Query.parameter, taken, if_pos inArgs, same,
        rendered_probe escape option position (n + 128) text within, if_neg elsewhere]
    · simp only [slotText, Query.parameter, taken, if_neg inArgs, wholeLength, if_pos within]
      exact rendered_probe escape _ position (n + 128) text within
  · simp only [slotText, Query.parameter, wholeLength, if_pos within]
    exact rendered_probe escape option position (n + 128) text within

/-- A text that has two lengths over the options of a defaulted position: as a default it
has one of them everywhere, so the template says something else. -/
theorem fill_probe_ne {escape : Bytes → Bytes} {template : ParsedTemplate} {n position : Nat}
    {text : Bytes} {low high : UInt8} (reached : n ≤ position)
    (within : ∀ slot ∈ Segment.slots template.segments, slot.1 < n + 128)
    (lowIn : (position, low) ∈ Segment.slots template.segments)
    (highIn : (position, high) ∈ Segment.slots template.segments)
    (shorter : (formattedText escape low text).length < (formattedText escape high text).length)
    (lengths : ∀ option, (position, option) ∈ Segment.slots template.segments →
      (formattedText escape option text).length = (formattedText escape low text).length ∨
        (formattedText escape option text).length =
          (formattedText escape high text).length) :
    Segment.fill (slotText escape template.segments
        (Query.parameter ((probe position (n + 128) text).take n)
          (probe position (n + 128) text))) template.segments ≠
      Segment.fill (slotText escape template.segments
        (Query.parameter (probe position (n + 128) text) [])) template.segments := by
  obtain ⟨first, firstFound⟩ := Segment.firstOption_isSome lowIn
  have firstIn := Segment.mem_of_firstOption firstFound
  have byDefault : ∀ slot ∈ Segment.slots template.segments,
      slotText escape template.segments
        (Query.parameter ((probe position (n + 128) text).take n)
          (probe position (n + 128) text)) slot =
        .ok (if slot.1 = position then formattedText escape first text else ascii "NULL") := by
    intro slot member
    rw [(slotText_probe escape template text reached (within slot member)).1]
    by_cases here : slot.1 = position
    · rw [if_pos here, if_pos here, here, firstFound]
      rfl
    · rw [if_neg here, if_neg here]
  have byArgument : ∀ slot ∈ Segment.slots template.segments,
      slotText escape template.segments (Query.parameter (probe position (n + 128) text) [])
          slot =
        .ok (if slot.1 = position then formattedText escape slot.2 text else ascii "NULL") :=
    fun slot member => (slotText_probe escape template text reached (within slot member)).2
  have bounds : ∀ slot ∈ Segment.slots template.segments, slot.1 = position →
      (formattedText escape low text).length ≤ (formattedText escape slot.2 text).length ∧
        (formattedText escape slot.2 text).length ≤ (formattedText escape high text).length := by
    intro slot member here
    have either := lengths slot.2 (by rw [← here]; exact member)
    constructor
    · omega
    · omega
  rcases lengths first firstIn with asLow | asHigh
  · refine Segment.fill_ne_of_shorter byDefault byArgument ?_ ⟨(position, high), highIn, ?_⟩
    · intro slot member
      by_cases here : slot.1 = position
      · rw [if_pos here, if_pos here, asLow]
        exact (bounds slot member here).1
      · rw [if_neg here, if_neg here]
    · rw [if_pos rfl, if_pos rfl, asLow]
      exact shorter
  · apply Ne.symm
    refine Segment.fill_ne_of_shorter byArgument byDefault ?_ ⟨(position, low), lowIn, ?_⟩
    · intro slot member
      by_cases here : slot.1 = position
      · rw [if_pos here, if_pos here, asHigh]
        exact (bounds slot member here).2
      · rw [if_neg here, if_neg here]
    · rw [if_pos rfl, if_pos rfl, asHigh]
      exact shorter

/-- A template for which defaults work like explicit parameters mentions no defaulted
position with different options. -/
theorem uniform_of_defaultsAsExplicit {escape : Bytes → Bytes}
    (documented : DocumentedEscape escape) {template : ParsedTemplate} {n : Nat}
    (same : DefaultsAsExplicit escape template n) : template.UniformFrom n := by
  by_contra mixed
  simp only [ParsedTemplate.UniformFrom, not_forall] at mixed
  obtain ⟨left, leftIn, right, rightIn, defaulted, samePosition, different⟩ := mixed
  obtain ⟨position, atPosition⟩ : ∃ position : Nat, left.num = position :=
    ⟨left.num.toNat, by omega⟩
  have reached : n ≤ position := by omega
  have slots : ∀ option, (position, option) ∈ Segment.slots template.segments ↔
      ∃ elem ∈ template.placeholders, elem.num = position ∧ elem.option = option :=
    template.mem_slots position
  obtain ⟨text, low, high, lowIn, highIn, shorter, lengths⟩ :=
    exists_contrast documented
      (fun option => (position, option) ∈ Segment.slots template.segments)
      (fun option member => by
        obtain ⟨elem, elemIn, _, rfl⟩ := (slots option).mp member
        exact template.options elem elemIn)
      ((slots left.option).mpr ⟨left, leftIn, atPosition, rfl⟩)
      ((slots right.option).mpr ⟨right, rightIn, by omega, rfl⟩) different
  have within : ∀ slot ∈ Segment.slots template.segments, slot.1 < n + 128 := by
    intro slot member
    obtain ⟨elem, elemIn, atSlot, _⟩ := (template.mem_slots slot.1 slot.2).mp member
    have bound := (template.nums elem elemIn).2
    omega
  have split : Split ((probe position (n + 128) text).take n) (probe position (n + 128) text)
      (probe position (n + 128) text) :=
    ⟨List.take_prefix _ _, fun _ _ => rfl⟩
  have taken : ((probe position (n + 128) text).take n).length = n := by
    rw [List.length_take, length_probe]
    omega
  have asExplicit := same _ _ _ _ _ taken split
    (Query.ofTemplate_prepared 0 template (probe position (n + 128) text))
    (Query.ofTemplate_prepared 0 template [])
  rw [(Query.ofTemplate_prepared 0 template _).strArgs_outcome,
    (Query.ofTemplate_prepared 0 template _).strArgs_outcome] at asExplicit
  exact fill_probe_ne reached within lowIn highIn shorter lengths asExplicit

/-- For single parameters: defaults and explicit parameters give the same text when
each defaulted placeholder says the same with the first option for its position. -/
theorem strArgs_eq_of_alike {escape : Bytes → Bytes} {template : ParsedTemplate}
    {p d v : List SQLTypeAdapter} {q q' : Query} (split : Split p d v)
    (prepared : q.Prepared template d) (prepared' : q'.Prepared template [])
    (alike : ∀ num option, (num, option) ∈ Segment.slots template.segments →
      p.length ≤ num → num < v.length →
        rendered escape ((Segment.firstOption template.segments num).getD option)
            (v.getD num SQLTypeAdapter.default).copy =
          rendered escape option (v.getD num SQLTypeAdapter.default).copy) :
    ((Query.strArgs escape p).run q).outcome = ((Query.strArgs escape v).run q').outcome := by
  rw [prepared.strArgs_outcome, prepared'.strArgs_outcome]
  exact Segment.fill_congr fun slot member => split.slotText_eq escape template alike member

/-- Defaults work like explicit parameters exactly for the templates in which no
defaulted position is mentioned with two different options. -/
theorem defaultsAsExplicit_iff (escape : Bytes → Bytes) (documented : DocumentedEscape escape)
    (template : ParsedTemplate) (n : Nat) :
    DefaultsAsExplicit escape template n ↔ template.UniformFrom n := by
  constructor
  · exact uniform_of_defaultsAsExplicit documented
  · intro uniform p d v q q' length split prepared prepared'
    apply strArgs_eq_of_alike split prepared prepared'
    intro num option member behind _inAll
    rw [length] at behind
    rw [uniform.firstOption member behind]
    rfl

def quotedThenPlain : ParsedTemplate where
  placeholders :=
    [{ before := [], option := byte 'q', num := 0 },
      { before := ascii " ", option := byte ' ', num := 0 }]
  trailing := []
  options := by decide
  nums := by decide

theorem defaultsAsExplicit_iff_quotedThenPlain :
    DefaultsAsExplicit SQLStream.escapeText quotedThenPlain 0 ↔ quotedThenPlain.UniformFrom 0 :=
  defaultsAsExplicit_iff SQLStream.escapeText SQLStream.escapeText_documented quotedThenPlain 0

theorem parse_quotedThenPlain :
    (Query.parse.run (Query.new 0 true (ascii "%0q %0"))).final.parseElems =
      quotedThenPlain.elems := by
  let start := Query.new 0 true (ascii "%0q %0")
  let first := { start with parseElems := quotedThenPlain.placeholders.take 1 }
  let second := { start with parseElems := quotedThenPlain.placeholders }
  have looped := calc
    (Query.parseLoop (byte '%' :: ascii "0q %0") []).run start
      = (Query.parseLoop (byte ' ' :: ascii "%0") []).run first :=
        Query.parseLoop_placeholder (by decide) (by decide) rfl
    _ = (Query.parseLoop (byte '%' :: ascii "0") (ascii " ")).run first := by
        rw [Query.parseLoop_literal (by decide) (by decide)]
        rfl
    _ = (Query.parseLoop [] []).run second :=
        Query.parseLoop_placeholder (by decide) (by decide) rfl
    _ = .ok [] second := by
        rw [Query.parseLoop]
        rfl
  have parsed : Query.parse.run start =
      (Query.pushElem { before := [], option := byte ' ', num := -1 }).run second :=
    run_bind_of_ok looped
  rw [parsed]
  rfl

theorem strArgs_quotedThenPlain :
    ((Query.strArgs SQLStream.escapeText [SQLTypeAdapter.ofString (ascii "x") false]).run
        (Query.ofTemplate 0 quotedThenPlain [])).outcome = .ok (ascii "'x' x") ∧
      ((Query.strArgs SQLStream.escapeText []).run
        (Query.ofTemplate 0 quotedThenPlain
          [SQLTypeAdapter.ofString (ascii "x") false])).outcome = .ok (ascii "'x' 'x'") :=
  ⟨rfl, rfl⟩

/-- The text x for both placeholders of "%0q %0": passed, it is quoted once; as a
default, twice. -/
theorem quotedThenPlain_not_asExplicit :
    (Query.parse.run (Query.new 0 true (ascii "%0q %0"))).final.parseElems =
        quotedThenPlain.elems ∧
      ((Query.strArgs SQLStream.escapeText [SQLTypeAdapter.ofString (ascii "x") false]).run
        (Query.ofTemplate 0 quotedThenPlain [])).outcome = .ok (ascii "'x' x") ∧
      ((Query.strArgs SQLStream.escapeText []).run
        (Query.ofTemplate 0 quotedThenPlain
          [SQLTypeAdapter.ofString (ascii "x") false])).outcome = .ok (ascii "'x' 'x'") ∧
      ¬ DefaultsAsExplicit SQLStream.escapeText quotedThenPlain 0 := by
  obtain ⟨passed, defaulted⟩ := strArgs_quotedThenPlain
  refine ⟨parse_quotedThenPlain, passed, defaulted, ?_⟩
  intro same
  have equal := same [] [SQLTypeAdapter.ofString (ascii "x") false]
    [SQLTypeAdapter.ofString (ascii "x") false] _ _ rfl
    ⟨List.nil_prefix, fun _ _ => rfl⟩ (Query.ofTemplate_prepared 0 quotedThenPlain _)
    (Query.ofTemplate_prepared 0 quotedThenPlain [])
  rw [passed, defaulted] at equal
  exact absurd (Except.ok.inj equal) (by decide)

end LibTabula
