/-
Copies of queries.

A query that is assigned another one has the other's template, names and defaults.
Its text is put behind the text it had, in the format that its stream has, whose pending
width that uses up; its defaults are copied and so no longer marked as processed; and its
list of defaults stays tied to the query that the other list was tied to, through which it
goes on resolving names.
-/

import LibTabula.QueryStream
import LibTabula.UnmarkedDefaults

set_option autoImplicit false

namespace LibTabula

open Foundation

namespace QueryStream

/-- `operator =` with another query on the right. -/
def assign (self rhs : QueryStream) : QueryStream :=
  { query := self.query.assign
      { rhs.query with sbuffer := self.format.pad rhs.query.sbuffer }
    format := { self.format with width := 0 } }

/-- The copy constructor, which assigns to a query with a new stream. -/
def copy (q : QueryStream) : QueryStream :=
  { query := q.query.copy, format := StreamFormat.initial }

end QueryStream

/-- The queries of a program, each at its address. -/
abbrev Queries := QueryId → QueryStream

namespace Queries

/-- `target = source`. A list of defaults that is assigned to itself stays as it is. -/
def assign (self : Queries) (target source : QueryId) : Queries :=
  Function.update self target
    (if target = source then
      { query :=
          { (self source).query with
            sbuffer := (self source).query.sbuffer ++
              (self source).format.pad (self source).query.sbuffer }
        format := { (self source).format with width := 0 } }
    else (self target).assign (self source))

/-- `Query target(source)`. -/
def construct (self : Queries) (target source : QueryId) : Queries :=
  Function.update self target (self source).copy

/-- `template_defaults[str]` of a query: the names are those of the query that the list is
tied to. -/
def namedPosition (self : Queries) (i : QueryId) (str : Bytes) :
    Except Failure (Nat × Queries) :=
  match (self i).query.templateDefaults.parent with
  | none => .error Query.noParent
  | some parent =>
      let names := (self parent).query
      let n := (names.parsedNums str).getD 0
      let known := Function.update self parent
        { self parent with
          query :=
            { names with
              parsedNums := fun other =>
                if other = str then some n else names.parsedNums other } }
      let q := (known i).query
      .ok (n.toNat, Function.update known i
        { known i with
          query := { q with templateDefaults := q.templateDefaults.ensure n.toNat } })

/-- A list that is tied to its own query resolves names as `Query.namedPosition` does. -/
theorem namedPosition_own {self : Queries} {i : QueryId}
    (own : (self i).query.templateDefaults.parent = some i) (str : Bytes) :
    self.namedPosition i str =
      .ok ((self i).query.recordedPosition str,
        Function.update self i { self i with query := (self i).query.named str }) := by
  rw [namedPosition, own]
  simp only [Function.update_self, Function.update_idem]
  rfl

end Queries

/-! ### What a copy should be -/

/-- The query at an address says what the source said, for any list of parameters; its
defaults are there by position; and by name whatever becomes of the other queries. -/
structure Duplicate (escape : Bytes → Bytes) (source : QueryStream) (queries : Queries)
    (target : QueryId) : Prop where
  texts : ∀ passed, ((QueryStream.str escape passed).run (queries target)).outcome =
    ((QueryStream.str escape passed).run source).outcome
  positions : ∀ n,
    ((queries target).query.templateDefaults.ensure n).elems[n]?.map SQLTypeAdapter.buffer =
      (source.query.templateDefaults.ensure n).elems[n]?.map SQLTypeAdapter.buffer
  names : ∀ later : Queries, later target = queries target → ∀ name, ∃ after,
    later.namedPosition target name = .ok (source.query.recordedPosition name, after) ∧
      ∀ other, other ≠ target → after other = later other

/-! ### Texts -/

theorem exists_above (slots : List (Nat × UInt8)) : ∃ size, ∀ slot ∈ slots, slot.1 < size := by
  refine ⟨(slots.map Prod.fst).sum + 1, ?_⟩
  intro slot member
  exact Nat.lt_succ_of_le (List.le_sum_of_mem (List.mem_map_of_mem member))

namespace QueryStream

variable (escape : Bytes → Bytes)

/-- The first text of a template takes the whole of a pending width. -/
def Unpadded (self : QueryStream) : Prop :=
  ∀ elem ∈ self.query.parseElems.head?, self.format.width ≤ elem.before.length

theorem unpadded_of_noWidth {self : QueryStream} (width : self.format.width = 0) :
    self.Unpadded := by
  intro elem _first
  rw [width]
  exact Nat.zero_le _

theorem str_of_unpadded {self : QueryStream} (unpadded : self.Unpadded)
    (passed : Option SQLQueryParms) :
    ((str escape passed).run self).outcome =
      ((Query.str escape passed).run self.query).outcome := by
  have same : padFirst self.format self.query.parseElems = self.query.parseElems := by
    cases elems : self.query.parseElems with
    | nil => rfl
    | cons elem rest =>
        have fits := unpadded elem (by rw [elems]; rfl)
        rw [padFirst, (self.format.pad_eq_iff elem.before).mpr fits]
  rw [(str_run escape passed self).1, same]

/-- With a parameter for each placeholder a template is its first text and what is the same for
all queries with that template. -/
theorem exists_filled {elem : SQLParseElement} {rest : List SQLParseElement} {size : Nat}
    (above : ∀ slot ∈ Segment.slots ((elem :: rest).map SQLParseElement.segment),
      slot.1 < size) :
    ∃ tail, ∀ (q : Query) (before : Bytes),
      q.parseElems = { elem with before := before } :: rest →
        ((Query.str escape (some (SQLQueryParms.ofList (Query.nulls size)))).run q).outcome =
          .ok (before ++ tail) := by
  let null : Nat × UInt8 → Except Failure Bytes := fun _ => .ok (ascii "NULL")
  let behind : List (Segment UInt8 Nat UInt8) :=
    { before := [], slot := elem.segment.slot } :: rest.map SQLParseElement.segment
  have there : ∀ slot ∈ Segment.slots behind, null slot = .ok ((fun _ => ascii "NULL") slot) :=
    fun _ _ => rfl
  obtain ⟨tail, filled, _length⟩ := Segment.fill_ok there
  refine ⟨tail, ?_⟩
  intro q before parsed
  have template : q.parseElems ≠ [] := by
    rw [parsed]
    exact List.cons_ne_nil _ _
  have segments : q.segments =
      { before := before, slot := elem.segment.slot } :: rest.map SQLParseElement.segment := by
    rw [Query.segments, parsed]
    rfl
  have texts : ∀ slot ∈ Segment.slots q.segments,
      q.placeholderText escape (some (SQLQueryParms.ofList (Query.nulls size))) slot =
        null slot := by
    intro slot member
    apply Query.placeholderText_nulls
    rw [segments] at member
    exact above slot member
  rw [Query.str_fill escape template, Segment.fill_congr texts, segments, Segment.fill_before,
    filled]
  rfl

/-- If a template says what a query with the same template and no pending width says, its own
width does not show. -/
theorem unpadded_of_texts {self : QueryStream} {other : Query}
    (elems : other.parseElems = self.query.parseElems)
    (texts : ∀ passed, ((Query.str escape passed).run other).outcome =
      ((str escape passed).run self).outcome) : self.Unpadded := by
  intro elem first
  cases parsed : self.query.parseElems with
  | nil =>
      rw [parsed] at first
      cases first
  | cons head rest =>
      rw [parsed] at first
      cases first
      obtain ⟨size, above⟩ :=
        exists_above (Segment.slots ((elem :: rest).map SQLParseElement.segment))
      obtain ⟨tail, filled⟩ := exists_filled escape above
      let padded : Query :=
        { self.query with parseElems := padFirst self.format self.query.parseElems }
      have parsedPadded : padded.parseElems =
          { elem with before := self.format.pad elem.before } :: rest := by
        change padFirst self.format self.query.parseElems = _
        rw [parsed]
        rfl
      have same := texts (some (SQLQueryParms.ofList (Query.nulls size)))
      rw [(str_run escape _ self).1, filled padded _ parsedPadded,
        filled other elem.before (by rw [elems, parsed])] at same
      have before := List.append_cancel_right (Except.ok.inj same)
      exact (self.format.pad_eq_iff elem.before).mp before.symm

end QueryStream

/-! ### What becomes of a copy -/

/-- A query with the template, the names and the defaults of another, and no pending width. -/
structure CopiedFrom (source target : QueryStream) : Prop where
  elems : target.query.parseElems = source.query.parseElems
  nums : target.query.parsedNums = source.query.parsedNums
  parent : target.query.templateDefaults.parent = source.query.templateDefaults.parent
  buffers : target.query.templateDefaults.elems.map SQLTypeAdapter.buffer =
    source.query.templateDefaults.elems.map SQLTypeAdapter.buffer
  width : target.format.width = 0

theorem QueryStream.assign_copiedFrom (self rhs : QueryStream) :
    CopiedFrom rhs (self.assign rhs) where
  elems := rfl
  nums := rfl
  parent := rfl
  buffers := List.map_map
  width := rfl

theorem QueryStream.copy_copiedFrom (q : QueryStream) : CopiedFrom q q.copy where
  elems := rfl
  nums := rfl
  parent := rfl
  buffers := List.map_map
  width := rfl

namespace SQLQueryParms

/-- The element that a position refers to: the one that is there, or an empty text. -/
theorem ensure_buffer (self : SQLQueryParms) (n : Nat) :
    (self.ensure n).elems[n]?.map SQLTypeAdapter.buffer =
      some (((self.elems.map SQLTypeAdapter.buffer)[n]?).getD
        (SQLTypeAdapter.ofString [] false).buffer) := by
  by_cases inside : n < self.size
  · have within : n < self.elems.length := inside
    rw [ensure_front _ inside, List.getElem?_map, List.getElem?_eq_getElem within]
    split_ifs <;> rfl
  · have behind := Nat.not_lt.mp inside
    have missing : self.elems[n]? = none := List.getElem?_eq_none_iff.mpr behind
    rw [ensure_created _ behind (Nat.le_refl n), List.getElem?_map, missing]
    rfl

end SQLQueryParms

section Duplicates

variable {escape : Bytes → Bytes} {queries : Queries} {source : QueryStream} {target : QueryId}

theorem CopiedFrom.positions (copied : CopiedFrom source (queries target)) (n : Nat) :
    ((queries target).query.templateDefaults.ensure n).elems[n]?.map SQLTypeAdapter.buffer =
      (source.query.templateDefaults.ensure n).elems[n]?.map SQLTypeAdapter.buffer := by
  rw [SQLQueryParms.ensure_buffer, SQLQueryParms.ensure_buffer, copied.buffers]

/-- Names resolve in the copy whatever becomes of the other queries exactly if its list is
tied to it. -/
theorem CopiedFrom.names_iff (copied : CopiedFrom source (queries target)) :
    (∀ later : Queries, later target = queries target → ∀ name, ∃ after,
      later.namedPosition target name = .ok (source.query.recordedPosition name, after) ∧
        ∀ other, other ≠ target → after other = later other) ↔
      source.query.templateDefaults.parent = some target := by
  rw [← copied.parent]
  constructor
  · intro names
    cases tied : (queries target).query.templateDefaults.parent with
    | none =>
        obtain ⟨after, found, _others⟩ := names queries rfl []
        rw [Queries.namedPosition, tied] at found
        cases found
    | some parent =>
        by_contra elsewhere
        have apart : target ≠ parent := fun same => elsewhere (congrArg some same.symm)
        -- The parent now has another position on record for the name.
        let later := Function.update queries parent
          { queries parent with
            query :=
              { (queries parent).query with
                parsedNums := fun _ => some ((source.query.recordedPosition [] : Int) + 1) } }
        have unchanged : later target = queries target := Function.update_of_ne apart _ _
        obtain ⟨after, found, _others⟩ := names later unchanged []
        rw [Queries.namedPosition, unchanged, tied] at found
        have position := congrArg Prod.fst (Except.ok.inj found)
        simp only [later, Function.update_self, Option.getD_some] at position
        omega
  · intro own later same name
    have tied : (later target).query.templateDefaults.parent = some target := by rw [same, own]
    have position : (later target).query.recordedPosition name =
        source.query.recordedPosition name := by
      rw [same, Query.recordedPosition, copied.nums]
      rfl
    refine ⟨Function.update later target
      { later target with query := (later target).query.named name }, ?_, ?_⟩
    · rw [Queries.namedPosition_own tied, position]
    · intro other apart
      exact Function.update_of_ne apart _ _

theorem CopiedFrom.duplicate_iff (copied : CopiedFrom source (queries target)) :
    Duplicate escape source queries target ↔
      (∀ passed, ((Query.str escape passed).run (queries target).query).outcome =
          ((QueryStream.str escape passed).run source).outcome) ∧
        source.query.templateDefaults.parent = some target := by
  have unpadded := QueryStream.unpadded_of_noWidth copied.width
  constructor
  · intro duplicate
    refine ⟨?_, copied.names_iff.mp duplicate.names⟩
    intro passed
    rw [← duplicate.texts passed, QueryStream.str_of_unpadded escape unpadded]
  · intro both
    obtain ⟨texts, parent⟩ := both
    refine ⟨?_, copied.positions, copied.names_iff.mpr parent⟩
    intro passed
    rw [QueryStream.str_of_unpadded escape unpadded, texts]

end Duplicates

/-- What a template says does not depend on the text it was parsed from. -/
theorem Query.str_template_eq (escape : Bytes → Bytes) {q other : Query}
    (template : q.parseElems ≠ []) (elems : other.parseElems = q.parseElems)
    (defaults : other.templateDefaults.elems = q.templateDefaults.elems)
    (parent : other.templateDefaults.parent = q.templateDefaults.parent)
    (passed : Option SQLQueryParms) :
    ((Query.str escape passed).run other).outcome = ((Query.str escape passed).run q).outcome := by
  have templateToo : other.parseElems ≠ [] := by rw [elems]; exact template
  rw [str_fill escape template, str_fill escape templateToo, segments, segments, elems]
  have texts : other.placeholderText escape passed = q.placeholderText escape passed := by
    funext slot
    have cells : Filling.cells { query := other, passed := passed } slot.1 =
        Filling.cells { query := q, passed := passed } slot.1 := by
      by_cases given : slot.1 < passedSize passed
      · exact Filling.cells_passed_eq other q given
      · rw [Filling.cells_left other given, Filling.cells_left q given, defaults,
          SQLQueryParms.bound, parent]
        rfl
    rw [placeholderText, placeholderText, slotText, slotText, cells, segments, segments, elems]
  rw [texts]

/-- What the source must be like for the query at the target's address to be a duplicate of it,
by what was there before and whether the marks of the defaults are cleared. -/
structure Duplicable (escape : Bytes → Bytes) (source : QueryStream) (target : QueryId)
    (before : QueryStream) (cleared : Prop) : Prop where
  own : source.query.templateDefaults.parent = some target
  text : source.query.parseElems = [] →
    before.query.sbuffer = [] ∧ before.format.width ≤ source.query.sbuffer.length
  unpadded : source.Unpadded
  defaults : source.query.parseElems ≠ [] → cleared → source.query.FormatsAlike escape

section Duplicates

variable {escape : Bytes → Bytes} {queries : Queries} {source : QueryStream} {target : QueryId}
  (copied : CopiedFrom source (queries target)) (before : QueryStream) (cleared : Prop)

include copied

theorem CopiedFrom.duplicable_iff_of_plain (plain : source.query.parseElems = [])
    (text : (queries target).query.sbuffer =
      before.query.sbuffer ++ before.format.pad source.query.sbuffer) :
    Duplicate escape source queries target ↔ Duplicable escape source target before cleared := by
  have plainToo : (queries target).query.parseElems = [] := by rw [copied.elems, plain]
  have texts : (∀ passed, ((Query.str escape passed).run (queries target).query).outcome =
      ((QueryStream.str escape passed).run source).outcome) ↔
        before.query.sbuffer = [] ∧ before.format.width ≤ source.query.sbuffer.length := by
    simp only [Query.str_of_noElems escape plainToo, QueryStream.str_of_noElems escape source plain,
      forall_const, text, EStateM.Result.outcome_ok, Except.ok.injEq]
    constructor
    · intro same
      have lengths := congrArg List.length same
      rw [List.length_append, StreamFormat.pad_length] at lengths
      refine ⟨List.eq_nil_of_length_eq_zero (by omega), by omega⟩
    · intro both
      rw [both.1, List.nil_append, (StreamFormat.pad_eq_iff _ _).mpr both.2]
  rw [copied.duplicate_iff, texts]
  constructor
  · intro both
    obtain ⟨same, own⟩ := both
    refine ⟨own, fun _ => same, ?_, fun template => absurd plain template⟩
    intro elem first
    rw [plain] at first
    cases first
  · intro duplicable
    exact ⟨duplicable.text plain, duplicable.own⟩

theorem CopiedFrom.duplicable_iff_of_template (template : source.query.parseElems ≠ [])
    (texts : source.query.templateDefaults.parent = some target →
      ((∀ passed, ((Query.str escape passed).run (queries target).query).outcome =
          ((Query.str escape passed).run source.query).outcome) ↔
        (cleared → source.query.FormatsAlike escape))) :
    Duplicate escape source queries target ↔ Duplicable escape source target before cleared := by
  rw [copied.duplicate_iff]
  constructor
  · intro both
    obtain ⟨same, own⟩ := both
    have unpadded := QueryStream.unpadded_of_texts escape copied.elems same
    refine ⟨own, fun plain => absurd plain template, unpadded, fun _ => (texts own).mp ?_⟩
    intro passed
    rw [same, QueryStream.str_of_unpadded escape unpadded]
  · intro duplicable
    refine ⟨?_, duplicable.own⟩
    intro passed
    rw [QueryStream.str_of_unpadded escape duplicable.unpadded]
    exact (texts duplicable.own).mpr (duplicable.defaults template) passed

/-- A copy of the defaults, behind some text. -/
theorem CopiedFrom.duplicable_iff (documented : DocumentedEscape escape)
    (defaults : (queries target).query.templateDefaults.elems =
      source.query.templateDefaults.elems.map SQLTypeAdapter.copy)
    (text : (queries target).query.sbuffer =
      before.query.sbuffer ++ before.format.pad source.query.sbuffer) :
    Duplicate escape source queries target ↔ Duplicable escape source target before True := by
  by_cases plain : source.query.parseElems = []
  · exact copied.duplicable_iff_of_plain before True plain text
  · refine copied.duplicable_iff_of_template before True plain fun own => ?_
    have bound : source.query.templateDefaults.bound = true := by
      rw [SQLQueryParms.bound, own]
      rfl
    have unmarked (passed : Option SQLQueryParms) :
        ((Query.str escape passed).run (queries target).query).outcome =
          ((Query.str escape passed).run source.query.unmarked).outcome :=
      Query.str_template_eq escape (q := source.query.unmarked) plain copied.elems defaults
        copied.parent passed
    simp only [unmarked, true_implies]
    exact Query.str_unmarked_iff documented plain bound

end Duplicates

/-- An assigned query duplicates the source exactly if the source's list of defaults is tied to
it; a plain text came behind no other and no width was pending beyond it; a template has no
pending width beyond its first text; and it formats its defaults alike without marks. So does
a constructed one, which has a new stream before. -/
theorem assign_duplicate_iff {escape : Bytes → Bytes} (documented : DocumentedEscape escape)
    (queries : Queries) (target source : QueryId) :
    (Duplicate escape (queries source) (queries.assign target source) target ↔
        Duplicable escape (queries source) target (queries target) (target ≠ source)) ∧
      (Duplicate escape (queries source) (queries.construct target source) target ↔
        Duplicable escape (queries source) target (QueryStream.new target true []) True) := by
  constructor
  · by_cases same : target = source
    · subst same
      let doubled : QueryStream :=
        { query :=
            { (queries target).query with
              sbuffer := (queries target).query.sbuffer ++
                (queries target).format.pad (queries target).query.sbuffer }
          format := { (queries target).format with width := 0 } }
      have after : queries.assign target target target = doubled := by
        rw [Queries.assign, Function.update_self, if_pos rfl]
      have copied : CopiedFrom (queries target) (queries.assign target target target) := by
        rw [after]
        exact ⟨rfl, rfl, rfl, rfl, rfl⟩
      by_cases plain : (queries target).query.parseElems = []
      · apply copied.duplicable_iff_of_plain _ _ plain
        rw [after]
      · refine copied.duplicable_iff_of_template _ _ plain fun _own => ?_
        refine iff_of_true (fun passed => ?_) (fun different => absurd rfl different)
        have elems : doubled.query.parseElems = (queries target).query.parseElems := rfl
        rw [after]
        exact Query.str_template_eq escape plain elems rfl rfl passed
    · have after : queries.assign target source target =
          (queries target).assign (queries source) := by
        rw [Queries.assign, Function.update_self, if_neg same]
      have copied : CopiedFrom (queries source) (queries.assign target source target) := by
        rw [after]
        exact QueryStream.assign_copiedFrom _ _
      have different : (target ≠ source) = True := eq_true same
      rw [different]
      apply copied.duplicable_iff _ documented
      · rw [after]
        rfl
      · rw [after]
        rfl
  · have after : queries.construct target source target = (queries source).copy := by
      rw [Queries.construct, Function.update_self]
    have copied : CopiedFrom (queries source) (queries.construct target source target) := by
      rw [after]
      exact QueryStream.copy_copiedFrom _
    apply copied.duplicable_iff _ documented
    · rw [after]
      rfl
    · rw [after, (StreamFormat.pad_eq_iff _ _).mpr (Nat.zero_le _)]
      rfl

/-- Two queries with a text each. -/
def twoTexts : Queries := fun i =>
  QueryStream.new i true (if i = 0 then ascii "SELECT 2" else ascii "SELECT 1; ")

theorem assign_duplicate_iff_twoTexts :
    Duplicate SQLStream.escapeText (twoTexts 0) (twoTexts.assign 1 0) 1 ↔
      Duplicable SQLStream.escapeText (twoTexts 0) 1 (twoTexts 1) (1 ≠ 0) :=
  (assign_duplicate_iff SQLStream.escapeText_documented twoTexts 1 0).1

/-- The text of the source is put behind the one there is. And the names of any copy, also of
one newly constructed, are those of the source. -/
theorem twoTexts_not_duplicate :
    ((QueryStream.str SQLStream.escapeText none).run (twoTexts.assign 1 0 1)).outcome =
        .ok (ascii "SELECT 1; SELECT 2") ∧
      ((QueryStream.str SQLStream.escapeText none).run (twoTexts 0)).outcome =
        .ok (ascii "SELECT 2") ∧
      ¬ Duplicate SQLStream.escapeText (twoTexts 0) (twoTexts.assign 1 0) 1 ∧
      ¬ Duplicate SQLStream.escapeText (twoTexts 0) (twoTexts.construct 1 0) 1 := by
  have assigned :
      ((QueryStream.str SQLStream.escapeText none).run (twoTexts.assign 1 0 1)).outcome =
        .ok (ascii "SELECT 1; SELECT 2") := rfl
  have original : ((QueryStream.str SQLStream.escapeText none).run (twoTexts 0)).outcome =
      .ok (ascii "SELECT 2") := rfl
  refine ⟨assigned, original, ?_, ?_⟩
  · intro duplicate
    have same := duplicate.texts none
    rw [assigned, original] at same
    exact absurd (Except.ok.inj same) (by decide)
  · intro duplicate
    have copied : CopiedFrom (twoTexts 0) (twoTexts.construct 1 0 1) :=
      QueryStream.copy_copiedFrom _
    have own := copied.names_iff.mp duplicate.names
    exact absurd (Option.some.inj own) (by decide)

end LibTabula
