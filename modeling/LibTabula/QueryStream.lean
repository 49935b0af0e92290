/-
Queries as streams.

What is inserted into a query is written in the format that the stream has then: a text
is filled up to a pending width, which it uses up. The parts of a rendered template are
inserted as well.
-/

import LibTabula.TemplateRendering

set_option autoImplicit false

namespace LibTabula

open Foundation

/-- The format of a stream, with the flags numbered as in libstdc++. -/
structure StreamFormat where
  precision : Nat
  width : Nat
  fill : UInt8
  flags : UInt32
deriving DecidableEq, Repr

namespace StreamFormat

/-- What `init()` gives a stream: the flags are `skipws | dec`. -/
def initial : StreamFormat := { precision := 6, width := 0, fill := byte ' ', flags := 0x1002 }

def left : UInt32 := 0x20

/-- `left | right | internal`. -/
def adjustfield : UInt32 := 0xb0

/-- A text as it is inserted, filled up to the width. -/
def pad (self : StreamFormat) (text : Bytes) : Bytes :=
  let padding := List.replicate (self.width - text.length) self.fill
  if self.flags &&& adjustfield = left then text ++ padding else padding ++ text

theorem pad_length (self : StreamFormat) (text : Bytes) :
    (self.pad text).length = max self.width text.length := by
  rw [pad]
  split_ifs <;> rw [List.length_append, List.length_replicate] <;> omega

/-- A text that takes the whole width is not filled up. -/
theorem pad_eq_iff (self : StreamFormat) (text : Bytes) :
    self.pad text = text ↔ self.width ≤ text.length := by
  constructor
  · intro same
    have lengths := congrArg List.length same
    rw [pad_length] at lengths
    omega
  · intro fits
    rw [pad, Nat.sub_eq_zero_of_le fits]
    split_ifs
    · exact List.append_nil text
    · rfl

theorem pad_of_noWidth {self : StreamFormat} (none : self.width = 0) (text : Bytes) :
    self.pad text = text := by
  rw [pad_eq_iff, none]
  exact Nat.zero_le _

end StreamFormat

/-- What is inserted into a stream, a value or a manipulator: what is written, and the format
afterwards. -/
abbrev Inserter := StreamFormat → Bytes × StreamFormat

/-- A query as a stream. -/
structure QueryStream where
  query : Query
  format : StreamFormat

namespace QueryStream

def new (self : QueryId) (te : Bool) (qstr : Bytes) : QueryStream :=
  { query := Query.new self te qstr, format := StreamFormat.initial }

def reset (self : QueryStream) : QueryStream := { self with query := self.query.reset }

def insert (self : QueryStream) (item : Inserter) : QueryStream :=
  { query := self.query.write (item self.format).1, format := (item self.format).2 }

/-- `insert`, `replace` and `update` with specialised structures, of which `item` is all that
they insert behind `std::setprecision(16)`. For an empty range there is only the reset. -/
def build (self : QueryStream) (item : Inserter) : QueryStream :=
  let emptied := self.reset
  { emptied with format := { emptied.format with precision := 16 } }.insert item

/-- The elements as `proc` inserts them: the text before the first uses the width up. -/
def padFirst (format : StreamFormat) : List SQLParseElement → List SQLParseElement
  | [] => []
  | elem :: rest => { elem with before := format.pad elem.before } :: rest

/-- `str(p)`. -/
def str (escape : Bytes → Bytes) (passed : Option SQLQueryParms) :
    EStateM Failure QueryStream Bytes := fun self =>
  let elems := self.query.parseElems
  let format := if elems = [] then self.format else { self.format with width := 0 }
  match (Query.str escape passed).run
      { self.query with parseElems := padFirst self.format elems } with
  | .ok text query =>
      .ok text { query := { query with parseElems := elems }, format := format }
  | .error failure query =>
      .error failure { query := { query with parseElems := elems }, format := format }

/-- A call on the query within the stream. -/
def onQuery {α : Type} (x : EStateM Failure Query α) : EStateM Failure QueryStream α :=
  onPart query (fun self query => { self with query := query }) x

variable (escape : Bytes → Bytes)

theorem str_run (passed : Option SQLQueryParms) (self : QueryStream) :
    let inner := (Query.str escape passed).run
      { self.query with parseElems := padFirst self.format self.query.parseElems }
    ((str escape passed).run self).outcome = inner.outcome ∧
      ((str escape passed).run self).final =
        { query := { inner.final with parseElems := self.query.parseElems }
          format :=
            if self.query.parseElems = [] then self.format
            else { self.format with width := 0 } } := by
  intro inner
  simp only [str, EStateM.run]
  cases ran : Query.str escape passed
      { self.query with parseElems := padFirst self.format self.query.parseElems } with
  | ok text query =>
      have inner' : inner = .ok text query := ran
      rw [inner']
      exact ⟨rfl, rfl⟩
  | error failure query =>
      have inner' : inner = .error failure query := ran
      rw [inner']
      exact ⟨rfl, rfl⟩

theorem padFirst_of_noWidth {format : StreamFormat} (width : format.width = 0)
    (elems : List SQLParseElement) : padFirst format elems = elems := by
  cases elems with
  | nil => rfl
  | cons elem rest => simp only [padFirst, StreamFormat.pad_of_noWidth width]

theorem str_of_noElems (stream : QueryStream) (plain : stream.query.parseElems = [])
    (passed : Option SQLQueryParms) :
    ((str escape passed).run stream).outcome = .ok stream.query.sbuffer := by
  rw [(str_run escape passed stream).1]
  have padded : { stream.query with
      parseElems := padFirst stream.format stream.query.parseElems } =
        stream.query := by
    rw [plain, padFirst, ← plain]
  rw [padded, Query.str_of_noElems escape plain]
  rfl

end QueryStream

end LibTabula
