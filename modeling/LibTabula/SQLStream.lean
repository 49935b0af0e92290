/-
SQL escaping without a connection, and the quote manipulator.

The fall-back escaping writes into a buffer that the caller or the string
version of the function allocates. What is written there is modelled as the list
of written characters, the terminator included.
-/

import LibTabula.Foundation.EscapedText
import LibTabula.TypeAdapter
import Mathlib.Algebra.Group.Nat.Defs

set_option autoImplicit false

namespace LibTabula

open Foundation

namespace SQLStream

/-- The `switch` of `escape_string_generic`: what one character of the original
writes. -/
def escapeChar (c : UInt8) : Bytes :=
  if c = 0 then [byte '\\', byte '0']
  else if c = byte '\\' then [byte '\\', byte '\\']
  else if c = byte '\'' then [byte '\\', byte '\'']
  else if c = byte '"' then [byte '\\', byte '"']
  else if c = byte '\n' then [byte '\\', byte 'n']
  else if c = byte '\r' then [byte '\\', byte 'r']
  else [c]

/-- `escape_string_generic(char*, const char*, size_t)`: what it writes through
`escaped`, the final terminator included, and the length it returns. -/
def escapeStringGenericChars (original : Bytes) : Bytes × Nat :=
  let written := original.foldl (fun written c => written ++ escapeChar c) []
  (written ++ [0], written.length)

/-- The two modes of the string version: the text is at `original`, which has at
least `length` characters, or it is in the result string. -/
structure EscapeRequest where
  ps : Bytes
  original : Option Bytes
  length : Nat
deriving DecidableEq, Repr

def EscapeRequest.source (request : EscapeRequest) : Bytes :=
  match request.original with
  | some original => original.take request.length
  | none => request.ps

/-- `escape_string_generic(std::string*, const char*, size_t)`: the new `*ps` and
the returned length. -/
def escapeStringGeneric (request : EscapeRequest) : Bytes × Nat :=
  let (written, outlen) := escapeStringGenericChars request.source
  (written.take outlen, outlen)

/-- `operator<<(quote_type1, const SQLTypeAdapter&)` on a `Query` or a
`SQLStream`: what is written to the stream. `escape` is the stream's own
`escape_string`. -/
def quoteType1 (escape : EscapeRequest → Bytes × Nat) (in_ : SQLTypeAdapter) :
    Except Failure Bytes := do
  let quote ← in_.quoteQ
  let quotes := if quote then [byte '\''] else []
  let original := in_.buffer.map SQLBuffer.data
  let body :=
    if in_.escapeQ then
      (escape { ps := [], original := original, length := in_.length }).1
    else in_.data
  pure (quotes ++ body ++ quotes)

/-! ### The escaping as a codec -/

/-- What a server with backslash escapes makes of a letter after a backslash. -/
def unescape (letter : UInt8) : Bytes :=
  if letter = byte '0' then [0]
  else if letter = byte 'b' then [8]
  else if letter = byte 'n' then [10]
  else if letter = byte 'r' then [13]
  else if letter = byte 't' then [9]
  else if letter = byte 'Z' then [26]
  else if letter = byte '%' || letter = byte '_' then [byte '\\', letter]
  else [letter]

def code (c : UInt8) : Option UInt8 :=
  if c = 0 then some (byte '0')
  else if c = byte '\\' then some (byte '\\')
  else if c = byte '\'' then some (byte '\'')
  else if c = byte '"' then some (byte '"')
  else if c = byte '\n' then some (byte 'n')
  else if c = byte '\r' then some (byte 'r')
  else none

def letters : Bytes := [byte '0', byte '\\', byte '\'', byte '"', byte 'n', byte 'r']

theorem code_ne_some {letter : UInt8} (absent : letter ∉ letters) (c : UInt8) :
    code c ≠ some letter := by
  intro coded
  apply absent
  unfold code at coded
  split_ifs at coded <;> simp only [Option.some.injEq] at coded <;> subst letter <;> decide

/-- SQL string literals in single quotes, with backslash escapes and doubled
quotes. -/
def literals : EscapeCodec UInt8 where
  mark := byte '\\'
  quote := byte '\''
  code := code
  decode := unescape
  quote_ne_mark := by decide
  mark_coded := by decide
  quote_coded := by decide
  decode_code := by
    intro character letter coded
    unfold code at coded
    split_ifs at coded with zero backslash quote doubleQuote newline return_ <;>
      simp only [Option.some.injEq] at coded <;> subst letter <;> subst character <;> decide

theorem escapeChar_eq (c : UInt8) : escapeChar c = literals.escapeOne c := by
  unfold escapeChar EscapeCodec.escapeOne
  simp only [literals, code]
  split_ifs <;> simp_all

theorem escapeStringGenericChars_eq (original : Bytes) :
    escapeStringGenericChars original =
      (literals.escape original ++ [0], (literals.escape original).length) := by
  have written : ∀ done : Bytes,
      original.foldl (fun written c => written ++ escapeChar c) done =
        done ++ literals.escape original := by
    induction original with
    | nil => simp [EscapeCodec.escape]
    | cons c original ih =>
        intro done
        rw [List.foldl_cons, ih, escapeChar_eq, EscapeCodec.escape_cons, List.append_assoc]
  have all := written []
  simp only [escapeStringGenericChars, all, List.nil_append]

theorem escapeStringGeneric_eq (request : EscapeRequest) :
    escapeStringGeneric request =
      (literals.escape request.source, (literals.escape request.source).length) := by
  simp only [escapeStringGeneric, escapeStringGenericChars_eq, List.take_left]

theorem quoteType1_ofString (text : Bytes) :
    quoteType1 escapeStringGeneric (SQLTypeAdapter.ofString text false) =
      .ok (byte '\'' :: ((escapeStringGeneric
        { ps := [], original := some text, length := text.length }).1 ++ [byte '\''])) := by
  simp only [quoteType1, SQLTypeAdapter.ofString_quoteQ, SQLTypeAdapter.ofString_escapeQ]
  rfl

/-- Injection safety of the quote manipulator. A lexer with backslash escapes
reads the text written for any byte string as one literal with that value, which
ends at the last quote whatever follows it but a quote; different strings are
written differently; no quote, NUL, CR or LF stands outside an escape, the last
three nowhere; and at most two characters are written for each one, before the
terminator. -/
theorem quoted_text_is_literal (text : Bytes) :
    (∃ written,
      quoteType1 escapeStringGeneric (SQLTypeAdapter.ofString text false) = .ok written ∧
        literals.readText written = some (text, []) ∧
        ∀ rest : Bytes, rest.head? ≠ some (byte '\'') →
          literals.readText (written ++ rest) = some (text, rest)) ∧
      (∀ other, escapeStringGenericChars other = escapeStringGenericChars text →
        other = text) ∧
      (∀ c ∈ literals.bare (escapeStringGenericChars text).1.dropLast,
        c ≠ byte '\'' ∧ c ≠ 0 ∧ c ≠ byte '\r' ∧ c ≠ byte '\n') ∧
      (∀ c ∈ (escapeStringGenericChars text).1.dropLast,
        c ≠ 0 ∧ c ≠ byte '\r' ∧ c ≠ byte '\n') ∧
      (escapeStringGenericChars text).1.length ≤ 2 * text.length + 1 := by
  have source : (EscapeRequest.mk [] (some text) text.length).source = text :=
    List.take_length
  have read : ∀ rest : Bytes, rest.head? ≠ some (byte '\'') →
      literals.readText
        ((byte '\'' :: ((escapeStringGeneric
          { ps := [], original := some text, length := text.length }).1 ++
            [byte '\''])) ++ rest) = some (text, rest) := by
    intro rest ends
    have found : literals.readText
        (byte '\'' :: (literals.escape text ++ byte '\'' :: rest)) = some (text, rest) :=
      literals.readText_escape text rest ends
    simpa only [escapeStringGeneric_eq, source, List.cons_append, List.append_assoc,
      List.nil_append] using found
  constructor
  · refine ⟨_, quoteType1_ofString text, ?_, read⟩
    have alone := read [] (by decide)
    rwa [List.append_nil] at alone
  constructor
  · intro other same
    simp only [escapeStringGenericChars_eq, Prod.mk.injEq] at same
    exact literals.escape_injective (List.append_cancel_right same.1)
  simp only [escapeStringGenericChars_eq, List.dropLast_concat]
  constructor
  · intro c member
    have plain := literals.code_of_mem_bare_escape text member
    have uncoded : code c = none := plain
    constructor
    · intro equal
      subst equal
      cases uncoded
    constructor
    · intro equal
      subst equal
      cases uncoded
    constructor
    · intro equal
      subst equal
      cases uncoded
    · intro equal
      subst equal
      cases uncoded
  constructor
  · intro c member
    have absent : ∀ other : UInt8, literals.code other ≠ none → other ≠ literals.mark →
        (∀ source, literals.code source ≠ some other) → c ≠ other := by
      intro other coded notMark noLetter same
      rw [same] at member
      exact literals.not_mem_escape text coded notMark noLetter member
    exact ⟨absent 0 (by decide) (by decide) (code_ne_some (by decide)),
      absent (byte '\r') (by decide) (by decide) (code_ne_some (by decide)),
      absent (byte '\n') (by decide) (by decide) (code_ne_some (by decide))⟩
  · have bound := literals.escape_length_le text
    simp only [List.length_append, List.length_cons, List.length_nil]
    omega

/-! ### The string version -/

/-- The bytes that `MySQLDriver::escape_string(std::string*, const char*, size_t)` takes;
what is behind `original` ends with its memory. -/
def EscapeRequest.driverSource (request : EscapeRequest) : Bytes :=
  match request.original with
  | none => request.ps
  | some original =>
      if request.length = 0 then original.takeWhile (· ≠ 0) else original.take request.length

/-- `new char[length * 2 + 1]` in `escape_string_generic`, in `size_t`. -/
def EscapeRequest.allocated (request : EscapeRequest) : Nat := (request.length * 2 + 1) % 2 ^ 64

/-- A call in one of the documented modes: in place, with a terminated C string, or with a
buffer of the given length. -/
def EscapeRequest.Documented (request : EscapeRequest) : Prop :=
  match request.original with
  | none => True
  | some original =>
      if request.length = 0 then 0 ∈ original else request.length ≤ original.length

/-- The fall-back takes the bytes that the driver takes, and has room for what it writes. -/
structure EscapeRequest.Sound (request : EscapeRequest) : Prop where
  source : request.source = request.driverSource
  room : 2 * request.source.length + 1 ≤ request.allocated
  written : (escapeStringGenericChars request.source).1.length ≤ request.allocated

/-- In place, the length given, which should not matter, is at least that of the text; a C
string is empty; a buffer is shorter than 2^63. -/
def EscapeRequest.LengthSuffices (request : EscapeRequest) : Prop :=
  match request.original with
  | none => request.ps.length ≤ request.length % 2 ^ 63
  | some original =>
      if request.length = 0 then original.head? = some 0 else request.length < 2 ^ 63

theorem escapeStringGenericChars_length_le (original : Bytes) :
    (escapeStringGenericChars original).1.length ≤ 2 * original.length + 1 := by
  have bound := literals.escape_length_le original
  rw [escapeStringGenericChars_eq, List.length_append, List.length_singleton]
  omega

theorem EscapeRequest.sound_iff_of_source {request : EscapeRequest}
    (same : request.source = request.driverSource) :
    request.Sound ↔ request.source.length ≤ request.length % 2 ^ 63 := by
  have half : request.allocated = 2 * (request.length % 2 ^ 63) + 1 := by
    rw [allocated]
    omega
  constructor
  · intro sound
    have room := sound.room
    omega
  · intro fits
    have room : 2 * request.source.length + 1 ≤ request.allocated := by omega
    exact ⟨same, room, Nat.le_trans (escapeStringGenericChars_length_le request.source) room⟩

/-- A C string: the fall-back takes no byte at all. -/
theorem sound_iff_of_cString (ps : Bytes) {original : Bytes} (terminated : 0 ∈ original) :
    (EscapeRequest.mk ps (some original) 0).Sound ↔ original.head? = some 0 := by
  cases original with
  | nil => cases terminated
  | cons c rest =>
      rw [List.head?_cons, Option.some.injEq]
      constructor
      · intro sound
        by_contra nonzero
        have taken : (c :: rest).takeWhile (· ≠ 0) = c :: rest.takeWhile (· ≠ 0) :=
          List.takeWhile_cons_of_pos (decide_eq_true nonzero)
        have source : [] = (c :: rest).takeWhile (· ≠ 0) := sound.source
        rw [taken] at source
        cases source
      · intro same
        subst same
        exact (EscapeRequest.sound_iff_of_source rfl).mpr (Nat.zero_le _)

theorem sound_iff_of_buffer (ps : Bytes) {original : Bytes} {length : Nat} (sized : length ≠ 0)
    (documented : (EscapeRequest.mk ps (some original) length).Documented) :
    (EscapeRequest.mk ps (some original) length).Sound ↔
      (EscapeRequest.mk ps (some original) length).LengthSuffices := by
  have within : length ≤ original.length := by
    simp only [EscapeRequest.Documented, if_neg sized] at documented
    exact documented
  have same : (EscapeRequest.mk ps (some original) length).source =
      (EscapeRequest.mk ps (some original) length).driverSource := (if_neg sized).symm
  have taken : (EscapeRequest.mk ps (some original) length).source.length = length := by
    rw [EscapeRequest.source, List.length_take, Nat.min_eq_left within]
  rw [EscapeRequest.sound_iff_of_source same, taken]
  simp only [EscapeRequest.LengthSuffices, if_neg sized]
  omega

/-- The fall-back agrees with the driver, and stays in its buffer, exactly for calls whose
length suffices. -/
theorem escapeStringGeneric_sound_iff (request : EscapeRequest)
    (documented : request.Documented) : request.Sound ↔ request.LengthSuffices := by
  obtain ⟨ps, original, length⟩ := request
  cases original with
  | none => exact EscapeRequest.sound_iff_of_source rfl
  | some original =>
      by_cases unsized : length = 0
      · subst unsized
        exact sound_iff_of_cString ps documented
      · exact sound_iff_of_buffer ps unsized documented

theorem escapeStringGeneric_sound_iff_buffer :
    let request := EscapeRequest.mk [] (some (ascii "it's")) 4
    request.Documented ∧ (request.Sound ↔ request.LengthSuffices) :=
  ⟨Nat.le_refl 4, escapeStringGeneric_sound_iff _ (Nat.le_refl 4)⟩

/-- In place, with the default length, one byte is allocated and six are written. -/
theorem inPlace_overruns : ¬ (EscapeRequest.mk (ascii "it's") none 0).Sound := by
  intro sound
  exact absurd sound.written (by decide)

end SQLStream

end LibTabula
