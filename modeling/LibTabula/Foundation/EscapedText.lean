/-
Delimited text with an escape character.

A codec says which characters a writer replaces by the escape character and a
letter, and what a reader makes of a letter after the escape character. Where
these agree, and the escape character and the delimiter are always replaced, a
reader that knows nothing of the writer recovers the written value and stops at
the closing delimiter. The induction is over the value: after each escaped
character the reader is inside the text and not after an escape character.
-/

import Mathlib.Data.List.Basic

set_option autoImplicit false

namespace Foundation

variable {α : Type} [DecidableEq α]

structure EscapeCodec (α : Type) [DecidableEq α] where
  mark : α
  quote : α
  /-- The letter that replaces a character, after the escape character. -/
  code : α → Option α
  /-- What a reader makes of a letter after the escape character. -/
  decode : α → List α
  quote_ne_mark : quote ≠ mark
  mark_coded : code mark ≠ none
  quote_coded : code quote ≠ none
  decode_code : ∀ character letter, code character = some letter → decode letter = [character]

namespace EscapeCodec

variable (codec : EscapeCodec α)

def escapeOne (character : α) : List α :=
  match codec.code character with
  | some letter => [codec.mark, letter]
  | none => [character]

def escape (value : List α) : List α := value.flatMap codec.escapeOne

/-- Reads the rest of a delimited text whose opening delimiter is behind. A
doubled delimiter stands for one. The result is the value and what follows. -/
def readBody : List α → Option (List α × List α)
  | [] => none
  | character :: rest =>
      if character = codec.mark then
        match rest with
        | [] => none
        | letter :: rest =>
            (readBody rest).map fun found => (codec.decode letter ++ found.1, found.2)
      else if character = codec.quote then
        match rest with
        | [] => some ([], [])
        | next :: rest =>
            if next = codec.quote then
              (readBody rest).map fun found => (codec.quote :: found.1, found.2)
            else some ([], next :: rest)
      else (readBody rest).map fun found => (character :: found.1, found.2)

def readText : List α → Option (List α × List α)
  | [] => none
  | character :: rest => if character = codec.quote then codec.readBody rest else none

def bare : List α → List α
  | [] => []
  | character :: rest =>
      if character = codec.mark then
        match rest with
        | [] => [character]
        | _ :: rest => bare rest
      else character :: bare rest

theorem readBody_mark (letter : α) (rest : List α) :
    codec.readBody (codec.mark :: letter :: rest) =
      (codec.readBody rest).map fun found => (codec.decode letter ++ found.1, found.2) := by
  rw [readBody.eq_def]
  simp only [if_true]

theorem readBody_close (rest : List α) (ends : rest.head? ≠ some codec.quote) :
    codec.readBody (codec.quote :: rest) = some ([], rest) := by
  rw [readBody.eq_def]
  simp only [if_neg codec.quote_ne_mark, if_true]
  cases rest with
  | nil => rfl
  | cons next rest =>
      have different : next ≠ codec.quote := by
        intro same
        exact ends (congrArg some same)
      simp only [if_neg different]

theorem readBody_plain {character : α} (notMark : character ≠ codec.mark)
    (notQuote : character ≠ codec.quote) (rest : List α) :
    codec.readBody (character :: rest) =
      (codec.readBody rest).map fun found => (character :: found.1, found.2) := by
  rw [readBody.eq_def]
  simp only [if_neg notMark, if_neg notQuote]

theorem bare_mark (letter : α) (rest : List α) :
    codec.bare (codec.mark :: letter :: rest) = codec.bare rest := by
  rw [bare.eq_def]
  simp only [if_true]

theorem bare_plain {character : α} (notMark : character ≠ codec.mark) (rest : List α) :
    codec.bare (character :: rest) = character :: codec.bare rest := by
  rw [bare.eq_def]
  simp only [if_neg notMark]

theorem escape_cons (character : α) (value : List α) :
    codec.escape (character :: value) = codec.escapeOne character ++ codec.escape value := by
  simp only [escape, List.flatMap_cons]

/-- A text of which nothing is coded stays as it is. -/
theorem escape_of_uncoded {value : List α} (uncoded : ∀ c ∈ value, codec.code c = none) :
    codec.escape value = value := by
  induction value with
  | nil => rfl
  | cons character value ih =>
      have front := uncoded character List.mem_cons_self
      have behind := ih fun c member => uncoded c (List.mem_cons_of_mem character member)
      rw [escape_cons, escapeOne, front, behind]
      rfl

theorem ne_mark_of_code_eq_none {character : α} (plain : codec.code character = none) :
    character ≠ codec.mark := by
  intro same
  rw [same] at plain
  exact codec.mark_coded plain

theorem ne_quote_of_code_eq_none {character : α} (plain : codec.code character = none) :
    character ≠ codec.quote := by
  intro same
  rw [same] at plain
  exact codec.quote_coded plain

/-- Reading one escaped character adds that character and leaves the reader where
it was. -/
theorem readBody_escapeOne (character : α) (rest : List α) :
    codec.readBody (codec.escapeOne character ++ rest) =
      (codec.readBody rest).map fun found => (character :: found.1, found.2) := by
  unfold escapeOne
  cases coded : codec.code character with
  | some letter =>
      have decoded := codec.decode_code character letter coded
      simp only [List.cons_append, List.nil_append, readBody_mark, decoded]
  | none =>
      have notMark := codec.ne_mark_of_code_eq_none coded
      have notQuote := codec.ne_quote_of_code_eq_none coded
      simp only [List.cons_append, List.nil_append]
      exact codec.readBody_plain notMark notQuote rest

/-- The reader recovers the value and stops at the delimiter behind it, unless
the text goes on with another delimiter. -/
theorem readBody_escape (value rest : List α) (ends : rest.head? ≠ some codec.quote) :
    codec.readBody (codec.escape value ++ codec.quote :: rest) = some (value, rest) := by
  induction value with
  | nil =>
      simp only [escape, List.flatMap_nil, List.nil_append]
      exact codec.readBody_close rest ends
  | cons character value ih =>
      rw [escape_cons, List.append_assoc, readBody_escapeOne, ih]
      rfl

theorem readText_escape (value rest : List α) (ends : rest.head? ≠ some codec.quote) :
    codec.readText (codec.quote :: (codec.escape value ++ codec.quote :: rest)) =
      some (value, rest) := by
  rw [readText, if_pos rfl]
  exact codec.readBody_escape value rest ends

theorem escape_injective : Function.Injective codec.escape := by
  intro left right same
  have readLeft := codec.readBody_escape left [] (by simp)
  have readRight := codec.readBody_escape right [] (by simp)
  rw [same, readRight] at readLeft
  exact (congrArg Prod.fst (Option.some.inj readLeft)).symm

theorem escapeOne_length (character : α) :
    1 ≤ (codec.escapeOne character).length ∧ (codec.escapeOne character).length ≤ 2 := by
  unfold escapeOne
  cases codec.code character with
  | none => simp
  | some letter => simp

theorem escape_length_le (value : List α) :
    (codec.escape value).length ≤ 2 * value.length := by
  induction value with
  | nil => simp [escape]
  | cons character value ih =>
      have one := codec.escapeOne_length character
      rw [escape_cons, List.length_append, List.length_cons]
      omega

theorem length_le_escape (value : List α) :
    value.length ≤ (codec.escape value).length := by
  induction value with
  | nil => simp [escape]
  | cons character value ih =>
      have one := codec.escapeOne_length character
      rw [escape_cons, List.length_append, List.length_cons]
      omega

/-- Outside its escapes an escaped text has only characters that need none. -/
theorem code_of_mem_bare_escape (value : List α) {character : α}
    (member : character ∈ codec.bare (codec.escape value)) :
    codec.code character = none := by
  induction value with
  | nil => simp [escape, bare] at member
  | cons head value ih =>
      rw [escape_cons] at member
      unfold escapeOne at member
      cases coded : codec.code head with
      | some letter =>
          simp only [coded, List.cons_append, List.nil_append, bare_mark] at member
          exact ih member
      | none =>
          simp only [coded, List.cons_append, List.nil_append] at member
          rw [codec.bare_plain (codec.ne_mark_of_code_eq_none coded)] at member
          rcases List.mem_cons.mp member with same | later
          · rw [same]
            exact coded
          · exact ih later

/-- An escaped character that is no letter of the codec never appears in an
escaped text. -/
theorem not_mem_escape (value : List α) {character : α}
    (coded : codec.code character ≠ none) (notMark : character ≠ codec.mark)
    (noLetter : ∀ other, codec.code other ≠ some character) :
    character ∉ codec.escape value := by
  intro member
  obtain ⟨source, _, written⟩ := List.mem_flatMap.mp member
  unfold escapeOne at written
  cases replaced : codec.code source with
  | some letter =>
      simp only [replaced, List.mem_cons, List.not_mem_nil, or_false] at written
      rcases written with same | same
      · exact notMark same
      · exact noLetter source (by rw [replaced, same])
  | none =>
      simp only [replaced, List.mem_cons, List.not_mem_nil, or_false] at written
      rw [written] at coded
      exact coded replaced

end EscapeCodec

end Foundation
