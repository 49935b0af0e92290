/-
How a line is broken into words.

An iterator passes over the line, and what is behind it is the rest of the line. A word is
what the iterator has passed since the word began. Each turn of the outer loop passes a word
and the whitespace behind it.
-/

import LibTabula.ParseV2
import LibTabula.Foundation.MaximalRuns

set_option autoImplicit false

namespace LibTabula

open Foundation

namespace ParseV2

/-! ### The loops -/

/-- The loops over whitespace. -/
def skipSpaces : Bytes → Bytes
  | [] => []
  | c :: current => if isspace c then skipSpaces current else c :: current

/-- The loop over a word, of which some has been passed. -/
def passWord (passed : Bytes) : Bytes → Bytes × Bytes
  | [] => (passed, [])
  | c :: current =>
      if isspace c then (passed, c :: current) else passWord (passed ++ [c]) current

theorem length_skipSpaces_le (current : Bytes) : (skipSpaces current).length ≤ current.length := by
  induction current with
  | nil => exact Nat.le_refl 0
  | cons c current ih =>
      rw [skipSpaces]
      split
      · exact Nat.le_succ_of_le ih
      · exact Nat.le_refl _

theorem length_passWord_le (passed current : Bytes) :
    (passWord passed current).2.length ≤ current.length := by
  induction current generalizing passed with
  | nil => exact Nat.le_refl 0
  | cons c current ih =>
      rw [passWord]
      split
      · exact Nat.le_refl _
      · exact Nat.le_succ_of_le (ih (passed ++ [c]))

/-- Either the word or the whitespace behind it has a character. -/
theorem length_turn_lt {current : Bytes} (more : current ≠ []) :
    (skipSpaces (passWord [] current).2).length < current.length := by
  cases current with
  | nil => exact absurd rfl more
  | cons c current =>
      apply Nat.lt_succ_of_le
      by_cases space : isspace c = true
      · rw [passWord, if_pos space, skipSpaces, if_pos space]
        exact length_skipSpaces_le current
      · rw [passWord, if_neg space]
        exact Nat.le_trans (length_skipSpaces_le _) (length_passWord_le _ current)

/-- The outer loop. -/
def pushWords (tokens : List Bytes) (current : Bytes) : List Bytes :=
  if _more : current ≠ [] then
    pushWords (tokens ++ [(passWord [] current).1]) (skipSpaces (passWord [] current).2)
  else tokens
termination_by current.length
decreasing_by exact length_turn_lt _more

/-- `tokenize()`, with the list that it appends to. -/
def tokenizeTo (tokens : List Bytes) (line : Bytes) : List Bytes :=
  pushWords tokens (skipSpaces line)

/-! ### What they pass -/

theorem skipSpaces_append {word : Bytes} (isWord : IsWord isspace word) (rest : Bytes) :
    skipSpaces (word ++ rest) = word ++ rest := by
  cases word with
  | nil => exact absurd rfl isWord.nonempty
  | cons c word =>
      rw [List.cons_append, skipSpaces, isWord.unbroken c List.mem_cons_self]
      rfl

theorem passWord_append {word rest : Bytes} (passed : Bytes)
    (unbroken : ∀ c ∈ word, isspace c = false) (begins : BeginsApart isspace rest) :
    passWord passed (word ++ rest) = (passed ++ word, rest) := by
  induction word generalizing passed with
  | nil =>
      rw [List.nil_append, List.append_nil]
      cases rest with
      | nil => rfl
      | cons c rest =>
          have space : isspace c = true := begins c rfl
          rw [passWord, if_pos space]
  | cons c word ih =>
      obtain ⟨first, others⟩ := List.forall_mem_cons.mp unbroken
      rw [List.cons_append, passWord, first, if_neg Bool.false_ne_true, ih (passed ++ [c]) others,
        List.append_assoc, List.singleton_append]

/-- What the loop has pushed before, and the words that are ahead of it. -/
theorem pushWords_skipSpaces (tokens : List Bytes) (line : Bytes) :
    pushWords tokens (skipSpaces line) = tokens ++ tokenize line := by
  induction line using word_induction isspace generalizing tokens with
  | nil =>
      rw [skipSpaces, pushWords, dif_neg (not_not_intro rfl)]
      exact (List.append_nil tokens).symm
  | separator c rest separates ih =>
      rw [skipSpaces, if_pos separates, ih tokens, tokenize, tokenize,
        words_cons_separator separates]
  | word word rest isWord begins ih =>
      have more : word ++ rest ≠ [] := List.append_ne_nil_of_left_ne_nil isWord.nonempty rest
      rw [skipSpaces_append isWord, pushWords, dif_pos more,
        passWord_append [] isWord.unbroken begins, List.nil_append, ih, tokenize, tokenize,
        words_append_apart isWord begins, List.append_assoc, List.singleton_append]

/-- The words that the parser goes by are those of the loops. -/
theorem tokenizeTo_eq (tokens : List Bytes) (line : Bytes) :
    tokenizeTo tokens line = tokens ++ tokenize line :=
  pushWords_skipSpaces tokens line

/-- What is appended are the maximal runs of characters other than whitespace, and joined
with spaces these are read back. -/
theorem tokenizeTo_runs (tokens : List Bytes) (line : Bytes) :
    ∃ runs : List (Nat × Bytes), AllRuns isspace line runs ∧
      tokenizeTo tokens line = tokens ++ runs.map Prod.snd ∧
      (∀ token ∈ runs.map Prod.snd, token ≠ [] ∧ ∀ c ∈ token, isspace c = false) ∧
      tokenizeTo [] ([byte ' '].intercalate (runs.map Prod.snd)) = runs.map Prod.snd := by
  obtain ⟨runs, all, same⟩ := exists_allRuns isspace line
  have areWords : ∀ token ∈ runs.map Prod.snd, IsWord isspace token := by
    intro token member
    rw [← same] at member
    exact (isWord_of_mem_words member).1
  refine ⟨runs, all, ?_, ?_, ?_⟩
  · rw [tokenizeTo_eq, tokenize, same]
  · intro token member
    exact ⟨(areWords token member).nonempty, (areWords token member).unbroken⟩
  · have space : isspace (byte ' ') = true := by decide
    rw [tokenizeTo_eq, List.nil_append, tokenize, words_intercalate space areWords]

end ParseV2

end LibTabula
