/-
The maximal runs of a text.

A run of a text is a part of it without separators, at a position; it is maximal when what
is in front of it ends, and what is behind it begins, with a separator or is nothing. The
words of a text are its maximal runs, in the order of their positions.
-/

import LibTabula.Foundation.TextWords
import Mathlib.Data.List.TakeWhile

set_option autoImplicit false

namespace Foundation

variable {α : Type} (sep : α → Bool)

def BeginsApart (text : List α) : Prop := ∀ c ∈ text.head?, sep c = true

def EndsApart (text : List α) : Prop := ∀ c ∈ text.getLast?, sep c = true

structure MaximalRun (text : List α) (start : Nat) (run : List α) : Prop where
  isWord : IsWord sep run
  placed : ∃ front back, text = front ++ (run ++ back) ∧ front.length = start ∧
    EndsApart sep front ∧ BeginsApart sep back

/-- All maximal runs of a text, in order. -/
structure AllRuns (text : List α) (runs : List (Nat × List α)) : Prop where
  inOrder : runs.Pairwise fun run later => run.1 < later.1
  maximal : ∀ run, run ∈ runs ↔ MaximalRun sep text run.1 run.2

variable {sep}

/-! ### Texts, word by word -/

section Words

theorem beginsApart_nil : BeginsApart sep [] := by
  intro c impossible
  cases impossible

theorem endsApart_nil : EndsApart sep [] := by
  intro c impossible
  cases impossible

theorem endsApart_concat {c : α} (separates : sep c = true) (front : List α) :
    EndsApart sep (front ++ [c]) := by
  intro d last
  rw [List.getLast?_concat] at last
  cases last
  exact separates

theorem IsWord.not_beginsApart {word : List α} (isWord : IsWord sep word) (back : List α) :
    ¬ BeginsApart sep (word ++ back) := by
  intro apart
  cases word with
  | nil => exact isWord.nonempty rfl
  | cons c rest =>
      have separates := apart c rfl
      rw [isWord.unbroken c List.mem_cons_self] at separates
      cases separates

theorem IsWord.not_endsApart {word : List α} (isWord : IsWord sep word) (front : List α) :
    ¬ EndsApart sep (front ++ word) := by
  intro apart
  have last : (front ++ word).getLast? = some (word.getLast isWord.nonempty) := by
    rw [List.getLast?_append, List.getLast?_eq_some_getLast isWord.nonempty]
    rfl
  have separates := apart _ last
  rw [isWord.unbroken _ (word.getLast_mem isWord.nonempty)] at separates
  cases separates

theorem IsWord.takeWhile {word back : List α} (isWord : IsWord sep word)
    (apart : BeginsApart sep back) : (word ++ back).takeWhile (fun c => !sep c) = word := by
  have inWord : ∀ c ∈ word, (!sep c) = true := by
    intro c member
    rw [isWord.unbroken c member]
    rfl
  rw [List.takeWhile_append_of_pos inWord]
  cases back with
  | nil => rw [List.takeWhile_nil, List.append_nil]
  | cons c rest =>
      rw [List.takeWhile_cons_of_neg (by rw [apart c rfl]; decide), List.append_nil]

theorem beginsApart_dropWhile (text : List α) :
    BeginsApart sep (text.dropWhile fun c => !sep c) := by
  induction text with
  | nil => exact beginsApart_nil
  | cons c text ih =>
      cases separates : sep c with
      | true =>
          rw [List.dropWhile_cons_of_neg (by rw [separates]; decide)]
          intro d first
          cases first
          exact separates
      | false =>
          rw [List.dropWhile_cons_of_pos (by rw [separates]; rfl)]
          exact ih

/-- A text is empty, or it begins with a separator, or with a word that ends there. -/
theorem word_induction (sep : α → Bool) {motive : List α → Prop} (nil : motive [])
    (separator : ∀ c rest, sep c = true → motive rest → motive (c :: rest))
    (word : ∀ word rest, IsWord sep word → BeginsApart sep rest → motive rest →
      motive (word ++ rest)) (text : List α) : motive text := by
  induction size : text.length using Nat.strong_induction_on generalizing text with
  | _ length ih =>
    cases text with
    | nil => exact nil
    | cons c text =>
        rw [List.length_cons] at size
        cases separates : sep c with
        | true =>
            apply separator c text separates
            exact ih text.length (by omega) text rfl
        | false =>
            -- The word is read up to the next separator.
            have parts : c :: text = (c :: text.takeWhile fun c => !sep c) ++
                text.dropWhile fun c => !sep c := by
              rw [List.cons_append, List.takeWhile_append_dropWhile]
            have shorter := (text.dropWhile_suffix fun c => !sep c).length_le
            rw [parts]
            apply word
            · constructor
              · exact List.cons_ne_nil c _
              · intro d member
                rcases List.mem_cons.mp member with same | inWord
                · rw [same, separates]
                · have taken := List.mem_takeWhile_imp (p := fun c => !sep c) inWord
                  rwa [Bool.not_eq_true'] at taken
            · exact beginsApart_dropWhile text
            · exact ih _ (by omega) _ rfl

end Words

/-! ### The runs from a position on -/

section Runs

/-- The runs of a text that do not begin before its last part. -/
structure RunsFrom (sep : α → Bool) (front text : List α) (runs : List (Nat × List α)) : Prop where
  inOrder : runs.Pairwise fun run later => run.1 < later.1
  maximal : ∀ run, run ∈ runs ↔
    front.length ≤ run.1 ∧ MaximalRun sep (front ++ text) run.1 run.2

theorem runsFrom_nil (front : List α) : RunsFrom sep front [] [] where
  inOrder := List.Pairwise.nil
  maximal run := by
    apply iff_of_false
    · intro impossible
      cases impossible
    · intro both
      obtain ⟨before, run⟩ := both
      obtain ⟨front', back, parts, placed, _, _⟩ := run.placed
      have sizes := congrArg List.length parts
      have some := List.length_pos_iff.mpr run.isWord.nonempty
      simp only [List.length_append, List.length_nil] at sizes
      omega

/-- No run begins at a separator. -/
theorem MaximalRun.start_ne {front text run : List α} {start : Nat} {c : α}
    (separates : sep c = true) (maximal : MaximalRun sep (front ++ c :: text) start run) :
    start ≠ front.length := by
  intro atSeparator
  obtain ⟨front', back, parts, placed, _, _⟩ := maximal.placed
  obtain ⟨_, behind⟩ := List.append_inj parts (atSeparator.symm.trans placed.symm)
  apply maximal.isWord.not_beginsApart back
  rw [← behind]
  intro d first
  cases first
  exact separates

theorem RunsFrom.separator {front text : List α} {runs : List (Nat × List α)} {c : α}
    (separates : sep c = true) (rest : RunsFrom sep (front ++ [c]) text runs) :
    RunsFrom sep front (c :: text) runs where
  inOrder := rest.inOrder
  maximal run := by
    rw [rest.maximal run, List.append_assoc, List.singleton_append, List.length_append,
      List.length_singleton]
    constructor
    · intro both
      exact ⟨by omega, both.2⟩
    · intro both
      have notHere := both.2.start_ne separates
      exact ⟨by omega, both.2⟩

/-- A run that begins in a word is that word. -/
theorem MaximalRun.eq_word {front word back run : List α} {start : Nat}
    (isWord : IsWord sep word) (apart : BeginsApart sep back)
    (maximal : MaximalRun sep (front ++ (word ++ back)) start run)
    (behind : front.length ≤ start) (inside : start < front.length + word.length) :
    start = front.length ∧ run = word := by
  obtain ⟨front', back', parts, placed, ends, begins⟩ := maximal.placed
  have whole : front <+: front' := by
    apply List.prefix_of_prefix_length_le (List.prefix_append front (word ++ back))
    · rw [parts]
      exact List.prefix_append front' _
    · omega
  obtain ⟨between, more⟩ := whole
  rw [← more, List.append_assoc, List.append_cancel_left_eq] at parts
  rw [← more, List.length_append] at placed
  by_cases nothing : between = []
  · rw [nothing, List.nil_append] at parts
    rw [nothing, List.length_nil] at placed
    have sameWord := congrArg (List.takeWhile fun c => !sep c) parts
    rw [isWord.takeWhile apart, maximal.isWord.takeWhile begins] at sameWord
    exact ⟨placed.symm, sameWord.symm⟩
  · -- What is in front of the run would end within the word.
    have inWord : between <+: word := by
      apply List.prefix_of_prefix_length_le _ (List.prefix_append word back)
      · omega
      · rw [parts]
        exact List.prefix_append between _
    have broken : IsWord sep between :=
      ⟨nothing, fun c member => isWord.unbroken c (inWord.subset member)⟩
    rw [← more] at ends
    exact absurd ends (broken.not_endsApart front)

theorem RunsFrom.word {front word back : List α} {runs : List (Nat × List α)}
    (ends : EndsApart sep front) (isWord : IsWord sep word) (begins : BeginsApart sep back)
    (rest : RunsFrom sep (front ++ word) back runs) :
    RunsFrom sep front (word ++ back) ((front.length, word) :: runs) where
  inOrder := by
    apply List.Pairwise.cons _ rest.inOrder
    intro later member
    have behind := ((rest.maximal later).mp member).1
    have some := List.length_pos_iff.mpr isWord.nonempty
    rw [List.length_append] at behind
    dsimp only
    omega
  maximal run := by
    rw [List.mem_cons, rest.maximal run, List.append_assoc, List.length_append]
    constructor
    · intro either
      rcases either with first | later
      · rw [first]
        exact ⟨Nat.le_refl _, isWord, front, back, rfl, rfl, ends, begins⟩
      · exact ⟨by omega, later.2⟩
    · intro both
      by_cases inside : run.1 < front.length + word.length
      · left
        obtain ⟨here, same⟩ := both.2.eq_word isWord begins both.1 inside
        rw [← here, ← same]
      · right
        exact ⟨Nat.not_lt.mp inside, both.2⟩

theorem words_append_apart {word back : List α} (isWord : IsWord sep word)
    (begins : BeginsApart sep back) : words sep (word ++ back) = word :: words sep back := by
  cases back with
  | nil => rw [List.append_nil, words_of_isWord isWord]; rfl
  | cons c rest =>
      have separates := begins c rfl
      rw [words_append_separator isWord separates, words_cons_separator separates]

theorem exists_runsFrom (front text : List α)
    (apart : EndsApart sep front ∨ BeginsApart sep text) :
    ∃ runs, RunsFrom sep front text runs ∧ words sep text = runs.map Prod.snd := by
  induction text using word_induction sep generalizing front with
  | nil => exact ⟨[], runsFrom_nil front, rfl⟩
  | separator c rest separates ih =>
      obtain ⟨runs, all, same⟩ := ih (front ++ [c]) (.inl (endsApart_concat separates front))
      refine ⟨runs, all.separator separates, ?_⟩
      rw [words_cons_separator separates, same]
  | word word rest isWord begins ih =>
      have ends := apart.resolve_right (isWord.not_beginsApart rest)
      obtain ⟨runs, all, same⟩ := ih (front ++ word) (.inr begins)
      refine ⟨(front.length, word) :: runs, all.word ends isWord begins, ?_⟩
      rw [words_append_apart isWord begins, same, List.map_cons]

/-- The words of a text are its maximal runs. -/
theorem exists_allRuns (sep : α → Bool) (text : List α) :
    ∃ runs, AllRuns sep text runs ∧ words sep text = runs.map Prod.snd := by
  obtain ⟨runs, all, same⟩ := exists_runsFrom [] text (.inl endsApart_nil)
  refine ⟨runs, ⟨all.inOrder, ?_⟩, same⟩
  intro run
  rw [all.maximal run, List.nil_append]
  exact and_iff_right (Nat.zero_le _)

end Runs

end Foundation
