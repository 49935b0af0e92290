/-
Words and lines.

A text has words, its longest parts without a separator, and lines, which a
terminator ends. Texts that are printed word by word and line by line are read back
as they were.
-/

set_option autoImplicit false

namespace Foundation

variable {α : Type}

/-! ### Words -/

section Words

variable {sep : α → Bool}

/-- The words of a text. Separators next to each other are one, and those at the
ends are none. -/
def words (sep : α → Bool) (text : List α) : List (List α) :=
  (text.splitOnP sep).filter fun part => !part.isEmpty

structure IsWord (sep : α → Bool) (word : List α) : Prop where
  nonempty : word ≠ []
  unbroken : ∀ c ∈ word, sep c = false

theorem IsWord.isEmpty {word : List α} (isWord : IsWord sep word) : word.isEmpty = false := by
  cases word with
  | nil => exact absurd rfl isWord.nonempty
  | cons _ _ => rfl

theorem words_cons_separator {c : α} (separates : sep c = true) (text : List α) :
    words sep (c :: text) = words sep text := by
  unfold words
  rw [List.splitOnP_cons_eq_if_modifyHead, if_pos separates]
  rfl

theorem words_of_isWord {word : List α} (isWord : IsWord sep word) : words sep word = [word] := by
  unfold words
  rw [List.splitOnP_eq_singleton isWord.unbroken, List.filter_cons_of_pos, List.filter_nil]
  rw [isWord.isEmpty]
  rfl

/-- A separator divides the words of a text. -/
theorem words_append_cons {c : α} (separates : sep c = true) (front back : List α) :
    words sep (front ++ c :: back) = words sep front ++ words sep back := by
  unfold words
  rw [List.splitOnP_append_cons front back separates, List.filter_append]

theorem words_append_separator {word : List α} (isWord : IsWord sep word) {c : α}
    (separates : sep c = true) (text : List α) :
    words sep (word ++ c :: text) = word :: words sep text := by
  unfold words
  rw [List.splitOnP_append_cons_of_forall_mem isWord.unbroken c separates,
    List.filter_cons_of_pos]
  rw [isWord.isEmpty]
  rfl

/-- The parts of a text are without separators and have nothing that is not in it. -/
theorem mem_of_mem_splitOnP {text part : List α} (member : part ∈ text.splitOnP sep) :
    ∀ c ∈ part, sep c = false ∧ c ∈ text := by
  induction text generalizing part with
  | nil =>
      rw [List.splitOnP_nil, List.mem_singleton] at member
      rw [member]
      exact nofun
  | cons first text ih =>
      rw [List.splitOnP_cons_eq_if_modifyHead] at member
      by_cases separates : sep first = true
      · rw [if_pos separates] at member
        rcases List.mem_cons.mp member with same | rest
        · rw [same]
          exact nofun
        · intro c inPart
          obtain ⟨unbroken, inText⟩ := ih rest c inPart
          exact ⟨unbroken, List.mem_cons_of_mem first inText⟩
      · rw [if_neg separates] at member
        obtain ⟨head, parts, split⟩ := List.exists_cons_of_ne_nil (List.splitOnP_ne_nil sep text)
        rw [split] at member ih
        have inHead := ih List.mem_cons_self
        rcases List.mem_cons.mp member with same | rest
        · intro c inPart
          rw [same] at inPart
          rcases List.mem_cons.mp inPart with isFirst | later
          · rw [isFirst]
            exact ⟨Bool.eq_false_iff.mpr separates, List.mem_cons_self⟩
          · exact ⟨(inHead c later).1, List.mem_cons_of_mem first (inHead c later).2⟩
        · intro c inPart
          obtain ⟨unbroken, inText⟩ := ih (List.mem_cons_of_mem head rest) c inPart
          exact ⟨unbroken, List.mem_cons_of_mem first inText⟩

theorem exists_part_of_mem {text : List α} {c : α} (member : c ∈ text)
    (unbroken : sep c = false) : ∃ part ∈ text.splitOnP sep, c ∈ part := by
  induction text with
  | nil => cases member
  | cons first text ih =>
      rw [List.splitOnP_cons_eq_if_modifyHead]
      by_cases separates : sep first = true
      · rw [if_pos separates]
        rcases List.mem_cons.mp member with same | later
        · rw [← same, unbroken] at separates
          cases separates
        · obtain ⟨part, inParts, inPart⟩ := ih later
          exact ⟨part, List.mem_cons_of_mem _ inParts, inPart⟩
      · rw [if_neg separates]
        obtain ⟨head, parts, split⟩ := List.exists_cons_of_ne_nil (List.splitOnP_ne_nil sep text)
        rw [split] at ih ⊢
        rcases List.mem_cons.mp member with same | later
        · exact ⟨first :: head, List.mem_cons_self, same ▸ List.mem_cons_self⟩
        · obtain ⟨part, inParts, inPart⟩ := ih later
          rcases List.mem_cons.mp inParts with isHead | inRest
          · refine ⟨first :: head, List.mem_cons_self, List.mem_cons_of_mem first ?_⟩
            exact isHead ▸ inPart
          · exact ⟨part, List.mem_cons_of_mem _ inRest, inPart⟩

/-- What is not a separator is in a word. -/
theorem exists_word_of_mem {text : List α} {c : α} (member : c ∈ text)
    (unbroken : sep c = false) : ∃ word ∈ words sep text, c ∈ word := by
  obtain ⟨part, inParts, inPart⟩ := exists_part_of_mem member unbroken
  refine ⟨part, List.mem_filter.mpr ⟨inParts, ?_⟩, inPart⟩
  cases part with
  | nil => cases inPart
  | cons _ _ => rfl

theorem isWord_of_mem_words {text word : List α} (member : word ∈ words sep text) :
    IsWord sep word ∧ ∀ c ∈ word, c ∈ text := by
  obtain ⟨part, nonempty⟩ := List.mem_filter.mp member
  have chars := mem_of_mem_splitOnP part
  refine ⟨⟨?_, fun c inWord => (chars c inWord).1⟩, fun c inWord => (chars c inWord).2⟩
  intro empty
  rw [empty] at nonempty
  cases nonempty

/-- Printed with a separator between them, words are read back. -/
theorem words_intercalate {c : α} (separates : sep c = true) {ws : List (List α)}
    (areWords : ∀ word ∈ ws, IsWord sep word) : words sep ([c].intercalate ws) = ws := by
  induction ws with
  | nil => rfl
  | cons word rest ih =>
      obtain ⟨first, others⟩ := List.forall_mem_cons.mp areWords
      cases rest with
      | nil =>
          rw [List.intercalate_singleton]
          exact words_of_isWord first
      | cons next rest =>
          rw [List.intercalate_cons_cons, List.append_assoc, List.singleton_append,
            words_append_separator first separates, ih others]

theorem intercalate_cons_eq_flatMap (c : α) (word : List α) (rest : List (List α)) :
    [c].intercalate (word :: rest) = word ++ rest.flatMap fun next => c :: next := by
  induction rest generalizing word with
  | nil => rw [List.intercalate_singleton, List.flatMap_nil, List.append_nil]
  | cons next rest ih =>
      rw [List.intercalate_cons_cons, ih, List.flatMap_cons, List.append_assoc,
        List.singleton_append, List.cons_append]

theorem mem_intercalate {c d : α} {ws : List (List α)} (member : d ∈ [c].intercalate ws) :
    d = c ∨ ∃ word ∈ ws, d ∈ word := by
  cases ws with
  | nil => cases member
  | cons word rest =>
      rw [intercalate_cons_eq_flatMap, List.mem_append, List.mem_flatMap] at member
      rcases member with inFirst | ⟨next, inRest, inNext⟩
      · exact .inr ⟨word, List.mem_cons_self, inFirst⟩
      · rcases List.mem_cons.mp inNext with isSeparator | inWord
        · exact .inl isSeparator
        · exact .inr ⟨next, List.mem_cons_of_mem word inRest, inWord⟩

end Words

/-! ### Reading a part of a list -/

section Reading

variable {β : Type} {read whole : α → Option β}

theorem length_filterMap_le (less : ∀ item, whole item = none → read item = none)
    (items : List α) : (items.filterMap read).length ≤ (items.filterMap whole).length := by
  induction items with
  | nil => exact Nat.le_refl 0
  | cons item items ih =>
      rw [List.filterMap_cons, List.filterMap_cons]
      cases given : whole item with
      | none =>
          rw [less item given]
          exact ih
      | some value =>
          cases read item with
          | none => exact Nat.le_succ_of_le ih
          | some other => exact Nat.succ_le_succ ih

theorem filterMap_eq_iff (less : ∀ item, whole item = none → read item = none)
    (items : List α) :
    items.filterMap read = items.filterMap whole ↔ ∀ item ∈ items, read item = whole item := by
  induction items with
  | nil => exact iff_of_true rfl nofun
  | cons item items ih =>
      rw [List.forall_mem_cons, List.filterMap_cons, List.filterMap_cons, ← ih]
      cases given : whole item with
      | none =>
          rw [less item given]
          exact (and_iff_right rfl).symm
      | some value =>
          cases got : read item with
          | none =>
              -- One too few cannot be made up for.
              refine iff_of_false ?_ nofun
              intro same
              have fewer := length_filterMap_le less items
              dsimp only at same
              rw [same, List.length_cons] at fewer
              omega
          | some other => rw [List.cons.injEq, Option.some.injEq]

/-- A list that is read up to some item gives all that is in it if and only if each item
that is read gives what is in it and the others have nothing. -/
theorem filterMap_takeWhile_eq_iff (less : ∀ item, whole item = none → read item = none)
    (reads : α → Bool) (items : List α) :
    (items.takeWhile reads).filterMap read = items.filterMap whole ↔
      (∀ item ∈ items.takeWhile reads, read item = whole item) ∧
        ∀ item ∈ items.dropWhile reads, whole item = none := by
  have parts : items.filterMap whole = (items.takeWhile reads).filterMap whole ++
      (items.dropWhile reads).filterMap whole := by
    rw [← List.filterMap_append, List.takeWhile_append_dropWhile]
  rw [parts, ← filterMap_eq_iff less, ← List.filterMap_eq_nil_iff]
  constructor
  · intro same
    have fewer := length_filterMap_le less (items.takeWhile reads)
    rw [same, List.length_append] at fewer
    have nothing : (items.dropWhile reads).filterMap whole = [] := by
      apply List.eq_nil_of_length_eq_zero
      omega
    rw [nothing, List.append_nil] at same
    exact ⟨same, nothing⟩
  · intro both
    obtain ⟨same, nothing⟩ := both
    rw [same, nothing, List.append_nil]

end Reading

/-! ### Lines -/

section Lines

variable [DecidableEq α] (terminator : α)

/-- The lines of a text. The last one need not be terminated. -/
def textLines (text : List α) : List (List α) :=
  let parts := text.splitOnP fun c => decide (c = terminator)
  if parts.getLast? = some [] then parts.dropLast else parts

/-- The lines with the terminator behind each. -/
def unlines (lines : List (List α)) : List α := lines.flatMap fun line => line ++ [terminator]

theorem textLines_nil : textLines terminator [] = [] := by
  unfold textLines
  rw [List.splitOnP_nil]
  rfl

theorem textLines_append {line : List α} (plain : terminator ∉ line) (text : List α) :
    textLines terminator (line ++ terminator :: text) = line :: textLines terminator text := by
  have unbroken : ∀ c ∈ line, decide (c = terminator) = false := by
    intro c inLine
    apply decide_eq_false
    intro same
    exact plain (same ▸ inLine)
  unfold textLines
  rw [List.splitOnP_append_cons_of_forall_mem unbroken terminator (decide_eq_true rfl)]
  obtain ⟨head, parts, split⟩ := List.exists_cons_of_ne_nil
    (List.splitOnP_ne_nil (fun c => decide (c = terminator)) text)
  simp only [split, List.getLast?_cons_cons, List.dropLast_cons_cons]
  by_cases terminated : (head :: parts).getLast? = some []
  · rw [if_pos terminated, if_pos terminated]
  · rw [if_neg terminated, if_neg terminated]

theorem textLines_unlines {lines : List (List α)} (plain : ∀ line ∈ lines, terminator ∉ line) :
    textLines terminator (unlines terminator lines) = lines := by
  induction lines with
  | nil => exact textLines_nil terminator
  | cons line lines ih =>
      obtain ⟨first, rest⟩ := List.forall_mem_cons.mp plain
      have whole : unlines terminator (line :: lines) =
          line ++ terminator :: unlines terminator lines := by
        simp only [unlines, List.flatMap_cons, List.append_assoc, List.singleton_append]
      rw [whole, textLines_append terminator first, ih rest]

end Lines

end Foundation
