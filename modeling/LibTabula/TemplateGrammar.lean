/-
The documented grammar of templates.

A template is a sequence of tokens: literal characters, doubled percent signs, and
placeholders of one to three digits with an option, a name and a closing colon that
may all be missing. A placeholder takes as much of the text as it can. Every text
has exactly one reading. The parser finds it as long as the positions fit into the
`signed char` it keeps them in.
-/

import LibTabula.Digits

set_option autoImplicit false

namespace LibTabula

open Foundation
open Query (isdigit isNameChar atoi readOption readName readPlaceholder)

/-- A placeholder behind its percent sign. -/
structure PlaceholderText where
  digits : List Nat
  option : Option UInt8
  /-- The name, and whether a colon closes it. -/
  name : Option (Bytes × Bool)
  count : 1 ≤ digits.length ∧ digits.length ≤ 3
  decimal : ∀ digit ∈ digits, digit < 10
  known : ∀ c ∈ option, c = byte 'q' ∨ c = byte 'Q'
  word : ∀ label ∈ name, ∀ c ∈ label.1, isNameChar c = true

def nameText : Option (Bytes × Bool) → Bytes
  | none => []
  | some (label, closed) => byte ':' :: (label ++ if closed then [byte ':'] else [])

namespace PlaceholderText

def text (self : PlaceholderText) : Bytes :=
  self.digits.map digitChar ++ (self.option.toList ++ nameText self.name)

def num (self : PlaceholderText) : Nat := Decimal.value self.digits

/-- The text that follows is nothing the placeholder could have taken. -/
def Maximal (self : PlaceholderText) (rest : Bytes) : Prop :=
  match self.name with
  | some (_, true) => True
  | some (_, false) => ∀ c ∈ rest.head?, isNameChar c = false ∧ c ≠ byte ':'
  | none => ∀ c ∈ rest.head?, c ≠ byte ':' ∧
      (self.option = none → c ≠ byte 'q' ∧ c ≠ byte 'Q' ∧
        (self.digits.length < 3 → isdigit c = false))

end PlaceholderText

inductive TemplateToken
  | literal (c : UInt8)
  | placeholder (parameter : PlaceholderText)

/-- The reading of a text as a template. -/
inductive Reads : Bytes → List TemplateToken → Prop
  | nil : Reads [] []
  | literal {c : UInt8} {rest : Bytes} {tokens : List TemplateToken} (plain : c ≠ byte '%') :
      Reads rest tokens → Reads (c :: rest) (.literal c :: tokens)
  | doubled {rest : Bytes} {tokens : List TemplateToken} :
      Reads rest tokens → Reads (byte '%' :: byte '%' :: rest) (.literal (byte '%') :: tokens)
  | stray {rest : Bytes} {tokens : List TemplateToken}
      (alone : ∀ c ∈ rest.head?, c ≠ byte '%' ∧ isdigit c = false) :
      Reads rest tokens → Reads (byte '%' :: rest) (.literal (byte '%') :: tokens)
  | placeholder {parameter : PlaceholderText} {text rest : Bytes} {tokens : List TemplateToken}
      (split : text = parameter.text ++ rest) (maximal : parameter.Maximal rest) :
      Reads rest tokens → Reads (byte '%' :: text) (.placeholder parameter :: tokens)

/-- The elements of a reading, with the literal text before it. -/
def documentedElems : List TemplateToken → Bytes → List SQLParseElement
  | [], before => [{ before := before, option := byte ' ', num := -1 }]
  | .literal c :: tokens, before => documentedElems tokens (before ++ [c])
  | .placeholder parameter :: tokens, before =>
      { before := before, option := parameter.option.getD (byte ' '), num := parameter.num } ::
        documentedElems tokens []

/-! ### The parts of a placeholder -/

theorem isdigit_digitChar {digit : Nat} (small : digit < 10) : isdigit (digitChar digit) = true :=
  (digitChar_spec small).2.1

theorem readName_nameText {name : Option (Bytes × Bool)} {rest : Bytes}
    (word : ∀ label ∈ name, ∀ c ∈ label.1, isNameChar c = true)
    (stops : name = none → ∀ c ∈ rest.head?, c ≠ byte ':')
    (ends : ∀ label, name = some (label, false) →
      ∀ c ∈ rest.head?, isNameChar c = false ∧ c ≠ byte ':') :
    readName (nameText name ++ rest) = (name.map (·.1), rest) := by
  cases name with
  | none =>
      cases rest with
      | nil => rfl
      | cons c rest =>
          simp only [nameText, List.nil_append, readName, if_neg (stops rfl c rfl)]
          rfl
  | some both =>
      obtain ⟨label, closed⟩ := both
      have all : ∀ c ∈ label, isNameChar c = true := word (label, closed) rfl
      cases closed with
      | true =>
          have colon : isNameChar (byte ':') = false := by decide
          simp only [nameText, if_true, List.cons_append, List.append_assoc, List.nil_append,
            readName, List.takeWhile_append_of_pos all, List.dropWhile_append_of_pos all,
            List.takeWhile_cons_of_neg (Bool.eq_false_iff.mp colon),
            List.dropWhile_cons_of_neg (Bool.eq_false_iff.mp colon), List.append_nil,
            List.head?_cons, List.tail_cons, Option.map_some]
      | false =>
          have stop : rest.takeWhile isNameChar = [] ∧ rest.dropWhile isNameChar = rest ∧
              rest.head? ≠ some (byte ':') := by
            cases rest with
            | nil => exact ⟨rfl, rfl, (Option.some_ne_none _).symm⟩
            | cons c rest =>
                obtain ⟨notName, notColon⟩ := ends label rfl c rfl
                refine ⟨List.takeWhile_cons_of_neg (Bool.eq_false_iff.mp notName),
                  List.dropWhile_cons_of_neg (Bool.eq_false_iff.mp notName), ?_⟩
                exact fun same => notColon (Option.some.inj same)
          simp only [nameText, Bool.false_eq_true, if_false, List.append_nil, List.cons_append,
            readName, if_true, List.takeWhile_append_of_pos all, List.dropWhile_append_of_pos all,
            stop, Option.map_some]

theorem readOption_toList {option : Option UInt8} {rest : Bytes}
    (known : ∀ c ∈ option, c = byte 'q' ∨ c = byte 'Q')
    (stops : option = none → ∀ c ∈ rest.head?, c ≠ byte 'q' ∧ c ≠ byte 'Q') :
    readOption (option.toList ++ rest) = (option.getD (byte ' '), rest) := by
  cases option with
  | some c => simp only [Option.toList_some, List.singleton_append, readOption,
      if_pos (known c rfl), Option.getD_some]
  | none =>
      cases rest with
      | nil => rfl
      | cons c rest =>
          obtain ⟨notLower, notUpper⟩ := stops rfl c rfl
          simp only [Option.toList_none, List.nil_append, readOption,
            if_neg (not_or.mpr ⟨notLower, notUpper⟩), Option.getD_none]

theorem take_three_digits {digits : List Nat} {rest : Bytes} (few : digits.length ≤ 3)
    (decimal : ∀ digit ∈ digits, digit < 10)
    (stops : digits.length < 3 → ∀ c ∈ rest.head?, isdigit c = false) :
    ((digits.map digitChar ++ rest).take 3).takeWhile isdigit = digits.map digitChar := by
  have all : ∀ c ∈ digits.map digitChar, isdigit c = true := by
    intro c member
    obtain ⟨digit, found, rfl⟩ := List.mem_map.mp member
    exact isdigit_digitChar (decimal digit found)
  rw [List.take_append, List.take_of_length_le (by rw [List.length_map]; exact few),
    List.takeWhile_append_of_pos all, List.length_map]
  have none : (rest.take (3 - digits.length)).takeWhile isdigit = [] := by
    cases room : 3 - digits.length with
    | zero => rfl
    | succ room =>
        cases rest with
        | nil => rfl
        | cons c rest =>
            have stop := stops (by omega) c rfl
            exact List.takeWhile_cons_of_neg (Bool.eq_false_iff.mp stop)
  rw [none, List.append_nil]

namespace PlaceholderText

theorem maximal_digits {self : PlaceholderText} {rest : Bytes} (maximal : self.Maximal rest)
    (few : self.digits.length < 3) :
    ∀ c ∈ (self.option.toList ++ (nameText self.name ++ rest)).head?, isdigit c = false := by
  intro c head
  cases option : self.option with
  | some letter =>
      rw [option] at head
      cases head
      rcases self.known c option with rfl | rfl <;> decide
  | none =>
      rw [option] at head
      cases name : self.name with
      | some label =>
          rw [name] at head
          cases head
          decide
      | none =>
          rw [name] at head
          simp only [Maximal, name] at maximal
          exact ((maximal c head).2 option).2.2 few

theorem maximal_option {self : PlaceholderText} {rest : Bytes} (maximal : self.Maximal rest)
    (option : self.option = none) :
    ∀ c ∈ (nameText self.name ++ rest).head?, c ≠ byte 'q' ∧ c ≠ byte 'Q' := by
  intro c head
  cases name : self.name with
  | some label =>
      rw [name] at head
      cases head
      decide
  | none =>
      rw [name] at head
      simp only [Maximal, name] at maximal
      have stops := (maximal c head).2 option
      exact ⟨stops.1, stops.2.1⟩

theorem digits_read {self : PlaceholderText} {rest : Bytes} (maximal : self.Maximal rest) :
    ((self.text ++ rest).take 3).takeWhile isdigit = self.digits.map digitChar := by
  simp only [text, List.append_assoc]
  exact take_three_digits self.count.2 self.decimal (maximal_digits maximal)

theorem option_read {self : PlaceholderText} {rest : Bytes} (maximal : self.Maximal rest) :
    readOption (self.option.toList ++ (nameText self.name ++ rest)) =
      (self.option.getD (byte ' '), nameText self.name ++ rest) :=
  readOption_toList self.known (maximal_option maximal)

theorem name_read {self : PlaceholderText} {rest : Bytes} (maximal : self.Maximal rest) :
    readName (nameText self.name ++ rest) = (self.name.map (·.1), rest) := by
  refine readName_nameText self.word ?_ ?_
  · intro name c head
    simp only [Maximal, name] at maximal
    exact (maximal c head).1
  · intro label name
    simp only [Maximal, name] at maximal
    exact maximal

theorem text_drop (self : PlaceholderText) (rest : Bytes) :
    (self.text ++ rest).drop (self.digits.map digitChar).length =
      self.option.toList ++ (nameText self.name ++ rest) := by
  simp only [text, List.append_assoc, List.drop_left]

/-- The parser reads a placeholder of the grammar, its number narrowed. -/
theorem readPlaceholder_text {self : PlaceholderText} {rest : Bytes}
    (maximal : self.Maximal rest) :
    readPlaceholder (self.text ++ rest) =
      { num := Query.signedChar self.num
        option := self.option.getD (byte ' ')
        name := self.name.map (·.1)
        rest := rest } := by
  simp only [readPlaceholder, digits_read maximal, text_drop, option_read maximal,
    name_read maximal, atoi_digits self.digits self.decimal, num]

theorem isdigit_of_head (self : PlaceholderText) {c : UInt8} {rest more : Bytes}
    (same : c :: more = self.text ++ rest) : isdigit c = true := by
  cases digits : self.digits with
  | nil =>
      have count := self.count.1
      rw [digits] at count
      cases count
  | cons digit later =>
      simp only [text, digits, List.map_cons, List.cons_append, List.cons.injEq] at same
      rw [same.1]
      exact isdigit_digitChar (self.decimal digit (by rw [digits]; exact List.mem_cons_self))

theorem map_digitChar_injective {left right : List Nat} (leftSmall : ∀ digit ∈ left, digit < 10)
    (rightSmall : ∀ digit ∈ right, digit < 10)
    (same : left.map digitChar = right.map digitChar) : left = right := by
  have values : ∀ read : List Nat, (∀ digit ∈ read, digit < 10) →
      (read.map digitChar).map (fun c => c.toNat - 48) = read := by
    intro read small
    rw [List.map_map]
    calc read.map ((fun c => c.toNat - 48) ∘ digitChar) = read.map id := by
          refine List.map_congr_left fun digit member => ?_
          have char := (digitChar_spec (small digit member)).1
          simp only [Function.comp_apply, char, id]
          omega
      _ = read := List.map_id read
  rw [← values left leftSmall, same, values right rightSmall]

theorem eq_of_getD_eq {left right : Option UInt8} {c : UInt8} (notLeft : c ∉ left)
    (notRight : c ∉ right) (same : left.getD c = right.getD c) : left = right := by
  cases left with
  | none =>
      cases right with
      | none => rfl
      | some letter => exact absurd (congrArg some same.symm) notRight
  | some letter =>
      cases right with
      | none => exact absurd (congrArg some same) notLeft
      | some other => exact congrArg some same

theorem eq_of_nameText_eq {left right : Option (Bytes × Bool)}
    (labels : left.map (·.1) = right.map (·.1)) (texts : nameText left = nameText right) :
    left = right := by
  cases left with
  | none =>
      cases right with
      | none => rfl
      | some label => cases labels
  | some leftLabel =>
      cases right with
      | none => cases labels
      | some rightLabel =>
          obtain ⟨leftWord, leftClosed⟩ := leftLabel
          obtain ⟨rightWord, rightClosed⟩ := rightLabel
          have words : leftWord = rightWord := Option.some.inj labels
          subst words
          have colons := List.append_cancel_left (List.cons.inj texts).2
          cases leftClosed <;> cases rightClosed
          · rfl
          · cases colons
          · cases colons
          · rfl

/-- Two placeholders that one text begins with are the same. -/
theorem unique {left right : PlaceholderText} {leftRest rightRest : Bytes}
    (leftMaximal : left.Maximal leftRest) (rightMaximal : right.Maximal rightRest)
    (same : left.text ++ leftRest = right.text ++ rightRest) :
    left = right ∧ leftRest = rightRest := by
  have digitTexts : left.digits.map digitChar = right.digits.map digitChar := by
    rw [← digits_read leftMaximal, same, digits_read rightMaximal]
  have digits := map_digitChar_injective left.decimal right.decimal digitTexts
  have options : left.option.toList ++ (nameText left.name ++ leftRest) =
      right.option.toList ++ (nameText right.name ++ rightRest) := by
    rw [← text_drop left leftRest, ← text_drop right rightRest, same, digitTexts]
  have optionReads := option_read leftMaximal
  rw [options, option_read rightMaximal, Prod.mk.injEq] at optionReads
  have option : left.option = right.option := by
    have blank : ∀ self : PlaceholderText, byte ' ' ∉ self.option := by
      intro self member
      rcases self.known _ member with wrong | wrong
      · exact absurd wrong (by decide)
      · exact absurd wrong (by decide)
    exact eq_of_getD_eq (blank left) (blank right) optionReads.1.symm
  have names := name_read leftMaximal
  rw [← optionReads.2, name_read rightMaximal, Prod.mk.injEq] at names
  obtain ⟨labels, rests⟩ := names
  have nameTexts : nameText left.name = nameText right.name := by
    have both := optionReads.2
    rw [rests] at both
    exact (List.append_cancel_right both).symm
  have name := eq_of_nameText_eq labels.symm nameTexts
  refine ⟨?_, rests.symm⟩
  cases left
  cases right
  simp only at digits option name
  subst digits option name
  rfl

end PlaceholderText

/-! ### Every text has one reading -/

/-- As many digits as there are, up to a number. -/
theorem exists_digits (most : Nat) (s : Bytes) :
    ∃ (digits : List Nat) (rest : Bytes), s = digits.map digitChar ++ rest ∧
      digits.length ≤ most ∧ (∀ value ∈ digits, value < 10) ∧
      (digits.length < most → ∀ c ∈ rest.head?, isdigit c = false) := by
  induction most generalizing s with
  | zero => exact ⟨[], s, rfl, Nat.le_refl 0, nofun, nofun⟩
  | succ most ih =>
      cases s with
      | nil => exact ⟨[], [], rfl, Nat.zero_le _, nofun, fun _ => nofun⟩
      | cons c s =>
          cases digit : isdigit c with
          | false =>
              refine ⟨[], c :: s, rfl, Nat.zero_le _, nofun, fun _ other head => ?_⟩
              cases head
              exact digit
          | true =>
              obtain ⟨value, small, rfl⟩ := exists_digit digit
              obtain ⟨digits, rest, rfl, few, decimal, stops⟩ := ih s
              refine ⟨value :: digits, rest, rfl, Nat.succ_le_succ few, ?_, ?_⟩
              · exact List.forall_mem_cons.mpr ⟨small, decimal⟩
              · exact fun fewer => stops (Nat.lt_of_succ_lt_succ fewer)

theorem exists_option (s : Bytes) :
    ∃ (option : Option UInt8) (rest : Bytes), s = option.toList ++ rest ∧
      (∀ c ∈ option, c = byte 'q' ∨ c = byte 'Q') ∧
      (option = none → ∀ c ∈ rest.head?, c ≠ byte 'q' ∧ c ≠ byte 'Q') := by
  cases s with
  | nil => exact ⟨none, [], rfl, nofun, fun _ => nofun⟩
  | cons c s =>
      by_cases known : c = byte 'q' ∨ c = byte 'Q'
      · refine ⟨some c, s, rfl, fun other same => ?_, nofun⟩
        cases same
        exact known
      · refine ⟨none, c :: s, rfl, nofun, fun _ other head => ?_⟩
        cases head
        exact not_or.mp known

/-- What stands behind a colon: a label, and the colon that closes it, if any. -/
theorem exists_label (s : Bytes) :
    ∃ (label : Bytes) (closed : Bool) (rest : Bytes),
      byte ':' :: s = nameText (some (label, closed)) ++ rest ∧
      (∀ c ∈ label, isNameChar c = true) ∧
      (closed = false → ∀ c ∈ rest.head?, isNameChar c = false ∧ c ≠ byte ':') := by
  have together : s.takeWhile isNameChar ++ s.dropWhile isNameChar = s :=
    List.takeWhile_append_dropWhile
  have word : ∀ c ∈ s.takeWhile isNameChar, isNameChar c = true := by
    intro c member
    exact List.mem_takeWhile_imp member
  cases behind : s.dropWhile isNameChar with
  | nil =>
      refine ⟨s.takeWhile isNameChar, false, [], ?_, word, fun _ => nofun⟩
      rw [behind] at together
      simp only [nameText, Bool.false_eq_true, if_false, List.append_nil] at together ⊢
      rw [together]
  | cons next rest =>
      have stop : isNameChar next = false := by
        have first := List.head?_dropWhile_not isNameChar s
        rw [behind] at first
        simpa using first
      rw [behind] at together
      by_cases closing : next = byte ':'
      · refine ⟨s.takeWhile isNameChar, true, rest, ?_, word, nofun⟩
        simp only [nameText, if_true, List.cons_append, List.append_assoc, List.nil_append,
          ← closing, together]
      · refine ⟨s.takeWhile isNameChar, false, next :: rest, ?_, word, ?_⟩
        · simp only [nameText, Bool.false_eq_true, if_false, List.append_nil, List.cons_append,
            together]
        · intro _ c head
          cases head
          exact ⟨stop, closing⟩

theorem exists_name (s : Bytes) :
    ∃ (name : Option (Bytes × Bool)) (rest : Bytes), s = nameText name ++ rest ∧
      (∀ label ∈ name, ∀ c ∈ label.1, isNameChar c = true) ∧
      (name = none → ∀ c ∈ rest.head?, c ≠ byte ':') ∧
      (∀ label, name = some (label, false) →
        ∀ c ∈ rest.head?, isNameChar c = false ∧ c ≠ byte ':') := by
  cases s with
  | nil => exact ⟨none, [], rfl, nofun, fun _ => nofun, nofun⟩
  | cons c s =>
      by_cases colon : c = byte ':'
      · subst colon
        obtain ⟨label, closed, rest, split, word, stops⟩ := exists_label s
        refine ⟨some (label, closed), rest, split, ?_, nofun, ?_⟩
        · intro other same
          cases same
          exact word
        · intro other same
          cases same
          exact stops rfl
      · refine ⟨none, c :: s, rfl, nofun, fun _ other head => ?_, nofun⟩
        cases head
        exact colon

theorem exists_placeholder {c : UInt8} (digit : isdigit c = true) (s : Bytes) :
    ∃ (parameter : PlaceholderText) (rest : Bytes),
      c :: s = parameter.text ++ rest ∧ parameter.Maximal rest := by
  obtain ⟨digits, behindDigits, split, few, decimal, digitStops⟩ := exists_digits 3 (c :: s)
  obtain ⟨option, behindOption, rfl, known, optionStops⟩ := exists_option behindDigits
  obtain ⟨name, rest, rfl, word, nameStops, wordStops⟩ := exists_name behindOption
  have present : 1 ≤ digits.length := by
    cases digits with
    | nil =>
        have first : (option.toList ++ (nameText name ++ rest)).head? = some c :=
          (congrArg List.head? split).symm
        rw [digitStops (by decide) c first] at digit
        cases digit
    | cons value digits => exact Nat.succ_le_succ (Nat.zero_le _)
  let parameter : PlaceholderText := ⟨digits, option, name, ⟨present, few⟩, decimal, known, word⟩
  refine ⟨parameter, rest, ?_, ?_⟩
  · simp only [parameter, PlaceholderText.text, List.append_assoc]
    exact split
  · cases name with
    | none =>
        intro c head
        refine ⟨nameStops rfl c head, ?_⟩
        intro same
        subst same
        have letter := optionStops rfl c head
        exact ⟨letter.1, letter.2, fun fewer => digitStops fewer c head⟩
    | some label =>
        obtain ⟨letters, closed⟩ := label
        cases closed with
        | true => trivial
        | false => exact wordStops letters rfl

theorem exists_reading (text : Bytes) : ∃ tokens, Reads text tokens := by
  induction same : text.length using Nat.strong_induction_on generalizing text with
  | _ size ih =>
      cases text with
      | nil => exact ⟨[], .nil⟩
      | cons c s =>
          by_cases percent : c = byte '%'
          · subst percent
            cases s with
            | nil =>
                exact ⟨_, .stray (nofun) .nil⟩
            | cons next rest =>
                by_cases double : next = byte '%'
                · subst double
                  obtain ⟨tokens, reads⟩ := ih rest.length (by rw [← same]; simp) rest rfl
                  exact ⟨_, .doubled reads⟩
                · cases digit : isdigit next with
                  | true =>
                      obtain ⟨parameter, behind, split, maximal⟩ := exists_placeholder digit rest
                      have shorter : behind.length < size := by
                        have lengths := congrArg List.length split
                        rw [List.length_append] at lengths
                        rw [← same, List.length_cons, lengths]
                        omega
                      obtain ⟨tokens, reads⟩ := ih behind.length shorter behind rfl
                      exact ⟨_, .placeholder split maximal reads⟩
                  | false =>
                      obtain ⟨tokens, reads⟩ := ih (next :: rest).length
                        (by rw [← same]; exact Nat.lt_succ_self _) (next :: rest) rfl
                      refine ⟨_, .stray (fun other head => ?_) reads⟩
                      cases head
                      exact ⟨double, digit⟩
          · obtain ⟨tokens, reads⟩ := ih s.length (by rw [← same]; exact Nat.lt_succ_self _) s rfl
            exact ⟨_, .literal percent reads⟩

theorem exists_digit_of_placeholder {parameter : PlaceholderText} {text rest : Bytes}
    (split : text = parameter.text ++ rest) : ∃ c more, text = c :: more ∧ isdigit c = true := by
  cases text with
  | nil =>
      have count := parameter.count.1
      have lengths := congrArg List.length split
      simp only [PlaceholderText.text, List.length_append, List.length_map, List.length_nil]
        at lengths
      omega
  | cons c more => exact ⟨c, more, rfl, parameter.isdigit_of_head split⟩

theorem not_alone_of_placeholder {parameter : PlaceholderText} {text rest : Bytes}
    (split : text = parameter.text ++ rest) :
    ¬ ∀ c ∈ text.head?, c ≠ byte '%' ∧ isdigit c = false := by
  obtain ⟨c, more, isCons, digit⟩ := exists_digit_of_placeholder split
  intro alone
  rw [isCons] at alone
  rw [(alone c rfl).2] at digit
  cases digit

theorem reads_unique {text : Bytes} {left right : List TemplateToken} (first : Reads text left)
    (second : Reads text right) : left = right := by
  induction first generalizing right with
  | nil =>
      cases second
      rfl
  | literal plain rest ih =>
      cases second with
      | literal plain' rest' => rw [ih rest']
      | doubled rest' => exact absurd rfl plain
      | stray alone rest' => exact absurd rfl plain
      | placeholder split maximal rest' => exact absurd rfl plain
  | doubled rest ih =>
      cases second with
      | literal plain rest' => exact absurd rfl plain
      | doubled rest' => rw [ih rest']
      | stray alone rest' => exact absurd rfl (alone _ rfl).1
      | placeholder split maximal rest' =>
          have digit := PlaceholderText.isdigit_of_head _ split
          exact absurd digit (by decide)
  | stray alone rest ih =>
      cases second with
      | literal plain rest' => exact absurd rfl plain
      | doubled rest' => exact absurd rfl (alone _ rfl).1
      | stray alone' rest' => rw [ih rest']
      | placeholder split maximal rest' => exact absurd alone (not_alone_of_placeholder split)
  | placeholder split maximal rest ih =>
      cases second with
      | literal plain rest' => exact absurd rfl plain
      | doubled rest' =>
          have digit := PlaceholderText.isdigit_of_head _ split
          exact absurd digit (by decide)
      | stray alone rest' => exact absurd alone (not_alone_of_placeholder split)
      | placeholder split' maximal' rest' =>
          obtain ⟨same, rests⟩ := PlaceholderText.unique maximal maximal' (split.symm.trans split')
          subst same rests
          rw [ih rest']

/-! ### What the parser makes of a reading -/

namespace Query

theorem saveParameter_ok (str : Bytes) {parameter : Placeholder} (inRange : 0 ≤ parameter.num)
    (q : Query) :
    ∃ after, (saveParameter str parameter).run q = .ok () after ∧
      after.parseElems = q.parseElems ++
        [{ before := str, option := parameter.option, num := parameter.num }] := by
  have saved : ∃ after, (saveParameter str parameter).run q = .ok () after := by
    unfold saveParameter
    cases parameter.name with
    | none => exact ⟨_, rfl⟩
    | some name =>
        simp only [declareName, if_neg (Int.not_lt.mpr inRange)]
        exact ⟨_, rfl⟩
  obtain ⟨after, ran⟩ := saved
  exact ⟨after, ran, saveParameter_elems ran⟩

/-- The parser takes a placeholder with a number that it can hold as the grammar does. -/
theorem parseLoop_placeholderText {parameter : PlaceholderText} {text rest : Bytes}
    (split : text = parameter.text ++ rest) (maximal : parameter.Maximal rest)
    (small : parameter.num ≤ 127) (str : Bytes) (q : Query) :
    ∃ middle, (parseLoop (byte '%' :: text) str).run q = (parseLoop rest []).run middle ∧
      middle.parseElems = q.parseElems ++
        [{ before := str, option := parameter.option.getD (byte ' '), num := parameter.num }] := by
  obtain ⟨c, more, isCons, digit⟩ := exists_digit_of_placeholder split
  have single : text.head? ≠ some (byte '%') := by
    rw [isCons]
    intro same
    rw [Option.some.inj same] at digit
    exact absurd digit (by decide)
  have anyDigit : text.head?.any isdigit = true := by
    rw [isCons]
    exact digit
  have kept : signedChar parameter.num = parameter.num := by
    unfold signedChar
    omega
  have found := parameter.readPlaceholder_text maximal
  rw [← split, kept] at found
  have inRange : 0 ≤ (readPlaceholder text).num := by
    rw [found]
    exact Int.natCast_nonneg _
  obtain ⟨middle, saved, elems⟩ := saveParameter_ok str inRange q
  rw [found] at elems
  refine ⟨middle, ?_, elems⟩
  rw [parseLoop_placeholder single anyDigit saved, found]

theorem parseLoop_reads {text : Bytes} {tokens : List TemplateToken} (reads : Reads text tokens)
    (noNul : 0 ∉ text)
    (fits : ∀ parameter, .placeholder parameter ∈ tokens → parameter.num ≤ 127)
    (str : Bytes) (q : Query) :
    ∃ last after, (parseLoop text str).run q = .ok last after ∧
      after.parseElems ++ [{ before := last, option := byte ' ', num := -1 }] =
        q.parseElems ++ documentedElems tokens str := by
  have percent : byte '%' ≠ 0 := by decide
  induction reads generalizing str q with
  | nil => exact ⟨str, q, by rw [parseLoop]; rfl, rfl⟩
  | @literal c rest tokens plain reads ih =>
      have notNul : c ≠ 0 := fun same => noNul (by rw [same]; exact List.mem_cons_self)
      rw [parseLoop_literal notNul plain]
      exact ih (fun member => noNul (List.mem_cons_of_mem _ member))
        (fun parameter member => fits parameter (List.mem_cons_of_mem _ member)) _ q
  | @doubled rest tokens reads ih =>
      rw [parseLoop, if_neg percent, if_pos rfl, List.head?_cons, if_pos rfl]
      refine ih (fun member => noNul ?_)
        (fun parameter member => fits parameter (List.mem_cons_of_mem _ member)) _ q
      exact List.mem_cons_of_mem _ (List.mem_cons_of_mem _ member)
  | @stray rest tokens alone reads ih =>
      have single : rest.head? ≠ some (byte '%') := fun same => (alone _ same).1 rfl
      have noDigit : ¬ rest.head?.any isdigit = true := by
        cases rest with
        | nil => exact Bool.false_ne_true
        | cons c rest =>
            have other := (alone c rfl).2
            simp only [List.head?_cons, Option.any_some, other]
            exact Bool.false_ne_true
      rw [parseLoop, if_neg percent, if_pos rfl, if_neg single, if_neg noDigit]
      exact ih (fun member => noNul (List.mem_cons_of_mem _ member))
        (fun parameter member => fits parameter (List.mem_cons_of_mem _ member)) _ q
  | @placeholder parameter text rest tokens split maximal reads ih =>
      have small := fits parameter List.mem_cons_self
      obtain ⟨middle, read, elems⟩ := parseLoop_placeholderText split maximal small str q
      rw [read]
      obtain ⟨last, after, ran, all⟩ := ih
        (fun member => noNul (by
          rw [split]
          exact List.mem_cons_of_mem _ (List.mem_append_right _ member)))
        (fun parameter member => fits parameter (List.mem_cons_of_mem _ member)) [] middle
      refine ⟨last, after, ran, ?_⟩
      rw [all, elems, List.append_assoc]
      rfl

theorem mem_documentedElems {parameter : PlaceholderText} {tokens : List TemplateToken}
    (member : .placeholder parameter ∈ tokens) (str : Bytes) :
    ∃ elem ∈ documentedElems tokens str, elem.num = parameter.num := by
  induction tokens generalizing str with
  | nil => cases member
  | cons token tokens ih =>
      cases token with
      | literal c =>
          rcases List.mem_cons.mp member with wrong | member
          · cases wrong
          · exact ih member (str ++ [c])
      | placeholder other =>
          rcases List.mem_cons.mp member with same | member
          · cases same
            exact ⟨_, List.mem_cons_self, rfl⟩
          · obtain ⟨elem, found, num⟩ := ih member []
            exact ⟨elem, List.mem_cons_of_mem _ found, num⟩

/-- The parser makes the documented elements exactly where every position fits. -/
theorem parse_documented_iff (q : Query) (noNul : 0 ∉ q.sbuffer) :
    ∃ tokens, Reads q.sbuffer tokens ∧ (∀ other, Reads q.sbuffer other → other = tokens) ∧
      ((∃ after, parse.run q = .ok () after ∧
          after.parseElems = q.parseElems ++ documentedElems tokens []) ↔
        ∀ parameter, .placeholder parameter ∈ tokens → parameter.num ≤ 127) := by
  obtain ⟨tokens, reads⟩ := exists_reading q.sbuffer
  refine ⟨tokens, reads, fun other reads' => reads_unique reads' reads, ?_, ?_⟩
  · rintro ⟨after, parsed, documented⟩ parameter member
    obtain ⟨template, elems⟩ := parse_elems parsed
    have same := List.append_cancel_left (documented.symm.trans elems)
    obtain ⟨elem, found, num⟩ := mem_documentedElems member []
    rw [same, ParsedTemplate.elems] at found
    rcases List.mem_append.mp found with found | found
    · have bound := (template.nums elem found).2
      omega
    · rw [List.mem_singleton.mp found] at num
      have negative : (-1 : Int) = parameter.num := num
      omega
  · intro fits
    obtain ⟨last, after, looped, elems⟩ := parseLoop_reads reads noNul fits [] q
    refine ⟨{ after with parseElems := q.parseElems ++ documentedElems tokens [] }, ?_, rfl⟩
    change (parseLoop q.sbuffer [] >>= fun str =>
      pushElem { before := str, option := byte ' ', num := -1 }).run q = _
    rw [run_bind_of_ok looped, ← elems]
    rfl

theorem parse_documented_iff_named :
    ∃ tokens, Reads (ascii "x = %0q:what") tokens ∧
      ((∃ after, parse.run (new 1 true (ascii "x = %0q:what")) = .ok () after ∧
          after.parseElems = documentedElems tokens []) ↔
        ∀ parameter, .placeholder parameter ∈ tokens → parameter.num ≤ 127) := by
  obtain ⟨tokens, reads, _, documented⟩ :=
    parse_documented_iff (new 1 true (ascii "x = %0q:what")) (by decide)
  exact ⟨tokens, reads, documented⟩

def position200 : PlaceholderText :=
  { digits := [2, 0, 0], option := none, name := none, count := by decide, decimal := by decide
    known := nofun, word := nofun }

/-- Position 200 becomes -56. A name for it is stored in front of the vector. -/
theorem position200_wraps :
    (∃ after, parse.run (new 1 true (ascii "%200")) = .ok () after ∧
      ∀ tokens, Reads (ascii "%200") tokens → after.parseElems ≠ documentedElems tokens []) ∧
    (parse.run (new 1 true (ascii "%200:x"))).outcome = .error .outOfBounds := by
  constructor
  · have parsed : (parse.run (new 1 true (ascii "%200"))).outcome = .ok () := by
      decide +kernel
    have elems : (parse.run (new 1 true (ascii "%200"))).final.parseElems =
        [{ before := [], option := byte ' ', num := -56 },
          { before := [], option := byte ' ', num := -1 }] := by
      decide +kernel
    refine ⟨_, EStateM.Result.eq_ok parsed, fun tokens reads same => ?_⟩
    have split : ascii "200" = position200.text ++ [] := rfl
    have reading : Reads (ascii "%200") [.placeholder position200] := .placeholder split nofun .nil
    rw [reads_unique reads reading, elems] at same
    exact absurd same (by decide)
  · decide +kernel

end Query

end LibTabula
