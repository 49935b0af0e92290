/-
Command lines of single-character options.

A word that starts with a dash and goes on is a cluster of options. An option without
an argument is followed by the next one of its word; one with an argument takes the
rest of its word or, where nothing is left of it, the next word. The first word that is
no cluster ends the options. Every command line that is read without an error is written
from groups of options, and what is written from groups is read back as it was meant.
-/

import Mathlib.Algebra.GroupWithZero.Nat
import Mathlib.Logic.Basic

set_option autoImplicit false

namespace Foundation.OptionWords

variable {α : Type}

inductive Reading (α : Type)
  | flag (option : α)
  | argument (option : α) (value : List α)
  | illegal (option : α)
  | missing (option : α)
deriving DecidableEq, Repr

def Reading.isError : Reading α → Bool
  | flag _ | argument _ _ => false
  | illegal _ | missing _ => true

/-- What one cluster says, and the option that is left without its argument. `takes` is
whether an option takes an argument, for those that there are. -/
def cluster (takes : α → Option Bool) : List α → List (Reading α) × Option α
  | [] => ([], none)
  | option :: rest =>
      match takes option with
      | none => (.illegal option :: (cluster takes rest).1, (cluster takes rest).2)
      | some false => (.flag option :: (cluster takes rest).1, (cluster takes rest).2)
      | some true =>
          match rest with
          | [] => ([], some option)
          | _ :: _ => ([.argument option rest], none)

/-- A word that is a cluster, without its dash. -/
def options? [DecidableEq α] (dash : α) : List α → Option (List α)
  | [] | [_] => none
  | head :: option :: rest => if head = dash then some (option :: rest) else none

/-- What the words say, and the words after the options. `pending` is an option that
takes the next word. -/
def readWords [DecidableEq α] (dash : α) (takes : α → Option Bool) :
    Option α → List (List α) → List (Reading α) × List (List α)
  | some option, [] => ([.missing option], [])
  | some option, value :: words =>
      (.argument option value :: (readWords dash takes none words).1,
        (readWords dash takes none words).2)
  | none, [] => ([], [])
  | none, word :: words =>
      match options? dash word with
      | none => ([], word :: words)
      | some options =>
          ((cluster takes options).1 ++ (readWords dash takes (cluster takes options).2 words).1,
            (readWords dash takes (cluster takes options).2 words).2)

/-! ### Groups -/

/-- The option at the end of a group that takes an argument, in the same word or in the
next one. -/
inductive Last (α : Type)
  | none
  | attached (option : α) (value : List α)
  | separate (option : α) (value : List α)
deriving DecidableEq, Repr

/-- Options without arguments in one word, with at most one with an argument behind
them. -/
structure OptionGroup (α : Type) where
  flags : List α
  last : Last α
deriving DecidableEq, Repr

namespace OptionGroup

def words (dash : α) (self : OptionGroup α) : List (List α) :=
  match self.last with
  | .none => [dash :: self.flags]
  | .attached option value => [dash :: (self.flags ++ option :: value)]
  | .separate option value => [dash :: (self.flags ++ [option]), value]

def readings (self : OptionGroup α) : List (Reading α) :=
  self.flags.map .flag ++
    match self.last with
    | .none => []
    | .attached option value | .separate option value => [.argument option value]

structure Valid (takes : α → Option Bool) (self : OptionGroup α) : Prop where
  flags : ∀ option ∈ self.flags, takes option = some false
  last : match self.last with
    | .none => self.flags ≠ []
    | .attached option value => takes option = some true ∧ value ≠ []
    | .separate option _ => takes option = some true

end OptionGroup

/-- The options are over: there are no more words, or the next one is no cluster. -/
def Ends [DecidableEq α] (dash : α) (words : List (List α)) : Prop :=
  ∀ word ∈ words.head?, options? dash word = none

section Cluster

variable {takes : α → Option Bool}

theorem cluster_flags {flags : List α} (free : ∀ option ∈ flags, takes option = some false)
    (rest : List α) :
    cluster takes (flags ++ rest) =
      (flags.map .flag ++ (cluster takes rest).1, (cluster takes rest).2) := by
  induction flags with
  | nil => rfl
  | cons option flags ih =>
      have later := ih fun other member => free other (List.mem_cons_of_mem option member)
      simp only [List.cons_append, cluster, free option List.mem_cons_self, later, List.map_cons]

theorem cluster_argument {option : α} (takes_ : takes option = some true) {value : List α}
    (some_ : value ≠ []) : cluster takes (option :: value) = ([.argument option value], none) := by
  cases value with
  | nil => exact absurd rfl some_
  | cons head tail => simp only [cluster, takes_]

theorem cluster_last {option : α} (takes_ : takes option = some true) :
    cluster takes [option] = ([], some option) := by
  simp only [cluster, takes_]

/-- A cluster without an error is flags, with at most one option behind them that takes an
argument. -/
theorem cluster_cases (options : List α)
    (right : ∀ reading ∈ (cluster takes options).1, reading.isError = false) :
    ∃ flags, (∀ option ∈ flags, takes option = some false) ∧
      ((options = flags ∧ cluster takes options = (flags.map .flag, none)) ∨
        ∃ option value, takes option = some true ∧ options = flags ++ option :: value ∧
          (value ≠ [] → cluster takes options =
            (flags.map .flag ++ [.argument option value], none)) ∧
          (value = [] → cluster takes options = (flags.map .flag, some option))) := by
  induction options with
  | nil => exact ⟨[], by simp, .inl ⟨rfl, rfl⟩⟩
  | cons option rest ih =>
      cases kind : takes option with
      | none =>
          simp only [cluster, kind] at right
          have wrong := right (.illegal option) List.mem_cons_self
          cases wrong
      | some argument =>
          cases argument with
          | true =>
              refine ⟨[], by simp, .inr ⟨option, rest, kind, rfl, ?_, ?_⟩⟩
              · intro some_
                exact cluster_argument kind some_
              · intro nothing
                rw [nothing]
                exact cluster_last kind
          | false =>
              simp only [cluster, kind] at right
              obtain ⟨flags, free, shape⟩ := ih fun reading member =>
                right reading (List.mem_cons_of_mem _ member)
              refine ⟨option :: flags, ?_, ?_⟩
              · intro other member
                rcases List.mem_cons.mp member with rfl | later
                · exact kind
                · exact free other later
              · rcases shape with ⟨same, whole⟩ | ⟨last, value, takes_, same, attached, separate⟩
                · left
                  refine ⟨by rw [same], ?_⟩
                  simp only [cluster, kind, whole, List.map_cons]
                · right
                  refine ⟨last, value, takes_, by rw [same]; rfl, ?_, ?_⟩
                  · intro some_
                    simp only [cluster, kind, attached some_, List.map_cons, List.cons_append]
                  · intro nothing
                    simp only [cluster, kind, separate nothing, List.map_cons]

theorem cluster_length_le (options : List α) :
    (cluster takes options).1.length + (cluster takes options).2.toList.length ≤
      options.length := by
  induction options with
  | nil => exact Nat.le_refl 0
  | cons option rest ih =>
      cases kind : takes option with
      | none =>
          simp only [cluster, kind, List.length_cons]
          omega
      | some argument =>
          cases argument with
          | false =>
              simp only [cluster, kind, List.length_cons]
              omega
          | true =>
              cases rest with
              | nil =>
                  simp only [cluster, kind]
                  exact Nat.le_refl 1
              | cons head tail =>
                  simp only [cluster, kind, List.length_cons, Option.toList_none, List.length_nil]
                  omega

end Cluster

theorem OptionGroup.valid_separate {takes : α → Option Bool} {option : α}
    (takes_ : takes option = some true) (value : List α) :
    (OptionGroup.mk [] (.separate option value)).Valid takes where
  flags := by
    intro other impossible
    cases impossible
  last := takes_

theorem OptionGroup.valid_attached {takes : α → Option Bool} {option : α}
    (takes_ : takes option = some true) {value : List α} (some_ : value ≠ []) :
    (OptionGroup.mk [] (.attached option value)).Valid takes where
  flags := by
    intro other impossible
    cases impossible
  last := ⟨takes_, some_⟩

theorem OptionGroup.valid_cons {takes : α → Option Bool} {option : α} {flags : List α}
    {last : Last α} (free : takes option = some false)
    (valid : (OptionGroup.mk flags last).Valid takes) :
    (OptionGroup.mk (option :: flags) last).Valid takes := by
  obtain ⟨others, ended⟩ := valid
  constructor
  · intro other member
    rcases List.mem_cons.mp member with rfl | later
    · exact free
    · exact others other later
  · cases last with
    | none => exact List.cons_ne_nil option flags
    | attached other value => exact ended
    | separate other value => exact ended

/-- What a valid group says. -/
theorem OptionGroup.Valid.readings {takes : α → Option Bool} {group : OptionGroup α}
    (valid : group.Valid takes) {reading : Reading α} (member : reading ∈ group.readings) :
    (∃ option, reading = .flag option ∧ takes option = some false) ∨
      ∃ option value, reading = .argument option value ∧ takes option = some true := by
  obtain ⟨flags, last⟩ := group
  obtain ⟨free, ended⟩ := valid
  rw [OptionGroup.readings, List.mem_append, List.mem_map] at member
  rcases member with ⟨option, flag, rfl⟩ | final
  · exact .inl ⟨option, rfl, free option flag⟩
  · cases last with
    | none => cases final
    | attached option value => exact .inr ⟨option, value, List.mem_singleton.mp final, ended.1⟩
    | separate option value => exact .inr ⟨option, value, List.mem_singleton.mp final, ended⟩

section Read

variable [DecidableEq α] {dash : α} {takes : α → Option Bool}

theorem options?_cons {options : List α} (some_ : options ≠ []) :
    options? dash (dash :: options) = some options := by
  cases options with
  | nil => exact absurd rfl some_
  | cons option rest => simp only [options?, if_true]

theorem options?_eq_some {word options : List α} (found : options? dash word = some options) :
    word = dash :: options ∧ options ≠ [] := by
  cases word with
  | nil => cases found
  | cons head rest =>
      cases rest with
      | nil => cases found
      | cons option rest =>
          simp only [options?] at found
          split at found
          · rename_i same
            cases found
            exact ⟨by rw [same], List.cons_ne_nil option rest⟩
          · cases found

theorem readWords_ends {words : List (List α)} (ends : Ends dash words) :
    readWords dash takes none words = ([], words) := by
  cases words with
  | nil => rfl
  | cons word words => simp only [readWords, ends word rfl]

/-- A group is read as what it was written from. -/
theorem readWords_group {group : OptionGroup α} (valid : group.Valid takes)
    (words : List (List α)) :
    readWords dash takes none (group.words dash ++ words) =
      (group.readings ++ (readWords dash takes none words).1,
        (readWords dash takes none words).2) := by
  obtain ⟨flags, last⟩ := group
  obtain ⟨free, ended⟩ := valid
  cases last with
  | none =>
      have whole := cluster_flags free []
      rw [List.append_nil] at whole
      simp only [OptionGroup.words, OptionGroup.readings, List.cons_append, List.nil_append,
        readWords, options?_cons ended, whole, cluster, List.append_nil]
  | attached option value =>
      obtain ⟨takes_, some_⟩ := ended
      have nonempty : flags ++ option :: value ≠ [] := by simp
      simp only [OptionGroup.words, OptionGroup.readings, List.cons_append, List.nil_append,
        readWords, options?_cons nonempty, cluster_flags free, cluster_argument takes_ some_]
  | separate option value =>
      have nonempty : flags ++ [option] ≠ [] := by simp
      have takes_ : takes option = some true := ended
      simp only [OptionGroup.words, OptionGroup.readings, List.cons_append, List.nil_append,
        readWords, options?_cons nonempty, cluster_flags free, cluster_last takes_, List.append_nil,
        List.append_assoc]

theorem readWords_groups {groups : List (OptionGroup α)}
    (valid : ∀ group ∈ groups, group.Valid takes) {rest : List (List α)} (ends : Ends dash rest) :
    readWords dash takes none (groups.flatMap (OptionGroup.words dash) ++ rest) =
      (groups.flatMap OptionGroup.readings, rest) := by
  induction groups with
  | nil => exact readWords_ends ends
  | cons group groups ih =>
      have later := ih fun other member => valid other (List.mem_cons_of_mem group member)
      rw [List.flatMap_cons, List.append_assoc,
        readWords_group (valid group List.mem_cons_self), later, List.flatMap_cons]

/-- What is read without an error was written from groups. -/
theorem groups_of_readWords (words : List (List α))
    (right : ∀ reading ∈ (readWords dash takes none words).1, reading.isError = false) :
    ∃ (groups : List (OptionGroup α)) (rest : List (List α)),
      (∀ group ∈ groups, group.Valid takes) ∧ Ends dash rest ∧
        words = groups.flatMap (OptionGroup.words dash) ++ rest := by
  generalize length : words.length = n
  induction n using Nat.strongRecOn generalizing words with
  | ind n ih =>
      -- A valid group in front of words that are shorter.
      have prepend : ∀ {group : OptionGroup α} {later : List (List α)}, group.Valid takes →
          words = group.words dash ++ later →
          (readWords dash takes none words).1 =
            group.readings ++ (readWords dash takes none later).1 →
          ∃ (groups : List (OptionGroup α)) (rest : List (List α)),
            (∀ group ∈ groups, group.Valid takes) ∧ Ends dash rest ∧
              words = groups.flatMap (OptionGroup.words dash) ++ rest := by
        intro group later valid split_ said
        have shorter : later.length < n := by
          rw [← length, split_, List.length_append]
          have some_ : 0 < (group.words dash).length := by
            obtain ⟨flags, last⟩ := group
            cases last <;> exact Nat.succ_pos _
          omega
        obtain ⟨groups, rest, valids, ends, same⟩ := ih later.length shorter later (by
          intro reading member
          apply right
          rw [said]
          exact List.mem_append_right _ member) rfl
        refine ⟨group :: groups, rest, ?_, ends, ?_⟩
        · intro other member
          rcases List.mem_cons.mp member with rfl | later
          · exact valid
          · exact valids other later
        · rw [split_, same, List.flatMap_cons, List.append_assoc]
      cases words with
      | nil =>
          refine ⟨[], [], ?_, ?_, rfl⟩
          · intro group impossible
            cases impossible
          · intro word impossible
            cases impossible
      | cons word later =>
          cases found : options? dash word with
          | none =>
              refine ⟨[], word :: later, ?_, ?_, rfl⟩
              · intro group impossible
                cases impossible
              · intro other same
                cases same
                exact found
          | some options =>
              obtain ⟨rfl, some_⟩ := options?_eq_some found
              have fine : ∀ reading ∈ (cluster takes options).1, reading.isError = false := by
                intro reading member
                apply right
                simp only [readWords, found]
                exact List.mem_append_left _ member
              obtain ⟨flags, free, shape⟩ := cluster_cases options fine
              rcases shape with ⟨rfl, _⟩ | ⟨option, value, takes_, rfl, _, separate⟩
              · have valid : (OptionGroup.mk options .none).Valid takes := ⟨free, some_⟩
                exact prepend valid rfl (congrArg Prod.fst (readWords_group valid later))
              · by_cases attached : value = []
                · subst attached
                  cases later with
                  | nil =>
                      simp only [readWords, found, separate rfl] at right
                      have wrong := right (.missing option) (by simp)
                      cases wrong
                  | cons given later =>
                      have valid : (OptionGroup.mk flags (.separate option given)).Valid takes :=
                        ⟨free, takes_⟩
                      exact prepend valid rfl (congrArg Prod.fst (readWords_group valid later))
                · have valid : (OptionGroup.mk flags (.attached option value)).Valid takes :=
                    ⟨free, takes_, attached⟩
                  exact prepend valid rfl (congrArg Prod.fst (readWords_group valid later))

/-- The words are read without an error as `readings` with `rest` behind them if and only
if they are written from groups that mean the readings, followed by `rest`. -/
theorem readWords_right_iff (words rest : List (List α)) (readings : List (Reading α)) :
    (readWords dash takes none words = (readings, rest) ∧
        ∀ reading ∈ readings, reading.isError = false) ↔
      ∃ groups : List (OptionGroup α), (∀ group ∈ groups, group.Valid takes) ∧ Ends dash rest ∧
        words = groups.flatMap (OptionGroup.words dash) ++ rest ∧
        readings = groups.flatMap OptionGroup.readings := by
  constructor
  · intro accepted
    obtain ⟨said, right⟩ := accepted
    obtain ⟨groups, left_, valid, ends, same⟩ := groups_of_readWords words (by
      rw [said]
      exact right)
    have again := readWords_groups valid ends
    rw [← same, said] at again
    cases again
    exact ⟨groups, valid, ends, same, rfl⟩
  · intro written
    obtain ⟨groups, valid, ends, rfl, rfl⟩ := written
    refine ⟨readWords_groups valid ends, ?_⟩
    intro reading member
    obtain ⟨group, given, reads⟩ := List.mem_flatMap.mp member
    rcases (valid group given).readings reads with ⟨option, rfl, _⟩ | ⟨option, value, rfl, _⟩
    · rfl
    · rfl

/-! ### The number of readings -/

/-- There are no more readings than characters. -/
theorem readWords_length_le (dash : α) (takes : α → Option Bool) (pending : Option α)
    (words : List (List α)) :
    (readWords dash takes pending words).1.length ≤
      pending.toList.length + (words.map List.length).sum := by
  induction words generalizing pending with
  | nil =>
      cases pending with
      | none => exact Nat.le_refl 0
      | some option => exact Nat.le_refl 1
  | cons word words ih =>
      rw [List.map_cons, List.sum_cons]
      cases pending with
      | some option =>
          have later := ih none
          simp only [readWords, List.length_cons, Option.toList_some, Option.toList_none,
            List.length_nil] at later ⊢
          omega
      | none =>
          cases found : options? dash word with
          | none =>
              simp only [readWords, found]
              exact Nat.zero_le _
          | some options =>
              have later := ih (cluster takes options).2
              have within : (cluster takes options).1.length + _ ≤ _ := cluster_length_le options
              have length : word.length = options.length + 1 := by
                rw [(options?_eq_some found).1, List.length_cons]
              simp only [readWords, found, List.length_append, Option.toList_none,
                List.length_nil]
              omega

end Read

end Foundation.OptionWords
