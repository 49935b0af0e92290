/-
The library's own `getopt()`.

It is compiled where the system has none. Between two calls its place in the arguments
is kept in two static variables, the index of a word and of a character in it, and a
character past the terminator of a word is never read: the model is undefined there.
Its results, call by call, are the readings of the command line, and where it stops the
words behind the options begin. The messages it prints are left out.
-/

import LibTabula.Bytes
import LibTabula.Foundation.OptionWords

set_option autoImplicit false

namespace LibTabula

open Foundation.OptionWords

/-- The character at an index of a C string, which ends with its terminator. -/
def charAt (s : Bytes) (i : Nat) : Option UInt8 := (s ++ [0])[i]?

/-- `strchr`: the string from the first such character on, terminator included. -/
def strchr (s : Bytes) (c : UInt8) : Option Bytes :=
  match (s ++ [0]).dropWhile (· ≠ c) with
  | [] => none
  | found :: rest => some (found :: rest)

/-- The test for an invalid option, and where in `opts` the option is. -/
def search (opts : Bytes) (c : UInt8) : Option Bytes :=
  if c = byte ':' then none else strchr opts c

/-- The static variables, and `optarg`. -/
structure GetOpt where
  optind : Nat
  sp : Nat
  optarg : Option Bytes
deriving DecidableEq, Repr

namespace GetOpt

def initial : GetOpt := { optind := 1, sp := 1, optarg := none }

/-- On to the next character, or to the next word. -/
def advance (arg : Bytes) (self : GetOpt) : Option GetOpt :=
  (charAt arg (self.sp + 1)).map fun next =>
    if next = 0 then { self with optind := self.optind + 1, sp := 1 }
    else { self with sp := self.sp + 1 }

/-- An option that requires an argument. -/
def argument (argv : List Bytes) (arg : Bytes) (c : UInt8) (self : GetOpt) :
    Option (Option UInt8 × GetOpt) :=
  (charAt arg (self.sp + 1)).map fun (next : UInt8) =>
    if next ≠ 0 then
      (some c,
        { optind := self.optind + 1, sp := 1, optarg := some (arg.drop (self.sp + 1)) })
    else
      match argv[self.optind + 1]? with
      | none => (some (byte '?'), { self with optind := self.optind + 1, sp := 1 })
      | some value => (some c, { optind := self.optind + 2, sp := 1, optarg := some value })

/-- The character at `sp`. -/
def option (argv : List Bytes) (opts arg : Bytes) (self : GetOpt) :
    Option (Option UInt8 × GetOpt) :=
  (charAt arg self.sp).bind fun c =>
    match search opts c with
    | none => (self.advance arg).map fun next => (some (byte '?'), next)
    | some cp =>
        cp[1]?.bind fun following =>
          if following = byte ':' then self.argument argv arg c
          else (self.advance arg).map fun next => (some c, { next with optarg := none })

/-- One call. The result is `none` for `EOF`, and there is none at all where a call would
read outside the arguments. -/
def getopt (argv : List Bytes) (opts : Bytes) (self : GetOpt) :
    Option (Option UInt8 × GetOpt) :=
  if self.sp = 1 then
    if argv.length ≤ self.optind then some (none, self)
    else
      argv[self.optind]?.bind fun arg =>
        (charAt arg 0).bind fun first =>
          if first ≠ byte '-' then some (none, self)
          else
            (charAt arg 1).bind fun second =>
              if second = 0 then some (none, self) else self.option argv opts arg
  else
    argv[self.optind]?.bind fun arg =>
      if arg = ascii "--" then some (none, { self with optind := self.optind + 1 })
      else self.option argv opts arg

end GetOpt

/-! ### The options of a command line -/

/-- Whether the option takes an argument, for the options that `opts` names. -/
def takesOf (opts : Bytes) (c : UInt8) : Option Bool :=
  (search opts c).map fun cp => decide (cp[1]? = some (byte ':'))

/-- What a call of `getopt()` returns for a reading. -/
def shown : Reading UInt8 → UInt8
  | .flag c | .argument c _ => c
  | .illegal _ | .missing _ => byte '?'

/-- What it leaves in `optarg`. -/
def optargAfter (before : Option Bytes) : Reading UInt8 → Option Bytes
  | .flag _ => none
  | .argument _ value => some value
  | .illegal _ | .missing _ => before

abbrev readArgs (opts : Bytes) : Option UInt8 → List Bytes → List (Reading UInt8) × List Bytes :=
  readWords (byte '-') (takesOf opts)

/-- What the rest of a word and the words behind it say. -/
def readWithin (opts : Bytes) (options : Bytes) (words : List Bytes) :
    List (Reading UInt8) × List Bytes :=
  ((cluster (takesOf opts) options).1 ++
      (readArgs opts (cluster (takesOf opts) options).2 words).1,
    (readArgs opts (cluster (takesOf opts) options).2 words).2)

namespace GetOpt

/-- What is still to be read. -/
def ahead (argv : List Bytes) (opts : Bytes) (self : GetOpt) :
    List (Reading UInt8) × List Bytes :=
  if self.sp = 1 then readArgs opts none (argv.drop self.optind)
  else readWithin opts ((argv[self.optind]?.getD []).drop self.sp) (argv.drop (self.optind + 1))

/-- Between two words, or in one behind its first option. -/
def Within (argv : List Bytes) (self : GetOpt) : Prop :=
  self.sp = 1 ∨
    2 ≤ self.sp ∧ ∃ arg, argv[self.optind]? = some arg ∧ self.sp < arg.length

end GetOpt

/-- The arguments as `main()` gets them: no string has its terminator inside. -/
def CStrings (argv : List Bytes) : Prop := ∀ arg ∈ argv, 0 ∉ arg

instance (argv : List Bytes) : Decidable (CStrings argv) :=
  inferInstanceAs (Decidable (∀ arg ∈ argv, 0 ∉ arg))

theorem charAt_eq {s : Bytes} {i : Nat} (inside : i ≤ s.length) :
    charAt s i = some ((s.drop i).headD 0) := by
  rw [charAt]
  rcases Nat.lt_or_eq_of_le inside with less | last
  · rw [List.getElem?_append_left less, List.getElem?_eq_getElem less,
      List.drop_eq_getElem_cons less]
    rfl
  · rw [last, List.drop_length, List.getElem?_append_right (Nat.le_refl _), Nat.sub_self]
    rfl

theorem strchr_nil {c : UInt8} (some_ : c ≠ 0) : strchr [] c = none := by
  have other : decide ((0 : UInt8) ≠ c) = true := decide_eq_true some_.symm
  simp only [strchr, List.nil_append, List.dropWhile_cons, other, if_true, List.dropWhile_nil]

theorem strchr_cons (first c : UInt8) (s : Bytes) :
    strchr (first :: s) c = if first = c then some (first :: (s ++ [0])) else strchr s c := by
  by_cases same : first = c
  · have found : decide (first ≠ c) = false := decide_eq_false (not_not_intro same)
    simp only [strchr, List.cons_append, List.dropWhile_cons, found, if_pos same,
      Bool.false_eq_true, if_false]
  · have other : decide (first ≠ c) = true := decide_eq_true same
    simp only [strchr, List.cons_append, List.dropWhile_cons, other, if_true, if_neg same]

/-- Behind a character that a search has found there is another one, if only the
terminator. -/
theorem strchr_next {s cp : Bytes} {c : UInt8} (some_ : c ≠ 0) (found : strchr s c = some cp) :
    ∃ following, cp[1]? = some following := by
  induction s with
  | nil =>
      rw [strchr_nil some_] at found
      cases found
  | cons first s ih =>
      rw [strchr_cons] at found
      by_cases same : first = c
      · rw [if_pos same] at found
        cases found
        cases s with
        | nil => exact ⟨0, rfl⟩
        | cons following s => exact ⟨following, rfl⟩
      · rw [if_neg same] at found
        exact ih found

namespace GetOpt

section Step

variable {argv : List Bytes} {opts arg rest : Bytes} {self : GetOpt} {c : UInt8}

theorem drop_words {words : List Bytes} {i : Nat} {word : Bytes} (at_ : words[i]? = some word) :
    words.drop i = word :: words.drop (i + 1) := by
  obtain ⟨bound, here⟩ := List.getElem?_eq_some_iff.mp at_
  rw [← here]
  exact List.drop_eq_getElem_cons bound

theorem drop_succ (chars : arg.drop self.sp = c :: rest) : arg.drop (self.sp + 1) = rest := by
  rw [← List.drop_drop, chars, List.drop_one, List.tail_cons]

theorem lt_length_of_drop {i : Nat} (chars : arg.drop i = c :: rest) : i < arg.length := by
  rcases Nat.lt_or_ge i arg.length with inside | beyond
  · exact inside
  · rw [List.drop_eq_nil_of_le beyond] at chars
    cases chars

/-- On to what the rest of the word says. -/
theorem advance_spec (opts : Bytes) (noNul : 0 ∉ arg) (at_ : argv[self.optind]? = some arg)
    (chars : arg.drop self.sp = c :: rest) (placed : 1 ≤ self.sp) :
    ∃ next, self.advance arg = some next ∧ next.Within argv ∧ next.optarg = self.optarg ∧
      next.ahead argv opts = readWithin opts rest (argv.drop (self.optind + 1)) := by
  have later := drop_succ chars
  have inside := lt_length_of_drop chars
  rw [advance, charAt_eq inside, later, Option.map_some]
  cases rest with
  | nil =>
      refine ⟨{ self with optind := self.optind + 1, sp := 1 }, rfl, .inl rfl, rfl, ?_⟩
      rw [ahead, if_pos rfl]
      rfl
  | cons following rest =>
      have some_ : following ≠ 0 := by
        intro null
        apply noNul
        rw [← null]
        have member : following ∈ arg.drop (self.sp + 1) := by
          rw [later]
          exact List.mem_cons_self
        exact List.mem_of_mem_drop member
      refine ⟨{ self with sp := self.sp + 1 }, ?_,
        .inr ⟨Nat.succ_le_succ placed, arg, at_, lt_length_of_drop later⟩, rfl, ?_⟩
      · rw [List.headD_cons, if_neg some_]
      · have notFirst : self.sp + 1 ≠ 1 := by omega
        simp only [ahead, if_neg notFirst, at_, Option.getD_some, later]

/-- What a call that comes to an option does: its result is the next reading. -/
def Gives (argv : List Bytes) (opts : Bytes) (self : GetOpt)
    (called : Option (Option UInt8 × GetOpt)) (said : List (Reading UInt8) × List Bytes) : Prop :=
  ∃ reading readings left next, said = (reading :: readings, left) ∧
    called = some (some (shown reading), next) ∧ next.Within argv ∧
    next.ahead argv opts = (readings, left) ∧ next.optarg = optargAfter self.optarg reading

theorem argument_spec (noNul : 0 ∉ arg) (chars : arg.drop self.sp = c :: rest)
    (takes : takesOf opts c = some true) :
    Gives argv opts self (self.argument argv arg c)
      (readWithin opts (c :: rest) (argv.drop (self.optind + 1))) := by
  have later := drop_succ chars
  rw [argument, charAt_eq (lt_length_of_drop chars), later, Option.map_some]
  cases rest with
  | cons following rest =>
      have some_ : following ≠ 0 := by
        intro null
        apply noNul
        have member : following ∈ arg.drop (self.sp + 1) := by
          rw [later]
          exact List.mem_cons_self
        rw [← null]
        exact List.mem_of_mem_drop member
      refine ⟨.argument c (following :: rest), (readArgs opts none (argv.drop (self.optind + 1))).1,
        (readArgs opts none (argv.drop (self.optind + 1))).2,
        { optind := self.optind + 1, sp := 1, optarg := some (following :: rest) }, ?_, ?_,
        .inl rfl, ?_, rfl⟩
      · rw [readWithin, cluster_argument takes (List.cons_ne_nil following rest)]
        rfl
      · rw [List.headD_cons, if_pos some_]
        rfl
      · rw [ahead, if_pos rfl]
  | nil =>
      have none_ : ¬ ((([] : Bytes).headD 0) ≠ 0) := by
        intro other
        exact other rfl
      rw [if_neg none_]
      cases value : argv[self.optind + 1]? with
      | none =>
          have none_ : argv.drop (self.optind + 1) = [] :=
            List.drop_eq_nil_of_le (List.getElem?_eq_none_iff.mp value)
          refine ⟨.missing c, [], [], { self with optind := self.optind + 1, sp := 1 }, ?_, rfl,
            .inl rfl, ?_, rfl⟩
          · rw [readWithin, cluster_last takes, none_]
            rfl
          · rw [ahead, if_pos rfl, none_]
            rfl
      | some given =>
          refine ⟨.argument c given, (readArgs opts none (argv.drop (self.optind + 2))).1,
            (readArgs opts none (argv.drop (self.optind + 2))).2,
            { optind := self.optind + 2, sp := 1, optarg := some given }, ?_, rfl, .inl rfl, ?_,
            rfl⟩
          · rw [readWithin, cluster_last takes, drop_words value]
            rfl
          · rw [ahead, if_pos rfl]

theorem option_spec (noNul : 0 ∉ arg) (at_ : argv[self.optind]? = some arg)
    (chars : arg.drop self.sp = c :: rest) (placed : 1 ≤ self.sp) :
    Gives argv opts self (self.option argv opts arg)
      (readWithin opts (c :: rest) (argv.drop (self.optind + 1))) := by
  have some_ : c ≠ 0 := by
    intro null
    apply noNul
    have member : c ∈ arg.drop self.sp := by
      rw [chars]
      exact List.mem_cons_self
    rw [← null]
    exact List.mem_of_mem_drop member
  obtain ⟨next, advanced, within, optarg, said⟩ := advance_spec opts noNul at_ chars placed
  rw [option, charAt_eq (Nat.le_of_lt (lt_length_of_drop chars)), chars]
  simp only [List.headD_cons, Option.bind_some]
  cases found : search opts c with
  | none =>
      have kind : takesOf opts c = none := by
        rw [takesOf, found]
        rfl
      refine ⟨.illegal c, (next.ahead argv opts).1, (next.ahead argv opts).2, next, ?_, ?_, within,
        rfl, optarg⟩
      · simp only [readWithin, cluster, kind, said, List.cons_append]
      · simp only [advanced, Option.map_some, shown]
  | some cp =>
      have inside : strchr opts c = some cp := by
        rw [search] at found
        split at found
        · cases found
        · exact found
      obtain ⟨following, second⟩ := strchr_next some_ inside
      simp only [second, Option.bind_some]
      by_cases colon : following = byte ':'
      · rw [if_pos colon]
        apply argument_spec noNul chars
        rw [takesOf, found, Option.map_some, second, colon]
        exact congrArg some (decide_eq_true rfl)
      · rw [if_neg colon]
        have kind : takesOf opts c = some false := by
          rw [takesOf, found, Option.map_some, second]
          exact congrArg some (decide_eq_false fun same => colon (Option.some.inj same))
        refine ⟨.flag c, (next.ahead argv opts).1, (next.ahead argv opts).2,
          { next with optarg := none }, ?_, ?_, within, rfl, rfl⟩
        · simp only [readWithin, cluster, kind, said, List.cons_append]
        · simp only [advanced, Option.map_some, shown]

/-- One call of `getopt()` at a place where it can be: there is nothing ahead, and it
returns `EOF` and stays where it is, or it returns the next reading. -/
theorem getopt_spec (opts : Bytes) (strings : CStrings argv) (within : self.Within argv) :
    (self.ahead argv opts = ([], argv.drop self.optind) ∧
        self.getopt argv opts = some (none, self)) ∨
      Gives argv opts self (self.getopt argv opts) (self.ahead argv opts) := by
  by_cases first : self.sp = 1
  · rw [ahead, if_pos first, getopt, if_pos first]
    cases at_ : argv[self.optind]? with
    | none =>
        left
        have beyond := List.getElem?_eq_none_iff.mp at_
        rw [if_pos beyond, List.drop_eq_nil_of_le beyond]
        exact ⟨rfl, rfl⟩
    | some arg =>
        have inside := (List.getElem?_eq_some_iff.mp at_).1
        have words := drop_words at_
        rw [if_neg (Nat.not_le_of_lt inside), Option.bind_some, words]
        cases arg with
        | nil => exact .inl ⟨rfl, rfl⟩
        | cons head rest =>
            have start : charAt (head :: rest) 0 = some head := rfl
            rw [start, Option.bind_some]
            by_cases dash : head = byte '-'
            · rw [if_neg (not_not_intro dash)]
              cases rest with
              | nil => exact .inl ⟨rfl, rfl⟩
              | cons c rest =>
                  have second : charAt (head :: c :: rest) 1 = some c := rfl
                  have some_ : c ≠ 0 := by
                    intro null
                    apply strings _ (List.mem_of_getElem? at_)
                    rw [null]
                    simp
                  rw [second, Option.bind_some, if_neg some_]
                  right
                  have said : readArgs opts none
                      ((head :: c :: rest) :: argv.drop (self.optind + 1)) =
                      readWithin opts (c :: rest) (argv.drop (self.optind + 1)) := by
                    rw [dash]
                    simp only [readWords, options?_cons (List.cons_ne_nil c rest), readWithin]
                  rw [said]
                  have chars : (head :: c :: rest).drop self.sp = c :: rest := by
                    rw [first]
                    rfl
                  exact option_spec (strings _ (List.mem_of_getElem? at_)) at_ chars
                    (Nat.le_of_eq first.symm)
            · left
              rw [if_pos dash]
              refine ⟨?_, rfl⟩
              cases rest with
              | nil => rfl
              | cons c rest => simp only [readWords, options?, if_neg dash]
  · right
    rcases within with same | ⟨placed, arg, at_, inside⟩
    · exact absurd same first
    · rw [ahead, if_neg first, getopt, if_neg first, at_]
      simp only [Option.getD_some, Option.bind_some]
      have longer : arg ≠ ascii "--" := by
        intro dashes
        rw [dashes] at inside
        have two : (ascii "--").length = 2 := rfl
        omega
      rw [if_neg longer]
      have chars := List.drop_eq_getElem_cons inside
      rw [chars]
      exact option_spec (strings arg (List.mem_of_getElem? at_)) at_ chars (by omega)

end Step

/-! ### Call after call -/

/-- What the first calls return and leave in `optarg`, and where the last one leaves off. -/
def calls (argv : List Bytes) (opts : Bytes) :
    Nat → GetOpt → Option (List (Option UInt8 × Option Bytes) × GetOpt)
  | 0, self => some ([], self)
  | n + 1, self =>
      (self.getopt argv opts).bind fun called =>
        (calls argv opts n called.2).map fun later =>
          ((called.1, called.2.optarg) :: later.1, later.2)

/-- The same from the readings: one for each call, and then `EOF` for ever. -/
def resultsOf : Nat → Option Bytes → List (Reading UInt8) → List (Option UInt8 × Option Bytes)
  | 0, _, _ => []
  | n + 1, optarg, [] => (none, optarg) :: resultsOf n optarg []
  | n + 1, optarg, reading :: readings =>
      (some (shown reading), optargAfter optarg reading) ::
        resultsOf n (optargAfter optarg reading) readings

theorem calls_spec {argv : List Bytes} (opts : Bytes) (strings : CStrings argv) (n : Nat)
    {self : GetOpt} (within : self.Within argv) {readings : List (Reading UInt8)}
    {rest : List Bytes} (said : self.ahead argv opts = (readings, rest)) :
    ∃ last, calls argv opts n self = some (resultsOf n self.optarg readings, last) ∧
      last.Within argv ∧ (readings.length < n → argv.drop last.optind = rest) := by
  induction n generalizing self readings with
  | zero => exact ⟨self, rfl, within, fun impossible => absurd impossible (Nat.not_lt_zero _)⟩
  | succ n ih =>
      rcases getopt_spec opts strings within with
        ⟨none_, called⟩ | ⟨reading, later, left_, next, shape, called, within', said', optarg⟩
      · obtain ⟨last, ran, placed, ended⟩ := ih within said
        rw [none_] at said
        cases said
        refine ⟨last, ?_, placed, ?_⟩
        · simp only [calls, called, Option.bind_some, ran, Option.map_some]
          rfl
        · intro _
          cases n with
          | zero =>
              cases ran
              rfl
          | succ n => exact ended (Nat.succ_pos n)
      · rw [shape] at said
        cases said
        obtain ⟨last, ran, placed, ended⟩ := ih within' said'
        refine ⟨last, ?_, placed, ?_⟩
        · simp only [calls, called, Option.bind_some, ran, Option.map_some, optarg]
          rfl
        · intro enough
          exact ended (Nat.lt_of_succ_lt_succ enough)

theorem initial_ahead (argv : List Bytes) (opts : Bytes) :
    initial.ahead argv opts = readArgs opts none argv.tail := by
  rw [ahead, if_pos (show initial.sp = 1 from rfl), ← List.drop_one]
  rfl

/-- However often `getopt()` is called, it reads nothing outside the arguments; between two
calls it is at the start of a word, or in a word behind its first option and before its end,
so that this word is not `--`. -/
theorem getopt_calls {argv : List Bytes} (strings : CStrings argv) (opts : Bytes) (n : Nat) :
    ∃ last, calls argv opts n initial =
        some (resultsOf n none (readArgs opts none argv.tail).1, last) ∧
      (last.sp = 1 ∨ argv[last.optind]? ≠ some (ascii "--")) ∧
      ((readArgs opts none argv.tail).1.length < n →
        argv.drop last.optind = (readArgs opts none argv.tail).2) := by
  obtain ⟨last, ran, placed, ended⟩ := calls_spec opts strings n (.inl rfl)
    ((initial_ahead argv opts).trans rfl)
  refine ⟨last, ran, ?_, ended⟩
  rcases placed with first | ⟨behind, arg, at_, inside⟩
  · exact .inl first
  · right
    intro dashes
    rw [at_] at dashes
    cases dashes
    have two : (ascii "--").length = 2 := rfl
    omega

/-- Two dashes are an illegal option. -/
theorem getopt_calls_dashes :
    ∃ last, calls [ascii "prog", ascii "--", ascii "x"] (ascii "xo:") 2 initial =
        some ([(some (byte '?'), none), (none, none)], last) ∧
      [ascii "prog", ascii "--", ascii "x"].drop last.optind = [ascii "x"] := by
  have strings : CStrings [ascii "prog", ascii "--", ascii "x"] := by decide
  obtain ⟨last, ran, _, ended⟩ := getopt_calls strings (ascii "xo:") 2
  exact ⟨last, ran, ended (by decide)⟩

/-- What is written from groups of options is returned as it was meant, and then the words
behind the groups are left. -/
theorem getopt_groups {argv : List Bytes} (strings : CStrings argv) (opts : Bytes)
    {groups : List (OptionGroup UInt8)} (valid : ∀ group ∈ groups, group.Valid (takesOf opts))
    {rest : List Bytes} (ends : Ends (byte '-') rest)
    (written : argv.tail = groups.flatMap (OptionGroup.words (byte '-')) ++ rest) (n : Nat) :
    ∃ last, calls argv opts n initial =
        some (resultsOf n none (groups.flatMap OptionGroup.readings), last) ∧
      ((groups.flatMap OptionGroup.readings).length < n → argv.drop last.optind = rest) := by
  have said : initial.ahead argv opts = (groups.flatMap OptionGroup.readings, rest) := by
    rw [initial_ahead, written]
    exact readWords_groups valid ends
  obtain ⟨last, ran, _, ended⟩ := calls_spec opts strings n (.inl rfl) said
  exact ⟨last, ran, ended⟩

theorem getopt_groups_cluster :
    ∃ last, calls [ascii "prog", ascii "-xo", ascii "out", ascii "in"] (ascii "xo:") 3 initial =
        some ([(some (byte 'x'), none), (some (byte 'o'), some (ascii "out")),
          (none, some (ascii "out"))], last) ∧
      [ascii "prog", ascii "-xo", ascii "out", ascii "in"].drop last.optind = [ascii "in"] := by
  have strings : CStrings [ascii "prog", ascii "-xo", ascii "out", ascii "in"] := by decide
  have valid : ∀ group ∈ [OptionGroup.mk [byte 'x'] (.separate (byte 'o') (ascii "out"))],
      group.Valid (takesOf (ascii "xo:")) := by
    intro group member
    obtain rfl := List.mem_singleton.mp member
    exact OptionGroup.valid_cons (by decide) (OptionGroup.valid_separate (by decide) _)
  have ends : Ends (byte '-') [ascii "in"] := by
    intro word first
    cases first
    decide
  obtain ⟨last, ran, ended⟩ := getopt_groups strings (ascii "xo:") valid ends rfl 3
  exact ⟨last, ran, ended (by decide)⟩

end GetOpt

end LibTabula
