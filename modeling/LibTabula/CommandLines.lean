/-
The base class of the command lines.

A subclass of `CommandLineBase` works off the results of `getopt()` until one of them is
an error or they are over, and then keeps the words that are left. What its loop leaves is
said once here for every subclass.
-/

import LibTabula.GetOpt
import LibTabula.Digits
import LibTabula.Foundation.LastWrite

set_option autoImplicit false

namespace LibTabula

open Foundation Foundation.OptionWords GetOpt

/-! ### The loop -/

section Loop

variable {σ : Type}

/-- `while (successful() && (ch = parse_next()) != EOF)`, with the body of the loop as a
function of `ch` and of `option_argument()`. There is no result when a call reads outside
the arguments or `fuel` iterations are not enough. -/
def parseLoop (argv : List Bytes) (opts : Bytes) (successful : σ → Bool)
    (body : UInt8 → Option Bytes → σ → σ) : Nat → GetOpt → σ → Option (σ × GetOpt)
  | 0, _, _ => none
  | fuel + 1, place, self =>
      if successful self then
        (place.getopt argv opts).bind fun (ch, next) =>
          match ch with
          | none => some (self, next)
          | some ch => parseLoop argv opts successful body fuel next (body ch next.optarg self)
      else some (self, place)

/-- What the loop makes of readings. -/
def workOff (successful : σ → Bool) (body : UInt8 → Option Bytes → σ → σ) :
    List (Reading UInt8) → Option Bytes → σ → σ
  | [], _, self => self
  | reading :: readings, optarg, self =>
      if successful self then
        workOff successful body readings (optargAfter optarg reading)
          (body (shown reading) (optargAfter optarg reading) self)
      else self

/-- The loop ends after at most one iteration more than there are readings, and has read
nothing outside the arguments. -/
theorem parseLoop_spec {argv : List Bytes} {opts : Bytes} (strings : CStrings argv)
    (successful : σ → Bool) (body : UInt8 → Option Bytes → σ → σ)
    {readings : List (Reading UInt8)} {rest : List Bytes} (fuel : Nat) (place : GetOpt)
    (self : σ) (within : place.Within argv) (said : place.ahead argv opts = (readings, rest))
    (enough : readings.length < fuel) :
    ∃ last, parseLoop argv opts successful body fuel place self =
        some (workOff successful body readings place.optarg self, last) ∧
      (successful (workOff successful body readings place.optarg self) = true →
        argv.drop last.optind = rest) := by
  induction fuel generalizing place self readings with
  | zero => exact absurd enough (Nat.not_lt_zero _)
  | succ fuel ih =>
      cases going : successful self with
      | false =>
          have stays : workOff successful body readings place.optarg self = self := by
            cases readings with
            | nil => rfl
            | cons reading readings =>
                simp only [workOff, going, Bool.false_eq_true, if_false]
          refine ⟨place, ?_, ?_⟩
          · simp only [parseLoop, going, Bool.false_eq_true, if_false, stays]
          · rw [stays, going]
            intro impossible
            cases impossible
      | true =>
          simp only [parseLoop, going, if_true]
          rcases getopt_spec opts strings within with
            ⟨ended, called⟩ | ⟨reading, later, left_, next, shape, called, within', said', optarg⟩
          · rw [ended] at said
            cases said
            refine ⟨place, ?_, ?_⟩
            · rw [called]
              rfl
            · intro _
              rfl
          · rw [shape] at said
            cases said
            obtain ⟨last, ran, ended⟩ := ih next (body (shown reading) next.optarg self) within'
              said' (Nat.lt_of_succ_lt_succ enough)
            refine ⟨last, ?_, ?_⟩
            · rw [called, Option.bind_some]
              simp only [workOff, going, if_true, ← optarg]
              exact ran
            · simp only [workOff, going, if_true, ← optarg]
              exact ended

/-- The argument of a reading. -/
def argumentOf : Reading UInt8 → Option Bytes
  | .argument _ value => some value
  | .flag _ | .illegal _ | .missing _ => none

theorem shown_of_isError {reading : Reading UInt8} (wrong : reading.isError = true) :
    shown reading = byte '?' := by
  cases reading with
  | flag c | argument c value => cases wrong
  | illegal c | missing c => rfl

theorem optargAfter_of_right {reading : Reading UInt8} (right : reading.isError = false)
    (optarg : Option Bytes) : optargAfter optarg reading = argumentOf reading := by
  cases reading with
  | flag c | argument c value => rfl
  | illegal c | missing c => cases right

/-- A body that gives up on some characters, among them the one that stands for an error,
and goes on after the others. -/
structure GivesUpOn (successful : σ → Bool) (body : UInt8 → Option Bytes → σ → σ)
    (refused : UInt8 → Bool) : Prop where
  stops : ∀ ch optarg self, refused ch = true → successful (body ch optarg self) = false
  goesOn : ∀ ch optarg self, refused ch = false →
    successful (body ch optarg self) = successful self
  error : refused (byte '?') = true

theorem workOff_of_successful {successful : σ → Bool} {body : UInt8 → Option Bytes → σ → σ}
    {refused : UInt8 → Bool} (gives : GivesUpOn successful body refused)
    (readings : List (Reading UInt8)) (optarg : Option Bytes) (self : σ)
    (starts : successful self = true) :
    successful (workOff successful body readings optarg self) =
        readings.all (fun reading => !refused (shown reading)) ∧
      (readings.all (fun reading => !refused (shown reading)) = true →
        workOff successful body readings optarg self =
          readings.foldl (fun self reading => body (shown reading) (argumentOf reading) self)
            self) := by
  induction readings generalizing optarg self with
  | nil => exact ⟨starts, fun _ => rfl⟩
  | cons reading readings ih =>
      rw [workOff, if_pos starts, List.all_cons, List.foldl_cons]
      cases kind : refused (shown reading) with
      | true =>
          have ended := gives.stops (shown reading) (optargAfter optarg reading) self kind
          have stays : ∀ optarg, workOff successful body readings optarg
              (body (shown reading) optarg self) = body (shown reading) optarg self := by
            intro optarg
            have stops := gives.stops (shown reading) optarg self kind
            cases readings with
            | nil => rfl
            | cons next later => rw [workOff, if_neg (by rw [stops]; exact Bool.false_ne_true)]
          rw [stays, ended]
          exact ⟨rfl, fun impossible => absurd impossible Bool.false_ne_true⟩
      | false =>
          have right : reading.isError = false := by
            cases wrong : reading.isError with
            | false => rfl
            | true =>
                rw [shown_of_isError wrong, gives.error] at kind
                cases kind
          have starts' := (gives.goesOn (shown reading) (optargAfter optarg reading) self
            kind).trans starts
          rw [← optargAfter_of_right right optarg]
          exact ih (optargAfter optarg reading) _ starts'

/-- What every iteration keeps holds after the loop. -/
theorem workOff_keeps {successful : σ → Bool} {body : UInt8 → Option Bytes → σ → σ}
    {kept : σ → Prop} (keeps : ∀ ch optarg self, kept self → kept (body ch optarg self))
    (readings : List (Reading UInt8)) (optarg : Option Bytes) (self : σ) (starts : kept self) :
    kept (workOff successful body readings optarg self) := by
  induction readings generalizing optarg self with
  | nil => exact starts
  | cons reading readings ih =>
      rw [workOff]
      split
      · exact ih _ _ (keeps _ _ _ starts)
      · exact starts

end Loop

/-! ### The base class -/

/-- What the user is shown. -/
inductive Notice
  | overriding
  | message (text : Bytes)
  | usage
deriving DecidableEq, Repr

structure CommandLineBase where
  successful : Bool
  extraArgs : List Bytes
  notices : List Notice
deriving DecidableEq, Repr

namespace CommandLineBase

/-- The constructor, whose assertion is that there is an argument. -/
def new (argv : List Bytes) : CommandLineBase :=
  { successful := decide (0 < argv.length), extraArgs := [], notices := [] }

def parseError (message : Option Bytes) (self : CommandLineBase) : CommandLineBase :=
  { self with
    successful := false
    notices := self.notices ++ (message.toList.map .message ++ [.usage]) }

def finishParse (argv : List Bytes) (place : GetOpt) (self : CommandLineBase) :
    CommandLineBase :=
  if self.successful then
    if place.optind < argv.length then { self with extraArgs := argv.drop place.optind } else self
  else self

end CommandLineBase

/-- The words behind the options are kept. -/
theorem CommandLineBase.finishParse_rest {self : CommandLineBase} {argv rest : List Bytes}
    {place : GetOpt} (going : self.successful = true) (fresh : self.extraArgs = [])
    (behind : argv.drop place.optind = rest) :
    self.finishParse argv place = { self with extraArgs := rest } := by
  rw [finishParse, if_pos going]
  by_cases more : place.optind < argv.length
  · rw [if_pos more, behind]
  · have nothing : rest = [] := by
      rw [← behind]
      exact List.drop_eq_nil_of_le (Nat.le_of_not_lt more)
    rw [if_neg more, nothing, ← fresh]

theorem CommandLineBase.parseError_usage (message : Option Bytes) (self : CommandLineBase) :
    .usage ∈ (self.parseError message).notices := by
  rw [parseError]
  exact List.mem_append_right _ (List.mem_append_right _ List.mem_cons_self)

/-- Enough iterations for any command line. -/
def iterations (argv : List Bytes) : Nat := (argv.map List.length).sum + 1

theorem readArgs_length_lt (argv : List Bytes) (opts : Bytes) :
    (readArgs opts none argv.tail).1.length < iterations argv := by
  have few := readWords_length_le (byte '-') (takesOf opts) none argv.tail
  simp only [Option.toList_none, List.length_nil, Nat.zero_add] at few
  have less : (argv.tail.map List.length).sum ≤ (argv.map List.length).sum := by
    cases argv with
    | nil => exact Nat.le_refl 0
    | cons name args =>
        rw [List.tail_cons, List.map_cons, List.sum_cons]
        exact Nat.le_add_left _ _
  exact Nat.lt_succ_of_le (Nat.le_trans few less)

/-- The command line is written from groups of the options, none of which the object
refuses, and the words of `rest` behind them. -/
def Accepted (opts : Bytes) (refused : UInt8 → Bool) (argv : List Bytes)
    (readings : List (Reading UInt8)) (rest : List Bytes) : Prop :=
  (∃ groups : List (OptionGroup UInt8), (∀ group ∈ groups, group.Valid (takesOf opts)) ∧
      Ends (byte '-') rest ∧
      argv.tail = groups.flatMap (OptionGroup.words (byte '-')) ++ rest ∧
      readings = groups.flatMap OptionGroup.readings) ∧
    readings.all (fun reading => !refused (shown reading)) = true

/-- A command line says one thing. -/
theorem Accepted.unique {opts : Bytes} {refused : UInt8 → Bool} {argv : List Bytes}
    {readings others : List (Reading UInt8)} {rest words : List Bytes}
    (first : Accepted opts refused argv readings rest)
    (second : Accepted opts refused argv others words) : readings = others ∧ rest = words := by
  have one := ((readWords_right_iff argv.tail rest readings).mpr first.1).1
  have two := ((readWords_right_iff argv.tail words others).mpr second.1).1
  rw [one] at two
  exact Prod.mk.inj two

theorem Accepted.kinds {opts : Bytes} {refused : UInt8 → Bool} {argv : List Bytes}
    {readings : List (Reading UInt8)} {rest : List Bytes}
    (accepted : Accepted opts refused argv readings rest) {reading : Reading UInt8}
    (member : reading ∈ readings) :
    refused (shown reading) = false ∧
      ((∃ c, reading = .flag c ∧ takesOf opts c = some false) ∨
        ∃ c value, reading = .argument c value ∧ takesOf opts c = some true) := by
  obtain ⟨⟨groups, valid, ends, same, said⟩, all⟩ := accepted
  have fine := List.all_eq_true.mp all reading member
  refine ⟨Bool.not_eq_eq_eq_not.mp fine, ?_⟩
  rw [said] at member
  obtain ⟨group, given, reads⟩ := List.mem_flatMap.mp member
  exact (valid group given).readings reads

/-- What the loop of a constructor leaves. -/
theorem loop_outcome {σ : Type} {argv : List Bytes} (strings : CStrings argv) (opts : Bytes)
    {successful : σ → Bool} {body : UInt8 → Option Bytes → σ → σ} {refused : UInt8 → Bool}
    (gives : GivesUpOn successful body refused) {self : σ} (starts : successful self = true) :
    ∃ last final, parseLoop argv opts successful body (iterations argv) GetOpt.initial self =
        some (final, last) ∧
      (successful final = true ↔ ∃ readings rest, Accepted opts refused argv readings rest) ∧
      (∀ readings rest, Accepted opts refused argv readings rest →
          final = readings.foldl
            (fun self reading => body (shown reading) (argumentOf reading) self) self ∧
          argv.drop last.optind = rest) ∧
      ∀ kept : σ → Prop, (∀ ch optarg self, kept self → kept (body ch optarg self)) →
        kept self → kept final := by
  have said : GetOpt.initial.ahead argv opts =
      ((readArgs opts none argv.tail).1, (readArgs opts none argv.tail).2) :=
    initial_ahead argv opts
  obtain ⟨last, ran, ended⟩ := parseLoop_spec strings successful body (iterations argv)
    GetOpt.initial self (.inl rfl) said (readArgs_length_lt argv opts)
  obtain ⟨success, fold⟩ := workOff_of_successful gives (readArgs opts none argv.tail).1
    GetOpt.initial.optarg self starts
  have errors : (readArgs opts none argv.tail).1.all (fun reading => !refused (shown reading)) =
      true → ∀ reading ∈ (readArgs opts none argv.tail).1, reading.isError = false := by
    intro all reading member
    have kind := List.all_eq_true.mp all reading member
    cases wrong : reading.isError with
    | false => rfl
    | true =>
        rw [shown_of_isError wrong, gives.error] at kind
        cases kind
  refine ⟨last, _, ran, ?_, ?_, ?_⟩
  · rw [success]
    constructor
    · intro all
      have written := (readWords_right_iff argv.tail _ _).mp ⟨rfl, errors all⟩
      exact ⟨_, _, written, all⟩
    · intro accepted
      obtain ⟨readings, rest, written, all⟩ := accepted
      have same := ((readWords_right_iff argv.tail rest readings).mpr written).1
      rw [readArgs, same]
      exact all
  · intro readings rest accepted
    obtain ⟨written, all⟩ := accepted
    have same := ((readWords_right_iff argv.tail rest readings).mpr written).1
    rw [readArgs, same] at success fold ended
    rw [readArgs, same]
    exact ⟨fold all, ended (success.trans all)⟩
  · intro kept keeps starts
    exact workOff_keeps keeps _ _ _ starts

/-! ### Options with arguments -/

/-- The argument of an option. -/
def valueOf (option : UInt8) : Reading UInt8 → Option Bytes
  | .argument c value => if c = option then some value else none
  | .flag _ | .illegal _ | .missing _ => none

end LibTabula
