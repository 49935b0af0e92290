/-
The command line of the translator.

Beside the options it has to have an input, and for some inputs a name for the output. Of
several inputs the last one counts, after a warning.
-/

import LibTabula.CommandLines

set_option autoImplicit false

namespace LibTabula

open Foundation Foundation.OptionWords GetOpt

namespace Ssqlsxlat

inductive SourceSink
  | unknown | ssqls1 | ssqls2 | table
deriving DecidableEq, Repr

/-- `ssqlsxlat::CommandLine`. -/
@[ext]
structure CommandLine where
  base : CommandLineBase
  input : Option Bytes
  output : Option Bytes
  pass : Option Bytes
  server : Option Bytes
  user : Option Bytes
  inputSource : SourceSink
  outputSink : SourceSink
deriving DecidableEq, Repr

namespace CommandLine

def opts : Bytes := ascii "hi:o:p:s:t:u:1:?"

def body (ch : UInt8) (optionArgument : Option Bytes) (self : CommandLine) : CommandLine :=
  if ch = byte 'i' ∨ ch = byte 't' ∨ ch = byte '1' then
    { self with
      base :=
        if self.input.isSome then
          { self.base with notices := self.base.notices ++ [.overriding] }
        else self.base
      input := optionArgument
      inputSource :=
        if ch = byte '1' then .ssqls1 else if ch = byte 'i' then .ssqls2 else .table }
  else if ch = byte 'o' then { self with output := optionArgument, outputSink := .ssqls2 }
  else if ch = byte 'p' then { self with pass := optionArgument }
  else if ch = byte 's' then { self with server := optionArgument }
  else if ch = byte 'u' then { self with user := optionArgument }
  else { self with base := self.base.parseError none }

def initial (argv : List Bytes) : CommandLine :=
  { base := .new argv
    input := none
    output := none
    pass := some []
    server := none
    user := none
    inputSource := .unknown
    outputSink := .unknown }

/-- The last lines of the constructor. -/
def checkSense (self : CommandLine) : CommandLine :=
  if self.base.successful then
    if self.inputSource = .unknown then
      { self with
        base := self.base.parseError (some (ascii "No input source given!  Need -i, -t or -1.")) }
    else if self.inputSource ≠ .ssqls2 ∧ self.output = none then
      { self with base := self.base.parseError (some (ascii "Need -o if you give -t or -1!")) }
    else self
  else self

def new (argv : List Bytes) : Option CommandLine :=
  (parseLoop argv opts (fun self => self.base.successful) body (iterations argv)
    GetOpt.initial (initial argv)).map fun (self, place) =>
      checkSense { self with base := self.base.finishParse argv place }

/-! ### What the object holds -/

/-- The options the object knows. `-h` and `-?` are asked for the usage only. -/
def known : Bytes := [byte 'i', byte 't', byte '1', byte 'o', byte 'p', byte 's', byte 'u']

def refused (ch : UInt8) : Bool := !known.contains ch

theorem refused_eq_false {ch : UInt8} (kind : refused ch = false) :
    ch = byte 'i' ∨ ch = byte 't' ∨ ch = byte '1' ∨ ch = byte 'o' ∨ ch = byte 'p' ∨
      ch = byte 's' ∨ ch = byte 'u' := by
  have member : known.contains ch = true := by
    rw [refused] at kind
    exact Bool.not_eq_eq_eq_not.mp kind
  simp only [known, List.contains_iff_mem, List.mem_cons, List.not_mem_nil, or_false] at member
  exact member

theorem givesUpOn :
    GivesUpOn (fun self : CommandLine => self.base.successful) body refused where
  stops := by
    intro ch optarg self kind
    have other : ch ∉ known := by
      intro member
      rw [refused, List.contains_iff_mem.mpr member] at kind
      cases kind
    simp only [known, List.mem_cons, List.not_mem_nil, or_false, not_or] at other
    obtain ⟨i, t, one, o, p, s, u⟩ := other
    simp only [body, i, t, one, o, p, s, u, or_false, if_false]
    rfl
  goesOn := by
    intro ch optarg self kind
    have noted : ∀ input : Option Bytes,
        (if input.isSome then
          { self.base with notices := self.base.notices ++ [.overriding] }
        else self.base).successful = self.base.successful := by
      intro input
      cases input with
      | none => rfl
      | some given => rfl
    rcases refused_eq_false kind with rfl | rfl | rfl | rfl | rfl | rfl | rfl
    · exact noted self.input
    · exact noted self.input
    · exact noted self.input
    · rfl
    · rfl
    · rfl
    · rfl
  error := by decide

/-- An option that names an input, and what kind. -/
def sourceOf : Reading UInt8 → Option SourceSink
  | .argument c _ =>
      if c = byte '1' then some .ssqls1
      else if c = byte 'i' then some .ssqls2
      else if c = byte 't' then some .table
      else none
  | .flag _ | .illegal _ | .missing _ => none

/-- The argument of an option that names an input. -/
def inputOf (reading : Reading UInt8) : Option Bytes :=
  (sourceOf reading).bind fun _ => argumentOf reading

/-- The object that the options make: of each option the last one, and a warning for every
input but the first. -/
def ofReadings (readings : List (Reading UInt8)) (rest : List Bytes) : CommandLine :=
  { base :=
      { successful := true
        extraArgs := rest
        notices := List.replicate ((readings.filterMap sourceOf).length - 1) .overriding }
    input := lastWritten inputOf readings
    output := lastWritten (valueOf (byte 'o')) readings
    pass := some ((lastWritten (valueOf (byte 'p')) readings).getD [])
    server := lastWritten (valueOf (byte 's')) readings
    user := lastWritten (valueOf (byte 'u')) readings
    inputSource := (lastWritten sourceOf readings).getD .unknown
    outputSink :=
      if (lastWritten (valueOf (byte 'o')) readings).isSome then .ssqls2 else .unknown }

/-- There is an input, and where it is not written in the language of the tool there is a
name for the output. -/
def Sensible (readings : List (Reading UInt8)) : Prop :=
  ∃ source, lastWritten sourceOf readings = some source ∧
    (source = .ssqls2 ∨ ∃ name, lastWritten (valueOf (byte 'o')) readings = some name)

/-- An option the object knows, with its argument. -/
def Known (reading : Reading UInt8) : Prop :=
  ∃ c value, reading = .argument c value ∧ refused c = false

/-- What one iteration writes to the parts of the object. -/
theorem body_writes {reading : Reading UInt8} (given : Known reading) (self : CommandLine) :
    let next := body (shown reading) (argumentOf reading) self
    next.input = ((inputOf reading).map some).getD self.input ∧
      next.output = (((valueOf (byte 'o')) reading).map some).getD self.output ∧
      next.pass = ((valueOf (byte 'p') reading).map some).getD self.pass ∧
      next.server = ((valueOf (byte 's') reading).map some).getD self.server ∧
      next.user = ((valueOf (byte 'u') reading).map some).getD self.user ∧
      next.inputSource = (sourceOf reading).getD self.inputSource ∧
      next.outputSink =
        ((valueOf (byte 'o') reading).map fun _ => SourceSink.ssqls2).getD self.outputSink ∧
      next.base = (if (sourceOf reading).isSome && self.input.isSome then
        { self.base with notices := self.base.notices ++ [.overriding] } else self.base) := by
  obtain ⟨c, value, rfl, kind⟩ := given
  rcases refused_eq_false kind with rfl | rfl | rfl | rfl | rfl | rfl | rfl
  all_goals exact ⟨rfl, rfl, rfl, rfl, rfl, rfl, rfl, rfl⟩

/-- The loop over options the object knows. -/
def fold (readings : List (Reading UInt8)) (self : CommandLine) : CommandLine :=
  readings.foldl (fun self reading => body (shown reading) (argumentOf reading) self) self

theorem fold_base {readings : List (Reading UInt8)} (given : ∀ reading ∈ readings, Known reading)
    (self : CommandLine) :
    (fold readings self).base =
      { self.base with
        notices := self.base.notices ++ List.replicate
          ((readings.filterMap sourceOf).length - if self.input.isSome then 0 else 1)
          .overriding } := by
  induction readings generalizing self with
  | nil =>
      rw [List.filterMap_nil, List.length_nil, Nat.zero_sub, List.replicate_zero, List.append_nil]
      rfl
  | cons reading readings ih =>
      have later := ih (fun other member => given other (List.mem_cons_of_mem reading member))
        (body (shown reading) (argumentOf reading) self)
      obtain ⟨input, -, -, -, -, -, -, base⟩ := body_writes (given reading List.mem_cons_self) self
      rw [fold, List.foldl_cons, ← fold, later, base, input]
      obtain ⟨c, value, rfl, _⟩ := given reading List.mem_cons_self
      cases source : sourceOf (.argument c value) with
      | none =>
          have silent : inputOf (.argument c value) = none := by
            rw [inputOf, source]
            rfl
          rw [List.filterMap_cons_none source, silent]
          rfl
      | some kind =>
          have named : inputOf (.argument c value) = some value := by
            rw [inputOf, source]
            rfl
          rw [List.filterMap_cons_some source, named]
          cases self.input with
          | none => rfl
          | some before =>
              simp only [Option.isSome_some, Bool.and_self, if_true, Option.map_some,
                Option.getD_some, Nat.sub_zero, List.length_cons, List.append_assoc]
              rw [List.replicate_succ]
              rfl

/-- What the loop leaves: of each option the last one. -/
theorem fold_eq {readings : List (Reading UInt8)} (given : ∀ reading ∈ readings, Known reading)
    {argv : List Bytes} (named : argv ≠ []) :
    fold readings (initial argv) = ofReadings readings [] := by
  have writes := fun reading member self => body_writes (given reading member) self
  have input : (fold readings (initial argv)).input = _ :=
    part_of_foldl CommandLine.input _ (fun reading member self => (writes reading member self).1)
      (initial argv)
  have output : (fold readings (initial argv)).output = _ :=
    part_of_foldl CommandLine.output _
      (fun reading member self => (writes reading member self).2.1) (initial argv)
  have pass : (fold readings (initial argv)).pass = _ :=
    part_of_foldl CommandLine.pass _
      (fun reading member self => (writes reading member self).2.2.1) (initial argv)
  have server : (fold readings (initial argv)).server = _ :=
    part_of_foldl CommandLine.server _
      (fun reading member self => (writes reading member self).2.2.2.1) (initial argv)
  have user : (fold readings (initial argv)).user = _ :=
    part_of_foldl CommandLine.user _
      (fun reading member self => (writes reading member self).2.2.2.2.1) (initial argv)
  have inputSource : (fold readings (initial argv)).inputSource = _ :=
    part_of_foldl CommandLine.inputSource _
      (fun reading member self => (writes reading member self).2.2.2.2.2.1) (initial argv)
  have outputSink : (fold readings (initial argv)).outputSink = _ :=
    part_of_foldl CommandLine.outputSink _
      (fun reading member self => (writes reading member self).2.2.2.2.2.2.1) (initial argv)
  have base := fold_base given (initial argv)
  rw [lastWritten_map] at input output pass server user outputSink
  have unset : ∀ value : Option Bytes, (value.map some).getD none = value := by
    intro value
    cases value <;> rfl
  have some_ : decide (0 < argv.length) = true := decide_eq_true (List.length_pos_iff.mpr named)
  apply CommandLine.ext
  · rw [base, initial, CommandLineBase.new, some_]
    rfl
  · rw [input]
    exact unset _
  · rw [output]
    exact unset _
  · rw [pass, ofReadings]
    cases lastWritten (valueOf (byte 'p')) readings <;> rfl
  · rw [server]
    exact unset _
  · rw [user]
    exact unset _
  · rw [inputSource]
    rfl
  · rw [outputSink, ofReadings]
    cases lastWritten (valueOf (byte 'o')) readings <;> rfl

/-- All that is accepted is options the object knows: those without an argument are
refused. -/
theorem known_of_accepted {argv : List Bytes} {readings : List (Reading UInt8)}
    {rest : List Bytes} (accepted : Accepted opts refused argv readings rest) :
    ∀ reading ∈ readings, Known reading := by
  intro reading member
  obtain ⟨kind, ⟨c, rfl, free⟩ | ⟨c, value, rfl, takes⟩⟩ := accepted.kinds member
  · exfalso
    rcases refused_eq_false kind with rfl | rfl | rfl | rfl | rfl | rfl | rfl
    all_goals exact absurd free (by decide)
  · exact ⟨c, value, rfl, kind⟩

/-- Where the object has given up, the user has been shown the usage. -/
def Explained (self : CommandLine) : Prop :=
  self.base.successful = false → .usage ∈ self.base.notices

theorem body_explained (ch : UInt8) (optarg : Option Bytes) (self : CommandLine)
    (explained : Explained self) : Explained (body ch optarg self) := by
  unfold body
  split
  · intro failed
    unfold Explained at explained
    cases given : self.input with
    | none =>
        simp only [given, Option.isSome_none, Bool.false_eq_true, if_false] at failed ⊢
        exact explained failed
    | some before =>
        simp only [given, Option.isSome_some, if_true] at failed ⊢
        exact List.mem_append_left _ (explained failed)
  · split
    · exact explained
    · split
      · exact explained
      · split
        · exact explained
        · split
          · exact explained
          · intro _
            exact self.base.parseError_usage none

theorem sourceOf_ne_unknown {readings : List (Reading UInt8)} :
    lastWritten sourceOf readings ≠ some .unknown := by
  intro last
  obtain ⟨reading, -, source⟩ := List.mem_filterMap.mp (List.mem_of_getLast? last)
  cases reading with
  | argument c value =>
      simp only [sourceOf] at source
      split at source
      · cases source
      · split at source
        · cases source
        · split at source
          · cases source
          · cases source
  | flag c | illegal c | missing c => cases source

/-- What the last tests of the constructor complain of. -/
def Senseless (self : CommandLine) : Prop :=
  self.inputSource = .unknown ∨ self.inputSource ≠ .ssqls2 ∧ self.output = none

theorem checkSense_cases {self : CommandLine} (going : self.base.successful = true) :
    (¬ Senseless self ∧ checkSense self = self) ∨
      (Senseless self ∧
        ∃ message, checkSense self = { self with base := self.base.parseError message }) := by
  rw [checkSense, if_pos going]
  by_cases unknown : self.inputSource = .unknown
  · rw [if_pos unknown]
    exact .inr ⟨.inl unknown, _, rfl⟩
  · rw [if_neg unknown]
    by_cases wanting : self.inputSource ≠ .ssqls2 ∧ self.output = none
    · rw [if_pos wanting]
      exact .inr ⟨.inr wanting, _, rfl⟩
    · rw [if_neg wanting]
      left
      constructor
      · intro senseless
        rcases senseless with none_ | short
        · exact unknown none_
        · exact wanting short
      · rfl

theorem sensible_iff (readings : List (Reading UInt8)) (rest : List Bytes) :
    Sensible readings ↔ ¬ Senseless (ofReadings readings rest) := by
  have input : (ofReadings readings rest).inputSource =
      (lastWritten sourceOf readings).getD .unknown := rfl
  have output : (ofReadings readings rest).output = lastWritten (valueOf (byte 'o')) readings :=
    rfl
  rw [Sensible, Senseless, input, output]
  cases source : lastWritten sourceOf readings with
  | none => simp
  | some kind =>
      have someSource : kind ≠ .unknown := by
        intro unknown
        rw [unknown] at source
        exact sourceOf_ne_unknown source
      cases lastWritten (valueOf (byte 'o')) readings with
      | none => simp [someSource]
      | some name => simp [someSource]

/-- What the constructor makes of any command line. It is accepted if it is written from
options with their arguments, an input among them and a name for the output where the
input needs one; what the object then holds is what was given last of each kind, with the
words behind the options. Every other command line is answered with the usage. -/
theorem new_spec {argv : List Bytes} (strings : CStrings argv) (named : argv ≠ []) :
    ∃ self, new argv = some self ∧
      (self.base.successful = true ↔
        ∃ readings rest, Accepted opts refused argv readings rest ∧ Sensible readings) ∧
      (∀ readings rest, Accepted opts refused argv readings rest → Sensible readings →
        self = ofReadings readings rest) ∧
      (self.base.successful = false → .usage ∈ self.base.notices) := by
  have starts : (initial argv).base.successful = true :=
    decide_eq_true (List.length_pos_iff.mpr named)
  obtain ⟨last, final, ran, success, made, kept⟩ := loop_outcome strings opts givesUpOn starts
  have explained := kept Explained body_explained fun failed => by
    rw [starts] at failed
    cases failed
  have built : new argv =
      some (checkSense { final with base := final.base.finishParse argv last }) := by
    rw [new, ran]
    rfl
  refine ⟨_, built, ?_⟩
  cases going : final.base.successful with
  | false =>
      have stays : checkSense { final with base := final.base.finishParse argv last } = final := by
        simp only [checkSense, CommandLineBase.finishParse, going, Bool.false_eq_true, if_false]
      have none_ : ∀ readings rest, ¬ Accepted opts refused argv readings rest := by
        intro readings rest accepted
        rw [success.mpr ⟨readings, rest, accepted⟩] at going
        cases going
      rw [stays, going]
      refine ⟨?_, ?_, fun _ => explained going⟩
      · constructor
        · intro impossible
          cases impossible
        · intro given
          obtain ⟨readings, rest, accepted, _⟩ := given
          exact absurd accepted (none_ readings rest)
      · intro readings rest accepted
        exact absurd accepted (none_ readings rest)
  | true =>
      obtain ⟨readings, rest, accepted⟩ := success.mp going
      obtain ⟨folded, behind⟩ := made readings rest accepted
      have holds : final = ofReadings readings [] :=
        folded.trans (fold_eq (known_of_accepted accepted) named)
      have finished : { final with base := final.base.finishParse argv last } =
          ofReadings readings rest := by
        have fresh : final.base.extraArgs = [] := by
          rw [holds]
          rfl
        rw [CommandLineBase.finishParse_rest going fresh behind, holds]
        rfl
      have only : ∀ {others words}, Accepted opts refused argv others words →
          others = readings ∧ words = rest := by
        intro others words written
        exact written.unique accepted
      rw [finished]
      rcases checkSense_cases (show (ofReadings readings rest).base.successful = true from rfl) with
        ⟨fine, same⟩ | ⟨senseless, message, failed⟩
      · rw [same]
        have sensible := (sensible_iff readings rest).mpr fine
        refine ⟨iff_of_true rfl ⟨readings, rest, accepted, sensible⟩, ?_, ?_⟩
        · intro others words written _
          obtain ⟨rfl, rfl⟩ := only written
          rfl
        · intro impossible
          cases impossible
      · have senseless_ : ¬ Sensible readings := by
          intro sensible
          exact (sensible_iff readings rest).mp sensible senseless
        rw [failed]
        refine ⟨?_, ?_, fun _ => CommandLineBase.parseError_usage message _⟩
        · constructor
          · intro impossible
            cases impossible
          · intro given
            obtain ⟨others, words, written, sensible⟩ := given
            obtain ⟨rfl, rfl⟩ := only written
            exact absurd sensible senseless_
        · intro others words written sensible
          obtain ⟨rfl, rfl⟩ := only written
          exact absurd sensible senseless_

/-- The objects of accepted command lines are those that the options make: each option
with its argument, of each kind the last one, a warning for every input but one, and an
input that makes sense. -/
theorem new_successful_iff {argv : List Bytes} (strings : CStrings argv) (named : argv ≠ [])
    (self : CommandLine) :
    (new argv = some self ∧ self.base.successful = true) ↔
      ∃ readings rest, Accepted opts refused argv readings rest ∧ Sensible readings ∧
        self = ofReadings readings rest := by
  obtain ⟨made, built, success, holds, _⟩ := new_spec strings named
  constructor
  · intro given
    obtain ⟨same, going⟩ := given
    rw [built] at same
    cases same
    obtain ⟨readings, rest, accepted, sensible⟩ := success.mp going
    exact ⟨readings, rest, accepted, sensible, holds readings rest accepted sensible⟩
  · intro given
    obtain ⟨readings, rest, accepted, sensible, rfl⟩ := given
    rw [built, holds readings rest accepted sensible]
    exact ⟨rfl, rfl⟩

theorem new_successful_iff_table :
    ∃ self, new [ascii "xlat", ascii "-ia", ascii "-tstock", ascii "-ob"] = some self ∧
      self.input = some (ascii "stock") ∧ self.inputSource = .table ∧
        self.base.notices = [.overriding] := by
  have strings : CStrings [ascii "xlat", ascii "-ia", ascii "-tstock", ascii "-ob"] := by decide
  have accepted : Accepted opts refused [ascii "xlat", ascii "-ia", ascii "-tstock", ascii "-ob"]
      [.argument (byte 'i') (ascii "a"), .argument (byte 't') (ascii "stock"),
        .argument (byte 'o') (ascii "b")] [] := by
    refine ⟨⟨[⟨[], .attached (byte 'i') (ascii "a")⟩, ⟨[], .attached (byte 't') (ascii "stock")⟩,
      ⟨[], .attached (byte 'o') (ascii "b")⟩], ?_, ?_, rfl, rfl⟩, rfl⟩
    · intro group member
      simp only [List.mem_cons, List.not_mem_nil, or_false] at member
      rcases member with rfl | rfl | rfl
      · exact OptionGroup.valid_attached (by decide) (by decide)
      · exact OptionGroup.valid_attached (by decide) (by decide)
      · exact OptionGroup.valid_attached (by decide) (by decide)
    · intro word impossible
      cases impossible
  have sensible : Sensible [.argument (byte 'i') (ascii "a"),
      .argument (byte 't') (ascii "stock"), .argument (byte 'o') (ascii "b")] :=
    ⟨.table, rfl, .inr ⟨ascii "b", rfl⟩⟩
  obtain ⟨built, _⟩ := (new_successful_iff strings (List.cons_ne_nil _ _) _).mpr
    ⟨_, _, accepted, sensible, rfl⟩
  exact ⟨_, built, rfl, rfl, rfl⟩

end CommandLine

end Ssqlsxlat

end LibTabula
