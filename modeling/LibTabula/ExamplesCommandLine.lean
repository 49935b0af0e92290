/-
The command line of the examples.

It is accepted if it is written from the options the object knows, and what the object
holds then is what was given last.
-/

import LibTabula.CommandLines

set_option autoImplicit false

namespace LibTabula

open Foundation Foundation.OptionWords GetOpt

namespace Examples

/-- `examples::CommandLine`. -/
@[ext]
structure CommandLine where
  base : CommandLineBase
  dtestMode : Bool
  runMode : Int32
  server : Option Bytes
  user : Option Bytes
  pass : Option Bytes
deriving DecidableEq, Repr

namespace CommandLine

def opts : Bytes := ascii "hm:p:s:u:D?"

/-- The body of the loop. `atoi()` of no argument would be a null pointer. -/
def body (ch : UInt8) (optionArgument : Option Bytes) (self : CommandLine) : CommandLine :=
  if ch = byte 'm' then { self with runMode := strToInt (optionArgument.getD []) }
  else if ch = byte 'p' then { self with pass := optionArgument }
  else if ch = byte 's' then { self with server := optionArgument }
  else if ch = byte 'u' then { self with user := optionArgument }
  else if ch = byte 'D' then { self with dtestMode := true }
  else { self with base := self.base.parseError none }

def initial (argv : List Bytes) (user pass : Option Bytes) : CommandLine :=
  { base := .new argv
    dtestMode := false
    runMode := 0
    server := none
    user := if user = some [] then none else user
    pass := if pass = none then some [] else pass }

/-- The constructor. Where the source returns early `finish_parse()` does nothing. -/
def new (argv : List Bytes) (user pass : Option Bytes) : Option CommandLine :=
  (parseLoop argv opts (fun self => self.base.successful) body (iterations argv)
    GetOpt.initial (initial argv user pass)).map fun (self, place) =>
      { self with base := self.base.finishParse argv place }

/-- The options the object knows. `-h` and `-?` are asked for the usage only. -/
def known : Bytes := [byte 'm', byte 'p', byte 's', byte 'u', byte 'D']

def refused (ch : UInt8) : Bool := !known.contains ch

theorem refused_eq_false {ch : UInt8} (kind : refused ch = false) :
    ch = byte 'm' ∨ ch = byte 'p' ∨ ch = byte 's' ∨ ch = byte 'u' ∨ ch = byte 'D' := by
  have member : known.contains ch = true := by
    rw [refused] at kind
    exact Bool.not_eq_eq_eq_not.mp kind
  simp only [known, List.contains_iff_mem, List.mem_cons, List.not_mem_nil, or_false] at member
  exact member

theorem givesUpOn :
    GivesUpOn (fun self : CommandLine => self.base.successful) body refused where
  stops := by
    intro ch optarg self kind
    have other : ch ∉ known := by
      intro member
      rw [refused, List.contains_iff_mem.mpr member] at kind
      cases kind
    simp only [known, List.mem_cons, List.not_mem_nil, or_false, not_or] at other
    obtain ⟨m, p, s, u, d⟩ := other
    simp only [body, m, p, s, u, d, if_false]
    rfl
  goesOn := by
    intro ch optarg self kind
    rcases refused_eq_false kind with rfl | rfl | rfl | rfl | rfl
    all_goals rfl
  error := by decide

/-- Of each option the last one, and what the caller gives where there is none. -/
def ofReadings (argv : List Bytes) (user pass : Option Bytes) (readings : List (Reading UInt8))
    (rest : List Bytes) : CommandLine :=
  { base := { successful := true, extraArgs := rest, notices := [] }
    dtestMode := readings.contains (.flag (byte 'D'))
    runMode := ((lastWritten (valueOf (byte 'm')) readings).map strToInt).getD 0
    server := lastWritten (valueOf (byte 's')) readings
    user := (lastWritten (valueOf (byte 'u')) readings).or (initial argv user pass).user
    pass := (lastWritten (valueOf (byte 'p')) readings).or (initial argv user pass).pass }

/-- An option the object knows, with its argument if it takes one. -/
def Known (reading : Reading UInt8) : Prop :=
  reading = .flag (byte 'D') ∨
    ∃ c value, reading = .argument c value ∧ refused c = false ∧ c ≠ byte 'D'

theorem body_writes {reading : Reading UInt8} (given : Known reading) (self : CommandLine) :
    let next := body (shown reading) (argumentOf reading) self
    next.dtestMode =
        (if reading = .flag (byte 'D') then some true else none).getD self.dtestMode ∧
      next.runMode = ((valueOf (byte 'm') reading).map strToInt).getD self.runMode ∧
      next.server = ((valueOf (byte 's') reading).map some).getD self.server ∧
      next.user = ((valueOf (byte 'u') reading).map some).getD self.user ∧
      next.pass = ((valueOf (byte 'p') reading).map some).getD self.pass ∧
      next.base = self.base := by
  rcases given with rfl | ⟨c, value, rfl, kind, other⟩
  · exact ⟨rfl, rfl, rfl, rfl, rfl, rfl⟩
  · rcases refused_eq_false kind with rfl | rfl | rfl | rfl | rfl
    · exact ⟨rfl, rfl, rfl, rfl, rfl, rfl⟩
    · exact ⟨rfl, rfl, rfl, rfl, rfl, rfl⟩
    · exact ⟨rfl, rfl, rfl, rfl, rfl, rfl⟩
    · exact ⟨rfl, rfl, rfl, rfl, rfl, rfl⟩
    · exact absurd rfl other

theorem known_of_accepted {argv : List Bytes} {readings : List (Reading UInt8)}
    {rest : List Bytes} (accepted : Accepted opts refused argv readings rest) :
    ∀ reading ∈ readings, Known reading := by
  intro reading member
  obtain ⟨kind, ⟨c, rfl, free⟩ | ⟨c, value, rfl, takes⟩⟩ := accepted.kinds member
  · rcases refused_eq_false kind with rfl | rfl | rfl | rfl | rfl
    · exact absurd free (by decide)
    · exact absurd free (by decide)
    · exact absurd free (by decide)
    · exact absurd free (by decide)
    · exact .inl rfl
  · refine .inr ⟨c, value, rfl, kind, ?_⟩
    intro testing
    rw [testing] at takes
    exact absurd takes (by decide)

/-- The loop over options the object knows. -/
def fold (readings : List (Reading UInt8)) (self : CommandLine) : CommandLine :=
  readings.foldl (fun self reading => body (shown reading) (argumentOf reading) self) self

theorem fold_eq {readings : List (Reading UInt8)} (given : ∀ reading ∈ readings, Known reading)
    {argv : List Bytes} (named : argv ≠ []) (user pass : Option Bytes) :
    fold readings (initial argv user pass) = ofReadings argv user pass readings [] := by
  have writes := fun reading member self => body_writes (given reading member) self
  have dtestMode : (fold readings (initial argv user pass)).dtestMode = _ :=
    part_of_foldl CommandLine.dtestMode _
      (fun reading member self => (writes reading member self).1) _
  have runMode : (fold readings (initial argv user pass)).runMode = _ :=
    part_of_foldl CommandLine.runMode _
      (fun reading member self => (writes reading member self).2.1) _
  have server : (fold readings (initial argv user pass)).server = _ :=
    part_of_foldl CommandLine.server _
      (fun reading member self => (writes reading member self).2.2.1) _
  have userName : (fold readings (initial argv user pass)).user = _ :=
    part_of_foldl CommandLine.user _
      (fun reading member self => (writes reading member self).2.2.2.1) _
  have password : (fold readings (initial argv user pass)).pass = _ :=
    part_of_foldl CommandLine.pass _
      (fun reading member self => (writes reading member self).2.2.2.2.1) _
  have base : (fold readings (initial argv user pass)).base = _ :=
    part_of_foldl CommandLine.base (fun _ => none)
      (fun reading member self => (writes reading member self).2.2.2.2.2) _
  rw [lastWritten_map] at runMode server userName password
  rw [lastWritten_never] at base
  apply CommandLine.ext
  · rw [base, initial, CommandLineBase.new, decide_eq_true (List.length_pos_iff.mpr named)]
    rfl
  · rw [dtestMode, ofReadings, Bool.eq_iff_iff, List.contains_iff_mem]
    have raised := lastWritten_flag (fun reading => reading = Reading.flag (byte 'D')) readings
    rw [exists_eq_right] at raised
    exact raised
  · rw [runMode]
    rfl
  · rw [server, ofReadings]
    cases lastWritten (valueOf (byte 's')) readings <;> rfl
  · rw [userName, ofReadings]
    cases lastWritten (valueOf (byte 'u')) readings <;> rfl
  · rw [password, ofReadings]
    cases lastWritten (valueOf (byte 'p')) readings <;> rfl

def Explained (self : CommandLine) : Prop :=
  self.base.successful = false → .usage ∈ self.base.notices

theorem body_explained (ch : UInt8) (optarg : Option Bytes) (self : CommandLine)
    (explained : Explained self) : Explained (body ch optarg self) := by
  unfold body
  split
  · exact explained
  · split
    · exact explained
    · split
      · exact explained
      · split
        · exact explained
        · split
          · exact explained
          · intro _
            exact self.base.parseError_usage none

/-- What the constructor makes of any command line. It is accepted if it is written from
options the object knows, and the object holds what was given last of each, or else what the
caller gives. Every other command line is answered with the usage. -/
theorem new_given_last {argv : List Bytes} (strings : CStrings argv) (named : argv ≠ [])
    (user pass : Option Bytes) :
    ∃ self, new argv user pass = some self ∧
      (self.base.successful = true ↔
        ∃ readings rest, Accepted opts refused argv readings rest) ∧
      (∀ readings rest, Accepted opts refused argv readings rest →
        self = ofReadings argv user pass readings rest) ∧
      (self.base.successful = false → .usage ∈ self.base.notices) := by
  have starts : (initial argv user pass).base.successful = true :=
    decide_eq_true (List.length_pos_iff.mpr named)
  obtain ⟨last, final, ran, success, made, kept⟩ := loop_outcome strings opts givesUpOn starts
  have explained := kept Explained body_explained fun failed => by
    rw [starts] at failed
    cases failed
  have built : new argv user pass =
      some { final with base := final.base.finishParse argv last } := by
    rw [new, ran]
    rfl
  refine ⟨_, built, ?_⟩
  cases going : final.base.successful with
  | false =>
      have stays : final.base.finishParse argv last = final.base := by
        simp only [CommandLineBase.finishParse, going, Bool.false_eq_true, if_false]
      rw [stays, going]
      rw [going] at success
      refine ⟨success, ?_, fun _ => explained going⟩
      intro readings rest accepted
      exact absurd (success.mpr ⟨readings, rest, accepted⟩) Bool.false_ne_true
  | true =>
      obtain ⟨readings, rest, accepted⟩ := success.mp going
      obtain ⟨folded, behind⟩ := made readings rest accepted
      have holds : final = ofReadings argv user pass readings [] :=
        folded.trans (fold_eq (known_of_accepted accepted) named user pass)
      have fresh : final.base.extraArgs = [] := by
        rw [holds]
        rfl
      rw [CommandLineBase.finishParse_rest going fresh behind]
      refine ⟨iff_of_true going ⟨readings, rest, accepted⟩, ?_, ?_⟩
      · intro others words written
        obtain ⟨rfl, rfl⟩ := written.unique accepted
        rw [holds]
        rfl
      · intro failed
        rw [show final.base.successful = false from failed] at going
        cases going

theorem new_given_last_user :
    ∃ self, new [ascii "ex", ascii "-Du", ascii "ann", ascii "-ubob", ascii "db"] none none =
        some self ∧
      self = { base := { successful := true, extraArgs := [ascii "db"], notices := [] }
               dtestMode := true, runMode := 0, server := none, user := some (ascii "bob")
               pass := some [] } := by
  have strings : CStrings [ascii "ex", ascii "-Du", ascii "ann", ascii "-ubob", ascii "db"] := by
    decide
  obtain ⟨self, built, _, made, _⟩ :=
    new_given_last strings (List.cons_ne_nil _ _) none none
  refine ⟨self, built, made
    [.flag (byte 'D'), .argument (byte 'u') (ascii "ann"), .argument (byte 'u') (ascii "bob")]
    [ascii "db"] ⟨?_, rfl⟩⟩
  refine ⟨[⟨[byte 'D'], .separate (byte 'u') (ascii "ann")⟩,
    ⟨[], .attached (byte 'u') (ascii "bob")⟩], ?_, ?_, rfl, rfl⟩
  · intro group member
    simp only [List.mem_cons, List.not_mem_nil, or_false] at member
    rcases member with rfl | rfl
    · exact OptionGroup.valid_cons (by decide) (OptionGroup.valid_separate (by decide) _)
    · exact OptionGroup.valid_attached (by decide) (by decide)
  · intro word first
    cases first
    decide

end CommandLine

end Examples

end LibTabula
