/-
Copies of connections, and sessions that nobody can use.

A copy never has a session, whatever its flag says. What its original has is a session that
the original's own flag does not know of, if the original had none before. A driver with a
session it does not know of is never connected again, and the session is not closed with it.
-/

import LibTabula.ConnectionLifetimes

set_option autoImplicit false

namespace LibTabula.ConnectionLifetimes

open Foundation Function

namespace Driver

/-- A session that the driver does not know of. -/
def Stuck (self : Driver) : Prop := self.isConnected = false ∧ self.session = true

/-- The flag says what is the case. -/
def Honest (self : Driver) : Prop := self.isConnected = self.session

variable {library : Library} {self : Driver}

/-- Where the handle has a session, or none is granted, nothing happens. -/
theorem realConnect_refused (documented : library.Documented) {granted : Bool}
    (refused : ¬ (self.session = false ∧ granted = true)) :
    self.realConnect library granted = (false, self) := by
  rw [realConnect, documented.realConnect_eq]
  obtain ⟨isConnected, session, te⟩ := self
  cases session with
  | true => rfl
  | false =>
      cases granted with
      | false => rfl
      | true => exact absurd ⟨rfl, rfl⟩ refused

theorem Stuck.realConnect (refuses : library.Refuses) (stuck : self.Stuck) (granted : Bool) :
    self.realConnect library granted = (false, self) := by
  obtain ⟨isConnected, session, te⟩ := self
  obtain ⟨down, up⟩ := stuck
  cases up
  rw [Driver.realConnect, refuses]

theorem Stuck.disconnect (stuck : self.Stuck) : self.disconnect = self := by
  rw [Driver.disconnect, stuck.1]
  rfl

theorem Stuck.connect (refuses : library.Refuses) (stuck : self.Stuck) (granted : Bool) :
    self.connect library granted = (false, self) := by
  rw [Driver.connect, stuck.disconnect, stuck.realConnect refuses]
  obtain ⟨isConnected, session, te⟩ := self
  obtain ⟨down, up⟩ := stuck
  cases down
  rfl

theorem Honest.disconnect (honest : self.Honest) : self.disconnect.session = false := by
  obtain ⟨isConnected, session, te⟩ := self
  cases honest
  cases isConnected <;> rfl

theorem Honest.destruct (honest : self.Honest) : self.destruct.session = false := by
  obtain ⟨isConnected, session, te⟩ := self
  cases honest
  cases isConnected <;> rfl

theorem disconnect_honest (honest : self.Honest) : self.disconnect.Honest := by
  obtain ⟨isConnected, session, te⟩ := self
  cases honest
  cases isConnected <;> rfl

theorem connect_of_honest (documented : library.Documented) (honest : self.Honest)
    (granted : Bool) :
    self.connect library granted =
      (granted, { self with isConnected := granted, session := granted }) := by
  have closed := honest.disconnect
  rw [Driver.connect, realConnect, documented.realConnect_eq, closed, Bool.not_false, Bool.true_and,
    Bool.false_or]
  obtain ⟨isConnected, session, te⟩ := self
  cases honest
  cases isConnected <;> rfl

theorem connect_honest (documented : library.Documented) (honest : self.Honest)
    (granted : Bool) : (self.connect library granted).2.Honest := by
  rw [connect_of_honest documented honest]
  rfl

end Driver

namespace Process

variable {library : Library} {self after : Process} {c : ConnPtr} {conn : Connection}
  {p : DriverPtr} {driver : Driver}

/-! ### A driver that stays as it is -/

/-- The connection has this driver in this state. -/
def Keeps (c : ConnPtr) (p : DriverPtr) (driver : Driver) (self : Process) : Prop :=
  self.holds c = some p ∧ self.drivers p = some driver

namespace Keeps

theorem setDriver (keeps : self.Keeps c p driver) {q : DriverPtr} {other : Driver}
    (same : q = p → other = driver) : (self.setDriver q other).Keeps c p driver := by
  refine ⟨keeps.1, ?_⟩
  by_cases here : p = q
  · rw [setDriver_drivers, here, update_self, same here.symm]
  · rw [setDriver_drivers, update_of_ne here]
    exact keeps.2

theorem setConn (keeps : self.Keeps c p driver) {other : ConnPtr} {conn : Connection}
    (same : other = c → conn.driver = p) : (self.setConn other conn).Keeps c p driver := by
  refine ⟨?_, keeps.2⟩
  rw [holds_setConn]
  by_cases here : c = other
  · rw [here, update_self, same here.symm]
  · rw [update_of_ne here]
    exact keeps.1

theorem newDriver (keeps : self.Keeps c p driver) (below : p < self.next) (other : Driver) :
    (self.newDriver other).2.Keeps c p driver := by
  refine ⟨keeps.1, ?_⟩
  rw [newDriver_drivers, update_of_ne (Nat.ne_of_lt below)]
  exact keeps.2

theorem released (keeps : self.Keeps c p driver) {other : ConnPtr} {q : DriverPtr}
    (apart : c ≠ other) (apart' : p ≠ q) (gone : Driver) :
    (self.released other q gone).Keeps c p driver := by
  refine ⟨?_, ?_⟩
  · have cleared : (self.released other q gone).holds = update self.holds other none :=
      holds_without other self
    rw [cleared, update_of_ne apart]
    exact keeps.1
  · rw [released_drivers, update_of_ne apart']
    exact keeps.2

end Keeps

/-! ### Stuck for ever -/

/-- The connection is not copied to and not destroyed. -/
def Leaves (c : ConnPtr) (event : Event) : Prop :=
  (∀ rhs granted, event ≠ .assign c rhs granted) ∧ event ≠ .destroy c

theorem Keeps.conns (keeps : self.Keeps c p driver) :
    ∃ conn, self.conns c = some conn ∧ conn.driver = p :=
  Option.map_eq_some_iff.mp keeps.1

/-- What the driver of another connection is. -/
theorem Keeps.apart (keeps : self.Keeps c p driver) (owns : self.Owns) {other : ConnPtr}
    (given : self.conns other = some conn) (different : c ≠ other) : p ≠ conn.driver := by
  intro same
  have holding := holds_of_conns given
  rw [← same] at holding
  exact different (Owned.apart owns c other p keeps.1 holding)

/-- What a copy does with a driver of a third connection, or of the one that is copied, if
that one is stuck. -/
theorem Keeps.copy (refuses : library.Refuses) (keeps : self.Keeps c p driver)
    (owns : self.Owns) (stuck : driver.Stuck) {into from_ : ConnPtr} (different : c ≠ into)
    {granted : Bool} (copied : self.copy library into from_ granted = some after) :
    after.Keeps c p driver := by
  have below : p < self.next := Owned.lt_next owns keeps.1
  by_cases toItself : into = from_
  · rw [toItself, copy_self] at copied
    cases copied
  · cases given : self.conns into with
    | none =>
        rw [Process.copy, given] at copied
        cases copied
    | some conn =>
        cases given' : self.conns from_ with
        | none =>
            rw [Process.copy, given, given'] at copied
            cases copied
        | some rhs =>
            obtain ⟨old, live⟩ := owns.live given
            obtain ⟨source, live'⟩ := owns.live given'
            rw [copy_eq owns given live given' live' toItself] at copied
            cases copied
            have unchanged : rhs.driver = p → (source.realConnect library granted).2 = driver := by
              intro same
              rw [same, keeps.2] at live'
              cases live'
              rw [stuck.realConnect refuses]
            apply Keeps.setConn
            · apply Keeps.newDriver
              · apply Keeps.setDriver _ unchanged
                exact keeps.released different (keeps.apart owns given different) old
              · exact below
            · intro same
              exact absurd same.symm different

theorem keeps_of_step (refuses : library.Refuses) {event : Event} (owns : self.Owns)
    (stuck : driver.Stuck) (keeps : self.Keeps c p driver) (leaves : Leaves c event)
    (step : Step library self event after) :
    after.Keeps c p driver := by
  obtain ⟨valid, performed⟩ := step
  have below : p < self.next := Owned.lt_next owns keeps.1
  obtain ⟨own, ownGiven, ownDriver⟩ := keeps.conns
  have occupied : ∀ {other}, self.conns other = none → c ≠ other := by
    intro other vacant same
    rw [← same, ownGiven] at vacant
    cases vacant
  cases event with
  | construct other te =>
      cases performed
      exact (keeps.newDriver below _).setConn fun same => absurd same.symm (occupied valid)
  | constructConnected other answers =>
      rw [perform, constructConnected_eq] at performed
      cases performed
      have different := occupied valid
      have begins : (self.begun other).Keeps c p driver :=
        (keeps.newDriver below _).setConn fun same => absurd same.symm different
      have apart : p ≠ self.next := Nat.ne_of_lt below
      split
      · apply Keeps.setConn
        · exact begins.setDriver fun same => absurd same.symm apart
        · intro same
          exact absurd same.symm different
      · exact begins.released different apart _
  | connect other answers =>
      obtain ⟨conn, given⟩ := Option.ne_none_iff_exists'.mp valid
      obtain ⟨driver', live⟩ := owns.live given
      rw [perform, connect_eq given live] at performed
      have same_ : other = c → conn.driver = p := by
        intro same
        rw [same, ownGiven] at given
        cases given
        exact ownDriver
      split at performed
      · cases performed
        apply Keeps.setConn
        · apply keeps.setDriver
          intro same
          rw [same, keeps.2] at live
          cases live
          rw [stuck.connect refuses]
        · exact same_
      · cases performed
        exact keeps.setConn same_
  | disconnect other =>
      obtain ⟨conn, given⟩ := Option.ne_none_iff_exists'.mp valid
      obtain ⟨driver', live⟩ := owns.live given
      rw [perform, disconnect_eq given live] at performed
      cases performed
      apply keeps.setDriver
      intro same
      rw [same, keeps.2] at live
      cases live
      exact stuck.disconnect
  | copyConstruct other rhs first second =>
      obtain ⟨vacant, there⟩ := valid
      obtain ⟨conn, given⟩ := Option.ne_none_iff_exists'.mp there
      obtain ⟨source, live⟩ := owns.live given
      rw [perform, copyConstruct_eq given live] at performed
      have different := occupied vacant
      have begins : (self.cloned library other conn source first).Keeps c p driver := by
        apply Keeps.setConn
        · apply Keeps.newDriver
          · apply keeps.setDriver
            intro same
            rw [same, keeps.2] at live
            cases live
            rw [stuck.realConnect refuses]
          · exact below
        · intro same
          exact absurd same.symm different
      exact begins.copy refuses (owns.cloned library vacant live first) stuck different performed
  | assign other rhs granted =>
      have different : c ≠ other := by
        intro same
        exact leaves.1 rhs granted (by rw [same])
      exact keeps.copy refuses owns stuck different performed
  | destroy other =>
      obtain ⟨conn, given⟩ := Option.ne_none_iff_exists'.mp valid
      obtain ⟨driver', live⟩ := owns.live given
      have different : c ≠ other := by
        intro same
        exact leaves.2 (by rw [same])
      rw [perform, destroy_eq given live] at performed
      cases performed
      exact keeps.released different (keeps.apart owns given different) _

theorem keeps_of_run (refuses : library.Refuses) {events : List Event} (owns : self.Owns)
    (stuck : driver.Stuck) (keeps : self.Keeps c p driver)
    (leaves : ∀ event ∈ events, Leaves c event)
    (run : Run (Step library) self events after) : after.Owns ∧ after.Keeps c p driver := by
  induction run with
  | nil state => exact ⟨owns, keeps⟩
  | cons first _rest ih =>
      apply ih (owns_of_step owns first)
      · exact keeps_of_step refuses owns stuck keeps (leaves _ List.mem_cons_self) first
      · intro event member
        exact leaves event (List.mem_cons_of_mem _ member)

/-- A connection whose driver has a session that it does not know of stays unconnected
whatever is done, also to other connections, until it is copied to or destroyed: every
attempt to connect fails, whatever the server answers. -/
theorem stuck_for_ever (refuses : library.Refuses) {earlier events : List Event}
    (run : Run (Step library) initial earlier self) (given : self.conns c = some conn)
    (live : self.drivers conn.driver = some driver) (stuck : driver.Stuck)
    (later : Run (Step library) self events after) (leaves : ∀ event ∈ events, Leaves c event) :
    after.connected c = some false ∧
      ∀ answers, ∃ last, after.connect library c answers = some (false, last) := by
  obtain ⟨owns, keeps⟩ := keeps_of_run refuses (owns_of_run run) stuck
    ⟨holds_of_conns given, live⟩ leaves later
  obtain ⟨conn', given', same⟩ := keeps.conns
  have live' : after.drivers conn'.driver = some driver := by
    rw [same]
    exact keeps.2
  constructor
  · simp only [connected, given', live', Option.bind_some, Option.map_some, stuck.1]
  · intro answers
    rw [connect_eq given' live', stuck.connect refuses]
    split
    · exact ⟨_, rfl⟩
    · exact ⟨_, rfl⟩

def allWell : Answers := { parsed := true, granted := true }

theorem copiedClosed_step :
    Step documentedLibrary (initial.construct 0 true) (.copyConstruct 1 0 true true)
      copiedClosed :=
  ⟨⟨rfl, Option.some_ne_none _⟩, rfl⟩

theorem copiedClosed_run :
    Run (Step documentedLibrary) initial [.construct 0 true, .copyConstruct 1 0 true true]
      copiedClosed :=
  .cons ⟨rfl, rfl⟩ (.single copiedClosed_step)

/-- The original of a copy, whose handle has got the session. -/
theorem stuck_for_ever_copied :
    ∃ after, Run (Step documentedLibrary) copiedClosed [.connect 1 allWell, .disconnect 0] after ∧
      after.connected 0 = some false ∧
      ∀ answers, ∃ last, after.connect documentedLibrary 0 answers = some (false, last) := by
  let connected := (copiedClosed.perform documentedLibrary (.connect 1 allWell)).getD initial
  have tried : Step documentedLibrary copiedClosed (.connect 1 allWell) connected :=
    ⟨Option.some_ne_none _, rfl⟩
  have left_ : Step documentedLibrary connected (.disconnect 0)
      ((connected.disconnect 0).getD initial) := ⟨Option.some_ne_none _, rfl⟩
  have later := Run.cons tried (.single left_)
  have leaves : ∀ event ∈ [Event.connect 1 allWell, .disconnect 0], Leaves 0 event := by
    unfold Leaves
    intro event member
    simp only [List.mem_cons, List.not_mem_nil, or_false] at member
    rcases member with rfl | rfl
    · exact ⟨fun _ _ => Event.noConfusion, Event.noConfusion⟩
    · exact ⟨fun _ _ => Event.noConfusion, Event.noConfusion⟩
  exact ⟨_, later, stuck_for_ever documented_documentedLibrary.refuses copiedClosed_run rfl rfl
    ⟨rfl, rfl⟩ later leaves⟩

/-! ### Copies -/

/-- What a copy and its original are afterwards, for a copy to an object there is. -/
theorem copy_outcome {other : ConnPtr} {rhs : Connection} {source : Driver} (owns : self.Owns)
    (given : self.conns c = some conn) (given' : self.conns other = some rhs)
    (live' : self.drivers rhs.driver = some source) (apart : c ≠ other) {granted : Bool}
    (copied : self.copy library c other granted = some after) :
    (∃ made, after.conns c = some made ∧ made.copacetic = conn.copacetic ∧
        after.drivers made.driver = some
          { isConnected := (library.realConnect source.session granted).1, session := false
            throwExceptions := source.throwExceptions }) ∧
      after.conns other = some rhs ∧
      after.drivers rhs.driver =
        some { source with session := (library.realConnect source.session granted).2 } := by
  obtain ⟨driver, live⟩ := owns.live given
  rw [copy_eq owns given live given' live' apart] at copied
  cases copied
  have below : rhs.driver ≠ self.next :=
    Nat.ne_of_lt (Owned.lt_next owns (holds_of_conns given'))
  refine ⟨⟨_, update_self _ _ _, rfl, ?_⟩, ?_, ?_⟩
  · rw [setConn_drivers, newDriver_drivers, setDriver_next, released_next, update_self]
    rfl
  · rw [setConn_conns, update_of_ne (Ne.symm apart), newDriver_conns, setDriver_conns,
      released_conns, update_of_ne (Ne.symm apart), given']
  · rw [setConn_drivers, newDriver_drivers, setDriver_next, released_next, update_of_ne below,
      setDriver_drivers, update_self]
    rfl

variable (library) in
theorem cloned_source {other : ConnPtr} {rhs : Connection} (owns : self.Owns)
    (given : self.conns other = some rhs) (source : Driver) (into : ConnPtr) (granted : Bool) :
    (self.cloned library into rhs source granted).drivers rhs.driver =
      some { source with session := (library.realConnect source.session granted).2 } := by
  have below : rhs.driver ≠ self.next :=
    Nat.ne_of_lt (Owned.lt_next owns (holds_of_conns given))
  rw [cloned, setConn_drivers, newDriver_drivers, setDriver_next, update_of_ne below,
    setDriver_drivers, update_self]
  rfl

/-- The event makes one connection a copy of another; the server is asked for a session
once or twice. -/
def Copies (c other : ConnPtr) (granted : List Bool) : Event → Prop
  | .copyConstruct into from_ first second =>
      into = c ∧ from_ = other ∧ granted = [first, second]
  | .assign into from_ answer => into = c ∧ from_ = other ∧ granted = [answer]
  | _ => False

/-- After copying, the copy has no session, whatever the server and the client library have
answered, and its original's flag is as it was. The copy counts as connected only where its
original had no session and the server has granted one, and that one the original has, if the
library does what is documented. -/
theorem copies_without_session {events : List Event}
    (run : Run (Step library) initial events self) {event : Event} {other : ConnPtr}
    {granted : List Bool} (copies : Copies c other granted event) {rhs : Connection}
    {source : Driver} (given : self.conns other = some rhs)
    (live : self.drivers rhs.driver = some source) (step : Step library self event after) :
    ∃ made copy_ session, after.conns c = some made ∧ after.drivers made.driver = some copy_ ∧
      after.conns other = some rhs ∧
      after.drivers rhs.driver = some { source with session := session } ∧
      copy_.session = false ∧
      (library.Documented →
        (copy_.isConnected = true → source.session = false ∧ true ∈ granted) ∧
          session = (source.session || granted.contains true)) := by
  have owns := owns_of_run run
  obtain ⟨valid, performed⟩ := step
  cases event with
  | assign into from_ answer =>
      obtain ⟨rfl, rfl, rfl⟩ := copies
      obtain ⟨conn, target⟩ := Option.ne_none_iff_exists'.mp valid.1
      have apart : into ≠ from_ := by
        intro same
        have undefined : self.perform library (.assign into from_ answer) = none := by
          rw [same]
          exact copy_self from_ answer self
        rw [undefined] at performed
        cases performed
      obtain ⟨⟨made, there, _, fresh⟩, stays, asked⟩ :=
        copy_outcome owns target given live apart performed
      refine ⟨made, _, _, there, fresh, stays, asked, rfl, ?_⟩
      intro documented
      simp only [documented.realConnect_eq]
      cases source.session <;> cases answer <;> decide
  | copyConstruct into from_ first second =>
      obtain ⟨rfl, rfl, rfl⟩ := copies
      have apart : into ≠ from_ := by
        intro same
        rw [← same, valid.1] at given
        cases given
      rw [perform, copyConstruct_eq given live] at performed
      obtain ⟨⟨made, there, _, fresh⟩, stays, asked⟩ :=
        copy_outcome (owns.cloned library valid.1 live first)
          (cloned_self library into rhs source first self)
          ((cloned_other library apart rhs source first self).trans given)
          (cloned_source library owns given source into first) apart performed
      refine ⟨made, _, _, there, fresh, stays, asked, rfl, ?_⟩
      intro documented
      simp only [documented.realConnect_eq]
      cases source.session <;> cases first <;> cases second <;> decide
  | construct into te => cases copies
  | constructConnected into answers => cases copies
  | connect into answers => cases copies
  | disconnect into => cases copies
  | destroy into => cases copies

/-- The first of the two clones has got the session, and the second is the copy's. -/
theorem copies_without_session_closed :
    ∃ after made copy_,
      Step documentedLibrary (initial.construct 0 true) (.copyConstruct 1 0 true true) after ∧
        after.conns 1 = some made ∧ after.drivers made.driver = some copy_ ∧
        copy_.session = false ∧
        after.drivers 0 =
          some { isConnected := false, session := true, throwExceptions := true } := by
  have made : Step documentedLibrary initial (.construct 0 true) (initial.construct 0 true) :=
    ⟨rfl, rfl⟩
  have copies : Copies 1 0 [true, true] (.copyConstruct 1 0 true true) := ⟨rfl, rfl, rfl⟩
  obtain ⟨conn, copy_, session, there, fresh, _, original, closed, known⟩ :=
    copies_without_session (.single made) copies rfl rfl copiedClosed_step
  obtain ⟨_, same⟩ := known documented_documentedLibrary
  rw [same] at original
  exact ⟨copiedClosed, conn, copy_, copiedClosed_step, there, fresh, closed, original⟩

/-! ### Where flags and sessions part -/

/-- Every driver knows whether it has a session. -/
def Honest (self : Process) : Prop := ∀ p driver, self.drivers p = some driver → driver.Honest

theorem honest_setDriver_iff (honest : self.Honest) (p : DriverPtr) (driver : Driver) :
    (self.setDriver p driver).Honest ↔ driver.Honest := by
  constructor
  · intro after
    apply after p
    rw [setDriver_drivers, update_self]
  · intro this q other there
    rw [setDriver_drivers] at there
    by_cases here : q = p
    · rw [here, update_self] at there
      cases there
      exact this
    · rw [update_of_ne here] at there
      exact honest q other there

theorem honest_newDriver_iff (honest : self.Honest) (driver : Driver) :
    (self.newDriver driver).2.Honest ↔ driver.Honest :=
  honest_setDriver_iff honest self.next driver

theorem Honest.released (honest : self.Honest) (c : ConnPtr) (p : DriverPtr) (driver : Driver) :
    (self.released c p driver).Honest := by
  intro q other there
  rw [released_drivers] at there
  by_cases here : q = p
  · rw [here, update_self] at there
    cases there
  · rw [update_of_ne here] at there
    exact honest q other there

/-- The driver of a connection has no session. -/
def Closed (self : Process) (c : ConnPtr) : Prop :=
  ∃ conn driver, self.conns c = some conn ∧ self.drivers conn.driver = some driver ∧
    driver.session = false

/-- A connection is copied that has no session, and the server grants one. -/
def Spoils (self : Process) : Event → Prop
  | .construct _ _ | .constructConnected _ _ | .connect _ _ | .disconnect _ | .destroy _ => False
  | .copyConstruct _ other first second => self.Closed other ∧ (first = true ∨ second = true)
  | .assign _ rhs granted => self.Closed rhs ∧ granted = true

/-- Flags and sessions are still the same, and no session is lost. -/
def StaysHonest (before after : Process) : Prop := after.Honest ∧ after.lost = before.lost

theorem copy_honest_iff (documented : library.Documented) {other : ConnPtr} {rhs : Connection}
    {source : Driver} (owns : self.Owns) (honest : self.Honest) (given : self.conns c = some conn)
    (live : self.drivers conn.driver = some driver) (given' : self.conns other = some rhs)
    (live' : self.drivers rhs.driver = some source) (apart : c ≠ other) {granted : Bool}
    (copied : self.copy library c other granted = some after) :
    StaysHonest self after ↔ ¬ (source.session = false ∧ granted = true) := by
  have true_ : source.isConnected = source.session := honest rhs.driver source live'
  constructor
  · intro stays spoiled
    obtain ⟨_, _, asked⟩ := copy_outcome owns given given' live' apart copied
    rw [documented.realConnect_eq] at asked
    have same : source.isConnected = (source.session || granted) := stays.1 _ _ asked
    rw [true_, spoiled.1, spoiled.2] at same
    cases same
  · intro fine
    rw [copy_eq owns given live given' live' apart] at copied
    cases copied
    constructor
    · have gone := honest.released c conn.driver driver
      have refused := Driver.realConnect_refused documented fine
      have asked := (honest_setDriver_iff gone rhs.driver
        (source.realConnect library granted).2).mpr (by
          rw [refused]
          exact true_)
      apply (honest_newDriver_iff asked _).mpr
      rw [refused]
      rfl
    · have whole : driver.destruct.session = false := (honest _ driver live).destruct
      rw [setConn_lost, newDriver_lost, setDriver_lost, released_lost, whole]
      rfl

theorem closed_iff {other : ConnPtr} {rhs : Connection} {source : Driver}
    (given : self.conns other = some rhs) (live : self.drivers rhs.driver = some source) :
    self.Closed other ↔ source.session = false := by
  constructor
  · intro closed
    obtain ⟨conn, driver, given', live', none_⟩ := closed
    rw [given] at given'
    cases given'
    rw [live] at live'
    cases live'
    exact none_
  · intro none_
    exact ⟨rhs, source, given, live, none_⟩

/-- Where the constructor does not connect, the driver has no session that could be lost. -/
theorem staysHonest_constructConnected (documented : library.Documented) (honest : self.Honest)
    {c : ConnPtr} {answers : Answers}
    (performed : self.perform library (.constructConnected c answers) = some after) :
    StaysHonest self after := by
  rw [perform, constructConnected_eq] at performed
  cases performed
  have begins : (self.begun c).Honest := (honest_newDriver_iff honest _).mpr rfl
  have closed : (Driver.new true).Honest := rfl
  obtain ⟨parsed, granted⟩ := answers
  cases parsed with
  | false => exact ⟨begins.released c self.next _, rfl⟩
  | true =>
      rw [attempted, if_pos rfl, Driver.connect_of_honest documented closed]
      cases granted with
      | false => exact ⟨begins.released c self.next _, rfl⟩
      | true => exact ⟨(honest_setDriver_iff begins _ _).mpr rfl, rfl⟩

theorem staysHonest_copyConstruct_iff (documented : library.Documented) (owns : self.Owns)
    (honest : self.Honest) {c other : ConnPtr} {first second : Bool}
    (valid : self.Valid (.copyConstruct c other first second))
    (performed : self.perform library (.copyConstruct c other first second) = some after) :
    StaysHonest self after ↔ ¬ self.Spoils (.copyConstruct c other first second) := by
  obtain ⟨rhs, given⟩ := Option.ne_none_iff_exists'.mp valid.2
  obtain ⟨source, live⟩ := owns.live given
  have apart : c ≠ other := by
    intro same
    rw [← same, valid.1] at given
    cases given
  have known : source.isConnected = source.session := honest rhs.driver source live
  rw [perform, copyConstruct_eq given live] at performed
  have begins := owns.cloned library valid.1 live first
  have there := (cloned_other library apart rhs source first self).trans given
  have asked := cloned_source library owns given source c first
  rw [Spoils, closed_iff given live]
  by_cases spoiled : source.session = false ∧ first = true
  · refine iff_of_false ?_ (not_not_intro ⟨spoiled.1, .inl spoiled.2⟩)
    intro stays
    obtain ⟨_, _, original⟩ := copy_outcome begins
      (cloned_self library c rhs source first self) there asked apart performed
    have same := stays.1 _ _ original
    simp only [documented.realConnect_eq, Driver.Honest, known, spoiled.1, spoiled.2,
      Bool.false_or, Bool.true_or, Bool.false_eq_true] at same
  · have refused := Driver.realConnect_refused documented spoiled
    have honest' : (self.cloned library c rhs source first).Honest := by
      have asked' := (honest_setDriver_iff honest rhs.driver
        (source.realConnect library first).2).mpr (by
          rw [refused]
          exact known)
      apply (honest_newDriver_iff asked' _).mpr
      rw [refused]
      rfl
    have kept : (library.realConnect source.session first).2 = source.session :=
      congrArg (fun result => result.2.session) refused
    rw [kept] at asked
    obtain ⟨driver, live'⟩ := begins.live (cloned_self library c rhs source first self)
    have second_ := copy_honest_iff documented begins honest'
      (cloned_self library c rhs source first self) live' there asked apart performed
    have lost : (self.cloned library c rhs source first).lost = self.lost := rfl
    rw [StaysHonest, ← lost, ← StaysHonest, second_]
    apply not_congr
    constructor
    · intro both
      exact ⟨both.1, .inr both.2⟩
    · intro either
      obtain ⟨none_, yes | yes⟩ := either
      · exact absurd ⟨none_, yes⟩ spoiled
      · exact ⟨none_, yes⟩

/-- What one event does to flags and sessions that are the same. -/
theorem staysHonest_iff (documented : library.Documented) (owns : self.Owns)
    (honest : self.Honest) {event : Event} (step : Step library self event after) :
    StaysHonest self after ↔ ¬ self.Spoils event := by
  obtain ⟨valid, performed⟩ := step
  cases event with
  | construct c te =>
      cases performed
      refine iff_of_true ⟨?_, rfl⟩ id
      exact (honest_newDriver_iff honest _).mpr rfl
  | constructConnected c answers =>
      exact iff_of_true (staysHonest_constructConnected documented honest performed) id
  | connect c answers =>
      obtain ⟨conn, given⟩ := Option.ne_none_iff_exists'.mp valid
      obtain ⟨driver, live⟩ := owns.live given
      have known := honest conn.driver driver live
      rw [perform, connect_eq given live] at performed
      by_cases parsed : answers.parsed = true
      · rw [if_pos parsed] at performed
        cases performed
        refine iff_of_true ⟨?_, rfl⟩ id
        apply (honest_setDriver_iff honest _ _).mpr
        exact Driver.connect_honest documented known answers.granted
      · rw [if_neg parsed] at performed
        cases performed
        exact iff_of_true ⟨honest, rfl⟩ id
  | disconnect c =>
      obtain ⟨conn, given⟩ := Option.ne_none_iff_exists'.mp valid
      obtain ⟨driver, live⟩ := owns.live given
      rw [perform, disconnect_eq given live] at performed
      cases performed
      refine iff_of_true ⟨?_, rfl⟩ id
      apply (honest_setDriver_iff honest _ _).mpr
      exact Driver.disconnect_honest (honest conn.driver driver live)
  | copyConstruct c other first second =>
      exact staysHonest_copyConstruct_iff documented owns honest valid performed
  | assign c rhs granted =>
      obtain ⟨conn, given⟩ := Option.ne_none_iff_exists'.mp valid.1
      obtain ⟨other, given'⟩ := Option.ne_none_iff_exists'.mp valid.2
      obtain ⟨driver, live⟩ := owns.live given
      obtain ⟨source, live'⟩ := owns.live given'
      have apart : c ≠ rhs := by
        intro same
        have undefined : self.perform library (.assign c rhs granted) = none := by
          rw [same]
          exact copy_self rhs granted self
        rw [undefined] at performed
        cases performed
      rw [copy_honest_iff documented owns honest given live given' live' apart performed, Spoils,
        closed_iff given' live']
  | destroy c =>
      obtain ⟨conn, given⟩ := Option.ne_none_iff_exists'.mp valid
      obtain ⟨driver, live⟩ := owns.live given
      have known := Driver.disconnect_honest (honest conn.driver driver live)
      rw [perform, destroy_eq given live] at performed
      cases performed
      refine iff_of_true ⟨honest.released c conn.driver _, ?_⟩ id
      rw [released_lost, known.destruct]
      rfl

theorem step_unique {event : Event} {other : Process} (first : Step library self event after)
    (second : Step library self event other) : after = other :=
  Option.some.inj (first.2.symm.trans second.2)

theorem staysHonest_of_run_iff (documented : library.Documented) {events : List Event}
    (owns : self.Owns) (honest : self.Honest) (run : Run (Step library) self events after) :
    Run (fun before event next => Step library before event next ∧ StaysHonest before next) self
        events after ↔
      Run (fun before event next => Step library before event next ∧ ¬ before.Spoils event) self
        events after := by
  induction run with
  | nil state => exact iff_of_true (.nil state) (.nil state)
  | @cons before middle last event events first rest ih =>
      have kept := owns_of_step owns first
      have first_ := staysHonest_iff documented owns honest first
      constructor
      · intro stays
        cases stays with
        | @cons _ other _ _ _ step later =>
            obtain ⟨taken, same⟩ := step
            have here := step_unique first taken
            subst here
            exact .cons ⟨first, first_.mp same⟩ ((ih kept same.1).mp later)
      · intro fine
        cases fine with
        | @cons _ other _ _ _ step later =>
            obtain ⟨taken, unspoiled⟩ := step
            have here := step_unique first taken
            subst here
            have same := first_.mpr unspoiled
            exact .cons ⟨first, same⟩ ((ih kept same.1).mpr later)

/-- In a run every driver knows at all times whether it has a session, and no session is
lost with a driver, if and only if no event copies a connection without a session while the
server grants one. -/
theorem run_honest_iff (documented : library.Documented) {events : List Event}
    (run : Run (Step library) initial events self) :
    Run (fun before event after => Step library before event after ∧ StaysHonest before after)
        initial events self ↔
      Run (fun before event after => Step library before event after ∧ ¬ before.Spoils event)
        initial events self := by
  apply staysHonest_of_run_iff documented owns_initial _ run
  intro p driver impossible
  cases impossible

/-- A run that connects, and one that copies a connection that is not connected. -/
theorem run_honest_iff_connect :
    (∃ self, Run (fun before event after =>
        Step documentedLibrary before event after ∧ StaysHonest before after)
      initial [.construct 0 true, .connect 0 allWell, .copyConstruct 1 0 true true] self) ∧
      ¬ Run (fun before event after =>
        Step documentedLibrary before event after ∧ StaysHonest before after)
      initial [.construct 0 true, .copyConstruct 1 0 true true] copiedClosed := by
  let connected := ((initial.construct 0 true).perform documentedLibrary
    (.connect 0 allWell)).getD initial
  have made : Step documentedLibrary initial (.construct 0 true) (initial.construct 0 true) :=
    ⟨rfl, rfl⟩
  have tried : Step documentedLibrary (initial.construct 0 true) (.connect 0 allWell) connected :=
    ⟨Option.some_ne_none _, rfl⟩
  have copied : Step documentedLibrary connected (.copyConstruct 1 0 true true)
      ((connected.copyConstruct documentedLibrary 1 0 true true).getD initial) :=
    ⟨⟨rfl, Option.some_ne_none _⟩, rfl⟩
  constructor
  · have run := Run.cons made (.cons tried (.single copied))
    refine ⟨_, (run_honest_iff documented_documentedLibrary run).mpr ?_⟩
    apply Run.cons ⟨made, id⟩
    apply Run.cons ⟨tried, id⟩
    apply Run.single
    refine ⟨copied, ?_⟩
    intro spoiled
    obtain ⟨⟨conn, driver, given, live, closed⟩, _⟩ := spoiled
    cases given
    cases live
    cases closed
  · intro honest
    have spared := (run_honest_iff documented_documentedLibrary copiedClosed_run).mp honest
    cases spared with
    | cons first rest =>
        cases rest with
        | cons second last =>
            obtain rfl := step_unique made first.1
            exact second.2 ⟨⟨_, _, rfl, rfl, rfl⟩, .inl rfl⟩

end Process

end LibTabula.ConnectionLifetimes
