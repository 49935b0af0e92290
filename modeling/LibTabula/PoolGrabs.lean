/-
What `grab()` and `safe_grab()` choose.

A grab drops the free connections that have been idle for too long, then hands
out the newest of the free ones that are left, or creates one. `safe_grab()`
repeats it until a connection answers its ping; each round that fails has used
up a free connection, which bounds the loop.
-/

import LibTabula.PoolClients

set_option autoImplicit false

namespace LibTabula

open Foundation

namespace ConnectionPool

/-! ### One grab -/

/-- Free, and last used at least `max_idle_time()` seconds ago. -/
def Stale (input : GrabInput) (info : ConnectionInfo) : Prop :=
  info.inUse = false ∧ (input.maxIdleTime : Int) ≤ input.now - info.lastUsed

instance (input : GrabInput) (info : ConnectionInfo) : Decidable (Stale input info) :=
  inferInstanceAs (Decidable (_ ∧ _))

def stale (self : ConnectionPool) (input : GrabInput) : List ConnectionInfo :=
  self.pool.filter (fun info => Stale input info)

def survivors (self : ConnectionPool) (input : GrabInput) : List ConnectionInfo :=
  self.pool.filter (fun info => ¬ Stale input info)

theorem tooOld_eq (input : GrabInput) (info : ConnectionInfo) :
    ConnectionInfo.tooOld (input.now - input.maxIdleTime) info =
      decide (Stale input info) := by
  rw [Bool.eq_iff_iff]
  simp only [ConnectionInfo.tooOld, Bool.and_eq_true, Bool.not_eq_true', decide_eq_true_iff]
  constructor
  · intro old
    exact ⟨old.1, by omega⟩
  · intro isStale
    exact ⟨isStale.1, by have idle := isStale.2; omega⟩

theorem expired_eq (self : ConnectionPool) (input : GrabInput) :
    self.expired input =
      { pool := self.survivors input
        created := self.created
        destroyed := self.destroyed ++ (self.stale input).map ConnectionInfo.conn } := by
  have same : ConnectionInfo.tooOld (input.now - input.maxIdleTime) =
      fun info => decide (Stale input info) :=
    funext (tooOld_eq input)
  rw [expired, removeOldConnections_eq, same]
  simp only [survivors, stale, decide_not]

theorem survivors_sublist (self : ConnectionPool) (input : GrabInput) :
    (self.survivors input).Sublist self.pool :=
  List.filter_sublist

theorem filter_inUse_sublist_survivors (self : ConnectionPool) (input : GrabInput) :
    (self.pool.filter ConnectionInfo.inUse).Sublist (self.survivors input) := by
  apply List.monotone_filter_right
  intro info used
  simp [Stale, used]

/-- Nothing above a free connection: no free one was used more recently. -/
theorem lastUsed_le_of_lt_eq_false {info other : ConnectionInfo} (free : info.inUse = false)
    (otherFree : other.inUse = false) (notAbove : ConnectionInfo.lt info other = false) :
    other.lastUsed ≤ info.lastUsed := by
  simp only [ConnectionInfo.lt, free, otherFree, if_true, decide_eq_false_iff_not,
    Int.not_lt] at notAbove
  exact notAbove

/-- A free survivor that no other free survivor was used after, with the
survivors on its two sides. -/
structure Newest (survivors front : List ConnectionInfo) (info : ConnectionInfo)
    (back : List ConnectionInfo) : Prop where
  shape : survivors = front ++ info :: back
  free : info.inUse = false
  newest : ∀ other ∈ survivors, other.inUse = false → other.lastUsed ≤ info.lastUsed

/-- The pool after the node between `front` and `back` was marked. -/
def handOut (self : ConnectionPool) (input : GrabInput) (front : List ConnectionInfo)
    (info : ConnectionInfo) (back : List ConnectionInfo) : ConnectionPool :=
  { self.expired input with pool := front ++ { info with inUse := true } :: back }

theorem handOut_created (self : ConnectionPool) (input : GrabInput)
    (front : List ConnectionInfo) (info : ConnectionInfo) (back : List ConnectionInfo) :
    (self.handOut input front info back).created = self.created := by
  rw [handOut, expired_eq]

theorem grab_outcome (self : ConnectionPool) (input : GrabInput)
    (objects : 0 ∉ self.pointers) :
    (∃ front info back, Newest (self.survivors input) front info back ∧
        self.grab input = (some info.conn, self.handOut input front info back)) ∨
      ((∀ info ∈ self.survivors input, info.inUse = true) ∧
        ((∃ conn, input.create = some conn ∧
            self.grab input =
              (some conn,
                { self.expired input with
                  pool := self.survivors input ++ [ConnectionInfo.new conn input.stamp]
                  created := self.created ++ [conn] })) ∨
          (input.create = none ∧ self.grab input = (none, self.expired input)))) := by
  have left_ : (self.expired input).pool = self.survivors input := by rw [expired_eq]
  have stillObjects : 0 ∉ (self.expired input).pointers := fun member =>
    objects ((pointers_expired_sublist self input).mem member)
  rcases grab_cases self input with
    ⟨front, info, back, shape, free, _, top, handed⟩ | ⟨nothing, throws, thrown⟩ |
      ⟨conn, nothing, creates, made⟩
  · refine Or.inl ⟨front, info, back, ⟨left_ ▸ shape, free, ?_⟩, handed⟩
    intro other member otherFree
    exact lastUsed_le_of_lt_eq_false free otherFree (top other (left_ ▸ member))
  · obtain ⟨used, unmarked⟩ := inUse_of_findMru_eq_zero stillObjects nothing
    rw [unmarked] at thrown
    exact Or.inr ⟨left_ ▸ used, Or.inr ⟨throws, thrown⟩⟩
  · obtain ⟨used, unmarked⟩ := inUse_of_findMru_eq_zero stillObjects nothing
    refine Or.inr ⟨left_ ▸ used, Or.inl ⟨conn, creates, ?_⟩⟩
    rw [made, unmarked, left_]
    rw [expired_eq]

/-- For every pool of connection objects, every clock reading and every answer of
`max_idle_time()` and `create()`. That the pool holds objects is what `create()`
promises ("a connected Connection object") and every operation keeps. -/
theorem grab_selects (self : ConnectionPool) (input : GrabInput)
    (objects : 0 ∉ self.pointers) :
    (self.grab input).2.destroyed =
        self.destroyed ++ (self.stale input).map ConnectionInfo.conn ∧
      ((∃ info ∈ self.survivors input, info.inUse = false) →
        ∃ front info back, Newest (self.survivors input) front info back ∧
          (self.grab input).1 = some info.conn ∧
          (self.grab input).2.pool = front ++ { info with inUse := true } :: back ∧
          (self.grab input).2.created = self.created) ∧
      ((∀ info ∈ self.survivors input, info.inUse = true) →
        (∀ conn, input.create = some conn →
          (self.grab input).1 = some conn ∧
            (self.grab input).2.pool =
              self.survivors input ++ [ConnectionInfo.new conn input.stamp] ∧
            (self.grab input).2.created = self.created ++ [conn]) ∧
        (input.create = none →
          (self.grab input).1 = none ∧
            (self.grab input).2.pool = self.survivors input ∧
            (self.grab input).2.created = self.created)) := by
  rcases grab_outcome self input objects with
    ⟨front, info, back, selected, handed⟩ | ⟨used, outcome⟩
  · rw [handed, handOut, expired_eq]
    refine ⟨rfl, fun _ => ⟨front, info, back, selected, rfl, rfl, rfl⟩, fun used => ?_⟩
    have inUse := used info (by rw [selected.shape]; simp)
    rw [selected.free] at inUse
    exact absurd inUse Bool.false_ne_true
  · have noneFree : ¬ ∃ info ∈ self.survivors input, info.inUse = false := by
      intro found
      obtain ⟨info, member, free⟩ := found
      rw [used info member] at free
      exact absurd free.symm Bool.false_ne_true
    rcases outcome with ⟨conn, creates, made⟩ | ⟨throws, thrown⟩
    · rw [made, expired_eq]
      refine ⟨rfl, fun free => absurd free noneFree, fun _ => ⟨?_, ?_⟩⟩
      · intro other createsOther
        have same : other = conn := Option.some.inj (createsOther.symm.trans creates)
        subst same
        exact ⟨rfl, rfl, rfl⟩
      · intro throws
        rw [throws] at creates
        cases creates
    · rw [thrown, expired_eq]
      refine ⟨rfl, fun free => absurd free noneFree, fun _ => ⟨?_, ?_⟩⟩
      · intro conn creates
        rw [throws] at creates
        cases creates
      · intro _
        exact ⟨rfl, rfl, rfl⟩

/-- A stale connection that is in use, a stale free one, and two free ones of
which the older stands first. -/
def mixedPool : ConnectionPool :=
  { pool :=
      [{ conn := 1, lastUsed := 0, inUse := true },
        { conn := 2, lastUsed := 10, inUse := false },
        { conn := 3, lastUsed := 95, inUse := false },
        { conn := 4, lastUsed := 99, inUse := false }]
    created := [1, 2, 3, 4]
    destroyed := [] }

def mixedGrab : GrabInput := { now := 100, maxIdleTime := 60, create := some 5, stamp := 100 }

theorem grab_selects_mixedPool :
    (mixedPool.grab mixedGrab).2.destroyed = [2] ∧
      ∃ front info back, Newest (mixedPool.survivors mixedGrab) front info back ∧
        (mixedPool.grab mixedGrab).1 = some info.conn ∧
        (mixedPool.grab mixedGrab).2.pool = front ++ { info with inUse := true } :: back ∧
        (mixedPool.grab mixedGrab).2.created = mixedPool.created :=
  ⟨(grab_selects mixedPool mixedGrab (by decide)).1.trans (by decide),
    (grab_selects mixedPool mixedGrab (by decide)).2.1 (by decide)⟩

/-! ### Grabbing until one answers -/

def freeCount (self : ConnectionPool) : Nat :=
  self.pool.countP (fun info => !info.inUse)

/-- The rounds of `safe_grab()` when nobody else uses the pool: a connection that
was just created answers, an older one as `ping` says. -/
def answers (ping : ConnectionPtr → Bool) (self : ConnectionPool) :
    List GrabInput → List (GrabInput × Bool)
  | [] => []
  | input :: later =>
      match self.grab input with
      | (none, _) => [(input, true)]
      | (some pc, grabbed) =>
          (input, grabbed.created != self.created || ping pc) ::
            (grabbed.remove pc).answers ping later

/-- The connections of the rounds that did not answer. -/
def failedPings (self : ConnectionPool) : List (GrabInput × Bool) → List ConnectionPtr
  | [] => []
  | (input, ping) :: rounds =>
      match self.grab input with
      | (none, _) => []
      | (some pc, grabbed) =>
          if ping then [] else pc :: (grabbed.remove pc).failedPings rounds

/-- `kept` is what is left of the nodes that `before` had: all that were in use, as
they were, and none whose connection was destroyed. -/
structure Kept (before after : ConnectionPool) (kept : List ConnectionInfo)
    (failed : List ConnectionPtr) : Prop where
  sublist : kept.Sublist before.pool
  inUse : (before.pool.filter ConnectionInfo.inUse).Sublist kept
  destroyed : ∃ gone, after.destroyed = before.destroyed ++ gone ∧
    (∀ conn ∈ gone, conn ∉ kept.map ConnectionInfo.conn ∧
      ∃ info ∈ before.pool, info.conn = conn ∧ info.inUse = false) ∧
    ∀ conn ∈ failed, conn ∈ gone

theorem Kept.trans {self middle after : ConnectionPool} {kept : List ConnectionInfo}
    {early late : List ConnectionPtr} (first : Kept self middle middle.pool early)
    (second : Kept middle after kept late) : Kept self after kept (early ++ late) where
  sublist := second.sublist.trans first.sublist
  inUse := by
    have used : (middle.pool.filter ConnectionInfo.inUse).Sublist kept := second.inUse
    have still := first.inUse.filter ConnectionInfo.inUse
    rw [List.filter_filter] at still
    simp only [Bool.and_self] at still
    exact still.trans used
  destroyed := by
    obtain ⟨gone, grown, free, failed⟩ := first.destroyed
    obtain ⟨later, laterGrown, laterFree, laterFailed⟩ := second.destroyed
    refine ⟨gone ++ later, ?_, ?_, ?_⟩
    · rw [laterGrown, grown, List.append_assoc]
    · intro conn member
      rcases List.mem_append.mp member with early_ | late_
      · obtain ⟨absent, witness⟩ := free conn early_
        exact ⟨fun present => absent ((second.sublist.map _).mem present), witness⟩
      · obtain ⟨absent, info, pooled, same, unused⟩ := laterFree conn late_
        exact ⟨absent, info, first.sublist.mem pooled, same, unused⟩
    · intro conn member
      rcases List.mem_append.mp member with early_ | late_
      · exact List.mem_append_left _ (failed conn early_)
      · exact List.mem_append_right _ (laterFailed conn late_)

theorem Kept.expired {self : ConnectionPool} (distinct : self.pointers.Nodup)
    (input : GrabInput) : Kept self (self.expired input) (self.survivors input) [] where
  sublist := survivors_sublist self input
  inUse := filter_inUse_sublist_survivors self input
  destroyed := by
    refine ⟨(self.stale input).map ConnectionInfo.conn, by rw [expired_eq], ?_, ?_⟩
    · intro conn member
      obtain ⟨info, swept, rfl⟩ := List.mem_map.mp member
      obtain ⟨pooled, isStale⟩ := List.mem_filter.mp swept
      have old : Stale input info := of_decide_eq_true isStale
      refine ⟨?_, info, pooled, rfl, old.1⟩
      intro surviving
      obtain ⟨other, survivor, same⟩ := List.mem_map.mp surviving
      obtain ⟨otherPooled, notStale⟩ := List.mem_filter.mp survivor
      have equal : other = info := List.inj_on_of_nodup_map distinct otherPooled pooled same
      rw [equal] at notStale
      exact of_decide_eq_true notStale old
    · intro conn impossible
      cases impossible

theorem Newest.beside_sublist {survivors front back : List ConnectionInfo}
    {info : ConnectionInfo} (selected : Newest survivors front info back) :
    (front ++ back).Sublist survivors := by
  rw [selected.shape]
  exact (List.sublist_cons_self info back).append_left front

theorem Newest.filter_inUse {survivors front back : List ConnectionInfo}
    {info : ConnectionInfo} (selected : Newest survivors front info back) :
    (front ++ back).filter ConnectionInfo.inUse = survivors.filter ConnectionInfo.inUse := by
  rw [selected.shape, List.filter_append, List.filter_append,
    List.filter_cons_of_neg (by simp [selected.free])]

theorem Newest.not_mem_beside {survivors front back : List ConnectionInfo}
    {info : ConnectionInfo} (selected : Newest survivors front info back)
    (distinct : (survivors.map ConnectionInfo.conn).Nodup) :
    info.conn ∉ (front ++ back).map ConnectionInfo.conn := by
  rw [selected.shape, List.map_append, List.map_cons, List.nodup_middle, List.nodup_cons]
    at distinct
  rw [List.map_append]
  exact distinct.1

/-- The survivors beside the one that is handed out hold all that was in use;
that one may be destroyed after the stale ones. -/
theorem Kept.selected {self after : ConnectionPool} {input : GrabInput}
    {front back : List ConnectionInfo} {info : ConnectionInfo} {failed : List ConnectionPtr}
    (distinct : self.pointers.Nodup) (selected : Newest (self.survivors input) front info back)
    (destroyed : after.destroyed = (self.expired input).destroyed ++ failed)
    (only : ∀ conn ∈ failed, conn = info.conn) :
    Kept self after (front ++ back) failed where
  sublist := selected.beside_sublist.trans (survivors_sublist self input)
  inUse := by
    have used := (filter_inUse_sublist_survivors self input).filter ConnectionInfo.inUse
    rw [List.filter_filter, ← selected.filter_inUse] at used
    simp only [Bool.and_self] at used
    exact used.trans List.filter_sublist
  destroyed := by
    obtain ⟨gone, grown, free, _⟩ := (Kept.expired distinct input).destroyed
    refine ⟨gone ++ failed, by rw [destroyed, grown, List.append_assoc], ?_, ?_⟩
    · intro conn member
      rcases List.mem_append.mp member with stale_ | tried
      · obtain ⟨absent, witness⟩ := free conn stale_
        exact ⟨fun present => absent ((selected.beside_sublist.map _).mem present), witness⟩
      · have same := only conn tried
        subst same
        refine ⟨selected.not_mem_beside ?_, info, ?_, rfl, selected.free⟩
        · exact distinct.sublist ((survivors_sublist self input).map ConnectionInfo.conn)
        · exact (survivors_sublist self input).mem (by rw [selected.shape]; simp)
    · intro conn tried
      exact List.mem_append_right gone tried

theorem remove_of_shape {self : ConnectionPool} {front back : List ConnectionInfo}
    {info : ConnectionInfo} (shape : self.pool = front ++ info :: back)
    (distinct : self.pointers.Nodup) :
    self.remove info.conn =
      { self with pool := front ++ back, destroyed := self.destroyed ++ [info.conn] } := by
  rcases remove_cases self info.conn with
    ⟨absent, _⟩ | ⟨before, found, after, atFound, same, _, removed⟩
  · exact absurd (by simp [pointers, shape]) absent
  · have equal : found = info :=
      List.inj_on_of_nodup_map distinct (by simp [atFound]) (by simp [shape]) same
    subst equal
    have nodes : self.pool.Nodup := List.Nodup.of_map ConnectionInfo.conn distinct
    rw [atFound, List.nodup_middle, List.nodup_cons, List.mem_append, not_or] at nodes
    obtain ⟨sameFront, _, sameBack⟩ :=
      (List.append_cons_inj_of_notMem nodes.1.1 nodes.1.2).mp (atFound.symm.trans shape)
    rw [removed, sameFront, sameBack]

/-- The round that fails: the newest free survivor leaves the pool, and with it a
free connection. -/
theorem remove_marked {self : ConnectionPool} {input : GrabInput}
    {front back : List ConnectionInfo} {info : ConnectionInfo}
    (distinct : self.pointers.Nodup)
    (selected : Newest (self.survivors input) front info back) :
    ∃ after,
      (self.handOut input front info back).remove info.conn = after ∧
        after.pool = front ++ back ∧ after.created = self.created ∧
        Kept self after after.pool [info.conn] ∧ after.freeCount < self.freeCount := by
  have left_ := survivors_sublist self input
  have apart : ((front ++ info :: back).map ConnectionInfo.conn).Nodup := by
    rw [← selected.shape]
    exact distinct.sublist (left_.map ConnectionInfo.conn)
  have removed := remove_of_shape
    (show (self.handOut input front info back).pool =
      front ++ ({ info with inUse := true } : ConnectionInfo) :: back from rfl)
    (by simpa only [handOut, pointers, List.map_append, List.map_cons] using apart)
  refine ⟨_, removed, rfl, handOut_created self input front info back, ?_, ?_⟩
  · exact Kept.selected distinct selected rfl (fun conn tried => List.mem_singleton.mp tried)
  · have fewer : (self.survivors input).countP (fun info => !info.inUse) ≤ self.freeCount :=
      left_.countP_le
    rw [selected.shape, List.countP_append,
      List.countP_cons_of_pos (by simp [selected.free])] at fewer
    simp only [freeCount, List.countP_append]
    simp only [freeCount] at fewer
    omega

/-- The entry of the connection that was returned, in the pool it was returned
from: in use, and either an old connection that answered or the one new one. -/
structure Obtained (ping : ConnectionPtr → Bool) (before after : ConnectionPool)
    (failed : List ConnectionPtr) (front : List ConnectionInfo) (entry : ConnectionInfo)
    (back : List ConnectionInfo) : Prop where
  shape : after.pool = front ++ entry :: back
  inUse : entry.inUse = true
  answered :
    (entry.conn ∈ before.pointers ∧ ping entry.conn = true ∧ after.created = before.created) ∨
      after.created = before.created ++ [entry.conn]
  kept : Kept before after (front ++ back) failed

theorem Obtained.after {ping : ConnectionPtr → Bool} {before middle after : ConnectionPool}
    {early late : List ConnectionPtr} {front back : List ConnectionInfo}
    {entry : ConnectionInfo} (first : Kept before middle middle.pool early)
    (created : middle.created = before.created)
    (obtained : Obtained ping middle after late front entry back) :
    Obtained ping before after (early ++ late) front entry back where
  shape := obtained.shape
  inUse := obtained.inUse
  answered := by
    rw [← created]
    rcases obtained.answered with ⟨member, answers, same⟩ | made
    · exact Or.inl ⟨(first.sublist.map ConnectionInfo.conn).mem member, answers, same⟩
    · exact Or.inr made
  kept := first.trans obtained.kept

/-- What a `safe_grab()` has done when it is over: returned a connection, or passed
on what `create()` threw. -/
inductive Finished (ping : ConnectionPtr → Bool) (before after : ConnectionPool)
    (inputs : List GrabInput) (failed : List ConnectionPtr) : Option ConnectionPtr → Prop
  | obtained {front back : List ConnectionInfo} {entry : ConnectionInfo} {pc : ConnectionPtr}
      (returned : Obtained ping before after failed front entry back)
      (same : entry.conn = pc) :
      Finished ping before after inputs failed (some pc)
  | thrown {input : GrabInput} (read : input ∈ inputs) (throws : input.create = none)
      (kept : Kept before after after.pool failed) :
      Finished ping before after inputs failed none

theorem Finished.after {ping : ConnectionPtr → Bool} {before middle after : ConnectionPool}
    {input : GrabInput} {inputs : List GrabInput} {early late : List ConnectionPtr}
    {result : Option ConnectionPtr} (first : Kept before middle middle.pool early)
    (created : middle.created = before.created)
    (finished : Finished ping middle after inputs late result) :
    Finished ping before after (input :: inputs) (early ++ late) result := by
  cases finished with
  | obtained returned same => exact .obtained (returned.after first created) same
  | thrown read throws kept =>
      exact .thrown (List.mem_cons_of_mem input read) throws (first.trans kept)

/-! One round of the loop, by what it read. -/

section Round

variable (ping : ConnectionPtr → Bool) {self : ConnectionPool} {input : GrabInput}

theorem safeGrab_answered {pc : ConnectionPtr} {grabbed : ConnectionPool}
    (returned : self.grab input = (some pc, grabbed))
    (answer : (grabbed.created != self.created || ping pc) = true) (later : List GrabInput) :
    self.safeGrab (self.answers ping (input :: later)) = (some pc, grabbed) ∧
      self.failedPings (self.answers ping (input :: later)) = [] := by
  simp only [answers, safeGrab, failedPings, returned, answer, if_true, and_self]

theorem safeGrab_unanswered {pc : ConnectionPtr} {grabbed : ConnectionPool}
    (returned : self.grab input = (some pc, grabbed))
    (answer : (grabbed.created != self.created || ping pc) = false) (later : List GrabInput) :
    self.safeGrab (self.answers ping (input :: later)) =
        (grabbed.remove pc).safeGrab ((grabbed.remove pc).answers ping later) ∧
      self.failedPings (self.answers ping (input :: later)) =
        pc :: (grabbed.remove pc).failedPings ((grabbed.remove pc).answers ping later) := by
  simp only [answers, safeGrab, failedPings, returned, answer, Bool.false_eq_true, if_false,
    and_self]

theorem safeGrab_thrown {thrown : ConnectionPool} (returned : self.grab input = (none, thrown))
    (later : List GrabInput) :
    self.safeGrab (self.answers ping (input :: later)) = (none, thrown) ∧
      self.failedPings (self.answers ping (input :: later)) = [] := by
  simp only [answers, safeGrab, failedPings, returned, and_self]

end Round

/-- What a round that ends the loop has done. -/
def Ends (ping : ConnectionPtr → Bool) (self : ConnectionPool) (input : GrabInput) : Prop :=
  ∃ result after, ∀ later,
    (self.safeGrab (self.answers ping (input :: later)) = (result, after) ∧
      self.failedPings (self.answers ping (input :: later)) = []) ∧
    Finished ping self after (input :: later) [] result

/-- What a round that fails has done: a free connection is gone. -/
def GoesOn (ping : ConnectionPtr → Bool) (self : ConnectionPool) (input : GrabInput) : Prop :=
  ∃ pc after, (∀ later,
      self.safeGrab (self.answers ping (input :: later)) =
          after.safeGrab (after.answers ping later) ∧
        self.failedPings (self.answers ping (input :: later)) =
          pc :: after.failedPings (after.answers ping later)) ∧
    Kept self after after.pool [pc] ∧ after.created = self.created ∧
    after.freeCount < self.freeCount

theorem safeGrab_round (ping : ConnectionPtr → Bool) (self : ConnectionPool)
    (input : GrabInput) (distinct : self.pointers.Nodup) (objects : 0 ∉ self.pointers) :
    Ends ping self input ∨ GoesOn ping self input := by
  rcases grab_outcome self input objects with
    ⟨front, info, back, selected, handed⟩ | ⟨_, ⟨conn, _, made⟩ | ⟨throws, thrown⟩⟩
  · have created := handOut_created self input front info back
    cases answer : ping info.conn with
    | true =>
        have member : info.conn ∈ self.pointers :=
          ((selected.shape ▸ survivors_sublist self input).map ConnectionInfo.conn).mem (by simp)
        have returned : Obtained ping self (self.handOut input front info back) [] front
            { info with inUse := true } back :=
          { shape := rfl
            inUse := rfl
            answered := Or.inl ⟨member, answer, created⟩
            kept := Kept.selected distinct selected (List.append_nil _).symm
              (fun _ impossible => nomatch impossible) }
        refine Or.inl ⟨some info.conn, self.handOut input front info back, fun later =>
          ⟨?_, ?_⟩⟩
        · exact safeGrab_answered ping handed (by simp [answer]) later
        · exact Finished.obtained returned rfl
    | false =>
        obtain ⟨after, removed, left_, sameCreated, kept, fewer⟩ :=
          remove_marked distinct selected
        refine Or.inr ⟨info.conn, after, fun later => ?_, kept, sameCreated, fewer⟩
        rw [← removed]
        exact safeGrab_unanswered ping handed (by simp [answer, created]) later
  · have returned : Obtained ping self
        { self.expired input with
          pool := self.survivors input ++ [ConnectionInfo.new conn input.stamp]
          created := self.created ++ [conn] }
        [] (self.survivors input) (ConnectionInfo.new conn input.stamp) [] :=
      { shape := rfl
        inUse := rfl
        answered := Or.inr rfl
        kept := by
          rw [List.append_nil]
          have kept := Kept.expired distinct input
          exact ⟨kept.sublist, kept.inUse, kept.destroyed⟩ }
    refine Or.inl ⟨some conn, _, fun later => ⟨?_, .obtained returned rfl⟩⟩
    exact safeGrab_answered ping made (by simp) later
  · have kept : Kept self (self.expired input) (self.expired input).pool [] := by
      have survived : (self.expired input).pool = self.survivors input := by rw [expired_eq]
      rw [survived]
      exact Kept.expired distinct input
    refine Or.inl ⟨none, _, fun later => ⟨?_, .thrown List.mem_cons_self throws kept⟩⟩
    exact safeGrab_thrown ping thrown later

/-- Induction on what the grabs read: a round that goes on leaves fewer free
connections than are still needed. -/
theorem safeGrab_finishes (ping : ConnectionPtr → Bool) (inputs : List GrabInput) :
    ∀ self : ConnectionPool, self.pointers.Nodup → 0 ∉ self.pointers →
      self.freeCount < inputs.length →
      (∀ later, self.safeGrab (self.answers ping (inputs ++ later)) =
          self.safeGrab (self.answers ping inputs)) ∧
        Finished ping self (self.safeGrab (self.answers ping inputs)).2 inputs
          (self.failedPings (self.answers ping inputs))
          (self.safeGrab (self.answers ping inputs)).1 := by
  induction inputs with
  | nil =>
      intro self _ _ enough
      exact absurd enough (Nat.not_lt_zero _)
  | cons input inputs ih =>
      intro self distinct objects enough
      rcases safeGrab_round ping self input distinct objects with
        ⟨result, after, ended⟩ | ⟨pc, after, round, kept, created, fewer⟩
      · obtain ⟨⟨outcome, failed⟩, finished⟩ := ended inputs
        constructor
        · intro later
          rw [List.cons_append, (ended (inputs ++ later)).1.1, outcome]
        · rw [outcome, failed]
          exact finished
      · have stillEnough : after.freeCount < inputs.length := by
          rw [List.length_cons] at enough
          omega
        have smaller : after.pointers.Sublist self.pointers :=
          kept.sublist.map ConnectionInfo.conn
        obtain ⟨same, finished⟩ := ih after (distinct.sublist smaller)
          (fun member => objects (smaller.mem member)) stillEnough
        constructor
        · intro later
          rw [List.cons_append, (round (inputs ++ later)).1, (round inputs).1, same later]
        · rw [(round inputs).1, (round inputs).2]
          exact finished.after kept created

/-- For every pool of distinct connection objects, every assignment of answers to
them and every sequence of clock readings, policies and results of `create()`: what
`free + 1` grabs read decides the outcome, and nothing beyond is read. -/
theorem safeGrab_terminates (ping : ConnectionPtr → Bool) (self : ConnectionPool)
    (distinct : self.pointers.Nodup) (objects : 0 ∉ self.pointers) (inputs : List GrabInput)
    (enough : inputs.length = self.freeCount + 1) :
    (∀ later, self.safeGrab (self.answers ping (inputs ++ later)) =
        self.safeGrab (self.answers ping inputs)) ∧
      Finished ping self (self.safeGrab (self.answers ping inputs)).2 inputs
        (self.failedPings (self.answers ping inputs))
        (self.safeGrab (self.answers ping inputs)).1 :=
  safeGrab_finishes ping inputs self distinct objects (by omega)

def newestDied (pc : ConnectionPtr) : Bool := pc != 4

/-- One grab for each of the three free connections and one more. -/
def mixedGrabs : List GrabInput := [mixedGrab, mixedGrab, mixedGrab, mixedGrab]

theorem safeGrab_terminates_mixedPool :
    (∀ later, mixedPool.safeGrab (mixedPool.answers newestDied (mixedGrabs ++ later)) =
        mixedPool.safeGrab (mixedPool.answers newestDied mixedGrabs)) ∧
      Finished newestDied mixedPool
        (mixedPool.safeGrab (mixedPool.answers newestDied mixedGrabs)).2 mixedGrabs
        (mixedPool.failedPings (mixedPool.answers newestDied mixedGrabs))
        (mixedPool.safeGrab (mixedPool.answers newestDied mixedGrabs)).1 :=
  safeGrab_terminates newestDied mixedPool (by decide) (by decide) mixedGrabs (by decide)

end ConnectionPool

end LibTabula
