/-
Texts with slots.

A template is a list of segments, each a literal text and, after it, possibly a
slot: a key into a store of cells and the option with which the cell is to be
used. `fill` is what a template says once every slot has a text of its own. `run`
works through the template with a store and may change each cell that it uses. If
the first use of a cell settles it, the run says what `fill` says when every slot
uses the original cell with the option of the first slot for it.
-/

import Mathlib.Algebra.Order.BigOperators.Group.List
import Mathlib.Algebra.Order.Group.Nat
import Mathlib.Algebra.GroupWithZero.Nat
import Mathlib.Data.List.Basic

set_option autoImplicit false

namespace Foundation

variable {α ε ι ο σ : Type}

structure Segment (α ι ο : Type) where
  before : List α
  slot : Option (ι × ο)

namespace Segment

def slots (template : List (Segment α ι ο)) : List (ι × ο) := template.filterMap slot

def fill (value : ι × ο → Except ε (List α)) : List (Segment α ι ο) → Except ε (List α)
  | [] => .ok []
  | segment :: rest =>
      match segment.slot with
      | none => (fill value rest).map fun tail => segment.before ++ tail
      | some key =>
          match value key with
          | .error failure => .error failure
          | .ok text => (fill value rest).map fun tail => segment.before ++ text ++ tail

theorem slots_cons_none {segment : Segment α ι ο} (empty : segment.slot = none)
    (rest : List (Segment α ι ο)) : slots (segment :: rest) = slots rest := by
  unfold slots
  rw [List.filterMap_cons, empty]

theorem slots_cons_some {segment : Segment α ι ο} {key : ι × ο}
    (filled : segment.slot = some key) (rest : List (Segment α ι ο)) :
    slots (segment :: rest) = key :: slots rest := by
  unfold slots
  rw [List.filterMap_cons, filled]

theorem slots_append (front back : List (Segment α ι ο)) :
    slots (front ++ back) = slots front ++ slots back :=
  List.filterMap_append

theorem fill_cons_none {segment : Segment α ι ο} (empty : segment.slot = none)
    (value : ι × ο → Except ε (List α)) (rest : List (Segment α ι ο)) :
    fill value (segment :: rest) =
      (fill value rest).map fun tail => segment.before ++ tail := by
  rw [fill, empty]

theorem fill_cons_error {segment : Segment α ι ο} {key : ι × ο}
    (filled : segment.slot = some key) {value : ι × ο → Except ε (List α)} {failure : ε}
    (missing : value key = .error failure) (rest : List (Segment α ι ο)) :
    fill value (segment :: rest) = .error failure := by
  rw [fill, filled]
  simp only [missing]

theorem fill_cons_ok {segment : Segment α ι ο} {key : ι × ο}
    (filled : segment.slot = some key) {value : ι × ο → Except ε (List α)} {text : List α}
    (there : value key = .ok text) (rest : List (Segment α ι ο)) :
    fill value (segment :: rest) =
      (fill value rest).map fun tail => segment.before ++ text ++ tail := by
  rw [fill, filled]
  simp only [there]

theorem fill_congr {value other : ι × ο → Except ε (List α)}
    {template : List (Segment α ι ο)}
    (same : ∀ key ∈ slots template, value key = other key) :
    fill value template = fill other template := by
  induction template with
  | nil => rfl
  | cons segment rest ih =>
      cases slot : segment.slot with
      | none =>
          rw [slots_cons_none slot] at same
          rw [fill_cons_none slot, fill_cons_none slot, ih same]
      | some key =>
          rw [slots_cons_some slot] at same
          have here := same key List.mem_cons_self
          have later := ih (fun other member => same other (List.mem_cons_of_mem key member))
          unfold fill
          rw [slot]
          simp only [here, later]

/-- The first literal text stands before all that the slots say. -/
theorem fill_before (value : ι × ο → Except ε (List α)) (text : List α) (slot : Option (ι × ο))
    (rest : List (Segment α ι ο)) :
    fill value ({ before := text, slot := slot } :: rest) =
      (fill value ({ before := [], slot := slot } :: rest)).map fun tail => text ++ tail := by
  cases slot with
  | none =>
      rw [fill_cons_none rfl, fill_cons_none rfl]
      cases fill value rest <;> rfl
  | some key =>
      cases here : value key with
      | error failure =>
          rw [fill_cons_error rfl here, fill_cons_error rfl here]
          rfl
      | ok said =>
          rw [fill_cons_ok rfl here, fill_cons_ok rfl here]
          cases fill value rest with
          | error failure => rfl
          | ok tail => simp only [Except.map, List.append_assoc, List.nil_append]

theorem fill_ok {value : ι × ο → Except ε (List α)} {text : ι × ο → List α}
    {template : List (Segment α ι ο)}
    (there : ∀ key ∈ slots template, value key = .ok (text key)) :
    ∃ whole, fill value template = .ok whole ∧
      whole.length = (template.map fun segment => segment.before.length).sum +
        ((slots template).map fun key => (text key).length).sum := by
  induction template with
  | nil => exact ⟨[], rfl, rfl⟩
  | cons segment rest ih =>
      cases slot : segment.slot with
      | none =>
          rw [slots_cons_none slot] at there ⊢
          obtain ⟨tail, filled, length⟩ := ih there
          refine ⟨segment.before ++ tail, ?_, ?_⟩
          · rw [fill_cons_none slot, filled]
            rfl
          · rw [List.length_append, length, List.map_cons, List.sum_cons]
            omega
      | some key =>
          rw [slots_cons_some slot] at there ⊢
          have here := there key List.mem_cons_self
          obtain ⟨tail, filled, length⟩ :=
            ih (fun other member => there other (List.mem_cons_of_mem key member))
          refine ⟨segment.before ++ text key ++ tail, ?_, ?_⟩
          · rw [fill_cons_ok slot here, filled]
            rfl
          · simp only [List.length_append, List.map_cons, List.sum_cons, length]
            omega

/-- A text, unless there is a reason to fail. -/
def textUnless (reason : Option ε) (text : List α) : Except ε (List α) :=
  match reason with
  | some reason => .error reason
  | none => .ok text

/-- If each slot has a text or a reason to fail, the whole is what the slots say, or fails
for the first reason. -/
theorem fill_eq {value : ι × ο → Except ε (List α)} {failure : ι × ο → Option ε}
    {text : ι × ο → List α} {template : List (Segment α ι ο)}
    (given : ∀ key ∈ slots template, value key = textUnless (failure key) (text key)) :
    fill value template =
      textUnless (template.findSome? fun segment => segment.slot.bind failure)
        (template.map fun segment => segment.before ++ segment.slot.elim [] text).flatten := by
  induction template with
  | nil => rfl
  | cons segment rest ih =>
      rw [List.findSome?_cons, List.map_cons, List.flatten_cons]
      cases slot : segment.slot with
      | none =>
          rw [slots_cons_none slot] at given
          rw [fill_cons_none slot, ih given]
          simp only [Option.bind_none, Option.elim_none, List.append_nil]
          cases rest.findSome? (fun segment => segment.slot.bind failure) <;> rfl
      | some key =>
          rw [slots_cons_some slot] at given
          have here := given key List.mem_cons_self
          have later := ih fun other member => given other (List.mem_cons_of_mem key member)
          simp only [Option.bind_some, Option.elim_some]
          cases reason : failure key with
          | some reason =>
              rw [reason] at here
              rw [fill_cons_error slot here]
              rfl
          | none =>
              rw [reason] at here
              rw [fill_cons_ok slot here, later]
              cases rest.findSome? (fun segment => segment.slot.bind failure) <;> rfl

/-- The failure, if it is one. -/
def reason : Except ε (List α) → Option ε
  | .ok _ => none
  | .error failure => some failure

/-- A template cannot be filled in for the first reason that one of its slots has. -/
theorem fill_eq_error_iff (value : ι × ο → Except ε (List α)) (template : List (Segment α ι ο))
    (failure : ε) :
    fill value template = .error failure ↔
      (slots template).findSome? (fun key => reason (value key)) = some failure := by
  induction template with
  | nil =>
      constructor
      · intro impossible
        cases impossible
      · intro impossible
        cases impossible
  | cons segment rest ih =>
      cases slot : segment.slot with
      | none =>
          rw [fill_cons_none slot, slots_cons_none slot, ← ih]
          cases fill value rest <;> simp [Except.map]
      | some key =>
          rw [slots_cons_some slot, List.findSome?_cons]
          cases here : value key with
          | error other =>
              rw [fill_cons_error slot here]
              simp [reason]
          | ok text =>
              have noReason : reason (.ok text : Except ε (List α)) = none := rfl
              rw [fill_cons_ok slot here]
              simp only [noReason]
              rw [← ih]
              cases fill value rest <;> simp [Except.map]

/-- Where all slots have a text there is a whole. -/
theorem fill_eq_ok_of_no_reason {value : ι × ο → Except ε (List α)}
    {template : List (Segment α ι ο)}
    (noReason : (slots template).findSome? (fun key => reason (value key)) = none) :
    ∃ whole, fill value template = .ok whole := by
  cases filled : fill value template with
  | ok whole => exact ⟨whole, rfl⟩
  | error failure =>
      rw [fill_eq_error_iff, noReason] at filled
      cases filled

/-- A template whose slots either fail in one way or say what others say is like that as a
whole. -/
theorem fill_eq_of_ne {value other : ι × ο → Except ε (List α)} {failure : ε}
    {template : List (Segment α ι ο)}
    (alike : ∀ key, value key = .error failure ∨ value key = other key)
    (defined : fill value template ≠ .error failure) :
    fill value template = fill other template := by
  induction template with
  | nil => rfl
  | cons segment rest ih =>
      cases slot : segment.slot with
      | none =>
          have later : fill value rest ≠ .error failure := by
            intro failed
            apply defined
            rw [fill_cons_none slot, failed]
            rfl
          rw [fill_cons_none slot, fill_cons_none slot, ih later]
      | some key =>
          cases here : value key with
          | error reason =>
              rw [fill_cons_error slot here] at defined ⊢
              rcases alike key with fails | same
              · exact absurd (here.symm.trans fails) defined
              · rw [fill_cons_error slot (same.symm.trans here)]
          | ok text =>
              have same : other key = .ok text := by
                rcases alike key with fails | same
                · rw [here] at fails
                  cases fails
                · exact same.symm.trans here
              have later : fill value rest ≠ .error failure := by
                intro failed
                apply defined
                rw [fill_cons_ok slot here, failed]
                rfl
              rw [fill_cons_ok slot here, fill_cons_ok slot same, ih later]

/-- A template fails in one way exactly if a slot does and none fails otherwise before it. -/
theorem fill_eq_error_iff_split (value : ι × ο → Except ε (List α))
    (template : List (Segment α ι ο)) (failure : ε) :
    fill value template = .error failure ↔
      ∃ front slot back, slots template = front ++ slot :: back ∧
        value slot = .error failure ∧
        ∀ earlier ∈ front, ∀ other, value earlier = .error other → other = failure := by
  rw [fill_eq_error_iff]
  have reason_eq : ∀ key other, reason (value key) = some other ↔ value key = .error other := by
    intro key other
    cases value key <;> simp [reason]
  constructor
  · intro found
    obtain ⟨front, slot, back, split, fails, none⟩ := List.findSome?_eq_some_iff.mp found
    refine ⟨front, slot, back, split, (reason_eq slot failure).mp fails, ?_⟩
    intro earlier member other failed
    have impossible := (none earlier member).symm.trans ((reason_eq earlier other).mpr failed)
    cases impossible
  · intro given
    obtain ⟨front, slot, back, split, fails, earlier⟩ := given
    rw [split, List.findSome?_append, List.findSome?_cons, (reason_eq slot failure).mpr fails]
    cases found : front.findSome? fun key => reason (value key) with
    | none => rfl
    | some other =>
        obtain ⟨key, member, failed⟩ := List.exists_of_findSome?_eq_some found
        rw [earlier key member other ((reason_eq key other).mp failed)]
        rfl

theorem exists_of_fill_cons_none {segment : Segment α ι ο} (empty : segment.slot = none)
    {value : ι × ο → Except ε (List α)} {rest : List (Segment α ι ο)} {whole : List α}
    (filled : fill value (segment :: rest) = .ok whole) :
    ∃ tail, fill value rest = .ok tail ∧ whole = segment.before ++ tail := by
  rw [fill_cons_none empty] at filled
  cases later : fill value rest with
  | error failure =>
      rw [later] at filled
      cases filled
  | ok tail =>
      rw [later] at filled
      exact ⟨tail, rfl, (Except.ok.inj filled).symm⟩

theorem exists_of_fill_cons_some {segment : Segment α ι ο} {key : ι × ο}
    (slot : segment.slot = some key) {value : ι × ο → Except ε (List α)}
    {rest : List (Segment α ι ο)} {whole : List α}
    (filled : fill value (segment :: rest) = .ok whole) :
    ∃ text tail, value key = .ok text ∧ fill value rest = .ok tail ∧
      whole = segment.before ++ (text ++ tail) := by
  cases here : value key with
  | error failure =>
      rw [fill_cons_error slot here] at filled
      cases filled
  | ok text =>
      rw [fill_cons_ok slot here] at filled
      cases later : fill value rest with
      | error failure =>
          rw [later] at filled
          cases filled
      | ok tail =>
          rw [later] at filled
          refine ⟨text, tail, rfl, rfl, ?_⟩
          rw [← List.append_assoc]
          exact (Except.ok.inj filled).symm

/-- Texts of which none is longer than its counterpart make no longer a whole, and the same
whole only if they are the same. -/
theorem fill_le {value other : ι × ο → Except ε (List α)} {template : List (Segment α ι ο)}
    (le : ∀ key ∈ slots template, ∀ text more, value key = .ok text → other key = .ok more →
      text.length ≤ more.length)
    {whole wholeToo : List α} (filled : fill value template = .ok whole)
    (filledToo : fill other template = .ok wholeToo) :
    whole.length ≤ wholeToo.length ∧
      (whole = wholeToo → ∀ key ∈ slots template, value key = other key) := by
  induction template generalizing whole wholeToo with
  | nil =>
      cases filled
      cases filledToo
      exact ⟨Nat.le_refl 0, fun _ => nofun⟩
  | cons segment rest ih =>
      cases slot : segment.slot with
      | none =>
          rw [slots_cons_none slot] at le ⊢
          obtain ⟨tail, later, rfl⟩ := exists_of_fill_cons_none slot filled
          obtain ⟨tailToo, laterToo, rfl⟩ := exists_of_fill_cons_none slot filledToo
          obtain ⟨length, alike⟩ := ih le later laterToo
          refine ⟨?_, fun same => alike (List.append_cancel_left same)⟩
          rw [List.length_append, List.length_append]
          omega
      | some key =>
          rw [slots_cons_some slot] at le ⊢
          obtain ⟨text, tail, here, later, rfl⟩ := exists_of_fill_cons_some slot filled
          obtain ⟨more, tailToo, hereToo, laterToo, rfl⟩ :=
            exists_of_fill_cons_some slot filledToo
          have short := le key List.mem_cons_self text more here hereToo
          obtain ⟨length, alike⟩ :=
            ih (fun other member => le other (List.mem_cons_of_mem key member)) later laterToo
          refine ⟨?_, ?_⟩
          · simp only [List.length_append]
            omega
          · intro same
            have both := List.append_cancel_left same
            have lengths := congrArg List.length both
            rw [List.length_append, List.length_append] at lengths
            have split := List.append_inj both (by omega)
            intro other member
            rcases List.mem_cons.mp member with rfl | member
            · rw [here, hereToo, split.1]
            · exact alike split.2 other member

/-- What is found first is what all agree on that find anything. -/
theorem findSome?_append_of_agreed {α β : Type} {reason : α → Option β} {items : List α}
    (rest : List α) {item : α} {why : β} (member : item ∈ items) (here : reason item = some why)
    (agreed : ∀ other ∈ items, ∀ found, reason other = some found → found = why) :
    (items ++ rest).findSome? reason = some why := by
  rw [List.findSome?_append]
  cases first : items.findSome? reason with
  | none =>
      rw [List.findSome?_eq_none_iff.mp first item member] at here
      cases here
  | some found =>
      obtain ⟨other, there, is⟩ := List.exists_of_findSome?_eq_some first
      rw [agreed other there found is, Option.some_or]

/-- What is found behind items where nothing is. -/
theorem findSome?_behind {α β : Type} {reason : α → Option β} {before : List α}
    (none_ : ∀ earlier ∈ before, reason earlier = none) (item : α) (after : List α) :
    (before ++ item :: after).findSome? reason = (reason item).or (after.findSome? reason) := by
  rw [List.findSome?_append, List.findSome?_eq_none_iff.mpr none_, Option.none_or,
    List.findSome?_cons]
  cases reason item <;> rfl

/-- Where one has all the reasons of the other, the first reasons are the same exactly if
the first one that is added is overtaken by the same reason. -/
theorem findSome?_eq_iff_of_le {α β : Type} {reason more : α → Option β} {items : List α}
    (le : ∀ item ∈ items, ∀ why, reason item = some why → more item = some why) :
    items.findSome? reason = items.findSome? more ↔
      ∀ before item after, items = before ++ item :: after →
        (∀ earlier ∈ before, more earlier = none) →
        ∀ why, more item = some why → reason item = none →
          after.findSome? reason = some why := by
  have quiet {before after : List α} {item : α} (split : items = before ++ item :: after)
      (earlier : ∀ other ∈ before, more other = none) :
      items.findSome? reason = (reason item).or (after.findSome? reason) ∧
        items.findSome? more = (more item).or (after.findSome? more) := by
    rw [split]
    refine ⟨findSome?_behind ?_ item after, findSome?_behind earlier item after⟩
    intro other within
    cases here : reason other with
    | none => rfl
    | some why =>
        have member : other ∈ items := by
          rw [split]
          exact List.mem_append_left _ within
        rw [← le other member why here, earlier other within]
  constructor
  · intro same before item after split earlier why added free
    obtain ⟨few, many⟩ := quiet split earlier
    rw [few, many, free, added, Option.none_or, Option.some_or] at same
    exact same
  · intro overtaken
    cases first : items.findSome? more with
    | none =>
        rw [List.findSome?_eq_none_iff] at first ⊢
        intro item member
        cases here : reason item with
        | none => rfl
        | some why => rw [← le item member why here, first item member]
    | some why =>
        obtain ⟨before, item, after, split, added, earlier⟩ :=
          List.findSome?_eq_some_iff.mp first
        obtain ⟨few, _many⟩ := quiet split earlier
        rw [few]
        cases here : reason item with
        | none =>
            rw [Option.none_or]
            exact overtaken before item after split earlier why added here
        | some other =>
            have member : item ∈ items := by
              rw [split]
              exact List.mem_append_right _ List.mem_cons_self
            rw [Option.some_or, ← le item member other here, added]

/-- Two fillings agree exactly if they have the same first reason to fail, and, without one,
the same texts. -/
theorem fill_eq_fill_iff {value other : ι × ο → Except ε (List α)}
    {template : List (Segment α ι ο)}
    (le : ∀ key ∈ slots template, ∀ text more, value key = .ok text → other key = .ok more →
      text.length ≤ more.length) :
    fill value template = fill other template ↔
      (slots template).findSome? (fun key => reason (value key)) =
          (slots template).findSome? (fun key => reason (other key)) ∧
        ((slots template).findSome? (fun key => reason (value key)) = none →
          ∀ key ∈ slots template, value key = other key) := by
  cases first : (slots template).findSome? (fun key => reason (value key)) with
  | some failure =>
      have failed := (fill_eq_error_iff value template failure).mpr first
      rw [failed, eq_comm, fill_eq_error_iff, eq_comm]
      constructor
      · intro same
        exact ⟨same, fun impossible => by cases impossible⟩
      · intro same
        exact same.1
  | none =>
      obtain ⟨whole, filled⟩ := fill_eq_ok_of_no_reason first
      constructor
      · intro same
        have filledToo := same.symm.trans filled
        refine ⟨?_, fun _ => (fill_le le filled filledToo).2 rfl⟩
        cases second : (slots template).findSome? (fun key => reason (other key)) with
        | none => rfl
        | some failure =>
            rw [(fill_eq_error_iff other template failure).mpr second] at filledToo
            cases filledToo
      · intro both
        obtain ⟨_same, alike⟩ := both
        exact fill_congr (alike rfl)

/-- Texts that are nowhere longer and somewhere shorter make another whole. -/
theorem fill_ne_of_shorter {value other : ι × ο → Except ε (List α)}
    {text more : ι × ο → List α} {template : List (Segment α ι ο)}
    (there : ∀ key ∈ slots template, value key = .ok (text key))
    (thereToo : ∀ key ∈ slots template, other key = .ok (more key))
    (le : ∀ key ∈ slots template, (text key).length ≤ (more key).length)
    (lt : ∃ key ∈ slots template, (text key).length < (more key).length) :
    fill value template ≠ fill other template := by
  intro same
  obtain ⟨whole, filled, length⟩ := fill_ok there
  obtain ⟨wholeToo, filledToo, lengthToo⟩ := fill_ok thereToo
  rw [filled, filledToo, Except.ok.injEq] at same
  have shorter := List.sum_lt_sum (fun key => (text key).length)
    (fun key => (more key).length) le lt
  rw [same] at length
  omega

/-! ### One text and nothing else -/

section Alone

variable {selected : ι × ο → Bool} {value : ι × ο → Except ε (List α)}
  {template : List (Segment α ι ο)}

/-- Some slots are left empty. -/
def blank (selected : ι × ο → Bool) (value : ι × ο → Except ε (List α)) (key : ι × ο) :
    Except ε (List α) :=
  if selected key then .ok [] else value key

def said (value : ι × ο → Except ε (List α)) (key : ι × ο) : List α :=
  match value key with
  | .ok text => text
  | .error _ => []

theorem said_of_ok {key : ι × ο} {text : List α} (there : value key = .ok text) :
    said value key = text := by
  simp only [said, there]

/-- What the selected slots say, and what is left of the whole without them. -/
structure Apart (selected : ι × ο → Bool) (value : ι × ο → Except ε (List α))
    (template : List (Segment α ι ο)) (whole rest : List α) : Prop where
  there : ∀ key ∈ slots template, value key = .ok (said value key)
  blanked : fill (blank selected value) template = .ok rest
  length : whole.length =
    rest.length + (((slots template).filter selected).flatMap (said value)).length
  alone : rest = [] → whole = ((slots template).filter selected).flatMap (said value)

variable (selected) in
theorem exists_apart {whole : List α} (filled : fill value template = .ok whole) :
    ∃ rest, Apart selected value template whole rest := by
  induction template generalizing whole with
  | nil =>
      cases filled
      exact ⟨[], List.forall_mem_nil _, rfl, rfl, fun _ => rfl⟩
  | cons segment later ih =>
      cases slot : segment.slot with
      | none =>
          obtain ⟨tail, found, rfl⟩ := exists_of_fill_cons_none slot filled
          obtain ⟨rest, apart⟩ := ih found
          refine ⟨segment.before ++ rest, ?_⟩
          constructor
          · rw [slots_cons_none slot]
            exact apart.there
          · rw [fill_cons_none slot, apart.blanked]
            rfl
          · rw [slots_cons_none slot, List.length_append, List.length_append, apart.length,
              Nat.add_assoc]
          · intro nothing
            obtain ⟨before, behind⟩ := List.append_eq_nil_iff.mp nothing
            rw [slots_cons_none slot, before, apart.alone behind, List.nil_append]
      | some key =>
          obtain ⟨text, tail, here, found, rfl⟩ := exists_of_fill_cons_some slot filled
          obtain ⟨rest, apart⟩ := ih found
          have isSaid := said_of_ok here
          have there : ∀ one ∈ slots (segment :: later), value one = .ok (said value one) := by
            rw [slots_cons_some slot]
            exact List.forall_mem_cons.mpr ⟨by rw [isSaid, here], apart.there⟩
          by_cases isSelected : selected key = true
          · have empty : blank selected value key = .ok [] := by rw [blank, if_pos isSelected]
            refine ⟨segment.before ++ rest, there, ?_, ?_, ?_⟩
            · rw [fill_cons_ok slot empty, apart.blanked, List.append_nil]
              rfl
            · rw [slots_cons_some slot, List.filter_cons_of_pos isSelected]
              simp only [List.length_append, List.flatMap_cons, apart.length, isSaid]
              omega
            · intro nothing
              obtain ⟨before, behind⟩ := List.append_eq_nil_iff.mp nothing
              rw [slots_cons_some slot, List.filter_cons_of_pos isSelected, before,
                apart.alone behind, List.nil_append, List.flatMap_cons, isSaid]
          · have kept : blank selected value key = .ok text := by
              rw [blank, if_neg isSelected, here]
            refine ⟨segment.before ++ text ++ rest, there, ?_, ?_, ?_⟩
            · rw [fill_cons_ok slot kept, apart.blanked]
              rfl
            · rw [slots_cons_some slot, List.filter_cons_of_neg isSelected]
              simp only [List.length_append, apart.length]
              omega
            · intro nothing
              obtain ⟨front, behind⟩ := List.append_eq_nil_iff.mp nothing
              rw [slots_cons_some slot, List.filter_cons_of_neg isSelected, ← List.append_assoc,
                front, apart.alone behind, List.nil_append]

theorem fill_of_blank {text : List α} (nothing : fill (blank selected value) template = .ok [])
    (there : ∀ key ∈ slots template, selected key = true → value key = .ok text) :
    fill value template =
      .ok (List.replicate ((slots template).countP selected) text).flatten := by
  induction template with
  | nil => rfl
  | cons segment later ih =>
      cases slot : segment.slot with
      | none =>
          rw [slots_cons_none slot] at there ⊢
          obtain ⟨tail, blanked, empty⟩ := exists_of_fill_cons_none slot nothing
          obtain ⟨before, behind⟩ := List.append_eq_nil_iff.mp empty.symm
          rw [behind] at blanked
          rw [fill_cons_none slot, ih blanked there, before]
          rfl
      | some key =>
          rw [slots_cons_some slot] at there ⊢
          obtain ⟨text_, tail, here, blanked, empty⟩ := exists_of_fill_cons_some slot nothing
          obtain ⟨before, both⟩ := List.append_eq_nil_iff.mp empty.symm
          obtain ⟨isNothing, behind⟩ := List.append_eq_nil_iff.mp both
          rw [behind] at blanked
          have others := ih blanked fun other member =>
            there other (List.mem_cons_of_mem key member)
          by_cases isSelected : selected key = true
          · rw [fill_cons_ok slot (there key List.mem_cons_self isSelected), others, before,
              List.countP_cons_of_pos isSelected, List.replicate_succ, List.flatten_cons]
            rfl
          · rw [blank, if_neg isSelected, isNothing] at here
            rw [fill_cons_ok slot here, others, before, List.countP_cons_of_neg isSelected]
            rfl

/-- If no selected slot says less than a text, the whole is that text exactly if there is
nothing else, and the text but once, unless it is empty. -/
theorem fill_eq_ok_iff_alone {text : List α}
    (long : ∀ key ∈ slots template, selected key = true → ∀ more, value key = .ok more →
      text.length ≤ more.length)
    (some_ : 0 < (slots template).countP selected) :
    fill value template = .ok text ↔
      fill (blank selected value) template = .ok [] ∧
        (∀ key ∈ slots template, selected key = true → value key = .ok text) ∧
        ((slots template).countP selected = 1 ∨ text = []) := by
  constructor
  · intro filled
    obtain ⟨rest, apart⟩ := exists_apart selected filled
    have length := apart.length
    have alone := apart.alone
    have reads : ∀ key ∈ (slots template).filter selected, value key = .ok (said value key) :=
      fun key member => apart.there key (List.mem_filter.mp member).1
    have longer : ∀ key ∈ (slots template).filter selected,
        text.length ≤ (said value key).length := by
      intro key member
      have found := List.mem_filter.mp member
      exact long key found.1 found.2 _ (reads key member)
    rw [List.countP_eq_length_filter] at some_ ⊢
    have all : ∀ key ∈ slots template, selected key = true →
        key ∈ (slots template).filter selected :=
      fun key member isSelected => List.mem_filter.mpr ⟨member, isSelected⟩
    generalize (slots template).filter selected = keys at *
    cases keys with
    | nil => exact absurd some_ (Nat.lt_irrefl 0)
    | cons key others =>
        have first := longer key List.mem_cons_self
        rw [List.flatMap_cons, List.length_append] at length
        have nothing : rest = [] := List.eq_nil_of_length_eq_zero (by omega)
        have whole := alone nothing
        rw [nothing] at apart
        cases others with
        | nil =>
            rw [List.flatMap_singleton] at whole
            refine ⟨apart.blanked, ?_, Or.inl rfl⟩
            intro one member isSelected
            rw [List.mem_singleton.mp (all one member isSelected), whole]
            exact reads key List.mem_cons_self
        | cons second others =>
            have next := longer second (List.mem_cons_of_mem key List.mem_cons_self)
            rw [List.flatMap_cons, List.length_append] at length
            have empty : text = [] := List.eq_nil_of_length_eq_zero (by omega)
            refine ⟨apart.blanked, ?_, Or.inr empty⟩
            intro one member isSelected
            have found := all one member isSelected
            have none_ := List.flatMap_eq_nil_iff.mp (whole.symm.trans empty) one found
            rw [reads one found, none_, empty]
  · intro given
    obtain ⟨nothing, there, once⟩ := given
    rw [fill_of_blank nothing there]
    rcases once with one | empty
    · rw [one, List.replicate_one, List.flatten_singleton]
    · rw [empty, List.flatten_replicate_nil]

end Alone

section FirstOption

variable [DecidableEq ι]

def firstOption (template : List (Segment α ι ο)) (key : ι) : Option ο :=
  ((slots template).find? fun slot => slot.1 = key).map Prod.snd

theorem firstOption_append (front back : List (Segment α ι ο)) (key : ι) :
    firstOption (front ++ back) key =
      (firstOption front key).or (firstOption back key) := by
  unfold firstOption
  rw [slots_append, List.find?_append]
  cases (slots front).find? fun slot => slot.1 = key <;> rfl

theorem firstOption_single_none {segment : Segment α ι ο} (empty : segment.slot = none)
    (key : ι) : firstOption [segment] key = none := by
  unfold firstOption
  rw [slots_cons_none empty]
  rfl

theorem firstOption_single_some {segment : Segment α ι ο} {slot : ι × ο}
    (filled : segment.slot = some slot) (key : ι) :
    firstOption [segment] key = if slot.1 = key then some slot.2 else none := by
  unfold firstOption
  rw [slots_cons_some filled]
  by_cases same : slot.1 = key <;> simp [slots, same]

theorem firstOption_cons_some {segment : Segment α ι ο} {slot : ι × ο}
    (filled : segment.slot = some slot) (rest : List (Segment α ι ο)) :
    firstOption (segment :: rest) slot.1 = some slot.2 := by
  rw [← List.singleton_append, firstOption_append, firstOption_single_some filled, if_pos rfl]
  rfl

theorem mem_of_firstOption {template : List (Segment α ι ο)} {key : ι} {option : ο}
    (first : firstOption template key = some option) : (key, option) ∈ slots template := by
  unfold firstOption at first
  obtain ⟨slot, found, rfl⟩ := Option.map_eq_some_iff.mp first
  have same : slot.1 = key := by
    simpa using List.find?_some found
  rw [← same]
  exact List.mem_of_find?_eq_some found

theorem firstOption_isSome {template : List (Segment α ι ο)} {key : ι} {option : ο}
    (member : (key, option) ∈ slots template) : ∃ first, firstOption template key = some first := by
  have found : ((slots template).find? fun slot => slot.1 = key).isSome := by
    rw [List.find?_isSome]
    exact ⟨(key, option), member, by simp⟩
  obtain ⟨slot, first⟩ := Option.isSome_iff_exists.mp found
  exact ⟨slot.2, by rw [firstOption, first]; rfl⟩

end FirstOption

/-! ### Working through a template with a store -/

section Run

variable [DecidableEq ι] (use : ο → σ → Except ε (List α × σ))

/-- The text made of a template, and the store afterwards. -/
def run : List (Segment α ι ο) → (ι → σ) → Except ε (List α) × (ι → σ)
  | [], store => (.ok [], store)
  | segment :: rest, store =>
      match segment.slot with
      | none =>
          let (tail, after) := run rest store
          (tail.map fun tail => segment.before ++ tail, after)
      | some (key, option) =>
          match use option (store key) with
          | .error failure => (.error failure, store)
          | .ok (text, cell) =>
              let (tail, after) := run rest (Function.update store key cell)
              (tail.map fun tail => segment.before ++ text ++ tail, after)

theorem run_cons_none {segment : Segment α ι ο} (empty : segment.slot = none)
    (rest : List (Segment α ι ο)) (store : ι → σ) :
    run use (segment :: rest) store =
      ((run use rest store).1.map fun tail => segment.before ++ tail,
        (run use rest store).2) := by
  rw [run, empty]

theorem run_cons_error {segment : Segment α ι ο} {key : ι} {option : ο}
    (filled : segment.slot = some (key, option)) {store : ι → σ} {failure : ε}
    (failed : use option (store key) = .error failure) (rest : List (Segment α ι ο)) :
    run use (segment :: rest) store = (.error failure, store) := by
  rw [run, filled]
  simp only [failed]

theorem run_cons_ok {segment : Segment α ι ο} {key : ι} {option : ο}
    (filled : segment.slot = some (key, option)) {store : ι → σ} {text : List α} {cell : σ}
    (used : use option (store key) = .ok (text, cell)) (rest : List (Segment α ι ο)) :
    run use (segment :: rest) store =
      ((run use rest (Function.update store key cell)).1.map
          fun tail => segment.before ++ text ++ tail,
        (run use rest (Function.update store key cell)).2) := by
  rw [run, filled]
  simp only [used]

/-- The keys are of two kinds: a steady cell stays what it is, and any other cell
is settled by its first use. -/
structure Settling (steady : ι → Bool) (store : ι → σ) : Prop where
  keeps : ∀ key option text cell, steady key = true →
    use option (store key) = .ok (text, cell) → cell = store key
  settles : ∀ key option text cell, steady key = false →
    use option (store key) = .ok (text, cell) →
      ∀ other, use other cell = .ok (text, cell)

/-- The text of a slot: a steady cell follows the slot's option, any other cell
the option of the first slot for its key. -/
def settledText (steady : ι → Bool) (template : List (Segment α ι ο)) (store : ι → σ)
    (slot : ι × ο) : Except ε (List α) :=
  let option := if steady slot.1 then slot.2 else (firstOption template slot.1).getD slot.2
  (use option (store slot.1)).map Prod.fst

/-- What the slots passed so far have made of a store. -/
structure Passed (steady : ι → Bool) (seen : List (Segment α ι ο)) (store after : ι → σ) :
    Prop where
  steadily : ∀ key, steady key = true → after key = store key
  untouched : ∀ key, firstOption seen key = none → after key = store key
  settled : ∀ key option, steady key = false → firstOption seen key = some option →
    ∃ text, use option (store key) = .ok (text, after key)

variable {use} {steady : ι → Bool} {store : ι → σ}

theorem Passed.start (store : ι → σ) :
    Passed use steady ([] : List (Segment α ι ο)) store store where
  steadily _ _ := rfl
  untouched _ _ := rfl
  settled _ _ _ impossible := by cases impossible

theorem Passed.literal {seen : List (Segment α ι ο)} {after : ι → σ}
    (passed : Passed use steady seen store after) {segment : Segment α ι ο}
    (empty : segment.slot = none) : Passed use steady (seen ++ [segment]) store after := by
  have same : ∀ key, firstOption (seen ++ [segment]) key = firstOption seen key := by
    intro key
    rw [firstOption_append, firstOption_single_none empty, Option.or_none]
  constructor
  · exact passed.steadily
  · intro key unseen
    exact passed.untouched key (by rw [← same]; exact unseen)
  · intro key option notSteady first
    exact passed.settled key option notSteady (by rw [← same]; exact first)

/-- What using the cell of a slot gives, once some slots are passed. -/
theorem Passed.use_eq (settling : Settling use steady store)
    {seen : List (Segment α ι ο)} {after : ι → σ}
    (passed : Passed use steady seen store after) {segment : Segment α ι ο} {key : ι}
    {option : ο} (filled : segment.slot = some (key, option))
    (rest : List (Segment α ι ο)) :
    (use option (after key)).map Prod.fst =
      settledText use steady (seen ++ segment :: rest) store (key, option) := by
  unfold settledText
  cases kind : steady key with
  | true =>
      rw [passed.steadily key kind]
      simp only [if_true]
  | false =>
      simp only [if_false, Bool.false_eq_true]
      rw [firstOption_append]
      cases first : firstOption seen key with
      | none =>
          rw [passed.untouched key first, firstOption_cons_some filled]
          rfl
      | some earlier =>
          obtain ⟨text, used⟩ := passed.settled key earlier kind first
          rw [settling.settles key earlier text (after key) kind used option]
          simp only [Option.some_or, Option.getD_some, used]

theorem Passed.slot (settling : Settling use steady store)
    {seen : List (Segment α ι ο)} {after : ι → σ}
    (passed : Passed use steady seen store after) {segment : Segment α ι ο} {key : ι}
    {option : ο} {text : List α} {cell : σ} (filled : segment.slot = some (key, option))
    (used : use option (after key) = .ok (text, cell)) :
    Passed use steady (seen ++ [segment]) store (Function.update after key cell) := by
  have first : ∀ other, firstOption (seen ++ [segment]) other =
      (firstOption seen other).or (if key = other then some option else none) := by
    intro other
    rw [firstOption_append, firstOption_single_some filled]
  constructor
  · intro other kind
    by_cases same : other = key
    · subst other
      rw [Function.update_self]
      rw [passed.steadily key kind] at used
      exact settling.keeps key option text cell kind used
    · rw [Function.update_of_ne same]
      exact passed.steadily other kind
  · intro other unseen
    rw [first] at unseen
    by_cases same : other = key
    · rw [if_pos same.symm, Option.or_eq_none_iff] at unseen
      cases unseen.2
    · rw [if_neg (Ne.symm same), Option.or_none] at unseen
      rw [Function.update_of_ne same]
      exact passed.untouched other unseen
  · intro other chosen kind found
    rw [first] at found
    by_cases same : other = key
    · subst other
      rw [Function.update_self]
      rw [if_pos rfl] at found
      cases seenBefore : firstOption seen key with
      | none =>
          rw [seenBefore, Option.none_or, Option.some.injEq] at found
          subst chosen
          rw [passed.untouched key seenBefore] at used
          exact ⟨text, used⟩
      | some earlier =>
          rw [seenBefore, Option.some_or, Option.some.injEq] at found
          subst chosen
          obtain ⟨settledTo, usedFirst⟩ := passed.settled key earlier kind seenBefore
          have again := settling.settles key earlier settledTo (after key) kind usedFirst option
          rw [again, Except.ok.injEq, Prod.mk.injEq] at used
          rw [← used.2]
          exact ⟨settledTo, usedFirst⟩
    · rw [if_neg (Ne.symm same), Option.or_none] at found
      rw [Function.update_of_ne same]
      exact passed.settled other chosen kind found

/-- The run over the rest of a template, with the slots before it passed. -/
theorem Passed.run_eq (settling : Settling use steady store)
    (rest : List (Segment α ι ο)) {seen : List (Segment α ι ο)} {after : ι → σ}
    (passed : Passed use steady seen store after) :
    (run use rest after).1 = fill (settledText use steady (seen ++ rest) store) rest ∧
      ∃ done, done <+: rest ∧ Passed use steady (seen ++ done) store (run use rest after).2 := by
  induction rest generalizing seen after with
  | nil =>
      refine ⟨rfl, [], List.nil_prefix, ?_⟩
      rw [List.append_nil]
      exact passed
  | cons segment rest ih =>
      cases slot : segment.slot with
      | none =>
          obtain ⟨text, done, within, left⟩ := ih (passed.literal slot)
          rw [List.append_assoc, List.singleton_append] at text left
          rw [run_cons_none use slot, fill_cons_none slot]
          constructor
          · rw [text]
          · exact ⟨segment :: done, List.cons_prefix_cons.mpr ⟨rfl, within⟩, left⟩
      | some key =>
          obtain ⟨key, option⟩ := key
          have value := passed.use_eq settling slot rest
          cases used : use option (after key) with
          | error failure =>
              rw [used] at value
              rw [run_cons_error use slot used, fill_cons_error slot value.symm]
              refine ⟨rfl, [], List.nil_prefix, ?_⟩
              rw [List.append_nil]
              exact passed
          | ok result =>
              obtain ⟨text, cell⟩ := result
              rw [used] at value
              obtain ⟨tail, done, within, left⟩ := ih (passed.slot settling slot used)
              rw [List.append_assoc, List.singleton_append] at tail left
              rw [run_cons_ok use slot used, fill_cons_ok slot value.symm]
              constructor
              · rw [tail]
              · exact ⟨segment :: done, List.cons_prefix_cons.mpr ⟨rfl, within⟩, left⟩

theorem run_eq_fill (settling : Settling use steady store) (template : List (Segment α ι ο)) :
    (run use template store).1 = fill (settledText use steady template store) template := by
  have whole := (Passed.start store).run_eq settling template
  rw [List.nil_append] at whole
  exact whole.1

/-- A cell is left alone or settled with the option of its first slot. -/
theorem run_store (settling : Settling use steady store) (template : List (Segment α ι ο))
    (key : ι) :
    (run use template store).2 key = store key ∨
      steady key = false ∧ ∃ option text, firstOption template key = some option ∧
        use option (store key) = .ok (text, (run use template store).2 key) := by
  obtain ⟨_text, done, ⟨later, whole⟩, passed⟩ := (Passed.start store).run_eq settling template
  rw [List.nil_append] at passed
  cases kind : steady key with
  | true => exact Or.inl (passed.steadily key kind)
  | false =>
      cases first : firstOption done key with
      | none => exact Or.inl (passed.untouched key first)
      | some option =>
          obtain ⟨text, used⟩ := passed.settled key option kind first
          refine Or.inr ⟨rfl, option, text, ?_, used⟩
          rw [← whole, firstOption_append, first]
          rfl

end Run

end Segment

end Foundation
