/-
Reading fields of fixed widths from a terminated text.

A layout says how many characters a field takes and which separators are passed over
where they stand. What is left of a text behind a layout is a matter of the text alone;
a reader that goes by the layout stays inside the terminated text exactly if something
is left. A reader may stop on the terminator, but not behind it.

In memory the characters go on behind the terminator. There a reader returns whatever
follows some characters exactly if it needs no more than these.
-/

import LibTabula.Foundation.Effect
import Mathlib.Data.List.Infix

set_option autoImplicit false

namespace Foundation.FixedFields

variable {α β γ ε : Type}

inductive Piece (α : Type)
  | field (width : Nat)
  | separator (c : α)
deriving DecidableEq, Repr

/-- What is left of a text, unless it is too short. -/
def behind [DecidableEq α] : List (Piece α) → List α → Option (List α)
  | [], text => some text
  | .field width :: pieces, text =>
      if width ≤ text.length then behind pieces (text.drop width) else none
  | .separator c :: pieces, text =>
      behind pieces (if text.head? = some c then text.tail else text)

def width : List (Piece α) → Nat
  | [] => 0
  | .field own :: pieces => own + width pieces
  | .separator _ :: pieces => width pieces

section Layouts

variable [DecidableEq α]

theorem behind_append (first second : List (Piece α)) (text : List α) :
    behind (first ++ second) text = (behind first text).bind (behind second) := by
  induction first generalizing text with
  | nil => rfl
  | cons piece pieces ih =>
      cases piece with
      | field own =>
          simp only [List.cons_append, behind]
          by_cases fits : own ≤ text.length
          · rw [if_pos fits, if_pos fits, ih]
          · rw [if_neg fits, if_neg fits]
            rfl
      | separator c =>
          simp only [List.cons_append, behind]
          exact ih _

theorem suffix_of_behind {pieces : List (Piece α)} {text rest : List α}
    (left : behind pieces text = some rest) : rest <:+ text := by
  induction pieces generalizing text with
  | nil => exact Option.some.inj left ▸ List.suffix_refl text
  | cons piece pieces ih =>
      cases piece with
      | field own =>
          rw [behind] at left
          by_cases fits : own ≤ text.length
          · rw [if_pos fits] at left
            exact (ih left).trans (List.drop_suffix own text)
          · rw [if_neg fits] at left
            cases left
      | separator c =>
          rw [behind] at left
          by_cases stands : text.head? = some c
          · rw [if_pos stands] at left
            exact (ih left).trans (List.tail_suffix text)
          · rw [if_neg stands] at left
            exact ih left

/-- Separators aside, the text has as many characters as the fields take. -/
theorem width_le_of_behind {pieces : List (Piece α)} {text rest : List α}
    (left : behind pieces text = some rest) : width pieces ≤ text.length := by
  induction pieces generalizing text with
  | nil => exact Nat.zero_le _
  | cons piece pieces ih =>
      cases piece with
      | field own =>
          rw [behind] at left
          by_cases fits : own ≤ text.length
          · rw [if_pos fits] at left
            have further := ih left
            rw [List.length_drop] at further
            rw [width]
            omega
          · rw [if_neg fits] at left
            cases left
      | separator c =>
          rw [behind] at left
          have further := ih left
          rw [width]
          by_cases stands : text.head? = some c
          · rw [if_pos stands, List.length_tail] at further
            omega
          · rw [if_neg stands] at further
            exact further

end Layouts

/-- A reader returned, and what it left is at least the terminator. -/
def Inside (result : EStateM.Result ε (List α) β) : Prop :=
  ∃ value rest, result = .ok value rest ∧ rest ≠ []

/-- The reader goes by the layout. -/
structure ReadsBy [DecidableEq α] (stop : α) (pieces : List (Piece α))
    (reader : EStateM ε (List α) β) : Prop where
  fits : ∀ text rest, stop ∉ text → behind pieces text = some rest →
    ∃ value, reader.run (text ++ [stop]) = .ok value (rest ++ [stop])
  short : ∀ text, stop ∉ text → behind pieces text = none →
    ¬ Inside (reader.run (text ++ [stop]))
  beyond : ¬ Inside (reader.run [])

namespace ReadsBy

variable [DecidableEq α] {stop : α} {pieces further : List (Piece α)}
  {reader : EStateM ε (List α) β} {next : β → EStateM ε (List α) γ}

theorem pure (value : β) : ReadsBy stop [] (Pure.pure value : EStateM ε (List α) β) where
  fits text rest _ left := by
    rw [behind, Option.some_inj] at left
    subst left
    exact ⟨value, rfl⟩
  short text _ short := nomatch short
  beyond := by
    intro found
    obtain ⟨other, rest, returned, notEmpty⟩ := found
    cases returned
    exact notEmpty rfl

omit [DecidableEq α] in
/-- What is not inside stays outside in whatever reads on. -/
theorem not_inside_bind (beyond : ∀ value, ¬ Inside ((next value).run [])) {text : List α}
    (outside : ¬ Inside (reader.run text)) : ¬ Inside ((reader >>= next).run text) := by
  cases first : reader.run text with
  | ok value rest =>
      have nothing : rest = [] := by
        by_contra notEmpty
        exact outside ⟨value, rest, first, notEmpty⟩
      rw [run_bind_of_ok first, nothing]
      exact beyond value
  | error failure rest =>
      rw [run_bind_of_error first]
      intro found
      obtain ⟨other, left, returned, _⟩ := found
      cases returned

theorem bind (first : ReadsBy stop pieces reader)
    (second : ∀ value, ReadsBy stop further (next value)) :
    ReadsBy stop (pieces ++ further) (reader >>= next) where
  fits text rest noStop left := by
    rw [behind_append] at left
    obtain ⟨middle, leftFirst, leftSecond⟩ := Option.bind_eq_some_iff.mp left
    obtain ⟨value, returned⟩ := first.fits text middle noStop leftFirst
    rw [run_bind_of_ok returned]
    have noStopLeft : stop ∉ middle := fun member =>
      noStop ((suffix_of_behind leftFirst).subset member)
    exact (second value).fits middle rest noStopLeft leftSecond
  short text noStop short := by
    rw [behind_append] at short
    cases leftFirst : behind pieces text with
    | none =>
        have outside := first.short text noStop leftFirst
        exact not_inside_bind (fun value => (second value).beyond) outside
    | some middle =>
        rw [leftFirst] at short
        obtain ⟨value, returned⟩ := first.fits text middle noStop leftFirst
        rw [run_bind_of_ok returned]
        have noStopLeft : stop ∉ middle := fun member =>
          noStop ((suffix_of_behind leftFirst).subset member)
        exact (second value).short middle noStopLeft short
  beyond := not_inside_bind (fun value => (second value).beyond) first.beyond

theorem stays_inside_iff (reads : ReadsBy stop pieces reader) {text : List α}
    (noStop : stop ∉ text) :
    Inside (reader.run (text ++ [stop])) ↔ (behind pieces text).isSome = true := by
  cases left : behind pieces text with
  | none => exact iff_of_false (reads.short text noStop left) nofun
  | some rest =>
      obtain ⟨value, returned⟩ := reads.fits text rest noStop left
      refine iff_of_true ⟨value, rest ++ [stop], returned, ?_⟩ rfl
      exact List.append_ne_nil_of_right_ne_nil rest (List.cons_ne_nil stop [])

end ReadsBy

/-! ### In memory -/

section Memory

variable [DecidableEq α]

/-- What is left of some characters if no more of them are needed. To look for a separator
takes one. -/
def left : List (Piece α) → List α → Option (List α)
  | [], text => some text
  | .field own :: pieces, text =>
      if own ≤ text.length then left pieces (text.drop own) else none
  | .separator _ :: _, [] => none
  | .separator c :: pieces, d :: text => left pieces (if d = c then text else d :: text)

/-- So many characters are enough. -/
def room : List (Piece α) → Nat
  | [] => 0
  | .field own :: pieces => own + room pieces
  | .separator _ :: pieces => 1 + room pieces

theorem left_append (first second : List (Piece α)) (text : List α) :
    left (first ++ second) text = (left first text).bind (left second) := by
  induction first generalizing text with
  | nil => rfl
  | cons piece pieces ih =>
      cases piece with
      | field own =>
          simp only [List.cons_append, left]
          by_cases fits : own ≤ text.length
          · rw [if_pos fits, if_pos fits, ih]
          · rw [if_neg fits, if_neg fits]
            rfl
      | separator c =>
          cases text with
          | nil => rfl
          | cons d text =>
              simp only [List.cons_append, left]
              exact ih _

theorem isSome_left_of_room {pieces : List (Piece α)} {text : List α}
    (enough : room pieces ≤ text.length) : (left pieces text).isSome = true := by
  induction pieces generalizing text with
  | nil => rfl
  | cons piece pieces ih =>
      cases piece with
      | field own =>
          rw [room] at enough
          have rest : room pieces ≤ (text.drop own).length := by
            rw [List.length_drop]
            omega
          rw [left, if_pos (by omega)]
          exact ih rest
      | separator c =>
          rw [room] at enough
          cases text with
          | nil =>
              rw [List.length_nil] at enough
              omega
          | cons d text =>
              rw [List.length_cons] at enough
              rw [left]
              split_ifs
              · exact ih (by omega)
              · exact ih (by rw [List.length_cons]; omega)

end Memory

/-- The reader returns, and whatever follows the characters is left where it is, exactly if
no more of them are needed. -/
structure Within [DecidableEq α] (pieces : List (Piece α)) (reader : EStateM ε (List α) β) :
    Prop where
  fits : ∀ text rest, left pieces text = some rest →
    ∃ value, ∀ more, reader.run (text ++ more) = .ok value (rest ++ more)
  short : ∀ text, left pieces text = none → ∃ failure rest, reader.run text = .error failure rest

namespace Within

variable [DecidableEq α] {pieces further : List (Piece α)} {reader : EStateM ε (List α) β}
  {next : β → EStateM ε (List α) γ}

theorem pure (value : β) : Within [] (Pure.pure value : EStateM ε (List α) β) where
  fits text rest nothing := by
    rw [left, Option.some_inj] at nothing
    subst nothing
    exact ⟨value, fun _ => rfl⟩
  short text missing := nomatch missing

theorem bind (first : Within pieces reader) (second : ∀ value, Within further (next value)) :
    Within (pieces ++ further) (reader >>= next) where
  fits text rest leftAll := by
    rw [left_append] at leftAll
    obtain ⟨middle, leftFirst, leftSecond⟩ := Option.bind_eq_some_iff.mp leftAll
    obtain ⟨value, returned⟩ := first.fits text middle leftFirst
    obtain ⟨other, returnedToo⟩ := (second value).fits middle rest leftSecond
    refine ⟨other, fun more => ?_⟩
    rw [run_bind_of_ok (returned more)]
    exact returnedToo more
  short text missing := by
    rw [left_append] at missing
    cases leftFirst : left pieces text with
    | none =>
        obtain ⟨failure, rest, failed⟩ := first.short text leftFirst
        exact ⟨failure, rest, run_bind_of_error failed⟩
    | some middle =>
        rw [leftFirst] at missing
        obtain ⟨value, returned⟩ := first.fits text middle leftFirst
        obtain ⟨failure, rest, failed⟩ := (second value).short middle missing
        have alone := returned []
        rw [List.append_nil, List.append_nil] at alone
        refine ⟨failure, rest, ?_⟩
        rw [run_bind_of_ok alone]
        exact failed

/-- What is returned does not depend on what follows. -/
theorem outcome_append (within : Within pieces reader) {text : List α}
    (enough : (left pieces text).isSome = true) (more other : List α) :
    (reader.run (text ++ more)).outcome = (reader.run (text ++ other)).outcome := by
  obtain ⟨rest, leftover⟩ := Option.isSome_iff_exists.mp enough
  obtain ⟨value, returned⟩ := within.fits text rest leftover
  rw [returned more, returned other]
  rfl

theorem outcome_ok (within : Within pieces reader) {text : List α}
    (enough : (left pieces text).isSome = true) :
    ∃ value, (reader.run text).outcome = .ok value := by
  obtain ⟨rest, leftover⟩ := Option.isSome_iff_exists.mp enough
  obtain ⟨value, returned⟩ := within.fits text rest leftover
  have alone := returned []
  rw [List.append_nil] at alone
  exact ⟨value, congrArg EStateM.Result.outcome alone⟩

end Within

end Foundation.FixedFields
