/-
Answers that stand in line.

A server gives several answers to a request. The first one comes with the request, the others
stand in line until they are asked for. A set of rows has to be fetched, or streamed and
released, before anything else can be done, and a request is refused as long as there are
answers in line. A failure is the last answer to its request.
-/

set_option autoImplicit false

namespace Foundation

variable {ρ ε : Type}

inductive Answer (ρ ε : Type)
  | rows (set : ρ)
  | done
  | failed (error : ε)
deriving DecidableEq, Repr

structure Answers (ρ ε : Type) where
  first : Answer ρ ε
  rest : List (Answer ρ ε)
  stops : ∀ front error back, first :: rest = front ++ .failed error :: back → back = []

/-- The set of rows in front: none, one that nobody has fetched, or one that is streamed. -/
inductive FrontSet (ρ : Type)
  | none
  | unfetched (set : ρ)
  | streamed
deriving DecidableEq, Repr

structure AnswerLine (ρ ε : Type) where
  front : FrontSet ρ
  waiting : List (Answer ρ ε)
deriving DecidableEq, Repr

/-- What a caller does with a set of rows. -/
inductive RowsUse
  | fetch
  | stream
  | leave
deriving DecidableEq, Repr

inductive LineEvent (ρ ε : Type)
  | request (answers : Answers ρ ε) (use : RowsUse)
  | next
  | release

/-- What comes of an event: nothing because of what is in line, nothing because nothing is in
line, or an answer. -/
inductive LineReply (ρ ε : Type)
  | refused
  | nothing
  | took (answer : Answer ρ ε)
deriving DecidableEq, Repr

def Answer.frontSet (use : RowsUse) : Answer ρ ε → FrontSet ρ
  | .rows set =>
      match use with
      | .fetch => .none
      | .stream => .streamed
      | .leave => .unfetched set
  | .done | .failed _ => .none

def LineReply.answers : LineReply ρ ε → List (Answer ρ ε)
  | .took answer => [answer]
  | .refused | .nothing => []

namespace AnswerLine

def clear : AnswerLine ρ ε := { front := .none, waiting := [] }

/-- Nobody can get at what is in line. -/
def Blocked (line : AnswerLine ρ ε) : Prop := ∃ set, line.front = .unfetched set

/-- The line behind an event, and what comes of the event. -/
def step (line : AnswerLine ρ ε) : LineEvent ρ ε → AnswerLine ρ ε × LineReply ρ ε
  | .request answers use =>
      match line.front, line.waiting with
      | .none, [] =>
          ({ front := answers.first.frontSet use, waiting := answers.rest }, .took answers.first)
      | _, _ => (line, .refused)
  | .next =>
      match line.front, line.waiting with
      | .none, [] => (line, .nothing)
      | .none, answer :: rest =>
          ({ front := answer.frontSet .fetch, waiting := rest }, .took answer)
      | _, _ => (line, .refused)
  | .release =>
      match line.front with
      | .streamed => ({ line with front := .none }, .nothing)
      | _ => (line, .nothing)

def after (line : AnswerLine ρ ε) (event : LineEvent ρ ε) : AnswerLine ρ ε := (line.step event).1

def reply (line : AnswerLine ρ ε) (event : LineEvent ρ ε) : LineReply ρ ε := (line.step event).2

/-- The answers that an event adds. -/
def asked (line : AnswerLine ρ ε) : LineEvent ρ ε → List (Answer ρ ε)
  | .request answers _ =>
      match line.front, line.waiting with
      | .none, [] => answers.first :: answers.rest
      | _, _ => []
  | .next | .release => []

/-! ### One event -/

/-- A request is refused if anything is in line. -/
theorem step_request_of_ne_clear {line : AnswerLine ρ ε} (inLine : line ≠ clear)
    (answers : Answers ρ ε) (use : RowsUse) :
    line.step (.request answers use) = (line, .refused) := by
  obtain ⟨front, waiting⟩ := line
  cases front with
  | unfetched set => rfl
  | streamed => rfl
  | none =>
      cases waiting with
      | nil => exact absurd rfl inLine
      | cons answer rest => rfl

theorem step_next_of_front {line : AnswerLine ρ ε} (there : line.front ≠ .none) :
    line.step .next = (line, .refused) := by
  obtain ⟨front, waiting⟩ := line
  cases front with
  | unfetched set => rfl
  | streamed => rfl
  | none => exact absurd rfl there

/-- Every answer is in line until it is taken. -/
theorem accounts (line : AnswerLine ρ ε) (event : LineEvent ρ ε) :
    (line.reply event).answers ++ (line.after event).waiting =
      line.waiting ++ line.asked event := by
  obtain ⟨front, waiting⟩ := line
  cases event with
  | request answers use =>
      cases front with
      | none =>
          cases waiting with
          | nil => rfl
          | cons answer rest => exact (List.append_nil _).symm
      | unfetched set => exact (List.append_nil _).symm
      | streamed => exact (List.append_nil _).symm
  | next =>
      cases front with
      | none =>
          cases waiting with
          | nil => rfl
          | cons answer rest => exact (List.append_nil _).symm
      | unfetched set => exact (List.append_nil _).symm
      | streamed => exact (List.append_nil _).symm
  | release =>
      cases front with
      | none => exact (List.append_nil _).symm
      | unfetched set => exact (List.append_nil _).symm
      | streamed => exact (List.append_nil _).symm

/-- An event that leaves a set of rows where it is. -/
def LeavesRows (line : AnswerLine ρ ε) (event : LineEvent ρ ε) : Prop :=
  ∃ answers set, event = .request answers .leave ∧ answers.first = .rows set ∧ line = clear

theorem after_of_blocked {line : AnswerLine ρ ε} (blocked : line.Blocked)
    (event : LineEvent ρ ε) : line.after event = line := by
  obtain ⟨front, waiting⟩ := line
  obtain ⟨set, rfl⟩ := blocked
  cases event with
  | request answers use => rfl
  | next => rfl
  | release => rfl

/-- Whatever can be asked for is refused then. -/
theorem reply_of_blocked {line : AnswerLine ρ ε} (blocked : line.Blocked)
    {event : LineEvent ρ ε} (asks : event ≠ .release) : line.reply event = .refused := by
  obtain ⟨front, waiting⟩ := line
  obtain ⟨set, rfl⟩ := blocked
  cases event with
  | request answers use => rfl
  | next => rfl
  | release => exact absurd rfl asks

/-- A line becomes blocked by one kind of event only. -/
theorem blocked_after_iff {line : AnswerLine ρ ε} (open_ : ¬ line.Blocked)
    (event : LineEvent ρ ε) : (line.after event).Blocked ↔ line.LeavesRows event := by
  constructor
  · intro blocked
    obtain ⟨set, isFront⟩ := blocked
    obtain ⟨front, waiting⟩ := line
    cases front with
    | unfetched other => exact absurd ⟨other, rfl⟩ open_
    | streamed =>
        cases event with
        | request answers use => cases isFront
        | next => cases isFront
        | release => cases isFront
    | none =>
        cases event with
        | release => cases isFront
        | next =>
            cases waiting with
            | nil => cases isFront
            | cons answer rest =>
                change answer.frontSet .fetch = _ at isFront
                cases answer with
                | rows other => cases isFront
                | done => cases isFront
                | failed error => cases isFront
        | request answers use =>
            cases waiting with
            | cons answer rest => cases isFront
            | nil =>
                change answers.first.frontSet use = _ at isFront
                cases first : answers.first with
                | done =>
                    rw [first] at isFront
                    cases isFront
                | failed error =>
                    rw [first] at isFront
                    cases isFront
                | rows other =>
                    rw [first] at isFront
                    cases use with
                    | fetch => cases isFront
                    | stream => cases isFront
                    | leave => exact ⟨answers, other, rfl, first, rfl⟩
  · intro leaves
    obtain ⟨answers, set, rfl, first, rfl⟩ := leaves
    refine ⟨set, ?_⟩
    change answers.first.frontSet .leave = _
    rw [first]
    rfl

/-! ### Runs -/

def run : AnswerLine ρ ε → List (LineEvent ρ ε) → AnswerLine ρ ε
  | line, [] => line
  | line, event :: events => (line.after event).run events

def replies : AnswerLine ρ ε → List (LineEvent ρ ε) → List (LineReply ρ ε)
  | _, [] => []
  | line, event :: events => line.reply event :: (line.after event).replies events

def askedIn : AnswerLine ρ ε → List (LineEvent ρ ε) → List (Answer ρ ε)
  | _, [] => []
  | line, event :: events => line.asked event ++ (line.after event).askedIn events

def LeavesRowsIn : AnswerLine ρ ε → List (LineEvent ρ ε) → Prop
  | _, [] => False
  | line, event :: events => line.LeavesRows event ∨ (line.after event).LeavesRowsIn events

/-- What was asked for is what was taken and what is still in line, in order. -/
theorem run_accounts (line : AnswerLine ρ ε) (events : List (LineEvent ρ ε)) :
    (line.replies events).flatMap LineReply.answers ++ (line.run events).waiting =
      line.waiting ++ line.askedIn events := by
  induction events generalizing line with
  | nil => exact (List.append_nil _).symm
  | cons event events ih =>
      have first := line.accounts event
      have rest := ih (line.after event)
      rw [replies, run, askedIn, List.flatMap_cons, List.append_assoc, rest,
        ← List.append_assoc, first, List.append_assoc]

theorem run_of_blocked {line : AnswerLine ρ ε} (blocked : line.Blocked)
    (events : List (LineEvent ρ ε)) : line.run events = line := by
  induction events with
  | nil => rfl
  | cons event events ih => rw [run, after_of_blocked blocked, ih]

theorem blocked_run_iff {line : AnswerLine ρ ε} (open_ : ¬ line.Blocked)
    (events : List (LineEvent ρ ε)) : (line.run events).Blocked ↔ line.LeavesRowsIn events := by
  induction events generalizing line with
  | nil => exact iff_of_false open_ id
  | cons event events ih =>
      rw [run, LeavesRowsIn, ← blocked_after_iff open_]
      by_cases blocked : (line.after event).Blocked
      · rw [run_of_blocked blocked]
        exact iff_of_true blocked (Or.inl blocked)
      · rw [ih blocked]
        exact (or_iff_right blocked).symm

/-- What clears a line that is not blocked. -/
def clearing (line : AnswerLine ρ ε) : List (LineEvent ρ ε) :=
  .release :: List.replicate line.waiting.length .next

theorem run_next (waiting : List (Answer ρ ε)) :
    ({ front := .none, waiting := waiting } : AnswerLine ρ ε).run
      (List.replicate waiting.length .next) = clear := by
  induction waiting with
  | nil => rfl
  | cons answer rest ih =>
      have fetched : answer.frontSet .fetch = .none := by
        cases answer with
        | rows set => rfl
        | done => rfl
        | failed error => rfl
      rw [List.length_cons, List.replicate_succ, run]
      change ({ front := answer.frontSet .fetch, waiting := rest } : AnswerLine ρ ε).run _ = _
      rw [fetched, ih]

theorem run_clearing {line : AnswerLine ρ ε} (open_ : ¬ line.Blocked) :
    line.run line.clearing = clear := by
  obtain ⟨front, waiting⟩ := line
  cases front with
  | unfetched set => exact absurd ⟨set, rfl⟩ open_
  | none => exact run_next waiting
  | streamed => exact run_next waiting

end AnswerLine

end Foundation
