/-
Runs of a labelled transition relation.

A run is the list of labels taken together with its end points. The induction
over a run is stated once, as the invariant rule; developments that use it only
supply what one step preserves.
-/

set_option autoImplicit false

namespace Foundation

variable {σ α : Type}

/-- `Run step start labels finish`: taking `labels` in order leads from `start`
to `finish`. -/
inductive Run (step : σ → α → σ → Prop) : σ → List α → σ → Prop
  | nil (state : σ) : Run step state [] state
  | cons {start middle finish : σ} {label : α} {labels : List α} :
      step start label middle → Run step middle labels finish →
      Run step start (label :: labels) finish

namespace Run

variable {step : σ → α → σ → Prop} {start finish : σ} {labels : List α}

/-- What every step keeps, every run keeps. -/
theorem invariant (Inv : σ → Prop)
    (keeps : ∀ before label after, Inv before → step before label after → Inv after)
    (run : Run step start labels finish) (initially : Inv start) : Inv finish := by
  induction run with
  | nil state => exact initially
  | cons first _rest ih => exact ih (keeps _ _ _ initially first)

theorem single {label : α} (first : step start label finish) :
    Run step start [label] finish :=
  .cons first (.nil finish)

/-- Forward simulation: if every step of one relation is matched by a step of
another with the same label, so is every run. -/
theorem simulation {τ : Type} {match_ : σ → τ → Prop} {spec : τ → α → τ → Prop}
    (simulates : ∀ before abstract label after, match_ before abstract →
      step before label after → ∃ next, spec abstract label next ∧ match_ after next)
    (run : Run step start labels finish) {abstract : τ} (matched : match_ start abstract) :
    ∃ last, Run spec abstract labels last ∧ match_ finish last := by
  induction run generalizing abstract with
  | nil state => exact ⟨abstract, .nil abstract, matched⟩
  | cons first _rest ih =>
      obtain ⟨next, stepped, matchedNext⟩ := simulates _ _ _ _ matched first
      obtain ⟨last, rest, matchedLast⟩ := ih matchedNext
      exact ⟨last, .cons stepped rest, matchedLast⟩

theorem mono {other : σ → α → σ → Prop}
    (implies : ∀ before label after, step before label after → other before label after)
    (run : Run step start labels finish) : Run other start labels finish := by
  induction run with
  | nil state => exact .nil state
  | cons first _rest ih => exact .cons (implies _ _ _ first) ih

theorem append {middle : σ} {front back : List α} (first : Run step start front middle)
    (second : Run step middle back finish) : Run step start (front ++ back) finish := by
  induction first with
  | nil state => exact second
  | cons stepped _rest ih => exact .cons stepped (ih second)

/-- Forward simulation with stuttering: what a step shows as labels of another
relation is a run of that one. -/
theorem stuttering {τ γ : Type} {match_ : σ → τ → Prop} {spec : τ → γ → τ → Prop}
    {observed : α → List γ}
    (simulates : ∀ before abstract label after, match_ before abstract →
      step before label after →
      ∃ next, Run spec abstract (observed label) next ∧ match_ after next)
    (run : Run step start labels finish) {abstract : τ} (matched : match_ start abstract) :
    ∃ last, Run spec abstract (labels.flatMap observed) last ∧ match_ finish last := by
  induction run generalizing abstract with
  | nil state => exact ⟨abstract, .nil abstract, matched⟩
  | cons first _rest ih =>
      obtain ⟨next, shown, matchedNext⟩ := simulates _ _ _ _ matched first
      obtain ⟨last, rest, matchedLast⟩ := ih matchedNext
      refine ⟨last, ?_, matchedLast⟩
      rw [List.flatMap_cons]
      exact shown.append rest

/-- Forward simulation between relations with different labels, of which both show the
same part. -/
theorem relabelling {τ γ δ : Type} {match_ : σ → τ → Prop} {spec : τ → γ → τ → Prop}
    {shows : α → δ} {shown : γ → δ}
    (simulates : ∀ before abstract label after, match_ before abstract →
      step before label after →
      ∃ other next, shown other = shows label ∧ spec abstract other next ∧ match_ after next)
    (run : Run step start labels finish) {abstract : τ} (matched : match_ start abstract) :
    ∃ others last, others.map shown = labels.map shows ∧ Run spec abstract others last ∧
      match_ finish last := by
  induction run generalizing abstract with
  | nil state => exact ⟨[], abstract, rfl, .nil abstract, matched⟩
  | cons first _rest ih =>
      obtain ⟨other, next, same, stepped, matchedNext⟩ := simulates _ _ _ _ matched first
      obtain ⟨others, last, sameRest, rest, matchedLast⟩ := ih matchedNext
      refine ⟨other :: others, last, ?_, .cons stepped rest, matchedLast⟩
      rw [List.map_cons, List.map_cons, same, sameRest]

end Run

end Foundation
