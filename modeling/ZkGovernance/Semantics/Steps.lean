import Mathlib

/-!
# Labelled runs of a transition relation

`Steps step state labels final` says that `final` is reached from `state`
by successive transitions of `step` carrying the given labels, in order.
Runs compose (`Steps.append`), and the two induction rules every safety
argument here uses are packaged once: a predicate preserved by every
transition holds along a run (`Steps.invariant`), and a relation that every
transition establishes and that composes holds between the ends of a run
(`Steps.relate`). A quantity that each transition raises by a weight of its
label is raised by the labels' total weight (`Steps.account`). A run whose
labels all satisfy a condition is a run of the transitions restricted to such
labels (`Steps.restrict`), so that an invariant may rely on the condition,
and a run is a run of every relation containing its transitions, its labels
renamed (`Steps.relabel`).
-/

namespace Semantics

universe u v

variable {State : Type u} {Label : Type v}

/-- Finite runs of a labelled transition relation, labels in order. -/
inductive Steps (step : State → Label → State → Prop) :
    State → List Label → State → Prop where
  | done (state : State) : Steps step state [] state
  | cons {state middle final : State} {label : Label} {labels : List Label}
      (first : step state label middle) (rest : Steps step middle labels final) :
      Steps step state (label :: labels) final

variable {step : State → Label → State → Prop}

/-- A single transition is a run. -/
theorem Steps.single {state next : State} {label : Label} (transition : step state label next) :
    Steps step state [label] next :=
  .cons transition (.done next)

/-- Runs that meet compose, and their labels concatenate. -/
theorem Steps.append {state middle final : State} {first second : List Label}
    (prefixRun : Steps step state first middle) (suffixRun : Steps step middle second final) :
    Steps step state (first ++ second) final := by
  induction prefixRun with
  | done => exact suffixRun
  | cons transition _ inductionHypothesis => exact .cons transition (inductionHypothesis suffixRun)

/-- A predicate that every transition preserves holds at the end of every run from a state
where it holds. -/
theorem Steps.invariant (holds : State → Prop)
    (preserved : ∀ {state label next}, step state label next → holds state → holds next)
    {state final : State} {labels : List Label} (run : Steps step state labels final)
    (initially : holds state) : holds final := by
  induction run with
  | done => exact initially
  | cons transition _ inductionHypothesis =>
      exact inductionHypothesis (preserved transition initially)

/-- A reflexive, transitive relation that every transition establishes holds between the
ends of every run. -/
theorem Steps.relate (related : State → State → Prop)
    (reflexive : ∀ state, related state state)
    (transitive : ∀ {first second third}, related first second → related second third →
      related first third)
    (established : ∀ {state label next}, step state label next → related state next)
    {state final : State} {labels : List Label} (run : Steps step state labels final) :
    related state final := by
  induction run with
  | done state => exact reflexive state
  | cons transition _ inductionHypothesis =>
      exact transitive (established transition) inductionHypothesis

/-- A quantity that every transition raises by the weight of its label is raised by the
total weight of a run's labels. -/
theorem Steps.account (measure : State → ℕ) (weight : Label → ℕ)
    (counted : ∀ {state label next}, step state label next →
      measure next = measure state + weight label)
    {state final : State} {labels : List Label} (run : Steps step state labels final) :
    measure final = measure state + (labels.map weight).sum := by
  induction run with
  | done => simp
  | cons transition _ inductionHypothesis =>
      rw [inductionHypothesis, counted transition, List.map_cons, List.sum_cons, Nat.add_assoc]

/-- A run is a run of every relation that contains its transitions under a renaming of the
labels. -/
theorem Steps.relabel {Label' : Type v} {step' : State → Label' → State → Prop}
    {rename : Label → Label'}
    (contained : ∀ {state label next}, step state label next → step' state (rename label) next)
    {state final : State} {labels : List Label} (run : Steps step state labels final) :
    Steps step' state (labels.map rename) final := by
  induction run with
  | done state => exact .done state
  | cons transition _ inductionHypothesis => exact .cons (contained transition) inductionHypothesis

/-- A run whose labels all satisfy a predicate is a run of the transitions with such labels. -/
theorem Steps.restrict (allowed : Label → Prop) {state final : State} {labels : List Label}
    (run : Steps step state labels final) (allLabels : ∀ label ∈ labels, allowed label) :
    Steps (fun state label next => allowed label ∧ step state label next) state labels final := by
  induction run with
  | done state => exact .done state
  | cons transition _ inductionHypothesis =>
      exact .cons ⟨allLabels _ (by simp), transition⟩
        (inductionHypothesis fun label member => allLabels label (by simp [member]))

end Semantics
