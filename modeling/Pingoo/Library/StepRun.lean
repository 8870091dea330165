import Mathlib.Tactic.TypeStar

namespace StepRun

/-!
# Runs of a step function

A component that answers one event at a time is a step function from its state
and an event to an output and the next state.  This module runs such a function
over a finite list of events, states what it means for a property to hold at
every step of a run, and gives the two rules by which a fact about one step
becomes a fact about a whole run: an invariant rule and a simulation rule.
-/

variable {σ τ ε ο : Type*}

/-- The state reached after a whole run. -/
def final (step : σ → ε → ο × σ) : σ → List ε → σ
  | state, [] =>
      state
  | state, event :: rest =>
      final step (step state event).2 rest

/-- The outputs of a run, in the order of its events. -/
def outputs (step : σ → ε → ο × σ) : σ → List ε → List ο
  | _, [] =>
      []
  | state, event :: rest =>
      (step state event).1 :: outputs step (step state event).2 rest

/-- A property of a state and the event taken there holds at every step. -/
def Along
    (step : σ → ε → ο × σ)
    (property : σ → ε → Prop) :
    σ → List ε → Prop
  | _, [] =>
      True
  | state, event :: rest =>
      property state event ∧
        Along step property (step state event).2 rest

/-- A decidable property can be checked along a run. -/
instance Along.decidable
    (step : σ → ε → ο × σ)
    (property : σ → ε → Prop)
    [decision : ∀ state event, Decidable (property state event)] :
    ∀ state events, Decidable (Along step property state events)
  | _, [] =>
      inferInstanceAs (Decidable True)
  | state, event :: rest =>
      have := Along.decidable step property (step state event).2 rest
      inferInstanceAs (Decidable (_ ∧ _))

/-- Running two lists one after the other. -/
theorem final_append
    (step : σ → ε → ο × σ)
    (state : σ)
    (first second : List ε) :
    final step state (first ++ second) =
      final step (final step state first) second := by
  induction first generalizing state with
  | nil =>
      rfl
  | cons event rest inductionHypothesis =>
      exact inductionHypothesis (step state event).2

theorem outputs_append
    (step : σ → ε → ο × σ)
    (state : σ)
    (first second : List ε) :
    outputs step state (first ++ second) =
      outputs step state first ++
        outputs step (final step state first) second := by
  induction first generalizing state with
  | nil =>
      rfl
  | cons event rest inductionHypothesis =>
      exact congrArg _ (inductionHypothesis (step state event).2)

/--
The invariant rule: an invariant that every step meeting the guard preserves
holds at the end of every run whose steps all meet the guard.
-/
theorem final_invariant
    {step : σ → ε → ο × σ}
    {guard : σ → ε → Prop}
    {invariant : σ → Prop}
    (preserved :
      ∀ {state event},
        invariant state →
        guard state event →
        invariant (step state event).2)
    {state : σ}
    {events : List ε}
    (initial : invariant state)
    (guarded : Along step guard state events) :
    invariant (final step state events) := by
  induction events generalizing state with
  | nil =>
      exact initial
  | cons event rest inductionHypothesis =>
      exact inductionHypothesis
        (preserved initial guarded.1) guarded.2

/-- The simulation rule for one concrete and one abstract step function. -/
theorem outputs_eq_of_simulation
    {step : σ → ε → ο × σ}
    {abstractStep : τ → ε → ο × τ}
    {guard : σ → ε → Prop}
    {related : σ → τ → Prop}
    (simulates :
      ∀ {state abstractState event},
        related state abstractState →
        guard state event →
        (step state event).1 = (abstractStep abstractState event).1 ∧
          related (step state event).2
            (abstractStep abstractState event).2)
    {state : σ}
    {abstractState : τ}
    {events : List ε}
    (initial : related state abstractState)
    (guarded : Along step guard state events) :
    outputs step state events =
      outputs abstractStep abstractState events := by
  induction events generalizing state abstractState with
  | nil =>
      rfl
  | cons event rest inductionHypothesis =>
      obtain ⟨sameOutput, relatedAfter⟩ :=
        simulates initial guarded.1
      simp only [outputs, sameOutput,
        inductionHypothesis relatedAfter guarded.2]

/-- A property that implies another does so along every run. -/
theorem Along.mono
    {step : σ → ε → ο × σ}
    {first second : σ → ε → Prop}
    (implies : ∀ {state event}, first state event → second state event)
    {state : σ}
    {events : List ε}
    (along : Along step first state events) :
    Along step second state events := by
  induction events generalizing state with
  | nil =>
      trivial
  | cons event rest inductionHypothesis =>
      exact ⟨implies along.1, inductionHypothesis along.2⟩

/-- A guard about outputs can be read off the list of outputs of a run. -/
theorem along_of_forall_outputs
    {step : σ → ε → ο × σ}
    {accepted : ο → Prop}
    {state : σ}
    {events : List ε}
    (allAccepted : ∀ output ∈ outputs step state events, accepted output) :
    Along step (fun current event => accepted (step current event).1)
      state events := by
  induction events generalizing state with
  | nil =>
      trivial
  | cons event rest inductionHypothesis =>
      refine ⟨allAccepted _ List.mem_cons_self,
        inductionHypothesis ?_⟩
      intro output member
      exact allAccepted output (List.mem_cons_of_mem _ member)

/-- Two guards met at every step are met together at every step. -/
theorem Along.and
    {step : σ → ε → ο × σ}
    {first second : σ → ε → Prop}
    {state : σ}
    {events : List ε}
    (alongFirst : Along step first state events)
    (alongSecond : Along step second state events) :
    Along step (fun current event =>
      first current event ∧ second current event) state events := by
  induction events generalizing state with
  | nil =>
      trivial
  | cons event rest inductionHypothesis =>
      exact ⟨⟨alongFirst.1, alongSecond.1⟩,
        inductionHypothesis alongFirst.2 alongSecond.2⟩

end StepRun
