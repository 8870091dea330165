import Mathlib.Data.List.Basic
import Mathlib.Data.List.Induction
import Mathlib.Tactic.TypeStar

namespace Transition

/-!
# Runs of a step relation

A system of parties that act in any order is a relation: from a state, an event
may lead to another state.  A run is a list of events that lead from one state
to another.  The rules turn facts about one step into facts about every run.
-/

variable {σ ε : Type*}

/-- The events of a run lead from the state it starts in to the last state. -/
inductive Run (step : σ → ε → σ → Prop) (start : σ) : List ε → σ → Prop
  | nil : Run step start [] start
  | snoc
      {events : List ε}
      {event : ε}
      {before after : σ}
      (earlier : Run step start events before)
      (last : step before event after) :
      Run step start (events ++ [event]) after

/-- The steps that meet a guard on the state and the event. -/
def Guarded
    (guard : σ → ε → Prop)
    (step : σ → ε → σ → Prop)
    (before : σ)
    (event : ε)
    (after : σ) : Prop :=
  guard before event ∧ step before event after

namespace Run

variable
  {step : σ → ε → σ → Prop}
  {start middle finish : σ}
  {events first second : List ε}

/-- The invariant rule: what every step preserves holds at the end of a run. -/
theorem invariant
    {holds : σ → Prop}
    (run : Run step start events finish)
    (preserved :
      ∀ {before event after},
        holds before → step before event after → holds after)
    (initial : holds start) : holds finish := by
  induction run with
  | nil =>
      exact initial
  | snoc _ last inductionHypothesis =>
      exact preserved inductionHypothesis last

/-- Every event of a run is a step from a state that the run reaches. -/
theorem step_of_mem
    {event : ε}
    (run : Run step start events finish)
    (member : event ∈ events) :
    ∃ earlier before after,
      Run step start earlier before ∧ step before event after := by
  induction run with
  | nil =>
      cases member
  | @snoc earlier last before after earlierRun lastStep inductionHypothesis =>
      rcases List.mem_append.mp member with inEarlier | isLast
      · exact inductionHypothesis inEarlier
      · rw [List.mem_singleton] at isLast
        subst event
        exact ⟨earlier, before, after, earlierRun, lastStep⟩

/-- The invariant rule where what holds depends on the events so far. -/
theorem invariant_of_events
    {holds : List ε → σ → Prop}
    (run : Run step start events finish)
    (preserved :
      ∀ {earlier event before after},
        holds earlier before → step before event after →
          holds (earlier ++ [event]) after)
    (initial : holds [] start) : holds events finish := by
  induction run with
  | nil =>
      exact initial
  | snoc _ last inductionHypothesis =>
      exact preserved inductionHypothesis last

/-- The last step of a run. -/
theorem exists_of_snoc
    {event : ε}
    (run : Run step start (events ++ [event]) finish) :
    ∃ before, Run step start events before ∧ step before event finish := by
  generalize isAll : events ++ [event] = all at run
  cases run with
  | nil =>
      exact absurd isAll (List.append_ne_nil_of_right_ne_nil _ (by simp))
  | @snoc earlier last before _ earlierRun lastStep =>
      obtain ⟨sameEvents, sameLast⟩ := List.append_inj' isAll rfl
      obtain rfl := List.singleton_inj.mp sameLast
      exact ⟨before, sameEvents ▸ earlierRun, lastStep⟩

/-- A run can be cut before any of its events. -/
theorem exists_of_append_cons
    {event : ε}
    (run : Run step start (first ++ event :: second) finish) :
    ∃ before after,
      Run step start first before ∧ step before event after := by
  induction second using List.reverseRecOn generalizing finish with
  | nil =>
      obtain ⟨before, earlier, last⟩ := run.exists_of_snoc
      exact ⟨before, finish, earlier, last⟩
  | append_singleton middle last inductionHypothesis =>
      rw [← List.cons_append, ← List.append_assoc] at run
      obtain ⟨_, earlier, _⟩ := run.exists_of_snoc
      exact inductionHypothesis earlier

/-- Without events nothing happens. -/
theorem eq_start (run : Run step start [] finish) : finish = start := by
  generalize isNil : [] = none at run
  cases run with
  | nil =>
      rfl
  | snoc =>
      exact absurd isNil.symm (List.append_ne_nil_of_right_ne_nil _ (by simp))

/-- One step is a run. -/
theorem single
    {event : ε}
    (taken : step start event finish) : Run step start [event] finish :=
  .snoc .nil taken

/-- One run after another. -/
theorem append
    (earlier : Run step start first middle)
    (later : Run step middle second finish) :
    Run step start (first ++ second) finish := by
  induction later with
  | nil =>
      rw [List.append_nil]
      exact earlier
  | snoc _ last inductionHypothesis =>
      rw [← List.append_assoc]
      exact .snoc inductionHypothesis last

/-- A run of one relation is a run of a larger one. -/
theorem mono
    {larger : σ → ε → σ → Prop}
    (run : Run step start events finish)
    (implies :
      ∀ {before event after},
        step before event after → larger before event after) :
    Run larger start events finish := by
  induction run with
  | nil =>
      exact .nil
  | snoc _ last inductionHypothesis =>
      exact .snoc inductionHypothesis (implies last)

/-- A run that meets a guard before each event is a run under the guard. -/
theorem guarded
    {guard : σ → ε → Prop}
    (run : Run step start events finish)
    (meets :
      ∀ {earlier event later before},
        events = earlier ++ event :: later →
          Run step start earlier before → guard before event) :
    Run (Guarded guard step) start events finish := by
  induction run with
  | nil =>
      exact .nil
  | snoc earlier last inductionHypothesis =>
      refine .snoc (inductionHypothesis fun split => ?_)
        ⟨meets rfl earlier, last⟩
      exact meets (by simp [split]; rfl)

section Views

variable {τ : Type*} {above : τ → ε → τ → Prop}

/-- A run above is seen as a run below when each of its steps is. -/
theorem project
    {holds : τ → Prop}
    {begin finish : τ}
    (view : τ → σ)
    (run : Run above begin events finish)
    (initial : holds begin)
    (preserved :
      ∀ {before event after},
        holds before → above before event after → holds after)
    (projects :
      ∀ {before event after},
        holds before → above before event after →
          step (view before) event (view after)) :
    Run step (view begin) events (view finish) := by
  induction run with
  | nil =>
      exact .nil
  | snoc earlier last inductionHypothesis =>
      exact inductionHypothesis.snoc
        (projects (earlier.invariant preserved initial) last)

/-- A run below is the view of a run above when each of its steps can be. -/
theorem lift
    {holds : τ → Prop}
    {begin : τ}
    (view : τ → σ)
    (run : Run step (view begin) events finish)
    (initial : holds begin)
    (preserved :
      ∀ {before event after},
        holds before → above before event after → holds after)
    (lifts :
      ∀ {before event after},
        holds before → step (view before) event after →
          ∃ lifted, above before event lifted ∧ view lifted = after) :
    ∃ lifted, Run above begin events lifted ∧ view lifted = finish := by
  induction run with
  | nil =>
      exact ⟨begin, .nil, rfl⟩
  | snoc _ last inductionHypothesis =>
      obtain ⟨before, earlier, rfl⟩ := inductionHypothesis
      obtain ⟨after, taken, isAfter⟩ :=
        lifts (earlier.invariant preserved initial) last
      exact ⟨after, earlier.snoc taken, isAfter⟩

end Views

end Run

end Transition
