import Mathlib.Data.List.Count
import Mathlib.Tactic.Common

/-!
# Windows that do not overlap

Events happen in windows of one length, and the windows do not overlap.  An
interval of that length then meets at most two windows, so a bound on the events
of every window gives twice the bound for every such interval.
-/

namespace SpacedWindows

variable {ε κ : Type*} [DecidableEq κ]

/--
The events that are counted: each lies in its window, and the windows of two
different keys start a whole period apart.
-/
structure Spaced
    (counted : ε → Bool)
    (window : ε → κ)
    (start time : ε → Int)
    (period : Int)
    (events : List ε) : Prop where
  within :
    ∀ event ∈ events, counted event = true →
      start event ≤ time event ∧ time event < start event + period
  apart :
    ∀ event ∈ events, ∀ other ∈ events,
      window event = window other ∨
        start event + period ≤ start other ∨
          start other + period ≤ start event

variable
  {counted part : ε → Bool}
  {window : ε → κ}
  {start time : ε → Int}
  {period : Int}
  {events : List ε}
  {limit : Nat}

omit [DecidableEq κ] in
/-- One more event, in a window of the others or a period away from theirs. -/
theorem Spaced.cons
    {event : ε}
    (rest : Spaced counted window start time period events)
    (within :
      counted event = true →
        start event ≤ time event ∧ time event < start event + period)
    (apart :
      ∀ other ∈ events,
        window event = window other ∨
          start event + period ≤ start other ∨
            start other + period ≤ start event) :
    Spaced counted window start time period (event :: events) := by
  constructor
  · intro other member
    rcases List.mem_cons.mp member with rfl | inRest
    · exact within
    · exact rest.within other inRest
  · intro first firstMember second secondMember
    rcases List.mem_cons.mp firstMember with rfl | firstInRest
    · rcases List.mem_cons.mp secondMember with rfl | secondInRest
      · exact .inl rfl
      · exact apart second secondInRest
    · rcases List.mem_cons.mp secondMember with rfl | secondInRest
      · exact (apart first firstInRest).imp Eq.symm Or.symm
      · exact rest.apart first firstInRest second secondInRest

/--
A part of the events whose windows start less than a period apart lies in one
window, and is bounded like it.
-/
theorem Spaced.countP_le_of_near
    (spaced : Spaced counted window start time period events)
    (bounded :
      ∀ key, events.countP
        (fun event => counted event && decide (window event = key)) ≤ limit)
    (near :
      ∀ event ∈ events, ∀ other ∈ events,
        counted event = true → part event = true →
          counted other = true → part other = true →
            start event < start other + period) :
    events.countP (fun event => counted event && part event) ≤ limit := by
  by_cases some : ∃ event ∈ events, (counted event && part event) = true
  · obtain ⟨event, member, isCounted⟩ := some
    rw [Bool.and_eq_true] at isCounted
    refine Nat.le_trans (List.countP_mono_left ?_) (bounded (window event))
    intro other otherMember otherCounted
    rw [Bool.and_eq_true] at otherCounted
    have before :=
      near other otherMember event member otherCounted.1 otherCounted.2
        isCounted.1 isCounted.2
    have after :=
      near event member other otherMember isCounted.1 isCounted.2
        otherCounted.1 otherCounted.2
    have sameWindow : window other = window event := by
      rcases spaced.apart other otherMember event member with
        same | isBefore | isAfter
      · exact same
      · omega
      · omega
    simp [otherCounted.1, sameWindow]
  · have zero :
        events.countP (fun event => counted event && part event) = 0 := by
      rw [List.countP_eq_zero]
      intro event member isCounted
      exact some ⟨event, member, isCounted⟩
    omega

/-- An interval as long as the windows meets two of them at most. -/
theorem Spaced.countP_interval_le
    (spaced : Spaced counted window start time period events)
    (bounded :
      ∀ key, events.countP
        (fun event => counted event && decide (window event = key)) ≤ limit)
    (begin : Int) :
    events.countP
        (fun event => counted event &&
          (decide (begin ≤ time event) &&
            decide (time event < begin + period))) ≤
      2 * limit := by
  -- the windows that start before the interval, and those that start in it
  have early :
      events.countP
          (fun event => counted event &&
            (decide (begin ≤ time event) && decide (start event ≤ begin))) ≤
        limit := by
    refine spaced.countP_le_of_near bounded ?_
    intro event member other otherMember isCounted inPart otherCounted
      otherInPart
    simp only [Bool.and_eq_true, decide_eq_true_eq] at inPart otherInPart
    have otherInWindow := spaced.within other otherMember otherCounted
    omega
  have late :
      events.countP
          (fun event => counted event &&
            (decide (begin < start event) &&
              decide (time event < begin + period))) ≤
        limit := by
    refine spaced.countP_le_of_near bounded ?_
    intro event member other otherMember isCounted inPart otherCounted
      otherInPart
    simp only [Bool.and_eq_true, decide_eq_true_eq] at inPart otherInPart
    have inWindow := spaced.within event member isCounted
    omega
  rw [List.countP_eq_countP_filter_add _ _
    (fun event => decide (start event ≤ begin)), List.countP_filter,
    List.countP_filter, Nat.two_mul]
  refine Nat.add_le_add
    (Nat.le_trans (List.countP_mono_left ?_) early)
    (Nat.le_trans (List.countP_mono_left ?_) late)
  · intro event member holds
    simp only [Bool.and_eq_true, decide_eq_true_eq] at holds ⊢
    exact ⟨holds.1.1, holds.1.2.1, holds.2⟩
  · intro event member holds
    simp only [Bool.and_eq_true, decide_eq_true_eq, Bool.not_eq_true',
      decide_eq_false_iff_not] at holds ⊢
    exact ⟨holds.1.1, by omega, holds.1.2.2⟩

end SpacedWindows
