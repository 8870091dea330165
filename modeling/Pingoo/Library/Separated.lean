import Mathlib.Data.List.Basic
import Mathlib.Data.List.TakeWhile

/-!
# Lists joined by a separator

`List.intercalate` puts a separator between the lists that it joins.  Joining
groups of lists and then the results is joining all of them, and a separator of
several elements is its first element before parts that begin with the others.
A scan up to a separator takes a joined list apart again.
-/

namespace Separated

variable {α : Type*}

/-- Two joined groups of lists are one joined group. -/
theorem intercalate_append
    (separator : List α)
    {first second : List (List α)}
    (firstNonempty : first ≠ [])
    (secondNonempty : second ≠ []) :
    separator.intercalate (first ++ second) =
      separator.intercalate first ++
        (separator ++ separator.intercalate second) := by
  induction first with
  | nil =>
      exact absurd rfl firstNonempty
  | cons part rest inductionHypothesis =>
      by_cases last : rest = []
      · rw [last, List.singleton_append,
          List.intercalate_cons_of_ne_nil secondNonempty,
          List.intercalate_singleton, List.append_assoc]
      · rw [List.cons_append, List.intercalate_cons_of_ne_nil
            (List.append_ne_nil_of_left_ne_nil last second),
          inductionHypothesis last, List.intercalate_cons_of_ne_nil last]
        simp only [List.append_assoc]

/-- Groups that are joined first are joined as the lists they consist of. -/
theorem intercalate_map_intercalate
    (separator : List α)
    {groups : List (List (List α))}
    (nonempty : ∀ group ∈ groups, group ≠ []) :
    separator.intercalate (groups.map separator.intercalate) =
      separator.intercalate groups.flatten := by
  induction groups with
  | nil =>
      rfl
  | cons group rest inductionHypothesis =>
      have groupNonempty := nonempty group List.mem_cons_self
      have restNonempty : ∀ other ∈ rest, other ≠ [] :=
        fun other member => nonempty other (List.mem_cons_of_mem group member)
      by_cases last : rest = []
      · simp [last]
      · have flattenNonempty : rest.flatten ≠ [] := by
          obtain ⟨other, others, rfl⟩ := List.exists_cons_of_ne_nil last
          exact List.append_ne_nil_of_left_ne_nil
            (restNonempty other List.mem_cons_self) others.flatten
        have mapNonempty : rest.map separator.intercalate ≠ [] := by
          simpa using last
        rw [List.map_cons, List.intercalate_cons_of_ne_nil mapNonempty,
          inductionHypothesis restNonempty, List.flatten_cons,
          intercalate_append separator groupNonempty flattenNonempty,
          List.append_assoc]

/-- The rest of a separator can be read as the beginning of the next part. -/
theorem intercalate_cons_separator
    (first : α)
    (others part : List α)
    (parts : List (List α)) :
    (first :: others).intercalate (part :: parts) =
      [first].intercalate (part :: parts.map (others ++ ·)) := by
  induction parts generalizing part with
  | nil =>
      rfl
  | cons next rest inductionHypothesis =>
      have tail :
          ∀ beginning : List α,
            [first].intercalate
                ((beginning ++ next) :: rest.map (others ++ ·)) =
              beginning ++
                [first].intercalate (next :: rest.map (others ++ ·)) := by
        intro beginning
        cases rest with
        | nil =>
            simp
        | cons following remaining =>
            simp [List.intercalate_cons_cons]
      rw [List.intercalate_cons_cons, inductionHypothesis, List.map_cons,
        List.intercalate_cons_cons, tail]
      simp

section Scan

variable {test : α → Bool} {first rest : List α}

/-- A scan stops at the first element that fails the test. -/
theorem takeWhile_append_stop
    (passes : ∀ element ∈ first, test element = true)
    (stops : ∀ element ∈ rest.head?, test element = false) :
    (first ++ rest).takeWhile test = first := by
  rw [List.takeWhile_append_of_pos passes]
  cases rest with
  | nil =>
      exact List.append_nil first
  | cons element others =>
      rw [List.takeWhile_cons_of_neg (by simp [stops element rfl]),
        List.append_nil]

/-- What follows begins with that element. -/
theorem dropWhile_append_stop
    (passes : ∀ element ∈ first, test element = true)
    (stops : ∀ element ∈ rest.head?, test element = false) :
    (first ++ rest).dropWhile test = rest := by
  rw [List.dropWhile_append_of_pos passes]
  cases rest with
  | nil =>
      rfl
  | cons element others =>
      rw [List.dropWhile_cons_of_neg (by simp [stops element rfl])]

variable [DecidableEq α] {before : List α} {separator : α}

theorem passes_of_notMem (absent : separator ∉ before) :
    ∀ element ∈ before, decide (element ≠ separator) = true :=
  fun _ member => decide_eq_true (ne_of_mem_of_not_mem member absent)

theorem stops_at_separator (after : List α) :
    ∀ element ∈ (separator :: after).head?,
      decide (element ≠ separator) = false := by
  rintro element ⟨⟩
  exact decide_eq_false (not_not_intro rfl)

/-- What stands before the first occurrence of a separator. -/
theorem takeWhile_ne_append_cons
    (absent : separator ∉ before)
    (after : List α) :
    (before ++ separator :: after).takeWhile (· ≠ separator) = before :=
  takeWhile_append_stop (passes_of_notMem absent) (stops_at_separator after)

/-- What is left from the first occurrence of a separator on. -/
theorem dropWhile_ne_append_cons
    (absent : separator ∉ before)
    (after : List α) :
    (before ++ separator :: after).dropWhile (· ≠ separator) =
      separator :: after :=
  dropWhile_append_stop (passes_of_notMem absent) (stops_at_separator after)

end Scan

end Separated
