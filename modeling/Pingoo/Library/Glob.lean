import Mathlib.Data.List.Infix

/-!
# Patterns with a wildcard

A pattern is a list of symbols, one of which stands for any sequence of symbols.
Every other symbol stands for itself.
-/

namespace Glob

variable {α : Type*} [DecidableEq α]

/-- Whether a text matches a pattern with the wildcard `star`. -/
def isMatch (star : α) : List α → List α → Bool
  | [], text =>
      text.isEmpty
  | symbol :: pattern, text =>
      if symbol = star then
        text.tails.any (isMatch star pattern)
      else
        match text with
        | [] => false
        | first :: rest => decide (first = symbol) && isMatch star pattern rest

variable {star : α}

/-- A wildcard takes some start of the text, and leaves the rest. -/
theorem isMatch_star_cons
    {pattern text : List α} :
    isMatch star (star :: pattern) text = true ↔
      ∃ rest, rest <:+ text ∧ isMatch star pattern rest = true := by
  simp [isMatch, List.mem_tails]

/-- A lone wildcard matches every text. -/
theorem isMatch_star (text : List α) : isMatch star [star] text = true :=
  isMatch_star_cons.mpr ⟨[], List.nil_suffix, rfl⟩

end Glob
