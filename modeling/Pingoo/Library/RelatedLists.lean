import Mathlib.Data.List.Forall2

namespace RelatedLists

/-!
# Lists whose items are related one by one

What holds of an item of one list can be said of its counterpart in the other.
-/

variable
  {α β : Type}
  {related : α → β → Prop}
  {first : List α}
  {second : List β}

/-- What stands in the second list is related to something in the first. -/
theorem exists_of_mem_right
    (all : List.Forall₂ related first second)
    {item : β}
    (member : item ∈ second) : ∃ other ∈ first, related other item := by
  induction all with
  | nil =>
      cases member
  | cons isRelated _ inductionHypothesis =>
      rcases List.mem_cons.mp member with rfl | inRest
      · exact ⟨_, List.mem_cons_self, isRelated⟩
      · obtain ⟨other, isOther, isRelated⟩ := inductionHypothesis inRest
        exact ⟨other, List.mem_cons_of_mem _ isOther, isRelated⟩

/-- What stands in the first list is related to something in the second. -/
theorem exists_of_mem_left
    (all : List.Forall₂ related first second)
    {item : α}
    (member : item ∈ first) : ∃ other ∈ second, related item other :=
  exists_of_mem_right all.flip member

/-- What is found in related lists by tests that agree is related. -/
theorem rel_find?
    {test : α → Bool}
    {otherTest : β → Bool}
    (agree : ∀ item value, related item value → test item = otherTest value)
    (all : List.Forall₂ related first second) :
    Option.Rel related (first.find? test) (second.find? otherTest) := by
  induction all with
  | nil =>
      exact .none
  | cons isRelated rest inductionHypothesis =>
      rw [List.find?_cons, List.find?_cons, ← agree _ _ isRelated]
      split
      · exact .some isRelated
      · exact inductionHypothesis

/-- Related items have the same image where the images of two items agree. -/
theorem map_eq_map
    {γ : Type}
    {image : α → γ}
    {otherImage : β → γ}
    (agree : ∀ item value, related item value → image item = otherImage value)
    (all : List.Forall₂ related first second) :
    first.map image = second.map otherImage := by
  induction all with
  | nil =>
      rfl
  | cons isRelated rest inductionHypothesis =>
      rw [List.map_cons, List.map_cons, agree _ _ isRelated,
        inductionHypothesis]

end RelatedLists
