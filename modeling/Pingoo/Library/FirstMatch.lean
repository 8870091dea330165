import Mathlib.Data.List.Nodup

/-!
# The first match of a list

Which element of a list is found depends on the order of the elements.  Order is
stated with two-element sublists.
-/

namespace FirstMatch

variable {α β : Type*}

/-- One element stands before another one in a list. -/
def Before (first second : α) (items : List α) : Prop :=
  [first, second].Sublist items

/-- What stands at a split is before what follows it. -/
theorem before_of_mem
    {earlier later : List α}
    {first second : α}
    (member : second ∈ later) :
    Before first second (earlier ++ first :: later) :=
  ((List.singleton_sublist.mpr member).cons_cons first).trans
    (List.sublist_append_right earlier _)

theorem Before.map
    {first second : α}
    {items : List α}
    (before : Before first second items)
    (image : α → β) :
    Before (image first) (image second) (items.map image) :=
  List.Sublist.map image before

theorem Before.filter
    {first second : α}
    {items : List α}
    (before : Before first second items)
    {test : α → Bool}
    (firstPasses : test first = true)
    (secondPasses : test second = true) :
    Before first second (items.filter test) := by
  have filtered := List.Sublist.filter test before
  simp only [List.filter_cons, firstPasses, secondPasses, if_true,
    List.filter_nil] at filtered
  exact filtered

/-- Two elements of a list without duplicates have one order. -/
theorem Before.asymm
    {first second : α}
    {items : List α}
    (nodup : items.Nodup)
    (before : Before first second items) :
    ¬ Before second first items := by
  induction items with
  | nil =>
      cases before
  | cons item rest inductionHypothesis =>
      rw [List.nodup_cons] at nodup
      intro after
      cases before with
      | cons _ before =>
          cases after with
          | cons _ after =>
              exact inductionHypothesis nodup.2 before after
          | cons_cons _ after =>
              exact nodup.1 (before.subset (by simp))
      | cons_cons _ before =>
          cases after with
          | cons _ after =>
              exact nodup.1 (after.subset (by simp))
          | cons_cons _ after =>
              exact nodup.1 (before.subset (by simp))

/-- Something is found where something passes the test. -/
theorem exists_find?_eq_some
    (test : α → Bool)
    {items : List α}
    {item : α}
    (member : item ∈ items)
    (passes : test item = true) :
    ∃ first, items.find? test = some first :=
  Option.isSome_iff_exists.mp (List.find?_isSome.mpr ⟨item, member, passes⟩)

/-- Whatever else passes a test stands behind the element that is found. -/
theorem eq_or_before_of_find?
    {items : List α}
    {test : α → Bool}
    {item other : α}
    (found : items.find? test = some item)
    (member : other ∈ items)
    (passes : test other = true) :
    other = item ∨ Before item other items := by
  obtain ⟨-, earlier, later, rfl, nonePasses⟩ :=
    List.find?_eq_some_iff_append.mp found
  rw [List.mem_append, List.mem_cons] at member
  rcases member with isEarlier | same | isLater
  · have fails := nonePasses other isEarlier
    simp [passes] at fails
  · exact Or.inl same
  · exact Or.inr (before_of_mem isLater)

/--
What is found first is good exactly when something good passes the test and
everything before it that passes the test is good as well.
-/
theorem exists_find?_and_iff
    (items : List α)
    (test : α → Bool)
    (good : α → Prop) :
    (∃ item, items.find? test = some item ∧ good item) ↔
      ∃ earlier item later,
        items = earlier ++ item :: later ∧ test item = true ∧ good item ∧
          ∀ other ∈ earlier, test other = true → good other := by
  constructor
  · rintro ⟨item, found, isGood⟩
    obtain ⟨passes, earlier, later, shape, nonePasses⟩ :=
      List.find?_eq_some_iff_append.mp found
    refine ⟨earlier, item, later, shape, passes, isGood, ?_⟩
    intro other isEarlier otherPasses
    have fails := nonePasses other isEarlier
    simp [otherPasses] at fails
  · rintro ⟨earlier, item, later, rfl, passes, isGood, allGood⟩
    rw [List.find?_append]
    cases found : earlier.find? test with
    | none =>
        exact ⟨item, by simp [passes], isGood⟩
    | some other =>
        exact ⟨other, rfl,
          allGood other (List.mem_of_find?_eq_some found)
            (List.find?_some found)⟩

end FirstMatch
