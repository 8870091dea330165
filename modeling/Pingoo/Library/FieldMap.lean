import Mathlib.Data.List.Basic

/-!
# Field maps

A field map holds any number of values under a name, in the order they were
added.  Inserting replaces all values of a name; appending adds one.  Every
operation is described by what it does to the values of each name.
-/

/-- Names with the values that were added under them, oldest first. -/
structure FieldMap (κ β : Type*) where
  entries : List (κ × β)
  deriving Repr, DecidableEq

namespace FieldMap

variable {κ β : Type*} [DecidableEq κ]

/-- The map without any field. -/
def empty : FieldMap κ β where
  entries :=
    []

instance : EmptyCollection (FieldMap κ β) :=
  ⟨empty⟩

/-- All values of a name. -/
def getAll (map : FieldMap κ β) (name : κ) : List β :=
  map.entries.filterMap fun entry =>
    if entry.1 = name then some entry.2 else none

/-- The first value of a name. -/
def get (map : FieldMap κ β) (name : κ) : Option β :=
  (map.getAll name).head?

/-- Whether a name has a value. -/
def containsKey (map : FieldMap κ β) (name : κ) : Bool :=
  (map.get name).isSome

/-- Drop all values of a name. -/
def remove (map : FieldMap κ β) (name : κ) : FieldMap κ β where
  entries :=
    map.entries.filter fun entry => entry.1 ≠ name

/-- Add a value after those the name has. -/
def append (map : FieldMap κ β) (name : κ) (value : β) : FieldMap κ β where
  entries :=
    map.entries ++ [(name, value)]

/-- Make a value the only one of its name. -/
def insert (map : FieldMap κ β) (name : κ) (value : β) : FieldMap κ β :=
  (map.remove name).append name value

@[simp] theorem getAll_empty (name : κ) :
    getAll (∅ : FieldMap κ β) name = [] :=
  rfl

@[simp] theorem getAll_append_self
    (map : FieldMap κ β)
    (name : κ)
    (value : β) :
    (map.append name value).getAll name = map.getAll name ++ [value] := by
  simp [append, getAll]

@[simp] theorem getAll_append_of_ne
    (map : FieldMap κ β)
    {name other : κ}
    (different : other ≠ name)
    (value : β) :
    (map.append name value).getAll other = map.getAll other := by
  simp [append, getAll, Ne.symm different]

@[simp] theorem getAll_remove_self (map : FieldMap κ β) (name : κ) :
    (map.remove name).getAll name = [] := by
  simp only [remove, getAll, List.filterMap_eq_nil_iff, List.mem_filter,
    decide_eq_true_eq]
  rintro entry ⟨-, kept⟩
  exact if_neg kept

@[simp] theorem getAll_remove_of_ne
    (map : FieldMap κ β)
    {name other : κ}
    (different : other ≠ name) :
    (map.remove name).getAll other = map.getAll other := by
  simp only [remove, getAll, List.filterMap_filter]
  congr
  funext entry
  by_cases isOther : entry.1 = other <;> simp [isOther, different]

@[simp] theorem getAll_insert_self
    (map : FieldMap κ β)
    (name : κ)
    (value : β) :
    (map.insert name value).getAll name = [value] := by
  simp [insert]

@[simp] theorem getAll_insert_of_ne
    (map : FieldMap κ β)
    {name other : κ}
    (different : other ≠ name)
    (value : β) :
    (map.insert name value).getAll other = map.getAll other := by
  simp [insert, different]

/-- Add values after those the name has. -/
def appendAll (map : FieldMap κ β) (name : κ) (values : List β) :
    FieldMap κ β :=
  values.foldl (fun fields value => fields.append name value) map

omit [DecidableEq κ] in
theorem appendAll_cons
    (map : FieldMap κ β)
    (name : κ)
    (value : β)
    (rest : List β) :
    map.appendAll name (value :: rest) =
      (map.append name value).appendAll name rest :=
  rfl

@[simp] theorem getAll_appendAll_self
    (map : FieldMap κ β)
    (name : κ)
    (values : List β) :
    (map.appendAll name values).getAll name = map.getAll name ++ values := by
  induction values generalizing map with
  | nil =>
      simp [appendAll]
  | cons value rest inductionHypothesis =>
      rw [appendAll_cons, inductionHypothesis, getAll_append_self,
        List.append_assoc, List.singleton_append]

@[simp] theorem getAll_appendAll_of_ne
    (map : FieldMap κ β)
    {name other : κ}
    (different : other ≠ name)
    (values : List β) :
    (map.appendAll name values).getAll other = map.getAll other := by
  induction values generalizing map with
  | nil =>
      rfl
  | cons value rest inductionHypothesis =>
      rw [appendAll_cons, inductionHypothesis,
        getAll_append_of_ne map different]

/-- Drop all values of several names. -/
def removeAll (map : FieldMap κ β) (names : List κ) : FieldMap κ β :=
  names.foldl remove map

@[simp] theorem getAll_removeAll_of_notMem
    (map : FieldMap κ β)
    {names : List κ}
    {name : κ}
    (kept : name ∉ names) :
    (map.removeAll names).getAll name = map.getAll name := by
  induction names generalizing map with
  | nil =>
      rfl
  | cons first rest inductionHypothesis =>
      simp only [List.mem_cons, not_or] at kept
      have removed :
          map.removeAll (first :: rest) = (map.remove first).removeAll rest :=
        rfl
      rw [removed, inductionHypothesis (map.remove first) kept.2,
        getAll_remove_of_ne map kept.1]

@[simp] theorem getAll_removeAll_of_mem
    (map : FieldMap κ β)
    {names : List κ}
    {name : κ}
    (removed : name ∈ names) :
    (map.removeAll names).getAll name = [] := by
  induction names generalizing map with
  | nil =>
      cases removed
  | cons first rest inductionHypothesis =>
      have removeFirst :
          map.removeAll (first :: rest) = (map.remove first).removeAll rest :=
        rfl
      rw [removeFirst]
      by_cases inRest : name ∈ rest
      · exact inductionHypothesis (map.remove first) inRest
      · have isFirst : name = first :=
          (List.mem_cons.mp removed).resolve_right inRest
        rw [getAll_removeAll_of_notMem (map.remove first) inRest, isFirst,
          getAll_remove_self]

end FieldMap
