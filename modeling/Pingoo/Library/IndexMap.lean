import Mathlib.Data.List.Nodup
import Pingoo.Library.Fallible

/-!
# Maps that keep their order

The entries of an index map stay in the order in which they were inserted, and
no key has two of them.
-/

/-- Entries with distinct keys, in the order of their insertion. -/
@[ext]
structure IndexMap (κ α : Type*) where
  entries : List (κ × α)
  distinct : (entries.map Prod.fst).Nodup

namespace IndexMap

variable {κ ε α β : Type}

/-- The keys, in order. -/
def keys (map : IndexMap κ α) : List κ :=
  map.entries.map Prod.fst

/-- The values, in the order of their keys. -/
def values (map : IndexMap κ α) : List α :=
  map.entries.map Prod.snd

/-- A key has one value. -/
theorem eq_of_mem
    {map : IndexMap κ α}
    {key : κ}
    {first second : α}
    (hasFirst : (key, first) ∈ map.entries)
    (hasSecond : (key, second) ∈ map.entries) : first = second := by
  have same :=
    List.inj_on_of_nodup_map map.distinct hasFirst hasSecond rfl
  exact congrArg Prod.snd same

section Insert

/-- The map without entries. -/
def empty : IndexMap κ α where
  entries :=
    []
  distinct :=
    List.nodup_nil

theorem distinct_append
    (map : IndexMap κ α)
    {key : κ}
    (value : α)
    (isNew : key ∉ map.keys) :
    ((map.entries ++ [(key, value)]).map Prod.fst).Nodup := by
  rw [List.map_append]
  exact List.nodup_append_comm.mp (List.nodup_cons.mpr ⟨isNew, map.distinct⟩)

variable [DecidableEq κ]

/-- Give the entry of a key another value. -/
def replaced (entries : List (κ × α)) (key : κ) (value : α) : List (κ × α) :=
  entries.map fun entry => if entry.1 = key then (key, value) else entry

theorem keys_replaced (entries : List (κ × α)) (key : κ) (value : α) :
    (replaced entries key value).map Prod.fst = entries.map Prod.fst := by
  rw [replaced, List.map_map]
  refine List.map_congr_left fun entry _ => ?_
  simp only [Function.comp_apply]
  split
  · next same =>
      exact same.symm
  · rfl

theorem distinct_replaced
    (map : IndexMap κ α)
    (key : κ)
    (value : α) :
    ((replaced map.entries key value).map Prod.fst).Nodup := by
  rw [keys_replaced]
  exact map.distinct

/-- Replace the value of a key that is there, or append the entry. -/
def insert (map : IndexMap κ α) (key : κ) (value : α) : IndexMap κ α :=
  if present : key ∈ map.keys then
    ⟨replaced map.entries key value, distinct_replaced map key value⟩
  else
    ⟨map.entries ++ [(key, value)], distinct_append map value present⟩

/-- Insert entries one after the other. -/
def extend (map : IndexMap κ α) (entries : List (κ × α)) : IndexMap κ α :=
  entries.foldl (fun current entry => current.insert entry.1 entry.2) map

/-- The map of a sequence of entries, of which a later equal key wins. -/
def ofEntries (entries : List (κ × α)) : IndexMap κ α :=
  empty.extend entries

variable {map : IndexMap κ α} {key : κ} {entries : List (κ × α)}

theorem length_insert_of_mem
    (value : α)
    (present : key ∈ map.keys) :
    (map.insert key value).entries.length = map.entries.length := by
  rw [insert, dif_pos present]
  exact List.length_map _

theorem insert_of_notMem
    (value : α)
    (isNew : key ∉ map.keys) :
    (map.insert key value).entries = map.entries ++ [(key, value)] := by
  rw [insert, dif_neg isNew]

/-- New entries with distinct keys are appended. -/
theorem entries_extend
    (distinct : (map.keys ++ entries.map Prod.fst).Nodup) :
    (map.extend entries).entries = map.entries ++ entries := by
  induction entries generalizing map with
  | nil =>
      exact (List.append_nil _).symm
  | cons entry rest inductionHypothesis =>
      have isNew : entry.1 ∉ map.keys := fun present =>
        List.disjoint_of_nodup_append distinct present List.mem_cons_self
      have appended := insert_of_notMem entry.2 isNew
      have nextDistinct :
          ((map.insert entry.1 entry.2).keys ++ rest.map Prod.fst).Nodup := by
        rw [keys, appended]
        simpa [keys] using distinct
      rw [extend, List.foldl_cons, ← extend,
        inductionHypothesis nextDistinct, appended, List.append_assoc]
      rfl

theorem entries_ofEntries (distinct : (entries.map Prod.fst).Nodup) :
    (ofEntries entries).entries = entries :=
  entries_extend distinct

/-- No entry is made of nothing. -/
theorem length_extend_le (map : IndexMap κ α) (entries : List (κ × α)) :
    (map.extend entries).entries.length ≤
      map.entries.length + entries.length := by
  induction entries generalizing map with
  | nil =>
      exact Nat.le_refl _
  | cons entry rest inductionHypothesis =>
      have next := inductionHypothesis (map.insert entry.1 entry.2)
      rw [extend, List.foldl_cons, ← extend, List.length_cons]
      by_cases present : entry.1 ∈ map.keys
      · rw [length_insert_of_mem entry.2 present] at next
        omega
      · rw [insert_of_notMem entry.2 present, List.length_append,
          List.length_singleton] at next
        omega

/-- Where no entry is lost the keys are distinct. -/
theorem nodup_of_length_extend
    (map : IndexMap κ α)
    (all :
      (map.extend entries).entries.length =
        map.entries.length + entries.length) :
    (map.keys ++ entries.map Prod.fst).Nodup := by
  induction entries generalizing map with
  | nil =>
      simpa [keys] using map.distinct
  | cons entry rest inductionHypothesis =>
      rw [extend, List.foldl_cons, ← extend, List.length_cons] at all
      by_cases present : entry.1 ∈ map.keys
      · have fewer := length_extend_le (map.insert entry.1 entry.2) rest
        rw [length_insert_of_mem entry.2 present] at fewer
        omega
      · have appended := insert_of_notMem entry.2 present
        have next := inductionHypothesis (map.insert entry.1 entry.2) (by
          rw [all, appended, List.length_append, List.length_singleton]
          omega)
        rw [keys, appended] at next
        simpa [keys] using next

theorem length_ofEntries_le (entries : List (κ × α)) :
    (ofEntries entries).entries.length ≤ entries.length := by
  have atMost := length_extend_le empty entries
  rw [empty, List.length_nil, Nat.zero_add] at atMost
  exact atMost

theorem nodup_of_length_ofEntries
    (all : (ofEntries entries).entries.length = entries.length) :
    (entries.map Prod.fst).Nodup := by
  refine nodup_of_length_extend empty ?_
  rw [← ofEntries, all, empty, List.length_nil, Nat.zero_add]

/-- An entry after an insertion is the new one, or one of another key. -/
theorem mem_insert_iff
    {value found : α}
    {other : κ} :
    (other, found) ∈ (map.insert key value).entries ↔
      if other = key then
        found = value
      else
        (other, found) ∈ map.entries := by
  by_cases present : key ∈ map.keys
  · rw [insert, dif_pos present]
    obtain ⟨entry, member, isKey⟩ := List.mem_map.mp present
    simp only [replaced, List.mem_map]
    split
    · next same =>
        subst same
        constructor
        · rintro ⟨⟨name, old⟩, -, isEntry⟩
          split at isEntry
          · cases isEntry
            rfl
          · next differs =>
              exact absurd (congrArg Prod.fst isEntry) differs
        · rintro rfl
          exact ⟨entry, member, if_pos isKey⟩
    · next differs =>
        constructor
        · rintro ⟨⟨name, old⟩, wasThere, isEntry⟩
          split at isEntry
          · exact absurd (congrArg Prod.fst isEntry).symm differs
          · exact isEntry ▸ wasThere
        · intro wasThere
          exact ⟨_, wasThere, if_neg differs⟩
  · rw [insert_of_notMem value present, List.mem_append, List.mem_singleton,
      Prod.mk.injEq]
    split
    · next same =>
        subst same
        constructor
        · rintro (wasThere | ⟨-, rfl⟩)
          · exact absurd (List.mem_map_of_mem wasThere) present
          · rfl
        · rintro rfl
          exact .inr ⟨rfl, rfl⟩
    · next differs =>
        exact or_iff_left fun isNew => differs isNew.1

end Insert

section Get

variable [DecidableEq κ] {map : IndexMap κ α} {key : κ}

/-- The value of a key. -/
def get (map : IndexMap κ α) (key : κ) : Option α :=
  (map.entries.find? fun entry => entry.1 = key).map Prod.snd

theorem get_eq_some_iff {value : α} :
    map.get key = some value ↔ (key, value) ∈ map.entries := by
  rw [get, Option.map_eq_some_iff]
  constructor
  · rintro ⟨⟨name, found⟩, isFound, rfl⟩
    have isKey : name = key := by
      simpa using List.find?_some isFound
    exact isKey ▸ List.mem_of_find?_eq_some isFound
  · intro member
    have isSome :
        (map.entries.find? fun entry => entry.1 = key).isSome = true := by
      rw [List.find?_isSome]
      exact ⟨_, member, decide_eq_true rfl⟩
    obtain ⟨⟨name, found⟩, isFound⟩ := Option.isSome_iff_exists.mp isSome
    obtain rfl : name = key := by
      simpa using List.find?_some isFound
    exact ⟨_, isFound, eq_of_mem (List.mem_of_find?_eq_some isFound) member⟩

theorem mem_keys_iff : key ∈ map.keys ↔ (map.get key).isSome = true := by
  rw [Option.isSome_iff_exists, keys, List.mem_map]
  simp only [get_eq_some_iff]
  constructor
  · rintro ⟨⟨name, value⟩, member, rfl⟩
    exact ⟨value, member⟩
  · rintro ⟨value, member⟩
    exact ⟨_, member, rfl⟩

/-- Inserting changes the value of one key. -/
theorem get_insert (value : α) :
    (map.insert key value).get = Function.update map.get key (some value) := by
  funext other
  refine Option.ext fun found => ?_
  rw [get_eq_some_iff, mem_insert_iff, Function.update_apply]
  split
  · rw [Option.some.injEq, eq_comm]
  · rw [get_eq_some_iff]

end Get

/-- Apply a function that may fail to the entries, one after the other. -/
def traverseEntries (call : κ → α → Except ε β) :
    (entries : List (κ × α)) →
      Except ε { result : List (κ × β) //
        result.map Prod.fst = entries.map Prod.fst }
  | [] =>
      .ok ⟨[], rfl⟩
  | (key, value) :: rest => do
      let result ← call key value
      let others ← traverseEntries call rest
      .ok ⟨(key, result) :: others.val, by simp [others.property]⟩

/-- Apply a function that may fail to every entry; the keys stay. -/
def traverse
    (call : κ → α → Except ε β)
    (map : IndexMap κ α) : Except ε (IndexMap κ β) := do
  let result ← traverseEntries call map.entries
  .ok ⟨result.val, by
    rw [result.property]
    exact map.distinct⟩

/-- The entries of the result are what the calls give for the entries. -/
theorem mem_traverseEntries
    {call : κ → α → Except ε β}
    {entries : List (κ × α)}
    {result :
      { result : List (κ × β) // result.map Prod.fst = entries.map Prod.fst }}
    (traversed : traverseEntries call entries = .ok result)
    {key : κ}
    {image : β} :
    (key, image) ∈ result.val ↔
      ∃ value, (key, value) ∈ entries ∧ call key value = .ok image := by
  induction entries with
  | nil =>
      cases traversed
      simp
  | cons entry rest inductionHypothesis =>
      obtain ⟨first, value⟩ := entry
      obtain ⟨called, calledOk, restTraversed⟩ :=
        Fallible.bind_eq_ok_iff.mp traversed
      obtain ⟨others, othersOk, same⟩ :=
        Fallible.bind_eq_ok_iff.mp restTraversed
      cases same
      have restIff := inductionHypothesis othersOk
      simp only [List.mem_cons, Prod.mk.injEq, restIff]
      constructor
      · rintro (⟨rfl, rfl⟩ | ⟨other, member, otherOk⟩)
        · exact ⟨value, Or.inl ⟨rfl, rfl⟩, calledOk⟩
        · exact ⟨other, Or.inr member, otherOk⟩
      · rintro ⟨other, ⟨rfl, rfl⟩ | member, otherOk⟩
        · rw [calledOk, Except.ok.injEq] at otherOk
          exact Or.inl ⟨rfl, otherOk.symm⟩
        · exact Or.inr ⟨other, member, otherOk⟩

theorem mem_traverse
    {call : κ → α → Except ε β}
    {map : IndexMap κ α}
    {result : IndexMap κ β}
    (traversed : traverse call map = .ok result)
    {key : κ}
    {image : β} :
    (key, image) ∈ result.entries ↔
      ∃ value, (key, value) ∈ map.entries ∧ call key value = .ok image := by
  obtain ⟨entries, entriesOk, same⟩ := Fallible.bind_eq_ok_iff.mp traversed
  cases same
  exact mem_traverseEntries entriesOk

end IndexMap
