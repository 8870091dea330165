import Mathlib.Data.List.AList
import Mathlib.Data.List.Induction

namespace KeyedFold

/-!
# Loops over the entries of a map

A loop over a hash map visits its entries in an order nobody controls.  When
every visit touches only what belongs to the entry's own key, the order does not
matter: seen from one key, the whole loop is either one visit or none.  This
module states that rule once, for any state observed key by key, and gives the
duplicate-free key sets such loops collect.
-/

variable {σ ι α δ : Type*} [DecidableEq α]

section Loop

/-- A visit changes only what is observed at the key of the visited item. -/
def Local
    (view : σ → α → δ)
    (visit : σ → ι → σ)
    (key : ι → α)
    (effect : ι → δ → δ) : Prop :=
  ∀ state item query,
    view (visit state item) query =
      if query = key item then
        effect item (view state query)
      else
        view state query

variable
  {view : σ → α → δ}
  {visit : σ → ι → σ}
  {key : ι → α}
  {effect : ι → δ → δ}

/-- A key that no item has is left alone by the whole loop. -/
theorem view_foldl_of_forall_ne
    (isLocal : Local view visit key effect)
    {items : List ι}
    (state : σ)
    {query : α}
    (absent : ∀ item ∈ items, key item ≠ query) :
    view (items.foldl visit state) query = view state query := by
  induction items generalizing state with
  | nil =>
      rfl
  | cons item rest inductionHypothesis =>
      have different : query ≠ key item :=
        (absent item List.mem_cons_self).symm
      rw [List.foldl_cons,
        inductionHypothesis _ fun other member =>
          absent other (List.mem_cons_of_mem _ member),
        isLocal, if_neg different]

/-- The key of an item is visited exactly once when keys are distinct. -/
theorem view_foldl_of_mem
    (isLocal : Local view visit key effect)
    {items : List ι}
    (distinct : (items.map key).Nodup)
    (state : σ)
    {item : ι}
    (member : item ∈ items) :
    view (items.foldl visit state) (key item) =
      effect item (view state (key item)) := by
  induction items generalizing state with
  | nil =>
      simp at member
  | cons first rest inductionHypothesis =>
      rw [List.map_cons, List.nodup_cons] at distinct
      rw [List.foldl_cons]
      rcases List.mem_cons.mp member with isFirst | inRest
      · subst item
        have absent : ∀ other ∈ rest, key other ≠ key first := by
          intro other otherMember same
          exact distinct.1
            (List.mem_map.mpr ⟨other, otherMember, same⟩)
        rw [view_foldl_of_forall_ne isLocal _ absent,
          isLocal, if_pos rfl]
      · have different : key item ≠ key first := by
          intro same
          exact distinct.1
            (List.mem_map.mpr ⟨item, inRest, same⟩)
        rw [inductionHypothesis distinct.2 _ inRest,
          isLocal, if_neg different]

end Loop

section Entries

variable {γ : Type*} {view : σ → α → δ}
  {visit : σ → α → γ → σ} {effect : α → γ → δ → δ}

/--
A loop over the entries of a map, seen from one key: the effect of the value
stored there, or nothing when the key is not in the map.
-/
theorem view_foldl_entries
    (isLocal :
      ∀ state key value query,
        view (visit state key value) query =
          if query = key then
            effect key value (view state query)
          else
            view state query)
    (source : AList fun _ : α => γ)
    (state : σ)
    (query : α) :
    view (source.foldl visit state) query =
      match source.lookup query with
      | none => view state query
      | some value => effect query value (view state query) := by
  have entryLocal :
      Local view
        (fun current (entry : Sigma fun _ : α => γ) =>
          visit current entry.1 entry.2)
        Sigma.fst (fun entry => effect entry.1 entry.2) :=
    fun current entry other => isLocal current entry.1 entry.2 other
  cases found : source.lookup query with
  | none =>
      refine view_foldl_of_forall_ne entryLocal state ?_
      rintro entry member rfl
      exact AList.lookup_eq_none.mp found
        (List.mem_map.mpr ⟨entry, member, rfl⟩)
  | some value =>
      exact view_foldl_of_mem entryLocal source.nodupKeys state
        (AList.mem_lookup_iff.mp found)

end Entries

section Index

/-- Enter an item into an index under each of its keys. -/
def enter
    (keys : ι → List α)
    (index : AList fun _ : α => ι)
    (item : ι) : AList fun _ : α => ι :=
  (keys item).foldl (fun current key => current.insert key item) index

/-- Entering an item changes what is found under its keys, and nothing else. -/
theorem lookup_enter
    (keys : ι → List α)
    (index : AList fun _ : α => ι)
    (item : ι)
    (query : α) :
    (enter keys index item).lookup query =
      if query ∈ keys item then some item else index.lookup query := by
  unfold enter
  induction keys item generalizing index with
  | nil =>
      rfl
  | cons key rest inductionHypothesis =>
      rw [List.foldl_cons, inductionHypothesis]
      by_cases inRest : query ∈ rest
      · simp [inRest]
      · by_cases same : query = key
        · subst query
          simp [inRest]
        · simp [inRest, same, AList.lookup_insert_ne]

/-- An index finds the last item that was entered under a key. -/
theorem lookup_foldl_enter
    (keys : ι → List α)
    (items : List ι)
    (query : α) :
    (items.foldl (enter keys) ∅).lookup query =
      items.reverse.find? fun item => decide (query ∈ keys item) := by
  induction items using List.reverseRec with
  | nil =>
      rfl
  | append_singleton earlier item inductionHypothesis =>
      rw [List.foldl_append, List.foldl_cons, List.foldl_nil, lookup_enter,
        inductionHypothesis, List.reverse_append]
      by_cases named : query ∈ keys item
      · simp [named]
      · simp [named]

end Index

section First

variable {β : Type*}

-- the key of an item, and the value it offers for it
variable (key : ι → α) (offered : ι → Option β)

/-- Take the value of an item if its key has none yet. -/
def keepFirst (book : α → Option β) (item : ι) : α → Option β :=
  Function.update book (key item) ((book (key item)).or (offered item))

/-- The first value that is offered for a key. -/
def firstOffered (items : List ι) (query : α) : Option β :=
  items.findSome? fun item => if key item = query then offered item else none

variable {key offered}

theorem firstOffered_cons (item : ι) (rest : List ι) (query : α) :
    firstOffered key offered (item :: rest) query =
      (if key item = query then offered item else none).or
        (firstOffered key offered rest query) := by
  rw [firstOffered, List.findSome?_cons]
  cases if key item = query then offered item else none <;> rfl

/-- A value is offered for a key when an item of the key offers one. -/
theorem isSome_firstOffered_iff {items : List ι} {query : α} :
    (firstOffered key offered items query).isSome = true ↔
      ∃ item ∈ items, key item = query ∧ (offered item).isSome = true := by
  rw [firstOffered, List.findSome?_isSome_iff]
  refine exists_congr fun item => and_congr_right fun _ => ?_
  split
  · next same =>
      exact (and_iff_right same).symm
  · next differs =>
      exact ⟨nofun, fun offers => absurd offers.1 differs⟩

/-- A book keeps what it has, and else the first value that is offered. -/
theorem foldl_keepFirst
    (book : α → Option β)
    (items : List ι)
    (query : α) :
    items.foldl (keepFirst key offered) book query =
      (book query).or (firstOffered key offered items query) := by
  induction items generalizing book with
  | nil =>
      exact Option.or_none.symm
  | cons item rest inductionHypothesis =>
      rw [List.foldl_cons, inductionHypothesis, firstOffered_cons, keepFirst]
      by_cases same : key item = query
      · subst same
        rw [Function.update_self, Option.or_assoc, if_pos rfl]
      · rw [Function.update_of_ne (Ne.symm same), if_neg same, Option.none_or]

/-- A key that has a value keeps it. -/
theorem keepFirst_eq_self
    {book : α → Option β}
    {item : ι}
    (noNew : (book (key item)).or (offered item) = book (key item)) :
    keepFirst key offered book item = book := by
  rw [keepFirst, noNew, Function.update_eq_self]

end First

/-- A set of keys in the order in which a loop would visit it. -/
@[ext]
structure KeySet (α : Type*) where
  keys : List α
  nodup : keys.Nodup

namespace KeySet

/-- The set without any key. -/
def empty : KeySet α where
  keys :=
    []
  nodup :=
    List.nodup_nil

/-- Add one key; adding a key twice changes nothing. -/
def insert (set : KeySet α) (key : α) : KeySet α where
  keys :=
    set.keys.insert key
  nodup :=
    set.nodup.insert

instance : Membership α (KeySet α) where
  mem set key :=
    key ∈ set.keys

omit [DecidableEq α] in
theorem mem_keys {set : KeySet α} {key : α} :
    key ∈ set.keys ↔ key ∈ set :=
  Iff.rfl

instance (set : KeySet α) (key : α) : Decidable (key ∈ set) :=
  inferInstanceAs (Decidable (key ∈ set.keys))

omit [DecidableEq α] in
@[simp] theorem notMem_empty (key : α) :
    key ∉ (empty : KeySet α) :=
  List.not_mem_nil

@[simp] theorem mem_insert {set : KeySet α} {key query : α} :
    query ∈ set.insert key ↔ query = key ∨ query ∈ set :=
  List.mem_insert_iff

/-- Adding one key for every item that passes a test. -/
def insertForEach
    (test : ι → Bool)
    (key : α)
    (set : KeySet α)
    (items : List ι) : KeySet α :=
  items.foldl
    (fun current item => if test item then current.insert key else current)
    set

/-- The key is added exactly when some item passes the test. -/
theorem mem_insertForEach
    {test : ι → Bool}
    {key query : α}
    {set : KeySet α}
    {items : List ι} :
    query ∈ insertForEach test key set items ↔
      query ∈ set ∨ (query = key ∧ ∃ item ∈ items, test item) := by
  induction items generalizing set with
  | nil =>
      simp [insertForEach]
  | cons item rest inductionHypothesis =>
      have unfolded :
          insertForEach test key set (item :: rest) =
            insertForEach test key
              (if test item then set.insert key else set) rest :=
        rfl
      rw [unfolded, inductionHypothesis]
      by_cases passes : test item
      · simp only [passes, if_true, mem_insert, List.mem_cons,
          exists_eq_or_imp, true_or, and_true]
        tauto
      · simp [passes]

/-- A loop over a key set, seen from one key. -/
theorem view_foldl_keys
    {view : σ → α → δ}
    {visit : σ → α → σ}
    {effect : α → δ → δ}
    (isLocal : Local view visit id effect)
    (set : KeySet α)
    (state : σ)
    (query : α) :
    view (set.keys.foldl visit state) query =
      if query ∈ set then
        effect query (view state query)
      else
        view state query := by
  by_cases member : query ∈ set
  · rw [if_pos member]
    exact view_foldl_of_mem isLocal (by simpa using set.nodup) state
      (mem_keys.mpr member)
  · rw [if_neg member]
    refine view_foldl_of_forall_ne isLocal state ?_
    rintro key keyMember rfl
    exact member keyMember

end KeySet

end KeyedFold
