import Pingoo.Library.StepRun
import Pingoo.ServiceRegistry

namespace Pingoo

open KeyedFold

/-!
# What a discovery round leaves in the registry

A round should leave, for every service, exactly the upstreams of the merge of
the static upstreams with the answers of the discoverers that answered.  The
diff that is applied instead has two overlapping sets: a service of which one
upstream is gone is put into the deleted set, whatever else the round says about
it, and the deletions are applied last.  So the round agrees with the merge
exactly when no service loses an upstream while keeping or gaining another.

The diff and its application are first described one service at a time; the
order in which the maps and sets are visited then no longer matters.
-/

section Diff

/-- Some old upstream is not among the new ones. -/
def LosesUpstream (old new : List Upstream) : Prop :=
  ∃ upstream ∈ old, upstream ∉ new

instance (old new : List Upstream) : Decidable (LosesUpstream old new) :=
  inferInstanceAs (Decidable (∃ upstream ∈ old, upstream ∉ new))

/-- A diff seen from one service: whether it is updated and deleted. -/
private def diffView (diff : UpstreamDiff) (name : String) : Prop × Prop :=
  (name ∈ diff.updated, name ∈ diff.deleted)

/-- What comparing one service of the new map adds to a diff. -/
private def compareEffect
    (oldUpstreams : UpstreamMap)
    (name : String)
    (new : List Upstream)
    (seen : Prop × Prop) : Prop × Prop :=
  match oldUpstreams.lookup name with
  | some old =>
      (seen.1 ∨ LosesUpstream new old, seen.2 ∨ LosesUpstream old new)
  | none =>
      (True, seen.2)

private theorem diffView_diffService
    (oldUpstreams : UpstreamMap)
    (diff : UpstreamDiff)
    (name : String)
    (new : List Upstream)
    (query : String) :
    diffView (diffService oldUpstreams diff name new) query =
      if query = name then
        compareEffect oldUpstreams name new (diffView diff query)
      else
        diffView diff query := by
  by_cases same : query = name
  · subst query
    cases found : oldUpstreams.lookup name with
    | none =>
        simp [diffView, diffService, compareEffect, found]
    | some old =>
        simp [diffView, diffService, compareEffect, found,
          KeySet.mem_insertForEach, LosesUpstream]
  · cases found : oldUpstreams.lookup name with
    | none =>
        simp [diffView, diffService, found, same]
    | some old =>
        simp [diffView, diffService, found, same,
          KeySet.mem_insertForEach]

/-- What visiting one service of the old map adds to a diff. -/
private def removedEffect
    (newUpstreams : UpstreamMap)
    (name : String)
    (_old : List Upstream)
    (seen : Prop × Prop) : Prop × Prop :=
  (seen.1, seen.2 ∨ name ∉ newUpstreams)

private theorem diffView_diffRemovedService
    (newUpstreams : UpstreamMap)
    (diff : UpstreamDiff)
    (name : String)
    (old : List Upstream)
    (query : String) :
    diffView (diffRemovedService newUpstreams diff name) query =
      if query = name then
        removedEffect newUpstreams name old (diffView diff query)
      else
        diffView diff query := by
  by_cases same : query = name
  · subst query
    by_cases kept : name ∈ newUpstreams <;>
      simp [diffView, diffRemovedService, removedEffect, kept]
  · by_cases kept : name ∈ newUpstreams <;>
      simp [diffView, diffRemovedService, kept, same]

/-- The diff of two maps, seen from one service. -/
private theorem diffView_diffUpstreams
    (oldUpstreams newUpstreams : UpstreamMap)
    (query : String) :
    diffView (diffUpstreams oldUpstreams newUpstreams) query =
      match oldUpstreams.lookup query, newUpstreams.lookup query with
      | none, none => (False, False)
      | none, some _ => (True, False)
      | some _, none => (False, True)
      | some old, some new =>
          (LosesUpstream new old, LosesUpstream old new) := by
  have nothingSeen :
      diffView ⟨KeySet.empty, KeySet.empty⟩ query = (False, False) := by
    simp [diffView]
  have compared :=
    view_foldl_entries (diffView_diffService oldUpstreams)
      newUpstreams ⟨KeySet.empty, KeySet.empty⟩ query
  have removed :=
    view_foldl_entries (diffView_diffRemovedService newUpstreams) oldUpstreams
      (newUpstreams.foldl (diffService oldUpstreams)
        ⟨KeySet.empty, KeySet.empty⟩) query
  rw [nothingSeen] at compared
  rw [diffUpstreams, removed, compared]
  cases oldFound : oldUpstreams.lookup query <;>
    cases newFound : newUpstreams.lookup query <;>
      simp [compareEffect, removedEffect, oldFound,
        ← AList.lookup_eq_none, newFound]

/-- A service is updated when it is new or has a new upstream. -/
theorem mem_updated_iff
    {oldUpstreams newUpstreams : UpstreamMap}
    {name : String} :
    name ∈ (diffUpstreams oldUpstreams newUpstreams).updated ↔
      ∃ new,
        newUpstreams.lookup name = some new ∧
          ∀ old,
            oldUpstreams.lookup name = some old →
            LosesUpstream new old := by
  have seen := congrArg Prod.fst
    (diffView_diffUpstreams oldUpstreams newUpstreams name)
  rw [show name ∈ (diffUpstreams oldUpstreams newUpstreams).updated ↔ _
    from iff_of_eq seen]
  cases oldUpstreams.lookup name <;>
    cases newUpstreams.lookup name <;> simp

/-- A service is deleted when it is gone or has lost an upstream. -/
theorem mem_deleted_iff
    {oldUpstreams newUpstreams : UpstreamMap}
    {name : String} :
    name ∈ (diffUpstreams oldUpstreams newUpstreams).deleted ↔
      ∃ old,
        oldUpstreams.lookup name = some old ∧
          ∀ new,
            newUpstreams.lookup name = some new →
            LosesUpstream old new := by
  have seen := congrArg Prod.snd
    (diffView_diffUpstreams oldUpstreams newUpstreams name)
  rw [show name ∈ (diffUpstreams oldUpstreams newUpstreams).deleted ↔ _
    from iff_of_eq seen]
  cases oldUpstreams.lookup name <;>
    cases newUpstreams.lookup name <;> simp

end Diff

namespace ServiceRegistry

section Apply

/-- What one updated service leaves in the shared map and in the new map. -/
private def moveEffect
    (_name : String)
    (seen : Option (List Upstream) × Option (List Upstream)) :
    Option (List Upstream) × Option (List Upstream) :=
  match seen.2 with
  | some new => (some new, none)
  | none => seen

private theorem applyUpdated_isLocal :
    Local
      (fun (maps : UpstreamMap × UpstreamMap) name =>
        (maps.1.lookup name, maps.2.lookup name))
      applyUpdated id moveEffect := by
  intro maps name query
  cases found : maps.2.lookup name with
  | none =>
      by_cases same : query = name
      · subst query
        simp [applyUpdated, moveEffect, found]
      · simp [applyUpdated, found, same]
  | some new =>
      by_cases same : query = name
      · subst query
        simp [applyUpdated, moveEffect, found]
      · simp [applyUpdated, found, same]

private theorem erase_isLocal :
    Local
      (fun (map : UpstreamMap) name => map.lookup name)
      (fun map serviceName => map.erase serviceName)
      id (fun _ _ => none) := by
  intro map name query
  by_cases same : query = name
  · subst query
    simp
  · simp [same]

/-- The shared map after a diff was applied, one service at a time. -/
private theorem lookup_applyDiff
    (upstreams newUpstreams : UpstreamMap)
    (diff : UpstreamDiff)
    (name : String) :
    (applyDiff upstreams newUpstreams diff).lookup name =
      if name ∈ diff.deleted then
        none
      else if name ∈ diff.updated then
        (newUpstreams.lookup name).or (upstreams.lookup name)
      else
        upstreams.lookup name := by
  have moved := congrArg Prod.fst
    (KeySet.view_foldl_keys applyUpdated_isLocal diff.updated
      (upstreams, newUpstreams) name)
  dsimp only at moved
  have erased :=
    KeySet.view_foldl_keys erase_isLocal diff.deleted
      (diff.updated.keys.foldl applyUpdated (upstreams, newUpstreams)).1 name
  rw [applyDiff, erased, moved]
  split
  · rfl
  · split
    · cases newUpstreams.lookup name <;> simp [moveEffect]
    · rfl

end Apply

/--
What a service has after a round, from what it had before and what the merge of
the round gives it.  A service that loses an upstream is removed, even when the
merge has other upstreams for it.
-/
theorem lookup_discover
    (registry : ServiceRegistry)
    (round : Round)
    (name : String) :
    (registry.discover round).2.upstreams.lookup name =
      match registry.upstreams.lookup name,
          (registry.mergeRound round).lookup name with
      | _, none => none
      | none, some new => some new
      | some old, some new =>
          if LosesUpstream old new then
            none
          else if LosesUpstream new old then
            some new
          else
            some old := by
  have applied :=
    lookup_applyDiff registry.upstreams (registry.mergeRound round)
      (diffUpstreams registry.upstreams (registry.mergeRound round)) name
  simp only [mem_deleted_iff, mem_updated_iff] at applied
  rw [show (registry.discover round).2.upstreams.lookup name = _
    from applied]
  cases registry.upstreams.lookup name <;>
    cases (registry.mergeRound round).lookup name <;> simp

section Merge

/-- A discoverer answered, and its answer has the upstream for the service. -/
def Answers
    (answer : DiscovererAnswer)
    (name : String)
    (upstream : Upstream) : Prop :=
  ∃ upstreams,
    answer = .ok upstreams ∧
      upstream ∈ (upstreams.lookup name).getD []

/--
The upstreams of a service in the merge of the static upstreams with the answers
of the discoverers that answered.
-/
def MergedUpstream
    (registry : ServiceRegistry)
    (round : Round)
    (name : String)
    (upstream : Upstream) : Prop :=
  upstream ∈ (registry.staticUpstreams.lookup name).getD [] ∨
    Answers round.dns name upstream ∨
    Answers round.docker name upstream

/-- Merging one answer adds exactly the upstreams it answers. -/
private theorem mem_mergeAnswer
    (newUpstreams : UpstreamMap)
    (answer : DiscovererAnswer)
    (name : String)
    (upstream : Upstream) :
    upstream ∈ ((mergeAnswer newUpstreams answer).lookup name).getD [] ↔
      upstream ∈ (newUpstreams.lookup name).getD [] ∨
        Answers answer name upstream := by
  cases answer with
  | error err =>
      simp [mergeAnswer, Answers]
  | ok upstreams =>
      have merged :=
        @view_foldl_entries _ _ _ _ _
          (fun (map : UpstreamMap) key => map.lookup key) _
          (fun _ added found => some (found.getD [] ++ added))
          UpstreamMap.lookup_extendEntry upstreams newUpstreams name
      simp only [mergeAnswer, merged, Answers, Except.ok.injEq,
        exists_eq_left']
      cases upstreams.lookup name <;> simp

/-- The merge of a round holds exactly the merged upstreams. -/
theorem mem_mergeRound
    (registry : ServiceRegistry)
    (round : Round)
    (name : String)
    (upstream : Upstream) :
    upstream ∈ ((registry.mergeRound round).lookup name).getD [] ↔
      MergedUpstream registry round name upstream := by
  simp only [mergeRound, List.foldl_cons, List.foldl_nil,
    mem_mergeAnswer, MergedUpstream, or_assoc]

end Merge

section Agreement

/--
After the round every service has exactly its merged upstreams, and it has none
exactly when the merge has none.
-/
def AgreesAfter (registry : ServiceRegistry) (round : Round) : Prop :=
  ∀ name,
    (∀ upstream,
      upstream ∈ (registry.discover round).2.getUpstreams name ↔
        MergedUpstream registry round name upstream) ∧
    ((registry.discover round).2.getUpstreams name = [] ↔
      ∀ upstream, ¬ MergedUpstream registry round name upstream)

/--
Every service that has an upstream in the merge of the round still has, in that
merge, all the upstreams the registry held for it.
-/
def LosesOnlyWholeServices
    (registry : ServiceRegistry)
    (round : Round) : Prop :=
  ∀ name,
    (∃ upstream, MergedUpstream registry round name upstream) →
    ∀ upstream ∈ registry.getUpstreams name,
      MergedUpstream registry round name upstream

/-- A list agrees with a set when it has the same members. -/
private theorem eq_nil_iff_of_mem_iff
    {items : List Upstream}
    {merged : Upstream → Prop}
    (sameMembers : ∀ upstream, upstream ∈ items ↔ merged upstream) :
    items = [] ↔ ∀ upstream, ¬ merged upstream := by
  simp [List.eq_nil_iff_forall_not_mem, sameMembers]

/-- One service agrees after the round exactly when it loses nothing or all. -/
private theorem getUpstreams_discover_iff
    (registry : ServiceRegistry)
    (round : Round)
    (name : String) :
    (∀ upstream,
      upstream ∈ (registry.discover round).2.getUpstreams name ↔
        MergedUpstream registry round name upstream) ↔
      ((∃ upstream, MergedUpstream registry round name upstream) →
        ∀ upstream ∈ registry.getUpstreams name,
          MergedUpstream registry round name upstream) := by
  simp only [← mem_mergeRound, getUpstreams, lookup_discover]
  cases oldFound : registry.upstreams.lookup name with
  | none =>
      cases (registry.mergeRound round).lookup name <;> simp
  | some old =>
      cases newFound : (registry.mergeRound round).lookup name with
      | none =>
          simp
      | some new =>
          by_cases loses : LosesUpstream old new
          · obtain ⟨lost, lostOld, lostNew⟩ := loses
            have losesUpstream : LosesUpstream old new :=
              ⟨lost, lostOld, lostNew⟩
            simp only [losesUpstream, if_true, Option.getD_none,
              Option.getD_some, List.not_mem_nil, false_iff]
            constructor
            · rintro noneMerged ⟨kept, keptNew⟩
              exact absurd keptNew (noneMerged kept)
            · intro keepsAll kept keptNew
              exact lostNew (keepsAll ⟨kept, keptNew⟩ lost lostOld)
          · have keepsAll : ∀ upstream ∈ old, upstream ∈ new := by
              simpa [LosesUpstream] using loses
            by_cases gains : LosesUpstream new old
            · simp only [loses, gains, if_false, if_true,
                Option.getD_some, iff_self, implies_true, true_iff]
              intro _ upstream member
              exact keepsAll upstream member
            · have noneGained : ∀ upstream ∈ new, upstream ∈ old := by
                simpa [LosesUpstream] using gains
              simp only [loses, gains, if_false, Option.getD_some]
              constructor
              · intro _ _ upstream member
                exact keepsAll upstream member
              · intro _ upstream
                exact ⟨keepsAll upstream, noneGained upstream⟩

/-- A round agrees with the merge exactly when no service shrinks partly. -/
theorem agreesAfter_iff
    (registry : ServiceRegistry)
    (round : Round) :
    AgreesAfter registry round ↔ LosesOnlyWholeServices registry round := by
  constructor
  · intro agrees name
    exact (getUpstreams_discover_iff registry round name).mp (agrees name).1
  · intro loses name
    have sameMembers :=
      (getUpstreams_discover_iff registry round name).mpr (loses name)
    exact ⟨sameMembers, eq_nil_iff_of_mem_iff sameMembers⟩

/-- The registry of a configuration after some discovery rounds. -/
def afterRounds
    (servicesConfig : List ServiceConfig)
    (rounds : List Round) : ServiceRegistry :=
  StepRun.final discover (new servicesConfig) rounds

/--
From every registry state that discovery rounds can reach, the next round agrees
with the merge exactly when it loses only whole services; so a run whose rounds
all do so agrees after every round.
-/
theorem discover_agrees_iff_losesOnlyWholeServices
    (servicesConfig : List ServiceConfig) :
    (∀ rounds round,
      AgreesAfter (afterRounds servicesConfig rounds) round ↔
        LosesOnlyWholeServices (afterRounds servicesConfig rounds) round) ∧
    ∀ rounds,
      StepRun.Along discover LosesOnlyWholeServices
        (new servicesConfig) rounds →
      StepRun.Along discover AgreesAfter (new servicesConfig) rounds := by
  constructor
  · intro rounds round
    exact agreesAfter_iff (afterRounds servicesConfig rounds) round
  · intro rounds loses
    exact loses.mono fun {registry round} =>
      (agreesAfter_iff registry round).mpr

section PartialLoss

private def remainingUpstream : Upstream where
  socketAddress :=
    ⟨.v4 (.new 10 0 0 1), 8080⟩
  hostname :=
    "api.internal"
  tls :=
    false

private def lostUpstream : Upstream where
  socketAddress :=
    ⟨.v4 (.new 10 0 0 2), 8080⟩
  hostname :=
    "api.internal"
  tls :=
    false

/-- A round in which only DNS answers, with these upstreams for `api`. -/
private def dnsRound (upstreams : List Upstream) : Round where
  dns :=
    .ok (AList.singleton "api" upstreams)
  docker :=
    .ok ∅

private def apiService : ServiceConfig where
  name :=
    "api"
  httpProxy :=
    some [.domain "api.internal" false 8080]
  static :=
    none
  tcpProxy :=
    none

/--
A host that resolves to two addresses and then to one of them: the service is
left without any upstream.
-/
theorem discover_not_agrees_on_partial_loss :
    ¬ ∀ servicesConfig rounds round,
      AgreesAfter (afterRounds servicesConfig rounds) round := by
  intro agrees
  have round :=
    (agrees [apiService]
      [dnsRound [remainingUpstream, lostUpstream]]
      (dnsRound [remainingUpstream]) "api").1 remainingUpstream
  have emptied :
      ((afterRounds [apiService]
          [dnsRound [remainingUpstream, lostUpstream]]).discover
        (dnsRound [remainingUpstream])).2.getUpstreams "api" = [] := by
    decide
  have merged :
      MergedUpstream
        (afterRounds [apiService]
          [dnsRound [remainingUpstream, lostUpstream]])
        (dnsRound [remainingUpstream]) "api" remainingUpstream :=
    Or.inr (Or.inl ⟨AList.singleton "api" [remainingUpstream], rfl, by
      decide⟩)
  rw [emptied] at round
  exact List.not_mem_nil (round.mpr merged)

end PartialLoss

end Agreement

end ServiceRegistry

end Pingoo
