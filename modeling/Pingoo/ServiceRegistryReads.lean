import Mathlib.Data.List.Perm.Basic
import Pingoo.Library.Transition
import Pingoo.ServiceRegistryAgreement

namespace Pingoo

open KeyedFold Transition

/-!
# What readers of the registry see

A round changes the shared map one service at a time, while request handlers
read it.  The system below takes these changes and the reads as separate steps,
in any order.  A service that is updated and deleted in one round has the merged
upstreams for a moment and then none, so what a reader sees is the old or the
merged list exactly when no service loses an upstream while keeping or gaining
another.
-/

namespace ServiceRegistry

/-- A running `discover` that has compared the upstreams. -/
structure Applying where
  newUpstreams : UpstreamMap
  updated : List String
  deleted : List String

/-- The registry with the `discover` that is running, if there is one. -/
structure Live where
  registry : ServiceRegistry
  running : Option Applying

/-- What the task of the registry and the readers do. -/
inductive Event where
  | discover (round : Round)
  | update (serviceName : String)
  | delete (serviceName : String)
  | finish
  | getUpstreams (service : String) (answer : List Upstream)

/--
One step.  The sets of a diff are hash sets, so they are visited in any order.
-/
inductive Step : Live → Event → Live → Prop
  | discover
      {registry : ServiceRegistry}
      {round : Round}
      {updated deleted : List String}
      (updatedOrder :
        updated.Perm
          (diffUpstreams registry.upstreams
            (registry.mergeRound round)).updated.keys)
      (deletedOrder :
        deleted.Perm
          (diffUpstreams registry.upstreams
            (registry.mergeRound round)).deleted.keys) :
      Step ⟨registry, none⟩ (.discover round)
        ⟨registry, some ⟨registry.mergeRound round, updated, deleted⟩⟩
  | update
      {registry : ServiceRegistry}
      {newUpstreams : UpstreamMap}
      {serviceName : String}
      {updated deleted : List String} :
      Step
        ⟨registry, some ⟨newUpstreams, serviceName :: updated, deleted⟩⟩
        (.update serviceName)
        ⟨{ registry with
            upstreams :=
              (applyUpdated (registry.upstreams, newUpstreams)
                serviceName).1 },
          some ⟨(applyUpdated (registry.upstreams, newUpstreams)
            serviceName).2, updated, deleted⟩⟩
  | delete
      {registry : ServiceRegistry}
      {newUpstreams : UpstreamMap}
      {serviceName : String}
      {deleted : List String} :
      Step
        ⟨registry, some ⟨newUpstreams, [], serviceName :: deleted⟩⟩
        (.delete serviceName)
        ⟨{ registry with
            upstreams := registry.upstreams.erase serviceName },
          some ⟨newUpstreams, [], deleted⟩⟩
  | finish
      {registry : ServiceRegistry}
      {newUpstreams : UpstreamMap} :
      Step ⟨registry, some ⟨newUpstreams, [], []⟩⟩ .finish ⟨registry, none⟩
  | getUpstreams
      {live : Live}
      {service : String} :
      Step live
        (.getUpstreams service (live.registry.getUpstreams service)) live

/-- The services that the running round still has to update. -/
def Live.updating (live : Live) : List String :=
  (live.running.map Applying.updated).getD []

/-- The services that the running round still has to delete. -/
def Live.deleting (live : Live) : List String :=
  (live.running.map Applying.deleted).getD []

@[simp] theorem updating_none (registry : ServiceRegistry) :
    Live.updating ⟨registry, none⟩ = [] :=
  rfl

@[simp] theorem updating_some
    (registry : ServiceRegistry)
    (applying : Applying) :
    Live.updating ⟨registry, some applying⟩ = applying.updated :=
  rfl

@[simp] theorem deleting_none (registry : ServiceRegistry) :
    Live.deleting ⟨registry, none⟩ = [] :=
  rfl

@[simp] theorem deleting_some
    (registry : ServiceRegistry)
    (applying : Applying) :
    Live.deleting ⟨registry, some applying⟩ = applying.deleted :=
  rfl

/-- The state in which a configuration starts. -/
def initial (servicesConfig : List ServiceConfig) : Live where
  registry :=
    new servicesConfig
  running :=
    none

/-- The steps until the next round starts. -/
def WithinRound : Live → Event → Live → Prop :=
  Guarded (fun _ event => ∀ round, event ≠ .discover round) Step

section Round

/-- The diff that a round applies. -/
def roundDiff (registry : ServiceRegistry) (round : Round) : UpstreamDiff :=
  diffUpstreams registry.upstreams (registry.mergeRound round)

variable {registry : ServiceRegistry} {round : Round}

/--
What a service has while a round is applied: nothing once it was deleted, the
merged upstreams once it was updated, and before that what it had.
-/
def visible
    (registry : ServiceRegistry)
    (round : Round)
    (updating deleting : List String)
    (name : String) : Option (List Upstream) :=
  if name ∈ (registry.roundDiff round).deleted ∧ name ∉ deleting then
    none
  else if name ∈ (registry.roundDiff round).updated ∧ name ∉ updating then
    (registry.mergeRound round).lookup name
  else
    registry.upstreams.lookup name

/-- What holds from the start of a round until the next one starts. -/
structure RoundInvariant
    (registry : ServiceRegistry)
    (round : Round)
    (live : Live) : Prop where
  static : live.registry.staticUpstreams = registry.staticUpstreams
  lookup :
    ∀ name, live.registry.upstreams.lookup name =
      visible registry round live.updating live.deleting name
  updating_nodup : live.updating.Nodup
  deleting_nodup : live.deleting.Nodup
  updating_mem :
    ∀ name ∈ live.updating, name ∈ (registry.roundDiff round).updated
  deleting_mem :
    ∀ name ∈ live.deleting, name ∈ (registry.roundDiff round).deleted
  deletes_last :
    live.updating = [] ∨
      ∀ name ∈ (registry.roundDiff round).deleted, name ∈ live.deleting
  newUpstreams :
    ∀ applying, live.running = some applying →
      ∀ name ∈ applying.updated,
        applying.newUpstreams.lookup name =
          (registry.mergeRound round).lookup name

/-- A round starts with everything left to do. -/
theorem roundInvariant_of_discover
    {begun : Live}
    (starts : Step ⟨registry, none⟩ (.discover round) begun) :
    RoundInvariant registry round begun := by
  cases starts with
  | discover updatedOrder deletedOrder =>
      refine ⟨rfl, ?_, ?_, ?_, ?_, ?_, ?_, ?_⟩
      · intro name
        have inUpdated : name ∈ (registry.roundDiff round).updated →
            name ∈ _ := updatedOrder.mem_iff.mpr
        have inDeleted : name ∈ (registry.roundDiff round).deleted →
            name ∈ _ := deletedOrder.mem_iff.mpr
        rw [visible, if_neg fun deleted => deleted.2 (inDeleted deleted.1),
          if_neg fun updated => updated.2 (inUpdated updated.1)]
      · exact updatedOrder.nodup_iff.mpr (KeySet.nodup _)
      · exact deletedOrder.nodup_iff.mpr (KeySet.nodup _)
      · exact fun name => updatedOrder.mem_iff.mp
      · exact fun name => deletedOrder.mem_iff.mp
      · exact .inr fun name => deletedOrder.mem_iff.mpr
      · rintro applying ⟨⟩ name _
        rfl

/-- Updating a service gives it the merged upstreams. -/
private theorem roundInvariant_of_update
    {before after : Live}
    {serviceName : String}
    (invariant : RoundInvariant registry round before)
    (taken : Step before (.update serviceName) after) :
    RoundInvariant registry round after := by
  cases taken with
  | @update current newUpstreams _ updated deleted =>
      obtain ⟨static, lookup, updatingNodup, deletingNodup, updatingMem,
        deletingMem, deletesLast, newLookup⟩ := invariant
      simp only [updating_some, deleting_some] at lookup
      have isUpdated := updatingMem serviceName List.mem_cons_self
      obtain ⟨merged, isMerged, -⟩ := mem_updated_iff.mp isUpdated
      have isNew : newUpstreams.lookup serviceName = some merged := by
        rw [newLookup _ rfl serviceName List.mem_cons_self, isMerged]
      have moved :
          applyUpdated (current.upstreams, newUpstreams) serviceName =
            (current.upstreams.insert serviceName merged,
              newUpstreams.erase serviceName) := by
        rw [applyUpdated, isNew]
      have notLeft : serviceName ∉ updated :=
        (List.nodup_cons.mp updatingNodup).1
      have allLeft : ∀ name ∈ (registry.roundDiff round).deleted,
          name ∈ deleted :=
        deletesLast.resolve_left (List.cons_ne_nil _ _)
      rw [moved]
      refine ⟨static, ?_, (List.nodup_cons.mp updatingNodup).2,
        deletingNodup, ?_, deletingMem, .inr allLeft, ?_⟩
      · intro name
        have notDeleted :
            ¬ (name ∈ (registry.roundDiff round).deleted ∧
              name ∉ deleted) :=
          fun gone => gone.2 (allLeft name gone.1)
        simp only [updating_some, deleting_some]
        by_cases same : name = serviceName
        · subst name
          rw [AList.lookup_insert, visible, if_neg notDeleted,
            if_pos ⟨isUpdated, notLeft⟩, isMerged]
        · rw [AList.lookup_insert_ne same, lookup name, visible, visible,
            if_neg notDeleted, if_neg notDeleted]
          simp only [List.mem_cons, same, false_or]
      · intro name inRest
        exact updatingMem name (List.mem_cons_of_mem _ inRest)
      · rintro applying ⟨⟩ name inRest
        have different : name ≠ serviceName :=
          fun same => notLeft (same ▸ inRest)
        rw [AList.lookup_erase_ne different]
        exact newLookup _ rfl name (List.mem_cons_of_mem _ inRest)

/-- Deleting a service leaves it without upstreams. -/
private theorem roundInvariant_of_delete
    {before after : Live}
    {serviceName : String}
    (invariant : RoundInvariant registry round before)
    (taken : Step before (.delete serviceName) after) :
    RoundInvariant registry round after := by
  cases taken with
  | @delete current newUpstreams _ deleted =>
      obtain ⟨static, lookup, updatingNodup, deletingNodup, updatingMem,
        deletingMem, _, newLookup⟩ := invariant
      simp only [updating_some, deleting_some] at lookup
      have isDeleted := deletingMem serviceName List.mem_cons_self
      have notLeft : serviceName ∉ deleted :=
        (List.nodup_cons.mp deletingNodup).1
      refine ⟨static, ?_, updatingNodup,
        (List.nodup_cons.mp deletingNodup).2, updatingMem, ?_, .inl rfl, ?_⟩
      · intro name
        simp only [updating_some, deleting_some]
        by_cases same : name = serviceName
        · subst name
          rw [AList.lookup_erase, visible, if_pos ⟨isDeleted, notLeft⟩]
        · rw [AList.lookup_erase_ne same, lookup name, visible, visible]
          simp only [List.mem_cons, same, false_or]
      · intro name inRest
        exact deletingMem name (List.mem_cons_of_mem _ inRest)
      · rintro applying ⟨⟩ name ⟨⟩

/-- The invariant of a round is kept until the next round starts. -/
theorem roundInvariant_of_withinRound
    {before after : Live}
    {event : Event}
    (invariant : RoundInvariant registry round before)
    (taken : WithinRound before event after) :
    RoundInvariant registry round after := by
  obtain ⟨notStart, step⟩ := taken
  cases event with
  | discover next =>
      exact absurd rfl (notStart next)
  | update serviceName =>
      exact roundInvariant_of_update invariant step
  | delete serviceName =>
      exact roundInvariant_of_delete invariant step
  | finish =>
      cases step with
      | finish =>
          obtain ⟨static, lookup, updatingNodup, deletingNodup, updatingMem,
            deletingMem, _, _⟩ := invariant
          exact ⟨static, lookup, updatingNodup, deletingNodup, updatingMem,
            deletingMem, .inl rfl, nofun⟩
  | getUpstreams service answer =>
      cases step
      exact invariant

/-- A round that is done leaves what `discover` leaves. -/
theorem lookup_of_finished
    {finished : ServiceRegistry}
    (invariant : RoundInvariant registry round ⟨finished, none⟩)
    (name : String) :
    finished.upstreams.lookup name =
      (registry.discover round).2.upstreams.lookup name := by
  have lookup := invariant.lookup name
  simp only [updating_none, deleting_none, visible, List.not_mem_nil,
    not_false_eq_true, and_true, roundDiff, mem_deleted_iff,
    mem_updated_iff] at lookup
  rw [lookup, lookup_discover]
  cases registry.upstreams.lookup name <;>
    cases (registry.mergeRound round).lookup name <;> simp

end Round

section Reads

variable {registry : ServiceRegistry} {round : Round}

/-- The upstreams of a service in the merge of a round. -/
def mergedUpstreams
    (registry : ServiceRegistry)
    (round : Round)
    (name : String) : List Upstream :=
  ((registry.mergeRound round).lookup name).getD []

/--
An answer is the list from before the round or the merged one, so it is not
empty where neither of them is.
-/
structure Untorn
    (registry : ServiceRegistry)
    (round : Round)
    (name : String)
    (answer : List Upstream) : Prop where
  whole :
    answer = registry.getUpstreams name ∨
      answer = registry.mergedUpstreams round name
  ne_nil :
    registry.getUpstreams name ≠ [] →
      registry.mergedUpstreams round name ≠ [] → answer ≠ []

/-- Every answer is untorn, however the reads mix with the steps of a round. -/
def UntornRound (registry : ServiceRegistry) (round : Round) : Prop :=
  ∀ begun events live,
    Step ⟨registry, none⟩ (.discover round) begun →
    Run WithinRound begun events live →
    ∀ name answer, .getUpstreams name answer ∈ events →
      Untorn registry round name answer

/-- Where only whole services are lost, a service has its old or merged list. -/
theorem getUpstreams_eq_or_of_losesOnlyWholeServices
    {live : Live}
    (loses : LosesOnlyWholeServices registry round)
    (invariant : RoundInvariant registry round live)
    (name : String) :
    live.registry.getUpstreams name = registry.getUpstreams name ∨
      live.registry.getUpstreams name =
        registry.mergedUpstreams round name := by
  rw [getUpstreams, invariant.lookup name, visible]
  split
  · next deleted =>
      right
      obtain ⟨old, isOld, losesAll⟩ := mem_deleted_iff.mp deleted.1
      cases isMerged : (registry.mergeRound round).lookup name with
      | none =>
          rw [mergedUpstreams, isMerged]
      | some new =>
          obtain ⟨lost, inOld, notNew⟩ := losesAll new isMerged
          have newEq : registry.mergedUpstreams round name = new := by
            rw [mergedUpstreams, isMerged, Option.getD_some]
          have isLost :
              ¬ MergedUpstream registry round name lost := by
            rw [← mem_mergeRound, ← mergedUpstreams, newEq]
            exact notNew
          rw [newEq, Option.getD_none, eq_comm,
            List.eq_nil_iff_forall_not_mem]
          intro upstream inNew
          have isUpstream :
              MergedUpstream registry round name upstream := by
            rw [← mem_mergeRound, ← mergedUpstreams, newEq]
            exact inNew
          refine isLost (loses name ⟨upstream, isUpstream⟩ lost ?_)
          rw [getUpstreams, isOld]
          exact inOld
  · split
    · exact .inr rfl
    · exact .inl rfl

/-- A round can run to its end without a read. -/
private theorem exists_run_applied
    (registry : ServiceRegistry)
    (newUpstreams : UpstreamMap)
    (updated deleted : List String) :
    ∃ events applied remaining,
      Run WithinRound ⟨registry, some ⟨newUpstreams, updated, deleted⟩⟩ events
        ⟨applied, some ⟨remaining, [], []⟩⟩ := by
  induction updated generalizing registry newUpstreams with
  | cons serviceName rest inductionHypothesis =>
      obtain ⟨events, applied, remaining, run⟩ := inductionHypothesis _ _
      exact ⟨_, applied, remaining,
        (Run.single ⟨by rintro _ ⟨⟩, .update⟩).append run⟩
  | nil =>
      induction deleted generalizing registry with
      | nil =>
          exact ⟨[], registry, newUpstreams, .nil⟩
      | cons serviceName rest inductionHypothesis =>
          obtain ⟨events, applied, remaining, run⟩ := inductionHypothesis _
          exact ⟨_, applied, remaining,
            (Run.single ⟨by rintro _ ⟨⟩, .delete⟩).append run⟩

/-- A service that shrinks partly is seen empty before the round is over. -/
private theorem exists_empty_answer
    {name : String}
    (deleted : name ∈ (registry.roundDiff round).deleted) :
    ∃ begun events live,
      Step ⟨registry, none⟩ (.discover round) begun ∧
      Run WithinRound begun events live ∧
      .getUpstreams name [] ∈ events := by
  have starts :
      Step ⟨registry, none⟩ (.discover round)
        ⟨registry, some ⟨registry.mergeRound round,
          (registry.roundDiff round).updated.keys,
          (registry.roundDiff round).deleted.keys⟩⟩ :=
    .discover (List.Perm.refl _) (List.Perm.refl _)
  obtain ⟨events, applied, remaining, run⟩ :=
    exists_run_applied registry (registry.mergeRound round)
      (registry.roundDiff round).updated.keys
      (registry.roundDiff round).deleted.keys
  have invariant := run.invariant roundInvariant_of_withinRound
    (roundInvariant_of_discover starts)
  have isEmpty : applied.getUpstreams name = [] := by
    have lookup := invariant.lookup name
    rw [visible, if_pos ⟨deleted, List.not_mem_nil⟩] at lookup
    rw [getUpstreams, lookup, Option.getD_none]
  have reads : WithinRound ⟨applied, some ⟨remaining, [], []⟩⟩
      (.getUpstreams name []) ⟨applied, some ⟨remaining, [], []⟩⟩ := by
    have step :=
      @Step.getUpstreams ⟨applied, some ⟨remaining, [], []⟩⟩ name
    rw [isEmpty] at step
    exact ⟨by rintro _ ⟨⟩, step⟩
  exact ⟨_, _, _, starts, run.snoc reads, by simp⟩

/-- No read of a round is torn exactly when it loses only whole services. -/
theorem untornRound_iff (registry : ServiceRegistry) (round : Round) :
    UntornRound registry round ↔ LosesOnlyWholeServices registry round := by
  constructor
  · rintro untorn name ⟨kept, isMerged⟩ upstream inOld
    by_contra notMerged
    rw [← mem_mergeRound, ← mergedUpstreams] at isMerged notMerged
    have oldNonempty : registry.getUpstreams name ≠ [] :=
      List.ne_nil_of_mem inOld
    have isDeleted : name ∈ (registry.roundDiff round).deleted := by
      rw [getUpstreams] at inOld
      rw [mergedUpstreams] at notMerged
      cases isOld : registry.upstreams.lookup name with
      | none =>
          simp [isOld] at inOld
      | some old =>
          rw [isOld] at inOld
          refine mem_deleted_iff.mpr ⟨old, isOld, fun new isNew => ?_⟩
          rw [isNew] at notMerged
          exact ⟨upstream, inOld, notMerged⟩
    obtain ⟨begun, events, live, starts, run, reads⟩ :=
      exists_empty_answer isDeleted
    exact (untorn begun events live starts run name [] reads).ne_nil
      oldNonempty (List.ne_nil_of_mem isMerged) rfl
  · intro loses begun events live starts run name answer reads
    obtain ⟨earlier, before, after, earlierRun, taken⟩ :=
      run.step_of_mem reads
    have invariant := earlierRun.invariant roundInvariant_of_withinRound
      (roundInvariant_of_discover starts)
    obtain ⟨_, step⟩ := taken
    cases step
    have whole :=
      getUpstreams_eq_or_of_losesOnlyWholeServices loses invariant name
    refine ⟨whole, fun oldNonempty mergedNonempty => ?_⟩
    rcases whole with isOld | isMerged
    · rwa [isOld]
    · rwa [isMerged]

end Reads

section Static

variable {servicesConfig : List ServiceConfig} {registry : ServiceRegistry}

/-- The static upstreams of a service. -/
def staticUpstreamsOf
    (servicesConfig : List ServiceConfig)
    (name : String) : List Upstream :=
  ((getStaticUpstreams servicesConfig).lookup name).getD []

/-- A registry of a configuration that has all the static upstreams. -/
structure HasStatic
    (servicesConfig : List ServiceConfig)
    (registry : ServiceRegistry) : Prop where
  static : registry.staticUpstreams = getStaticUpstreams servicesConfig
  upstreams :
    ∀ name, ∀ upstream ∈ staticUpstreamsOf servicesConfig name,
      upstream ∈ registry.getUpstreams name

/-- A round that loses only whole services loses no static upstream. -/
theorem hasStatic_of_roundInvariant
    {round : Round}
    {live : Live}
    (hasStatic : HasStatic servicesConfig registry)
    (loses : LosesOnlyWholeServices registry round)
    (invariant : RoundInvariant registry round live) :
    HasStatic servicesConfig live.registry := by
  refine ⟨invariant.static.trans hasStatic.static, ?_⟩
  intro name upstream isStatic
  rcases getUpstreams_eq_or_of_losesOnlyWholeServices loses invariant name
    with isOld | isMerged
  · rw [isOld]
    exact hasStatic.upstreams name upstream isStatic
  · rw [isMerged, mergedUpstreams, mem_mergeRound]
    left
    rw [hasStatic.static]
    exact isStatic

/-- The round that an event starts loses only whole services. -/
def MeetsCondition (live : Live) : Event → Prop
  | .discover round =>
      LosesOnlyWholeServices live.registry round
  | _ =>
      True

/--
The static upstreams are there, and a running round, from a registry that had
them, loses only whole services.
-/
def StaticInvariant
    (servicesConfig : List ServiceConfig)
    (live : Live) : Prop :=
  HasStatic servicesConfig live.registry ∧
    ∀ applying, live.running = some applying →
      ∃ registry round,
        HasStatic servicesConfig registry ∧
          LosesOnlyWholeServices registry round ∧
          RoundInvariant registry round live

/-- A step within a round keeps the static upstreams. -/
private theorem staticInvariant_of_withinRound
    {before after : Live}
    {event : Event}
    {applying : Applying}
    (invariant : StaticInvariant servicesConfig before)
    (isRunning : before.running = some applying)
    (taken : WithinRound before event after) :
    StaticInvariant servicesConfig after := by
  obtain ⟨registry, round, hasStatic, loses, roundInvariant⟩ :=
    invariant.2 applying isRunning
  have roundAfter := roundInvariant_of_withinRound roundInvariant taken
  exact ⟨hasStatic_of_roundInvariant hasStatic loses roundAfter,
    fun _ _ => ⟨registry, round, hasStatic, loses, roundAfter⟩⟩

/-- Every step that meets the condition keeps the static upstreams. -/
theorem staticInvariant_of_step
    {before after : Live}
    {event : Event}
    (invariant : StaticInvariant servicesConfig before)
    (taken : Guarded MeetsCondition Step before event after) :
    StaticInvariant servicesConfig after := by
  obtain ⟨meets, step⟩ := taken
  cases event with
  | discover round =>
      obtain ⟨registry, rfl⟩ : ∃ registry, before = ⟨registry, none⟩ := by
        cases step
        exact ⟨_, rfl⟩
      have begins := roundInvariant_of_discover step
      have hasStatic :=
        hasStatic_of_roundInvariant invariant.1 meets begins
      exact ⟨hasStatic,
        fun _ _ => ⟨registry, round, invariant.1, meets, begins⟩⟩
  | update serviceName =>
      cases id step with
      | update =>
          exact staticInvariant_of_withinRound invariant rfl
            ⟨by rintro _ ⟨⟩, step⟩
  | delete serviceName =>
      cases id step with
      | delete =>
          exact staticInvariant_of_withinRound invariant rfl
            ⟨by rintro _ ⟨⟩, step⟩
  | finish =>
      cases id step with
      | finish =>
          exact staticInvariant_of_withinRound invariant rfl
            ⟨by rintro _ ⟨⟩, step⟩
  | getUpstreams service answer =>
      cases step
      exact invariant

/-- A configuration starts with its static upstreams. -/
theorem staticInvariant_initial :
    StaticInvariant servicesConfig (initial servicesConfig) :=
  ⟨⟨rfl, fun _ _ isStatic => isStatic⟩, nofun⟩

end Static

/--
In every registry that a run reaches, no read of the next round is torn exactly
when the round loses only whole services; and in a run whose rounds all do so,
the static upstreams of a service are in every list that is ever returned for
it.
-/
theorem untornRound_iff_losesOnlyWholeServices
    (servicesConfig : List ServiceConfig) :
    (∀ events registry,
      Run Step (initial servicesConfig) events ⟨registry, none⟩ →
      ∀ round,
        UntornRound registry round ↔
          LosesOnlyWholeServices registry round) ∧
    ∀ events live,
      Run (Guarded MeetsCondition Step) (initial servicesConfig) events live →
      ∀ name answer, .getUpstreams name answer ∈ events →
        ∀ upstream ∈ staticUpstreamsOf servicesConfig name,
          upstream ∈ answer := by
  constructor
  · intro events registry _ round
    exact untornRound_iff registry round
  · intro events live run name answer reads
    obtain ⟨earlier, before, after, earlierRun, _, step⟩ :=
      run.step_of_mem reads
    have invariant :=
      earlierRun.invariant staticInvariant_of_step staticInvariant_initial
    cases step
    exact invariant.1.upstreams name

section LostUpstream

private def staticUpstream : Upstream where
  socketAddress :=
    ⟨.v4 (.new 10 0 0 1), 8080⟩
  hostname :=
    "10.0.0.1"
  tls :=
    false

private def discoveredUpstream : Upstream where
  socketAddress :=
    ⟨.v4 (.new 10 0 0 2), 8080⟩
  hostname :=
    "api.internal"
  tls :=
    false

private def mixedService : ServiceConfig where
  name :=
    "api"
  httpProxy :=
    some [.ipAddress staticUpstream, .domain "api.internal" false 8080]
  static :=
    none
  tcpProxy :=
    none

/-- A round in which the host resolves. -/
private def resolvedRound : Round where
  dns :=
    .ok (AList.singleton "api" [discoveredUpstream])
  docker :=
    .ok ∅

/-- A round in which the discovery by DNS fails. -/
private def failedRound : Round where
  dns :=
    .error (.unspecified "dns: resolution failed")
  docker :=
    .ok ∅

/-- The registry of the service after its host was resolved. -/
private def resolvedRegistry : ServiceRegistry where
  upstreams :=
    AList.singleton "api" [staticUpstream, discoveredUpstream]
  staticUpstreams :=
    AList.singleton "api" [staticUpstream]

private theorem run_resolvedRegistry :
    Run Step (initial [mixedService])
      [.discover resolvedRound, .update "api", .finish]
      ⟨resolvedRegistry, none⟩ := by
  have updatedOrder :
      ["api"].Perm
        (roundDiff (new [mixedService]) resolvedRound).updated.keys := by
    decide
  have deletedOrder :
      [].Perm (roundDiff (new [mixedService]) resolvedRound).deleted.keys := by
    decide
  have starts := Step.discover updatedOrder deletedOrder
  have updates := (Run.single starts).snoc Step.update
  exact updates.snoc Step.finish

/--
A host that does not resolve any more: while its round is applied the service
has no upstream, not even its static one.
-/
theorem not_untornRound_after_lost_upstream :
    ¬ ∀ servicesConfig events registry,
      Run Step (initial servicesConfig) events ⟨registry, none⟩ →
      ∀ round, UntornRound registry round := by
  intro untorn
  have round := untorn [mixedService] _ _ run_resolvedRegistry failedRound
  rw [untornRound_iff] at round
  have kept : MergedUpstream resolvedRegistry failedRound "api"
      staticUpstream :=
    .inl (by decide)
  have lost := round "api" ⟨staticUpstream, kept⟩ discoveredUpstream
    (by decide)
  rw [← mem_mergeRound] at lost
  revert lost
  decide

end LostUpstream

end ServiceRegistry

end Pingoo
