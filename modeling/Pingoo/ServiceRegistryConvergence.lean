import Mathlib.Data.Option.Defs
import Pingoo.ServiceRegistryReads

namespace Pingoo

open KeyedFold Transition

/-!
# How the registry recovers

A round that deletes a service which still has upstreams leaves the registry
wrong, and nothing but the next round repairs it.  As long as the rounds merge to
the same upstreams, in any order and with any repetitions, the first round leaves
no upstream that the merge does not have, the second one brings back what the
first one deleted, and no later round changes the upstreams of a service any
more.  So every reader sees the merge, also while later rounds are applied.
-/

namespace ServiceRegistry

section Convergence

/-- Two lists of upstreams that differ in order and repetitions only. -/
def SameMembers (left right : List Upstream) : Prop :=
  ∀ upstream, upstream ∈ left ↔ upstream ∈ right

/-- The entries of a service in two maps: none, or the same upstreams. -/
abbrev SameEntry : Option (List Upstream) → Option (List Upstream) → Prop :=
  Option.Rel SameMembers

theorem sameEntry_getD
    {left right : Option (List Upstream)}
    (same : SameEntry left right) :
    SameMembers (left.getD []) (right.getD []) := by
  cases same with
  | some sameMembers =>
      exact sameMembers
  | none =>
      exact fun _ => Iff.rfl

/-- Same members lose nothing to each other. -/
theorem not_losesUpstream_of_sameMembers
    {old new target : List Upstream}
    (oldSame : SameMembers old target)
    (newSame : SameMembers new target) : ¬ LosesUpstream old new := by
  rintro ⟨upstream, inOld, notNew⟩
  exact notNew ((newSame upstream).mpr ((oldSame upstream).mp inOld))

variable {target : UpstreamMap}

/-- The round that an event starts merges to the upstreams of the target. -/
def MergesTo (target : UpstreamMap) (live : Live) : Event → Prop
  | .discover round =>
      ∀ name,
        SameEntry ((live.registry.mergeRound round).lookup name)
          (target.lookup name)
  | _ =>
      True

/-- Whatever the registry has for a service is what the target has. -/
def Purged (target : UpstreamMap) (registry : ServiceRegistry) : Prop :=
  ∀ name,
    registry.upstreams.lookup name = none ∨
      SameEntry (registry.upstreams.lookup name) (target.lookup name)

/-- The registry has what the target has. -/
def Settled (target : UpstreamMap) (registry : ServiceRegistry) : Prop :=
  ∀ name,
    SameEntry (registry.upstreams.lookup name) (target.lookup name)

/-- What is known of the registry after some finished rounds. -/
structure Recovered
    (target : UpstreamMap)
    (finished : Nat)
    (registry : ServiceRegistry) : Prop where
  purged : 1 ≤ finished → Purged target registry
  settled : 2 ≤ finished → Settled target registry

section Round

variable {registry : ServiceRegistry} {round : Round}

/-- After a round only upstreams of the merge are left. -/
theorem purged_discover
    (merges :
      ∀ name,
        SameEntry ((registry.mergeRound round).lookup name)
          (target.lookup name)) :
    Purged target (registry.discover round).2 := by
  intro name
  have merged := merges name
  rw [lookup_discover]
  cases newFound : (registry.mergeRound round).lookup name with
  | none =>
      exact .inl (by cases registry.upstreams.lookup name <;> rfl)
  | some new =>
      rw [newFound] at merged
      cases oldFound : registry.upstreams.lookup name with
      | none =>
          exact .inr merged
      | some old =>
          dsimp only
          split_ifs with loses gains
          · exact .inl rfl
          · exact .inr merged
          · -- nothing is lost and nothing gained, so the old list is as good
            right
            generalize target.lookup name = entry at merged ⊢
            cases merged with
            | @some _ goal sameMembers =>
                refine .some fun upstream => ?_
                rw [← sameMembers upstream]
                constructor
                · intro inOld
                  by_contra notNew
                  exact loses ⟨upstream, inOld, notNew⟩
                · intro inNew
                  by_contra notOld
                  exact gains ⟨upstream, inNew, notOld⟩

/-- A round brings back the services that are missing. -/
theorem settled_discover
    (purged : Purged target registry)
    (merges :
      ∀ name,
        SameEntry ((registry.mergeRound round).lookup name)
          (target.lookup name)) :
    Settled target (registry.discover round).2 := by
  intro name
  rcases purged_discover merges name with isNone | same
  · have merged := merges name
    have before := purged name
    rw [isNone]
    rw [lookup_discover] at isNone
    generalize target.lookup name = entry at merged before ⊢
    generalize (registry.mergeRound round).lookup name = new at merged isNone
    generalize registry.upstreams.lookup name = old at before isNone
    cases merged with
    | none =>
        exact .none
    | @some new goal newSame =>
        rcases before with rfl | oldSame
        · cases isNone
        · cases oldSame with
          | @some old _ oldSame =>
              dsimp only at isNone
              rw [if_neg (not_losesUpstream_of_sameMembers oldSame newSame)]
                at isNone
              split_ifs at isNone
  · exact same

/-- A round is applied without disturbing what is known of the registry. -/
theorem recovered_of_roundInvariant
    {finished : Nat}
    {live : Live}
    (recovered : Recovered target finished registry)
    (merges :
      ∀ name,
        SameEntry ((registry.mergeRound round).lookup name)
          (target.lookup name))
    (invariant : RoundInvariant registry round live) :
    Recovered target finished live.registry := by
  constructor
  · intro some name
    rw [invariant.lookup name, visible]
    split_ifs
    · exact .inl rfl
    · exact .inr (merges name)
    · exact recovered.purged some name
  · intro two name
    have same := recovered.settled two name
    rw [invariant.lookup name, visible]
    split_ifs with deleted updated
    · -- a settled service loses nothing, so it is not among the deleted ones
      exfalso
      obtain ⟨old, isOld, losesAll⟩ := mem_deleted_iff.mp deleted.1
      have merged := merges name
      rw [isOld] at same
      generalize target.lookup name = entry at same merged
      cases same with
      | @some _ goal oldSame =>
          generalize isNew : (registry.mergeRound round).lookup name = new
            at merged
          cases merged with
          | @some new _ newSame =>
              exact not_losesUpstream_of_sameMembers oldSame newSame
                (losesAll new isNew)
    · exact merges name
    · exact same

/-- A finished round is one more round. -/
theorem recovered_of_finished
    {finished : Nat}
    {after : ServiceRegistry}
    (recovered : Recovered target finished registry)
    (merges :
      ∀ name,
        SameEntry ((registry.mergeRound round).lookup name)
          (target.lookup name))
    (invariant : RoundInvariant registry round ⟨after, none⟩) :
    Recovered target (finished + 1) after := by
  constructor
  · intro _ name
    rw [lookup_of_finished invariant]
    exact purged_discover merges name
  · intro two name
    rw [lookup_of_finished invariant]
    exact settled_discover (recovered.purged (by omega)) merges name

end Round

/-- The rounds of a run that were applied to the end. -/
def finishedRounds (events : List Event) : Nat :=
  events.countP fun
    | .finish => true
    | _ => false

/-- What is known of the registry, and of the one a running round started from. -/
def Recovering (target : UpstreamMap) (events : List Event) (live : Live) :
    Prop :=
  Recovered target (finishedRounds events) live.registry ∧
    ∀ applying, live.running = some applying →
      ∃ registry round,
        Recovered target (finishedRounds events) registry ∧
          (∀ name,
            SameEntry ((registry.mergeRound round).lookup name)
              (target.lookup name)) ∧
          RoundInvariant registry round live

/-- An event of a round that is being applied. -/
private theorem recovering_of_withinRound
    {events : List Event}
    {event : Event}
    {before after : Live}
    {applying : Applying}
    (recovering : Recovering target events before)
    (isRunning : before.running = some applying)
    (staysCounted : finishedRounds (events ++ [event]) = finishedRounds events)
    (taken : WithinRound before event after) :
    Recovering target (events ++ [event]) after := by
  obtain ⟨registry, round, recovered, merges, invariant⟩ :=
    recovering.2 applying isRunning
  have invariantAfter := roundInvariant_of_withinRound invariant taken
  rw [Recovering, staysCounted]
  exact ⟨recovered_of_roundInvariant recovered merges invariantAfter,
    fun _ _ => ⟨registry, round, recovered, merges, invariantAfter⟩⟩

/-- What a step of a steady run adds to what is known of the registry. -/
theorem recovering_of_step
    {events : List Event}
    {event : Event}
    {before after : Live}
    (recovering : Recovering target events before)
    (taken : Guarded (MergesTo target) Step before event after) :
    Recovering target (events ++ [event]) after := by
  obtain ⟨merges, step⟩ := taken
  have counts : finishedRounds (events ++ [event]) =
      finishedRounds events + finishedRounds [event] := by
    rw [finishedRounds, List.countP_append, finishedRounds, finishedRounds]
  cases event with
  | discover round =>
      obtain ⟨registry, rfl⟩ : ∃ registry, before = ⟨registry, none⟩ := by
        cases step
        exact ⟨_, rfl⟩
      have begins := roundInvariant_of_discover step
      have recovered := recovering.1
      rw [Recovering, counts]
      exact ⟨recovered_of_roundInvariant recovered merges begins,
        fun _ _ => ⟨registry, round, recovered, merges, begins⟩⟩
  | update serviceName =>
      cases id step with
      | update =>
          exact recovering_of_withinRound recovering rfl counts
            ⟨by rintro _ ⟨⟩, step⟩
  | delete serviceName =>
      cases id step with
      | delete =>
          exact recovering_of_withinRound recovering rfl counts
            ⟨by rintro _ ⟨⟩, step⟩
  | finish =>
      cases id step with
      | finish =>
          obtain ⟨registry, round, recovered, merges, invariant⟩ :=
            recovering.2 _ rfl
          have done := roundInvariant_of_withinRound invariant
            ⟨by rintro _ ⟨⟩, step⟩
          rw [Recovering, counts]
          exact ⟨recovered_of_finished recovered merges done, nofun⟩
  | getUpstreams service answer =>
      cases step
      rw [Recovering, counts]
      exact recovering

/-- A settled registry has nothing to update and nothing to delete. -/
theorem nothing_to_do_of_settled
    {registry : ServiceRegistry}
    {round : Round}
    (settled : Settled target registry)
    (merges :
      ∀ name,
        SameEntry ((registry.mergeRound round).lookup name)
          (target.lookup name))
    (name : String) :
    name ∉ (registry.roundDiff round).updated ∧
      name ∉ (registry.roundDiff round).deleted := by
  have same := settled name
  have merged := merges name
  generalize target.lookup name = entry at same merged
  rw [roundDiff, mem_updated_iff, mem_deleted_iff]
  generalize registry.upstreams.lookup name = old at same
  generalize (registry.mergeRound round).lookup name = new at merged
  cases same with
  | none =>
      cases merged with
      | none =>
          exact ⟨by rintro ⟨_, ⟨⟩, _⟩, by rintro ⟨_, ⟨⟩, _⟩⟩
  | @some old _ oldSame =>
      cases merged with
      | @some new _ newSame =>
          refine ⟨?_, ?_⟩
          · rintro ⟨_, ⟨⟩, gains⟩
            exact not_losesUpstream_of_sameMembers newSame oldSame
              (gains old rfl)
          · rintro ⟨_, ⟨⟩, loses⟩
            exact not_losesUpstream_of_sameMembers oldSame newSame
              (loses new rfl)

/--
What an event shows after some finished rounds: a read has nothing or the
upstreams of the target after one of them, and exactly these after two, and then
the shared map is not written any more.
-/
def ShowsTarget (target : UpstreamMap) (finished : Nat) : Event → Prop
  | .getUpstreams service answer =>
      (1 ≤ finished →
        answer = [] ∨
          SameMembers answer ((target.lookup service).getD [])) ∧
        (2 ≤ finished →
          SameMembers answer ((target.lookup service).getD []))
  | .update _ =>
      finished < 2
  | .delete _ =>
      finished < 2
  | _ =>
      True

/-- What is known of the registry shows in the next event. -/
theorem showsTarget_of_recovering
    {events : List Event}
    {event : Event}
    {before after : Live}
    (recovering : Recovering target events before)
    (taken : Step before event after) :
    ShowsTarget target (finishedRounds events) event := by
  cases taken with
  | discover => trivial
  | finish => trivial
  | @getUpstreams live service =>
      refine ⟨fun one => ?_, fun two => ?_⟩
      · rcases recovering.1.purged one service with isNone | same
        · left
          rw [getUpstreams, isNone, Option.getD_none]
        · exact .inr (sameEntry_getD same)
      · exact sameEntry_getD (recovering.1.settled two service)
  | @update _ _ serviceName =>
      obtain ⟨registry, round, recovered, merges, invariant⟩ :=
        recovering.2 _ rfl
      by_contra two
      exact (nothing_to_do_of_settled (recovered.settled (not_lt.mp two))
        merges serviceName).1
          (invariant.updating_mem serviceName List.mem_cons_self)
  | @delete _ _ serviceName =>
      obtain ⟨registry, round, recovered, merges, invariant⟩ :=
        recovering.2 _ rfl
      by_contra two
      exact (nothing_to_do_of_settled (recovered.settled (not_lt.mp two))
        merges serviceName).2
          (invariant.deleting_mem serviceName List.mem_cons_self)

/--
From any registry whatsoever, and however the reads mix with the rounds: while
the rounds merge to the same upstreams, every read after the first finished
round has nothing or these upstreams, every read after the second has them, and
no further round writes to the shared map.
-/
theorem reads_recover_after_two_rounds
    (target : UpstreamMap)
    (registry : ServiceRegistry)
    (earlier later : List Event)
    (event : Event)
    (live : Live)
    (run :
      Run (Guarded (MergesTo target) Step) ⟨registry, none⟩
        (earlier ++ event :: later) live) :
    ShowsTarget target (finishedRounds earlier) event := by
  obtain ⟨before, after, earlierRun, taken⟩ := run.exists_of_append_cons
  have nothingKnown : Recovering target [] ⟨registry, none⟩ :=
    ⟨⟨nofun, nofun⟩, nofun⟩
  have recovering :=
    earlierRun.invariant_of_events recovering_of_step nothingKnown
  exact showsTarget_of_recovering recovering taken.2

end Convergence

section Recovery

private def keptUpstream : Upstream where
  socketAddress :=
    ⟨.v4 (.new 10 0 0 1), 8080⟩
  hostname :=
    "10.0.0.1"
  tls :=
    false

private def goneUpstream : Upstream where
  socketAddress :=
    ⟨.v4 (.new 10 0 0 2), 8080⟩
  hostname :=
    "api.internal"
  tls :=
    false

/-- The upstreams of a service whose host does not resolve any more. -/
private def keptUpstreams : UpstreamMap :=
  AList.singleton "api" [keptUpstream]

private def shrinkingRegistry : ServiceRegistry where
  upstreams :=
    AList.singleton "api" [goneUpstream, keptUpstream]
  staticUpstreams :=
    keptUpstreams

private def unresolvedRound : Round where
  dns :=
    .error (.unspecified "dns: resolution failed")
  docker :=
    .ok ∅

/-- The first round deletes the service, the second one brings it back. -/
private def recoveryEvents : List Event :=
  [.discover unresolvedRound, .delete "api", .finish,
    .discover unresolvedRound, .update "api", .finish]

private def emptiedRegistry : ServiceRegistry where
  upstreams :=
    ∅
  staticUpstreams :=
    keptUpstreams

/-- A round without discovered upstreams merges to the static ones. -/
private theorem mergesTo_unresolvedRound
    {registry : ServiceRegistry}
    (isStatic : registry.staticUpstreams = keptUpstreams) :
    MergesTo keptUpstreams ⟨registry, none⟩ (.discover unresolvedRound) := by
  intro name
  have merged : registry.mergeRound unresolvedRound = keptUpstreams := by
    rw [mergeRound, isStatic]
    rfl
  rw [merged]
  cases keptUpstreams.lookup name with
  | none =>
      exact .none
  | some upstreams =>
      exact .some fun _ => Iff.rfl

/-- The condition is about the start of a round only. -/
private theorem mergesTo_of_withinRound
    {target : UpstreamMap}
    {event : Event}
    {before after : Live}
    (taken : WithinRound before event after) :
    Guarded (MergesTo target) Step before event after := by
  obtain ⟨notStart, step⟩ := taken
  refine ⟨?_, step⟩
  cases event with
  | discover round => exact absurd rfl (notStart round)
  | update | delete | finish | getUpstreams => trivial

private theorem run_recoveryEvents :
    Run (Guarded (MergesTo keptUpstreams) Step) ⟨shrinkingRegistry, none⟩
      (recoveryEvents ++ [.getUpstreams "api" [keptUpstream]])
      ⟨⟨keptUpstreams, keptUpstreams⟩, none⟩ := by
  have nothingGained :
      [].Perm (diffUpstreams shrinkingRegistry.upstreams
        (shrinkingRegistry.mergeRound unresolvedRound)).updated.keys := by
    decide
  have isLost :
      ["api"].Perm (diffUpstreams shrinkingRegistry.upstreams
        (shrinkingRegistry.mergeRound unresolvedRound)).deleted.keys := by
    decide
  have isMissing :
      ["api"].Perm (diffUpstreams emptiedRegistry.upstreams
        (emptiedRegistry.mergeRound unresolvedRound)).updated.keys := by
    decide
  have nothingLost :
      [].Perm (diffUpstreams emptiedRegistry.upstreams
        (emptiedRegistry.mergeRound unresolvedRound)).deleted.keys := by
    decide
  have begins : Guarded (MergesTo keptUpstreams) Step
      ⟨shrinkingRegistry, none⟩ (.discover unresolvedRound) _ :=
    ⟨mergesTo_unresolvedRound rfl, .discover nothingGained isLost⟩
  have deletes := (Run.single begins).snoc
    (mergesTo_of_withinRound ⟨by rintro _ ⟨⟩, .delete⟩)
  have emptied : Run (Guarded (MergesTo keptUpstreams) Step)
      ⟨shrinkingRegistry, none⟩ _ ⟨emptiedRegistry, none⟩ :=
    deletes.snoc
    (mergesTo_of_withinRound ⟨by rintro _ ⟨⟩, .finish⟩)
  have again := emptied.snoc
    ⟨mergesTo_unresolvedRound rfl, .discover isMissing nothingLost⟩
  have updates := again.snoc
    (mergesTo_of_withinRound ⟨by rintro _ ⟨⟩, .update⟩)
  have recovered := updates.snoc
    (mergesTo_of_withinRound ⟨by rintro _ ⟨⟩, .finish⟩)
  exact recovered.snoc
    (mergesTo_of_withinRound ⟨by rintro _ ⟨⟩, .getUpstreams⟩)

/-- A service that shrinks is gone after one round and back after two. -/
theorem reads_recover_of_shrinking_service :
    ShowsTarget keptUpstreams (finishedRounds recoveryEvents)
      (.getUpstreams "api" [keptUpstream]) :=
  reads_recover_after_two_rounds keptUpstreams shrinkingRegistry
    recoveryEvents [] _ _ run_recoveryEvents

end Recovery

end ServiceRegistry

end Pingoo
