import Pingoo.Dns
import Pingoo.Docker.Discovery
import Pingoo.Library.ProgramPool
import Pingoo.ServiceRegistryReads

namespace Pingoo

open Interaction Transition

/-!
# Where upstreams come from

The registry is filled by two discoverers, from what a resolver and the Docker
daemon answer them.  Whatever a reader gets from it, at any moment of any round,
is written in the configuration, or was answered in a round of the run: as an
address of a domain that is written for the service, or as a container with the
label of the service.
-/

/-- What the resolver and the daemon answer in a round. -/
structure RoundAnswers where
  resolver : List DnsQuery → (asked : DnsQuery) → asked.Answer
  daemon :
    List Docker.DiscoveryQuery → (asked : Docker.DiscoveryQuery) → asked.Answer

/-- The discoverers of a configuration; its services are listed in any order. -/
structure Discoverers (servicesConfig : List ServiceConfig) where
  hosts : AList fun _ : String => List UpstreamHost
  sameHosts : hosts.entries.Perm (getUpstreamHosts servicesConfig).entries
  docker : Docker.DockerServiceDiscoverer

/-- The round that the discoverers make of some answers. -/
def Discoverers.round
    {servicesConfig : List ServiceConfig}
    (discoverers : Discoverers servicesConfig)
    (answers : RoundAnswers) : Round where
  dns :=
    ((DnsServiceDiscoverer.discover discoverers.hosts).run
      answers.resolver []).1
  docker :=
    (discoverers.docker.discover.run answers.daemon []).1

/-- The registry at work, and what was answered in its rounds so far. -/
structure Discovery where
  live : ServiceRegistry.Live
  history : List RoundAnswers

/-- A round is started with new answers, or the registry goes on with one. -/
inductive Discovery.Changes
    {servicesConfig : List ServiceConfig}
    (discoverers : Discoverers servicesConfig) :
    Discovery → Discovery → Prop
  | discover
      {live after : ServiceRegistry.Live}
      {history : List RoundAnswers}
      {answers : RoundAnswers}
      (starts :
        ServiceRegistry.Step live (.discover (discoverers.round answers))
          after) :
      Changes discoverers ⟨live, history⟩ ⟨after, history ++ [answers]⟩
  | goOn
      {live after : ServiceRegistry.Live}
      {history : List RoundAnswers}
      {event : ServiceRegistry.Event}
      (within : ServiceRegistry.WithinRound live event after) :
      Changes discoverers ⟨live, history⟩ ⟨after, history⟩

/-- The registry of a configuration before its first round. -/
def Discovery.initial (servicesConfig : List ServiceConfig) : Discovery where
  live :=
    ServiceRegistry.initial servicesConfig
  history :=
    []

/-- An upstream of a service, with the reason why it is one. -/
inductive KnownUpstream
    {servicesConfig : List ServiceConfig}
    (discoverers : Discoverers servicesConfig)
    (history : List RoundAnswers)
    (name : String)
    (upstream : Upstream) : Prop
  | written
      {service : ServiceConfig}
      (isService : service ∈ servicesConfig)
      (isName : service.name = name)
      (isWritten : .ipAddress upstream ∈ service.upstreams)
  | resolved
      {service : ServiceConfig}
      {hostname : String}
      {tls : Bool}
      {port : UInt16}
      {answers : RoundAnswers}
      {asked : List DnsQuery}
      (isService : service ∈ servicesConfig)
      (isName : service.name = name)
      (isWritten : .domain hostname tls port ∈ service.upstreams)
      (isRound : answers ∈ history)
      (isAsked :
        asked ++ [.lookupIp hostname] <+:
          (DnsServiceDiscoverer.discover discoverers.hosts).queries
            answers.resolver)
      (isAnswered :
        upstream ∈ UpstreamHost.upstreams ⟨hostname, tls, port⟩
          (answeredIps (answers.resolver asked (.lookupIp hostname))))
  | container
      {answers : RoundAnswers}
      {containers : List Docker.ContainerSummary}
      {container : Docker.ContainerSummary}
      (isRound : answers ∈ history)
      (isListed :
        answers.daemon [] (.listContainers Docker.serviceContainers) =
          .ok containers)
      (isContainer : container ∈ containers)
      (contributes : Docker.Contributes container name upstream)

/-- What is known stays known. -/
theorem KnownUpstream.append
    {servicesConfig : List ServiceConfig}
    {discoverers : Discoverers servicesConfig}
    {history : List RoundAnswers}
    {name : String}
    {upstream : Upstream}
    (known : KnownUpstream discoverers history name upstream)
    (more : List RoundAnswers) :
    KnownUpstream discoverers (history ++ more) name upstream := by
  cases known with
  | written isService isName isWritten =>
      exact .written isService isName isWritten
  | resolved isService isName isWritten isRound isAsked isAnswered =>
      exact .resolved isService isName isWritten
        (List.mem_append_left more isRound) isAsked isAnswered
  | container isRound isListed isContainer contributes =>
      exact .container (List.mem_append_left more isRound) isListed isContainer
        contributes

section Dns

variable {oracle : List DnsQuery → (asked : DnsQuery) → asked.Answer}

/-- What hosts are found as was answered when one of them was looked up. -/
theorem mem_run_discoverHosts
    {log : List DnsQuery}
    {hosts : List UpstreamHost}
    {upstream : Upstream}
    (member : upstream ∈ (Program.run oracle log (discoverHosts hosts)).1) :
    ∃ host ∈ hosts, ∃ asked,
      asked ++ [.lookupIp host.hostname] <+:
          (Program.run oracle log (discoverHosts hosts)).2 ∧
        upstream ∈
          host.upstreams
            (answeredIps (oracle asked (.lookupIp host.hostname))) := by
  induction hosts generalizing log with
  | nil =>
      cases member
  | cons host rest inductionHypothesis =>
      rw [discoverHosts, lookupIp, Program.run_request_bind, Program.run_bind,
        Program.run_pure] at member ⊢
      rcases List.mem_append.mp member with fromHost | fromRest
      · exact ⟨host, List.mem_cons_self, log, Program.prefix_run _ _ _,
          fromHost⟩
      · obtain ⟨other, isHost, found⟩ := inductionHypothesis fromRest
        exact ⟨other, List.mem_cons_of_mem host isHost, found⟩

/-- What services are found as was there, or was answered to a look-up. -/
theorem mem_run_discoverServices
    {log : List DnsQuery}
    {ret : UpstreamMap}
    {services : List (String × List UpstreamHost)}
    {name : String}
    {upstream : Upstream}
    (member :
      upstream ∈
        ((Program.run oracle log
          (discoverServices ret services)).1.lookup name).getD []) :
    upstream ∈ (ret.lookup name).getD [] ∨
      ∃ hosts, (name, hosts) ∈ services ∧ ∃ host ∈ hosts, ∃ asked,
        asked ++ [.lookupIp host.hostname] <+:
            (Program.run oracle log (discoverServices ret services)).2 ∧
          upstream ∈
            host.upstreams
              (answeredIps (oracle asked (.lookupIp host.hostname))) := by
  induction services generalizing log ret with
  | nil =>
      exact .inl member
  | cons entry rest inductionHypothesis =>
      rw [discoverServices, Program.run_bind] at member ⊢
      rcases inductionHypothesis member with inRet | ⟨hosts, isEntry, found⟩
      · by_cases same : name = entry.1
        · subst name
          rw [AList.lookup_insert] at inRet
          obtain ⟨host, isHost, asked, isAsked, isAnswered⟩ :=
            mem_run_discoverHosts inRet
          exact .inr ⟨entry.2, List.mem_cons_self, host, isHost, asked,
            isAsked.trans (Program.prefix_run _ _ _), isAnswered⟩
        · rw [AList.lookup_insert_ne same] at inRet
          exact .inl inRet
      · exact .inr ⟨hosts, List.mem_cons_of_mem entry isEntry, found⟩

end Dns

section Docker

/-- What Docker answers for a service are containers that were listed. -/
theorem exists_container_of_answers
    {docker : Docker.DockerServiceDiscoverer}
    {oracle :
      List Docker.DiscoveryQuery →
        (asked : Docker.DiscoveryQuery) → asked.Answer}
    {name : String}
    {upstream : Upstream}
    (answers :
      ServiceRegistry.Answers (docker.discover.run oracle []).1 name
        upstream) :
    ∃ containers,
      oracle [] (.listContainers Docker.serviceContainers) = .ok containers ∧
        ∃ container ∈ containers,
          Docker.Contributes container name upstream := by
  obtain ⟨upstreams, isAnswer, member⟩ := answers
  cases enabled : docker.hasDockerClient with
  | false =>
      rw [Docker.DockerServiceDiscoverer.discover, enabled] at isAnswer
      cases isAnswer
      rw [AList.lookup_empty] at member
      cases member
  | true =>
      cases listed :
          oracle [] (.listContainers Docker.serviceContainers) with
      | error err =>
          rw [Docker.DockerServiceDiscoverer.discover, enabled] at isAnswer
          simp only [Bool.not_true, Bool.false_eq_true, if_false] at isAnswer
          rw [Program.run_request_bind, listed] at isAnswer
          cases isAnswer
      | ok containers =>
          rw [Docker.run_discover enabled listed] at isAnswer
          cases isAnswer
          rw [Docker.getD_lookup_discovered] at member
          obtain ⟨container, isContainer, contributes⟩ :=
            List.mem_flatMap.mp member
          obtain ⟨found, isFound, isContributed⟩ :=
            Docker.contributed_eq_iff.mp
              ⟨List.ne_nil_of_mem contributes, rfl⟩
          rw [isFound] at contributes
          obtain rfl := List.mem_singleton.mp contributes
          exact ⟨containers, rfl, container, isContainer, isContributed⟩

end Docker

section Rounds

variable {servicesConfig : List ServiceConfig}
variable {discoverers : Discoverers servicesConfig}

/-- A static upstream is written for its service. -/
theorem known_of_static
    {history : List RoundAnswers}
    {name : String}
    {upstream : Upstream}
    (static :
      upstream ∈ ((getStaticUpstreams servicesConfig).lookup name).getD []) :
    KnownUpstream discoverers history name upstream := by
  cases found : (getStaticUpstreams servicesConfig).lookup name with
  | none =>
      rw [found] at static
      cases static
  | some upstreams =>
      rw [found] at static
      obtain ⟨service, isService, isName, rfl⟩ := mem_getStaticUpstreams found
      obtain ⟨entry, isEntry, isAddress⟩ := List.mem_filterMap.mp static
      cases entry with
      | domain =>
          cases isAddress
      | ipAddress =>
          cases isAddress
          exact .written isService isName isEntry

/-- What a round merges for a service is known once the round was answered. -/
theorem known_of_merged
    {registry : ServiceRegistry}
    {history : List RoundAnswers}
    {answers : RoundAnswers}
    {name : String}
    {upstream : Upstream}
    (isStatic : registry.staticUpstreams = getStaticUpstreams servicesConfig)
    (merged :
      upstream ∈
        ((registry.mergeRound (discoverers.round answers)).lookup name).getD
          []) :
    KnownUpstream discoverers (history ++ [answers]) name upstream := by
  have isRound : answers ∈ history ++ [answers] :=
    List.mem_append_right _ (List.mem_singleton_self _)
  rcases (ServiceRegistry.mem_mergeRound registry _ name upstream).mp merged
    with static | dns | container
  · rw [isStatic] at static
    exact known_of_static static
  · obtain ⟨map, isMap, inMap⟩ := dns
    rw [Discoverers.round, DnsServiceDiscoverer.discover, Program.run_bind]
      at isMap
    cases isMap
    rcases mem_run_discoverServices inMap with nothing |
      ⟨hosts, isEntry, host, isHost, asked, isAsked, isAnswered⟩
    · rw [AList.lookup_empty] at nothing
      cases nothing
    · obtain ⟨⟨service, entryHosts⟩, inHosts, same⟩ := List.mem_map.mp isEntry
      cases same
      have isLookup := AList.mem_lookup_iff.mpr inHosts
      rw [Option.mem_def, AList.perm_lookup discoverers.sameHosts] at isLookup
      obtain ⟨service, isService, isName, rfl⟩ := mem_getUpstreamHosts isLookup
      obtain ⟨entry, inService, isDomain⟩ := List.mem_filterMap.mp isHost
      cases entry with
      | ipAddress =>
          cases isDomain
      | domain =>
          cases isDomain
          refine .resolved isService isName inService isRound ?_ isAnswered
          rw [Program.queries, DnsServiceDiscoverer.discover, Program.run_bind]
          exact isAsked
  · obtain ⟨containers, isListed, container, isContainer, contributes⟩ :=
      exists_container_of_answers container
    exact .container isRound isListed isContainer contributes

/-- Everything that the registry has, and is about to have, is known. -/
structure Sourced
    (discoverers : Discoverers servicesConfig)
    (discovery : Discovery) : Prop where
  isStatic :
    discovery.live.registry.staticUpstreams = getStaticUpstreams servicesConfig
  upstreams :
    ∀ name, ∀ upstream ∈ discovery.live.registry.getUpstreams name,
      KnownUpstream discoverers discovery.history name upstream
  applying :
    ∀ running, discovery.live.running = some running →
      ∀ name, ∀ upstream ∈ (running.newUpstreams.lookup name).getD [],
        KnownUpstream discoverers discovery.history name upstream

/-- A service is updated with what is about to be applied. -/
private theorem sourced_update
    {registry : ServiceRegistry}
    {newUpstreams : UpstreamMap}
    {known : String → Upstream → Prop}
    (old :
      ∀ name, ∀ upstream ∈ registry.getUpstreams name, known name upstream)
    (new :
      ∀ name, ∀ upstream ∈ (newUpstreams.lookup name).getD [],
        known name upstream)
    (serviceName : String) :
    let moved :=
      ServiceRegistry.applyUpdated (registry.upstreams, newUpstreams)
        serviceName
    (∀ name, ∀ upstream ∈ (moved.1.lookup name).getD [],
      known name upstream) ∧
      ∀ name, ∀ upstream ∈ (moved.2.lookup name).getD [],
        known name upstream := by
  rw [ServiceRegistry.applyUpdated]
  cases isNew : newUpstreams.lookup serviceName with
  | none =>
      exact ⟨old, new⟩
  | some upstreams =>
      constructor
      · intro name upstream member
        by_cases same : name = serviceName
        · subst name
          rw [AList.lookup_insert] at member
          exact new serviceName upstream (isNew ▸ member)
        · rw [AList.lookup_insert_ne same] at member
          exact old name upstream member
      · intro name upstream member
        by_cases same : name = serviceName
        · subst name
          rw [AList.lookup_erase] at member
          cases member
        · rw [AList.lookup_erase_ne same] at member
          exact new name upstream member

/-- The registry before its first round has what is written. -/
theorem sourced_initial : Sourced discoverers (.initial servicesConfig) where
  isStatic :=
    rfl
  upstreams _ _ member :=
    known_of_static member
  applying :=
    nofun

/-- A change keeps what is known, and adds nothing that is not known. -/
theorem Sourced.change
    {before after : Discovery}
    (sourced : Sourced discoverers before)
    (changes : before.Changes discoverers after) :
    Sourced discoverers after ∧
      ∃ more, after.history = before.history ++ more := by
  cases changes with
  | discover starts =>
      refine ⟨?_, _, rfl⟩
      cases starts with
      | discover =>
          refine ⟨sourced.isStatic, fun name upstream member =>
            (sourced.upstreams name upstream member).append _, ?_⟩
          rintro running ⟨⟩ name upstream member
          exact known_of_merged sourced.isStatic member
  | goOn within =>
      refine ⟨?_, [], (List.append_nil _).symm⟩
      obtain ⟨notStart, step⟩ := within
      cases step with
      | discover =>
          exact absurd rfl (notStart _)
      | @update registry newUpstreams serviceName =>
          obtain ⟨isUpdated, isLeft⟩ :=
            sourced_update sourced.upstreams (sourced.applying _ rfl)
              serviceName
          refine ⟨sourced.isStatic, isUpdated, ?_⟩
          rintro running ⟨⟩
          exact isLeft
      | @delete registry newUpstreams serviceName =>
          refine ⟨sourced.isStatic, ?_, ?_⟩
          · intro name upstream member
            rw [ServiceRegistry.getUpstreams] at member
            by_cases same : name = serviceName
            · subst name
              rw [AList.lookup_erase] at member
              cases member
            · rw [AList.lookup_erase_ne same] at member
              exact sourced.upstreams name upstream member
          · rintro running ⟨⟩ name upstream member
            exact sourced.applying ⟨newUpstreams, _, _⟩ rfl name upstream member
      | finish =>
          refine ⟨sourced.isStatic, sourced.upstreams, ?_⟩
          rintro running ⟨⟩
      | getUpstreams =>
          exact sourced

section Reads

variable {τ query α ι : Type} {answer : query → Type}

/-- An object that holds the registry at work, and lets its upstreams be read. -/
structure HoldsRegistry
    (discoverers : Discoverers servicesConfig)
    (object : SharedObject τ query answer)
    (view : τ → Discovery)
    (readOf : AnsweredQuery query answer → Option (String × List Upstream)) :
    Prop where
  changes :
    ∀ {before after}, object.changes before after →
      view after = view before ∨
        Discovery.Changes discoverers (view before) (view after)
  answers :
    ∀ {before asked reply after}, object.answers before asked reply after →
      view after = view before ∧
        ∀ service upstreams,
          readOf ⟨asked, reply⟩ = some (service, upstreams) →
            upstreams = (view before).live.registry.getUpstreams service

/-- What the registry has, and what was read of it, is known. -/
structure AllKnown
    (discoverers : Discoverers servicesConfig)
    (view : τ → Discovery)
    (readOf : AnsweredQuery query answer → Option (String × List Upstream))
    (events : List (PoolEvent query answer ι))
    (pool : Pool τ query answer α) : Prop where
  sourced : Sourced discoverers (view pool.shared)
  read :
    ∀ index made, .exchange index made ∈ events →
      ∀ service upstreams, readOf made = some (service, upstreams) →
        ∀ upstream ∈ upstreams,
          KnownUpstream discoverers (view pool.shared).history service
            upstream

variable {object : SharedObject τ query answer} {view : τ → Discovery}
variable
  {readOf : AnsweredQuery query answer → Option (String × List Upstream)}
variable {code : ι → Program query answer α}
variable {events : List (PoolEvent query answer ι)}

/-- Every step keeps everything known. -/
theorem AllKnown.step
    {before after : Pool τ query answer α}
    {event : PoolEvent query answer ι}
    (holds : HoldsRegistry discoverers object view readOf)
    (known : AllKnown discoverers view readOf events before)
    (taken : Pool.Step object code before event after) :
    AllKnown discoverers view readOf (events ++ [event]) after := by
  cases taken with
  | @change state changes =>
      obtain ⟨sourced, more, isHistory⟩ :
          Sourced discoverers (view state) ∧
            ∃ more,
              (view state).history = (view before.shared).history ++ more := by
        rcases holds.changes changes with same | changes
        · rw [same]
          exact ⟨known.sourced, [], (List.append_nil _).symm⟩
        · exact known.sourced.change changes
      refine ⟨sourced, fun index made member service upstreams isRead upstream
        inRead => ?_⟩
      dsimp only
      rw [isHistory]
      have inEvents : .exchange index made ∈ events := by
        simpa using member
      exact (known.read index made inEvents service upstreams isRead upstream
        inRead).append more
  | start =>
      refine ⟨known.sourced, fun index made member => ?_⟩
      exact known.read index made (by simpa using member)
  | exchange isAsking answers =>
      obtain ⟨same, isAnswered⟩ := holds.answers answers
      rw [← same] at isAnswered
      constructor
      · rw [same]
        exact known.sourced
      · intro index made member service upstreams isRead upstream inRead
        rcases List.mem_append.mp member with inEvents | isLast
        · rw [same]
          exact known.read index made inEvents service upstreams isRead upstream
            inRead
        · cases List.mem_singleton.mp isLast
          rw [isAnswered service upstreams isRead, same] at inRead
          rw [same]
          exact known.sourced.upstreams service upstream inRead

/-- Whatever was read in a run is known. -/
theorem HoldsRegistry.known_of_read
    {start : τ}
    {finish : Pool τ query answer α}
    {index : Nat}
    {made : AnsweredQuery query answer}
    {service : String}
    {upstreams : List Upstream}
    {upstream : Upstream}
    (holds : HoldsRegistry discoverers object view readOf)
    (sourced : Sourced discoverers (view start))
    (run : Run (Pool.Step object code) (.initial start) events finish)
    (isMade : .exchange index made ∈ events)
    (isRead : readOf made = some (service, upstreams))
    (member : upstream ∈ upstreams) :
    KnownUpstream discoverers (view finish.shared).history service
      upstream := by
  have allKnown : AllKnown discoverers view readOf events finish :=
    run.invariant_of_events (AllKnown.step holds)
      ⟨sourced, fun _ _ inEvents => absurd inEvents List.not_mem_nil⟩
  exact allKnown.read index made isMade service upstreams isRead upstream member

end Reads

end Rounds

end Pingoo
