import Mathlib.Data.List.Dedup
import Pingoo.Library.Interaction
import Pingoo.ServiceRegistryAgreement

namespace Pingoo

/-!
# DNS discovery

The upstreams that are written with a domain are found by looking the domain up.
What a look-up answers is up to the environment; one that fails finds nothing.
-/

open Interaction

/-- `UpstreamHost`. -/
structure UpstreamHost where
  hostname : String
  tls : Bool
  port : UInt16
  deriving Repr, DecidableEq

/-- The upstreams that are written with a domain. -/
def domainHosts (upstreams : List UpstreamConfig) : List UpstreamHost :=
  upstreams.filterMap fun
    | .ipAddress _ => none
    | .domain hostname tls port => some ⟨hostname, tls, port⟩

/-- `get_upstream_hosts`. -/
def getUpstreamHosts (servicesConfig : List ServiceConfig) :
    AList fun _ : String => List UpstreamHost :=
  (servicesConfig.map fun serviceConfig =>
    match serviceConfig.httpProxy, serviceConfig.tcpProxy with
    | some upstreams, _ =>
        (serviceConfig.name, domainHosts upstreams)
    | none, some upstreams =>
        (serviceConfig.name, domainHosts upstreams)
    | none, none =>
        (serviceConfig.name, [])).foldl
    (fun map pair => map.insert pair.1 pair.2) ∅

/-- `IpAddr::is_loopback`, for IPv6. -/
def IpAddr.isIpv6Loopback (ip : IpAddr) : Bool :=
  decide (ip = .v6 #v[0, 0, 0, 0, 0, 0, 0, 1])

/-- The address of an upstream; the loopback of IPv6 is replaced. -/
def UpstreamHost.socketAddress
    (host : UpstreamHost)
    (ip : IpAddr) : SocketAddr :=
  if ip.isIpv6Loopback then ⟨.localhost, host.port⟩ else ⟨ip, host.port⟩

/-- The upstreams of a host, one for each address. -/
def UpstreamHost.upstreams
    (host : UpstreamHost)
    (ips : List IpAddr) : List Upstream :=
  (ips.map host.socketAddress).dedup.map fun socketAddress => {
    socketAddress := socketAddress
    hostname := host.hostname
    tls := host.tls
  }

/-- What the discovery asks its environment: the addresses of a domain. -/
inductive DnsQuery where
  | lookupIp (hostname : String)
  deriving DecidableEq

/-- A look-up may fail. -/
@[reducible] def DnsQuery.Answer : DnsQuery → Type
  | .lookupIp _ =>
      Except Unit (List IpAddr)

abbrev DnsProgram := Program DnsQuery DnsQuery.Answer

/-- `Resolver::lookup_ip`. -/
def lookupIp (hostname : String) : DnsProgram (Except Unit (List IpAddr)) :=
  Program.request (DnsQuery.lookupIp hostname)

/-- The addresses of an answer; a failure has none. -/
def answeredIps : Except Unit (List IpAddr) → List IpAddr
  | .ok records =>
      records
  | .error _ =>
      []

/-- Look the hosts of a service up, one after the other. -/
def discoverHosts : List UpstreamHost → DnsProgram (List Upstream)
  | [] =>
      pure []
  | host :: rest => do
      let answer ← lookupIp host.hostname
      let others ← discoverHosts rest
      pure (host.upstreams (answeredIps answer) ++ others)

/-- Look the hosts of all services up, one after the other. -/
def discoverServices (ret : UpstreamMap) :
    List (String × List UpstreamHost) → DnsProgram UpstreamMap
  | [] =>
      pure ret
  | (service, hosts) :: rest => do
      let upstreams ← discoverHosts hosts
      discoverServices (ret.insert service upstreams) rest

/-- `DnsServiceDiscoverer::discover`.  It never fails. -/
def DnsServiceDiscoverer.discover
    (hosts : AList fun _ : String => List UpstreamHost) :
    DnsProgram DiscovererAnswer := do
  let ret ← discoverServices ∅
    (hosts.entries.map fun entry => (entry.1, entry.2))
  pure (.ok ret)

/-- An upstream that an upstream of the configuration may be found as. -/
inductive ResolvesTo : UpstreamConfig → Upstream → Prop where
  | ipAddress (upstream : Upstream) : ResolvesTo (.ipAddress upstream) upstream
  | domain
      {hostname : String}
      {tls : Bool}
      {port : UInt16}
      {ips : List IpAddr}
      {upstream : Upstream}
      (found : upstream ∈ UpstreamHost.upstreams ⟨hostname, tls, port⟩ ips) :
      ResolvesTo (.domain hostname tls port) upstream

/-- The upstreams of a service, as they are written. -/
def ServiceConfig.upstreams (service : ServiceConfig) : List UpstreamConfig :=
  (service.httpProxy.or service.tcpProxy).getD []

/-- An upstream is one of those that are written for a service. -/
def Configured
    (servicesConfig : List ServiceConfig)
    (name : String)
    (upstream : Upstream) : Prop :=
  ∃ service ∈ servicesConfig,
    service.name = name ∧
    ∃ config ∈ service.upstreams, ResolvesTo config upstream

section Hosts

/-- An upstream of a host has its port, its name and its protocol. -/
theorem mem_upstreams
    {host : UpstreamHost}
    {ips : List IpAddr}
    {upstream : Upstream}
    (member : upstream ∈ host.upstreams ips) :
    upstream.socketAddress.port = host.port ∧
      upstream.hostname = host.hostname ∧
      upstream.tls = host.tls := by
  simp only [UpstreamHost.upstreams, List.mem_map, List.mem_dedup] at member
  obtain ⟨_, ⟨ip, _, rfl⟩, rfl⟩ := member
  refine ⟨?_, rfl, rfl⟩
  simp only [UpstreamHost.socketAddress]
  split
  · rfl
  · rfl

/-- What is found in a map of services was put there for one of them. -/
private theorem mem_of_lookup_pairs
    {α : Type}
    {pairs : List (String × α)}
    {name : String}
    {value : α}
    (found :
      (pairs.foldl (fun map pair => map.insert pair.1 pair.2)
        (∅ : AList fun _ : String => α)).lookup name = some value) :
    (name, value) ∈ pairs := by
  induction pairs using List.reverseRec with
  | nil =>
      cases found
  | append_singleton earlier pair inductionHypothesis =>
      rw [List.foldl_append, List.foldl_cons, List.foldl_nil] at found
      by_cases same : name = pair.1
      · rw [same, AList.lookup_insert] at found
        cases found
        rw [same]
        exact List.mem_append_right _ (List.mem_singleton_self _)
      · rw [AList.lookup_insert_ne same] at found
        exact List.mem_append_left _ (inductionHypothesis found)

/-- The hosts of a service are its upstreams that are written with a domain. -/
theorem mem_getUpstreamHosts
    {servicesConfig : List ServiceConfig}
    {name : String}
    {hosts : List UpstreamHost}
    (found : (getUpstreamHosts servicesConfig).lookup name = some hosts) :
    ∃ service ∈ servicesConfig,
      service.name = name ∧ hosts = domainHosts service.upstreams := by
  obtain ⟨service, isService, same⟩ :=
    List.mem_map.mp (mem_of_lookup_pairs found)
  refine ⟨service, isService, ?_⟩
  cases http : service.httpProxy <;> cases tcp : service.tcpProxy <;>
    rw [http, tcp] at same <;> cases same <;>
    simp [ServiceConfig.upstreams, http, tcp, domainHosts]

/-- The static upstreams of a service are written with an address. -/
theorem mem_getStaticUpstreams
    {servicesConfig : List ServiceConfig}
    {name : String}
    {upstreams : List Upstream}
    (found : (getStaticUpstreams servicesConfig).lookup name = some upstreams) :
    ∃ service ∈ servicesConfig,
      service.name = name ∧ upstreams = ipUpstreams service.upstreams := by
  obtain ⟨service, isService, same⟩ :=
    List.mem_map.mp (mem_of_lookup_pairs found)
  refine ⟨service, isService, ?_⟩
  cases http : service.httpProxy <;> cases tcp : service.tcpProxy <;>
    rw [http, tcp] at same <;> cases same <;>
    simp [ServiceConfig.upstreams, http, tcp, ipUpstreams]

end Hosts

section Discovery

variable {servicesConfig : List ServiceConfig}

/-- A static upstream is one that is written for the service. -/
theorem configured_of_static
    {name : String}
    {upstreams : List Upstream}
    (found : (getStaticUpstreams servicesConfig).lookup name = some upstreams)
    {upstream : Upstream}
    (member : upstream ∈ upstreams) :
    Configured servicesConfig name upstream := by
  obtain ⟨service, isService, isName, rfl⟩ := mem_getStaticUpstreams found
  obtain ⟨config, isConfig, isAddress⟩ := List.mem_filterMap.mp member
  refine ⟨service, isService, isName, config, isConfig, ?_⟩
  cases config with
  | ipAddress other =>
      cases isAddress
      exact .ipAddress upstream
  | domain hostname tls port =>
      cases isAddress

/-- The hosts of a service are looked up to what they resolve to. -/
theorem returns_discoverHosts (hosts : List UpstreamHost) :
    (discoverHosts hosts).Returns fun upstreams =>
      ∀ upstream ∈ upstreams, ∃ host ∈ hosts, ∃ ips,
        upstream ∈ host.upstreams ips := by
  induction hosts with
  | nil =>
      exact nofun
  | cons host rest inductionHypothesis =>
      refine Program.Returns.request_bind fun answer =>
        inductionHypothesis.bind fun others resolved => ?_
      intro upstream member
      rcases List.mem_append.mp member with fromHost | fromRest
      · exact ⟨host, List.mem_cons_self, _, fromHost⟩
      · obtain ⟨other, isHost, ips, found⟩ := resolved upstream fromRest
        exact ⟨other, List.mem_cons_of_mem host isHost, ips, found⟩

/-- A map whose upstreams are what the services are configured with. -/
def AllConfigured
    (servicesConfig : List ServiceConfig)
    (map : UpstreamMap) : Prop :=
  ∀ name, ∀ upstream ∈ (map.lookup name).getD [],
    Configured servicesConfig name upstream

/-- The services are looked up to what they are configured with. -/
theorem returns_discoverServices
    {services : List (String × List UpstreamHost)}
    (written :
      ∀ entry ∈ services, ∀ host ∈ entry.2,
        ∃ service ∈ servicesConfig,
          service.name = entry.1 ∧ host ∈ domainHosts service.upstreams)
    {ret : UpstreamMap}
    (configured : AllConfigured servicesConfig ret) :
    (discoverServices ret services).Returns
      (AllConfigured servicesConfig) := by
  induction services generalizing ret with
  | nil =>
      exact configured
  | cons entry rest inductionHypothesis =>
      obtain ⟨first, others⟩ := List.forall_mem_cons.mp written
      refine (returns_discoverHosts entry.2).bind fun upstreams resolved =>
        inductionHypothesis others ?_
      intro name upstream member
      by_cases same : name = entry.1
      · rw [same, AList.lookup_insert] at member
        obtain ⟨host, isHost, ips, found⟩ := resolved upstream member
        obtain ⟨service, isService, isName, isDomain⟩ := first host isHost
        obtain ⟨config, isConfig, isHostOf⟩ := List.mem_filterMap.mp isDomain
        refine ⟨service, isService, isName.trans same.symm, config, isConfig,
          ?_⟩
        cases config with
        | ipAddress other =>
            cases isHostOf
        | domain hostname tls port =>
            cases isHostOf
            exact .domain found
      · rw [AList.lookup_insert_ne same] at member
        exact configured name upstream member

/-- Whatever the look-ups answer, only configured upstreams are discovered. -/
theorem returns_discover (servicesConfig : List ServiceConfig) :
    (DnsServiceDiscoverer.discover (getUpstreamHosts servicesConfig)).Returns
      fun answer => ∃ map,
        answer = .ok map ∧ AllConfigured servicesConfig map := by
  refine (returns_discoverServices ?_ ?_).bind fun map configured =>
    ⟨map, rfl, configured⟩
  · intro entry member host isHost
    obtain ⟨⟨name, hosts⟩, isEntry, rfl⟩ := List.mem_map.mp member
    obtain ⟨service, isService, isName, rfl⟩ :=
      mem_getUpstreamHosts (AList.mem_lookup_iff.mpr isEntry)
    exact ⟨service, isService, isName, isHost⟩
  · exact nofun

/-- An upstream after a round was there before, or was merged in the round. -/
theorem mem_getUpstreams_discover
    {registry : ServiceRegistry}
    {round : Round}
    {name : String}
    {upstream : Upstream}
    (member : upstream ∈ (registry.discover round).2.getUpstreams name) :
    upstream ∈ registry.getUpstreams name ∨
      registry.MergedUpstream round name upstream := by
  rw [← ServiceRegistry.mem_mergeRound]
  simp only [ServiceRegistry.getUpstreams, ServiceRegistry.lookup_discover]
    at member ⊢
  split at member
  · cases member
  · next isNew =>
      right
      rwa [isNew]
  · next isOld isNew =>
      split at member
      · cases member
      · split at member
        · right
          rwa [isNew]
        · left
          rwa [isOld]

/--
A round whose DNS answer was looked up for the configuration; what Docker
answers may be anything with a property.
-/
def LookedUp
    (servicesConfig : List ServiceConfig)
    (isContainer : String → Upstream → Prop)
    (round : Round) : Prop :=
  (∃ oracle,
    round.dns = ((DnsServiceDiscoverer.discover
      (getUpstreamHosts servicesConfig)).run oracle []).1) ∧
  ∀ name upstream,
    ServiceRegistry.Answers round.docker name upstream →
      isContainer name upstream

/--
A registry whose upstreams are written for their services, or have a property.
-/
structure OnlyConfigured
    (servicesConfig : List ServiceConfig)
    (isContainer : String → Upstream → Prop)
    (registry : ServiceRegistry) : Prop where
  isStatic : registry.staticUpstreams = getStaticUpstreams servicesConfig
  upstreams :
    ∀ name, ∀ upstream ∈ registry.getUpstreams name,
      Configured servicesConfig name upstream ∨ isContainer name upstream

variable {isContainer : String → Upstream → Prop}

/-- A static upstream is one that is written for the service. -/
theorem allConfigured_getStaticUpstreams :
    AllConfigured servicesConfig (getStaticUpstreams servicesConfig) := by
  intro name upstream member
  cases found : (getStaticUpstreams servicesConfig).lookup name with
  | none =>
      rw [found] at member
      cases member
  | some upstreams =>
      rw [found] at member
      exact configured_of_static found member

/-- A round adds no other upstreams. -/
theorem OnlyConfigured.discover
    {registry : ServiceRegistry}
    (known : OnlyConfigured servicesConfig isContainer registry)
    {round : Round}
    (lookedUp : LookedUp servicesConfig isContainer round) :
    OnlyConfigured servicesConfig isContainer (registry.discover round).2 where
  isStatic :=
    known.isStatic
  upstreams := by
    intro name upstream member
    obtain ⟨⟨oracle, isAnswer⟩, docker⟩ := lookedUp
    rcases mem_getUpstreams_discover member with old | static | dns | container
    · exact known.upstreams name upstream old
    · rw [known.isStatic] at static
      exact Or.inl (allConfigured_getStaticUpstreams name upstream static)
    · obtain ⟨map, isMap, inMap⟩ := dns
      obtain ⟨answered, isAnswered, configured⟩ :=
        (returns_discover servicesConfig).run oracle []
      rw [isAnswer, isAnswered] at isMap
      cases isMap
      exact Or.inl (configured name upstream inMap)
    · exact Or.inr (docker name upstream container)

/--
In every run of discovery rounds, an upstream of a service is one that is
written for it, or one that Docker answered.
-/
theorem onlyConfigured_afterRounds
    {rounds : List Round}
    (lookedUp :
      StepRun.Along ServiceRegistry.discover
        (fun _ round => LookedUp servicesConfig isContainer round)
        (ServiceRegistry.new servicesConfig) rounds) :
    OnlyConfigured servicesConfig isContainer
      (ServiceRegistry.afterRounds servicesConfig rounds) := by
  have initial :
      OnlyConfigured servicesConfig isContainer
        (ServiceRegistry.new servicesConfig) := {
    isStatic := rfl
    upstreams := fun name upstream member =>
      Or.inl (allConfigured_getStaticUpstreams name upstream member)
  }
  exact StepRun.final_invariant (fun known fresh => known.discover fresh)
    initial lookedUp

end Discovery

end Pingoo
