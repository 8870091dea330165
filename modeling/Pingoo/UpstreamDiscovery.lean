import Mathlib.Algebra.BigOperators.Group.Multiset.Basic
import Mathlib.Data.Finset.Image
import Pingoo.Dns

namespace Pingoo

/-!
# Which path serves an upstream

Two walks over the configuration share the upstreams of a service: those that
are written with an address are static, those that are written with a domain are
looked up.  Together they serve every entry once, each domain at the distinct
addresses that it resolves to.
-/

open Interaction KeyedFold

/-- A resolver answers each host name with some addresses, or fails. -/
abbrev Resolver := String → Except Unit (List IpAddr)

namespace Resolver

/-- The environment in which a resolver answers. -/
def oracle
    (resolver : Resolver) :
    List DnsQuery → (asked : DnsQuery) → asked.Answer
  | _, .lookupIp hostname =>
      resolver hostname

/-- The address that is used for a resolved one. -/
def usedAddress (ip : IpAddr) : IpAddr :=
  if ip.isIpv6Loopback then .localhost else ip

/-- The distinct addresses that are used for a host name. -/
def addresses (resolver : Resolver) (hostname : String) : Finset IpAddr :=
  match resolver hostname with
  | .ok ips => ips.toFinset.image usedAddress
  | .error _ => ∅

/-- The upstreams of some hosts. -/
def upstreams
    (resolver : Resolver)
    (hosts : List UpstreamHost) : List Upstream :=
  hosts.flatMap fun host =>
    host.upstreams (answeredIps (resolver host.hostname))

/-- They are the answered ones, each once; a failure has none. -/
theorem val_addresses (resolver : Resolver) (hostname : String) :
    (resolver.addresses hostname).val =
      ((answeredIps (resolver hostname)).map usedAddress).dedup := by
  rw [addresses]
  cases resolver hostname with
  | ok ips =>
      rw [answeredIps, Finset.image_val, List.toFinset_val,
        ← Multiset.coe_dedup, Multiset.dedup_map_dedup_eq, Multiset.map_coe,
        Multiset.coe_dedup]
  | error failure =>
      rfl

end Resolver

namespace UpstreamConfig

/-- What an entry adds to the static upstreams of its service. -/
def staticPart : UpstreamConfig → Multiset Upstream
  | .ipAddress upstream =>
      {upstream}
  | .domain .. =>
      0

/-- What an entry adds to the upstreams of its service that are looked up. -/
def dnsPart (resolver : Resolver) : UpstreamConfig → Multiset Upstream
  | .ipAddress _ =>
      0
  | .domain hostname tls port =>
      (resolver.addresses hostname).val.map fun ip => {
        socketAddress := ⟨ip, port⟩
        hostname := hostname
        tls := tls
      }

end UpstreamConfig

section Hosts

/-- An address is used with the port of the host. -/
theorem socketAddress_eq (host : UpstreamHost) (ip : IpAddr) :
    host.socketAddress ip = ⟨Resolver.usedAddress ip, host.port⟩ := by
  rw [UpstreamHost.socketAddress, Resolver.usedAddress]
  split <;> rfl

/-- The upstreams of a domain are one for each distinct address. -/
theorem coe_upstreams
    (resolver : Resolver)
    (hostname : String)
    (tls : Bool)
    (port : UInt16) :
    (UpstreamHost.upstreams ⟨hostname, tls, port⟩
        (answeredIps (resolver hostname)) : Multiset Upstream) =
      (UpstreamConfig.domain hostname tls port).dnsPart resolver := by
  have injective :
      Function.Injective fun ip : IpAddr => SocketAddr.mk ip port :=
    fun ip other same => congrArg SocketAddr.ip same
  have sameAddresses :
      ((answeredIps (resolver hostname)).map
          (UpstreamHost.socketAddress ⟨hostname, tls, port⟩)).dedup =
        ((answeredIps (resolver hostname)).map
          Resolver.usedAddress).dedup.map fun ip => SocketAddr.mk ip port := by
    rw [← List.dedup_map_of_injective injective, List.map_map]
    congr 2
    funext ip
    exact socketAddress_eq _ ip
  rw [UpstreamHost.upstreams, sameAddresses, UpstreamConfig.dnsPart,
    Resolver.val_addresses, List.map_map, Multiset.map_coe]
  rfl

/-- The static upstreams of some entries. -/
theorem coe_ipUpstreams (upstreams : List UpstreamConfig) :
    (ipUpstreams upstreams : Multiset Upstream) =
      (upstreams.map UpstreamConfig.staticPart).sum := by
  induction upstreams with
  | nil =>
      rfl
  | cons entry rest inductionHypothesis =>
      rw [List.map_cons, List.sum_cons, ← inductionHypothesis]
      cases entry with
      | ipAddress upstream =>
          rfl
      | domain hostname tls port =>
          exact (zero_add _).symm

/-- What is looked up for some entries. -/
theorem coe_upstreams_domainHosts
    (resolver : Resolver)
    (upstreams : List UpstreamConfig) :
    (resolver.upstreams (domainHosts upstreams) : Multiset Upstream) =
      (upstreams.map (UpstreamConfig.dnsPart resolver)).sum := by
  induction upstreams with
  | nil =>
      rfl
  | cons entry rest inductionHypothesis =>
      rw [List.map_cons, List.sum_cons, ← inductionHypothesis]
      cases entry with
      | ipAddress upstream =>
          exact (zero_add _).symm
      | domain hostname tls port =>
          rw [← coe_upstreams, Multiset.coe_add]
          rfl

end Hosts

section Lookups

variable {servicesConfig : List ServiceConfig}

/-- Of pairs with distinct names each is found under its name. -/
private theorem lookup_foldl_insert
    {α : Type}
    {pairs : List (String × α)}
    (distinct : (pairs.map Prod.fst).Nodup)
    {name : String}
    {value : α}
    (member : (name, value) ∈ pairs)
    (map : AList fun _ : String => α) :
    (pairs.foldl (fun map pair => map.insert pair.1 pair.2) map).lookup name =
      some value := by
  have isLocal :
      Local (fun (map : AList fun _ : String => α) key => map.lookup key)
        (fun map (pair : String × α) => map.insert pair.1 pair.2) Prod.fst
        (fun pair _ => some pair.2) := by
    intro map pair query
    split
    · next same =>
        rw [same]
        exact AList.lookup_insert map
    · next different =>
        exact AList.lookup_insert_ne different
  exact view_foldl_of_mem isLocal distinct map member

/-- Pairs under the names of the services have distinct names as they do. -/
private theorem nodup_names
    {α : Type}
    {pair : ServiceConfig → String × α}
    (underName : ∀ service, (pair service).1 = service.name)
    (distinct : (servicesConfig.map ServiceConfig.name).Nodup) :
    ((servicesConfig.map pair).map Prod.fst).Nodup := by
  have sameNames : Prod.fst ∘ pair = ServiceConfig.name :=
    funext underName
  rw [List.map_map, sameNames]
  exact distinct

/-- The static upstreams of a service are its entries with an address. -/
theorem lookup_getStaticUpstreams
    (distinct : (servicesConfig.map ServiceConfig.name).Nodup)
    {service : ServiceConfig}
    (member : service ∈ servicesConfig) :
    (getStaticUpstreams servicesConfig).lookup service.name =
      some (ipUpstreams service.upstreams) := by
  refine lookup_foldl_insert (nodup_names ?_ distinct)
    (List.mem_map.mpr ⟨service, member, ?_⟩) ∅
  · intro other
    split <;> rfl
  · simp only [ServiceConfig.upstreams]
    split <;> simp_all [ipUpstreams]

/-- The hosts of a service are its entries with a domain. -/
theorem lookup_getUpstreamHosts
    (distinct : (servicesConfig.map ServiceConfig.name).Nodup)
    {service : ServiceConfig}
    (member : service ∈ servicesConfig) :
    (getUpstreamHosts servicesConfig).lookup service.name =
      some (domainHosts service.upstreams) := by
  refine lookup_foldl_insert (nodup_names ?_ distinct)
    (List.mem_map.mpr ⟨service, member, ?_⟩) ∅
  · intro other
    split <;> rfl
  · simp only [ServiceConfig.upstreams]
    split <;> simp_all [domainHosts]

end Lookups

section Run

variable (resolver : Resolver)

/-- The hosts of a service are looked up one after the other. -/
theorem run_discoverHosts
    (log : List DnsQuery)
    (hosts : List UpstreamHost) :
    (Program.run resolver.oracle log (discoverHosts hosts)).1 =
      resolver.upstreams hosts := by
  induction hosts generalizing log with
  | nil =>
      rfl
  | cons host rest inductionHypothesis =>
      rw [discoverHosts, lookupIp, Program.run_request_bind, Program.run_bind,
        inductionHypothesis]
      rfl

/-- The hosts of all services are looked up, whatever is looked up before. -/
theorem run_discoverServices
    (log : List DnsQuery)
    (ret : UpstreamMap)
    (services : List (String × List UpstreamHost)) :
    (Program.run resolver.oracle log (discoverServices ret services)).1 =
      (services.map fun entry => (entry.1, resolver.upstreams entry.2)).foldl
        (fun map pair => map.insert pair.1 pair.2) ret := by
  induction services generalizing log ret with
  | nil =>
      rfl
  | cons entry rest inductionHypothesis =>
      obtain ⟨service, hosts⟩ := entry
      rw [discoverServices, Program.run_bind, inductionHypothesis,
        run_discoverHosts]
      rfl

/-- What is discovered for a service is what its hosts are looked up to. -/
theorem exists_discover
    (hosts : AList fun _ : String => List UpstreamHost) :
    ∃ map,
      (Program.run resolver.oracle []
          (DnsServiceDiscoverer.discover hosts)).1 = .ok map ∧
      ∀ {name serviceHosts},
        hosts.lookup name = some serviceHosts →
        map.lookup name = some (resolver.upstreams serviceHosts) := by
  refine ⟨(Program.run resolver.oracle []
    (discoverServices ∅ (hosts.entries.map fun entry =>
      (entry.1, entry.2)))).1, ?_, ?_⟩
  · rw [DnsServiceDiscoverer.discover, Program.run_bind]
    rfl
  · intro name serviceHosts found
    have distinct := hosts.nodupKeys
    rw [run_discoverServices, List.map_map]
    have isEntry : Sigma.mk name serviceHosts ∈ hosts.entries :=
      AList.mem_lookup_iff.mp found
    have isPair :
        (name, resolver.upstreams serviceHosts) ∈
          hosts.entries.map
            ((fun entry => (entry.1, resolver.upstreams entry.2)) ∘
              fun entry => (entry.1, entry.2)) :=
      List.mem_map.mpr ⟨_, isEntry, rfl⟩
    refine lookup_foldl_insert ?_ isPair ∅
    rw [List.map_map]
    exact distinct

end Run

/--
Every entry of a service is served by one path: one with an address is among
the static upstreams, one with a domain among those that are looked up, once for
each distinct address that the domain resolves to.
-/
theorem discover_servesEntriesOnce
    (servicesConfig : List ServiceConfig)
    (distinct : (servicesConfig.map ServiceConfig.name).Nodup)
    (resolver : Resolver)
    {hosts : AList fun _ : String => List UpstreamHost}
    (sameHosts : hosts.entries.Perm (getUpstreamHosts servicesConfig).entries) :
    ∃ map,
      (Program.run resolver.oracle []
          (DnsServiceDiscoverer.discover hosts)).1 = .ok map ∧
      ∀ service ∈ servicesConfig,
        ∃ static dns,
          (getStaticUpstreams servicesConfig).lookup service.name =
            some static ∧
          map.lookup service.name = some dns ∧
          (static : Multiset Upstream) =
            (service.upstreams.map UpstreamConfig.staticPart).sum ∧
          (dns : Multiset Upstream) =
            (service.upstreams.map (UpstreamConfig.dnsPart resolver)).sum ∧
          ((static ++ dns : List Upstream) : Multiset Upstream) =
            (service.upstreams.map fun entry =>
              entry.staticPart + entry.dnsPart resolver).sum := by
  obtain ⟨map, isMap, lookups⟩ := exists_discover resolver hosts
  refine ⟨map, isMap, fun service member => ?_⟩
  have isHosts :
      hosts.lookup service.name = some (domainHosts service.upstreams) := by
    rw [AList.perm_lookup sameHosts]
    exact lookup_getUpstreamHosts distinct member
  have isStatic := coe_ipUpstreams service.upstreams
  have isDns := coe_upstreams_domainHosts resolver service.upstreams
  refine ⟨ipUpstreams service.upstreams,
    resolver.upstreams (domainHosts service.upstreams),
    lookup_getStaticUpstreams distinct member, lookups isHosts, isStatic, isDns,
    ?_⟩
  rw [← Multiset.coe_add, isStatic, isDns, List.sum_map_add]

/-- A service with an address and a domain, and one with another domain. -/
def sampleServices : List ServiceConfig := [
  {
    name := "web"
    httpProxy := some [
      .ipAddress ⟨⟨.v4 (.new 10 0 0 7), 80⟩, "10.0.0.7", false⟩,
      .domain "localhost" false 8080]
    static := none
    tcpProxy := none
  }, {
    name := "mail"
    httpProxy := none
    static := none
    tcpProxy := some [.domain "mail.invalid" false 25]
  }]

/-- A resolver that knows the two addresses of the local host. -/
def loopbackResolver : Resolver := fun hostname =>
  if hostname = "localhost" then
    .ok [.localhost, .v6 (.ofFn fun group => if group = 7 then 1 else 0)]
  else
    .error ()

theorem discover_servesEntriesOnce_sample :
    ∃ map dns,
      (Program.run loopbackResolver.oracle []
          (DnsServiceDiscoverer.discover
            (getUpstreamHosts sampleServices))).1 = .ok map ∧
      map.lookup "web" = some dns ∧
      (dns : Multiset Upstream) =
        {⟨⟨.localhost, 8080⟩, "localhost", false⟩} := by
  obtain ⟨map, isMap, served⟩ :=
    discover_servesEntriesOnce sampleServices (by decide) loopbackResolver
      (.refl (getUpstreamHosts sampleServices).entries)
  obtain ⟨static, dns, _, isDns, _, upstreams, _⟩ :=
    served _ List.mem_cons_self
  refine ⟨map, dns, isMap, isDns, upstreams.trans ?_⟩
  decide

end Pingoo
