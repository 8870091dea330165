import Pingoo.Config
import Pingoo.Library.KeyedFold

namespace Pingoo

open KeyedFold

/-!
# Service registry

The registry keeps, for every service, the upstreams that requests may be
forwarded to.  A discovery round asks the DNS and the Docker discoverer, merges
their answers with the static upstreams and applies the result to the shared map
as two sets of changes: first the services to update, then the services to
delete.

The two discoverers are represented by their answers.
-/

/-- A map from service names to upstreams, in some iteration order. -/
abbrev UpstreamMap := AList fun _ : String => List Upstream

namespace UpstreamMap

/-- Collecting pairs into a map; a later pair replaces an earlier one. -/
def fromPairs (pairs : List (String × List Upstream)) : UpstreamMap :=
  pairs.foldl (fun map pair => map.insert pair.1 pair.2) ∅

/-- `map.entry(name).or_insert(Vec::new()).extend(upstreams)`. -/
def extendEntry
    (map : UpstreamMap)
    (serviceName : String)
    (upstreams : List Upstream) : UpstreamMap :=
  map.insert serviceName ((map.lookup serviceName).getD [] ++ upstreams)

/-- Only the upstreams of that service are extended. -/
theorem lookup_extendEntry
    (map : UpstreamMap)
    (name : String)
    (upstreams : List Upstream)
    (query : String) :
    (map.extendEntry name upstreams).lookup query =
      if query = name then
        some ((map.lookup query).getD [] ++ upstreams)
      else
        map.lookup query := by
  by_cases same : query = name
  · subst query
    simp [extendEntry]
  · simp [extendEntry, same]

end UpstreamMap

/-- What a discoverer answers. -/
abbrev DiscovererAnswer := Except Error UpstreamMap

/-- The answers of one discovery round, in the order they are merged. -/
structure Round where
  dns : DiscovererAnswer
  docker : DiscovererAnswer

/-- The services that a round changes. -/
structure UpstreamDiff where
  /-- services that have upstreams that have been added or updated -/
  updated : KeySet String
  /-- services that no longer have upstreams -/
  deleted : KeySet String

/-- The registry: the shared map and the upstreams written in the config. -/
structure ServiceRegistry where
  upstreams : UpstreamMap
  staticUpstreams : UpstreamMap

/-- The IP address upstreams of one list of upstreams. -/
def ipUpstreams (upstreams : List UpstreamConfig) : List Upstream :=
  upstreams.filterMap fun
    | .ipAddress upstream => some upstream
    | .domain .. => none

/-- The upstreams that were written as IP addresses, for every service. -/
def getStaticUpstreams (servicesConfig : List ServiceConfig) : UpstreamMap :=
  UpstreamMap.fromPairs <| servicesConfig.map fun serviceConfig =>
    match serviceConfig.httpProxy, serviceConfig.tcpProxy with
    | some upstreams, _ =>
        (serviceConfig.name, ipUpstreams upstreams)
    | none, some upstreams =>
        (serviceConfig.name, ipUpstreams upstreams)
    | none, none =>
        (serviceConfig.name, [])

/-- Compare the old and the new upstreams of one service of the new map. -/
def diffService
    (oldUpstreams : UpstreamMap)
    (ret : UpstreamDiff)
    (serviceName : String)
    (newUpstreamsForService : List Upstream) : UpstreamDiff :=
  match oldUpstreams.lookup serviceName with
  | some oldUpstreamsForService => {
      -- upstreams that are not in the new upstreams (upstreams deleted)
      deleted :=
        ret.deleted.insertForEach
          (fun oldUpstream => !newUpstreamsForService.contains oldUpstream)
          serviceName oldUpstreamsForService
      -- upstreams that are not in the old upstreams (upstreams added)
      updated :=
        ret.updated.insertForEach
          (fun newUpstream => !oldUpstreamsForService.contains newUpstream)
          serviceName newUpstreamsForService
    }
  | none =>
      { ret with updated := ret.updated.insert serviceName }

/-- A service of the old map that the new map does not have is deleted. -/
def diffRemovedService
    (newUpstreams : UpstreamMap)
    (ret : UpstreamDiff)
    (serviceName : String) : UpstreamDiff :=
  if serviceName ∈ newUpstreams then
    ret
  else
    { ret with deleted := ret.deleted.insert serviceName }

/-- The services that have upstreams that have been updated or removed. -/
def diffUpstreams (oldUpstreams newUpstreams : UpstreamMap) : UpstreamDiff :=
  let ret :=
    newUpstreams.foldl (diffService oldUpstreams)
      ⟨KeySet.empty, KeySet.empty⟩
  oldUpstreams.foldl
    (fun current serviceName _ =>
      diffRemovedService newUpstreams current serviceName)
    ret

namespace ServiceRegistry

/-- A registry starts with the static upstreams of the configuration. -/
def new (servicesConfig : List ServiceConfig) : ServiceRegistry where
  upstreams :=
    getStaticUpstreams servicesConfig
  staticUpstreams :=
    getStaticUpstreams servicesConfig

/-- The upstreams of a service; a service that is not in the map has none. -/
def getUpstreams (registry : ServiceRegistry) (service : String) :
    List Upstream :=
  (registry.upstreams.lookup service).getD []

/-- Merge one answer; a discoverer that failed is skipped. -/
def mergeAnswer (newUpstreams : UpstreamMap) (answer : DiscovererAnswer) :
    UpstreamMap :=
  match answer with
  | .ok upstreams =>
      upstreams.foldl UpstreamMap.extendEntry newUpstreams
  | .error _ =>
      newUpstreams

/-- The static upstreams merged with the answers of a round. -/
def mergeRound (registry : ServiceRegistry) (round : Round) : UpstreamMap :=
  [round.dns, round.docker].foldl mergeAnswer registry.staticUpstreams

/-- Move the new upstreams of one updated service into the shared map. -/
def applyUpdated
    (maps : UpstreamMap × UpstreamMap)
    (serviceName : String) : UpstreamMap × UpstreamMap :=
  match maps.2.lookup serviceName with
  | some newUpstreamsForService =>
      (maps.1.insert serviceName newUpstreamsForService,
        maps.2.erase serviceName)
  | none =>
      maps

/-- Apply the two sets of a diff to the shared map, one after the other. -/
def applyDiff
    (upstreams newUpstreams : UpstreamMap)
    (diff : UpstreamDiff) : UpstreamMap :=
  let (updated, _) :=
    diff.updated.keys.foldl applyUpdated (upstreams, newUpstreams)
  diff.deleted.keys.foldl (fun map serviceName => map.erase serviceName)
    updated

/-- One discovery round.  It never fails. -/
def discover (registry : ServiceRegistry) (round : Round) :
    Except Error Unit × ServiceRegistry :=
  let newUpstreams := registry.mergeRound round
  let diff := diffUpstreams registry.upstreams newUpstreams
  (.ok (), {
    registry with
    upstreams := applyDiff registry.upstreams newUpstreams diff
  })

end ServiceRegistry

end Pingoo
