import Pingoo.Docker.Client
import Pingoo.Library.Interaction
import Pingoo.NetParse
import Pingoo.ServiceRegistry

namespace Pingoo.Docker

/-!
# Docker discovery

The containers that the daemon lists with the label `pingoo.service` are
upstreams of the service that the label names.  A container that cannot be one
is warned about, once; which containers were warned about is kept in a cache
that may lose its entries at any time, so what it answers is up to the
environment.
-/

open Interaction

/-- The text that an error is displayed as. -/
def Error.toStr : Error → String
  | .connecting err =>
      s!"connecting to docker socket: {err}"
  | .unspecified message =>
      message

/-- `std::num::ParseIntError`. -/
inductive ParseIntError where
  | empty
  | invalidDigit
  | posOverflow
  deriving Repr, DecidableEq

/-- The text that an error is displayed as. -/
def ParseIntError.toStr : ParseIntError → String
  | .empty =>
      "cannot parse integer from empty string"
  | .invalidDigit =>
      "invalid digit found in string"
  | .posOverflow =>
      "number too large to fit in target type"

/-- The value of some digits that follow others, below 2^16. -/
def parseDigits (value : Nat) : Str → Except ParseIntError UInt16
  | [] =>
      .ok value.toUInt16
  | character :: rest =>
      match IpAddr.toDigit 10 character with
      | none => .error .invalidDigit
      | some digit =>
          if 10 * value + digit < UInt16.size then
            parseDigits (10 * value + digit) rest
          else
            .error .posOverflow

/-- `str::parse::<u16>`: digits, perhaps after a plus sign. -/
def parseU16 : Str → Except ParseIntError UInt16
  | [] =>
      .error .empty
  | ['+'] =>
      .error .invalidDigit
  | '+' :: digits =>
      parseDigits 0 digits
  | digits =>
      parseDigits 0 digits

/-- `ListContainersOptions`. -/
structure ListContainersOptions where
  all : Bool := false
  limit : Option Int := none
  size : Bool := false
  filters : List (String × List String)
  deriving DecidableEq

/-- `Port`. -/
structure Port where
  privatePort : UInt16
  deriving Repr, DecidableEq

/-- `EndpointSettings`. -/
structure EndpointSettings where
  ipAddress : Option String
  deriving Repr, DecidableEq

/-- `ContainerSummaryNetworkSettings`. -/
structure ContainerSummaryNetworkSettings where
  networks : Option (AList fun _ : String => EndpointSettings)

/-- `ContainerSummary`. -/
structure ContainerSummary where
  id : Option String
  ports : Option (List Port)
  labels : Option (AList fun _ : String => String)
  networkSettings : Option ContainerSummaryNetworkSettings

/-- What the discovery asks the daemon, the cache and the log. -/
inductive DiscoveryQuery where
  | listContainers (options : ListContainersOptions)
  | containsKey (containerId : String)
  | insert (containerId : String)
  | remove (containerId : String)
  | warn (message : String)
  deriving DecidableEq

/-- What a query is answered with. -/
@[reducible] def DiscoveryQuery.Answer : DiscoveryQuery → Type
  | .listContainers _ =>
      Except Error (List ContainerSummary)
  | .containsKey _ =>
      Bool
  | .insert _ =>
      Unit
  | .remove _ =>
      Unit
  | .warn _ =>
      Unit

abbrev DiscoveryProgram := Program DiscoveryQuery DiscoveryQuery.Answer

/-- Warn about a container, unless that was done. -/
def warnOnce (containerId message : String) : DiscoveryProgram Unit := do
  let isWarned ←
    (Program.request (DiscoveryQuery.containsKey containerId) :
      DiscoveryProgram Bool)
  if !isWarned then
    (Program.request (DiscoveryQuery.warn message) : DiscoveryProgram Unit)
    (Program.request (DiscoveryQuery.insert containerId) :
      DiscoveryProgram Unit)
  else
    pure ()

/-- A container that is valid is not among those that were warned about. -/
def forgetWarning (containerId : String) : DiscoveryProgram Unit := do
  let isWarned ←
    (Program.request (DiscoveryQuery.containsKey containerId) :
      DiscoveryProgram Bool)
  if isWarned then
    (Program.request (DiscoveryQuery.remove containerId) :
      DiscoveryProgram Unit)
  else
    pure ()

/-- The port of a container, or what is warned about. -/
def containerPort
    (pingooServiceName containerId : String)
    (labels : AList fun _ : String => String)
    (ports : Option (List Port)) : Except String UInt16 :=
  match labels.lookup "pingoo.port" with
  | some portStr =>
      (parseU16 portStr.toList).mapError fun err =>
        s!"pingoo.port={portStr} is not valid for service " ++
          s!"{pingooServiceName} (container: {containerId}): {err.toStr}"
  | none =>
      match ports with
      | some (port :: _) => .ok port.privatePort
      | _ =>
          .error (s!"no port found for service {pingooServiceName} " ++
            s!"(container: {containerId})")

/-- The address of a container in the bridge network, as it is written. -/
def containerIpStr
    (networkSettings : Option ContainerSummaryNetworkSettings) :
    Option String :=
  let networks :=
    (networkSettings.map fun networkSettings =>
      networkSettings.networks.getD ∅).getD ∅
  (networks.lookup "bridge").map fun endpointSettings =>
    endpointSettings.ipAddress.getD ""

/-- The address of a container, or what is warned about. -/
def containerIp
    (pingooServiceName containerId : String)
    (networkSettings : Option ContainerSummaryNetworkSettings) :
    Except String IpAddr :=
  match containerIpStr networkSettings with
  | none =>
      .error (s!"container {containerId} (service: {pingooServiceName}) " ++
        "has no ip address for the bridge network")
  | some ipStr =>
      match IpAddr.parse ipStr.toList with
      | some ip => .ok ip
      | none =>
          .error (s!"container {containerId} (service: {pingooServiceName}) " ++
            s!"has not a valid IP address ({ipStr}): " ++
            "invalid IP address syntax")

/-- One container of the loop. -/
def discoverContainer
    (newUpstreams : UpstreamMap)
    (container : ContainerSummary) : DiscoveryProgram UpstreamMap := do
  let containerId := container.id.getD ""
  let labels := container.labels.getD ∅
  match labels.lookup "pingoo.service" with
  | none => pure newUpstreams
  | some pingooServiceName =>
      match containerPort pingooServiceName containerId labels
          container.ports with
      | .error warning => do
          warnOnce containerId warning
          pure newUpstreams
      | .ok port =>
          match containerIp pingooServiceName containerId
              container.networkSettings with
          | .error warning => do
              warnOnce containerId warning
              pure newUpstreams
          | .ok ip => do
              forgetWarning containerId
              pure (newUpstreams.extendEntry pingooServiceName
                [⟨⟨ip, port⟩, containerId, false⟩])

/-- The loop over the containers. -/
def discoverContainers
    (newUpstreams : UpstreamMap) :
    List ContainerSummary → DiscoveryProgram UpstreamMap
  | [] =>
      pure newUpstreams
  | container :: rest => do
      let extended ← discoverContainer newUpstreams container
      discoverContainers extended rest

/-- `DockerServiceDiscoverer`, whose client is there if the socket is. -/
structure DockerServiceDiscoverer where
  hasDockerClient : Bool

/-- The containers that are asked for. -/
def serviceContainers : ListContainersOptions where
  filters :=
    [("label", ["pingoo.service"])]

/-- `DockerServiceDiscoverer::discover`. -/
def DockerServiceDiscoverer.discover
    (discoverer : DockerServiceDiscoverer) :
    DiscoveryProgram DiscovererAnswer :=
  if !discoverer.hasDockerClient then
    pure (.ok ∅)
  else do
    let answer ←
      (Program.request (DiscoveryQuery.listContainers serviceContainers) :
        DiscoveryProgram (Except Error (List ContainerSummary)))
    match answer with
    | .error err =>
        pure (.error
          (.unspecified s!"discovering Docker services: {err.toStr}"))
    | .ok containers => do
        let newUpstreams ← discoverContainers ∅ containers
        pure (.ok newUpstreams)

/-! ## What a container contributes -/

/-- A label of a container. -/
def ContainerSummary.label
    (container : ContainerSummary)
    (name : String) : Option String :=
  container.labels.bind fun labels => labels.lookup name

/-- A container is an upstream of a service. -/
structure Contributes
    (container : ContainerSummary)
    (serviceName : String)
    (upstream : Upstream) : Prop where
  service : container.label "pingoo.service" = some serviceName
  port :
    (∃ portStr,
      container.label "pingoo.port" = some portStr ∧
      parseU16 portStr.toList = .ok upstream.socketAddress.port) ∨
    (container.label "pingoo.port" = none ∧
      ∃ port others,
        container.ports = some (port :: others) ∧
        port.privatePort = upstream.socketAddress.port)
  ip :
    ∃ settings networks endpoint ipStr,
      container.networkSettings = some settings ∧
      settings.networks = some networks ∧
      networks.lookup "bridge" = some endpoint ∧
      endpoint.ipAddress = some ipStr ∧
      IpAddr.parse ipStr.toList = some upstream.socketAddress.ip
  hostname : upstream.hostname = container.id.getD ""
  tls : upstream.tls = false

/-- The service of a container with the upstream that it is. -/
def containerUpstream
    (container : ContainerSummary) : Option (String × Upstream) :=
  let containerId := container.id.getD ""
  let labels := container.labels.getD ∅
  (labels.lookup "pingoo.service").bind fun serviceName =>
    (containerPort serviceName containerId labels
        container.ports).toOption.bind fun port =>
      (containerIp serviceName containerId
          container.networkSettings).toOption.map fun ip =>
        (serviceName, ⟨⟨ip, port⟩, containerId, false⟩)

/-- The upstreams of a service that a container contributes. -/
def contributed
    (serviceName : String)
    (container : ContainerSummary) : List Upstream :=
  match containerUpstream container with
  | none => []
  | some (name, upstream) => if name = serviceName then [upstream] else []

/-- The map with what a container contributes. -/
def addContainer
    (newUpstreams : UpstreamMap)
    (container : ContainerSummary) : UpstreamMap :=
  match containerUpstream container with
  | none => newUpstreams
  | some (name, upstream) => newUpstreams.extendEntry name [upstream]

section Containers

variable {container : ContainerSummary}

theorem lookup_labels (name : String) :
    (container.labels.getD ∅).lookup name = container.label name := by
  rw [ContainerSummary.label]
  cases container.labels with
  | none =>
      exact AList.lookup_empty name
  | some labels =>
      rfl

/-- When a container has a port. -/
theorem containerPort_eq_ok_iff
    {serviceName containerId : String}
    {port : UInt16} :
    containerPort serviceName containerId (container.labels.getD ∅)
        container.ports = .ok port ↔
      (∃ portStr,
        container.label "pingoo.port" = some portStr ∧
        parseU16 portStr.toList = .ok port) ∨
      (container.label "pingoo.port" = none ∧
        ∃ first others,
          container.ports = some (first :: others) ∧
          first.privatePort = port) := by
  unfold containerPort
  rw [lookup_labels]
  cases container.label "pingoo.port" with
  | some portStr =>
      simp [Fallible.mapError_eq_ok_iff]
  | none =>
      cases container.ports with
      | none =>
          simp
      | some ports =>
          cases ports with
          | nil =>
              simp
          | cons first others =>
              simp

/-- When there is an address to be parsed. -/
theorem containerIpStr_eq_some_iff
    {networkSettings : Option ContainerSummaryNetworkSettings}
    {ipStr : String} :
    containerIpStr networkSettings = some ipStr ↔
      ∃ settings networks endpoint,
        networkSettings = some settings ∧
        settings.networks = some networks ∧
        networks.lookup "bridge" = some endpoint ∧
        endpoint.ipAddress.getD "" = ipStr := by
  rw [containerIpStr]
  cases networkSettings with
  | none =>
      simp
  | some settings =>
      cases isNetworks : settings.networks with
      | none =>
          simp [isNetworks]
      | some networks =>
          simp [isNetworks]

/-- When a container has an address. -/
theorem containerIp_eq_ok_iff
    {serviceName containerId : String}
    {ip : IpAddr} :
    containerIp serviceName containerId container.networkSettings = .ok ip ↔
      ∃ settings networks endpoint ipStr,
        container.networkSettings = some settings ∧
        settings.networks = some networks ∧
        networks.lookup "bridge" = some endpoint ∧
        endpoint.ipAddress = some ipStr ∧
        IpAddr.parse ipStr.toList = some ip := by
  have isParsed :
      containerIp serviceName containerId container.networkSettings = .ok ip ↔
        ∃ ipStr,
          containerIpStr container.networkSettings = some ipStr ∧
          IpAddr.parse ipStr.toList = some ip := by
    unfold containerIp
    cases containerIpStr container.networkSettings with
    | none =>
        simp
    | some ipStr =>
        cases parsed : IpAddr.parse ipStr.toList <;> simp [parsed]
  rw [isParsed]
  constructor
  · rintro ⟨ipStr, isStr, parsed⟩
    obtain ⟨settings, networks, endpoint, isSettings, isNetworks, isBridge,
      rfl⟩ := containerIpStr_eq_some_iff.mp isStr
    cases isAddress : endpoint.ipAddress with
    | none =>
        rw [isAddress] at parsed
        cases parsed
    | some ipStr =>
        rw [isAddress] at parsed
        exact ⟨settings, networks, endpoint, ipStr, isSettings, isNetworks,
          isBridge, isAddress, parsed⟩
  · rintro ⟨settings, networks, endpoint, ipStr, isSettings, isNetworks,
      isBridge, isAddress, parsed⟩
    refine ⟨ipStr, containerIpStr_eq_some_iff.mpr ?_, parsed⟩
    exact ⟨settings, networks, endpoint, isSettings, isNetworks, isBridge, by
      rw [isAddress, Option.getD_some]⟩

/-- A container is found with what it contributes. -/
theorem containerUpstream_eq_some_iff
    {serviceName : String}
    {upstream : Upstream} :
    containerUpstream container = some (serviceName, upstream) ↔
      Contributes container serviceName upstream := by
  have toOption_eq_some :
      ∀ {α : Type} {call : Except String α} {value : α},
        call.toOption = some value ↔ call = .ok value := by
    intro α call value
    cases call <;> simp [Except.toOption]
  simp only [containerUpstream, lookup_labels, Option.bind_eq_some_iff,
    Option.map_eq_some_iff, toOption_eq_some, containerPort_eq_ok_iff,
    containerIp_eq_ok_iff, Prod.mk.injEq]
  constructor
  · rintro ⟨name, isService, port, isPort, ip, isIp, rfl, rfl⟩
    exact ⟨isService, isPort, isIp, rfl, rfl⟩
  · intro contributes
    obtain ⟨⟨ip, port⟩, hostname, tls⟩ := upstream
    obtain ⟨isService, isPort, isIp, rfl, rfl⟩ := contributes
    exact ⟨serviceName, isService, port, isPort, ip, isIp, rfl, rfl⟩

/-- A service has what a container contributes after what it had. -/
theorem lookup_addContainer
    (newUpstreams : UpstreamMap)
    (container : ContainerSummary)
    (name : String) :
    (addContainer newUpstreams container).lookup name =
      if contributed name container = [] then
        newUpstreams.lookup name
      else
        some ((newUpstreams.lookup name).getD [] ++
          contributed name container) := by
  unfold addContainer contributed
  cases containerUpstream container with
  | none =>
      rfl
  | some found =>
      obtain ⟨serviceName, upstream⟩ := found
      simp only [UpstreamMap.lookup_extendEntry]
      by_cases same : name = serviceName
      · simp [same]
      · simp [same, Ne.symm same]

/-- A service has what the containers contribute, in their order. -/
theorem lookup_foldl_addContainer
    (containers : List ContainerSummary)
    (newUpstreams : UpstreamMap)
    (name : String) :
    (containers.foldl addContainer newUpstreams).lookup name =
      if containers.flatMap (contributed name) = [] then
        newUpstreams.lookup name
      else
        some ((newUpstreams.lookup name).getD [] ++
          containers.flatMap (contributed name)) := by
  induction containers generalizing newUpstreams with
  | nil =>
      rfl
  | cons container rest inductionHypothesis =>
      rw [List.foldl_cons, inductionHypothesis, lookup_addContainer,
        List.flatMap_cons]
      by_cases isFirst : contributed name container = []
      · simp [isFirst]
      · by_cases isRest : rest.flatMap (contributed name) = []
        · simp [isFirst, isRest]
        · simp [isFirst, isRest]

/-- All upstreams that are found for a service. -/
theorem getD_lookup_discovered
    (containers : List ContainerSummary)
    (name : String) :
    ((containers.foldl addContainer ∅).lookup name).getD [] =
      containers.flatMap (contributed name) := by
  rw [lookup_foldl_addContainer, AList.lookup_empty]
  split
  · next isEmpty =>
      exact isEmpty.symm
  · rfl

/-- A service is found when a container contributes to it. -/
theorem mem_discovered
    (containers : List ContainerSummary)
    (name : String) :
    name ∈ containers.foldl addContainer ∅ ↔
      ∃ container ∈ containers, contributed name container ≠ [] := by
  rw [← AList.lookup_isSome, lookup_foldl_addContainer, AList.lookup_empty]
  split
  · next isEmpty =>
      simpa using isEmpty
  · next present =>
      simpa using present

/-- The upstreams that one container contributes to a service. -/
theorem contributed_eq_iff
    {name : String}
    {upstreams : List Upstream} :
    (contributed name container ≠ [] ∧
        contributed name container = upstreams) ↔
      ∃ upstream,
        upstreams = [upstream] ∧ Contributes container name upstream := by
  simp only [← containerUpstream_eq_some_iff, contributed]
  cases containerUpstream container with
  | none =>
      simp
  | some found =>
      obtain ⟨serviceName, upstream⟩ := found
      by_cases same : serviceName = name
      · simp [same, eq_comm]
      · simp [same]

end Containers

section Run

theorem returns_warnOnce (containerId message : String) :
    (warnOnce containerId message).Returns fun _ => True := by
  refine Program.Returns.request_bind fun isWarned => ?_
  cases isWarned with
  | false =>
      exact fun _ _ => trivial
  | true =>
      exact trivial

theorem returns_forgetWarning (containerId : String) :
    (forgetWarning containerId).Returns fun _ => True := by
  refine Program.Returns.request_bind fun isWarned => ?_
  cases isWarned with
  | false =>
      exact trivial
  | true =>
      exact fun _ => trivial

/-- Whatever the cache answers, a container adds what it contributes. -/
theorem returns_discoverContainer
    (newUpstreams : UpstreamMap)
    (container : ContainerSummary) :
    (discoverContainer newUpstreams container).Returns
      fun extended => extended = addContainer newUpstreams container := by
  simp only [discoverContainer, addContainer, containerUpstream]
  cases (container.labels.getD ∅).lookup "pingoo.service" with
  | none =>
      exact rfl
  | some serviceName =>
      simp only [Option.bind_some]
      cases containerPort serviceName (container.id.getD "")
          (container.labels.getD ∅) container.ports with
      | error warning =>
          exact (returns_warnOnce _ _).bind fun _ _ => rfl
      | ok port =>
          cases containerIp serviceName (container.id.getD "")
              container.networkSettings with
          | error warning =>
              exact (returns_warnOnce _ _).bind fun _ _ => rfl
          | ok ip =>
              exact (returns_forgetWarning _).bind fun _ _ => rfl

/-- Whatever the cache answers, the loop adds what each one contributes. -/
theorem returns_discoverContainers
    (newUpstreams : UpstreamMap)
    (containers : List ContainerSummary) :
    (discoverContainers newUpstreams containers).Returns
      fun extended =>
        extended = containers.foldl addContainer newUpstreams := by
  induction containers generalizing newUpstreams with
  | nil =>
      exact rfl
  | cons container rest inductionHypothesis =>
      refine (returns_discoverContainer newUpstreams container).bind ?_
      rintro _ rfl
      exact inductionHypothesis _

/-- What is discovered depends on the containers that are listed only. -/
theorem run_discover
    {discoverer : DockerServiceDiscoverer}
    (enabled : discoverer.hasDockerClient = true)
    {containers : List ContainerSummary}
    {oracle : List DiscoveryQuery → (asked : DiscoveryQuery) → asked.Answer}
    (listed :
      oracle [] (.listContainers serviceContainers) = .ok containers) :
    (Program.run oracle [] discoverer.discover).1 =
      .ok (containers.foldl addContainer ∅) := by
  have isLoop :=
    (returns_discoverContainers ∅ containers).run oracle
      [.listContainers serviceContainers]
  rw [DockerServiceDiscoverer.discover, enabled]
  simp only [Bool.not_true, Bool.false_eq_true, if_false]
  rw [Program.run_request_bind, listed]
  simp only [List.nil_append, Program.run_bind, isLoop]
  rfl

end Run

/--
Whatever the cache of the warned containers answers, what is discovered for each
service is what its containers are, one after the other: an upstream for each
one that has a port and an address, and nothing for another one.
-/
theorem discover_perContainer
    {discoverer : DockerServiceDiscoverer}
    (enabled : discoverer.hasDockerClient = true) :
    ∃ discovered : List ContainerSummary → UpstreamMap,
      (∀ containers oracle,
        oracle [] (.listContainers serviceContainers) = .ok containers →
        (Program.run oracle [] discoverer.discover).1 =
          .ok (discovered containers)) ∧
      (∀ containers name,
        ((discovered containers).lookup name).getD [] =
          containers.flatMap fun container =>
            ((discovered [container]).lookup name).getD []) ∧
      (∀ containers name,
        name ∈ discovered containers ↔
          ∃ container ∈ containers, name ∈ discovered [container]) ∧
      ∀ container name upstreams,
        (discovered [container]).lookup name = some upstreams ↔
          ∃ upstream,
            upstreams = [upstream] ∧
            Contributes container name upstream := by
  refine ⟨fun containers => containers.foldl addContainer ∅,
    fun containers oracle => run_discover enabled, ?_, ?_, ?_⟩
  · intro containers name
    simp only [getD_lookup_discovered, List.flatMap_cons, List.flatMap_nil,
      List.append_nil]
  · intro containers name
    simp only [mem_discovered, List.mem_singleton, exists_eq_left]
  · intro container name upstreams
    rw [← contributed_eq_iff, lookup_foldl_addContainer, AList.lookup_empty,
      List.flatMap_cons, List.flatMap_nil, List.append_nil]
    split
    · next isEmpty =>
        simp [isEmpty]
    · next present =>
        simp [present]

/-- A container of the service `api`, with a port label. -/
def apiContainer : ContainerSummary where
  id := some "4f66ad9a"
  ports := none
  labels :=
    some ((∅ : AList fun _ : String => String).insert "pingoo.service" "api"
      |>.insert "pingoo.port" "8080")
  networkSettings :=
    some ⟨some ((∅ : AList fun _ : String => EndpointSettings).insert "bridge"
      ⟨some "172.17.0.2"⟩)⟩

/-- The upstream that the container is. -/
def apiUpstream : Upstream where
  socketAddress := ⟨.v4 (.new 172 17 0 2), 8080⟩
  hostname := "4f66ad9a"
  tls := false

theorem contributes_apiContainer :
    Contributes apiContainer "api" apiUpstream where
  service := rfl
  port := Or.inl ⟨"8080", rfl, by decide⟩
  ip := ⟨_, _, _, _, rfl, rfl, rfl, rfl, by decide⟩
  hostname := rfl
  tls := rfl

/-- A second container of the service, with an exposed port. -/
def exposedContainer : ContainerSummary :=
  { apiContainer with
    id := some "9c2e01b7"
    ports := some [⟨9090⟩, ⟨22⟩]
    labels :=
      some ((∅ : AList fun _ : String => String).insert "pingoo.service" "api")
    networkSettings :=
      some ⟨some ((∅ : AList fun _ : String => EndpointSettings).insert
        "bridge" ⟨some "172.17.0.3"⟩)⟩ }

/-- The upstream that the second container is. -/
def exposedUpstream : Upstream where
  socketAddress := ⟨.v4 (.new 172 17 0 3), 9090⟩
  hostname := "9c2e01b7"
  tls := false

theorem contributes_exposedContainer :
    Contributes exposedContainer "api" exposedUpstream where
  service := rfl
  port := Or.inr ⟨rfl, _, _, rfl, rfl⟩
  ip := ⟨_, _, _, _, rfl, rfl, rfl, rfl, by decide⟩
  hostname := rfl
  tls := rfl

/-- A container of the service whose port is too large. -/
def malformedContainer : ContainerSummary :=
  { apiContainer with
    id := some "d1e00f5a"
    labels :=
      some ((∅ : AList fun _ : String => String).insert "pingoo.service" "api"
        |>.insert "pingoo.port" "65536") }

theorem not_contributes_malformedContainer (upstream : Upstream) :
    ¬ Contributes malformedContainer "api" upstream := by
  intro contributes
  have isPort : malformedContainer.label "pingoo.port" = some "65536" :=
    rfl
  have tooLarge : parseU16 "65536".toList = .error .posOverflow := by
    decide
  rcases contributes.port with ⟨portStr, isStr, parsed⟩ | ⟨noPort, -⟩
  · rw [isPort, Option.some.injEq] at isStr
    rw [← isStr, tooLarge] at parsed
    cases parsed
  · rw [isPort] at noPort
    cases noPort

/-- A daemon that lists the containers, of which it warned about every one. -/
def apiDaemon :
    List DiscoveryQuery → (asked : DiscoveryQuery) → asked.Answer
  | _, .listContainers _ =>
      .ok [apiContainer, malformedContainer, exposedContainer]
  | _, .containsKey _ =>
      true
  | _, .insert _ =>
      ()
  | _, .remove _ =>
      ()
  | _, .warn _ =>
      ()

/-- The malformed container is left out, and the others are upstreams. -/
theorem discover_perContainer_sample :
    ∃ map,
      (Program.run apiDaemon []
          (DockerServiceDiscoverer.mk true).discover).1 = .ok map ∧
        (map.lookup "api").getD [] = [apiUpstream, exposedUpstream] := by
  obtain ⟨discovered, isRun, isEach, _, isSingle⟩ :=
    discover_perContainer
      (show (DockerServiceDiscoverer.mk true).hasDockerClient = true from rfl)
  refine ⟨_, isRun _ apiDaemon rfl, ?_⟩
  have first : (discovered [apiContainer]).lookup "api" = some [apiUpstream] :=
    (isSingle _ _ _).mpr ⟨apiUpstream, rfl, contributes_apiContainer⟩
  have second :
      (discovered [exposedContainer]).lookup "api" = some [exposedUpstream] :=
    (isSingle _ _ _).mpr ⟨exposedUpstream, rfl, contributes_exposedContainer⟩
  have none : (discovered [malformedContainer]).lookup "api" = none := by
    rw [Option.eq_none_iff_forall_ne_some]
    intro upstreams isSome
    obtain ⟨upstream, -, contributes⟩ := (isSingle _ _ _).mp isSome
    exact not_contributes_malformedContainer upstream contributes
  rw [isEach]
  simp [first, second, none]

end Pingoo.Docker
