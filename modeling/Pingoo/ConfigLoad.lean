import Pingoo.ConfigFile

namespace Pingoo

/-!
# Loading the configuration

The configuration file is read, its services are parsed, its listeners get the
services they do not name themselves, and what the file says is validated.
-/

open Fallible

namespace ListenerProtocol

/-- Listeners of these protocols serve TCP connections. -/
def isTcp : ListenerProtocol → Bool
  | .tcp =>
      true
  | .tcpAndTls =>
      true
  | .http =>
      false
  | .https =>
      false

end ListenerProtocol

/-- `ListenerConfig`. -/
structure ListenerConfig where
  name : String
  address : SocketAddr
  protocol : ListenerProtocol
  services : List String
  deriving Repr, DecidableEq

/-- `Config`; a limiter worker is given by what it is started with. -/
structure Config (Expression : Type) where
  listeners : List ListenerConfig
  services : List ServiceConfig
  rules : List (Rule Expression)
  tls : TlsConfig
  childProcess : Option ChildProcess
  limiterWorkers : List RateLimit

/-- `find_duplicate`: the first item that was seen before. -/
def findDuplicate {α : Type} [DecidableEq α] (items : List α) : Option α :=
  go [] items
where
  /-- Look for an item among those before it. -/
  go (seen : List α) : List α → Option α
    | [] =>
        none
    | item :: rest =>
        if item ∈ seen then some item else go (item :: seen) rest

/-- Items among which no duplicate is found are distinct. -/
theorem nodup_of_findDuplicate
    {α : Type}
    [DecidableEq α]
    {items : List α}
    (noDuplicate : findDuplicate items = none) : items.Nodup := by
  have distinct (seen rest : List α)
      (noDuplicate : findDuplicate.go seen rest = none) :
      rest.Nodup ∧ ∀ item ∈ rest, item ∉ seen := by
    induction rest generalizing seen with
    | nil =>
        exact ⟨.nil, fun _ member => absurd member List.not_mem_nil⟩
    | cons item rest inductionHypothesis =>
        rw [findDuplicate.go] at noDuplicate
        split at noDuplicate
        · cases noDuplicate
        · next notSeen =>
            obtain ⟨nodup, apart⟩ := inductionHypothesis _ noDuplicate
            refine ⟨List.nodup_cons.mpr ⟨fun member =>
                apart item member List.mem_cons_self, nodup⟩,
              List.forall_mem_cons.mpr ⟨notSeen, fun other member isSeen =>
                apart other member (List.mem_cons_of_mem item isSeen)⟩⟩
  exact (distinct [] items noDuplicate).1

/-- `find_duplicate2`: the first of the second list that is in the first. -/
def findDuplicate2
    {α : Type}
    [DecidableEq α]
    (first second : List α) : Option α :=
  second.find? fun item => decide (item ∈ first)

/-- A service for HTTP listeners. -/
def ServiceConfig.isHttp (service : ServiceConfig) : Bool :=
  service.httpProxy.isSome || service.static.isSome

/-- The services that a listener has when it names none. -/
def defaultServicesForListener
    (services : IndexMap String ServiceConfig)
    (protocol : ListenerProtocol) : List String :=
  if protocol.isTcp then
    (services.entries.filter fun entry => entry.2.tcpProxy.isSome).map Prod.fst
  else
    (services.entries.filter fun entry => entry.2.isHttp).map Prod.fst

/-- The listeners with their services. -/
def listenerConfigs
    (services : IndexMap String ServiceConfig)
    (listeners : IndexMap String ListenerConfigFile) : List ListenerConfig :=
  listeners.entries.map fun (name, listener) => {
    name
    address := listener.address.socketAddress
    protocol := listener.address.protocol
    services :=
      listener.services.getD
        (defaultServicesForListener services listener.address.protocol)
  }

/-- Another listener has the port of this one. -/
def samePortError
    (listeners : List ListenerConfig)
    (listener : ListenerConfig)
    (position : Nat) : Option Error :=
  (listeners.zipIdx.find? fun (other, otherPosition) =>
    decide (position ≠ otherPosition ∧
      listener.address.port = other.address.port)).map fun (other, _) =>
        .config (s!"config: listeners: {listener.name} and {other.name} can't " ++
          "listen on the same port")

/-- A listener names no service, or a TCP listener names several. -/
def serviceCountError (listener : ListenerConfig) : Option Error :=
  if listener.services.length = 0 then
    some (.config (s!"config: listeners: {listener.name}: no service found " ++
      "for this listener"))
  else if listener.protocol.isTcp ∧ 1 < listener.services.length then
    some (.config (s!"config: listeners: {listener.name}: TCP listeners can " ++
      "only have 1 associated service"))
  else
    none

/-- A listener names a service that does not exist. -/
def missingServiceError
    (allServices : IndexMap String ServiceConfig)
    (listener : ListenerConfig) : Option Error :=
  (listener.services.find? fun name => decide (name ∉ allServices.keys)).map
    fun name =>
      .config (s!"config: listeners: {listener.name}: service {name} doesn't " ++
        "exist")

/-- A listener names a service twice. -/
def duplicateServiceError (listener : ListenerConfig) : Option Error :=
  (findDuplicate listener.services).map fun duplicate =>
    .config (s!"config: listeners: {listener.name}: duplicate services are " ++
      s!"not allowed ({duplicate})")

/-- The checks of one listener, in their order. -/
def validateListener
    (listeners : List ListenerConfig)
    (allServices : IndexMap String ServiceConfig)
    (entry : ListenerConfig × Nat) : Except Error Unit := do
  reject (samePortError listeners entry.1 entry.2)
  reject (serviceCountError entry.1)
  reject (missingServiceError allServices entry.1)
  reject (duplicateServiceError entry.1)

/-- `validate_listeners_config`. -/
def validateListenersConfig
    (listeners : List ListenerConfig)
    (allServices : IndexMap String ServiceConfig) : Except Error Unit :=
  checkEach (validateListener listeners allServices) listeners.zipIdx

section

variable {Expression : Type} (library : ConfigLibrary Expression)

/--
Compile the rules.  A rule with a limit gets a channel to a worker of its own;
channels are numbered by their workers.
-/
def compileRules :
    List (String × RuleConfigFile) → List RateLimit →
      Except String (List (Rule Expression) × List RateLimit)
  | [], workers =>
      .ok ([], workers)
  | (name, rule) :: rest, workers => do
      let limiterTx := rule.limit.map fun _ => ⟨workers.length⟩
      let workers := workers ++ rule.limit.toList
      let expression ← compileOptional library rule.expression
      let (rules, workers) ← compileRules rest workers
      .ok (⟨name, expression, rule.actions, limiterTx⟩ :: rules, workers)

/-- What is wrong with a domain for ACME. -/
def acmeDomainError (domain : Str) : Option Error :=
  if domain.contains ['*'] then
    some (.config ("acme: Pingoo currently doesn't support wildcard domains " ++
      s!"for automatic TLS ({String.ofList domain})"))
  else if domain.any (fun character => 128 ≤ character.toNat) ∨
      domain.toAsciiLowercase ≠ domain then
    some (.config s!"acme: invalid domain: {String.ofList domain}")
  else
    none

/-- Normalise and validate the TLS configuration. -/
def validateTls (tls : TlsConfig) : Except Error TlsConfig :=
  match tls.acme with
  | none => .ok tls
  | some acme => do
      let directoryUrl :=
        Str.trimEndMatches (Str.trim acme.directoryUrl) '/'
      reject ((findDuplicate acme.domains).map fun domain =>
        .config s!"acme: duplicate domain: {String.ofList domain}")
      checkEach (fun domain => reject (acmeDomainError domain)) acme.domains
      .ok ⟨some { acme with directoryUrl }⟩

/-- The domains of an accepted configuration are distinct. -/
theorem nodup_of_validateTls
    {tls : TlsConfig}
    {acme : TlsAcmeConfig}
    (accepted : validateTls tls = .ok ⟨some acme⟩) : acme.domains.Nodup := by
  unfold validateTls at accepted
  split at accepted
  · next isNone =>
      cases accepted
      cases isNone
  · next written isSome =>
      obtain ⟨_, noDuplicate, accepted⟩ := bind_eq_ok_iff.mp accepted
      obtain ⟨_, _, accepted⟩ := bind_eq_ok_iff.mp accepted
      cases accepted
      rw [reject_eq_ok_iff, Option.map_eq_none_iff] at noDuplicate
      exact nodup_of_findDuplicate noDuplicate

/--
`load_and_validate`, from the outcomes of reading the configuration file and the
rules folder.
-/
def loadAndValidate
    (readConfigFile : Except Error ConfigFile)
    (loadRules : Except Error (IndexMap String RuleConfigFile)) :
    Except Error (Config Expression) := do
  let configFile ← readConfigFile
  let rulesFromFolder ← loadRules
  reject ((findDuplicate2 rulesFromFolder.keys configFile.rules.keys).map
    fun name => .config s!"duplicate rule name: {name}")
  let services ← configFile.services.traverse (parseService library)
  let listeners := listenerConfigs services configFile.listeners
  validateListenersConfig listeners services
  let (rules, limiterWorkers) ←
    (compileRules library
      (configFile.rules.entries ++ rulesFromFolder.entries) []).mapError
      fun err => .config s!"error parsing rules: {err}"
  let tls ← validateTls (configFile.tls.getD ⟨none⟩)
  .ok {
    listeners
    services := services.values
    rules
    tls
    childProcess := configFile.childProcess
    limiterWorkers
  }

end

end Pingoo
