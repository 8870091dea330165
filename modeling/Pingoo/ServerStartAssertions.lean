import Pingoo.ConfigAccepted
import Pingoo.ServerStart

namespace Pingoo

/-!
# The assertions of the start-up

Validation checks that the services of a listener exist, not that they are of
its kind, and it does not look at the command of the child process.  What is
left to the configuration file is stated here, with the proof that it is exactly
what the assertions of the start-up need.
-/

open Fallible KeyedFold

/-- A service of the file is of the kind that a protocol serves. -/
def ServiceConfigFile.serves
    (service : ServiceConfigFile)
    (protocol : ListenerProtocol) : Bool :=
  if protocol.isTcp then
    service.tcpProxy.isSome
  else
    service.httpProxy.isSome || service.static.isSome

/-- A service is of the kind that a protocol serves. -/
def ServiceConfig.serves
    (service : ServiceConfig)
    (protocol : ListenerProtocol) : Bool :=
  if protocol.isTcp then service.tcpProxy.isSome else service.isHttp

/--
The services that a listener names are of the kind it serves, and the child
process has a command.
-/
structure ConfigFile.Startable (file : ConfigFile) : Prop where
  services :
    ∀ name listener, (name, listener) ∈ file.listeners.entries →
      ∀ explicit, listener.services = some explicit →
        ∀ serviceName ∈ explicit, ∀ service,
          (serviceName, service) ∈ file.services.entries →
            service.serves listener.address.protocol = true
  command :
    ∀ child, file.childProcess = some child → child.command ≠ []

section Lookup

variable {services : List ServiceConfig} {name : String}

/-- The TCP services by name are the services with a TCP proxy. -/
theorem lookup_tcpServices :
    (∃ service, (tcpServices services).lookup name = some service) ↔
      ∃ service ∈ services,
        service.tcpProxy.isSome = true ∧ service.name = name := by
  rw [tcpServices, lookup_foldl_enter, ← Option.isSome_iff_exists,
    List.find?_isSome]
  simp only [List.mem_reverse, List.mem_filter, decide_eq_true_eq,
    List.mem_singleton]
  constructor
  · rintro ⟨service, ⟨member, isTcp⟩, rfl⟩
    exact ⟨service, member, isTcp, rfl⟩
  · rintro ⟨service, member, isTcp, rfl⟩
    exact ⟨service, ⟨member, isTcp⟩, rfl⟩

/-- A service for HTTP listeners is started as what it is. -/
theorem newHttpService_of_isHttp
    {config : ServiceConfig}
    (isHttp : config.isHttp = true) :
    ∃ service, newHttpService config = .ok service ∧
      service.config = config := by
  unfold newHttpService
  split
  · exact ⟨_, rfl, rfl⟩
  · next notStatic =>
      have isProxy : config.httpProxy.isSome = true := by
        simpa [ServiceConfig.isHttp, notStatic] using isHttp
      rw [if_pos isProxy]
      exact ⟨_, rfl, rfl⟩

/-- Starting HTTP services keeps their configurations. -/
private theorem exists_callEach_newHttpService
    {configs : List ServiceConfig}
    (areHttp : ∀ config ∈ configs, config.isHttp = true) :
    ∃ started, callEach newHttpService configs = .ok started ∧
      started.map StartedHttpService.config = configs := by
  simp only [callEach_eq_ok_iff]
  induction configs with
  | nil =>
      exact ⟨[], .nil, rfl⟩
  | cons config rest inductionHypothesis =>
      rw [List.forall_mem_cons] at areHttp
      obtain ⟨service, isOk, configEq⟩ := newHttpService_of_isHttp areHttp.1
      obtain ⟨started, startedOk, configsEq⟩ :=
        inductionHypothesis areHttp.2
      exact ⟨service :: started, .cons isOk startedOk, by
        rw [List.map_cons, configEq, configsEq]⟩

/-- The HTTP services start, and are found by their names. -/
theorem exists_httpServices (services : List ServiceConfig) :
    ∃ started, httpServices services = .ok started ∧
      ∀ name,
        (∃ service, started.lookup name = some service) ↔
          ∃ service ∈ services,
            service.isHttp = true ∧ service.name = name := by
  obtain ⟨started, startedOk, configsEq⟩ :=
    exists_callEach_newHttpService
      (fun config member => (List.mem_filter.mp member).2 :
        ∀ config ∈ services.filter ServiceConfig.isHttp,
          config.isHttp = true)
  refine ⟨_, by rw [httpServices, startedOk]; rfl, ?_⟩
  intro name
  have isStarted : ∀ config,
      (∃ service ∈ started, service.config = config) ↔
        config ∈ services ∧ config.isHttp = true := by
    intro config
    rw [← List.mem_filter, ← configsEq, List.mem_map]
  rw [lookup_foldl_enter, ← Option.isSome_iff_exists, List.find?_isSome]
  simp only [List.mem_reverse, decide_eq_true_eq, List.mem_singleton]
  constructor
  · rintro ⟨service, member, rfl⟩
    obtain ⟨inServices, isHttp⟩ :=
      (isStarted service.config).mp ⟨service, member, rfl⟩
    exact ⟨service.config, inServices, isHttp, rfl⟩
  · rintro ⟨config, inServices, isHttp, rfl⟩
    obtain ⟨service, member, rfl⟩ :=
      (isStarted config).mpr ⟨inServices, isHttp⟩
    exact ⟨service, member, rfl⟩

end Lookup

section Assertions

/-- The services that a listener takes are there, and of its kind. -/
def ListenerConfig.Starts
    (listener : ListenerConfig)
    (services : List ServiceConfig) : Prop :=
  if listener.protocol.isTcp then
    ∃ name, listener.services.head? = some name ∧
      ∃ service ∈ services,
        service.tcpProxy.isSome = true ∧ service.name = name
  else
    ∀ name ∈ listener.services,
      ∃ service ∈ services, service.isHttp = true ∧ service.name = name

/-- What the assertions of the start-up say of the configuration. -/
structure Config.AssertionsHold
    {Expression : Type}
    (config : Config Expression) : Prop where
  listeners :
    ∀ listener ∈ config.listeners, listener.Starts config.services
  command :
    ∀ child, config.childProcess = some child → child.command ≠ []

variable
  {services : List ServiceConfig}
  {started : AList fun _ : String => StartedHttpService}
  {listener : ListenerConfig}

/-- Building a listener does not fail but by an assertion. -/
theorem newListener_onlyPanics :
    FailsOnly (· = .panic)
      (newListener (tcpServices services) started listener) := by
  unfold newListener
  split
  · refine (expect_onlyPanics _).bind fun name _ => ?_
    exact (expect_onlyPanics _).bind fun service _ => FailsOnly.ok _ _
  · refine (failsOnly_callEach fun name _ => expect_onlyPanics _).bind ?_
    exact fun services _ => FailsOnly.ok _ _

/-- The assertions about a listener say that its services are there. -/
theorem newListener_noPanic_iff
    (found :
      ∀ name,
        (∃ service, started.lookup name = some service) ↔
          ∃ service ∈ services,
            service.isHttp = true ∧ service.name = name) :
    NoPanic (newListener (tcpServices services) started listener) ↔
      listener.Starts services := by
  unfold newListener ListenerConfig.Starts
  split
  · rw [noPanic_bind_iff, expect_noPanic_iff]
    constructor
    · rintro ⟨⟨name, isHead⟩, rest⟩
      have looksUp := rest name (expect_eq_ok_iff.mpr isHead)
      rw [noPanic_bind_iff, expect_noPanic_iff, lookup_tcpServices]
        at looksUp
      exact ⟨name, isHead, looksUp.1⟩
    · rintro ⟨name, isHead, service⟩
      refine ⟨⟨name, isHead⟩, fun other isOther => ?_⟩
      rw [expect_eq_ok_iff, isHead, Option.some.injEq] at isOther
      subst other
      rw [noPanic_bind_iff, expect_noPanic_iff, lookup_tcpServices]
      exact ⟨service, fun _ _ => FailsOnly.ok _ _⟩
  · rw [noPanic_bind_iff,
      noPanic_callEach_iff fun name => expect_onlyPanics _]
    simp only [expect_noPanic_iff, found]
    exact and_iff_left fun _ _ => FailsOnly.ok _ _

/-- An environment in which nothing fails. -/
def untroubledEnvironment : StartEnvironment where
  spawn _ :=
    .ok ()
  serviceRegistry :=
    .ok ()
  geoipDb :=
    .ok ()
  captchaManager :=
    .ok ()
  lists :=
    .ok ()
  tlsManager :=
    .ok ()
  bind _ :=
    .ok ()

/-- Where binding does not fail, a listener is started as it is built. -/
theorem startListener_untroubled
    (tcpServices : AList fun _ : String => ServiceConfig) :
    startListener untroubledEnvironment tcpServices started listener =
      newListener tcpServices started listener := by
  unfold startListener
  cases newListener tcpServices started listener <;> rfl

variable {Expression : Type} {config : Config Expression}

/-- The server starts its listeners when nothing else fails. -/
private theorem serverRun_untroubled
    (startedOk : httpServices config.services = .ok started) :
    serverRun untroubledEnvironment config =
      callEach (newListener (tcpServices config.services) started)
        config.listeners := by
  unfold serverRun
  simp only [startedOk, untroubledEnvironment, attempt, bind, Except.bind]
  exact congrArg (callEach · config.listeners)
    (funext fun listener => startListener_untroubled _)

/-- In no environment an assertion fails exactly when all of them hold. -/
theorem main_noPanic_iff :
    (∀ env : StartEnvironment, NoPanic (main env config)) ↔
      config.AssertionsHold := by
  obtain ⟨started, startedOk, found⟩ := exists_httpServices config.services
  constructor
  · intro noPanic
    have untroubled := noPanic untroubledEnvironment
    rw [main, noPanic_bind_iff] at untroubled
    obtain ⟨childOk, serverOk⟩ := untroubled
    have command :
        ∀ child, config.childProcess = some child → child.command ≠ [] := by
      rintro child hasChild isEmpty
      rw [hasChild, startChildProcess, noPanic_bind_iff, isEmpty] at childOk
      exact childOk.1 _ rfl rfl
    refine ⟨?_, command⟩
    have childStarts :
        startChildProcess untroubledEnvironment config.childProcess =
          .ok () := by
      cases hasChild : config.childProcess with
      | none =>
          rfl
      | some child =>
          obtain ⟨program, rest, commandEq⟩ :=
            List.exists_cons_of_ne_nil (command child hasChild)
          simp [startChildProcess, commandEq, expect, untroubledEnvironment,
            attempt, bind, Except.bind, Except.mapError]
    have listeners := serverOk () childStarts
    rw [serverRun_untroubled startedOk, noPanic_callEach_iff fun listener =>
      newListener_onlyPanics] at listeners
    intro listener member
    exact (newListener_noPanic_iff found).mp (listeners listener member)
  · rintro ⟨listeners, command⟩ env
    have childNoPanic :
        NoPanic (startChildProcess env config.childProcess) := by
      cases hasChild : config.childProcess with
      | none =>
          exact FailsOnly.ok _ _
      | some child =>
          obtain ⟨program, rest, commandEq⟩ :=
            List.exists_cons_of_ne_nil (command child hasChild)
          have hasProgram :
              NoPanic (expect child.command.head? : Start String) := by
            rw [expect_noPanic_iff, commandEq]
            exact ⟨program, rfl⟩
          exact hasProgram.bind fun _ _ => attempt_noPanic _
    refine childNoPanic.bind fun _ _ => ?_
    refine (attempt_noPanic _).bind fun _ _ => ?_
    refine (attempt_noPanic _).bind fun _ _ => ?_
    refine (attempt_noPanic _).bind fun _ _ => ?_
    refine (attempt_noPanic _).bind fun _ _ => ?_
    rw [startedOk]
    refine (attempt_noPanic _).bind fun _ _ => ?_
    refine failsOnly_callEach fun listener member => ?_
    refine FailsOnly.bind
      ((newListener_noPanic_iff found).mpr (listeners listener member)) ?_
    exact fun _ _ => (attempt_noPanic _).bind fun _ _ => FailsOnly.ok _ _

end Assertions

section Accepted

variable
  {Expression : Type}
  {library : ConfigLibrary Expression}
  {services : IndexMap String ServiceConfig}

/-- A service serves what the service of the file serves. -/
theorem ServiceConfig.IsOf.serves_eq
    {config : ServiceConfig}
    {name : String}
    {service : ServiceConfigFile}
    (isOf : config.IsOf name service)
    (protocol : ListenerProtocol) :
    config.serves protocol = service.serves protocol := by
  simp only [ServiceConfig.serves, ServiceConfigFile.serves,
    ServiceConfig.isHttp, isOf.httpProxy, isOf.static, isOf.tcpProxy]

/-- The services that a listener has by default are of the kind it serves. -/
theorem serves_of_mem_default
    {protocol : ListenerProtocol}
    {name : String}
    (member : name ∈ defaultServicesForListener services protocol) :
    ∃ service, (name, service) ∈ services.entries ∧
      service.serves protocol = true := by
  unfold defaultServicesForListener at member
  unfold ServiceConfig.serves
  split at member
  · next isTcp =>
      obtain ⟨entry, inEntries, rfl⟩ := List.mem_map.mp member
      obtain ⟨isEntry, isProxy⟩ := List.mem_filter.mp inEntries
      exact ⟨entry.2, isEntry, by rw [if_pos isTcp]; exact isProxy⟩
  · next notTcp =>
      obtain ⟨entry, inEntries, rfl⟩ := List.mem_map.mp member
      obtain ⟨isEntry, isHttp⟩ := List.mem_filter.mp inEntries
      exact ⟨entry.2, isEntry, by rw [if_neg notTcp]; exact isHttp⟩

/--
The services of an accepted listener are there for the assertions when each of
them is of the kind that the listener serves.
-/
theorem starts_iff_of_accepted
    {listener : ListenerConfig}
    (accepted : listener.Accepted services)
    (named :
      ∀ name service, (name, service) ∈ services.entries →
        service.name = name) :
    listener.Starts services.values ↔
      ∀ name ∈ listener.services,
        ∃ service, (name, service) ∈ services.entries ∧
          service.serves listener.protocol = true := by
  have byName : ∀ (kind : ServiceConfig → Bool) name,
      (∃ service ∈ services.values,
          kind service = true ∧ service.name = name) ↔
        ∃ service, (name, service) ∈ services.entries ∧
          kind service = true := by
    intro kind name
    constructor
    · rintro ⟨service, member, isKind, rfl⟩
      obtain ⟨entry, isEntry, rfl⟩ := List.mem_map.mp member
      have nameEq := named entry.1 entry.2 isEntry
      exact ⟨entry.2, by rw [nameEq]; exact isEntry, isKind⟩
    · rintro ⟨service, isEntry, isKind⟩
      exact ⟨service, List.mem_map.mpr ⟨_, isEntry, rfl⟩, isKind,
        named name service isEntry⟩
  unfold ListenerConfig.Starts ServiceConfig.serves
  by_cases isTcp : listener.protocol.isTcp = true
  · simp only [isTcp, if_true,
      byName fun service => service.tcpProxy.isSome]
    obtain ⟨name, rest, isCons⟩ :=
      List.exists_cons_of_ne_nil accepted.ne_nil
    have single := accepted.single isTcp
    have noRest : rest = [] := by
      rw [isCons, List.length_cons] at single
      exact List.eq_nil_of_length_eq_zero (by omega)
    simp [isCons, noRest]
  · simp only [isTcp, if_false, Bool.false_eq_true,
      byName ServiceConfig.isHttp]

/-- A service of the map serves exactly if the one of the file does. -/
theorem exists_serves_iff
    {file : IndexMap String ServiceConfigFile}
    (parsed : file.traverse (parseService library) = .ok services)
    {name : String}
    (exist : name ∈ services.keys)
    (protocol : ListenerProtocol) :
    (∃ service, (name, service) ∈ services.entries ∧
        service.serves protocol = true) ↔
      ∀ service, (name, service) ∈ file.entries →
        service.serves protocol = true := by
  constructor
  · rintro ⟨config, isEntry, serves⟩ service written
    obtain ⟨other, isOther, parsedOk⟩ :=
      (IndexMap.mem_traverse parsed).mp isEntry
    rw [IndexMap.eq_of_mem written isOther,
      ← (isOf_of_parseService parsedOk).serves_eq]
    exact serves
  · intro serves
    obtain ⟨⟨_, config⟩, isEntry, rfl⟩ := List.mem_map.mp exist
    obtain ⟨service, written, parsedOk⟩ :=
      (IndexMap.mem_traverse parsed).mp isEntry
    refine ⟨config, isEntry, ?_⟩
    rw [(isOf_of_parseService parsedOk).serves_eq]
    exact serves service written

/-- The assertions hold for an accepted file exactly when it is startable. -/
theorem assertionsHold_iff_startable
    {file : ConfigFile}
    {loadRules : Except Error (IndexMap String RuleConfigFile)}
    {config : Config Expression}
    (accepted : loadAndValidate library (.ok file) loadRules = .ok config) :
    config.AssertionsHold ↔ file.Startable := by
  obtain ⟨services, parsed, listenersEq, areAccepted, servicesEq, childEq⟩ :=
    loadAndValidate_eq_ok accepted
  have named : ∀ name service, (name, service) ∈ services.entries →
      service.name = name := by
    intro name service isEntry
    obtain ⟨written, _, parsedOk⟩ :=
      (IndexMap.mem_traverse parsed).mp isEntry
    exact (isOf_of_parseService parsedOk).name
  have startsIff : ∀ listener ∈ config.listeners,
      listener.Starts config.services ↔
        ∀ name ∈ listener.services,
          ∀ service, (name, service) ∈ file.services.entries →
            service.serves listener.protocol = true := by
    intro listener member
    have isAccepted := areAccepted listener member
    rw [servicesEq, starts_iff_of_accepted isAccepted named]
    exact forall₂_congr fun name inServices =>
      exists_serves_iff parsed (isAccepted.exist name inServices) _
  have isListener : ∀ entry ∈ file.listeners.entries,
      (⟨entry.1, entry.2.address.socketAddress, entry.2.address.protocol,
        entry.2.services.getD
          (defaultServicesForListener services entry.2.address.protocol)⟩ :
        ListenerConfig) ∈ config.listeners := by
    intro entry member
    rw [listenersEq]
    exact List.mem_map.mpr ⟨entry, member, rfl⟩
  constructor
  · rintro ⟨listeners, command⟩
    refine ⟨?_, by rw [← childEq]; exact command⟩
    intro name listener member explicit isExplicit
    have inConfig := isListener (name, listener) member
    have starts := (startsIff _ inConfig).mp (listeners _ inConfig)
    simpa only [isExplicit, Option.getD_some] using starts
  · rintro ⟨serves, command⟩
    refine ⟨?_, by rw [childEq]; exact command⟩
    intro listener member
    rw [startsIff listener member]
    rw [listenersEq] at member
    obtain ⟨⟨name, written⟩, isWritten, rfl⟩ := List.mem_map.mp member
    cases isExplicit : written.services with
    | none =>
        simp only [Option.getD_none, isExplicit]
        intro serviceName isDefault
        obtain ⟨config, isEntry, isKind⟩ := serves_of_mem_default isDefault
        exact (exists_serves_iff parsed
          (List.mem_map.mpr ⟨_, isEntry, rfl⟩) _).mp ⟨config, isEntry, isKind⟩
    | some explicit =>
        simp only [Option.getD_some, isExplicit]
        exact serves name written isWritten explicit isExplicit

/--
A configuration that was accepted starts without a panic, whatever the start-up
meets, exactly when its file is startable.
-/
theorem main_noPanic_iff_startable
    {file : ConfigFile}
    {loadRules : Except Error (IndexMap String RuleConfigFile)}
    {config : Config Expression}
    (accepted : loadAndValidate library (.ok file) loadRules = .ok config) :
    (∀ env : StartEnvironment, NoPanic (main env config)) ↔
      file.Startable := by
  rw [main_noPanic_iff, assertionsHold_iff_startable accepted]

end Accepted

section Sample

/-- A parser of URLs and a compiler of expressions, on the upstreams below. -/
def upstreamLibrary : ConfigLibrary String where
  parseUrl text :=
    if text = "tcp://10.0.0.1:5432" then
      .ok ⟨"tcp".toList, some "10.0.0.1".toList, some 5432⟩
    else if text = "http://10.0.0.1:8080" then
      .ok ⟨"http".toList, some "10.0.0.1".toList, some 8080⟩
    else
      .error "relative URL without a base"
  compileExpression :=
    .ok

/-- No rules. -/
def noRules : IndexMap String RuleConfigFile where
  entries :=
    []
  distinct :=
    List.nodup_nil

/-- A TCP listener that names the one service of the file. -/
def databaseFile (service : ServiceConfigFile) : ConfigFile where
  listeners :=
    ⟨[("tcp", ⟨⟨⟨.v4 (.new 0 0 0 0), 5432⟩, .tcp⟩, some ["database"]⟩)],
      by simp⟩
  services :=
    ⟨[("database", service)], by simp⟩
  rules :=
    noRules
  tls :=
    none
  childProcess :=
    none

/-- The configuration of a file with one service. -/
def databaseConfig (service : ServiceConfig) : Config String where
  listeners :=
    [⟨"tcp", ⟨.v4 (.new 0 0 0 0), 5432⟩, .tcp, ["database"]⟩]
  services :=
    [service]
  rules :=
    []
  tls :=
    ⟨none⟩
  childProcess :=
    none
  limiterWorkers :=
    []

/-- A file whose TCP listener has a TCP proxy starts. -/
theorem main_noPanic_iff_startable_tcp_proxy :
    loadAndValidate upstreamLibrary
        (.ok (databaseFile
          ⟨none, none, none, some ["tcp://10.0.0.1:5432"]⟩))
        (.ok noRules) =
      .ok (databaseConfig
        ⟨"database", none, none,
          some [.ipAddress ⟨⟨.v4 (.new 10 0 0 1), 5432⟩, "10.0.0.1", false⟩]⟩) ∧
    ((∀ env : StartEnvironment,
        NoPanic (main env (databaseConfig
          ⟨"database", none, none,
            some [.ipAddress ⟨⟨.v4 (.new 10 0 0 1), 5432⟩, "10.0.0.1", false⟩]⟩))) ↔
      (databaseFile
        ⟨none, none, none, some ["tcp://10.0.0.1:5432"]⟩).Startable) :=
  ⟨by rfl, main_noPanic_iff_startable
    (by rfl :
      loadAndValidate upstreamLibrary
        (.ok (databaseFile
          ⟨none, none, none, some ["tcp://10.0.0.1:5432"]⟩))
        (.ok noRules) = _)⟩

/-- A file whose TCP listener names an HTTP proxy is accepted, and panics. -/
theorem not_main_noPanic_http_proxy :
    ¬ ∀ (file : ConfigFile)
        (loadRules : Except Error (IndexMap String RuleConfigFile))
        (config : Config String),
      loadAndValidate upstreamLibrary (.ok file) loadRules = .ok config →
        ∀ env : StartEnvironment, NoPanic (main env config) := by
  intro starts
  have panics := starts
    (databaseFile ⟨none, some ["http://10.0.0.1:8080"], none, none⟩)
    (.ok noRules)
    (databaseConfig
      ⟨"database",
        some [.ipAddress ⟨⟨.v4 (.new 10 0 0 1), 8080⟩, "10.0.0.1", false⟩],
        none, none⟩)
    (by rfl) untroubledEnvironment .panic (by rfl)
  exact panics rfl

end Sample

end Pingoo
