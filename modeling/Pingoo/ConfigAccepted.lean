import Pingoo.ConfigLoad

namespace Pingoo

/-!
# What validation accepts

A configuration that was accepted has the services of its file under their names
and with their kinds, and listeners whose services exist.
-/

open Fallible

variable {Expression : Type} {library : ConfigLibrary Expression}

section Services

/-- A proxy is read exactly where one is written. -/
theorem isSome_of_parseProxy
    {written : Option (List String)}
    {proxy : Option (List UpstreamConfig)}
    (parsed : parseProxy library written = .ok proxy) :
    proxy.isSome = written.isSome := by
  cases written with
  | none =>
      cases parsed
      rfl
  | some upstreams =>
      obtain ⟨upstreamConfigs, _, same⟩ := bind_eq_ok_iff.mp parsed
      cases same
      rfl

/-- A static site is read exactly where one is written. -/
theorem isSome_of_parseStatic
    {serviceName : String}
    {written : Option ServiceConfigFileStatic}
    {static : Option StaticSiteServiceConfig}
    (parsed : parseStatic serviceName written = .ok static) :
    static.isSome = written.isSome := by
  cases written with
  | none =>
      cases parsed
      rfl
  | some site =>
      rw [parseStatic] at parsed
      split at parsed
      · cases parsed
        rfl
      · cases parsed

/-- A service keeps its name and its kinds. -/
structure ServiceConfig.IsOf
    (config : ServiceConfig)
    (name : String)
    (service : ServiceConfigFile) : Prop where
  name : config.name = name
  httpProxy : config.httpProxy.isSome = service.httpProxy.isSome
  static : config.static.isSome = service.static.isSome
  tcpProxy : config.tcpProxy.isSome = service.tcpProxy.isSome

theorem isOf_of_parseService
    {name : String}
    {service : ServiceConfigFile}
    {config : ServiceConfig}
    (parsed : parseService library name service = .ok config) :
    config.IsOf name service := by
  unfold parseService at parsed
  split at parsed
  · cases parsed
  · obtain ⟨static, staticOk, parsed⟩ := bind_eq_ok_iff.mp parsed
    obtain ⟨httpProxy, httpOk, parsed⟩ := bind_eq_ok_iff.mp parsed
    split at parsed
    · cases parsed
    · obtain ⟨tcpProxy, tcpOk, parsed⟩ := bind_eq_ok_iff.mp parsed
      obtain ⟨route, _, same⟩ := bind_eq_ok_iff.mp parsed
      cases same
      exact ⟨rfl, isSome_of_parseProxy httpOk, isSome_of_parseStatic staticOk,
        isSome_of_parseProxy tcpOk⟩

end Services

section Listeners

variable
  {listeners : List ListenerConfig}
  {services : IndexMap String ServiceConfig}

/-- What the checks of a listener say of its services. -/
structure ListenerConfig.Accepted
    (listener : ListenerConfig)
    (services : IndexMap String ServiceConfig) : Prop where
  ne_nil : listener.services ≠ []
  single : listener.protocol.isTcp = true → listener.services.length ≤ 1
  exist : ∀ name ∈ listener.services, name ∈ services.keys

theorem accepted_of_validateListener
    {entry : ListenerConfig × Nat}
    (validated : validateListener listeners services entry = .ok ()) :
    entry.1.Accepted services := by
  obtain ⟨_, _, rest⟩ := bind_eq_ok_iff.mp validated
  obtain ⟨_, countOk, rest⟩ := bind_eq_ok_iff.mp rest
  obtain ⟨_, existOk, _⟩ := bind_eq_ok_iff.mp rest
  have noCountError := reject_eq_ok_iff.mp countOk
  have noMissing := reject_eq_ok_iff.mp existOk
  unfold serviceCountError at noCountError
  split at noCountError
  · cases noCountError
  · next notEmpty =>
      split at noCountError
      · cases noCountError
      · next notMany =>
          refine ⟨fun isEmpty => notEmpty (by rw [isEmpty]; rfl), ?_, ?_⟩
          · intro isTcp
            exact Nat.not_lt.mp fun many => notMany ⟨isTcp, many⟩
          · simpa [missingServiceError] using noMissing

theorem accepted_of_validateListenersConfig
    (validated : validateListenersConfig listeners services = .ok ())
    {listener : ListenerConfig}
    (member : listener ∈ listeners) :
    listener.Accepted services := by
  obtain ⟨position, inRange, rfl⟩ := List.mem_iff_getElem.mp member
  have isEntry : (listeners[position], position) ∈ listeners.zipIdx :=
    List.mem_zipIdx_iff_getElem?.mpr (List.getElem?_eq_getElem inRange)
  exact accepted_of_validateListener
    (checkEach_eq_ok_iff.mp validated _ isEntry)

end Listeners

/-- What is kept of the file in a configuration that was accepted. -/
theorem loadAndValidate_eq_ok
    {file : ConfigFile}
    {loadRules : Except Error (IndexMap String RuleConfigFile)}
    {config : Config Expression}
    (accepted : loadAndValidate library (.ok file) loadRules = .ok config) :
    ∃ services : IndexMap String ServiceConfig,
      file.services.traverse (parseService library) = .ok services ∧
      config.listeners = listenerConfigs services file.listeners ∧
      (∀ listener ∈ config.listeners, listener.Accepted services) ∧
      config.services = services.values ∧
      config.childProcess = file.childProcess := by
  obtain ⟨read, isRead, rest⟩ := bind_eq_ok_iff.mp accepted
  cases isRead
  obtain ⟨rules, _, rest⟩ := bind_eq_ok_iff.mp rest
  obtain ⟨_, _, rest⟩ := bind_eq_ok_iff.mp rest
  obtain ⟨services, servicesOk, rest⟩ := bind_eq_ok_iff.mp rest
  obtain ⟨_, validated, rest⟩ := bind_eq_ok_iff.mp rest
  obtain ⟨compiled, _, rest⟩ := bind_eq_ok_iff.mp rest
  obtain ⟨tls, _, same⟩ := bind_eq_ok_iff.mp rest
  cases same
  exact ⟨services, servicesOk, rfl,
    fun listener => accepted_of_validateListenersConfig validated, rfl, rfl⟩

end Pingoo
