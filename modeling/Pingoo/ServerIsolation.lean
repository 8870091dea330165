import Pingoo.Library.RelatedLists
import Pingoo.ServerRequests
import Pingoo.ServerStartAssertions

namespace Pingoo

open Fallible Interaction KeyedFold
open Transition (Run)

/-!
# From the configuration to what is reached

A listener is built of the services that its configuration names, and each of
them reads the upstreams of its own name or the files of its own root.  So in a
server that was started from a configuration, the clients of a listener reach
nothing but what is configured for this listener.
-/

/-- The handler that a started service is. -/
inductive StartedHttpService.IsHandler :
    StartedHttpService → HttpHandler → Prop
  | staticSite
      {config : ServiceConfig}
      {site : StaticSiteServiceConfig}
      (isSite : config.static = some site) :
      IsHandler (.staticSite config) (.staticSite ⟨site⟩)
  | httpProxy (config : ServiceConfig) :
      IsHandler (.httpProxy config) (.httpProxy ⟨config.name⟩)

/-- `HttpListener::new` and `HttpsListener::new`. -/
structure IsListener
    {Expression Context Value : Type}
    (parts : ServerParts Expression Context Value)
    (config : Config Expression)
    (listenerConfig : ListenerConfig)
    (started : List StartedHttpService)
    (listener : HttpListener Expression Value) : Prop where
  isAddress : listener.address = listenerConfig.address
  isTls : listener.useTls = decide (listenerConfig.protocol = .https)
  isRules : listener.rules = config.rules
  areServices :
    List.Forall₂
      (fun (service : HttpService Expression) startedService =>
        service.name = startedService.config.name ∧
          startedService.IsHandler (parts.handlers service))
      listener.services started

section Start

variable {services : List ServiceConfig}
variable {started : AList fun _ : String => StartedHttpService}
variable {service : StartedHttpService}

/-- A service is started with its configuration. -/
theorem config_of_newHttpService
    {config : ServiceConfig}
    (isStarted : newHttpService config = .ok service) :
    service.config = config := by
  unfold newHttpService at isStarted
  split at isStarted
  · cases isStarted
    rfl
  · split at isStarted
    · cases isStarted
      rfl
    · cases isStarted

/-- A service that is found by a name was started from one of that name. -/
theorem started_of_lookup
    {name : String}
    (areStarted : httpServices services = .ok started)
    (found : started.lookup name = some service) :
    service.config.name = name ∧
      service.config ∈ services ∧
      newHttpService service.config = .ok service := by
  obtain ⟨list, isList, isIndex⟩ := bind_eq_ok_iff.mp areStarted
  cases isIndex
  rw [lookup_foldl_enter] at found
  have isNamed : name = service.config.name := by
    simpa using List.find?_some found
  have inList : service ∈ list :=
    List.mem_reverse.mp (List.mem_of_find?_eq_some found)
  obtain ⟨config, inFilter, isStarted⟩ :=
    RelatedLists.exists_of_mem_right (callEach_eq_ok_iff.mp isList) inList
  obtain rfl := config_of_newHttpService isStarted
  exact ⟨isNamed.symm, (List.mem_filter.mp inFilter).1, isStarted⟩

/-- A listener is started with the services that it names. -/
theorem lookup_of_newListener
    {tcpServices : AList fun _ : String => ServiceConfig}
    {config listenerConfig : ListenerConfig}
    {services : List StartedHttpService}
    (isStarted :
      newListener tcpServices started config =
        .ok (.http listenerConfig services)) :
    listenerConfig = config ∧
      ∀ service ∈ services,
        ∃ name ∈ config.services, started.lookup name = some service := by
  unfold newListener at isStarted
  split at isStarted
  · obtain ⟨_, _, rest⟩ := bind_eq_ok_iff.mp isStarted
    obtain ⟨_, _, isTcp⟩ := bind_eq_ok_iff.mp rest
    cases isTcp
  · obtain ⟨found, areFound, isHttp⟩ := bind_eq_ok_iff.mp isStarted
    cases isHttp
    refine ⟨rfl, fun service member => ?_⟩
    obtain ⟨name, isName, isFound⟩ :=
      RelatedLists.exists_of_mem_right (callEach_eq_ok_iff.mp areFound) member
    exact ⟨name, isName, expect_eq_ok_iff.mp isFound⟩

/-- The services of a started listener are configured for it. -/
theorem configured_of_main
    {Expression : Type}
    {env : StartEnvironment}
    {config : Config Expression}
    {listeners : List StartedListener}
    {listenerConfig : ListenerConfig}
    {services : List StartedHttpService}
    (isStarted : main env config = .ok listeners)
    (isListener : .http listenerConfig services ∈ listeners) :
    listenerConfig ∈ config.listeners ∧
      ∀ service ∈ services,
        service.config.name ∈ listenerConfig.services ∧
          service.config ∈ config.services ∧
          newHttpService service.config = .ok service := by
  obtain ⟨_, _, serverStarted⟩ := bind_eq_ok_iff.mp isStarted
  obtain ⟨_, _, afterRegistry⟩ := bind_eq_ok_iff.mp serverStarted
  obtain ⟨_, _, afterGeoip⟩ := bind_eq_ok_iff.mp afterRegistry
  obtain ⟨_, _, afterCaptcha⟩ := bind_eq_ok_iff.mp afterGeoip
  obtain ⟨_, _, afterLists⟩ := bind_eq_ok_iff.mp afterCaptcha
  obtain ⟨started, areStarted, afterServices⟩ := bind_eq_ok_iff.mp afterLists
  obtain ⟨_, _, listenersStarted⟩ := bind_eq_ok_iff.mp afterServices
  obtain ⟨written, isWritten, listenerStarted⟩ :=
    RelatedLists.exists_of_mem_right (callEach_eq_ok_iff.mp listenersStarted)
      isListener
  obtain ⟨_, isNew, bound⟩ := bind_eq_ok_iff.mp listenerStarted
  obtain ⟨_, _, isSame⟩ := bind_eq_ok_iff.mp bound
  cases isSame
  obtain ⟨rfl, areFound⟩ := lookup_of_newListener isNew
  refine ⟨isWritten, fun service member => ?_⟩
  obtain ⟨name, isName, found⟩ := areFound service member
  obtain ⟨rfl, inServices, isOk⟩ := started_of_lookup areStarted found
  exact ⟨isName, inServices, isOk⟩

end Start

section Run

variable {Expression Context Value : Type}
variable {parts : ServerParts Expression Context Value}
variable {env : StartEnvironment}
variable {config : Config Expression}
variable {listeners : List StartedListener}
variable {listenerConfig : ListenerConfig}
variable {services : List StartedHttpService}
variable {listener : HttpListener Expression Value}

/-- The service of a listener was started from one that it names. -/
theorem exists_started_of_mem
    {service : HttpService Expression}
    (isStarted : main env config = .ok listeners)
    (inListeners : .http listenerConfig services ∈ listeners)
    (isListener : IsListener parts config listenerConfig services listener)
    (isService : service ∈ listener.services) :
    ∃ written ∈ config.services,
      written.name ∈ listenerConfig.services ∧
        ∃ started, newHttpService written = .ok started ∧
          started.config = written ∧
          started.IsHandler (parts.handlers service) := by
  obtain ⟨started, inServices, _, isHandler⟩ :=
    RelatedLists.exists_of_mem_left isListener.areServices isService
  obtain ⟨isNamed, isWritten, isOk⟩ :=
    (configured_of_main isStarted inListeners).2 started inServices
  exact ⟨started.config, isWritten, isNamed, started, isOk, rfl, isHandler⟩

/--
In every run of a server that was started from a configuration: what is sent to
an upstream for a client of a listener is sent to a known upstream of a proxied
service that is configured for this listener, and a file that is accessed for it
is one that is looked up under the root of a static site that is.
-/
theorem configured_of_run
    {discoverers : Discoverers config.services}
    {events : List (ServerEvent Expression Value)}
    {finish : ServerPool Expression}
    {index : Nat}
    {arrival : Arrival Expression Value}
    (isStarted : main env config = .ok listeners)
    (inListeners : .http listenerConfig services ∈ listeners)
    (isListener :
      IsListener parts config listenerConfig services arrival.listener)
    (run :
      Run (ServerStep parts discoverers) (.initial (.initial config.services))
        events finish)
    (started : .start index (.request arrival) ∈ events) :
    (∀ sent reply,
      ⟨.proxy (.http (.request sent)), reply⟩ ∈ exchangesOf index events →
        ∃ service ∈ config.services, ∃ upstream record,
          service.name ∈ listenerConfig.services ∧
            service.httpProxy.isSome = true ∧ service.static = none ∧
            KnownUpstream discoverers finish.shared.history service.name
              upstream ∧
            parts.SendsFor arrival record upstream sent) ∧
      ∀ access reply,
        ⟨.file access, reply⟩ ∈ exchangesOf index events →
          ∃ service ∈ config.services, ∃ site,
            service.name ∈ listenerConfig.services ∧
              service.static = some site ∧
              StaticSiteService.MayAccess ⟨site⟩ arrival.req access := by
  constructor
  · intro sent reply isSent
    obtain ⟨earlier, later, split⟩ := List.append_of_mem isSent
    obtain ⟨service, proxy, upstream, handedOver, isProxy, known, sends⟩ :=
      sendsFor_of_run run started split
    obtain ⟨written, isWritten, isNamed, startedService, isOk, rfl,
        isHandler⟩ :=
      exists_started_of_mem isStarted inListeners isListener
        handedOver.isService
    rw [isProxy] at isHandler
    cases isHandler with
    | httpProxy proxied =>
        unfold newHttpService at isOk
        split at isOk
        · cases isOk
        · next notStatic =>
            split at isOk
            · next isProxied =>
                have isNone : proxied.static = none :=
                  Option.not_isSome_iff_eq_none.mp notStatic
                exact ⟨proxied, isWritten, upstream, _, isNamed, isProxied,
                  isNone, known, sends⟩
            · cases isOk
  · intro access reply isAccess
    obtain ⟨earlier, later, split⟩ := List.append_of_mem isAccess
    obtain ⟨service, site, handedOver, isSite, mayAccess⟩ :=
      mayAccess_of_run run started split
    obtain ⟨written, isWritten, isNamed, startedService, isOk, rfl,
        isHandler⟩ :=
      exists_started_of_mem isStarted inListeners isListener
        handedOver.isService
    rw [isSite] at isHandler
    cases isHandler with
    | staticSite isStatic =>
        exact ⟨_, isWritten, _, isNamed, isStatic, mayAccess⟩

end Run

section Sample

private def servedListener : ListenerConfig where
  name :=
    "http"
  address :=
    ⟨.localhost, 80⟩
  protocol :=
    .http
  services :=
    ["api"]

private def servedConfig : Config Empty where
  listeners :=
    [servedListener]
  services :=
    servedServices
  rules :=
    [servedRule]
  tls :=
    ⟨none⟩
  childProcess :=
    none
  limiterWorkers :=
    [⟨2, 1, 8⟩]

/-- A request that the limiter lets go on is sent for the configured service. -/
theorem configured_of_run_sample :
    ∃ finish,
      Run (ServerStep (servedParts (.httpProxy ⟨"api"⟩)) servedDiscoverers)
          (.initial (.initial servedServices)) (servedEvents servedLog)
          finish ∧
        (servedProbe ∈ servedLog ∧
          ⟨.proxy (.http (.request servedSent)), .error ()⟩ ∈ servedLog) ∧
        ∃ service ∈ servedServices, ∃ upstream record,
          service.name ∈ ["api"] ∧
            KnownUpstream servedDiscoverers finish.shared.history service.name
              upstream ∧
            (servedParts (.httpProxy ⟨"api"⟩)).SendsFor servedArrival record
              upstream servedSent := by
  have isStarted :
      main untroubledEnvironment servedConfig =
        .ok [.http servedListener [.httpProxy servedProxy]] :=
    rfl
  have isListener :
      IsListener (servedParts (.httpProxy ⟨"api"⟩)) servedConfig servedListener
        [.httpProxy servedProxy] servedArrival.listener :=
    ⟨rfl, rfl, rfl, .cons ⟨rfl, .httpProxy servedProxy⟩ .nil⟩
  obtain ⟨finish, run⟩ := run_servedLog
  obtain ⟨sends, _⟩ :=
    @configured_of_run _ _ _ _ _ servedConfig _ _ _ servedDiscoverers _ _ 0 _
      isStarted (List.mem_singleton_self _) isListener run List.mem_cons_self
  have isSent :
      ⟨.proxy (.http (.request servedSent)), .error ()⟩ ∈ servedLog :=
    List.mem_of_getElem? (i := 3) rfl
  obtain ⟨service, isService, upstream, record, isNamed, _, _, known, sent⟩ :=
    sends servedSent (.error ()) isSent
  exact ⟨finish, run, ⟨List.mem_cons_self, isSent⟩, service, isService,
    upstream, record, isNamed, known, sent⟩

end Sample

end Pingoo
