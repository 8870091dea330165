import Pingoo.ConfigLoad
import Pingoo.Library.KeyedFold

namespace Pingoo

/-!
# Starting the server

The start-up code looks the services of the listeners up by name and takes the
first word of the command of the child process.  It does so with assertions, and
relies on the validation of the configuration for them.
-/

open Fallible KeyedFold

/-- What the start-up asks of its environment; each of it may fail. -/
structure StartEnvironment where
  spawn : List String → Except String Unit
  serviceRegistry : Except Error Unit
  geoipDb : Except Error Unit
  captchaManager : Except Error Unit
  lists : Except Error Unit
  tlsManager : Except Error Unit
  bind : ListenerConfig → Except Error Unit

/-- A service for HTTP listeners, of either kind. -/
inductive StartedHttpService where
  | staticSite (config : ServiceConfig)
  | httpProxy (config : ServiceConfig)
  deriving DecidableEq

/-- The configuration of a started service. -/
def StartedHttpService.config : StartedHttpService → ServiceConfig
  | .staticSite config =>
      config
  | .httpProxy config =>
      config

/-- A listener with the services it was started with. -/
inductive StartedListener where
  | tcp (config : ListenerConfig) (service : ServiceConfig)
  | http (config : ListenerConfig) (services : List StartedHttpService)
  deriving DecidableEq

/-- A step of the start-up: it may report an error, or panic. -/
abbrev Start (α : Type) := Except (Failure Error) α

/-- `new_http_service`. -/
def newHttpService (config : ServiceConfig) : Start StartedHttpService :=
  if config.static.isSome then
    .ok (.staticSite config)
  else if config.httpProxy.isSome then
    .ok (.httpProxy config)
  else
    .error .panic

/-- The services of TCP listeners, by name. -/
def tcpServices
    (services : List ServiceConfig) : AList fun _ : String => ServiceConfig :=
  (services.filter fun config => config.tcpProxy.isSome).foldl
    (enter fun config => [config.name]) ∅

/-- The services of HTTP listeners, by name. -/
def httpServices
    (services : List ServiceConfig) :
    Start (AList fun _ : String => StartedHttpService) := do
  let started ←
    callEach newHttpService (services.filter ServiceConfig.isHttp)
  .ok (started.foldl (enter fun service => [service.config.name]) ∅)

/-- Build a listener from its configuration. -/
def newListener
    (tcpServices : AList fun _ : String => ServiceConfig)
    (httpServices : AList fun _ : String => StartedHttpService)
    (config : ListenerConfig) : Start StartedListener :=
  if config.protocol.isTcp then do
    let name ← expect config.services.head?
    let service ← expect (tcpServices.lookup name)
    .ok (.tcp config service)
  else do
    let services ←
      callEach (fun name => expect (httpServices.lookup name)) config.services
    .ok (.http config services)

/-- Build a listener and bind it. -/
def startListener
    (env : StartEnvironment)
    (tcpServices : AList fun _ : String => ServiceConfig)
    (httpServices : AList fun _ : String => StartedHttpService)
    (config : ListenerConfig) : Start StartedListener := do
  let listener ← newListener tcpServices httpServices config
  let () ← attempt (env.bind config)
  .ok listener

variable {Expression : Type}

/-- `Server::run`, until its listeners are started. -/
def serverRun
    (env : StartEnvironment)
    (config : Config Expression) : Start (List StartedListener) := do
  let () ← attempt env.serviceRegistry
  let () ← attempt env.geoipDb
  let () ← attempt env.captchaManager
  let () ← attempt env.lists
  let tcpServices := tcpServices config.services
  let httpServices ← httpServices config.services
  let () ← attempt env.tlsManager
  callEach (startListener env tcpServices httpServices) config.listeners

/-- Start the child process, if there is one. -/
def startChildProcess
    (env : StartEnvironment) : Option ChildProcess → Start Unit
  | none =>
      .ok ()
  | some child => do
      let program ← expect child.command.head?
      attempt ((env.spawn (program :: child.command.tail)).mapError fun err =>
        .unspecified
          s!"error starting child process ({child.command}): {err}")

/-- `main`, from a configuration that was accepted. -/
def main
    (env : StartEnvironment)
    (config : Config Expression) : Start (List StartedListener) := do
  startChildProcess env config.childProcess
  serverRun env config

end Pingoo
