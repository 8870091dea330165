import Pingoo.Config
import Pingoo.Library.IndexMap
import Pingoo.NetParse
import Pingoo.Rules

namespace Pingoo

/-!
# The configuration file

The configuration as it is written, and how a service and its upstreams are read
from it.
-/

open Fallible

/-- `ListenerProtocol`. -/
inductive ListenerProtocol where
  | tcp
  | tcpAndTls
  | http
  | https
  deriving Repr, DecidableEq

/-- `ListenerAddressConfigFile`. -/
structure ListenerAddressConfigFile where
  socketAddress : SocketAddr
  protocol : ListenerProtocol
  deriving Repr, DecidableEq

/-- `ListenerConfigFile`. -/
structure ListenerConfigFile where
  address : ListenerAddressConfigFile
  services : Option (List String)
  deriving Repr, DecidableEq

/-- `ServiceConfigFileStaticNotFound`. -/
structure ServiceConfigFileStaticNotFound where
  status : Nat
  deriving Repr, DecidableEq

/-- `ServiceConfigFileStatic`. -/
structure ServiceConfigFileStatic where
  root : Str
  notFound : ServiceConfigFileStaticNotFound
  deriving Repr, DecidableEq

/-- `ServiceConfigFile`. -/
structure ServiceConfigFile where
  route : Option String
  httpProxy : Option (List String)
  static : Option ServiceConfigFileStatic
  tcpProxy : Option (List String)
  deriving Repr, DecidableEq

/-- `RateLimit`. -/
structure RateLimit where
  max : UInt16
  window : UInt16
  capacity : Nat
  deriving Repr, DecidableEq

/-- `RuleConfigFile`. -/
structure RuleConfigFile where
  expression : Option String
  actions : List Action
  limit : Option RateLimit
  deriving Repr, DecidableEq

/-- `TlsAcmeConfig`. -/
structure TlsAcmeConfig where
  directoryUrl : Str
  domains : List Str
  deriving Repr, DecidableEq

/-- `TlsConfig`. -/
structure TlsConfig where
  acme : Option TlsAcmeConfig
  deriving Repr, DecidableEq

/-- `ChildProcess`. -/
structure ChildProcess where
  command : List String
  deriving Repr, DecidableEq

/-- `ConfigFile`. -/
structure ConfigFile where
  listeners : IndexMap String ListenerConfigFile
  services : IndexMap String ServiceConfigFile
  rules : IndexMap String RuleConfigFile
  tls : Option TlsConfig
  childProcess : Option ChildProcess

/-- What is read of a parsed `Url`. -/
structure Url where
  scheme : Str
  hostStr : Option Str
  port : Option UInt16
  deriving Repr, DecidableEq

/--
The libraries that a configuration is read with: the parser of URLs and the
compiler of expressions.
-/
structure ConfigLibrary (Expression : Type) where
  parseUrl : String → Except String Url
  compileExpression : String → Except String Expression

variable {Expression : Type} (library : ConfigLibrary Expression)

/-- The port of an upstream whose URL has none. -/
def defaultPort (protocol : Str) : Option UInt16 :=
  if protocol = "http".toList then
    some 80
  else if protocol = "https".toList then
    some 443
  else
    none

/-- `parse_upstream`. -/
def parseUpstream (upstreamStr : String) : Except Error UpstreamConfig := do
  let url ←
    (library.parseUrl upstreamStr).mapError fun err =>
      .config s!"{upstreamStr} is not a valid URL: {err}"
  let hostname := url.hostStr.getD []
  if hostname = [] then
    .error (.config s!"{upstreamStr} is not a valid URL: host is missing")
  else if hostname.any fun character => 128 ≤ character.toNat then
    .error (.config (s!"{upstreamStr} is not a valid URL: " ++
      "only ascii hostnames are currently supported"))
  else if url.scheme ∉ ["tcp".toList, "http".toList, "https".toList] then
    .error (.config (s!"{upstreamStr} is not a valid URL: " ++
      s!"{String.ofList url.scheme} is not a valid protocol"))
  else
    let port ←
      orError (.config s!"{upstreamStr} is not a valid URL: port is missing")
        (url.port.or (defaultPort url.scheme))
    let tls := decide (url.scheme = "https".toList)
    if hostname = "localhost".toList then
      .ok (.ipAddress ⟨⟨.localhost, port⟩, String.ofList hostname, tls⟩)
    else
      match IpAddr.parse hostname with
      | some ip =>
          .ok (.ipAddress ⟨⟨ip, port⟩, String.ofList hostname, tls⟩)
      | none =>
          .ok (.domain (String.ofList hostname) tls port)

/-- Read the upstreams of a list, one after the other. -/
def parseUpstreams : List String → Except Error (List UpstreamConfig)
  | [] =>
      .ok []
  | upstream :: rest => do
      let first ← parseUpstream library upstream
      let others ← parseUpstreams rest
      .ok (first :: others)

/-- Read the upstreams of a proxy, if there is one. -/
def parseProxy :
    Option (List String) → Except Error (Option (List UpstreamConfig))
  | none =>
      .ok none
  | some upstreams =>
      parseUpstreams library upstreams >>= fun parsed => .ok (some parsed)

/-- Read the configuration of a static site; its status must be a status. -/
def parseStatic
    (serviceName : String) :
    Option ServiceConfigFileStatic → Except Error (Option StaticSiteServiceConfig)
  | none =>
      .ok none
  | some static =>
      if 100 ≤ static.notFound.status ∧ static.notFound.status ≤ 999 then
        .ok (some ⟨static.root⟩)
      else
        .error (.config (s!"services.[{serviceName}].static.not_found.status" ++
          ": Not a valid HTTP status code"))

/-- Compile a route or the expression of a rule, if there is one. -/
def compileOptional : Option String → Except String (Option Expression)
  | none =>
      .ok none
  | some expression =>
      library.compileExpression expression >>= fun compiled =>
        .ok (some compiled)

/-- How many of the kinds of a service are given. -/
def ServiceConfigFile.kinds (service : ServiceConfigFile) : Nat :=
  [service.httpProxy.isSome, service.tcpProxy.isSome,
    service.static.isSome].countP id

/-- `parse_service`; the compiled route is not kept here. -/
def parseService
    (serviceName : String)
    (service : ServiceConfigFile) : Except Error ServiceConfig := do
  if service.kinds ≠ 1 then
    .error (.config (s!"invalid service definition for {serviceName}: " ++
      "services must have exactly 1 http_proxy, tcp_proxy or static field"))
  else
    let static ← parseStatic serviceName service.static
    let httpProxy ← parseProxy library service.httpProxy
    if service.tcpProxy.isSome && service.route.isSome then
      .error (.config (s!"Invalid service definition for {serviceName}: " ++
        "TCP proxy can't have a route"))
    else
      let tcpProxy ← parseProxy library service.tcpProxy
      let _ ←
        (compileOptional library service.route).mapError fun err =>
          Error.config
            s!"error parsing route for service {serviceName}: {err}"
      .ok ⟨serviceName, httpProxy, static, tcpProxy⟩

end Pingoo
