import Pingoo.Net

namespace Pingoo

/-!
# Configuration

The validated configuration as the services and the service discovery read it.
-/

/-- The errors of the proxy. -/
inductive Error where
  | config (message : String)
  | unspecified (message : String)
  | tls (message : String)
  | io (message : String)
  deriving Repr, DecidableEq

/-- A server that requests or connections are forwarded to. -/
structure Upstream where
  socketAddress : SocketAddr
  hostname : String
  tls : Bool
  deriving Repr, DecidableEq

/-- An upstream as it is written in the configuration. -/
inductive UpstreamConfig where
  | ipAddress (upstream : Upstream)
  | domain (hostname : String) (tls : Bool) (port : UInt16)
  deriving Repr, DecidableEq

/-- The configuration of a static site. -/
structure StaticSiteServiceConfig where
  root : Str
  deriving Repr, DecidableEq

/-- The configuration of one service. -/
structure ServiceConfig where
  name : String
  httpProxy : Option (List UpstreamConfig)
  static : Option StaticSiteServiceConfig
  tcpProxy : Option (List UpstreamConfig)
  deriving Repr, DecidableEq

end Pingoo
