import Pingoo.Captcha
import Pingoo.CaptchaApi
import Pingoo.CaptchaClientBinding
import Pingoo.CaptchaClientId
import Pingoo.CaptchaEncoding
import Pingoo.CaptchaEnforcement
import Pingoo.CaptchaGate
import Pingoo.CaptchaKeys
import Pingoo.CaptchaOwnCookies
import Pingoo.CaptchaRequests
import Pingoo.CaptchaRestart
import Pingoo.CaptchaSession
import Pingoo.CaptchaTokens
import Pingoo.Clock
import Pingoo.Config
import Pingoo.ConfigAccepted
import Pingoo.ConfigFile
import Pingoo.ConfigLoad
import Pingoo.ConfigRules
import Pingoo.ConfigRulesKept
import Pingoo.Dns
import Pingoo.Docker.Client
import Pingoo.Docker.Discovery
import Pingoo.Docker.Recovery
import Pingoo.Geoip
import Pingoo.GeoipDatabase
import Pingoo.GeoipSharing
import Pingoo.Http
import Pingoo.HttpCookies
import Pingoo.HttpHost
import Pingoo.HttpListener
import Pingoo.HttpListenerLogs
import Pingoo.HttpPipeline
import Pingoo.HttpProxy
import Pingoo.HttpProxyForwarded
import Pingoo.HttpProxyHeaders
import Pingoo.HttpUtils
import Pingoo.IpUpstreams
import Pingoo.Jwt.Claims
import Pingoo.Jwt.Json
import Pingoo.Jwt.JwkJson
import Pingoo.Jwt.Key
import Pingoo.Jwt.KeyAlgorithm
import Pingoo.Jwt.KeyConversion
import Pingoo.Jwt.SerdeTable
import Pingoo.Jwt.Token
import Pingoo.Jwt.TokenAccepted
import Pingoo.Jwt.TokenRoundTrip
import Pingoo.Jwt.TokenSigned
import Pingoo.Jwt.TokenSound
import Pingoo.Jwt.TokenWindow
import Pingoo.Library.Base64
import Pingoo.Library.Base64Engine
import Pingoo.Library.Calendar
import Pingoo.Library.Fallible
import Pingoo.Library.FieldMap
import Pingoo.Library.FirstMatch
import Pingoo.Library.Glob
import Pingoo.Library.Implementation
import Pingoo.Library.IndexMap
import Pingoo.Library.Interaction
import Pingoo.Library.Interruption
import Pingoo.Library.KeyedFold
import Pingoo.Library.ProgramLogs
import Pingoo.Library.ProgramPool
import Pingoo.Library.ProgramStops
import Pingoo.Library.Publication
import Pingoo.Library.RelatedLists
import Pingoo.Library.RequestReply
import Pingoo.Library.Separated
import Pingoo.Library.SlidingWindow
import Pingoo.Library.SpacedWindows
import Pingoo.Library.StepRun
import Pingoo.Library.Transition
import Pingoo.Library.UnixPath
import Pingoo.Library.UriReference
import Pingoo.Library.UriText
import Pingoo.ListenerAddress
import Pingoo.Listeners.AcceptLoop
import Pingoo.Listeners.GracefulShutdown
import Pingoo.Listeners.HandshakeBlocking
import Pingoo.Listeners.TcpListener
import Pingoo.Listeners.TlsHandshake
import Pingoo.Net
import Pingoo.NetLiteral
import Pingoo.NetParse
import Pingoo.ProofOfWork
import Pingoo.ProxyContacts
import Pingoo.ProxyTarget
import Pingoo.ProxyUri
import Pingoo.RateLimiter
import Pingoo.RateLimiterBound
import Pingoo.RateLimiterCapacity
import Pingoo.RateLimiterEnforcement
import Pingoo.RateLimiterEstimate
import Pingoo.RateLimiterProtocol
import Pingoo.RateLimiterRefinement
import Pingoo.RateLimiterRefusals
import Pingoo.Retry
import Pingoo.Rules
import Pingoo.ServerIsolation
import Pingoo.ServerRequests
import Pingoo.ServerResponses
import Pingoo.ServerStart
import Pingoo.ServerStartAssertions
import Pingoo.ServiceRegistry
import Pingoo.ServiceRegistryAgreement
import Pingoo.ServiceRegistryConvergence
import Pingoo.ServiceRegistryReads
import Pingoo.StaticSite
import Pingoo.StaticSiteConditional
import Pingoo.StaticSiteContainment
import Pingoo.StaticSiteFreshness
import Pingoo.StaticSitePath
import Pingoo.StaticSiteSharing
import Pingoo.StaticSiteVersions
import Pingoo.TcpProxy
import Pingoo.Text
import Pingoo.Tls.AcmeAccounts
import Pingoo.Tls.AcmeConfig
import Pingoo.Tls.AcmeManager
import Pingoo.Tls.AcmeOrders
import Pingoo.Tls.AcmeRenewal
import Pingoo.Tls.Certificate
import Pingoo.Tls.DefaultCertificate
import Pingoo.Tls.FileNames
import Pingoo.Tls.Manager
import Pingoo.Tls.Restart
import Pingoo.Tls.SaveInterrupted
import Pingoo.Tls.Saving
import Pingoo.Tls.Selection
import Pingoo.Tls.SelfSigned
import Pingoo.Tls.ServerName
import Pingoo.UpstreamDiscovery
import Pingoo.UpstreamSources
