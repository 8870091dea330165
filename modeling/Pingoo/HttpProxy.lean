import Pingoo.Config
import Pingoo.HttpUtils
import Pingoo.Library.Interaction

namespace Pingoo

/-!
# HTTP proxy

The proxy service forwards a request to one of its upstreams.  It drops the
hop-by-hop headers, tells the upstream who the client is, and drops some headers
of the answer.  The handler is a program whose queries are the look-up of the
upstreams, the random choice of one and the request to it.
-/

open Interaction

/-- `HOP_HEADERS`. -/
def hopHeaders : List Str :=
  ["Connection".toList,
    "Proxy-Connection".toList,
    "Keep-Alive".toList,
    "Proxy-Authenticate".toList,
    "Proxy-Authorization".toList,
    "Te".toList,
    "Trailer".toList,
    "Transfer-Encoding".toList,
    "Upgrade".toList]

/-- `REPONSE_HEADERS_TO_REEMOVE`. -/
def responseHeadersToRemove : List Str :=
  ["X-Accel-Buffering".toList,
    "X-Accel-Charset".toList,
    "X-Accel-Limit-Rate".toList,
    "X-Accel-Redirect".toList,
    "Alt-Svc".toList]

namespace HeaderName

def xForwardedHost : HeaderName :=
  ⟨"x-forwarded-host".toList, by decide, by decide⟩

def xForwardedFor : HeaderName :=
  ⟨"x-forwarded-for".toList, by decide, by decide⟩

def xForwardedProto : HeaderName :=
  ⟨"x-forwarded-proto".toList, by decide, by decide⟩

def pingooClientIp : HeaderName :=
  ⟨"pingoo-client-ip".toList, by decide, by decide⟩

def pingooClientCountry : HeaderName :=
  ⟨"pingoo-client-country".toList, by decide, by decide⟩

def pingooClientAsn : HeaderName :=
  ⟨"pingoo-client-asn".toList, by decide, by decide⟩

end HeaderName

/-- Remove the headers of a list of names given as texts. -/
def HeaderMap.removeStrs (headers : HeaderMap) (names : List Str) : HeaderMap :=
  headers.removeAll (names.filterMap HeaderName.parse)

/-- Insert a header whose text is a header value, and nothing otherwise. -/
def HeaderMap.insertStr
    (headers : HeaderMap)
    (name : HeaderName)
    (text : Str) : HeaderMap :=
  match HeaderValue.fromStr text with
  | some value => headers.insert name value
  | none => headers

/-- The host of the client's request, under both of its names. -/
def forwardHost (ctx : RequestContext) (headers : HeaderMap) : HeaderMap :=
  match HeaderValue.fromStr ctx.host.text with
  | some hostHeader =>
      (headers.insert .host hostHeader).insert .xForwardedHost hostHeader
  | none => headers

/-- The value of `x-forwarded-for`: what the client sent, and its address. -/
def forwardedForToUpstream (clientIp : Str) (headers : HeaderMap) : Str :=
  let fromClient :=
    (headers.getAll .xForwardedFor).map fun value => value.toStr.getD []
  if fromClient = [] then
    clientIp
  else
    ", ".toList.intercalate fromClient ++ (", ".toList ++ clientIp)

def forwardFor (ctx : RequestContext) (headers : HeaderMap) : HeaderMap :=
  headers.insertStr .xForwardedFor
    (forwardedForToUpstream ctx.clientAddress.ip.toStr headers)

/-- The scheme of the client's request. -/
def forwardedProto (ctx : RequestContext) : Str :=
  if ctx.tls then "https".toList else "http".toList

def forwardProto (ctx : RequestContext) (headers : HeaderMap) : HeaderMap :=
  headers.insertStr .xForwardedProto (forwardedProto ctx)

def forwardClientIp (ctx : RequestContext) (headers : HeaderMap) : HeaderMap :=
  headers.insertStr .pingooClientIp ctx.clientAddress.ip.toStr

/-- The country and the autonomous system, when geoip is enabled. -/
def forwardGeoip (ctx : RequestContext) (headers : HeaderMap) : HeaderMap :=
  if ctx.geoipEnabled then
    (headers.insertStr .pingooClientCountry ctx.country.asStr).insertStr
      .pingooClientAsn (Str.decimal ctx.asn.toNat)
  else
    headers

/-- The headers of the request that is sent to the upstream. -/
def forwardHeaders (ctx : RequestContext) (headers : HeaderMap) : HeaderMap :=
  forwardGeoip ctx (forwardClientIp ctx (forwardProto ctx (forwardFor ctx
    (forwardHost ctx (headers.removeStrs hopHeaders)))))

/-- The text of the upstream's URI. -/
def upstreamUri (upstream : Upstream) (uri : Uri) : Str :=
  let pathAndQuery := (uri.pathAndQuery.map PathAndQuery.asStr).getD ['/']
  if upstream.tls then
    "https://".toList ++ upstream.hostname.toList ++ pathAndQuery
  else
    "http://".toList ++ upstream.socketAddress.toStr ++ pathAndQuery

/-- What the handler asks its environment. -/
inductive ProxyQuery where
  | getUpstreams (service : String)
  | choose (upstreams : List Upstream)
  | request (req : Request)
  deriving DecidableEq

/-- The answers: `choose` picks from a list that is not empty. -/
@[reducible] def ProxyQuery.Answer : ProxyQuery → Type
  | .getUpstreams _ =>
      List Upstream
  | .choose upstreams =>
      Option { upstream // upstream ∈ upstreams }
  | .request _ =>
      Except Unit Response

/-- A program of the proxy; its value is `none` when it panics. -/
abbrev ProxyProgram := Program ProxyQuery ProxyQuery.Answer

/-- `ServiceRegistry::get_upstreams`. -/
def getUpstreams (service : String) : ProxyProgram (List Upstream) :=
  Program.request (ProxyQuery.getUpstreams service)

/-- `IndexedRandom::choose`. -/
def chooseUpstream (upstreams : List Upstream) :
    ProxyProgram (Option { upstream // upstream ∈ upstreams }) :=
  Program.request (ProxyQuery.choose upstreams)

/-- `Client::request`. -/
def clientRequest (req : Request) : ProxyProgram (Except Unit Response) :=
  Program.request (ProxyQuery.request req)

/-- The answer of an upstream as it is sent back to the client. -/
def returnResponse (res : Response) : Response :=
  { res with
    headers :=
      (HeaderMap.removeStrs res.headers responseHeadersToRemove).insertStr
        .server "pingoo".toList }

structure HttpProxyService where
  name : String
  deriving Repr, DecidableEq

section

-- `str::parse::<Uri>`
variable (parseUri : Str → Option Uri)

/-- The request that is sent to an upstream; `none` when the URI is not one. -/
def forwardRequest
    (upstream : Upstream)
    (ctx : RequestContext)
    (req : Request) : Option Request :=
  match parseUri (upstreamUri upstream req.uri) with
  | none => none
  | some uri =>
      some { req with
        uri := uri
        version := if upstream.tls then .http2 else .http11
        headers := forwardHeaders ctx req.headers }

/-- `HttpProxyService::handle_http_request`. -/
def HttpProxyService.handleHttpRequest
    (service : HttpProxyService)
    (req : Request) : ProxyProgram (Option Response) := do
  let upstreams ← getUpstreams service.name
  if upstreams = [] then
    pure (some newBadGatewayError)
  else
    match req.extension with
    | none => pure none
    | some ctx =>
        match ← chooseUpstream upstreams with
        | none => pure none
        | some upstream =>
            match forwardRequest parseUri upstream.val ctx req with
            | none => pure none
            | some forwarded =>
                match ← clientRequest forwarded with
                | .error _ => pure (some newBadGatewayError)
                | .ok res => pure (some (returnResponse res))

end

end Pingoo
