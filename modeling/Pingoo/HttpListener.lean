import Pingoo.CaptchaClientId
import Pingoo.Library.Interaction
import Pingoo.Rules

namespace Pingoo

/-!
# HTTP listener

The handler of a request: find out who the client is, block clients without a
user agent, hand the captcha's own requests to the captcha manager, apply the
rules and give the request to a service.  It is a program whose queries are the
calls to what it does not own: the geoip database, the captcha manager, the
limiters and the services.
-/

open Interaction

/-- A cookie of a request. -/
structure Cookie where
  name : Str
  value : Str
  deriving Repr, DecidableEq

/-- What becomes of a probe that is sent to a limiter. -/
inductive ProbeReply where
  | notSent
  | notReceived
  | received (result : Except Unit Bool)
  deriving DecidableEq

/-- A call of the handler. -/
inductive ListenerQuery (Expression : Type) where
  | geoipLookup (ip : IpAddr)
  | validateCaptchaVerifiedCookie (cookie clientId : Str)
  | serveCaptchaRequest (req : Request) (cookies : List Cookie) (clientId : Str)
  | probe (limiter : ProbeSender) (ip : IpAddr)
  | handle (service : HttpService Expression) (req : Request)

@[reducible] def ListenerQuery.Answer {Expression : Type} :
    ListenerQuery Expression → Type
  | .geoipLookup _ =>
      Except Unit GeoipRecord
  | .validateCaptchaVerifiedCookie _ _ =>
      Except Unit Unit
  | .serveCaptchaRequest _ _ _ =>
      Response
  | .probe _ _ =>
      ProbeReply
  | .handle _ _ =>
      Response

/-- A listener: where it listens, and what it was configured with. -/
structure HttpListener (Expression Value : Type) where
  address : SocketAddr
  services : List (HttpService Expression)
  rules : List (Rule Expression)
  lists : Value
  geoip : Bool
  useTls : Bool

/-- `get_host`. -/
def getHost (req : Request) : HeaplessString hostnameMaxLength :=
  match req.uri.host with
  | some host => .fromStrOrDefault host.trim
  | none =>
      match req.headers.get .host with
      | some host => .fromStrOrDefault (Str.trim (host.toStr.getD []))
      | none => .new

/-- A host is visible text, wherever it is read from. -/
theorem isVisibleAscii_getHost (req : Request) :
    ∀ character ∈ (getHost req).text, isVisibleAscii character = true := by
  intro character member
  unfold getHost at member
  split at member
  · next host found =>
      exact req.uri.hostVisible host found character
        (Str.trim_subset host
          (HeaplessString.fromStrOrDefault_subset _ member))
  · split at member
    · next header _ =>
        have inHeader := Str.trim_subset _
          (HeaplessString.fromStrOrDefault_subset _ member)
        cases read : header.toStr with
        | none =>
            simp [read] at inHeader
        | some text =>
            rw [read] at inHeader
            exact HeaderValue.isVisibleAscii_of_toStr read character inHeader
    · cases member

/-- The user agent the handler works with. -/
def getUserAgent (req : Request) : HeaplessString userAgentMaxLength :=
  .fromStrOrDefault
    (((req.headers.get .userAgent).map fun header =>
      Str.trim (header.toStr.getD [])).getD [])

section

variable {Expression Context Value : Type}
variable (language : ExpressionLanguage Expression Context Value)

-- `Cookie::split_parse`, and the page that `serve_captcha` reads
variable (splitParse : Str → List (Except Unit Cookie))
variable (captchaPage : Response) (sha256 : Sha256)

/-- A program of the listener. -/
abbrev ListenerProgram (Expression : Type) :=
  Program (ListenerQuery Expression) ListenerQuery.Answer

/-- `GeoipDB::lookup`. -/
def geoipLookup (ip : IpAddr) :
    ListenerProgram Expression (Except Unit GeoipRecord) :=
  Program.request (ListenerQuery.geoipLookup ip)

/-- `CaptchaManager::validate_captcha_verified_cookie`. -/
def validateCookie (cookie clientId : Str) :
    ListenerProgram Expression (Except Unit Unit) :=
  Program.request (ListenerQuery.validateCaptchaVerifiedCookie cookie clientId)

/-- `CaptchaManager::serve_captcha_request`. -/
def captchaRequest (req : Request) (cookies : List Cookie) (clientId : Str) :
    ListenerProgram Expression Response :=
  Program.request (ListenerQuery.serveCaptchaRequest req cookies clientId)

/-- Send a probe to a limiter and wait for its reply. -/
def probe (limiter : ProbeSender) (ip : IpAddr) :
    ListenerProgram Expression ProbeReply :=
  Program.request (ListenerQuery.probe limiter ip)

/-- `HttpService::handle_http_request`. -/
def handle (service : HttpService Expression) (req : Request) :
    ListenerProgram Expression Response :=
  Program.request (ListenerQuery.handle service req)

/-- The response to a probe, unless the request may go on. -/
def probeResponse : ProbeReply → Option Response
  | .notSent =>
      some newInternalErrorResponse500
  | .notReceived =>
      some newInternalErrorResponse500
  | .received (.error ()) =>
      some newServiceUnavailableError503
  | .received (.ok canResume) =>
      if !canResume then some newTooManyRequestsResponse429 else none

/-- `limit_http_request`. -/
def limitHttpRequest (ip : IpAddr) (limiter : ProbeSender) :
    ListenerProgram Expression (Option Response) := do
  let reply ← probe limiter ip
  pure (probeResponse reply)

/-- The cookies of the first `cookie` header. -/
def parseCookies (req : Request) : List Cookie :=
  match req.headers.get .cookie with
  | some header =>
      match header.toStr with
      | some text => (splitParse text).filterMap Except.toOption
      | none => []
  | none => []

/-- The record of the client's address, or the default one. -/
def clientGeoipRecord (geoip : Bool) (ip : IpAddr) :
    ListenerProgram Expression GeoipRecord :=
  if geoip then do
    match ← geoipLookup ip with
    | .ok record => pure record
    | .error _ => pure GeoipRecord.default
  else
    pure GeoipRecord.default

/-- The actions of one matching rule; a response ends the request. -/
def applyActions
    (captchaVerified : Bool)
    (ip : IpAddr)
    (rule : Rule Expression) :
    List Action → ListenerProgram Expression (Option Response)
  | [] =>
      pure none
  | .block :: _ =>
      pure (some newBlockedResponse)
  | .captcha :: rest =>
      if !captchaVerified then
        pure (some captchaPage)
      else
        applyActions captchaVerified ip rule rest
  | .limit :: rest =>
      match rule.limiterTx with
      | some limiter => do
          match ← limitHttpRequest ip limiter with
          | some res => pure (some res)
          | none => applyActions captchaVerified ip rule rest
      | none =>
          applyActions captchaVerified ip rule rest

/-- The rules in their order. -/
def applyRules
    (captchaVerified : Bool)
    (ip : IpAddr)
    (rulesCtx : Context) :
    List (Rule Expression) → ListenerProgram Expression (Option Response)
  | [] =>
      pure none
  | rule :: rest =>
      if rule.matchRequest language rulesCtx then do
        match ← applyActions captchaPage captchaVerified ip rule
            rule.actions with
        | some res => pure (some res)
        | none => applyRules captchaVerified ip rulesCtx rest
      else
        applyRules captchaVerified ip rulesCtx rest

/-- The first service whose route matches handles the request. -/
def routeRequest (rulesCtx : Context) (req : Request) :
    List (HttpService Expression) → ListenerProgram Expression Response
  | [] =>
      pure newNotFoundError
  | service :: rest =>
      if service.matchRequest language rulesCtx then
        handle service req
      else
        routeRequest rulesCtx req rest

/-- The context the handler attaches to a request. -/
def requestContext
    (listener : HttpListener Expression Value)
    (client : SocketAddr)
    (record : GeoipRecord)
    (req : Request) : RequestContext where
  clientAddress :=
    client
  serverAddress :=
    listener.address
  asn :=
    record.asn
  country :=
    record.country
  geoipEnabled :=
    listener.geoip
  tls :=
    listener.useTls
  host :=
    getHost req
  hostVisible :=
    isVisibleAscii_getHost req

/-- The context rules and routes are evaluated in. -/
def rulesContext
    (listener : HttpListener Expression Value)
    (client : SocketAddr)
    (record : GeoipRecord)
    (req : Request) : Context :=
  language.context
    { host := (getHost req).text
      url := req.uri
      path := getPath req
      method := req.method
      userAgent := (getUserAgent req).text }
    { ip := client.ip
      remotePort := Int32.ofNat client.port.toNat
      asn := Int64.ofNat record.asn.toNat
      country := record.country }
    listener.lists

/-- Apply the rules, and give what passes them to a service. -/
def applyRulesAndRoute
    (listener : HttpListener Expression Value)
    (client : SocketAddr)
    (rulesCtx : Context)
    (captchaVerified : Bool)
    (req : Request) : ListenerProgram Expression Response := do
  match ← applyRules language captchaPage captchaVerified client.ip rulesCtx
      listener.rules with
  | some res => pure res
  | none => routeRequest language rulesCtx req listener.services

/-- The handler of `serve_http_requests`. -/
def serveHttpRequest
    (listener : HttpListener Expression Value)
    (client : SocketAddr)
    (req : Request) : ListenerProgram Expression Response := do
  let record ← clientGeoipRecord listener.geoip client.ip
  let userAgent := getUserAgent req
  let clientId :=
    generateCaptchaClientId sha256 client.ip userAgent.text (getHost req).text
  let cookies := parseCookies splitParse req
  let rulesCtx := rulesContext language listener client record req
  let path := getPath req
  let req := { req with
    extension := some (requestContext listener client record req) }
  if userAgent.text = [] ∨ userAgentMaxLength ≤ userAgent.text.len then
    pure newBlockedResponse
  else if path.startsWith "/__pingoo/captcha".toList then
    captchaRequest req cookies clientId.text
  else
    match cookies.find? fun cookie => cookie.name = captchaVerifiedCookie with
    | some cookie =>
        match ← validateCookie cookie.value clientId.text with
        | .ok () =>
            applyRulesAndRoute language captchaPage listener client rulesCtx
              true req
        | .error () =>
            pure captchaPage
    | none =>
        applyRulesAndRoute language captchaPage listener client rulesCtx
          false req

end

end Pingoo
