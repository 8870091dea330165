import Pingoo.HttpListenerLogs
import Pingoo.HttpProxyForwarded
import Pingoo.Library.Implementation
import Pingoo.ProxyContacts
import Pingoo.StaticSiteContainment

namespace Pingoo

open Interaction UnixPath
open Transition (Run)

/-!
# Requests through the whole server

A request that comes to a listener is given to a service, which reads the
registry and asks an upstream, or looks for a file.  The tasks of all requests
and of all TCP connections run side by side while the registry applies its
rounds.  Whatever a service does for a request, it does after the request got
past the rules, and what it sends to an upstream says who the client is.
-/

/-- The services that handle HTTP requests. -/
inductive HttpHandler where
  | httpProxy (service : HttpProxyService)
  | staticSite (site : StaticSiteService)

/--
What the tasks of the server ask.  A task that panics asks for an answer that
there is not.
-/
inductive ServerCall (Expression : Type) where
  | listener (asked : ListenerQuery Expression)
  | proxy (asked : ProxyCall)
  | file (access : FileAccess)
  | panicked

@[reducible] def ServerCall.Answer {Expression : Type} :
    ServerCall Expression → Type
  | .listener asked =>
      asked.Answer
  | .proxy asked =>
      asked.Answer
  | .file access =>
      access.Answer
  | .panicked =>
      Empty

abbrev ServerProgram (Expression : Type) :=
  Program (ServerCall Expression) ServerCall.Answer

/-- A call of a task with its answer. -/
abbrev ServerExchange (Expression : Type) :=
  AnsweredQuery (ServerCall Expression) ServerCall.Answer

/-- A request that is handled, or a connection that is served. -/
inductive ServerTask (Expression Value : Type) where
  | request (arrival : Arrival Expression Value)
  | connection (service : TcpProxyService)

/-- A response to a request, or the end of a connection's task. -/
abbrev ServerResult := Response ⊕ Unit

/-- What a server works with: its libraries, its page and its services. -/
structure ServerParts (Expression Context Value : Type) where
  language : ExpressionLanguage Expression Context Value
  splitParse : Str → List (Except Unit Cookie)
  captchaPage : Response
  sha256 : Sha256
  mimeFromExt : Str → Str
  parseUri : Str → Option Uri
  handlers : HttpService Expression → HttpHandler

section Code

variable {Expression Context Value : Type}
variable (parts : ServerParts Expression Context Value)

/-- `panic!`. -/
def panicked {α : Type} : ServerProgram Expression α :=
  .ask .panicked fun nothing => nothing.elim

/-- `HttpService::handle_http_request`. -/
def ServerParts.handleHttpRequest (req : Request) :
    HttpHandler → ServerProgram Expression Response
  | .httpProxy service => do
      match ← (service.handleHttpRequest parts.parseUri req).embed
          (fun asked => ServerCall.proxy (.http asked)) id with
      | some res => pure res
      | none => panicked
  | .staticSite site =>
      (site.handleHttpRequest parts.sha256 parts.mimeFromExt req).embed
        ServerCall.file id

/-- What carries out a call of a listener: a service handles its requests. -/
def ServerParts.carryOut :
    (asked : ListenerQuery Expression) → ServerProgram Expression asked.Answer
  | .handle service req =>
      parts.handleHttpRequest req (parts.handlers service)
  | asked =>
      Program.request (ServerCall.listener asked)

/-- The program of a task. -/
def ServerParts.code :
    ServerTask Expression Value → ServerProgram Expression ServerResult
  | .request arrival => do
      let res ←
        (serveArrival parts.language parts.splitParse parts.captchaPage
          parts.sha256 arrival).implement parts.carryOut
      pure (.inl res)
  | .connection service =>
      service.serveConnection.embed (fun asked => ServerCall.proxy (.tcp asked))
        .inr

end Code

section Logs

variable {Expression Context Value : Type}

/-- What a listener asked itself. -/
def ServerExchange.listened :
    ServerExchange Expression → Option (ListenerExchange Expression)
  | ⟨.listener asked, reply⟩ =>
      some ⟨asked, reply⟩
  | _ =>
      none

/-- What a proxy asked. -/
def ServerExchange.proxied : ServerExchange Expression → Option ProxyExchange
  | ⟨.proxy asked, reply⟩ =>
      some ⟨asked, reply⟩
  | _ =>
      none

/-- What the listener of a task asked. -/
def listenerLog (log : List (ServerExchange Expression)) :
    List (ListenerExchange Expression) :=
  log.filterMap ServerExchange.listened

/-- The record of the client, as far as a task knows. -/
def knownRecord (log : List (ServerExchange Expression)) : GeoipRecord :=
  loggedRecord (listenerLog log)

variable (parts : ServerParts Expression Context Value)
variable (arrival : Arrival Expression Value)
variable (log : List (ServerExchange Expression))

/-- A request got past the actions of all rules that match, to a service. -/
structure ServerParts.HandedOver (service : HttpService Expression) : Prop where
  isService : service ∈ arrival.listener.services
  gotPast :
    ∀ entry ∈ arrival.actions parts.language (knownRecord log),
      GotPast parts.sha256 arrival (listenerLog log) entry

/-- What is looked up for a path: the path itself, its index and its page. -/
def lookedUp (root urlPath : Str) : List Path :=
  [joined root urlPath,
    push (joined root urlPath) "index.html".toList,
    setExtension (joined root urlPath) "html".toList]

/-- What a site may access for a request. -/
structure StaticSiteService.MayAccess
    (site : StaticSiteService)
    (req : Request)
    (access : FileAccess) : Prop where
  isMethod : req.method = .get ∨ req.method = .head
  notRefused : isPathRefused (urlPath req) = false
  isPath : access.path ∈ lookedUp site.config.root (urlPath req)

/-- What a task may ask for a request, given what it was answered before. -/
def ServerParts.MayReach : ServerCall Expression → Prop
  | .listener _ =>
      True
  | .proxy asked =>
      ∃ service proxy,
        parts.HandedOver arrival log service ∧
          parts.handlers service = .httpProxy proxy ∧
          ReadBefore parts.parseUri
            (.http proxy (arrival.handed (knownRecord log)))
            (log.filterMap ServerExchange.proxied) asked
  | .file access =>
      ∃ service site,
        parts.HandedOver arrival log service ∧
          parts.handlers service = .staticSite site ∧
          site.MayAccess arrival.req access
  | .panicked =>
      True

end Logs

/-! ## What one task asks -/

section Listener

variable {Expression Context Value : Type}
variable {parts : ServerParts Expression Context Value}

/-- A call that a service carries out. -/
def ListenerQuery.isHandle : ListenerQuery Expression → Bool
  | .handle _ _ =>
      true
  | _ =>
      false

/-- Programs that ask nothing that a listener asks. -/
theorem listenerLog_map_embed
    {query : Type}
    {onQuery : query → ServerCall Expression}
    {own : List (AnsweredQuery query fun asked => (onQuery asked).Answer)}
    (never :
      ∀ made : AnsweredQuery query fun asked => (onQuery asked).Answer,
        ServerExchange.listened (made.embed onQuery) = none) :
    listenerLog (own.map (AnsweredQuery.embed onQuery)) = [] := by
  rw [listenerLog, List.filterMap_eq_nil_iff]
  intro made member
  obtain ⟨inner, _, rfl⟩ := List.mem_map.mp member
  exact never inner

/-- A service asks nothing that a listener asks. -/
theorem listenerLog_of_handled
    {handler : HttpHandler}
    {req : Request}
    {log : List (ServerExchange Expression)}
    {res : Response}
    (ends : Ends (parts.handleHttpRequest req handler) log res) :
    listenerLog log = [] := by
  cases handler with
  | httpProxy service =>
      obtain ⟨first, second, answered, rfl, endsFirst, endsSecond⟩ :=
        ends_bind_iff.mp ends
      obtain ⟨own, value, rfl, -, -⟩ := ends_embed_iff.mp endsFirst
      cases answered with
      | none =>
          obtain ⟨nothing, _⟩ := endsSecond
          exact nothing.elim
      | some response =>
          obtain ⟨rfl, rfl⟩ := ends_pure_iff.mp endsSecond
          rw [List.append_nil]
          exact listenerLog_map_embed fun _ => rfl
  | staticSite site =>
      obtain ⟨own, value, rfl, -, -⟩ := ends_embed_iff.mp ends
      exact listenerLog_map_embed fun _ => rfl

/-- The listener's own calls are left when its services handle requests. -/
theorem listenerLog_of_carriedOut
    {log : List (ListenerExchange Expression)}
    {serverLog : List (ServerExchange Expression)}
    (carriedOut : CarriedOut parts.carryOut log serverLog) :
    listenerLog serverLog = log.filter fun made => !made.asked.isHandle := by
  induction carriedOut with
  | nil =>
      rfl
  | @snoc log serverLog own asked reply _ ends inductionHypothesis =>
      have isOwn :
          listenerLog own =
            [⟨asked, reply⟩].filter fun made => !made.asked.isHandle := by
        cases asked with
        | handle service req =>
            exact listenerLog_of_handled ends
        | geoipLookup ip =>
            obtain ⟨_, _, rfl, rfl, rfl⟩ := ends
            rfl
        | validateCaptchaVerifiedCookie cookie clientId =>
            obtain ⟨_, _, rfl, rfl, rfl⟩ := ends
            rfl
        | serveCaptchaRequest req cookies clientId =>
            obtain ⟨_, _, rfl, rfl, rfl⟩ := ends
            rfl
        | probe limiter ip =>
            obtain ⟨_, _, rfl, rfl, rfl⟩ := ends
            rfl
      rw [listenerLog, List.filterMap_append, List.filter_append, ← isOwn,
        ← inductionHypothesis]
      rfl

/-- A task knows of its client what its listener knows. -/
theorem knownRecord_of_carriedOut
    {log : List (ListenerExchange Expression)}
    {serverLog : List (ServerExchange Expression)}
    (carriedOut : CarriedOut parts.carryOut log serverLog) :
    knownRecord serverLog = loggedRecord log := by
  have noRecord :
      (fun made : ListenerExchange Expression =>
          if (!made.asked.isHandle) = true then made.record else none) =
        ListenerExchange.record := by
    funext made
    obtain ⟨asked, reply⟩ := made
    cases asked <;> rfl
  rw [knownRecord, listenerLog_of_carriedOut carriedOut, loggedRecord,
    ← List.head?_filterMap, List.filterMap_filter, noRecord,
    List.head?_filterMap, loggedRecord]

end Listener

section Service

variable {Expression Context Value : Type}
variable {parts : ServerParts Expression Context Value}
variable {arrival : Arrival Expression Value}
variable {service : HttpService Expression}
variable {log own : List (ServerExchange Expression)}

/-- What a task knows of its client stays when its service asks something. -/
theorem knownRecord_append (nothing : listenerLog own = []) :
    knownRecord (log ++ own) = knownRecord log := by
  rw [listenerLog] at nothing
  rw [knownRecord, listenerLog, List.filterMap_append, nothing, List.append_nil]
  rfl

/-- A request that was handed over stays so when its service asks something. -/
theorem ServerParts.HandedOver.append
    (handedOver : parts.HandedOver arrival log service)
    (nothing : listenerLog own = []) :
    parts.HandedOver arrival (log ++ own) service := by
  refine ⟨handedOver.isService, ?_⟩
  rw [knownRecord_append nothing, listenerLog, List.filterMap_append,
    ← listenerLog, ← listenerLog, nothing, List.append_nil]
  exact handedOver.gotPast

/-- The handler of a listener gives a service what it may give it. -/
theorem handedOver_of_carriedOut
    {listenerLog : List (ListenerExchange Expression)}
    (carriedOut : CarriedOut parts.carryOut listenerLog log)
    (isService : service ∈ arrival.listener.services)
    (gotPast :
      ∀ entry ∈ arrival.actions parts.language (loggedRecord listenerLog),
        GotPast parts.sha256 arrival listenerLog entry) :
    parts.HandedOver arrival log service := by
  refine ⟨isService, fun entry member => ?_⟩
  rw [knownRecord_of_carriedOut carriedOut] at member
  obtain ⟨notBlock, captcha, limit⟩ := gotPast entry member
  rw [listenerLog_of_carriedOut carriedOut]
  refine ⟨notBlock, fun isCaptcha => ?_, fun limiter isLimiter => ?_⟩
  · obtain ⟨cookie, inLog⟩ := captcha isCaptcha
    exact ⟨cookie, List.mem_filter.mpr ⟨inLog, rfl⟩⟩
  · exact List.mem_filter.mpr ⟨limit limiter isLimiter, rfl⟩

/-- A path that is looked up is the only one that is asked for. -/
theorem asksAfter_tryMetadata
    {root urlPath : Str}
    {path : Path}
    {fileLog : List (AnsweredQuery FileAccess FileAccess.Answer)}
    (isPath : path ∈ lookedUp root urlPath) :
    AsksAfter (fun _ access => access.path ∈ lookedUp root urlPath) fileLog
      (tryMetadata path) := by
  refine AsksAfter.request_bind isPath fun reply => ?_
  cases reply with
  | ok metadata =>
      dsimp only
      split <;> trivial
  | error kind =>
      cases kind <;> trivial

/-- Looking for a file asks for what is looked up, and finds it there. -/
theorem asksAfter_locate (root urlPath : Str) :
    AsksAfter (fun _ access => access.path ∈ lookedUp root urlPath) []
      (locate root urlPath) := by
  refine AsksAfter.request_bind List.mem_cons_self fun reply => ?_
  cases reply with
  | ok metadata =>
      dsimp only
      split
      · refine (asksAfter_tryMetadata (by simp [lookedUp])).bind
          fun _ found _ => ?_
        cases found <;> trivial
      · trivial
  | error kind =>
      cases kind with
      | notFound =>
          dsimp only
          split
          · trivial
          · refine (asksAfter_tryMetadata (by simp [lookedUp])).bind
              fun _ found _ => ?_
            cases found <;> trivial
      | other =>
          trivial

/-- A file that is found was looked up. -/
theorem returns_lookedUp (root urlPath : Str) :
    (locate root urlPath).Returns fun located =>
      ∀ file, located = .ok file → file.1 ∈ lookedUp root urlPath := by
  refine Program.Returns.request_bind fun reply => ?_
  cases reply with
  | ok metadata =>
      dsimp only
      split
      · refine (Returns.of_forall fun _ => trivial).bind
          fun found _ => ?_
        cases found with
        | ok =>
            rintro file ⟨⟩
            simp [lookedUp]
        | error =>
            rintro file ⟨⟩
      · rintro file ⟨⟩
        exact List.mem_cons_self
  | error kind =>
      cases kind with
      | notFound =>
          dsimp only
          split
          · rintro file ⟨⟩
          · refine (Returns.of_forall fun _ => trivial).bind
              fun found _ => ?_
            cases found with
            | ok =>
                rintro file ⟨⟩
                simp [lookedUp]
            | error =>
                rintro file ⟨⟩
      | other =>
          rintro file ⟨⟩

/-- A site accesses what it may access for a request. -/
theorem mayAccess_handleHttpRequest
    (sha256 : Sha256)
    (mimeFromExt : Str → Str)
    (site : StaticSiteService)
    (req : Request) :
    AsksAfter (fun _ access => site.MayAccess req access) []
      (site.handleHttpRequest sha256 mimeFromExt req) := by
  unfold StaticSiteService.handleHttpRequest
  split
  · trivial
  next methodKept =>
  split
  · trivial
  next notRefused =>
  have isMethod : req.method = .get ∨ req.method = .head := by
    by_contra neither
    exact methodKept (not_or.mp neither)
  have mayAccess {access : FileAccess}
      (isPath : access.path ∈ lookedUp site.config.root (urlPath req)) :
      site.MayAccess req access :=
    ⟨isMethod, by simpa using notRefused, isPath⟩
  refine AsksAfter.bind ?_ fun _ located ends => ?_
  · exact (asksAfter_locate _ _).mono fun _ _ => mayAccess
  · cases located with
    | error res =>
        trivial
    | ok file =>
        have isFound := ends.returns (returns_lookedUp _ _) file rfl
        exact AsksAfter.of_asks
          (asks_serveFile sha256 mimeFromExt req file.1 file.2)
          fun _ access same => mayAccess (same ▸ isFound)

/-- What a service asks, its task asks after what it has asked before. -/
theorem mayReach_embed
    {query α β : Type}
    {onQuery : query → ServerCall Expression}
    {onValue : α → β}
    {property :
      List (AnsweredQuery query fun asked => (onQuery asked).Answer) →
        query → Prop}
    {program : Program query (fun asked => (onQuery asked).Answer) α}
    (implies :
      ∀ own asked, property own asked →
        parts.MayReach arrival (log ++ own.map (AnsweredQuery.embed onQuery))
          (onQuery asked))
    (asks : AsksAfter property [] program) :
    AsksAfter (parts.MayReach arrival) log (program.embed onQuery onValue) := by
  have embedded :
      AsksAfter (fun own asked => parts.MayReach arrival (log ++ own) asked) []
        (program.embed onQuery onValue) :=
    @AsksAfter.embed _ _ _ _ _ onQuery onValue _ _ _ [] implies asks
  have later :
      AsksAfter (parts.MayReach arrival) (log ++ [])
        (program.embed onQuery onValue) :=
    embedded.append fun _ _ => id
  rwa [List.append_nil] at later

/-- A service asks what it may for a request that was handed over to it. -/
theorem mayReach_handled
    (handedOver : parts.HandedOver arrival log service) :
    AsksAfter (parts.MayReach arrival) log
      (parts.handleHttpRequest (arrival.handed (knownRecord log))
        (parts.handlers service)) := by
  cases isHandler : parts.handlers service with
  | httpProxy proxy =>
      refine AsksAfter.bind ?_ fun _ response _ => ?_
      · refine mayReach_embed (fun own asked readBefore => ?_)
          (readBefore_http proxy (arrival.handed (knownRecord log)))
        have nothing := @listenerLog_map_embed Expression _
          (fun asked : ProxyQuery => .proxy (.http asked)) own fun _ => rfl
        refine ⟨service, proxy, handedOver.append nothing, isHandler,
          fun isContact => ?_⟩
        rw [knownRecord_append nothing]
        obtain ⟨made, member, isRead⟩ := readBefore isContact
        obtain ⟨inner, inOwn, rfl⟩ := List.mem_map.mp member
        refine ⟨_, ?_, isRead⟩
        rw [List.filterMap_append]
        exact List.mem_append_right _
          (List.mem_filterMap.mpr ⟨_, List.mem_map_of_mem inOwn, rfl⟩)
      · cases response with
        | none =>
            exact ⟨trivial, fun nothing => nothing.elim⟩
        | some res =>
            trivial
  | staticSite site =>
      refine mayReach_embed (fun own access mayAccess => ?_)
        (mayAccess_handleHttpRequest parts.sha256 parts.mimeFromExt site
          (arrival.handed (knownRecord log)))
      exact ⟨service, site,
        handedOver.append (listenerLog_map_embed fun _ => rfl), isHandler,
        mayAccess.isMethod, mayAccess.notRefused, mayAccess.isPath⟩

/-- The task of a request asks what it may. -/
theorem mayReach_code (arrival : Arrival Expression Value) :
    AsksAfter (parts.MayReach arrival) [] (parts.code (.request arrival)) := by
  refine AsksAfter.bind ?_ fun _ _ _ => trivial
  refine AsksAfter.implement ?_ (asksAfter_serveArrival arrival) .nil
  intro listenerLog log asked carriedOut mayAsk
  cases asked with
  | handle service req =>
      obtain ⟨isService, rfl, gotPast⟩ := mayAsk
      rw [← knownRecord_of_carriedOut carriedOut]
      exact mayReach_handled
        (handedOver_of_carriedOut carriedOut isService gotPast)
  | geoipLookup ip =>
      exact ⟨trivial, fun _ => trivial⟩
  | validateCaptchaVerifiedCookie cookie clientId =>
      exact ⟨trivial, fun _ => trivial⟩
  | serveCaptchaRequest req cookies clientId =>
      exact ⟨trivial, fun _ => trivial⟩
  | probe limiter ip =>
      exact ⟨trivial, fun _ => trivial⟩

end Service

/-! ## Runs -/

/-- The upstreams that a call read, with their service. -/
def ServerExchange.read
    {Expression : Type}
    (made : ServerExchange Expression) : Option (String × List Upstream) :=
  made.proxied.bind upstreamsRead

/-- The context that a request is forwarded with. -/
def Arrival.context
    {Expression Value : Type}
    (arrival : Arrival Expression Value)
    (record : GeoipRecord) : RequestContext :=
  requestContext arrival.listener arrival.client record arrival.req

section Run

variable {Expression Context Value : Type}
variable {servicesConfig : List ServiceConfig}

/-- The registry answers the tasks what it has; the rest may answer anything. -/
def serverObject (discoverers : Discoverers servicesConfig) :
    SharedObject Discovery (ServerCall Expression) ServerCall.Answer where
  changes :=
    Discovery.Changes discoverers
  answers before asked reply after :=
    after = before ∧
      ∀ service upstreams,
        ServerExchange.read ⟨asked, reply⟩ = some (service, upstreams) →
          upstreams = before.live.registry.getUpstreams service

abbrev ServerEvent (Expression Value : Type) :=
  PoolEvent (ServerCall Expression) ServerCall.Answer
    (ServerTask Expression Value)

abbrev ServerPool (Expression : Type) :=
  Pool Discovery (ServerCall Expression) ServerCall.Answer ServerResult

/-- One step of the registry or of a task. -/
abbrev ServerStep
    (parts : ServerParts Expression Context Value)
    (discoverers : Discoverers servicesConfig) :
    ServerPool Expression → ServerEvent Expression Value →
      ServerPool Expression → Prop :=
  Pool.Step (serverObject discoverers) parts.code

/-- What a proxy sends for a request that was handed over to it. -/
structure ServerParts.SendsFor
    (parts : ServerParts Expression Context Value)
    (arrival : Arrival Expression Value)
    (record : GeoipRecord)
    (upstream : Upstream)
    (sent : Request) : Prop where
  isForwarded :
    forwardRequest parts.parseUri upstream (arrival.context record)
      (arrival.handed record) = some sent
  headers :
    IsForwarded (arrival.context record) arrival.req.headers sent.headers
  trusted :
    ∀ entry ∈ trustedHeaders (arrival.context record),
      sent.headers.getAll entry.1 = (HeaderValue.fromStr entry.2).toList

variable {parts : ServerParts Expression Context Value}
variable {discoverers : Discoverers servicesConfig}
variable {events : List (ServerEvent Expression Value)}
variable {finish : ServerPool Expression}
variable {arrival : Arrival Expression Value}
variable {index : Nat} {earlier later : List (ServerExchange Expression)}

theorem holdsRegistry_serverObject :
    HoldsRegistry discoverers (serverObject discoverers) id
      (ServerExchange.read : ServerExchange Expression → _) where
  changes changes :=
    .inr changes
  answers := by
    rintro before asked reply after ⟨rfl, isAnswered⟩
    exact ⟨rfl, isAnswered⟩

/--
In every run of the server, a request is sent to an upstream only for a request
that got past all rules that match it, to a service of its listener.  The
upstream is a known one of this service, and it is told who the client is; its
country and system are the listener's only while geoip is enabled.
-/
theorem sendsFor_of_run
    {sent : Request}
    {reply : Except Unit Response}
    (run :
      Run (ServerStep parts discoverers) (.initial (.initial servicesConfig))
        events finish)
    (started : .start index (.request arrival) ∈ events)
    (split :
      exchangesOf index events =
        earlier ++ ⟨.proxy (.http (.request sent)), reply⟩ :: later) :
    ∃ service proxy upstream,
      parts.HandedOver arrival earlier service ∧
        parts.handlers service = .httpProxy proxy ∧
        KnownUpstream discoverers finish.shared.history proxy.name
          upstream ∧
        parts.SendsFor arrival (knownRecord earlier) upstream sent := by
  obtain ⟨service, proxy, handedOver, isHandler, readBefore⟩ :=
    Pool.asked_of_run run started (mayReach_code arrival) split
  obtain ⟨read, inEarlier, upstreams, upstream, isRead, member, goes⟩ :=
    readBefore rfl
  obtain ⟨made, isMade, isProxied⟩ := List.mem_filterMap.mp inEarlier
  have inEvents : .exchange index made ∈ events := by
    rw [← mem_exchangesOf, split]
    exact List.mem_append_left _ isMade
  have isServerRead : made.read = some (proxy.name, upstreams) := by
    rw [ServerExchange.read, isProxied]
    exact isRead
  refine ⟨service, proxy, upstream, handedOver, isHandler,
    holdsRegistry_serverObject.known_of_read sourced_initial run inEvents
      isServerRead member, ?_⟩
  cases goes with
  | request isTask isContext isForwarded =>
      cases isTask
      cases isContext
      have headers := headers_of_forwardRequest isForwarded
      refine ⟨isForwarded, ?_, fun entry isTrusted => ?_⟩
      · rw [headers]
        exact isForwarded_forwardHeaders _ _
      · rw [headers]
        exact getAll_forwardHeaders_of_mem _ _ isTrusted

/--
In every run of the server, a file is accessed only for a request that got past
all rules that match it, to a static site of its listener; the method of the
request is GET or HEAD, and the file is one that is looked up for its path.
-/
theorem mayAccess_of_run
    {access : FileAccess}
    {reply : access.Answer}
    (run :
      Run (ServerStep parts discoverers) (.initial (.initial servicesConfig))
        events finish)
    (started : .start index (.request arrival) ∈ events)
    (split :
      exchangesOf index events = earlier ++ ⟨.file access, reply⟩ :: later) :
    ∃ service site,
      parts.HandedOver arrival earlier service ∧
        parts.handlers service = .staticSite site ∧
        site.MayAccess arrival.req access :=
  Pool.asked_of_run run started (mayReach_code arrival) split

end Run

section Sample

def servedParts (handler : HttpHandler) :
    ServerParts Empty Unit Unit where
  language :=
    noExpressions
  splitParse :=
    fun _ => []
  captchaPage :=
    newNotFoundError
  sha256 :=
    fun _ => Vector.replicate 32 0
  mimeFromExt :=
    id
  parseUri :=
    fun _ => some (Request.ofPath .get ['/']).uri
  handlers :=
    fun _ => handler

def servedService : HttpService Empty where
  name :=
    "api"
  route :=
    none

def servedRule : Rule Empty where
  name :=
    "limited"
  expression :=
    none
  actions :=
    [.limit]
  limiterTx :=
    some ⟨0⟩

/-- A request to a listener with one service and a rule that limits. -/
def servedArrival : Arrival Empty Unit where
  listener := {
    address := ⟨.localhost, 80⟩
    services := [servedService]
    rules := [servedRule]
    lists := ()
    geoip := false
    useTls := false
  }
  client :=
    ⟨.localhost, 5000⟩
  req :=
    { Request.ofPath .get ['/'] with
      headers :=
        FieldMap.insert ∅ .userAgent sampleAgent }

def servedRequest : Request :=
  servedArrival.handed GeoipRecord.default

def servedUpstream : Upstream where
  socketAddress :=
    ⟨.localhost, 8080⟩
  hostname :=
    "127.0.0.1"
  tls :=
    false

def servedProxy : ServiceConfig where
  name :=
    "api"
  httpProxy :=
    some [.ipAddress servedUpstream]
  static :=
    none
  tcpProxy :=
    none

def servedServices : List ServiceConfig :=
  [servedProxy]

def servedDiscoverers : Discoverers servedServices where
  hosts :=
    getUpstreamHosts servedServices
  sameHosts :=
    .refl _
  docker :=
    ⟨false⟩

/-- The limiter lets the request go on. -/
def servedProbe : ServerExchange Empty :=
  ⟨.listener (.probe ⟨0⟩ .localhost), .received (.ok true)⟩

def servedEvents (log : List (ServerExchange Empty)) :
    List (ServerEvent Empty Unit) :=
  .start 0 (.request servedArrival) :: log.map (.exchange 0)

/-- The handler of the request asks the limiter, and then the service. -/
private theorem serveArrival_servedArrival (handler : HttpHandler) :
    ∃ next,
      serveArrival (servedParts handler).language
          (servedParts handler).splitParse (servedParts handler).captchaPage
          (servedParts handler).sha256 servedArrival =
        .ask (.probe ⟨0⟩ .localhost) next ∧
      next (.received (.ok true)) =
        .ask (.handle servedService servedRequest) .done := by
  have notBlocked : ¬ HasBlockedUserAgent servedArrival.req := by
    decide
  have notCaptcha :
      ¬ (getPath servedArrival.req).startsWith
        "/__pingoo/captcha".toList = true := by
    decide
  exact ⟨_,
    serveArrival_of_noCookie servedArrival rfl notBlocked notCaptcha rfl, rfl⟩

/-- The task of the request asks the limiter and then what the service asks. -/
private theorem run_servedEvents
    {handler : HttpHandler}
    {log : List (ServerExchange Empty)}
    {res : Response}
    (ends :
      Ends ((servedParts handler).handleHttpRequest servedRequest handler) log
        res)
    (answered :
      ∀ made ∈ log,
        (serverObject servedDiscoverers).answers (.initial servedServices)
          made.asked made.reply (.initial servedServices)) :
    ∃ finish,
      Run (ServerStep (servedParts handler) servedDiscoverers)
        (.initial (.initial servedServices)) (servedEvents (servedProbe :: log))
        finish := by
  have endsTask :
      Ends ((servedParts handler).code (.request servedArrival))
        (servedProbe :: log) (.inl res) := by
    refine ends_bind_iff.mpr
      ⟨servedProbe :: log, [], res, (List.append_nil _).symm, ?_, rfl, rfl⟩
    obtain ⟨next, isAsked, isGranted⟩ := serveArrival_servedArrival handler
    rw [isAsked]
    refine ends_bind_iff.mpr
      ⟨[servedProbe], log, .received (.ok true), rfl, ⟨_, [], rfl, rfl, rfl⟩,
        ?_⟩
    rw [isGranted]
    exact ends_bind_iff.mpr
      ⟨log, [], res, (List.append_nil log).symm, ends, rfl, rfl⟩
  have isProbed :
      (serverObject servedDiscoverers).answers (.initial servedServices)
        servedProbe.asked servedProbe.reply (.initial servedServices) :=
    ⟨rfl, nofun⟩
  obtain ⟨finish, run, _⟩ :=
    @Pool.run_of_ends _ _ _ _ _ (serverObject servedDiscoverers)
      (servedParts handler).code (.initial (.initial servedServices)) 0
      (.request servedArrival) _ _ _ rfl endsTask
      (.of_forall (List.forall_mem_cons.mpr ⟨isProbed, answered⟩))
  exact ⟨finish, run⟩

def servedSent : Request :=
  { servedRequest with
    uri := (Request.ofPath .get ['/']).uri
    version := .http11
    headers :=
      forwardHeaders (servedArrival.context GeoipRecord.default)
        servedRequest.headers }

/-- The proxy reads the upstream and sends the request there, in vain. -/
def servedProxyLog :
    List (AnsweredQuery ProxyQuery ProxyQuery.Answer) :=
  [⟨.getUpstreams "api", [servedUpstream]⟩,
    ⟨.choose [servedUpstream],
      some ⟨servedUpstream, List.mem_singleton_self _⟩⟩,
    ⟨.request servedSent, .error ()⟩]

/-- What the proxy asks, as calls of the task of the request. -/
def servedCalls : List (ServerExchange Empty) :=
  servedProxyLog.map (AnsweredQuery.embed fun asked : ProxyQuery =>
    (.proxy (.http asked) : ServerCall Empty))

/-- What the task of the request asks then. -/
def servedLog : List (ServerExchange Empty) :=
  servedProbe :: servedCalls

theorem run_servedLog :
    ∃ finish,
      Run (ServerStep (servedParts (.httpProxy ⟨"api"⟩)) servedDiscoverers)
        (.initial (.initial servedServices)) (servedEvents servedLog)
        finish := by
  have endsProxy :
      Ends
        (HttpProxyService.handleHttpRequest
          (fun _ => some (Request.ofPath .get ['/']).uri) ⟨"api"⟩ servedRequest)
        servedProxyLog (some newBadGatewayError) :=
    ⟨[servedUpstream], _, rfl, _, _, rfl, .error (), [], rfl, rfl, rfl⟩
  have ends :
      Ends
        ((servedParts (.httpProxy ⟨"api"⟩)).handleHttpRequest servedRequest
          (.httpProxy ⟨"api"⟩))
        servedCalls newBadGatewayError :=
    ends_bind_iff.mpr ⟨_, [], some newBadGatewayError,
      (List.append_nil _).symm,
      ends_embed_iff.mpr ⟨servedProxyLog, _, rfl, rfl, endsProxy⟩, rfl, rfl⟩
  have isRead :
      (Discovery.initial servedServices).live.registry.getUpstreams "api" =
        [servedUpstream] := by
    decide
  refine run_servedEvents ends fun made member =>
    ⟨rfl, fun service upstreams same => ?_⟩
  have read :
      (service, upstreams) ∈ servedCalls.filterMap ServerExchange.read :=
    List.mem_filterMap.mpr ⟨made, member, same⟩
  cases List.mem_singleton.mp read
  exact isRead.symm

/-- The request is sent after the limiter let it go on. -/
theorem sendsFor_of_run_sample :
    ∃ finish,
      Run (ServerStep (servedParts (.httpProxy ⟨"api"⟩)) servedDiscoverers)
          (.initial (.initial servedServices)) (servedEvents servedLog)
          finish ∧
        servedArrival.actions noExpressions GeoipRecord.default =
          [(servedRule, .limit)] ∧
        (servedParts (.httpProxy ⟨"api"⟩)).HandedOver servedArrival
          (servedLog.take 3) servedService ∧
        ∃ upstream,
          KnownUpstream servedDiscoverers finish.shared.history "api"
              upstream ∧
            (servedParts (.httpProxy ⟨"api"⟩)).SendsFor servedArrival
              GeoipRecord.default upstream servedSent := by
  obtain ⟨finish, run⟩ := run_servedLog
  obtain ⟨service, proxy, upstream, handedOver, isHandler, known, sends⟩ :=
    sendsFor_of_run run List.mem_cons_self
      (show
        exchangesOf 0 (servedEvents servedLog) = servedLog.take 3 ++ _ :: []
        from rfl)
  cases isHandler
  cases List.mem_singleton.mp handedOver.isService
  exact ⟨finish, run, rfl, handedOver, upstream, known, sends⟩

/-- A site that fails to look a file up. -/
private def servedSite : StaticSiteService :=
  ⟨⟨"/var/www".toList⟩⟩

private def servedLookUp : FileAccess :=
  .metadata (joined "/var/www".toList (urlPath servedArrival.req))

private def servedFileLog : List (ServerExchange Empty) :=
  [servedProbe, ⟨.file servedLookUp, .error .other⟩]

/-- The file is looked up after the limiter let the request go on. -/
theorem mayAccess_of_run_sample :
    ∃ finish,
      Run (ServerStep (servedParts (.staticSite servedSite)) servedDiscoverers)
          (.initial (.initial servedServices)) (servedEvents servedFileLog)
          finish ∧
        (servedParts (.staticSite servedSite)).HandedOver servedArrival
          [servedProbe] servedService ∧
        servedSite.MayAccess servedArrival.req servedLookUp := by
  have endsSite :
      Ends
        (servedSite.handleHttpRequest (fun _ => Vector.replicate 32 0) id
          servedRequest)
        [⟨servedLookUp, .error .other⟩] newInternalErrorResponse500 := by
    rw [StaticSiteService.handleHttpRequest, if_neg (by decide),
      if_neg (by decide)]
    exact ends_bind_iff.mpr
      ⟨[⟨servedLookUp, .error .other⟩], [], .error newInternalErrorResponse500,
        rfl, ⟨.error .other, [], rfl, rfl, rfl⟩, rfl, rfl⟩
  have ends :
      Ends
        ((servedParts (.staticSite servedSite)).handleHttpRequest servedRequest
          (.staticSite servedSite))
        [⟨.file servedLookUp, .error .other⟩] newInternalErrorResponse500 :=
    ends_embed_iff.mpr ⟨_, _, rfl, rfl, endsSite⟩
  obtain ⟨finish, run⟩ := run_servedEvents ends fun made member =>
    ⟨rfl, fun service upstreams same => by
      cases List.mem_singleton.mp member
      cases same⟩
  obtain ⟨service, site, handedOver, isHandler, mayAccess⟩ :=
    mayAccess_of_run run List.mem_cons_self
      (show exchangesOf 0 (servedEvents _) = [servedProbe] ++ _ :: [] from rfl)
  cases isHandler
  cases List.mem_singleton.mp handedOver.isService
  exact ⟨finish, run, handedOver, mayAccess⟩

end Sample

end Pingoo
