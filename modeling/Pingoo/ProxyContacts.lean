import Pingoo.HttpProxyHeaders
import Pingoo.TcpProxy
import Pingoo.UpstreamSources

namespace Pingoo

open Interaction
open Transition (Run)

/-!
# What the proxies contact

The HTTP and TCP proxies read the registry while it applies its rounds, and send
what their clients send to upstreams that they read there.  So no client can make
a proxy contact anything but an upstream of its service that is written in the
configuration, or that a resolver or the Docker daemon answered.
-/

/-- A request or a connection that is given to a proxy. -/
inductive ProxyTask where
  | http (service : HttpProxyService) (req : Request)
  | tcp (service : TcpProxyService)

/-- The service whose upstreams a task is given to. -/
def ProxyTask.service : ProxyTask → String
  | .http service _ =>
      service.name
  | .tcp service =>
      service.name

/-- What the proxies ask. -/
inductive ProxyCall where
  | http (asked : ProxyQuery)
  | tcp (asked : TcpProxyQuery)

/-- What they are answered. -/
@[reducible] def ProxyCall.Answer : ProxyCall → Type
  | .http asked =>
      asked.Answer
  | .tcp asked =>
      asked.Answer

/-- A response of the HTTP proxy, or the end of a connection's task. -/
abbrev ProxyResult := Option Response ⊕ Unit

/-- What a proxy asked, with the answer. -/
abbrev ProxyExchange := AnsweredQuery ProxyCall ProxyCall.Answer

/-- The upstreams that an exchange read, with their service. -/
def upstreamsRead : ProxyExchange → Option (String × List Upstream)
  | ⟨.http (.getUpstreams service), upstreams⟩ =>
      some (service, upstreams)
  | ⟨.tcp (.getUpstreams service), upstreams⟩ =>
      some (service, upstreams)
  | _ =>
      none

/-- Whether a call sends something to an upstream. -/
def ProxyCall.isContact : ProxyCall → Bool
  | .http (.request _) =>
      true
  | .tcp (.connect _) =>
      true
  | .tcp (.spawnCopy _) =>
      true
  | _ =>
      false

section

variable (parseUri : Str → Option Uri)

/-- The program of a task. -/
def ProxyTask.code :
    ProxyTask → Program ProxyCall ProxyCall.Answer ProxyResult
  | .http service req =>
      (service.handleHttpRequest parseUri req).embed .http .inl
  | .tcp service =>
      service.serveConnection.embed .tcp .inr

/-- A call of a task is for an upstream: it has the URI or the address of it. -/
inductive GoesTo (task : ProxyTask) (upstream : Upstream) : ProxyCall → Prop
  | request
      {service : HttpProxyService}
      {req forwarded : Request}
      {ctx : RequestContext}
      (isTask : task = .http service req)
      (isContext : req.extension = some ctx)
      (isForwarded :
        forwardRequest parseUri upstream ctx req = some forwarded) :
      GoesTo task upstream (.http (.request forwarded))
  | connect :
      GoesTo task upstream (.tcp (.connect upstream.socketAddress))
  | spawnCopy :
      GoesTo task upstream (.tcp (.spawnCopy ⟨upstream.socketAddress⟩))

/-- What a task contacts is an upstream of its service that it read before. -/
def ReadBefore
    (task : ProxyTask)
    (log : List ProxyExchange)
    (asked : ProxyCall) : Prop :=
  asked.isContact = true →
    ∃ made ∈ log, ∃ upstreams upstream,
      upstreamsRead made = some (task.service, upstreams) ∧
        upstream ∈ upstreams ∧ GoesTo parseUri task upstream asked

section Code

variable {parseUri}

/-- The HTTP proxy sends its request to an upstream that it read. -/
theorem readBefore_http
    (service : HttpProxyService)
    (req : Request) :
    AsksAfter
      (fun log asked =>
        ReadBefore parseUri (.http service req)
          (log.map (AnsweredQuery.embed ProxyCall.http)) (.http asked))
      [] (service.handleHttpRequest parseUri req) := by
  refine AsksAfter.request_bind nofun fun upstreams => ?_
  by_cases isEmpty : upstreams = []
  · rw [if_pos isEmpty]
    trivial
  · rw [if_neg isEmpty]
    cases isContext : req.extension with
    | none =>
        trivial
    | some ctx =>
        refine AsksAfter.request_bind nofun fun chosen => ?_
        cases chosen with
        | none =>
            trivial
        | some upstream =>
            dsimp only
            cases isForwarded :
                forwardRequest parseUri upstream.val ctx req with
            | none =>
                trivial
            | some forwarded =>
                refine AsksAfter.request_bind (fun _ => ?_) fun reply => ?_
                · exact ⟨_, List.mem_cons_self, upstreams, upstream.val, rfl,
                    upstream.property, .request rfl isContext isForwarded⟩
                · cases reply <;> trivial

/-- A connection is made to an upstream that was read. -/
theorem readBefore_tcp (service : TcpProxyService) :
    AsksAfter
      (fun log asked =>
        ReadBefore parseUri (.tcp service)
          (log.map (AnsweredQuery.embed ProxyCall.tcp)) (.tcp asked))
      [] service.serveConnection := by
  refine (asksAfter_retry (fun log => ?_) _ _).bind fun more result ends => ?_
  · refine AsksAfter.request_bind nofun fun upstreams => ?_
    by_cases isEmpty : upstreams = []
    · rw [if_pos isEmpty]
      trivial
    · rw [if_neg isEmpty]
      refine AsksAfter.request_bind nofun fun upstream => ?_
      refine AsksAfter.request_bind (fun _ => ?_) fun outcome => trivial
      exact ⟨⟨.tcp (.getUpstreams service.name), upstreams⟩, by
        simp [AnsweredQuery.embed], upstreams, upstream.val, rfl,
        upstream.property, .connect⟩
  · cases result with
    | error err =>
        trivial
    | ok stream =>
        refine AsksAfter.request_bind (fun _ => ?_) fun _ => trivial
        obtain ⟨failures, last, _, rfl, endsLast, _⟩ :=
          (ends_retry_iff (by decide)).mp ends
        obtain ⟨attempt, rfl, isResult⟩ := ends_connect_iff.mp endsLast
        have isStream := ConnectAttempt.result_eq_ok_iff.mp isResult.symm
        cases attempt with
        | noUpstream =>
            cases isStream
        | connect upstreams upstream outcome =>
            cases outcome with
            | failed =>
                cases isStream
            | elapsed =>
                cases isStream
            | connected =>
                cases isStream
                exact ⟨⟨.tcp (.getUpstreams service.name), upstreams⟩, by
                  simp [AnsweredQuery.embed, ConnectAttempt.log], upstreams,
                  upstream.val, rfl, upstream.property, .spawnCopy⟩

/-- Whatever a task contacts is an upstream that it read. -/
theorem readBefore_code (task : ProxyTask) :
    AsksAfter (ReadBefore parseUri task) [] (task.code parseUri) := by
  cases task with
  | http service req =>
      exact @AsksAfter.embed _ _ _ _ _ ProxyCall.http Sum.inl _ _ _ []
        (fun _ _ => id) (readBefore_http service req)
  | tcp service =>
      exact @AsksAfter.embed _ _ _ _ _ ProxyCall.tcp Sum.inr _ _ _ []
        (fun _ _ => id) (readBefore_tcp service)

end Code

/-! ## Runs -/

/-- The registry answers the tasks what it has; the rest may answer anything. -/
def AnswersRead
    (registry : ServiceRegistry)
    (made : ProxyExchange) : Prop :=
  ∀ service upstreams,
    upstreamsRead made = some (service, upstreams) →
      upstreams = registry.getUpstreams service

section Run

variable {servicesConfig : List ServiceConfig}

/-- The registry at work, as the object that the proxies read. -/
def registryObject (discoverers : Discoverers servicesConfig) :
    SharedObject Discovery ProxyCall ProxyCall.Answer where
  changes :=
    Discovery.Changes discoverers
  answers before asked reply after :=
    after = before ∧ AnswersRead before.live.registry ⟨asked, reply⟩

abbrev ProxyEvent := PoolEvent ProxyCall ProxyCall.Answer ProxyTask

abbrev ProxyPool := Pool Discovery ProxyCall ProxyCall.Answer ProxyResult

/-- One step of the registry or of a task. -/
abbrev ProxyStep (discoverers : Discoverers servicesConfig) :
    ProxyPool → ProxyEvent → ProxyPool → Prop :=
  Pool.Step (registryObject discoverers) (ProxyTask.code parseUri)

variable {parseUri}
variable {discoverers : Discoverers servicesConfig}
variable {events : List ProxyEvent} {finish : ProxyPool}

theorem holdsRegistry_registryObject :
    HoldsRegistry discoverers (registryObject discoverers) id
      upstreamsRead where
  changes changes :=
    .inr changes
  answers := by
    rintro before asked reply after ⟨rfl, isAnswered⟩
    exact ⟨rfl, isAnswered⟩

/--
In every run of the registry and of the tasks, whatever a task contacts is an
upstream of its service that is written in the configuration, or that a resolver
or the daemon answered in a round of the run.
-/
theorem knownUpstream_of_contact
    {index : Nat}
    {task : ProxyTask}
    {made : ProxyExchange}
    (run :
      Run (ProxyStep parseUri discoverers) (.initial (.initial servicesConfig))
        events finish)
    (started : .start index task ∈ events)
    (isMade : made ∈ exchangesOf index events)
    (isContact : made.asked.isContact = true) :
    ∃ upstream,
      GoesTo parseUri task upstream made.asked ∧
        KnownUpstream discoverers finish.shared.history task.service
          upstream := by
  obtain ⟨earlier, later, split⟩ := List.append_of_mem isMade
  obtain ⟨read, inEarlier, upstreams, upstream, isRead, member, goes⟩ :=
    Pool.asked_of_run run started (readBefore_code task) split isContact
  refine ⟨upstream, goes, ?_⟩
  have inLog : read ∈ exchangesOf index events := by
    rw [split]
    exact List.mem_append_left _ inEarlier
  exact holdsRegistry_registryObject.known_of_read sourced_initial run
    (mem_exchangesOf.mp inLog) isRead member

/--
In every run, a connection that is served made three attempts at most, each to a
known upstream that it had just read, and relays to the upstream of the last one
if that one succeeded.  A listener sees its task do just that.
-/
theorem attempts_of_served
    {index : Nat}
    {service : TcpProxyService}
    {log : List ProxyExchange}
    {result : ProxyResult}
    (run :
      Run (ProxyStep parseUri discoverers) (.initial (.initial servicesConfig))
        events finish)
    (started : .start index (.tcp service) ∈ events)
    (isServed : finish.processes index = some ⟨log, .done result⟩) :
    ∃ attempts : Attempts,
      exchangesOf index events =
          (attempts.log service).map (AnsweredQuery.embed ProxyCall.tcp) ∧
        (∀ attempt ∈ attempts.all, ∀ upstream ∈ attempt.upstreams,
          KnownUpstream discoverers finish.shared.history service.name
            upstream) ∧
        Run Connection.Step (.accepted false) attempts.events
          ⟨.returning, attempts.relay⟩ := by
  have ends := Pool.ends_of_run run started isServed
  obtain ⟨own, ⟨⟩, isLog, _, endsOwn⟩ := ends_embed_iff.mp ends
  obtain ⟨attempts, rfl⟩ := ends_serveConnection_iff.mp endsOwn
  refine ⟨attempts, isLog, fun attempt member upstream inRead => ?_,
    attempts.run_connection⟩
  have inLog :
      ⟨.tcp (.getUpstreams service.name), attempt.upstreams⟩ ∈
        exchangesOf index events := by
    rw [isLog]
    exact List.mem_map_of_mem (attempts.read_mem_log member)
  exact holdsRegistry_registryObject.known_of_read sourced_initial run
    (mem_exchangesOf.mp inLog) rfl inRead

end Run

end

section Sample

private def mailUpstream : Upstream where
  socketAddress :=
    ⟨.localhost, 25⟩
  hostname :=
    "127.0.0.1"
  tls :=
    false

private def proxiedUpstream : Upstream where
  socketAddress :=
    ⟨.localhost, 8080⟩
  hostname :=
    "127.0.0.1"
  tls :=
    false

/-- A TCP service and an HTTP service, with one upstream each. -/
private def contactServices : List ServiceConfig := [{
  name := "mail"
  httpProxy := none
  static := none
  tcpProxy := some [.ipAddress mailUpstream]
}, {
  name := "api"
  httpProxy := some [.ipAddress proxiedUpstream]
  static := none
  tcpProxy := none
}]

private def contactDiscoverers : Discoverers contactServices where
  hosts :=
    getUpstreamHosts contactServices
  sameHosts :=
    .refl _
  docker :=
    ⟨false⟩

private def mailAttempt (outcome : ConnectOutcome) : ConnectAttempt :=
  .connect [mailUpstream] ⟨mailUpstream, List.mem_singleton_self _⟩ outcome

private theorem stream_of_failed :
    ∀ attempt ∈ [mailAttempt (.failed "refused"), mailAttempt .elapsed],
      attempt.stream = none := by
  decide

/-- Two attempts that fail, and one that succeeds. -/
private def mailAttempts : Attempts where
  failures :=
    [mailAttempt (.failed "refused"), mailAttempt .elapsed]
  last :=
    mailAttempt .connected
  fail :=
    stream_of_failed
  few :=
    by decide
  isLast :=
    nofun

private def mailLog : List ProxyExchange :=
  (mailAttempts.log ⟨"mail"⟩).map (AnsweredQuery.embed ProxyCall.tcp)

private def apiRequest : Request :=
  .sample false ∅

private def apiUri (_ : Str) : Option Uri :=
  some apiRequest.uri

private def apiSent : Request :=
  .sampleSent false ∅

/-- A request that is sent in vain. -/
private def apiProxyLog :
    List (AnsweredQuery ProxyQuery ProxyQuery.Answer) :=
  [⟨.getUpstreams "api", [proxiedUpstream]⟩,
    ⟨.choose [proxiedUpstream],
      some ⟨proxiedUpstream, List.mem_singleton_self _⟩⟩,
    ⟨.request apiSent, .error ()⟩]

private def apiLog : List ProxyExchange :=
  apiProxyLog.map (AnsweredQuery.embed ProxyCall.http)

private def apiTask : ProxyTask :=
  .http ⟨"api"⟩ apiRequest

/-- A connection that is served, and then a request. -/
private def contactEvents : List ProxyEvent :=
  (.start 0 (.tcp ⟨"mail"⟩) :: mailLog.map (.exchange 0)) ++
    (.start 1 apiTask :: apiLog.map (.exchange 1))

/-- The registry can answer a log whose reads are what is configured. -/
private theorem replies_of_reads
    {log : List ProxyExchange}
    (reads :
      ∀ read ∈ log.filterMap upstreamsRead,
        read.2 =
          (Discovery.initial contactServices).live.registry.getUpstreams
            read.1) :
    (registryObject contactDiscoverers).Replies (.initial contactServices) log
      (.initial contactServices) :=
  .of_forall fun made member =>
    ⟨rfl, fun service upstreams same =>
      reads (service, upstreams) (List.mem_filterMap.mpr ⟨made, member, same⟩)⟩

private theorem run_contactEvents :
    ∃ finish log result,
      Run (ProxyStep apiUri contactDiscoverers)
          (.initial (.initial contactServices)) contactEvents finish ∧
        finish.processes 0 = some ⟨log, .done result⟩ := by
  have endsMail :
      Ends (ProxyTask.code apiUri (.tcp ⟨"mail"⟩)) mailLog (.inr ()) :=
    ends_embed_iff.mpr ⟨_, (), rfl, rfl,
      ends_serveConnection_iff.mpr ⟨mailAttempts, rfl⟩⟩
  have endsProxy :
      Ends (HttpProxyService.handleHttpRequest apiUri ⟨"api"⟩ apiRequest)
        apiProxyLog (some newBadGatewayError) :=
    ⟨[proxiedUpstream], _, rfl, _, _, rfl, .error (), [], rfl, rfl, rfl⟩
  have endsApi :
      Ends (ProxyTask.code apiUri apiTask) apiLog
        (.inl (some newBadGatewayError)) :=
    ends_embed_iff.mpr ⟨apiProxyLog, _, rfl, rfl, endsProxy⟩
  obtain ⟨served, servedRun, isServed, isDone, others⟩ :=
    @Pool.run_of_ends _ _ _ _ _ (registryObject contactDiscoverers)
      (ProxyTask.code apiUri) (.initial (.initial contactServices)) 0
      (.tcp ⟨"mail"⟩) _ _ _ rfl endsMail (replies_of_reads (by decide))
  obtain ⟨finish, lastRun, -, -, same⟩ :=
    @Pool.run_of_ends _ _ _ _ _ (registryObject contactDiscoverers)
      (ProxyTask.code apiUri) served 1 apiTask _ _ (.initial contactServices)
      (others 1 (by decide)) endsApi
      (isServed ▸ replies_of_reads (by decide))
  exact ⟨finish, _, _, servedRun.append lastRun,
    (same 0 (by decide)).trans isDone⟩

/-- The connection and the request go to the upstreams that are written. -/
theorem knownUpstream_of_contact_sample :
    ∃ finish,
      Run (ProxyStep apiUri contactDiscoverers)
          (.initial (.initial contactServices)) contactEvents finish ∧
        (∃ upstream,
          GoesTo apiUri (.tcp ⟨"mail"⟩) upstream
              (.tcp (.connect ⟨.localhost, 25⟩)) ∧
            KnownUpstream contactDiscoverers finish.shared.history "mail"
              upstream) ∧
        ∃ upstream,
          GoesTo apiUri apiTask upstream (.http (.request apiSent)) ∧
            KnownUpstream contactDiscoverers finish.shared.history "api"
              upstream := by
  obtain ⟨finish, _, _, run, _⟩ := run_contactEvents
  have isConnected :
      ⟨.tcp (.connect ⟨.localhost, 25⟩), .failed "refused"⟩ ∈
        exchangesOf 0 contactEvents :=
    List.mem_of_getElem? (i := 2) rfl
  have isSent :
      ⟨.http (.request apiSent), .error ()⟩ ∈ exchangesOf 1 contactEvents :=
    List.mem_of_getElem? (i := 2) rfl
  have apiStarted : .start 1 apiTask ∈ contactEvents :=
    List.mem_append_right _ List.mem_cons_self
  exact ⟨finish, run,
    knownUpstream_of_contact run List.mem_cons_self isConnected rfl,
    knownUpstream_of_contact run apiStarted isSent rfl⟩

/-- The connection is relayed after two attempts that failed. -/
theorem attempts_of_served_sample :
    ∃ finish, ∃ attempts : Attempts,
      Run (ProxyStep apiUri contactDiscoverers)
          (.initial (.initial contactServices)) contactEvents finish ∧
        mailLog =
          (attempts.log ⟨"mail"⟩).map (AnsweredQuery.embed ProxyCall.tcp) ∧
        (∀ attempt ∈ attempts.all, ∀ upstream ∈ attempt.upstreams,
          KnownUpstream contactDiscoverers finish.shared.history "mail"
            upstream) ∧
        Run Connection.Step (.accepted false) attempts.events
          ⟨.returning, attempts.relay⟩ := by
  obtain ⟨finish, log, result, run, isDone⟩ := run_contactEvents
  obtain ⟨attempts, isLog, known, connection⟩ :=
    attempts_of_served run List.mem_cons_self isDone
  exact ⟨finish, attempts, run, isLog, known, connection⟩

end Sample

end Pingoo
