import Pingoo.Library.ProgramStops
import Pingoo.ServerRequests

namespace Pingoo

open Interaction
open Transition (Run)

/-!
# Responses of the whole server

A request is given to one service at most, and its proxy sends it to one upstream
at most, and once.  What this upstream answers becomes the response to the
client, whatever the tasks of other requests do in between.
-/

/-- The response that is made of the answer of an upstream. -/
def upstreamResponse : Except Unit Response → Response
  | .ok res =>
      returnResponse res
  | .error () =>
      newBadGatewayError

section Results

variable {Expression : Type}

/-- What a proxy returns for the answer of an upstream. -/
def ProxyQuery.result :
    (asked : ProxyQuery) → Option (asked.Answer → Option Response)
  | .request _ =>
      some fun reply => some (upstreamResponse reply)
  | _ =>
      none

/-- What a listener returns for the answer of a service. -/
def ListenerQuery.result :
    (asked : ListenerQuery Expression) → Option (asked.Answer → Response)
  | .handle _ _ =>
      some id
  | _ =>
      none

/-- The response to the client, when an upstream was asked. -/
def ServerCall.response :
    (asked : ServerCall Expression) → Option (asked.Answer → Response)
  | .proxy (.http (.request _)) =>
      some upstreamResponse
  | _ =>
      none

/-- What the task of a request ends in, when an upstream was asked. -/
def ServerCall.result (asked : ServerCall Expression) :
    Option (asked.Answer → ServerResult) :=
  asked.response.map fun value reply => .inl (value reply)

end Results

section Code

variable {Expression Context Value : Type}
variable {parts : ServerParts Expression Context Value}

/-- A proxy returns what it makes of the answer of its upstream. -/
theorem stopsAt_httpProxy
    (parseUri : Str → Option Uri)
    (service : HttpProxyService)
    (req : Request) :
    (service.handleHttpRequest parseUri req).StopsAt ProxyQuery.result := by
  refine Program.StopsAt.request_bind rfl fun upstreams => ?_
  by_cases isEmpty : upstreams = []
  · rw [if_pos isEmpty]
    trivial
  · rw [if_neg isEmpty]
    cases req.extension with
    | none =>
        trivial
    | some ctx =>
        refine Program.StopsAt.request_bind rfl fun chosen => ?_
        cases chosen with
        | none =>
            trivial
        | some upstream =>
            dsimp only
            cases forwardRequest parseUri upstream.val ctx req with
            | none =>
                trivial
            | some forwarded =>
                refine ⟨?_, fun reply => ?_⟩
                · rintro value ⟨⟩ reply
                  cases reply <;> rfl
                · cases reply <;> trivial

/-- A service returns what it makes of the answer of its upstream. -/
theorem stopsAt_handled (req : Request) (handler : HttpHandler) :
    (parts.handleHttpRequest req handler).StopsAt ServerCall.response := by
  cases handler with
  | httpProxy service =>
      have stops :
          Program.StopsAt
            (fun asked : ServerCall Expression =>
              asked.response.map fun value reply => some (value reply))
            ((service.handleHttpRequest parts.parseUri req).embed
              (fun asked => ServerCall.proxy (.http asked)) id) := by
        refine @Program.StopsAt.embed _ _ _ _ _
          (fun asked : ProxyQuery => ServerCall.proxy (.http asked)) id
          ProxyQuery.result _ _ (stopsAt_httpProxy parts.parseUri service req)
          fun asked value isResult => ?_
        cases asked with
        | getUpstreams =>
            cases isResult
        | choose =>
            cases isResult
        | request =>
            cases isResult
            exact ⟨_, rfl, fun _ => rfl⟩
      refine stops.bind (fun asked value isResult => ?_) fun value => ?_
      · exact ⟨fun reply => some (value reply), by rw [isResult]; rfl,
          fun _ => rfl⟩
      · cases value with
        | none =>
            exact ⟨rfl, fun nothing => nothing.elim⟩
        | some res =>
            trivial
  | staticSite site =>
      refine Program.StopsAt.embed .of_none fun access value isResult => ?_
      cases isResult

/-- Dispatching ends in the answer of the service. -/
theorem stopsAt_dispatch
    (language : ExpressionLanguage Expression Context Value)
    (services : List (HttpService Expression))
    (rulesCtx : Context)
    (req : Request) :
    (dispatch language services rulesCtx req).StopsAt ListenerQuery.result := by
  unfold dispatch
  split
  · refine ⟨?_, fun _ => trivial⟩
    rintro value ⟨⟩ reply
    rfl
  · trivial

/-- A scan stops where the program after it does. -/
theorem stopsAt_scanActions
    {captchaPage : Response}
    {captchaVerified : Bool}
    {ip : IpAddr}
    {next : ListenerProgram Expression Response}
    (stops : next.StopsAt ListenerQuery.result)
    (actions : List (Rule Expression × Action)) :
    (scanActions captchaPage captchaVerified ip next actions).StopsAt
      ListenerQuery.result := by
  induction actions with
  | nil =>
      exact stops
  | cons entry rest inductionHypothesis =>
      obtain ⟨rule, action⟩ := entry
      cases action with
      | block =>
          trivial
      | captcha =>
          rw [scanActions]
          cases captchaVerified with
          | false =>
              trivial
          | true =>
              exact inductionHypothesis
      | limit =>
          rw [scanActions]
          cases rule.limiterTx with
          | none =>
              exact inductionHypothesis
          | some limiter =>
              refine Program.StopsAt.request_bind rfl fun reply => ?_
              rcases reply with _ | _ | ⟨⟨⟩ | ⟨_ | _⟩⟩
              · trivial
              · trivial
              · trivial
              · trivial
              · exact inductionHypothesis

/-- The handler of a request returns what a service answers. -/
theorem stopsAt_serveArrival
    {language : ExpressionLanguage Expression Context Value}
    {splitParse : Str → List (Except Unit Cookie)}
    {captchaPage : Response}
    {sha256 : Sha256}
    (arrival : Arrival Expression Value) :
    (serveArrival language splitParse captchaPage sha256 arrival).StopsAt
      ListenerQuery.result := by
  have reference (record : GeoipRecord) :
      (referencePipeline language splitParse captchaPage sha256 arrival.listener
        arrival.client record arrival.req).StopsAt ListenerQuery.result := by
    unfold referencePipeline
    dsimp only
    split
    · trivial
    split
    · exact Program.StopsAt.of_asks ⟨rfl, fun _ => trivial⟩
    split
    · exact stopsAt_scanActions (stopsAt_dispatch _ _ _ _) _
    · refine Program.StopsAt.request_bind rfl fun reply => ?_
      rcases reply with ⟨⟩ | ⟨⟩
      · trivial
      · exact stopsAt_scanActions (stopsAt_dispatch _ _ _ _) _
  rw [serveArrival, serveHttpRequest_eq_reference, clientGeoipRecord]
  split
  · refine Program.StopsAt.request_bind rfl fun reply => ?_
    cases reply with
    | error =>
        exact reference _
    | ok record =>
        exact reference _
  · exact reference _

/-- The task of a request ends in what an upstream answers. -/
theorem stopsAt_code (arrival : Arrival Expression Value) :
    (parts.code (.request arrival)).StopsAt ServerCall.result := by
  have stops :
      ((serveArrival parts.language parts.splitParse parts.captchaPage
        parts.sha256 arrival).implement parts.carryOut).StopsAt
        ServerCall.response := by
    refine (stopsAt_serveArrival arrival).implement
      (fun asked value isResult => ?_) fun asked isResult => ?_
    · cases asked with
      | handle service req =>
          cases isResult
          exact (stopsAt_handled req _).bind
            (fun _ value isResult => ⟨value, isResult, fun _ => rfl⟩)
            fun _ => trivial
      | geoipLookup =>
          cases isResult
      | validateCaptchaVerifiedCookie =>
          cases isResult
      | serveCaptchaRequest =>
          cases isResult
      | probe =>
          cases isResult
    · cases asked with
      | handle =>
          cases isResult
      | geoipLookup =>
          exact ⟨rfl, fun _ => trivial⟩
      | validateCaptchaVerifiedCookie =>
          exact ⟨rfl, fun _ => trivial⟩
      | serveCaptchaRequest =>
          exact ⟨rfl, fun _ => trivial⟩
      | probe =>
          exact ⟨rfl, fun _ => trivial⟩
  refine stops.bind (fun asked value isResult => ?_) fun _ => trivial
  obtain ⟨own, isOwn, rfl⟩ := Option.map_eq_some_iff.mp isResult
  exact ⟨own, isOwn, fun _ => rfl⟩

end Code

section Run

variable {Expression Context Value : Type}
variable {servicesConfig : List ServiceConfig}
variable {parts : ServerParts Expression Context Value}
variable {discoverers : Discoverers servicesConfig}
variable {events : List (ServerEvent Expression Value)}
variable {finish : ServerPool Expression}

/--
In every run of the server, the task of a request that was answered by an
upstream is done with this answer as it is sent back, and it had asked no other
upstream before.
-/
theorem response_of_sent
    {index : Nat}
    {arrival : Arrival Expression Value}
    {sent : Request}
    {reply : Except Unit Response}
    (run :
      Run (ServerStep parts discoverers) (.initial (.initial servicesConfig))
        events finish)
    (started : .start index (.request arrival) ∈ events)
    (isSent :
      ⟨.proxy (.http (.request sent)), reply⟩ ∈ exchangesOf index events) :
    (∃ log,
      finish.processes index =
        some ⟨log, .done (.inl (upstreamResponse reply))⟩) ∧
      ∃ earlier,
        exchangesOf index events =
            earlier ++ [⟨.proxy (.http (.request sent)), reply⟩] ∧
          ∀ made ∈ earlier, ∀ other,
            made.asked ≠ .proxy (.http (.request other)) := by
  obtain ⟨isDone, earlier, isLast, others⟩ :=
    Pool.stopped_of_run run started (stopsAt_code arrival) isSent rfl
  refine ⟨isDone, earlier, isLast, fun made member other isRequest => ?_⟩
  have isOther := others made member
  rw [isRequest] at isOther
  cases isOther

end Run

/-- The client gets 502 when its upstream cannot be reached. -/
theorem response_of_sent_sample :
    ∃ finish log,
      Run (ServerStep (servedParts (.httpProxy ⟨"api"⟩)) servedDiscoverers)
          (.initial (.initial servedServices)) (servedEvents servedLog)
          finish ∧
        finish.processes 0 = some ⟨log, .done (.inl newBadGatewayError)⟩ ∧
        ∃ earlier,
          servedLog =
            earlier ++
              [⟨.proxy (.http (.request servedSent)), .error ()⟩] := by
  obtain ⟨finish, run⟩ := run_servedLog
  have isSent :
      ⟨.proxy (.http (.request servedSent)), .error ()⟩ ∈
        exchangesOf 0 (servedEvents servedLog) :=
    List.mem_of_getElem? (i := 3) rfl
  obtain ⟨⟨log, isDone⟩, earlier, isLast, _⟩ :=
    response_of_sent run List.mem_cons_self isSent
  exact ⟨finish, log, run, isDone, earlier, isLast⟩

end Pingoo
