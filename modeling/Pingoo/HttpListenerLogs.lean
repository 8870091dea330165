import Pingoo.HttpPipeline
import Pingoo.Library.ProgramLogs

namespace Pingoo

open Interaction

/-!
# Requests side by side

The handlers of all requests of all listeners run side by side.  What each of
them asks, and what it was answered before it asks a service to handle its
request, is a condition on its log, so it holds whatever the other handlers do
between two of its queries.
-/

/-- A request that has come to a listener. -/
structure Arrival (Expression Value : Type) where
  listener : HttpListener Expression Value
  client : SocketAddr
  req : Request

/-- A call of a handler with its answer. -/
abbrev ListenerExchange (Expression : Type) :=
  AnsweredQuery (ListenerQuery Expression) ListenerQuery.Answer

section

variable {Expression Context Value : Type}

/-- The record that a look-up gave. -/
def ListenerExchange.record : ListenerExchange Expression → Option GeoipRecord
  | ⟨.geoipLookup _, .ok record⟩ =>
      some record
  | _ =>
      none

/-- The record of the client, as far as the handler knows. -/
def loggedRecord (log : List (ListenerExchange Expression)) : GeoipRecord :=
  (log.findSome? ListenerExchange.record).getD GeoipRecord.default

theorem loggedRecord_snoc
    {made : ListenerExchange Expression}
    (noRecord : made.record = none)
    (log : List (ListenerExchange Expression)) :
    loggedRecord (log ++ [made]) = loggedRecord log := by
  rw [loggedRecord, List.findSome?_append]
  simp [loggedRecord, noRecord]

variable (language : ExpressionLanguage Expression Context Value)
variable (splitParse : Str → List (Except Unit Cookie))
variable (captchaPage : Response) (sha256 : Sha256)

/-- The handler of a request that has come to a listener. -/
def serveArrival (arrival : Arrival Expression Value) :
    ListenerProgram Expression Response :=
  serveHttpRequest language splitParse captchaPage sha256 arrival.listener
    arrival.client arrival.req

/-- The id of the client that sent a request. -/
def Arrival.clientId (arrival : Arrival Expression Value) : Str :=
  requestClientId sha256 arrival.client arrival.req

/-- The actions of the rules that match, given what is known of the client. -/
def Arrival.actions
    (arrival : Arrival Expression Value)
    (record : GeoipRecord) : List (Rule Expression × Action) :=
  matchingActions language arrival.listener.rules
    (rulesContext language arrival.listener arrival.client record arrival.req)

/-- The request as it is given to the captcha manager or to a service. -/
def Arrival.handed
    (arrival : Arrival Expression Value)
    (record : GeoipRecord) : Request :=
  { arrival.req with
    extension :=
      some (requestContext arrival.listener arrival.client record
        arrival.req) }

/-- A handler has got past an action: it was answered what the action asks. -/
structure GotPast
    (arrival : Arrival Expression Value)
    (log : List (ListenerExchange Expression))
    (entry : Rule Expression × Action) : Prop where
  notBlock : entry.2 ≠ .block
  captcha :
    entry.2 = .captcha →
      ∃ cookie,
        ⟨.validateCaptchaVerifiedCookie cookie (arrival.clientId sha256),
          .ok ()⟩ ∈ log
  limit :
    ∀ limiter, limiterOf entry = some limiter →
      ⟨.probe limiter arrival.client.ip, .received (.ok true)⟩ ∈ log

/-- What a handler may ask, given what it was answered before. -/
def MayAsk
    (arrival : Arrival Expression Value)
    (log : List (ListenerExchange Expression)) :
    ListenerQuery Expression → Prop
  | .geoipLookup ip =>
      ip = arrival.client.ip ∧ arrival.listener.geoip = true ∧ log = []
  | .validateCaptchaVerifiedCookie cookie clientId =>
      clientId = arrival.clientId sha256 ∧
        ⟨captchaVerifiedCookie, cookie⟩ ∈ parseCookies splitParse arrival.req
  | .serveCaptchaRequest req cookies clientId =>
      req = arrival.handed (loggedRecord log) ∧
        cookies = parseCookies splitParse arrival.req ∧
        clientId = arrival.clientId sha256
  | .probe _ ip =>
      ip = arrival.client.ip
  | .handle service req =>
      service ∈ arrival.listener.services ∧
        req = arrival.handed (loggedRecord log) ∧
        ∀ entry ∈ arrival.actions language (loggedRecord log),
          GotPast sha256 arrival log entry

variable {arrival : Arrival Expression Value}
variable {log : List (ListenerExchange Expression)}
variable {sha256}

/-- What a handler got past stays behind it. -/
theorem GotPast.snoc
    {entry : Rule Expression × Action}
    (gotPast : GotPast sha256 arrival log entry)
    (made : ListenerExchange Expression) :
    GotPast sha256 arrival (log ++ [made]) entry := by
  refine ⟨gotPast.notBlock, fun isCaptcha => ?_, fun limiter isLimiter => ?_⟩
  · obtain ⟨cookie, member⟩ := gotPast.captcha isCaptcha
    exact ⟨cookie, List.mem_append_left _ member⟩
  · exact List.mem_append_left _ (gotPast.limit limiter isLimiter)

variable {language splitParse captchaPage}

/-- Dispatching asks a service when the handler has got past all actions. -/
theorem asksAfter_dispatch
    (gotPast :
      ∀ entry ∈ arrival.actions language (loggedRecord log),
        GotPast sha256 arrival log entry) :
    AsksAfter (MayAsk language splitParse sha256 arrival) log
      (dispatch language arrival.listener.services
        (rulesContext language arrival.listener arrival.client
          (loggedRecord log) arrival.req)
        (arrival.handed (loggedRecord log))) := by
  unfold dispatch
  split
  · next service found =>
      exact ⟨⟨List.mem_of_find?_eq_some found, rfl, gotPast⟩, fun _ => trivial⟩
  · trivial

/-- A scan goes past one action after another. -/
theorem asksAfter_scanActions
    {captchaVerified : Bool}
    {record : GeoipRecord}
    {passed rest : List (Rule Expression × Action)}
    (known : loggedRecord log = record)
    (verified :
      captchaVerified = true →
        ∃ cookie,
          ⟨.validateCaptchaVerifiedCookie cookie (arrival.clientId sha256),
            .ok ()⟩ ∈ log)
    (all : arrival.actions language record = passed ++ rest)
    (gotPast : ∀ entry ∈ passed, GotPast sha256 arrival log entry) :
    AsksAfter (MayAsk language splitParse sha256 arrival) log
      (scanActions captchaPage captchaVerified arrival.client.ip
        (dispatch language arrival.listener.services
          (rulesContext language arrival.listener arrival.client record
            arrival.req)
          (arrival.handed record))
        rest) := by
  induction rest generalizing log passed with
  | nil =>
      subst record
      rw [List.append_nil] at all
      exact asksAfter_dispatch (all ▸ gotPast)
  | cons entry rest inductionHypothesis =>
      obtain ⟨rule, action⟩ := entry
      have allPast
          {log : List (ListenerExchange Expression)}
          (earlier : ∀ entry ∈ passed, GotPast sha256 arrival log entry)
          (entryPast : GotPast sha256 arrival log (rule, action)) :
          ∀ entry ∈ passed ++ [(rule, action)],
            GotPast sha256 arrival log entry := by
        rw [List.forall_mem_append]
        exact ⟨earlier, by simpa using entryPast⟩
      have split : arrival.actions language record =
          (passed ++ [(rule, action)]) ++ rest := by
        rw [all, List.append_assoc, List.singleton_append]
      cases action with
      | block =>
          trivial
      | captcha =>
          rw [scanActions]
          cases captchaVerified with
          | false =>
              trivial
          | true =>
              exact inductionHypothesis known verified split (allPast gotPast
                ⟨by simp, fun _ => verified rfl, by simp [limiterOf]⟩)
      | limit =>
          rw [scanActions]
          cases hasLimiter : rule.limiterTx with
          | none =>
              exact inductionHypothesis known verified split (allPast gotPast
                ⟨by simp, by simp, by simp [limiterOf, hasLimiter]⟩)
          | some limiter =>
              refine AsksAfter.request_bind rfl fun reply => ?_
              rcases reply with _ | _ | ⟨⟨⟩ | ⟨_ | _⟩⟩
              · trivial
              · trivial
              · trivial
              · trivial
              · refine inductionHypothesis
                  ((loggedRecord_snoc rfl log).trans known) ?_ split
                  (allPast (fun entry member => (gotPast entry member).snoc _)
                    ⟨by simp, by simp, ?_⟩)
                · intro isVerified
                  obtain ⟨cookie, member⟩ := verified isVerified
                  exact ⟨cookie, List.mem_append_left _ member⟩
                · intro other isLimiter
                  cases isLimiter.symm.trans hasLimiter
                  exact List.mem_append_right _ (List.mem_singleton_self _)

/-- The reference asks what it may, for the record it was given. -/
theorem asksAfter_referencePipeline
    {record : GeoipRecord}
    (known : loggedRecord log = record) :
    AsksAfter (MayAsk language splitParse sha256 arrival) log
      (referencePipeline language splitParse captchaPage sha256
        arrival.listener arrival.client record arrival.req) := by
  unfold referencePipeline
  dsimp only
  split
  · trivial
  split
  · exact AsksAfter.request_bind ⟨by rw [known]; rfl, rfl, rfl⟩
      fun _ => trivial
  split
  · exact asksAfter_scanActions known nofun (List.nil_append _).symm
      (by simp)
  · next cookie found =>
      have isCookie : cookie.name = captchaVerifiedCookie := by
        simpa using List.find?_some found
      refine AsksAfter.request_bind ⟨rfl, ?_⟩ fun reply => ?_
      · rw [← isCookie]
        exact List.mem_of_find?_eq_some found
      · rcases reply with ⟨⟩ | ⟨⟩
        · trivial
        · exact asksAfter_scanActions ((loggedRecord_snoc rfl log).trans known)
            (fun _ => ⟨cookie.value,
              List.mem_append_right _ (List.mem_singleton_self _)⟩)
            (List.nil_append _).symm (by simp)

/-- A handler asks only what it may. -/
theorem asksAfter_serveArrival (arrival : Arrival Expression Value) :
    AsksAfter (MayAsk language splitParse sha256 arrival) []
      (serveArrival language splitParse captchaPage sha256 arrival) := by
  rw [serveArrival, serveHttpRequest_eq_reference, clientGeoipRecord]
  split
  · next enabled =>
      refine AsksAfter.request_bind ⟨rfl, enabled, rfl⟩ fun reply => ?_
      cases reply with
      | error =>
          exact asksAfter_referencePipeline rfl
      | ok record =>
          exact asksAfter_referencePipeline rfl
  · exact asksAfter_referencePipeline rfl

/-- A handler looks up its client before it asks anything else. -/
theorem asksAfter_looksUp (arrival : Arrival Expression Value) :
    AsksAfter
      (fun log asked =>
        arrival.listener.geoip = true →
          asked = .geoipLookup arrival.client.ip ∨
            ∃ reply, ⟨.geoipLookup arrival.client.ip, reply⟩ ∈ log) []
      (serveArrival language splitParse captchaPage sha256 arrival) := by
  rw [serveArrival, serveHttpRequest_eq_reference, clientGeoipRecord]
  split
  · refine AsksAfter.request_bind (fun _ => .inl rfl) fun reply => ?_
    refine AsksAfter.of_stable ?_ (fun log asked looked _ => .inr looked)
      ⟨reply, List.mem_singleton_self _⟩
    rintro log made ⟨other, member⟩
    exact ⟨other, List.mem_append_left _ member⟩
  · next disabled =>
      exact AsksAfter.of_stable (fun _ _ => id)
        (fun _ _ notEnabled enabled => absurd enabled notEnabled) disabled

/-- A request below the path of the captcha is given to the captcha manager. -/
theorem serveArrival_of_captchaPath
    (arrival : Arrival Expression Value)
    (noGeoip : arrival.listener.geoip = false)
    (notBlocked : ¬ HasBlockedUserAgent arrival.req)
    (isCaptcha :
      (getPath arrival.req).startsWith "/__pingoo/captcha".toList = true) :
    serveArrival language splitParse captchaPage sha256 arrival =
      captchaRequest (arrival.handed GeoipRecord.default)
        (parseCookies splitParse arrival.req) (arrival.clientId sha256) := by
  rw [serveArrival, serveHttpRequest_eq_reference, clientGeoipRecord, noGeoip,
    if_neg Bool.false_ne_true, Program.pure_bind]
  unfold referencePipeline
  dsimp only
  rw [if_neg notBlocked, if_pos isCaptcha]
  rfl

/-- A request without the cookie of a passed challenge is scanned. -/
theorem referencePipeline_of_noCookie
    (arrival : Arrival Expression Value)
    (record : GeoipRecord)
    (notBlocked : ¬ HasBlockedUserAgent arrival.req)
    (notCaptcha :
      ¬ (getPath arrival.req).startsWith "/__pingoo/captcha".toList = true)
    (noCookie :
      ((parseCookies splitParse arrival.req).find? fun cookie =>
        cookie.name = captchaVerifiedCookie) = none) :
    referencePipeline language splitParse captchaPage sha256 arrival.listener
        arrival.client record arrival.req =
      scanActions captchaPage false arrival.client.ip
        (dispatch language arrival.listener.services
          (rulesContext language arrival.listener arrival.client record
            arrival.req)
          (arrival.handed record))
        (arrival.actions language record) := by
  unfold referencePipeline
  dsimp only
  rw [if_neg notBlocked, if_neg notCaptcha, noCookie]
  rfl

/-- Any other request without the cookie of a passed challenge is scanned. -/
theorem serveArrival_of_noCookie
    (arrival : Arrival Expression Value)
    (noGeoip : arrival.listener.geoip = false)
    (notBlocked : ¬ HasBlockedUserAgent arrival.req)
    (notCaptcha :
      ¬ (getPath arrival.req).startsWith "/__pingoo/captcha".toList = true)
    (noCookie :
      ((parseCookies splitParse arrival.req).find? fun cookie =>
        cookie.name = captchaVerifiedCookie) = none) :
    serveArrival language splitParse captchaPage sha256 arrival =
      scanActions captchaPage false arrival.client.ip
        (dispatch language arrival.listener.services
          (rulesContext language arrival.listener arrival.client
            GeoipRecord.default arrival.req)
          (arrival.handed GeoipRecord.default))
        (arrival.actions language GeoipRecord.default) := by
  rw [serveArrival, serveHttpRequest_eq_reference, clientGeoipRecord, noGeoip,
    if_neg Bool.false_ne_true, Program.pure_bind]
  exact referencePipeline_of_noCookie arrival GeoipRecord.default notBlocked
    notCaptcha noCookie

/-- A request with that cookie is scanned when the cookie is valid. -/
theorem serveArrival_of_cookie
    (arrival : Arrival Expression Value)
    (noGeoip : arrival.listener.geoip = false)
    (notBlocked : ¬ HasBlockedUserAgent arrival.req)
    (notCaptcha :
      ¬ (getPath arrival.req).startsWith "/__pingoo/captcha".toList = true)
    {cookie : Cookie}
    (found :
      ((parseCookies splitParse arrival.req).find? fun cookie =>
        cookie.name = captchaVerifiedCookie) = some cookie) :
    ∃ next,
      serveArrival language splitParse captchaPage sha256 arrival =
          .ask (.validateCaptchaVerifiedCookie cookie.value
            (arrival.clientId sha256)) next ∧
        next (.ok ()) =
          scanActions captchaPage true arrival.client.ip
            (dispatch language arrival.listener.services
              (rulesContext language arrival.listener arrival.client
                GeoipRecord.default arrival.req)
              (arrival.handed GeoipRecord.default))
            (arrival.actions language GeoipRecord.default) := by
  rw [serveArrival, serveHttpRequest_eq_reference, clientGeoipRecord, noGeoip,
    if_neg Bool.false_ne_true, Program.pure_bind]
  unfold referencePipeline
  dsimp only
  rw [if_neg notBlocked, if_neg notCaptcha, found]
  exact ⟨_, rfl, rfl⟩

end

/-- A language without expressions: rules and routes have no condition. -/
def noExpressions : ExpressionLanguage Empty Unit Unit where
  context _ _ _ :=
    ()
  execute _ _ :=
    .ok ()
  isTrue _ :=
    true

/-- A `User-Agent` header that is not empty. -/
def sampleAgent : HeaderValue :=
  ⟨Str.asBytes "curl".toList, by decide⟩

end Pingoo
