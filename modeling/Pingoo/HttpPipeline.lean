import Pingoo.HttpListener

namespace Pingoo

/-!
# The pipeline of a request

The handler is compared with a reference that has no nested loops: it scans one
list, the actions of all matching rules, and stops at the first that ends the
request.  From the reference follows what a request went through before a
service handled it, in every environment.
-/

open Interaction

section

variable {Expression Context Value : Type}
variable (language : ExpressionLanguage Expression Context Value)
variable (splitParse : Str → List (Except Unit Cookie))
variable (captchaPage : Response) (sha256 : Sha256)

/--
A request is blocked when its user agent, without the white space around it, is
missing, not visible ASCII, empty or too long.
-/
def HasBlockedUserAgent (req : Request) : Prop :=
  match req.headers.get .userAgent with
  | none => True
  | some header =>
      match header.toStr with
      | none => True
      | some text => text.trim = [] ∨ 256 ≤ text.trim.len

instance (req : Request) : Decidable (HasBlockedUserAgent req) := by
  unfold HasBlockedUserAgent
  split
  · exact inferInstanceAs (Decidable True)
  · split
    · exact inferInstanceAs (Decidable True)
    · exact inferInstanceAs (Decidable (_ ∨ _))

/-- The actions of the matching rules, in (rule, action) order. -/
def matchingActions
    (rules : List (Rule Expression))
    (rulesCtx : Context) : List (Rule Expression × Action) :=
  (rules.filter fun rule => rule.matchRequest language rulesCtx).flatMap
    fun rule => rule.actions.map fun action => (rule, action)

/-- The service that is given a request: the first whose route matches. -/
def dispatch
    (services : List (HttpService Expression))
    (rulesCtx : Context)
    (req : Request) : ListenerProgram Expression Response :=
  match services.find? fun service => service.matchRequest language rulesCtx with
  | some service => handle service req
  | none => pure newNotFoundError

/-- The limiter an action asks: that of its rule, for a limit action. -/
def limiterOf : Rule Expression × Action → Option ProbeSender
  | (rule, .limit) =>
      rule.limiterTx
  | _ =>
      none

/--
Stop at the first block action, captcha action without a valid cookie, or limit
action whose limiter did not answer `Ok(true)`; dispatch when there is none.
-/
def scanActions
    (captchaVerified : Bool)
    (ip : IpAddr)
    (dispatched : ListenerProgram Expression Response) :
    List (Rule Expression × Action) → ListenerProgram Expression Response
  | [] =>
      dispatched
  | (_, .block) :: _ =>
      pure newBlockedResponse
  | (_, .captcha) :: rest =>
      if captchaVerified then
        scanActions captchaVerified ip dispatched rest
      else
        pure captchaPage
  | (rule, .limit) :: rest =>
      match rule.limiterTx with
      | none => scanActions captchaVerified ip dispatched rest
      | some limiter => do
          match ← probe limiter ip with
          | .received (.ok true) =>
              scanActions captchaVerified ip dispatched rest
          | .received (.ok false) => pure newTooManyRequestsResponse429
          | .received (.error ()) => pure newServiceUnavailableError503
          | .notSent => pure newInternalErrorResponse500
          | .notReceived => pure newInternalErrorResponse500

/-- The id of the client a request comes from. -/
def requestClientId (client : SocketAddr) (req : Request) : Str :=
  (generateCaptchaClientId sha256 client.ip (getUserAgent req).text
    (getHost req).text).text

/-- The handler as a reference, for a client with a known record. -/
def referencePipeline
    (listener : HttpListener Expression Value)
    (client : SocketAddr)
    (record : GeoipRecord)
    (req : Request) : ListenerProgram Expression Response :=
  let clientId := requestClientId sha256 client req
  let cookies := parseCookies splitParse req
  let rulesCtx := rulesContext language listener client record req
  let handed := { req with
    extension := some (requestContext listener client record req) }
  let dispatched := dispatch language listener.services rulesCtx handed
  let actions := matchingActions language listener.rules rulesCtx
  if HasBlockedUserAgent req then
    pure newBlockedResponse
  else if (getPath req).startsWith "/__pingoo/captcha".toList then
    captchaRequest handed cookies clientId
  else
    match cookies.find? fun cookie => cookie.name = captchaVerifiedCookie with
    | none => scanActions captchaPage false client.ip dispatched actions
    | some cookie => do
        match ← validateCookie cookie.value clientId with
        | .error () => pure captchaPage
        | .ok () => scanActions captchaPage true client.ip dispatched actions

section Cookies

variable {splitParse}
variable {req : Request}

/-- The cookies of a request are those in its first `cookie` header. -/
theorem parseCookies_of_first
    {header : HeaderValue}
    {text : Str}
    (isFirst : req.headers.get .cookie = some header)
    (isText : header.toStr = some text) :
    parseCookies splitParse req =
      (splitParse text).filterMap Except.toOption := by
  rw [parseCookies, isFirst]
  dsimp only
  rw [isText]

/-- A cookie is read in the first `cookie` header, whatever the others have. -/
theorem mem_parseCookies_iff {cookie : Cookie} :
    cookie ∈ parseCookies splitParse req ↔
      ∃ header others text,
        req.headers.getAll .cookie = header :: others ∧
          header.toStr = some text ∧ .ok cookie ∈ splitParse text := by
  cases areHeaders : req.headers.getAll .cookie with
  | nil =>
      have noHeader : req.headers.get .cookie = none := by
        rw [FieldMap.get, areHeaders]
        rfl
      simp [parseCookies, noHeader]
  | cons header others =>
      have isFirst : req.headers.get .cookie = some header := by
        rw [FieldMap.get, areHeaders]
        rfl
      cases isText : header.toStr with
      | none =>
          simp [parseCookies, isFirst, isText]
      | some text =>
          rw [parseCookies_of_first isFirst isText]
          constructor
          · intro member
            obtain ⟨made, isMade, isCookie⟩ := List.mem_filterMap.mp member
            cases made with
            | error =>
                cases isCookie
            | ok same =>
                cases isCookie
                exact ⟨header, others, text, rfl, isText, isMade⟩
          · rintro ⟨_, _, _, ⟨⟩, sameText, isMade⟩
            cases isText.symm.trans sameText
            exact List.mem_filterMap.mpr ⟨_, isMade, rfl⟩

end Cookies

section Equivalence

/-- The user agent the handler keeps is unusable exactly when it is blocked. -/
theorem userAgent_blocked_iff (req : Request) :
    ((getUserAgent req).text = [] ∨
      userAgentMaxLength ≤ (getUserAgent req).text.len) ↔
      HasBlockedUserAgent req := by
  have emptyBlocked :
      (HeaplessString.fromStrOrDefault [] :
        HeaplessString userAgentMaxLength).text = [] := by
    decide
  unfold getUserAgent HasBlockedUserAgent
  cases req.headers.get .userAgent with
  | none =>
      simp [emptyBlocked]
  | some header =>
      cases read : header.toStr with
      | none =>
          have trimmed : Str.trim [] = [] := rfl
          simp [read, emptyBlocked, trimmed]
      | some text =>
          simp only [Option.map_some, Option.getD_some, read]
          by_cases fits : text.trim.len ≤ userAgentMaxLength
          · have kept : (HeaplessString.fromStrOrDefault text.trim :
                HeaplessString userAgentMaxLength) = ⟨text.trim, fits⟩ := by
              simp [HeaplessString.fromStrOrDefault, HeaplessString.fromStr,
                fits]
            rw [kept]
            exact Iff.rfl
          · have tooLong : 256 ≤ text.trim.len := by
              unfold userAgentMaxLength at fits
              omega
            simp [HeaplessString.fromStrOrDefault, HeaplessString.fromStr, fits,
              tooLong, HeaplessString.new]

/-- The search for a service is a search for the first that matches. -/
theorem routeRequest_eq_dispatch
    (rulesCtx : Context)
    (req : Request)
    (services : List (HttpService Expression)) :
    routeRequest language rulesCtx req services =
      dispatch language services rulesCtx req := by
  induction services with
  | nil =>
      rfl
  | cons service rest inductionHypothesis =>
      rw [routeRequest, dispatch]
      cases isMatch : service.matchRequest language rulesCtx with
      | true =>
          simp [isMatch]
      | false =>
          simp [isMatch, inductionHypothesis, dispatch]

/-- The actions of one rule and what follows them are one scan. -/
theorem applyActions_bind_eq_scanActions
    (captchaVerified : Bool)
    (ip : IpAddr)
    (dispatched : ListenerProgram Expression Response)
    (rule : Rule Expression)
    (rest : List (Rule Expression × Action))
    (actions : List Action) :
    (do
      match ← applyActions captchaPage captchaVerified ip rule actions with
      | some res => pure res
      | none => scanActions captchaPage captchaVerified ip dispatched rest) =
      scanActions captchaPage captchaVerified ip dispatched
        (actions.map (fun action => (rule, action)) ++ rest) := by
  induction actions with
  | nil =>
      rfl
  | cons action others inductionHypothesis =>
      rw [List.map_cons, List.cons_append]
      cases action with
      | block =>
          rfl
      | captcha =>
          rw [applyActions, scanActions]
          cases captchaVerified with
          | false =>
              rfl
          | true =>
              exact inductionHypothesis
      | limit =>
          rw [applyActions, scanActions]
          cases rule.limiterTx with
          | none =>
              exact inductionHypothesis
          | some limiter =>
              simp only [limitHttpRequest, Program.bind_assoc,
                Program.pure_bind]
              congr 1
              funext reply
              cases reply with
              | notSent =>
                  rfl
              | notReceived =>
                  rfl
              | received result =>
                  cases result with
                  | error =>
                      rfl
                  | ok canResume =>
                      cases canResume with
                      | false =>
                          rfl
                      | true =>
                          exact inductionHypothesis

/-- The rules and what follows them are one scan of the matching actions. -/
theorem applyRules_bind_eq_scanActions
    (captchaVerified : Bool)
    (ip : IpAddr)
    (dispatched : ListenerProgram Expression Response)
    (rulesCtx : Context)
    (rules : List (Rule Expression)) :
    (do
      match ← applyRules language captchaPage captchaVerified ip rulesCtx
          rules with
      | some res => pure res
      | none => dispatched) =
      scanActions captchaPage captchaVerified ip dispatched
        (matchingActions language rules rulesCtx) := by
  induction rules with
  | nil =>
      rfl
  | cons rule rest inductionHypothesis =>
      rw [applyRules]
      cases isMatch : rule.matchRequest language rulesCtx with
      | false =>
          have skipped : matchingActions language (rule :: rest) rulesCtx =
              matchingActions language rest rulesCtx := by
            simp [matchingActions, isMatch]
          rw [skipped, ← inductionHypothesis]
          rfl
      | true =>
          have taken : matchingActions language (rule :: rest) rulesCtx =
              rule.actions.map (fun action => (rule, action)) ++
                matchingActions language rest rulesCtx := by
            simp [matchingActions, isMatch]
          rw [taken, ← applyActions_bind_eq_scanActions, if_pos rfl,
            Program.bind_assoc]
          congr 1
          funext outcome
          cases outcome with
          | some res =>
              rfl
          | none =>
              exact inductionHypothesis

/-- Applying the rules and routing is one scan that ends in dispatching. -/
theorem applyRulesAndRoute_eq_scanActions
    (listener : HttpListener Expression Value)
    (client : SocketAddr)
    (rulesCtx : Context)
    (captchaVerified : Bool)
    (req : Request) :
    applyRulesAndRoute language captchaPage listener client rulesCtx
        captchaVerified req =
      scanActions captchaPage captchaVerified client.ip
        (dispatch language listener.services rulesCtx req)
        (matchingActions language listener.rules rulesCtx) := by
  unfold applyRulesAndRoute
  rw [routeRequest_eq_dispatch]
  exact applyRules_bind_eq_scanActions language captchaPage captchaVerified
    client.ip _ rulesCtx listener.rules

/-- The handler is the reference, after the look-up of the client's record. -/
theorem serveHttpRequest_eq_reference
    (listener : HttpListener Expression Value)
    (client : SocketAddr)
    (req : Request) :
    serveHttpRequest language splitParse captchaPage sha256 listener client
        req =
      clientGeoipRecord listener.geoip client.ip >>= fun record =>
        referencePipeline language splitParse captchaPage sha256 listener client
          record req := by
  unfold serveHttpRequest
  congr 1
  funext record
  unfold referencePipeline
  simp only [userAgent_blocked_iff, applyRulesAndRoute_eq_scanActions]
  congr 2
  cases (parseCookies splitParse req).find? fun cookie =>
      cookie.name = captchaVerifiedCookie with
  | none =>
      rfl
  | some cookie =>
      dsimp only
      congr 1
      funext validity
      cases validity <;> rfl

end Equivalence

section Runs

/-- The environment of the handler: an answer to each call, in its turn. -/
abbrev ListenerOracle (Expression : Type) :=
  List (ListenerQuery Expression) →
    (query : ListenerQuery Expression) → query.Answer

/-- The limiter a call probes. -/
def ListenerQuery.limiter :
    ListenerQuery Expression → Option ProbeSender
  | .probe limiter _ =>
      some limiter
  | _ =>
      none

/-- A service handles the request. -/
def IsHandled (log : List (ListenerQuery Expression)) : Prop :=
  ∃ service req, .handle service req ∈ log

/-- A limiter that is probed lets the request go on. -/
def LetsGoOn : (query : ListenerQuery Expression) → query.Answer → Prop
  | .probe _ _, reply =>
      reply = .received (.ok true)
  | .geoipLookup _, _ =>
      True
  | .validateCaptchaVerifiedCookie _ _, _ =>
      True
  | .serveCaptchaRequest _ _ _, _ =>
      True
  | .handle _ _, _ =>
      True

/-- A cookie is found valid for a client. -/
def FindsCookieValid (clientId : Str) :
    (query : ListenerQuery Expression) → query.Answer → Prop
  | .validateCaptchaVerifiedCookie _ presentedBy, reply =>
      presentedBy = clientId ∧ reply = .ok ()
  | .geoipLookup _, _ =>
      False
  | .serveCaptchaRequest _ _ _, _ =>
      False
  | .probe _ _, _ =>
      False
  | .handle _ _, _ =>
      False

/--
What a scan of some actions may add to a log: the limiters of the actions it
reached, each once and in order, and a service only when it reached all actions
and none of them ended the request.
-/
def IsSafeScan
    (oracle : ListenerOracle Expression)
    (captchaVerified : Bool)
    (log : List (ListenerQuery Expression))
    (actions : List (Rule Expression × Action))
    (final : List (ListenerQuery Expression)) : Prop :=
  ∃ reached unreached added,
    actions = reached ++ unreached ∧
    final = log ++ added ∧
    added.filterMap ListenerQuery.limiter = reached.filterMap limiterOf ∧
    (IsHandled added →
      unreached = [] ∧
      (∀ entry ∈ actions, entry.2 ≠ .block ∧
        (entry.2 = .captcha → captchaVerified = true)) ∧
      Program.EveryAnswer oracle LetsGoOn log added)

namespace IsSafeScan

variable {oracle : ListenerOracle Expression}
variable {captchaVerified : Bool}
variable {log final : List (ListenerQuery Expression)}
variable {rule : Rule Expression} {action : Action}
variable {rest : List (Rule Expression × Action)}
variable {limiter : ProbeSender}

/-- A scan that ends without asking anything. -/
theorem stop
    (noLimiter : limiterOf (rule, action) = none) :
    IsSafeScan oracle captchaVerified log ((rule, action) :: rest) log := by
  refine ⟨[(rule, action)], rest, [], rfl, by simp, by simp [noLimiter], ?_⟩
  rintro ⟨service, req, member⟩
  cases member

/-- A scan that goes on without asking anything. -/
theorem skip
    (noLimiter : limiterOf (rule, action) = none)
    (notBlock : action ≠ .block)
    (verified : action = .captcha → captchaVerified = true)
    (scan : IsSafeScan oracle captchaVerified log rest final) :
    IsSafeScan oracle captchaVerified log ((rule, action) :: rest) final := by
  obtain ⟨reached, unreached, added, split, whole, probes, safe⟩ := scan
  refine ⟨(rule, action) :: reached, unreached, added, by simp [split], whole,
    by simp [probes, noLimiter], fun handled => ?_⟩
  obtain ⟨all, restSafe, passed⟩ := safe handled
  exact ⟨all, List.forall_mem_cons.mpr ⟨⟨notBlock, verified⟩, restSafe⟩, passed⟩

/-- A scan that ends at a limiter. -/
theorem refuse
    (ip : IpAddr)
    (hasLimiter : limiterOf (rule, action) = some limiter) :
    IsSafeScan oracle captchaVerified log ((rule, action) :: rest)
      (log ++ [.probe limiter ip]) := by
  refine ⟨[(rule, action)], rest, [.probe limiter ip], rfl, rfl,
    by simp [hasLimiter, ListenerQuery.limiter], ?_⟩
  rintro ⟨service, req, member⟩
  simp at member

/-- A scan that goes on after a limiter let it. -/
theorem letGoOn
    {ip : IpAddr}
    (hasLimiter : rule.limiterTx = some limiter)
    (reply : oracle log (.probe limiter ip) = .received (.ok true))
    (scan :
      IsSafeScan oracle captchaVerified (log ++ [.probe limiter ip]) rest
        final) :
    IsSafeScan oracle captchaVerified log ((rule, .limit) :: rest) final := by
  obtain ⟨reached, unreached, added, split, whole, probes, safe⟩ := scan
  refine ⟨(rule, .limit) :: reached, unreached, .probe limiter ip :: added,
    by simp [split], by simp [whole],
    by simp [probes, limiterOf, hasLimiter, ListenerQuery.limiter], ?_⟩
  rintro ⟨service, req, member⟩
  have inAdded : .handle service req ∈ added := by
    simpa using member
  obtain ⟨all, restSafe, passed⟩ := safe ⟨service, req, inAdded⟩
  exact ⟨all, List.forall_mem_cons.mpr ⟨⟨by simp, by simp⟩, restSafe⟩,
    reply, passed⟩

/-- A program that probes nothing ends a scan in which all actions passed. -/
theorem dispatch
    {α : Type}
    {program : ListenerProgram Expression α}
    (noProbe : program.Asks fun query => query.limiter = none) :
    IsSafeScan oracle captchaVerified log [] (program.run oracle log).2 := by
  obtain ⟨added, whole, allowed⟩ := noProbe.run_eq_append oracle log
  refine ⟨[], [], added, rfl, whole, List.filterMap_eq_nil_iff.mpr allowed,
    fun _ => ⟨rfl, by simp, ?_⟩⟩
  refine Program.EveryAnswer.of_forall oracle fun query member reply => ?_
  have notProbe := allowed query member
  cases query <;> trivial

end IsSafeScan

/-- Every scan is safe. -/
theorem isSafeScan_scanActions
    (oracle : ListenerOracle Expression)
    (captchaVerified : Bool)
    (ip : IpAddr)
    {dispatched : ListenerProgram Expression Response}
    (noProbe : dispatched.Asks fun query => query.limiter = none)
    (log : List (ListenerQuery Expression))
    (actions : List (Rule Expression × Action)) :
    IsSafeScan oracle captchaVerified log actions
      ((scanActions captchaPage captchaVerified ip dispatched actions).run
        oracle log).2 := by
  induction actions generalizing log with
  | nil =>
      exact IsSafeScan.dispatch noProbe
  | cons entry rest inductionHypothesis =>
      obtain ⟨rule, action⟩ := entry
      cases action with
      | block =>
          exact IsSafeScan.stop rfl
      | captcha =>
          rw [scanActions]
          cases captchaVerified with
          | false =>
              exact IsSafeScan.stop rfl
          | true =>
              exact IsSafeScan.skip rfl (by simp) (fun _ => rfl)
                (inductionHypothesis log)
      | limit =>
          rw [scanActions]
          cases hasLimiter : rule.limiterTx with
          | none =>
              exact IsSafeScan.skip hasLimiter (by simp) (by simp)
                (inductionHypothesis log)
          | some limiter =>
              dsimp only
              rw [probe, Program.run_request_bind]
              cases reply : oracle log (.probe limiter ip) with
              | notSent =>
                  exact IsSafeScan.refuse ip hasLimiter
              | notReceived =>
                  exact IsSafeScan.refuse ip hasLimiter
              | received result =>
                  cases result with
                  | error =>
                      exact IsSafeScan.refuse ip hasLimiter
                  | ok canResume =>
                      cases canResume with
                      | false =>
                          exact IsSafeScan.refuse ip hasLimiter
                      | true =>
                          exact IsSafeScan.letGoOn hasLimiter reply
                            (inductionHypothesis _)

/-- The record the handler works with. -/
def clientRecord
    (oracle : ListenerOracle Expression)
    (listener : HttpListener Expression Value)
    (client : SocketAddr) : GeoipRecord :=
  ((clientGeoipRecord listener.geoip client.ip).run oracle []).1

/--
What a request may add to a log: the limiters of the actions it reached, each
once and in order, and a service only when no matching rule blocks, every
captcha is passed with a cookie that was found valid for the client, and every
limiter let the request go on.
-/
def IsSafeRun
    (oracle : ListenerOracle Expression)
    (clientId : Str)
    (actions : List (Rule Expression × Action))
    (log added : List (ListenerQuery Expression)) : Prop :=
  ∃ reached unreached,
    actions = reached ++ unreached ∧
    added.filterMap ListenerQuery.limiter = reached.filterMap limiterOf ∧
    (IsHandled added →
      unreached = [] ∧
      (∀ entry ∈ actions, entry.2 ≠ .block ∧
        (entry.2 = .captcha →
          Program.SomeAnswer oracle (FindsCookieValid clientId) log added)) ∧
      Program.EveryAnswer oracle LetsGoOn log added)

/-- A request that never comes to the rules asks no limiter and no service. -/
theorem IsSafeRun.of_early
    {oracle : ListenerOracle Expression}
    {clientId : Str}
    {actions : List (Rule Expression × Action)}
    {log added : List (ListenerQuery Expression)}
    (early : ∀ query ∈ added,
      query.limiter = none ∧ ∀ service req, query ≠ .handle service req) :
    IsSafeRun oracle clientId actions log added := by
  refine ⟨[], actions, rfl,
    List.filterMap_eq_nil_iff.mpr fun query member => (early query member).1,
    ?_⟩
  rintro ⟨service, req, member⟩
  exact absurd rfl ((early _ member).2 service req)

/--
What is asked before a safe run, about nothing it is about, does not matter.
-/
theorem IsSafeRun.cons
    {oracle : ListenerOracle Expression}
    {clientId : Str}
    {actions : List (Rule Expression × Action)}
    {log added : List (ListenerQuery Expression)}
    {query : ListenerQuery Expression}
    (noLimiter : query.limiter = none)
    (notHandle : ∀ service req, query ≠ .handle service req)
    (run : IsSafeRun oracle clientId actions (log ++ [query]) added) :
    IsSafeRun oracle clientId actions log (query :: added) := by
  obtain ⟨reached, unreached, split, probes, safe⟩ := run
  refine ⟨reached, unreached, split, by simp [probes, noLimiter], ?_⟩
  rintro ⟨service, req, member⟩
  rcases List.mem_cons.mp member with isQuery | inAdded
  · exact absurd isQuery.symm (notHandle service req)
  · obtain ⟨all, passed, letGo⟩ := safe ⟨service, req, inAdded⟩
    refine ⟨all, fun entry inActions => ⟨(passed entry inActions).1,
      fun isCaptcha => Or.inr ((passed entry inActions).2 isCaptcha)⟩, ?_,
      letGo⟩
    cases query <;> trivial

/-- Dispatching asks a service and no limiter. -/
theorem asks_dispatch
    (services : List (HttpService Expression))
    (rulesCtx : Context)
    (req : Request) :
    (dispatch language services rulesCtx req).Asks
      fun query => query.limiter = none := by
  unfold dispatch
  split
  · exact ⟨rfl, fun _ => trivial⟩
  · trivial

/-- The reference runs safely, whatever was asked before. -/
theorem isSafeRun_referencePipeline
    (oracle : ListenerOracle Expression)
    (listener : HttpListener Expression Value)
    (client : SocketAddr)
    (record : GeoipRecord)
    (req : Request)
    (log : List (ListenerQuery Expression)) :
    ∃ added,
      ((referencePipeline language splitParse captchaPage sha256 listener client
        record req).run oracle log).2 = log ++ added ∧
      IsSafeRun oracle (requestClientId sha256 client req)
        (matchingActions language listener.rules
          (rulesContext language listener client record req)) log added := by
  unfold referencePipeline
  dsimp only
  split
  · exact ⟨[], by simp, .of_early (by simp)⟩
  split
  · exact ⟨_, rfl, .of_early (by simp [ListenerQuery.limiter])⟩
  split
  · obtain ⟨reached, unreached, added, split, whole, probes, safe⟩ :=
      isSafeScan_scanActions captchaPage oracle false client.ip
        (asks_dispatch language listener.services _ _) log _
    refine ⟨added, whole, reached, unreached, split, probes, fun handled => ?_⟩
    obtain ⟨all, passed, letGo⟩ := safe handled
    exact ⟨all, fun entry member => ⟨(passed entry member).1,
      fun isCaptcha => by cases (passed entry member).2 isCaptcha⟩, letGo⟩
  · next cookie _ =>
      rw [validateCookie, Program.run_request_bind]
      cases reply : oracle log (.validateCaptchaVerifiedCookie cookie.value
          (requestClientId sha256 client req)) with
      | error =>
          exact ⟨_, rfl, .of_early (by simp [ListenerQuery.limiter])⟩
      | ok =>
          obtain ⟨reached, unreached, added, split, whole, probes, safe⟩ :=
            isSafeScan_scanActions captchaPage oracle true client.ip
              (asks_dispatch language listener.services _ _)
              (log ++ [.validateCaptchaVerifiedCookie cookie.value
                (requestClientId sha256 client req)]) _
          refine ⟨.validateCaptchaVerifiedCookie cookie.value
              (requestClientId sha256 client req) :: added,
            whole.trans (by simp), reached, unreached, split,
            probes, ?_⟩
          rintro ⟨service, handed, member⟩
          have inAdded : .handle service handed ∈ added := by
            simpa using member
          obtain ⟨all, passed, letGo⟩ := safe ⟨service, handed, inAdded⟩
          exact ⟨all, fun entry inActions => ⟨(passed entry inActions).1,
            fun _ => Or.inl ⟨rfl, reply⟩⟩, trivial, letGo⟩

/--
The handler is the reference; and in every environment a request is handled by a
service only after no matching rule blocked it, every captcha was passed with a
cookie valid for the client and every limiter let it go on, while each limiter
was asked exactly once for each limit action that was reached.
-/
theorem serveHttpRequest_pipeline
    (listener : HttpListener Expression Value)
    (client : SocketAddr)
    (req : Request) :
    (serveHttpRequest language splitParse captchaPage sha256 listener client
        req =
      clientGeoipRecord listener.geoip client.ip >>= fun record =>
        referencePipeline language splitParse captchaPage sha256 listener client
          record req) ∧
    ∀ oracle : ListenerOracle Expression,
      IsSafeRun oracle (requestClientId sha256 client req)
        (matchingActions language listener.rules
          (rulesContext language listener client
            (clientRecord oracle listener client) req))
        []
        ((serveHttpRequest language splitParse captchaPage sha256 listener
          client req).queries oracle) := by
  have same := serveHttpRequest_eq_reference language splitParse captchaPage
    sha256 listener client req
  refine ⟨same, fun oracle => ?_⟩
  rw [same, Program.queries, Program.run_bind, ← clientRecord]
  obtain ⟨added, whole, safe⟩ := isSafeRun_referencePipeline language splitParse
    captchaPage sha256 oracle listener client
    (clientRecord oracle listener client) req
    ((clientGeoipRecord listener.geoip client.ip).run oracle []).2
  rw [whole]
  cases enabled : listener.geoip with
  | false =>
      simpa [clientGeoipRecord, enabled] using safe
  | true =>
      have asked : ((clientGeoipRecord true client.ip :
          ListenerProgram Expression GeoipRecord).run oracle []).2 =
          [.geoipLookup client.ip] := by
        rw [clientGeoipRecord, if_pos rfl, geoipLookup,
          Program.run_request_bind]
        cases oracle [] (.geoipLookup client.ip) <;> rfl
      rw [enabled, asked] at safe
      rw [asked]
      exact safe.cons rfl (by simp)

end Runs

end

end Pingoo
