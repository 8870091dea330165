import Pingoo.CaptchaRequests
import Pingoo.HttpListenerLogs

namespace Pingoo

open Interaction Jwt Separated
open Transition (Guarded Run)

/-!
# What a captcha enforces

The handlers of all requests share the captcha manager: some requests are for
its API, others carry the cookie of a passed challenge.  However they are
scheduled, a request that a rule asks a captcha of is given to a service only
after a challenge was started, and solved, by requests of the same client.
-/

section

variable {Expression Context Value : Type}
variable (assets : Str → Option Bytes) (mimeFromExt : Str → Str)
variable (lib : CaptchaLibrary) (manager : CaptchaManager lib.lc)

/--
A cookie is validated at some time, and a request of the captcha is served and
leaves its call of the API in the history.  A panic ends the request without an
answer.
-/
inductive CaptchaAnswers :
    List Exchange → (asked : ListenerQuery Expression) → asked.Answer →
      List Exchange → Prop
  | validated
      {history : List Exchange}
      {cookie clientId : Str}
      {expNow nbfNow : Utc.DateTime}
      (isValid :
        validateCaptchaVerifiedCookie lib manager cookie clientId expNow.nanos
          nbfNow.nanos = .ok ()) :
      CaptchaAnswers history (.validateCaptchaVerifiedCookie cookie clientId)
        (.ok ()) history
  | refused
      {history : List Exchange}
      {cookie clientId : Str}
      {expNow nbfNow : Utc.DateTime}
      {err : CaptchaError}
      (isRefused :
        validateCaptchaVerifiedCookie lib manager cookie clientId expNow.nanos
          nbfNow.nanos = .error (.error err)) :
      CaptchaAnswers history (.validateCaptchaVerifiedCookie cookie clientId)
        (.error ()) history
  | served
      {history : List Exchange}
      {req : Request}
      {cookies : List Cookie}
      {clientId : Str}
      {draws : CaptchaDraws}
      {response : Response}
      (isServed :
        serveCaptchaRequest assets mimeFromExt lib manager req cookies clientId
          draws = some response) :
      CaptchaAnswers history (.serveCaptchaRequest req cookies clientId)
        response
        (history ++ (captchaCall req cookies clientId draws).toList.map
          fun call => ⟨call, some response⟩)
  | geoip
      {history : List Exchange}
      {ip : IpAddr}
      {reply : Except Unit GeoipRecord} :
      CaptchaAnswers history (.geoipLookup ip) reply history
  | probe
      {history : List Exchange}
      {limiter : ProbeSender}
      {ip : IpAddr}
      {reply : ProbeReply} :
      CaptchaAnswers history (.probe limiter ip) reply history
  | handle
      {history : List Exchange}
      {service : HttpService Expression}
      {req : Request}
      {response : Response} :
      CaptchaAnswers history (.handle service req) response history

/-- The captcha manager as the object that the handlers ask. -/
def captchas :
    SharedObject (List Exchange) (ListenerQuery Expression)
      ListenerQuery.Answer where
  changes _ _ :=
    False
  answers :=
    CaptchaAnswers assets mimeFromExt lib manager

/-- The cookies that the manager is shown are no forged tokens. -/
def ShowsNoForgery
    (history : List Exchange)
    (_log : List (ListenerExchange Expression)) :
    ListenerQuery Expression → Prop
  | .validateCaptchaVerifiedCookie cookie _ =>
      NotForged lib manager history cookie
  | .serveCaptchaRequest _ cookies _ =>
      ∀ cookie ∈ cookies, NotForged lib manager history cookie.value
  | _ =>
      True

variable (language : ExpressionLanguage Expression Context Value)
variable (splitParse : Str → List (Except Unit Cookie))
variable (captchaPage : Response) (sha256 : Sha256)

abbrev CaptchaEvent (Expression Value : Type) :=
  PoolEvent (ListenerQuery Expression) ListenerQuery.Answer
    (Arrival Expression Value)

abbrev CaptchaPool (Expression : Type) :=
  Pool (List Exchange) (ListenerQuery Expression) ListenerQuery.Answer Response

/-- One step of the handlers with the manager they share. -/
def CaptchaStep :
    CaptchaPool Expression → CaptchaEvent Expression Value →
      CaptchaPool Expression → Prop :=
  Guarded (Pool.Allows (ShowsNoForgery lib manager))
    (Pool.Step (captchas assets mimeFromExt lib manager)
      (serveArrival language splitParse captchaPage sha256))

/--
The cookie is the proof of a challenge that was started and solved by calls of
this client, as the history tells.
-/
def ProvesPassed
    (history : List Exchange)
    (cookie clientId : Str) : Prop :=
  ∃ earlier verify response later init challengeCookie input expiresAt limit,
    history = earlier ++ ⟨.verify verify, some response⟩ :: later ∧
      response.status = StatusCode.ok ∧
      response.Sets captchaVerifiedCookie cookie ∧
      verify.clientId = clientId ∧
      PassedChallenge lib (Duration.fromSecs 5) earlier verify init
        challengeCookie input expiresAt limit

/-- A request of the run made a call, and got the response. -/
def MadeByRequest
    (events : List (CaptchaEvent Expression Value))
    (exchange : Exchange) : Prop :=
  ∃ index arrival req cookies response,
    .start index arrival ∈ events ∧
      arrival.clientId sha256 = exchange.call.clientId ∧
      getPath arrival.req = exchange.call.path ∧
      exchange.response = some response ∧
      .exchange index
          ⟨.serveCaptchaRequest req cookies exchange.call.clientId, response⟩ ∈
        events

/-- What the history of the manager tells of a run. -/
structure TellsOf
    (events : List (CaptchaEvent Expression Value))
    (pool : CaptchaPool Expression) : Prop where
  answered : Answered lib manager pool.shared
  made :
    ∀ exchange ∈ pool.shared, ∃ index req cookies response,
      getPath req = exchange.call.path ∧
        exchange.response = some response ∧
        .exchange index
            ⟨.serveCaptchaRequest req cookies exchange.call.clientId,
              response⟩ ∈
          events
  proven :
    ∀ index cookie clientId,
      .exchange index ⟨.validateCaptchaVerifiedCookie cookie clientId,
          .ok ()⟩ ∈ events →
        ProvesPassed lib pool.shared cookie clientId

section Run

variable {assets mimeFromExt lib manager}
variable {language splitParse captchaPage sha256}
variable {events : List (CaptchaEvent Expression Value)}
variable {event : CaptchaEvent Expression Value}
variable {before after : CaptchaPool Expression}

/-- What was proven stays proven. -/
theorem ProvesPassed.append
    {history : List Exchange}
    {cookie clientId : Str}
    (proves : ProvesPassed lib history cookie clientId)
    (more : List Exchange) :
    ProvesPassed lib (history ++ more) cookie clientId := by
  obtain ⟨earlier, verify, response, later, init, challengeCookie, input,
    expiresAt, limit, rfl, passed⟩ := proves
  exact ⟨earlier, verify, response, later ++ more, init, challengeCookie, input,
    expiresAt, limit, by simp, passed⟩

/-- A step that calls nothing tells what it finds valid. -/
theorem TellsOf.keep
    (tells : TellsOf lib manager events before)
    (sameHistory : after.shared = before.shared)
    (proves :
      ∀ index cookie clientId,
        event =
            .exchange index
              ⟨.validateCaptchaVerifiedCookie cookie clientId, .ok ()⟩ →
          ProvesPassed lib before.shared cookie clientId) :
    TellsOf lib manager (events ++ [event]) after := by
  constructor
  · rw [sameHistory]
    exact tells.answered
  · rw [sameHistory]
    intro exchange member
    obtain ⟨index, req, cookies, response, isPath, isResponse, isEvent⟩ :=
      tells.made exchange member
    exact ⟨index, req, cookies, response, isPath, isResponse,
      List.mem_append_left _ isEvent⟩
  · rw [sameHistory]
    intro index cookie clientId member
    rcases List.mem_append.mp member with inEvents | isLast
    · exact tells.proven index cookie clientId inEvents
    · exact proves index cookie clientId (List.mem_singleton.mp isLast).symm

/-- A call is answered, and kept in the history. -/
theorem TellsOf.call
    {index : Nat}
    {req : Request}
    {cookies : List Cookie}
    {clientId : Str}
    {draws : CaptchaDraws}
    {response : Response}
    {call : Call}
    (tells : TellsOf lib manager events before)
    (notForged :
      ∀ cookie ∈ cookies, NotForged lib manager before.shared cookie.value)
    (isCall : captchaCall req cookies clientId draws = some call)
    (isServed :
      serveCaptchaRequest assets mimeFromExt lib manager req cookies clientId
        draws = some response)
    (isHistory : after.shared = before.shared ++ [⟨call, some response⟩]) :
    TellsOf lib manager
      (events ++ [.exchange index
        ⟨.serveCaptchaRequest req cookies clientId, response⟩]) after := by
  rw [serveCaptchaRequest_of_call isCall] at isServed
  obtain ⟨isClient, isPath⟩ := captchaCall_spec isCall
  have unforged : WithoutForgery lib manager before.shared call := by
    unfold captchaCall at isCall
    split_ifs at isCall
    · cases isCall
      trivial
    · cases isCall
      exact notForged
  constructor
  · rw [isHistory, ← isServed]
    exact answered_exchangeStep tells.answered unforged
  · rw [isHistory, List.forall_mem_append, List.forall_mem_singleton]
    constructor
    · intro exchange member
      obtain ⟨other, otherReq, otherCookies, otherResponse, otherPath,
        isResponse, isEvent⟩ := tells.made exchange member
      exact ⟨other, otherReq, otherCookies, otherResponse, otherPath,
        isResponse, List.mem_append_left _ isEvent⟩
    · refine ⟨index, req, cookies, response, isPath, rfl, ?_⟩
      rw [isClient]
      exact List.mem_append_right _ (List.mem_singleton_self _)
  · rw [isHistory]
    intro other cookie otherClient member
    have inEvents :
        .exchange other ⟨.validateCaptchaVerifiedCookie cookie otherClient,
          .ok ()⟩ ∈ events := by
      simpa using member
    exact (tells.proven other cookie otherClient inEvents).append _

/-- Every step adds to what the history tells. -/
theorem TellsOf.step
    (laws : lib.serde.ReadsWhatItWrites)
    (tells : TellsOf lib manager events before)
    (taken :
      CaptchaStep assets mimeFromExt lib manager language splitParse captchaPage
        sha256 before event after) :
    TellsOf lib manager (events ++ [event]) after := by
  obtain ⟨allowed, step⟩ := taken
  cases step with
  | change changes =>
      exact absurd changes id
  | start =>
      exact tells.keep rfl nofun
  | exchange isAsking answers =>
      have shown := allowed _ isAsking
      cases answers with
      | validated isValid =>
          refine tells.keep rfl fun index cookie clientId same => ?_
          cases same
          exact accepted_of_validated laws tells.answered shown isValid
      | refused =>
          exact tells.keep rfl nofun
      | @served req cookies clientId draws response isServed =>
          cases isCall : captchaCall req cookies clientId draws with
          | none =>
              exact tells.keep (List.append_nil _) nofun
          | some call =>
              exact tells.call shown isCall isServed rfl
      | geoip =>
          exact tells.keep rfl nofun
      | probe =>
          exact tells.keep rfl nofun
      | handle =>
          exact tells.keep rfl nofun

variable {finish : CaptchaPool Expression}

/-- The history of a run is made of the calls of its requests. -/
theorem madeByRequest_of_run
    (run :
      Run (Pool.Step (captchas assets mimeFromExt lib manager)
        (serveArrival language splitParse captchaPage sha256))
        (.initial []) events finish)
    (tells : TellsOf lib manager events finish)
    {exchange : Exchange}
    (member : exchange ∈ finish.shared) :
    MadeByRequest sha256 events exchange := by
  obtain ⟨index, req, cookies, response, isPath, isResponse, isEvent⟩ :=
    tells.made exchange member
  have inLog := mem_exchangesOf.mpr isEvent
  obtain ⟨arrival, started⟩ := Pool.started_of_run run inLog
  obtain ⟨earlier, later, split⟩ := List.append_of_mem inLog
  obtain ⟨isHanded, _, isClient⟩ :
      MayAsk language splitParse sha256 arrival earlier
        (.serveCaptchaRequest req cookies exchange.call.clientId) :=
    Pool.asked_of_run run started (asksAfter_serveArrival arrival) split
  refine ⟨index, arrival, req, cookies, response, started, isClient.symm, ?_,
    isResponse, isEvent⟩
  rw [← isPath, isHanded]
  rfl

/--
In every run without forged cookies, of which those from before the run are
some: a request that a rule asks a captcha of is given to a service only with a
cookie that goes back to a challenge of the same client, which requests of the
run started and solved.
-/
theorem passedChallenge_of_handled
    {index : Nat}
    {arrival : Arrival Expression Value}
    {earlier later : List (ListenerExchange Expression)}
    {service : HttpService Expression}
    {req : Request}
    {response : Response}
    {rule : Rule Expression}
    (laws : lib.serde.ReadsWhatItWrites)
    (run :
      Run (CaptchaStep assets mimeFromExt lib manager language splitParse
        captchaPage sha256) (.initial []) events finish)
    (started : .start index arrival ∈ events)
    (handled :
      exchangesOf index events =
        earlier ++ ⟨.handle service req, response⟩ :: later)
    (isAsked :
      (rule, .captcha) ∈ arrival.actions language (loggedRecord earlier)) :
    (∃ cookie,
      ⟨captchaVerifiedCookie, cookie⟩ ∈ parseCookies splitParse arrival.req ∧
        ProvesPassed lib finish.shared cookie (arrival.clientId sha256)) ∧
      ∀ exchange ∈ finish.shared, MadeByRequest sha256 events exchange := by
  have steps :
      Run (Pool.Step (captchas assets mimeFromExt lib manager)
        (serveArrival language splitParse captchaPage sha256))
        (.initial []) events finish :=
    run.mono And.right
  have nothing :
      TellsOf lib manager ([] : List (CaptchaEvent Expression Value))
        (.initial []) := by
    refine ⟨fun _ _ _ split => ?_,
      fun _ member => absurd member List.not_mem_nil,
      fun _ _ _ member => absurd member List.not_mem_nil⟩
    exact absurd split.symm (by simp [Pool.initial])
  have tells : TellsOf lib manager events finish :=
    run.invariant_of_events (TellsOf.step laws) nothing
  refine ⟨?_, fun exchange => madeByRequest_of_run steps tells⟩
  have mayAsk :
      ∀ earlier made later,
        exchangesOf index events = earlier ++ made :: later →
          MayAsk language splitParse sha256 arrival earlier made.asked :=
    fun _ _ _ => Pool.asked_of_run steps started (asksAfter_serveArrival arrival)
  have passed :
      MayAsk language splitParse sha256 arrival earlier (.handle service req) :=
    mayAsk _ _ _ handled
  obtain ⟨cookie, isValid⟩ := (passed.2.2 _ isAsked).captcha rfl
  obtain ⟨first, second, split⟩ := List.append_of_mem isValid
  rw [split, List.append_assoc, List.cons_append] at handled
  have isShown :
      MayAsk language splitParse sha256 arrival first
        (.validateCaptchaVerifiedCookie cookie (arrival.clientId sha256)) :=
    mayAsk _ _ _ handled
  refine ⟨cookie, isShown.2, ?_⟩
  have inLog :
      ⟨.validateCaptchaVerifiedCookie cookie (arrival.clientId sha256),
        .ok ()⟩ ∈ exchangesOf index events := by
    rw [handled]
    exact List.mem_append_right _ List.mem_cons_self
  exact tells.proven index cookie _ (mem_exchangesOf.mp inLog)

end Run

end

section Sample

/-- The digest of the address, the user agent and the host of the client. -/
def gatedDigest : Vector UInt8 32 :=
  #v[
    124, 230, 29, 67, 118, 102, 21, 108, 16, 183, 206, 176, 99, 242, 251, 180,
    96, 135, 142, 59, 119, 126, 133, 54, 81, 192, 54, 191, 225, 172, 124, 197
  ]

def gatedSha256 : Sha256 :=
  fun message =>
    if message = IpAddr.localhost.octets ++ Str.asBytes "curl".toList then
      gatedDigest
    else
      Vector.replicate 32 0

def gatedClient : Str :=
  "fOYdQ3ZmFWwQt86wY_L7tGCHjjt3foU2UcA2v-GsfMU\x00".toList

private def gatedChallengeClaims : CaptchaCookieJwtClaims where
  challenge :=
    (captchaChallenge sampleChallengeRaw).text
  difficulty :=
    proofOfWorkDifficulty
  registeredClaims :=
    captchaRegisteredClaims gatedClient sampleTime
      (sampleTime + Duration.fromSecs 600) sampleChallengeJti

private def gatedVerifiedClaims : CaptchaVerifiedCookieJwtClaims where
  challengePassed :=
    true
  registeredClaims :=
    captchaRegisteredClaims gatedClient
      (sampleTime + Duration.fromSecs 602)
      (sampleTime + Duration.fromSecs 87002) sampleVerifiedJti

private def gatedChallengeText : Str :=
  "\x7b\"challenge\":\"AAAAAAAAAAAAAAAAAAAAAAAAAAAAAAAAAAAAAAAAAAA\\u0000\",".toList ++
    "\"difficulty\":1,\"iss\":\"pingoo\",".toList ++
    "\"sub\":\"fOYdQ3ZmFWwQt86wY_L7tGCHjjt3foU2UcA2v-GsfMU\\u0000\",".toList ++
    "\"aud\":\"pingoo\",\"exp\":1500000600,\"nbf\":1500000000,".toList ++
    "\"iat\":1500000000,".toList ++
    "\"jti\":\"015d3ef7-9800-7000-8000-000000000001\"\x7d".toList

private def gatedVerifiedText : Str :=
  "\x7b\"challenge_passed\":true,\"iss\":\"pingoo\",".toList ++
    "\"sub\":\"fOYdQ3ZmFWwQt86wY_L7tGCHjjt3foU2UcA2v-GsfMU\\u0000\",".toList ++
    "\"aud\":\"pingoo\",\"exp\":1500087002,".toList ++
    "\"nbf\":1500000602,\"iat\":1500000602,".toList ++
    "\"jti\":\"015d3f00-c790-7000-8000-000000000002\"\x7d".toList

private def gatedChallengeSignature : Bytes :=
  [
    228, 24, 254, 108, 107, 128, 193, 68, 2, 186, 250, 218, 59, 182, 221, 212,
    145, 68, 128, 187, 8, 207, 81, 155, 54, 171, 174, 107, 71, 42, 132, 142,
    0, 80, 247, 64, 218, 47, 192, 236, 80, 130, 184, 95, 53, 138, 196, 76, 83,
    245, 227, 71, 102, 49, 183, 70, 27, 21, 96, 235, 96, 141, 61, 13
  ]

private def gatedVerifiedSignature : Bytes :=
  [
    0, 68, 32, 113, 193, 224, 216, 128, 95, 218, 35, 7, 26, 194, 170, 46, 254,
    217, 22, 174, 226, 51, 246, 179, 194, 160, 164, 23, 86, 195, 183, 34, 159,
    12, 201, 153, 203, 68, 5, 150, 194, 153, 61, 178, 146, 244, 166, 249, 75,
    237, 90, 30, 77, 241, 129, 88, 69, 234, 112, 242, 110, 7, 191, 4
  ]

private def gatedSignatures : List (Bytes × Bytes) :=
  [
    ((sampleMessage gatedChallengeText).asBytes, gatedChallengeSignature),
    ((sampleMessage gatedVerifiedText).asBytes, gatedVerifiedSignature)
  ]

private def gatedChallengeToken : Str :=
  sampleMessage gatedChallengeText ++
    '.' :: urlSafe.encode gatedChallengeSignature

private def gatedVerifiedToken : Str :=
  sampleMessage gatedVerifiedText ++
    '.' :: urlSafe.encode gatedVerifiedSignature

/-- A library that knows the signatures of the two tokens. -/
private def gatedSigner : AwsLc :=
  { sampleKeyPairs with
    ParsedPublicKey := Unit
    ed25519Sign := fun _ message =>
      ((gatedSignatures.find? fun known =>
        decide (known.1 = message)).map Prod.snd).getD []
    parsePublicKey := fun algorithm publicKey =>
      if algorithm = .ed25519 ∧ publicKey = ed25519PublicKey then
        some ()
      else
        none
    verifySig := fun _ message signature =>
      gatedSignatures.any fun known =>
        decide (known.1 = message) && decide (known.2 = signature) }

private def gatedSigningKey : Key gatedSigner where
  id :=
    "k1".toList
  algorithm :=
    .edDsa
  crypto :=
    .eddsa .ed25519 ()

private def gatedObjects : List (List (Str × Json) × Str) :=
  [
    (gatedChallengeClaims.toFields, gatedChallengeText),
    (gatedVerifiedClaims.toFields, gatedVerifiedText),
    ([
      ("challenge".toList,
        .string (captchaChallenge sampleChallengeRaw).text),
      ("difficulty".toList,
        .number (.posInt proofOfWorkDifficulty.toUInt64))
    ], sampleInitText)
  ]

private theorem gatedObjects_scalars :
    ∀ entry ∈ gatedObjects, ∀ field ∈ entry.1, field.2.IsScalar := by
  intro entry member
  simp only [gatedObjects, List.mem_cons, List.not_mem_nil, or_false] at member
  rcases member with rfl | rfl | rfl
  · exact gatedChallengeClaims.isScalar_toFields
  · exact gatedVerifiedClaims.isScalar_toFields
  · simp [Json.IsScalar]

private theorem gatedObjects_isObject :
    ∀ entry ∈ gatedObjects, '\x7b' ∈ entry.2 := by
  intro entry member
  simp only [gatedObjects, List.mem_cons, List.not_mem_nil, or_false] at member
  have braces :
      '\x7b' ∈ gatedChallengeText ∧ '\x7b' ∈ gatedVerifiedText ∧
        '\x7b' ∈ sampleInitText := by
    unfold sampleInitText
    repeat rw [String.toList_append]
    decide +kernel
  rcases member with rfl | rfl | rfl
  · dsimp only
    exact braces.1
  · dsimp only
    exact braces.2.1
  · dsimp only
    exact braces.2.2

private theorem gatedObjects_distinct :
    ∀ entry ∈ gatedObjects, ∀ other ∈ gatedObjects,
      entry.2 = other.2 → entry = other := by
  have different :
      [gatedChallengeText, gatedVerifiedText, sampleInitText].Nodup := by
    unfold sampleInitText
    repeat rw [String.toList_append]
    decide +kernel
  intro entry member other otherMember same
  simp only [gatedObjects, List.mem_cons, List.not_mem_nil, or_false]
    at member otherMember
  simp only [List.nodup_cons, List.mem_cons, List.not_mem_nil, or_false,
    not_or, not_false_eq_true, List.nodup_nil, and_true] at different
  rcases member with rfl | rfl | rfl <;>
    rcases otherMember with rfl | rfl | rfl <;>
      simp_all

private def gatedTable : SerdeTable where
  objects :=
    gatedObjects
  scalars :=
    gatedObjects_scalars
  isObject :=
    gatedObjects_isObject
  distinct :=
    gatedObjects_distinct

private def gatedLibrary : CaptchaLibrary where
  lc :=
    gatedSigner
  serde :=
    gatedTable.serde [(captchaHeader gatedSigningKey, sampleHeaderText)]
  bodyFromReader :=
    sampleLibrary.bodyFromReader
  sha256 :=
    sampleLibrary.sha256
  formatExpires :=
    sampleLibrary.formatExpires

private def gatedManager : CaptchaManager gatedLibrary.lc where
  signingKey :=
    gatedSigningKey
  verifyingKeys :=
    [("k1".toList, gatedSigningKey)]
  distinct := by
    decide

/-- A request of the client, with a cookie if it has one. -/
def gatedRequest
    (path : String)
    (cookie : Option HeaderValue)
    (body : Bytes) : Request :=
  { Request.ofPath .get path.toList with
    headers :=
      (FieldMap.insert ∅ .userAgent sampleAgent).appendAll .cookie cookie.toList
    body := body }

def gatedRule : Rule Empty where
  name :=
    "captcha"
  expression :=
    none
  actions :=
    [.captcha]
  limiterTx :=
    none

def gatedService : HttpService Empty where
  name :=
    "site"
  route :=
    none

/-- The parser on a text that is one cookie. -/
def gatedSplitParse (text : Str) : List (Except Unit Cookie) :=
  [.ok ⟨(SetCookie.nameValue text).1, (SetCookie.nameValue text).2⟩]

def gatedArrival (req : Request) : Arrival Empty Unit where
  listener := {
    address := ⟨.localhost, 80⟩
    services := [gatedService]
    rules := [gatedRule]
    lists := ()
    geoip := false
    useTls := false
  }
  client :=
    ⟨.localhost, 5000⟩
  req :=
    req

/-- The header of a cookie with a token. -/
private theorem exists_cookieHeader
    {name : Str}
    (visibleName : ∀ character ∈ name, isVisibleAscii character = true)
    (plainName : '=' ∉ name ∧ ';' ∉ name)
    (headerJson claimsJson signature : Bytes) :
    ∃ header,
      HeaderValue.toStr header =
          some (name ++ '=' :: tokenOf headerJson claimsJson signature) ∧
        gatedSplitParse
            (name ++ '=' :: tokenOf headerJson claimsJson signature) =
          [.ok ⟨name, tokenOf headerJson claimsJson signature⟩] := by
  have separator : isVisibleAscii '=' = true := by
    decide
  have visible :
      ∀ character ∈ name ++ '=' :: tokenOf headerJson claimsJson signature,
        isVisibleAscii character = true := by
    simp only [List.forall_mem_append, List.forall_mem_cons]
    exact ⟨visibleName, separator, isVisibleAscii_tokenOf _ _ _⟩
  refine ⟨.ofVisible _ visible, HeaderValue.toStr_ofVisible visible, ?_⟩
  simp only [gatedSplitParse, nameValue_pair plainName
    (semicolon_notMem_tokenOf headerJson claimsJson signature)]

theorem notBlocked_gatedRequest
    (path : String)
    (cookie : Option HeaderValue)
    (body : Bytes) :
    ¬ HasBlockedUserAgent (gatedRequest path cookie body) := by
  have sameAgent :
      (gatedRequest path cookie body).headers.get .userAgent =
        (gatedRequest "/" none []).headers.get .userAgent := by
    have different : HeaderName.userAgent ≠ .cookie := by
      decide
    simp [gatedRequest, FieldMap.get, different]
  have concrete : ¬ HasBlockedUserAgent (gatedRequest "/" none []) := by
    decide
  unfold HasBlockedUserAgent at concrete ⊢
  rwa [sameAgent]

theorem clientId_gatedArrival
    (path : String)
    (cookie : Option HeaderValue)
    (body : Bytes) :
    (gatedArrival (gatedRequest path cookie body)).clientId gatedSha256 =
      gatedClient := by
  have differentAgent : HeaderName.userAgent ≠ .cookie := by
    decide
  have differentHost : HeaderName.host ≠ .cookie := by
    decide
  have sameAgent :
      getUserAgent (gatedRequest path cookie body) =
        getUserAgent (gatedRequest "/" none []) := by
    simp [getUserAgent, gatedRequest, FieldMap.get, differentAgent]
  have sameHost :
      getHost (gatedRequest path cookie body) =
        getHost (gatedRequest "/" none []) := by
    simp [getHost, gatedRequest, FieldMap.get, differentHost, Request.ofPath]
  rw [Arrival.clientId, requestClientId, gatedArrival]
  dsimp only
  rw [sameAgent, sameHost]
  decide +kernel

theorem parseCookies_gatedRequest
    (path : String)
    (header : HeaderValue)
    (body : Bytes)
    {text : Str}
    {cookie : Cookie}
    (isText : header.toStr = some text)
    (isCookie : gatedSplitParse text = [.ok cookie]) :
    parseCookies gatedSplitParse (gatedRequest path (some header) body) =
      [cookie] := by
  have isHeader :
      (gatedRequest path (some header) body).headers.get .cookie =
        some header := by
    have different : HeaderName.cookie ≠ .userAgent := by
      decide
    simp [gatedRequest, FieldMap.get, different]
  rw [parseCookies_of_first isHeader isText, isCookie]
  rfl

private abbrev GatedStep :=
  CaptchaStep (fun _ => none) (fun _ => []) gatedLibrary gatedManager
    noExpressions gatedSplitParse newNotFoundError gatedSha256

/-- A request for the API is served, and its call is kept. -/
private theorem run_gatedCall
    {pool : CaptchaPool Empty}
    {index : Nat}
    {path : String}
    {cookie : Option HeaderValue}
    {body : Bytes}
    {cookies : List Cookie}
    {draws : CaptchaDraws}
    {call : Call}
    {response : Response}
    (isFree : pool.processes index = none)
    (isCaptcha :
      (getPath (gatedRequest path cookie body)).startsWith
        "/__pingoo/captcha".toList = true)
    (areCookies :
      parseCookies gatedSplitParse (gatedRequest path cookie body) = cookies)
    (unforged :
      ∀ cookie ∈ cookies,
        NotForged gatedLibrary gatedManager pool.shared cookie.value)
    (isCall :
      captchaCall
        ((gatedArrival (gatedRequest path cookie body)).handed
          GeoipRecord.default) cookies gatedClient draws = some call)
    (isAnswer : answer gatedLibrary gatedManager call = some response) :
    ∃ events after,
      Run GatedStep pool
          (.start index (gatedArrival (gatedRequest path cookie body)) ::
            events) after ∧
        after.shared = pool.shared ++ [⟨call, some response⟩] ∧
        ∀ other, other ≠ index →
          after.processes other = pool.processes other ∧
            exchangesOf other
              (.start index (gatedArrival (gatedRequest path cookie body)) ::
                events) = [] := by
  have isAsking :=
    @serveArrival_of_captchaPath _ _ _ noExpressions gatedSplitParse
      newNotFoundError gatedSha256
      (gatedArrival (gatedRequest path cookie body)) rfl
      (notBlocked_gatedRequest path cookie body) isCaptcha
  rw [clientId_gatedArrival] at isAsking
  change _ = captchaRequest _ (parseCookies gatedSplitParse _) _ at isAsking
  rw [show (gatedArrival (gatedRequest path cookie body)).req =
    gatedRequest path cookie body from rfl, areCookies] at isAsking
  have started :
      GatedStep pool
        (.start index (gatedArrival (gatedRequest path cookie body))) _ :=
    ⟨trivial, .start isFree⟩
  rw [isAsking] at started
  rw [← serveCaptchaRequest_of_call isCall] at isAnswer
  have served :=
    @CaptchaAnswers.served Empty (fun _ => none) (fun _ => []) gatedLibrary
      gatedManager pool.shared _ _ _ _ _ isAnswer
  rw [isCall] at served
  refine ⟨_, _, (Run.single started).snoc
    (Pool.step_exchange (Function.update_self _ _ _) unforged served), rfl,
    fun other differs => ⟨by simp [differs], ?_⟩⟩
  simp [exchangesOf, PoolEvent.exchanged, differs.symm]

private def gatedDraws
    (secs : Nat)
    (early : secs ≤ 100000)
    (jti : Str) : CaptchaDraws where
  challengeRaw :=
    sampleChallengeRaw
  expNow :=
    sampleReading secs early
  nbfNow :=
    sampleReading secs early
  now :=
    sampleReading secs early
  jti :=
    jti
  entropy :=
    0
  bodyArrives :=
    true

private theorem gatedInit_early : 0 ≤ 100000 := by
  decide

private theorem gatedVerify_early : 602 ≤ 100000 := by
  decide

private def gatedInit : InitCall :=
  (gatedDraws 0 gatedInit_early sampleChallengeJti).initCall gatedClient

private def gatedVerify : VerifyCall :=
  { (gatedDraws 602 gatedVerify_early sampleVerifiedJti).initCall gatedClient with
    cookies := [⟨captchaCookie, gatedChallengeToken⟩]
    body := some sampleBody
    expNow := sampleReading 602 gatedVerify_early
    nbfNow := sampleReading 602 gatedVerify_early }

private theorem gatedInit_sets :
    ∃ response,
      answer gatedLibrary gatedManager (.init gatedInit) = some response ∧
      response.Sets captchaCookie gatedChallengeToken := by
  have headers :
      (answer gatedLibrary gatedManager (.init gatedInit)).map
          (fun response =>
            (response.headers.getAll .setCookie).map HeaderValue.bytes) =
        some [(SetCookie.toStr gatedLibrary
          ⟨captchaCookie, gatedChallengeToken, 1500000540⟩).asBytes] := by
    decide +kernel
  obtain ⟨response, isAnswer, isHeader⟩ := Option.map_eq_some_iff.mp headers
  refine ⟨response, isAnswer, @sets_of_toStr gatedLibrary response
    ⟨captchaCookie, gatedChallengeToken, 1500000540⟩ ?_ ?_ ?_⟩
  · rw [isHeader]
    exact List.mem_singleton_self _
  · decide
  · exact semicolon_notMem_tokenOf sampleHeaderText.asBytes _ _

private theorem gatedVerify_sets :
    ∃ response,
      answer gatedLibrary gatedManager (.verify gatedVerify) =
        some response ∧
      response.Sets captchaVerifiedCookie gatedVerifiedToken := by
  have headers :
      (answer gatedLibrary gatedManager (.verify gatedVerify)).map
          (fun response =>
            (response.headers.getAll .setCookie).map HeaderValue.bytes) =
        some [
          (SetCookie.toStr gatedLibrary
            ⟨captchaVerifiedCookie, gatedVerifiedToken, 1500086942⟩).asBytes,
          (SetCookie.toStr gatedLibrary ⟨captchaCookie, [], 0⟩).asBytes
        ] := by
    decide +kernel
  obtain ⟨response, isAnswer, isHeader⟩ := Option.map_eq_some_iff.mp headers
  refine ⟨response, isAnswer, @sets_of_toStr gatedLibrary response
    ⟨captchaVerifiedCookie, gatedVerifiedToken, 1500086942⟩ ?_ ?_ ?_⟩
  · rw [isHeader]
    exact List.mem_cons_self
  · decide
  · exact semicolon_notMem_tokenOf sampleHeaderText.asBytes _ _

private theorem gatedVerified_validated :
    validateCaptchaVerifiedCookie gatedLibrary gatedManager
        gatedVerifiedToken gatedClient
        (sampleReading 603 (by decide)).nanos
        (sampleReading 603 (by decide)).nanos = .ok () := by
  decide +kernel

/-- What the history gave out is not forged. -/
private theorem notForged_of_sets
    {history : List Exchange}
    {call : Call}
    {response : Response}
    {name token : Str}
    (member : ⟨call, some response⟩ ∈ history)
    (sets : response.Sets name token) :
    NotForged gatedLibrary gatedManager history token :=
  fun _ _ _ _ _ _ _ => ⟨_, member, name, response, rfl, sets⟩

section Visit

variable {header : HeaderValue} {verified : Str}
variable
  (areCookies :
    parseCookies gatedSplitParse (gatedRequest "/" (some header) []) =
      [⟨captchaVerifiedCookie, verified⟩])

include areCookies

/-- The only cookie of a request is found. -/
theorem find_gatedVisit :
    ((parseCookies gatedSplitParse
        (gatedArrival (gatedRequest "/" (some header) [])).req).find?
          fun cookie => cookie.name = captchaVerifiedCookie) =
      some ⟨captchaVerifiedCookie, verified⟩ := by
  change List.find? _ (parseCookies gatedSplitParse (gatedRequest _ _ _)) = _
  rw [areCookies]
  simp

/-- It is asked about, and then the service is asked. -/
theorem serveArrival_gatedVisit :
    ∃ next,
      serveArrival noExpressions gatedSplitParse newNotFoundError gatedSha256
          (gatedArrival (gatedRequest "/" (some header) [])) =
        .ask
          (.validateCaptchaVerifiedCookie verified
            ((gatedArrival (gatedRequest "/" (some header) [])).clientId
              gatedSha256))
          next ∧
      next (.ok ()) =
        .ask
          (.handle gatedService
            ((gatedArrival (gatedRequest "/" (some header) [])).handed
              GeoipRecord.default))
          .done := by
  have notCaptcha :
      ¬ (getPath (Request.ofPath .get "/".toList)).startsWith
        "/__pingoo/captcha".toList = true := by
    decide
  exact @serveArrival_of_cookie _ _ _ noExpressions gatedSplitParse
    newNotFoundError gatedSha256
    (gatedArrival (gatedRequest "/" (some header) [])) rfl
    (notBlocked_gatedRequest _ _ _) notCaptcha _ (find_gatedVisit areCookies)

end Visit

/-- A request with the cookie of a passed challenge is given to the service. -/
private theorem run_gatedPage
    {pool : CaptchaPool Empty}
    {header : HeaderValue}
    (isFree : pool.processes 2 = none)
    (areCookies :
      parseCookies gatedSplitParse (gatedRequest "/" (some header) []) =
        [⟨captchaVerifiedCookie, gatedVerifiedToken⟩])
    (unforged :
      NotForged gatedLibrary gatedManager pool.shared gatedVerifiedToken) :
    ∃ after,
      Run GatedStep pool
        [.start 2 (gatedArrival (gatedRequest "/" (some header) [])),
          .exchange 2
            ⟨.validateCaptchaVerifiedCookie gatedVerifiedToken
              ((gatedArrival (gatedRequest "/" (some header) [])).clientId
                gatedSha256), .ok ()⟩,
          .exchange 2
            ⟨.handle gatedService
              ((gatedArrival (gatedRequest "/" (some header) [])).handed
                GeoipRecord.default), newNotFoundError⟩] after := by
  obtain ⟨next, isAsking, asksService⟩ := serveArrival_gatedVisit areCookies
  have isValidated :
      validateCaptchaVerifiedCookie gatedLibrary gatedManager
          gatedVerifiedToken
          ((gatedArrival (gatedRequest "/" (some header) [])).clientId
            gatedSha256)
          (sampleReading 603 (by decide)).nanos
          (sampleReading 603 (by decide)).nanos = .ok () := by
    rw [clientId_gatedArrival]
    exact gatedVerified_validated
  have begun :
      GatedStep pool
        (.start 2 (gatedArrival (gatedRequest "/" (some header) []))) _ :=
    ⟨trivial, .start isFree⟩
  rw [isAsking] at begun
  have validated := (Run.single begun).snoc
    (Pool.step_exchange (Function.update_self _ _ _) unforged
      (.validated isValidated))
  rw [asksService] at validated
  have handled := validated.snoc
    (Pool.step_exchange (Function.update_self _ _ _) trivial
      (@CaptchaAnswers.handle _ _ _ _ _ _ _ _ newNotFoundError))
  exact ⟨_, handled⟩

/-- A request that passed the captcha, after the two that solved it. -/
private theorem run_gated :
    ∃ events finish header earlier,
      Run GatedStep (.initial []) events finish ∧
        .start 2 (gatedArrival (gatedRequest "/" (some header) [])) ∈ events ∧
        exchangesOf 2 events =
          earlier ++
            [⟨.handle gatedService
              ((gatedArrival (gatedRequest "/" (some header) [])).handed
                GeoipRecord.default), newNotFoundError⟩] ∧
        loggedRecord earlier = GeoipRecord.default := by
  obtain ⟨initResponse, isInit, initSets⟩ := gatedInit_sets
  obtain ⟨verifyResponse, isVerify, verifySets⟩ := gatedVerify_sets
  obtain ⟨challengeHeader, challengeText, challengeCookie⟩ :=
    @exists_cookieHeader captchaCookie (by decide) (by decide)
      sampleHeaderText.asBytes gatedChallengeText.asBytes
      gatedChallengeSignature
  obtain ⟨verifiedHeader, verifiedText, verifiedCookie⟩ :=
    @exists_cookieHeader captchaVerifiedCookie (by decide) (by decide)
      sampleHeaderText.asBytes gatedVerifiedText.asBytes
      gatedVerifiedSignature
  obtain ⟨initEvents, started, initRun, initHistory, initFree⟩ :=
    @run_gatedCall (.initial []) 0 "/__pingoo/captcha/api/init" none [] []
      (gatedDraws 0 (by decide) sampleChallengeJti) _ _ rfl (by decide) rfl
      (by simp) rfl isInit
  obtain ⟨freeOne, noneOne⟩ := initFree 1 (by decide)
  obtain ⟨freeTwo, noneTwo⟩ := initFree 2 (by decide)
  have unforgedChallenge :
      NotForged gatedLibrary gatedManager started.shared
        gatedChallengeToken := by
    rw [initHistory]
    exact notForged_of_sets (List.mem_singleton_self _) initSets
  obtain ⟨verifyEvents, solved, verifyRun, verifyHistory, verifyFree⟩ :=
    @run_gatedCall started 1 "/__pingoo/captcha/api/verify"
      (some challengeHeader) sampleBody _
      (gatedDraws 602 (by decide) sampleVerifiedJti) _ _
      (freeOne.trans rfl)
      (show (getPath (Request.ofPath .get
        "/__pingoo/captcha/api/verify".toList)).startsWith _ = true by decide)
      (parseCookies_gatedRequest _ _ _ challengeText challengeCookie)
      (List.forall_mem_singleton.mpr unforgedChallenge) rfl isVerify
  obtain ⟨stillFree, stillNone⟩ := verifyFree 2 (by decide)
  have unforgedVerified :
      NotForged gatedLibrary gatedManager solved.shared gatedVerifiedToken := by
    rw [verifyHistory]
    exact notForged_of_sets
      (List.mem_append_right _ (List.mem_singleton_self _)) verifySets
  obtain ⟨finish, pageRun⟩ :=
    @run_gatedPage solved verifiedHeader
      (stillFree.trans (freeTwo.trans rfl))
      (parseCookies_gatedRequest _ _ _ verifiedText verifiedCookie)
      unforgedVerified
  refine ⟨_, finish, verifiedHeader,
    [⟨.validateCaptchaVerifiedCookie gatedVerifiedToken
      ((gatedArrival (gatedRequest "/" (some verifiedHeader) [])).clientId
        gatedSha256), .ok ()⟩],
    (initRun.append verifyRun).append pageRun, ?_, ?_, rfl⟩
  · simp
  · rw [exchangesOf_append, exchangesOf_append, noneTwo, stillNone]
    rfl

/-- The client of the sample passed its challenge. -/
theorem passedChallenge_of_handled_sample :
    ∃ (events : List (CaptchaEvent Empty Unit)) (finish : CaptchaPool Empty)
        (header : HeaderValue),
      (∃ cookie,
        ⟨captchaVerifiedCookie, cookie⟩ ∈
            parseCookies gatedSplitParse
              (gatedArrival (gatedRequest "/" (some header) [])).req ∧
          ProvesPassed gatedLibrary finish.shared cookie
            ((gatedArrival (gatedRequest "/" (some header) [])).clientId
              gatedSha256)) ∧
        ∀ exchange ∈ finish.shared,
          MadeByRequest gatedSha256 events exchange := by
  obtain ⟨events, finish, header, earlier, run, started, handled, isRecord⟩ :=
    run_gated
  have isAsked :
      (gatedRule, .captcha) ∈
        (gatedArrival (gatedRequest "/" (some header) [])).actions
          noExpressions (loggedRecord earlier) := by
    rw [isRecord]
    exact List.mem_singleton_self _
  exact ⟨events, finish, header,
    passedChallenge_of_handled (gatedTable.readsWhatItWrites _) run started
      handled isAsked⟩

end Sample

end Pingoo
