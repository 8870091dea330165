import Pingoo.CaptchaApi
import Pingoo.Jwt.KeyConversion
import Pingoo.Jwt.SerdeTable
import Pingoo.Library.StepRun

namespace Pingoo

/-!
# The captcha as a gate

Any number of clients start challenges and ask for their verification, in any
order and with any cookies, among them those the manager gave out before.  What
is accepted as the proof of a passed challenge goes back to a verification that
succeeded, and from there to a challenge of the same client.
-/

open Fallible Jwt

/-- A call of `api_init`, with what it draws and reads from the clock. -/
structure InitCall where
  clientId : Str
  challengeRaw : Vector UInt8 32
  now : Utc.DateTime
  jti : Str
  entropy : Nat

/--
A call of `api_verify`, with what it draws and reads from the clock: for the
checks of `exp` and `nbf`, and for the new token.
-/
structure VerifyCall where
  clientId : Str
  cookies : List Cookie
  body : Option Bytes
  expNow : Utc.DateTime
  nbfNow : Utc.DateTime
  now : Utc.DateTime
  jti : Str
  entropy : Nat

inductive Call where
  | init (call : InitCall)
  | verify (call : VerifyCall)

/-- A call and the response to it, which is `none` after a panic. -/
structure Exchange where
  call : Call
  response : Option Response

/-- The response of an exchange gives a cookie to the client. -/
def Exchange.Sets (exchange : Exchange) (name value : Str) : Prop :=
  ∃ response, exchange.response = some response ∧ response.Sets name value

section

variable (lib : CaptchaLibrary) (manager : CaptchaManager lib.lc)

/-- What the manager answers to a call. -/
def answer : Call → Option Response
  | .init call =>
      respond (apiInit lib manager call.clientId call.challengeRaw
        call.now.nanos call.jti call.entropy)
  | .verify call =>
      respond (apiVerify lib manager call.cookies call.body call.clientId
        call.expNow.nanos call.nbfNow.nanos call.now.nanos call.jti
        call.entropy)

/-- One step: a call is answered and kept. -/
def exchangeStep (history : List Exchange) (call : Call) :
    Option Response × List Exchange :=
  (answer lib manager call,
    history ++ [⟨call, answer lib manager call⟩])

/--
A text is no forged token: when a key of the manager accepts its signature, it
was given to a client before.
-/
def NotForged (history : List Exchange) (token : Str) : Prop :=
  ∀ kid key message signature,
    manager.verifyingKey kid = some key →
    key.Accepts (Str.asBytes message) signature →
    token = message ++ '.' :: urlSafe.encode signature →
    ∃ exchange ∈ history, ∃ name, exchange.Sets name token

/-- A call whose cookies are no forged tokens. -/
def WithoutForgery (history : List Exchange) : Call → Prop
  | .init _ =>
      True
  | .verify call =>
      ∀ cookie ∈ call.cookies, NotForged lib manager history cookie.value

/--
A verification was given a challenge token of an earlier start for the same
client, that had not expired up to a time drift, and a proof of work for it.
-/
structure PassedChallenge
    (drift : Nat)
    (earlier : List Exchange)
    (verify : VerifyCall)
    (init : InitCall)
    (cookie : Cookie)
    (input : CaptchaVerifyRequestBody)
    (expiresAt limit : Int) : Prop where
  cookieFound :
    verify.cookies.find? (fun cookie => cookie.name = captchaCookie) =
      some cookie
  issued :
    ∃ exchange ∈ earlier,
      exchange.call = .init init ∧
      exchange.Sets captchaCookie cookie.value
  sameClient : init.clientId = verify.clientId
  expires : Utc.add init.now.nanos captchaJwtExpiration = some expiresAt
  drifted : Utc.sub verify.expNow.nanos drift = some limit
  unexpired : Utc.timestamp limit ≤ Utc.timestamp expiresAt
  body : verify.body.bind (captchaVerifyRequestBody lib) = some input
  work :
    proofOfWorkDifficulty.toNat ≤ leadingZeroes (lib.sha256
      ((captchaChallenge init.challengeRaw).text.asBytes ++
        input.nonce.asBytes))

/-- What the manager guarantees about the exchanges of a run. -/
structure Gate (drift : Nat) (history : List Exchange) : Prop where
  accepted :
    ∀ {cookie clientId expNow nbfNow},
      NotForged lib manager history cookie →
      validateCaptchaVerifiedCookie lib manager cookie clientId expNow
        nbfNow = .ok () →
      ∃ earlier verify response later init challengeCookie input expiresAt
          limit,
        history = earlier ++ ⟨.verify verify, some response⟩ :: later ∧
        response.status = StatusCode.ok ∧
        response.Sets captchaVerifiedCookie cookie ∧
        verify.clientId = clientId ∧
        PassedChallenge lib drift earlier verify init challengeCookie input
          expiresAt limit
  challengeNotVerified :
    ∀ {exchange call name token clientId expNow nbfNow},
      exchange ∈ history →
      exchange.call = .init call →
      exchange.Sets name token →
      validateCaptchaVerifiedCookie lib manager token clientId expNow
        nbfNow ≠ .ok ()
  verifiedNotChallenge :
    ∀ {exchange call name cookie other response},
      exchange ∈ history →
      exchange.call = .verify call →
      exchange.Sets name cookie.value →
      other.cookies.find? (fun cookie => cookie.name = captchaCookie) =
        some cookie →
      answer lib manager (.verify other) = some response →
      response.status ≠ StatusCode.ok
  verifiedClient :
    ∀ {exchange call name token clientId expNow nbfNow},
      exchange ∈ history →
      exchange.call = .verify call →
      exchange.Sets name token →
      validateCaptchaVerifiedCookie lib manager token clientId expNow
        nbfNow = .ok () →
      clientId = call.clientId
  challengeClient :
    ∀ {exchange call name cookie other response},
      exchange ∈ history →
      exchange.call = .init call →
      exchange.Sets name cookie.value →
      other.cookies.find? (fun cookie => cookie.name = captchaCookie) =
        some cookie →
      answer lib manager (.verify other) = some response →
      response.status = StatusCode.ok →
      other.clientId = call.clientId

/-- Every exchange of a history is answered, and made without forgery. -/
def Answered (history : List Exchange) : Prop :=
  ∀ earlier exchange later,
    history = earlier ++ exchange :: later →
    exchange.response = answer lib manager exchange.call ∧
      WithoutForgery lib manager earlier exchange.call

end

section Runs

variable {lib : CaptchaLibrary} {manager : CaptchaManager lib.lc}

/-- A run keeps its calls with their answers. -/
theorem final_exchangeStep (history : List Exchange) (calls : List Call) :
    StepRun.final (exchangeStep lib manager) history calls =
      history ++ calls.map fun call => ⟨call, answer lib manager call⟩ := by
  induction calls generalizing history with
  | nil =>
      rw [List.map_nil, List.append_nil]
      rfl
  | cons call rest inductionHypothesis =>
      rw [StepRun.final, inductionHypothesis]
      simp [exchangeStep]

theorem sets_of_answer
    {call : Call}
    {response : Response}
    {name value : Str}
    (isAnswer : answer lib manager call = some response)
    (sets : response.Sets name value) :
    Exchange.Sets ⟨call, answer lib manager call⟩ name value :=
  ⟨response, isAnswer, sets⟩

/-- A step adds an exchange that is answered. -/
theorem answered_exchangeStep
    {history : List Exchange}
    {call : Call}
    (answered : Answered lib manager history)
    (unforged : WithoutForgery lib manager history call) :
    Answered lib manager (exchangeStep lib manager history call).2 := by
  intro earlier exchange later split
  rcases List.eq_nil_or_concat later with rfl | ⟨others, last, rfl⟩
  · obtain ⟨sameHistory, sameExchange⟩ :=
      List.append_inj' split rfl
    cases sameExchange
    subst sameHistory
    exact ⟨rfl, unforged⟩
  · have longer :
        history ++ [⟨call, answer lib manager call⟩] =
          (earlier ++ exchange :: others) ++ [last] := by
      rw [List.append_assoc, List.cons_append]
      exact split.trans (by rw [List.concat_eq_append])
    exact answered _ _ _ (List.append_inj' longer rfl).1

/-- The first exchanges of a history are answered. -/
theorem Answered.earlier
    {earlier later : List Exchange}
    (answered : Answered lib manager (earlier ++ later)) :
    Answered lib manager earlier := by
  intro first exchange rest split
  apply answered first exchange (rest ++ later)
  rw [split, List.append_assoc, List.cons_append]

/-- Every exchange of a run is answered, and made without forgery. -/
theorem answered_of_run
    {calls : List Call}
    (unforged :
      StepRun.Along (exchangeStep lib manager) (WithoutForgery lib manager) []
        calls) :
    Answered lib manager
      (StepRun.final (exchangeStep lib manager) [] calls) := by
  apply StepRun.final_invariant answered_exchangeStep _ unforged
  intro earlier exchange later split
  cases List.append_eq_nil_iff.mp split.symm |>.2

end Runs

section Acceptance

variable {lib : CaptchaLibrary} {manager : CaptchaManager lib.lc}
variable {history : List Exchange} {expNow nbfNow : Int}

/-- What is validated was accepted as the token of a passed challenge. -/
theorem validate_eq_ok
    {token clientId : Str}
    (validated :
      validateCaptchaVerifiedCookie lib manager token clientId expNow nbfNow =
        .ok ()) :
    ∃ kid key parsed,
      manager.verifyingKey kid = some key ∧
      parseAndVerify lib.serde (captchaVerifiedClaims lib) key token
        jwtValdiationOptions expNow nbfNow = .ok parsed ∧
      parsed.claims.registeredClaims.sub.getD [] = clientId := by
  simp only [validateCaptchaVerifiedCookie, bind_eq_ok_iff, mapErr_eq_ok_iff,
    okOr_eq_ok_iff] at validated
  obtain ⟨header, _, key, keyFound, parsed, returned, compared⟩ := validated
  split at compared
  · cases compared
  · next agree =>
      obtain ⟨sameClient, _⟩ := not_or.mp agree
      exact ⟨_, key, parsed, keyFound, returned,
        (Str.asBytes_injective (not_not.mp sameClient)).symm⟩

/-- A token that is accepted and not forged was given to a client before. -/
theorem issued_of_accepted
    {Claims : Type}
    {serdeClaims : SerdeClaims Claims}
    {kid token : Str}
    {key : Key lib.lc}
    {parsed : ParsedJwt Claims}
    (keyFound : manager.verifyingKey kid = some key)
    (returned :
      parseAndVerify lib.serde serdeClaims key token jwtValdiationOptions
        expNow nbfNow = .ok parsed)
    (notForged : NotForged lib manager history token) :
    ∃ exchange ∈ history, ∃ name, exchange.Sets name token := by
  obtain ⟨_, _, _, headerJson, claimsJson, signature, verified⟩ :=
    isVerified_of_parseAndVerify returned
  exact notForged kid key _ signature keyFound verified.accepts
    verified.eq_tokenOf

/-- The empty text is not accepted as a token. -/
theorem nil_not_accepted
    {Claims : Type}
    {serdeClaims : SerdeClaims Claims}
    {key : Key lib.lc}
    {parsed : ParsedJwt Claims} :
    parseAndVerify lib.serde serdeClaims key [] jwtValdiationOptions expNow
      nbfNow ≠ .ok parsed := by
  nofun

variable (laws : lib.serde.ReadsWhatItWrites)
variable (answered : Answered lib manager history)

include answered

/-- What an exchange of a history gives to a client, it gives in its answer. -/
theorem answer_of_sets
    {exchange : Exchange}
    (member : exchange ∈ history)
    {name token : Str}
    (sets : exchange.Sets name token) :
    ∃ response,
      exchange.response = some response ∧
      answer lib manager exchange.call = some response ∧
      response.Sets name token := by
  obtain ⟨earlier, later, split⟩ := List.append_of_mem member
  obtain ⟨response, isResponse, responseSets⟩ := sets
  exact ⟨response, isResponse,
    (answered _ _ _ split).1.symm.trans isResponse, responseSets⟩

include laws

/-- The token of a started challenge is never validated. -/
theorem initToken_not_validated
    {exchange : Exchange}
    (member : exchange ∈ history)
    {call : InitCall}
    (isInit : exchange.call = .init call)
    {name token : Str}
    (sets : exchange.Sets name token)
    {clientId : Str} :
    validateCaptchaVerifiedCookie lib manager token clientId expNow nbfNow ≠
      .ok () := by
  intro validated
  obtain ⟨response, _, isAnswer, responseSets⟩ :=
    answer_of_sets answered member sets
  rw [isInit] at isAnswer
  obtain ⟨_, _, _, isToken⟩ := sets_of_apiInit isAnswer responseSets
  obtain ⟨_, key, parsed, _, returned, _⟩ := validate_eq_ok validated
  exact challengeToken_not_verified laws isToken parsed returned

/-- The token of a verification is not accepted as a challenge. -/
theorem verifyToken_not_challenge
    {exchange : Exchange}
    (member : exchange ∈ history)
    {call : VerifyCall}
    (isVerify : exchange.call = .verify call)
    {name token : Str}
    (sets : exchange.Sets name token)
    {key : Key lib.lc}
    {parsed : ParsedJwt CaptchaCookieJwtClaims} :
    parseAndVerify lib.serde (captchaClaims lib) key token
      jwtValdiationOptions expNow nbfNow ≠ .ok parsed := by
  obtain ⟨response, _, isAnswer, responseSets⟩ :=
    answer_of_sets answered member sets
  rw [isVerify] at isAnswer
  rcases (sets_of_apiVerify isAnswer responseSets).2 with
    ⟨_, rfl⟩ | ⟨_, _, isToken⟩
  · exact nil_not_accepted
  · exact verifiedToken_not_challenge laws isToken parsed

/-- The token of a verification is validated for its own client only. -/
theorem verifyToken_client
    {exchange : Exchange}
    (member : exchange ∈ history)
    {call : VerifyCall}
    (isVerify : exchange.call = .verify call)
    {name token clientId : Str}
    (sets : exchange.Sets name token)
    (validated :
      validateCaptchaVerifiedCookie lib manager token clientId expNow nbfNow =
        .ok ()) :
    clientId = call.clientId ∧
      name = captchaVerifiedCookie ∧
      ∃ response,
        exchange.response = some response ∧
        response.status = StatusCode.ok ∧
        response.Sets captchaVerifiedCookie token := by
  obtain ⟨_, key, parsed, _, returned, isClient⟩ := validate_eq_ok validated
  obtain ⟨response, isResponse, isAnswer, responseSets⟩ :=
    answer_of_sets answered member sets
  rw [isVerify] at isAnswer
  obtain ⟨succeeded, removal | verified⟩ :=
    sets_of_apiVerify isAnswer responseSets
  · obtain ⟨_, rfl⟩ := removal
    exact absurd returned nil_not_accepted
  · obtain ⟨rfl, _, isToken⟩ := verified
    have claims := verifiedToken_accepted laws isToken returned
    rw [claims] at isClient
    exact ⟨isClient.symm, rfl, response, isResponse, succeeded, responseSets⟩

/-- The challenge token of a start is accepted with the claims of that start. -/
theorem initToken_accepted
    {exchange : Exchange}
    (member : exchange ∈ history)
    {call : InitCall}
    (isInit : exchange.call = .init call)
    {name token : Str}
    (sets : exchange.Sets name token)
    {key : Key lib.lc}
    {parsed : ParsedJwt CaptchaCookieJwtClaims}
    (returned :
      parseAndVerify lib.serde (captchaClaims lib) key token
        jwtValdiationOptions expNow nbfNow = .ok parsed) :
    name = captchaCookie ∧
      parsed.claims.challenge = (captchaChallenge call.challengeRaw).text ∧
      parsed.claims.difficulty = proofOfWorkDifficulty ∧
      parsed.claims.registeredClaims.sub = some call.clientId ∧
      ∃ expiresAt limit,
        Utc.add call.now.nanos captchaJwtExpiration = some expiresAt ∧
        Utc.sub expNow (Duration.fromSecs 5) = some limit ∧
        Utc.timestamp limit ≤ Utc.timestamp expiresAt := by
  obtain ⟨response, _, isAnswer, responseSets⟩ :=
    answer_of_sets answered member sets
  rw [isInit] at isAnswer
  obtain ⟨expiresAt, added, isName, isToken⟩ :=
    sets_of_apiInit isAnswer responseSets
  obtain ⟨claims, expiry⟩ := challengeToken_accepted laws isToken returned
  obtain ⟨limit, drifted, notExpired⟩ := expiry _ rfl
  rw [claims]
  refine ⟨isName, rfl, rfl, rfl, expiresAt, limit, added, drifted, ?_⟩
  rwa [Utc.toInt_timestamp_of_add call.now added] at notExpired

end Acceptance

section Gate

variable {lib : CaptchaLibrary} {manager : CaptchaManager lib.lc}
variable {history : List Exchange}

/-- A verification that succeeds was given a challenge token that it accepts. -/
theorem checks_of_status
    {call : VerifyCall}
    {response : Response}
    (isAnswer : answer lib manager (.verify call) = some response)
    (succeeded : response.status = StatusCode.ok) :
    ∃ cookie kid key parsed input,
      VerifyChecks lib manager call.cookies call.body call.clientId
        call.expNow.nanos call.nbfNow.nanos cookie kid key parsed input :=
  (apiVerify_eq_ok (eq_ok_of_respond
    (apiVerify_fails lib manager _ _ _ _ _ _ _ _) isAnswer
    (ne_internalError_of_status succeeded))).1

variable (laws : lib.serde.ReadsWhatItWrites)
variable (answered : Answered lib manager history)

include laws answered

/-- A verification that succeeds was given a challenge of the same client. -/
theorem passedChallenge_of_status
    {call : VerifyCall}
    {response : Response}
    (unforged : WithoutForgery lib manager history (.verify call))
    (isAnswer : answer lib manager (.verify call) = some response)
    (succeeded : response.status = StatusCode.ok) :
    ∃ init cookie input expiresAt limit,
      PassedChallenge lib (Duration.fromSecs 5) history call init cookie input
        expiresAt limit := by
  obtain ⟨cookie, kid, key, parsed, input, checks⟩ :=
    checks_of_status isAnswer succeeded
  obtain ⟨exchange, member, name, sets⟩ :=
    issued_of_accepted checks.keyFound checks.token
      (unforged cookie (List.mem_of_find?_eq_some checks.cookieFound))
  cases isCall : exchange.call with
  | verify other =>
      exact absurd checks.token
        (verifyToken_not_challenge laws answered member isCall sets)
  | init init =>
      obtain ⟨rfl, challenge, difficulty, client, expiresAt, limit, expires,
        drifted, unexpired⟩ :=
        initToken_accepted laws answered member isCall sets checks.token
      have sameClient := checks.client
      have enough := checks.difficulty
      rw [client] at sameClient
      rw [difficulty, ← checks.hash, challenge] at enough
      exact ⟨init, cookie, input, expiresAt, limit, {
        cookieFound := checks.cookieFound
        issued := ⟨exchange, member, isCall, sets⟩
        sameClient := sameClient
        expires := expires
        drifted := drifted
        unexpired := unexpired
        body := checks.body
        work := enough
      }⟩

/-- What is validated goes back to a verification that succeeded. -/
theorem accepted_of_validated
    {cookie clientId : Str}
    {expNow nbfNow : Int}
    (notForged : NotForged lib manager history cookie)
    (validated :
      validateCaptchaVerifiedCookie lib manager cookie clientId expNow nbfNow =
        .ok ()) :
    ∃ earlier verify response later init challengeCookie input expiresAt limit,
      history = earlier ++ ⟨.verify verify, some response⟩ :: later ∧
      response.status = StatusCode.ok ∧
      response.Sets captchaVerifiedCookie cookie ∧
      verify.clientId = clientId ∧
      PassedChallenge lib (Duration.fromSecs 5) earlier verify init
        challengeCookie input expiresAt limit := by
  obtain ⟨_, _, _, keyFound, returned, _⟩ := validate_eq_ok validated
  obtain ⟨⟨call, given⟩, member, name, sets⟩ :=
    issued_of_accepted keyFound returned notForged
  cases call with
  | init init =>
      exact absurd validated
        (initToken_not_validated laws answered member rfl sets)
  | verify verify =>
      obtain ⟨sameClient, _, response, isResponse, succeeded, responseSets⟩ :=
        verifyToken_client laws answered member rfl sets validated
      obtain ⟨earlier, later, split⟩ := List.append_of_mem member
      obtain ⟨isAnswer, unforged⟩ := answered _ _ _ split
      subst split
      cases isResponse
      obtain ⟨init, challengeCookie, input, expiresAt, limit, passed⟩ :=
        passedChallenge_of_status laws answered.earlier
          unforged isAnswer.symm succeeded
      exact ⟨earlier, verify, response, later, init, challengeCookie, input,
        expiresAt, limit, rfl, succeeded, responseSets, sameClient.symm,
        passed⟩

omit answered in
/--
In every run without forged signatures the captcha is a gate, up to the time
drift that the checks of a token allow.
-/
theorem gate_of_run
    {calls : List Call}
    (unforged :
      StepRun.Along (exchangeStep lib manager) (WithoutForgery lib manager) []
        calls) :
    Gate lib manager (Duration.fromSecs 5)
      (StepRun.final (exchangeStep lib manager) [] calls) := by
  have answered := answered_of_run unforged
  refine {
    accepted := accepted_of_validated laws answered
    challengeNotVerified := fun member isInit sets =>
      initToken_not_validated laws answered member isInit sets
    verifiedNotChallenge := ?_
    verifiedClient := fun member isVerify sets validated =>
      (verifyToken_client laws answered member isVerify sets validated).1
    challengeClient := ?_
  }
  · intro exchange call name cookie other response member isVerify sets found
      isAnswer succeeded
    obtain ⟨given, _, key, parsed, input, checks⟩ :=
      checks_of_status isAnswer succeeded
    cases found.symm.trans checks.cookieFound
    exact verifyToken_not_challenge laws answered member isVerify sets
      checks.token
  · intro exchange call name cookie other response member isInit sets found
      isAnswer succeeded
    obtain ⟨given, _, key, parsed, input, checks⟩ :=
      checks_of_status isAnswer succeeded
    cases found.symm.trans checks.cookieFound
    obtain ⟨_, _, _, client, _⟩ :=
      initToken_accepted laws answered member isInit sets checks.token
    have sameClient := checks.client
    rw [client] at sameClient
    exact sameClient.symm

end Gate

section Sample

/-- The start of the sample run. -/
def sampleTime : Int :=
  1500000000 * nanosPerSec

def sampleClient : Str :=
  "client".toList

def sampleChallengeRaw : Vector UInt8 32 :=
  Vector.replicate 32 0

def sampleNonce : Str :=
  "3".toList

/-- The digest of the sample challenge followed by the nonce. -/
def sampleDigest : Vector UInt8 32 :=
  #v[
    6, 36, 234, 134, 142, 235, 90, 230, 251, 202, 9, 142, 148, 169, 65, 149,
    30, 20, 170, 48, 151, 106, 226, 54, 204, 23, 120, 202, 237, 59, 132, 50
  ]

def sampleChallengeJti : Str :=
  "015d3ef7-9800-7000-8000-000000000001".toList

def sampleVerifiedJti : Str :=
  "015d3f00-c790-7000-8000-000000000002".toList

/-- The claims of the token that is given out at the start. -/
def sampleChallengeClaims : CaptchaCookieJwtClaims where
  challenge :=
    (captchaChallenge sampleChallengeRaw).text
  difficulty :=
    proofOfWorkDifficulty
  registeredClaims :=
    captchaRegisteredClaims sampleClient sampleTime
      (sampleTime + Duration.fromSecs 600) sampleChallengeJti

/-- The claims of the token that is given out 602 seconds later. -/
def sampleVerifiedClaims : CaptchaVerifiedCookieJwtClaims where
  challengePassed :=
    true
  registeredClaims :=
    captchaRegisteredClaims sampleClient
      (sampleTime + Duration.fromSecs 602)
      (sampleTime + Duration.fromSecs 87002) sampleVerifiedJti

def sampleHeaderText : Str :=
  "\x7b\"typ\":\"JWT\",\"alg\":\"EdDSA\",\"kid\":\"k1\"\x7d".toList

def sampleChallengeText : Str :=
  ("\x7b\"challenge\":\"AAAAAAAAAAAAAAAAAAAAAAAAAAAAAAAAAAAAAAAAAAA\\u0000\"," ++
    "\"difficulty\":1,\"iss\":\"pingoo\",\"sub\":\"client\"," ++
    "\"aud\":\"pingoo\",\"exp\":1500000600,\"nbf\":1500000000," ++
    "\"iat\":1500000000," ++
    "\"jti\":\"015d3ef7-9800-7000-8000-000000000001\"\x7d").toList

def sampleVerifiedText : Str :=
  ("\x7b\"challenge_passed\":true,\"iss\":\"pingoo\"," ++
    "\"sub\":\"client\",\"aud\":\"pingoo\",\"exp\":1500087002," ++
    "\"nbf\":1500000602,\"iat\":1500000602," ++
    "\"jti\":\"015d3f00-c790-7000-8000-000000000002\"\x7d").toList

def sampleInitText : Str :=
  ("\x7b\"challenge\":\"AAAAAAAAAAAAAAAAAAAAAAAAAAAAAAAAAAAAAAAAAAA\\u0000\"," ++
    "\"difficulty\":1\x7d").toList

/-- What is signed in the two tokens. -/
def sampleMessage (claimsText : Str) : Str :=
  signedPart (urlSafe.encode sampleHeaderText.asBytes)
    (urlSafe.encode claimsText.asBytes)

def sampleChallengeSignature : Bytes :=
  [
    25, 112, 15, 254, 46, 181, 152, 94, 123, 150, 220, 181, 6, 52, 189, 15,
    108, 14, 254, 181, 237, 48, 49, 176, 208, 93, 116, 78, 224, 34, 246, 11,
    102, 145, 9, 55, 150, 108, 85, 238, 42, 133, 81, 205, 253, 82, 215, 18,
    165, 175, 143, 203, 252, 194, 106, 3, 36, 134, 242, 155, 252, 182, 115, 3
  ]

def sampleVerifiedSignature : Bytes :=
  [
    138, 149, 224, 40, 230, 40, 3, 104, 222, 169, 161, 52, 159, 129, 192, 180,
    26, 114, 102, 79, 57, 63, 223, 38, 73, 203, 114, 64, 15, 3, 9, 218, 80,
    215, 233, 90, 218, 254, 19, 6, 189, 189, 103, 136, 68, 211, 11, 66, 195,
    132, 152, 241, 97, 249, 116, 194, 99, 145, 228, 44, 225, 141, 189, 8
  ]

def sampleSignatures : List (Bytes × Bytes) :=
  [
    ((sampleMessage sampleChallengeText).asBytes, sampleChallengeSignature),
    ((sampleMessage sampleVerifiedText).asBytes, sampleVerifiedSignature)
  ]

def sampleChallengeToken : Str :=
  sampleMessage sampleChallengeText ++
    '.' :: urlSafe.encode sampleChallengeSignature

def sampleVerifiedToken : Str :=
  sampleMessage sampleVerifiedText ++
    '.' :: urlSafe.encode sampleVerifiedSignature

/-- A library that knows one key pair and its signatures of the sample. -/
def sampleSigner : AwsLc :=
  { sampleKeyPairs with
    ParsedPublicKey := Unit
    ed25519Sign := fun _ message =>
      ((sampleSignatures.find? fun known =>
        decide (known.1 = message)).map Prod.snd).getD []
    parsePublicKey := fun algorithm publicKey =>
      if algorithm = .ed25519 ∧ publicKey = ed25519PublicKey then
        some ()
      else
        none
    verifySig := fun _ message signature =>
      decide ((message, signature) ∈ sampleSignatures) }

def sampleSigningKey : Key sampleSigner where
  id :=
    "k1".toList
  algorithm :=
    .edDsa
  crypto :=
    .eddsa .ed25519 ()

/-- The objects of the sample with their texts. -/
def sampleTable : SerdeTable where
  objects :=
    [
      (sampleChallengeClaims.toFields, sampleChallengeText),
      (sampleVerifiedClaims.toFields, sampleVerifiedText),
      ([
        ("challenge".toList,
          .string (captchaChallenge sampleChallengeRaw).text),
        ("difficulty".toList,
          .number (.posInt proofOfWorkDifficulty.toUInt64))
      ], sampleInitText)
    ]
  scalars := by
    intro object member
    simp only [List.mem_cons, List.not_mem_nil, or_false] at member
    rcases member with rfl | rfl | rfl
    · exact sampleChallengeClaims.isScalar_toFields
    · exact sampleVerifiedClaims.isScalar_toFields
    · simp [Json.IsScalar]
  isObject := by
    intro object member
    simp only [List.mem_cons, List.not_mem_nil, or_false] at member
    have braces :
        '\x7b' ∈ sampleChallengeText ∧ '\x7b' ∈ sampleVerifiedText ∧
          '\x7b' ∈ sampleInitText := by
      -- the kernel reads short literals faster than a long one
      unfold sampleChallengeText sampleVerifiedText sampleInitText
      repeat rw [String.toList_append]
      decide +kernel
    rcases member with rfl | rfl | rfl
    · dsimp only
      exact braces.1
    · dsimp only
      exact braces.2.1
    · dsimp only
      exact braces.2.2
  distinct := by
    have different :
        [sampleChallengeText, sampleVerifiedText, sampleInitText].Nodup := by
      unfold sampleChallengeText sampleVerifiedText sampleInitText
      repeat rw [String.toList_append]
      decide +kernel
    intro object member other otherMember same
    simp only [List.mem_cons, List.not_mem_nil, or_false] at member otherMember
    simp only [List.nodup_cons, List.mem_cons, List.not_mem_nil, or_false,
      not_or, not_false_eq_true, List.nodup_nil, and_true] at different
    rcases member with rfl | rfl | rfl <;>
      rcases otherMember with rfl | rfl | rfl <;>
        simp_all

def sampleBody : Bytes :=
  Str.asBytes
    ("\x7b\"hash\":" ++
      "\"0624ea868eeb5ae6fbca098e94a941951e14aa30976ae236cc1778caed3b8432\"," ++
      "\"nonce\":\"3\"\x7d").toList

def sampleLibrary : CaptchaLibrary where
  lc :=
    sampleSigner
  serde :=
    sampleTable.serde [(captchaHeader sampleSigningKey, sampleHeaderText)]
  bodyFromReader :=
    fun body =>
      if body = sampleBody then
        some (Str.hexEncode sampleDigest.toList, sampleNonce)
      else
        none
  sha256 :=
    fun message =>
      if message = sampleChallengeClaims.challenge.asBytes ++
          sampleNonce.asBytes then
        sampleDigest
      else
        Vector.replicate 32 0
  formatExpires :=
    fun timestamp =>
      if timestamp = 1500000540 then
        "Fri, 14 Jul 2017 02:49:00 GMT".toList
      else if timestamp = 1500086942 then
        "Sat, 15 Jul 2017 02:49:02 GMT".toList
      else
        "Thu, 01 Jan 1970 00:00:00 GMT".toList

def sampleManager : CaptchaManager sampleLibrary.lc where
  signingKey :=
    sampleSigningKey
  verifyingKeys :=
    [("k1".toList, sampleSigningKey)]
  distinct := by
    decide

/-- A reading of the clock during the sample run. -/
def sampleReading (secs : Nat) (early : secs ≤ 100000) : Utc.DateTime where
  nanos :=
    sampleTime + Duration.fromSecs secs
  inRange := by
    simp only [Utc.minUtc, Utc.maxUtc, sampleTime, Duration.fromSecs,
      nanosPerSec]
    omega

def sampleInit : InitCall where
  clientId :=
    sampleClient
  challengeRaw :=
    sampleChallengeRaw
  now :=
    sampleReading 0 (by decide)
  jti :=
    sampleChallengeJti
  entropy :=
    0

/-- A verification two seconds after the challenge token has expired. -/
def sampleVerify : VerifyCall where
  clientId :=
    sampleClient
  cookies :=
    [⟨captchaCookie, sampleChallengeToken⟩]
  body :=
    some sampleBody
  expNow :=
    sampleReading 602 (by decide)
  nbfNow :=
    sampleReading 602 (by decide)
  now :=
    sampleReading 602 (by decide)
  jti :=
    sampleVerifiedJti
  entropy :=
    0

/-- A start, and a verification of it that comes a little late. -/
def sampleCalls : List Call :=
  [.init sampleInit, .verify sampleVerify]

theorem sampleInit_sets :
    ∃ response,
      answer sampleLibrary sampleManager (.init sampleInit) = some response ∧
      response.Sets captchaCookie sampleChallengeToken := by
  have headers :
      (answer sampleLibrary sampleManager (.init sampleInit)).map
          (fun response =>
            (response.headers.getAll .setCookie).map HeaderValue.bytes) =
        some [(SetCookie.toStr sampleLibrary
          ⟨captchaCookie, sampleChallengeToken, 1500000540⟩).asBytes] := by
    decide +kernel
  obtain ⟨response, isAnswer, isHeader⟩ := Option.map_eq_some_iff.mp headers
  refine ⟨response, isAnswer, @sets_of_toStr sampleLibrary response
    ⟨captchaCookie, sampleChallengeToken, 1500000540⟩ ?_ ?_ ?_⟩
  · rw [isHeader]
    exact List.mem_singleton_self _
  · decide
  · exact semicolon_notMem_tokenOf sampleHeaderText.asBytes _ _

theorem sampleVerify_sets :
    ∃ response,
      answer sampleLibrary sampleManager (.verify sampleVerify) =
        some response ∧
      response.Sets captchaVerifiedCookie sampleVerifiedToken := by
  have headers :
      (answer sampleLibrary sampleManager (.verify sampleVerify)).map
          (fun response =>
            (response.headers.getAll .setCookie).map HeaderValue.bytes) =
        some [
          (SetCookie.toStr sampleLibrary
            ⟨captchaVerifiedCookie, sampleVerifiedToken, 1500086942⟩).asBytes,
          (SetCookie.toStr sampleLibrary ⟨captchaCookie, [], 0⟩).asBytes
        ] := by
    decide +kernel
  obtain ⟨response, isAnswer, isHeader⟩ := Option.map_eq_some_iff.mp headers
  refine ⟨response, isAnswer, @sets_of_toStr sampleLibrary response
    ⟨captchaVerifiedCookie, sampleVerifiedToken, 1500086942⟩ ?_ ?_ ?_⟩
  · rw [isHeader]
    exact List.mem_cons_self
  · decide
  · exact semicolon_notMem_tokenOf sampleHeaderText.asBytes _ _

theorem sampleVerified_validated :
    validateCaptchaVerifiedCookie sampleLibrary sampleManager
        sampleVerifiedToken sampleClient
        (sampleTime + Duration.fromSecs 603)
        (sampleTime + Duration.fromSecs 603) = .ok () := by
  decide +kernel

/-- The token of the sample start was given out by the start. -/
theorem sampleCalls_unforged :
    StepRun.Along (exchangeStep sampleLibrary sampleManager)
      (WithoutForgery sampleLibrary sampleManager) [] sampleCalls := by
  refine ⟨trivial, ?_, trivial⟩
  intro cookie member _ _ _ _ _ _ _
  have isToken : cookie.value = sampleChallengeToken :=
    congrArg Cookie.value (List.mem_singleton.mp member)
  obtain ⟨response, isAnswer, sets⟩ := sampleInit_sets
  simp only [exchangeStep, List.nil_append, isToken]
  exact ⟨_, List.mem_singleton_self _, captchaCookie,
    sets_of_answer isAnswer sets⟩

theorem gate_of_run_sample :
    validateCaptchaVerifiedCookie sampleLibrary sampleManager
        sampleVerifiedToken sampleClient
        (sampleTime + Duration.fromSecs 603)
        (sampleTime + Duration.fromSecs 603) = .ok () ∧
      Gate sampleLibrary sampleManager (Duration.fromSecs 5)
        (StepRun.final (exchangeStep sampleLibrary sampleManager) []
          sampleCalls) :=
  ⟨sampleVerified_validated,
    gate_of_run (sampleTable.readsWhatItWrites _) sampleCalls_unforged⟩

/-- A challenge is verified two seconds after its token has expired. -/
theorem not_gate_without_drift :
    ¬ ∀ (lib : CaptchaLibrary) (manager : CaptchaManager lib.lc)
        (calls : List Call),
      lib.serde.ReadsWhatItWrites →
      StepRun.Along (exchangeStep lib manager) (WithoutForgery lib manager) []
        calls →
      Gate lib manager 0
        (StepRun.final (exchangeStep lib manager) [] calls) := by
  intro strict
  have gate := strict sampleLibrary sampleManager sampleCalls
    (sampleTable.readsWhatItWrites _) sampleCalls_unforged
  have notForged :
      NotForged sampleLibrary sampleManager
        (StepRun.final (exchangeStep sampleLibrary sampleManager) []
          sampleCalls) sampleVerifiedToken := by
    intro _ _ _ _ _ _ _
    obtain ⟨response, isAnswer, sets⟩ := sampleVerify_sets
    rw [final_exchangeStep]
    exact ⟨_, List.mem_cons_of_mem _ List.mem_cons_self,
      captchaVerifiedCookie, sets_of_answer isAnswer sets⟩
  obtain ⟨earlier, verify, response, later, init, cookie, input, expiresAt,
    limit, split, _, _, _, passed⟩ :=
    gate.accepted notForged sampleVerified_validated
  simp only [final_exchangeStep, sampleCalls, List.map_cons, List.map_nil,
    List.nil_append] at split
  rcases earlier with _ | ⟨first, _ | ⟨second, others⟩⟩
  · simp at split
  · simp only [List.cons_append, List.nil_append, List.cons.injEq,
      Exchange.mk.injEq, Call.verify.injEq] at split
    obtain ⟨isFirst, ⟨isVerify, _⟩, _⟩ := split
    obtain ⟨exchange, member, isInit, _⟩ := passed.issued
    rw [List.mem_singleton.mp member, ← isFirst] at isInit
    cases isInit
    subst isVerify
    have expires := passed.expires
    have drifted := passed.drifted
    have unexpired := passed.unexpired
    have isExpiry :
        Utc.add sampleInit.now.nanos captchaJwtExpiration =
          some (sampleTime + Duration.fromSecs 600) := by
      decide
    have isLimit :
        Utc.sub sampleVerify.expNow.nanos 0 =
          some (sampleTime + Duration.fromSecs 602) := by
      decide
    cases isExpiry.symm.trans expires
    cases isLimit.symm.trans drifted
    exact absurd unexpired (by decide)
  · have lengths := congrArg List.length split
    simp at lengths

end Sample

end Pingoo
