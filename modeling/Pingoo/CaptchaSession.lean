import Pingoo.CaptchaEnforcement
import Pingoo.CaptchaOwnCookies
import Pingoo.ProofOfWork

namespace Pingoo

/-!
# A client that solves its challenge

The page of the captcha starts a challenge, searches for a nonce and has it
verified.  When the manager finds its signing key, a client that does this in
time is given a cookie, and with this cookie it is never shown the page.
-/

open Fallible Interaction Jwt

/-- Cookies that are made now have dates in the years -9999 to 9999. -/
def HasCookieDates (now : Utc.DateTime) : Prop :=
  -377705116800 ≤ Utc.timestamp now.nanos ∧
    Utc.timestamp now.nanos + 60 * 60 * 24 ≤ 253402300799

instance (now : Utc.DateTime) : Decidable (HasCookieDates now) := by
  unfold HasCookieDates
  infer_instance

/-- The dates that cookies expire at are written in visible text. -/
def CaptchaLibrary.WritesVisibleDates (lib : CaptchaLibrary) : Prop :=
  ∀ time, ∀ character ∈ lib.formatExpires time, isVisibleAscii character = true

/-- The clock can be moved to the expiry of a cookie, which has a date. -/
theorem exists_expires
    {now : Utc.DateTime}
    (dated : HasCookieDates now)
    {secs : Nat}
    (long : 60 ≤ secs)
    (short : secs ≤ 60 * 60 * 24) :
    ∃ expires,
      Utc.add now.nanos (Duration.fromSecs secs) =
          some (now.nanos + Duration.fromSecs secs) ∧
        offsetDateTimeFromUnixTimestamp
            (Utc.timestamp (now.nanos + Duration.fromSecs secs) - 60) =
          some expires := by
  obtain ⟨early, late⟩ := dated
  have shifted :
      Utc.timestamp (now.nanos + Duration.fromSecs secs) =
        Utc.timestamp now.nanos + secs := by
    simp only [Utc.timestamp, Duration.fromSecs, nanosPerSec]
    omega
  rw [shifted]
  refine ⟨_, if_pos ?_, if_pos ?_⟩
  · simp only [Utc.timestamp, Duration.fromSecs, nanosPerSec, Utc.maxUtc] at *
    omega
  · omega

section Cookies

variable {lib : CaptchaLibrary}

/-- A text that can be the name of a cookie. -/
structure IsCookieName (name : Str) : Prop where
  visible : ∀ character ∈ name, isVisibleAscii character = true
  plain : '=' ∉ name ∧ ';' ∉ name

theorem isCookieName_captchaCookie : IsCookieName captchaCookie :=
  ⟨by decide, by decide⟩

theorem isCookieName_captchaVerifiedCookie :
    IsCookieName captchaVerifiedCookie :=
  ⟨by decide, by decide⟩

/-- A text that can be the value of a cookie. -/
structure IsCookieValue (value : Str) : Prop where
  visible : ∀ character ∈ value, isVisibleAscii character = true
  noSemicolon : ';' ∉ value

/-- A cookie whose header can be written, and is read back. -/
structure SetCookie.IsPlain (cookie : SetCookie) : Prop where
  name : IsCookieName cookie.name
  value : IsCookieValue cookie.value

/-- The header of a plain cookie can be written. -/
theorem SetCookie.IsPlain.exists_header
    {cookie : SetCookie}
    (isPlain : cookie.IsPlain)
    (visibleDates : lib.WritesVisibleDates) :
    ∃ header, HeaderValue.fromStr (cookie.toStr lib) = some header := by
  have attributes :
      ∀ character ∈
          "; HttpOnly; SameSite=Lax; Secure; Path=/; Expires=".toList,
        isVisibleAscii character = true := by
    decide
  have separator : isVisibleAscii '=' = true := by
    decide
  have visible :
      ∀ character ∈ cookie.toStr lib, isVisibleAscii character = true := by
    simp only [SetCookie.toStr, List.forall_mem_append, List.forall_mem_cons]
    exact ⟨⟨⟨isPlain.name.visible, separator, isPlain.value.visible⟩,
      attributes⟩, visibleDates _⟩
  obtain ⟨header, isHeader, -⟩ := HeaderValue.fromStr_of_isVisibleAscii visible
  exact ⟨header, isHeader⟩

section Generation

variable (laws : lib.lc.Ed25519Laws)
variable {key : Key lib.lc} {id : Str} {keypair : lib.lc.Ed25519KeyPair}
variable (isKey : key = ⟨id, .edDsa, .eddsa .ed25519 keypair⟩)
variable (readsHeader : lib.serde.ReadsHeader (captchaHeader key))
variable {now : Utc.DateTime} (dated : HasCookieDates now)

include laws isKey readsHeader

/-- Claims that are written as JSON are signed. -/
theorem exists_sign
    {Claims : Type}
    {serdeClaims : SerdeClaims Claims}
    {claims : Claims}
    {text : Str}
    (written : serdeClaims.toString claims = .ok text)
    (entropy : Nat) :
    ∃ token,
      sign lib.serde serdeClaims key entropy (captchaHeader key) claims =
          .ok token ∧
        IsCookieValue token := by
  subst isKey
  obtain ⟨json, headerWritten, -⟩ := readsHeader
  refine ⟨_, sign_eq_ok_iff.mpr ⟨json, text, _, headerWritten, written,
    sign_ed25519 laws _ _ _ _ _, rfl⟩, ?_, ?_⟩
  · exact isVisibleAscii_tokenOf _ _ _
  · exact semicolon_notMem_tokenOf _ _ _

include dated

/-- There is a cookie for every challenge. -/
theorem exists_captchaCookie
    (clientId challenge : Str)
    (difficulty : UInt8)
    (jti : Str)
    (entropy : Nat) :
    ∃ cookie,
      generateCaptchaCookie lib key clientId challenge difficulty now.nanos jti
          entropy = .ok cookie ∧
        cookie.name = captchaCookie ∧ cookie.IsPlain := by
  obtain ⟨expires, added, date⟩ :=
    @exists_expires now dated (60 * 10) (by decide) (by decide)
  obtain ⟨token, signed, isValue⟩ :=
    @exists_sign _ laws key id keypair isKey readsHeader _ (captchaClaims lib)
      ⟨challenge, difficulty, captchaRegisteredClaims clientId now.nanos
        (now.nanos + Duration.fromSecs (60 * 10)) jti⟩ _ rfl entropy
  refine ⟨⟨captchaCookie, token, expires⟩, ?_, rfl,
    ⟨isCookieName_captchaCookie, isValue⟩⟩
  simp only [generateCaptchaCookie, bind_eq_ok_iff, expect_eq_ok_iff]
  exact ⟨_, added, _, signed, _, date, rfl⟩

/-- There are cookies for every client that has passed its challenge. -/
theorem exists_captchaVerifiedCookies
    (clientId jti : Str)
    (entropy : Nat) :
    ∃ verified removal,
      generateCaptchaVerifiedCookies lib key clientId now.nanos jti entropy =
          .ok [verified, removal] ∧
        verified.name = captchaVerifiedCookie ∧
        verified.IsPlain ∧ removal.IsPlain := by
  obtain ⟨expires, added, date⟩ :=
    @exists_expires now dated (60 * 60 * 24) (by decide) le_rfl
  obtain ⟨token, signed, isValue⟩ :=
    @exists_sign _ laws key id keypair isKey readsHeader _
      (captchaVerifiedClaims lib)
      ⟨true, captchaRegisteredClaims clientId now.nanos
        (now.nanos + Duration.fromSecs (60 * 60 * 24)) jti⟩ _ rfl entropy
  refine ⟨⟨captchaVerifiedCookie, token, expires⟩, ⟨captchaCookie, [], 0⟩, ?_,
    rfl, ⟨isCookieName_captchaVerifiedCookie, isValue⟩,
    ⟨isCookieName_captchaCookie, ?_⟩⟩
  · simp only [generateCaptchaVerifiedCookies, bind_eq_ok_iff, expect_eq_ok_iff]
    exact ⟨_, added, _, signed, _, date, rfl⟩
  · exact ⟨by simp, by simp⟩

end Generation

end Cookies

section Responses

variable {lib : CaptchaLibrary} {manager : CaptchaManager lib.lc}
variable {clientId jti : Str} {now : Int} {entropy : Nat}
variable (visibleDates : lib.WritesVisibleDates)

include visibleDates

/-- A started challenge is answered with its cookie, and told to the client. -/
theorem exists_apiInit_response
    {challengeRaw : Vector UInt8 32}
    {cookie : SetCookie}
    (generated :
      generateCaptchaCookie lib manager.signingKey clientId
        (captchaChallenge challengeRaw).text proofOfWorkDifficulty now jti
        entropy = .ok cookie)
    (isPlain : cookie.IsPlain) :
    ∃ response,
      apiInit lib manager clientId challengeRaw now jti entropy =
          .ok response ∧
        response.status = StatusCode.ok ∧
        response.Sets cookie.name cookie.value ∧
        response.body =
          .full (Str.asBytes (lib.serde.valueToString
            (captchaInitResponseBody (captchaChallenge challengeRaw)
              proofOfWorkDifficulty))) := by
  obtain ⟨header, isHeader⟩ := isPlain.exists_header visibleDates
  obtain ⟨headers, parts, -⟩ := jsonResponse_parts
  refine ⟨⟨StatusCode.ok, headers.append .setCookie header, _⟩, ?_, rfl, ?_,
    rfl⟩
  · simp only [apiInit, or500, someOr500, bind_eq_ok_iff, mapErr_eq_ok_iff,
      okOr_eq_ok_iff, expect_eq_ok_iff]
    refine ⟨cookie, generated, header, isHeader, ?_⟩
    simp only [ResponseBuilder.header, ResponseBuilder.body, parts,
      Option.map_some]
  · have isSet : header ∈ (headers.append .setCookie header).getAll .setCookie := by
      rw [FieldMap.getAll_append_self]
      exact List.mem_append_right _ (List.mem_singleton_self _)
    exact sets_of_toStr
      (List.mem_map.mpr ⟨header, isSet, bytes_of_fromStr isHeader⟩)
      isPlain.name.plain isPlain.value.noSemicolon

/-- The headers of plain cookies are added to those that are there. -/
theorem exists_appendCookies
    {cookies : List SetCookie}
    (arePlain : ∀ cookie ∈ cookies, cookie.IsPlain)
    (code : StatusCode)
    (headers : HeaderMap) :
    ∃ added : HeaderMap,
      appendCookies lib ⟨some (code, headers)⟩ cookies =
          .ok ⟨some (code, added)⟩ ∧
        (∀ header ∈ headers.getAll .setCookie,
          header ∈ added.getAll .setCookie) ∧
        ∀ cookie ∈ cookies, ∃ header ∈ added.getAll .setCookie,
          HeaderValue.fromStr (cookie.toStr lib) = some header := by
  induction cookies generalizing headers with
  | nil =>
      exact ⟨headers, rfl, fun _ member => member, by simp⟩
  | cons cookie rest inductionHypothesis =>
      obtain ⟨isPlain, restPlain⟩ := List.forall_mem_cons.mp arePlain
      obtain ⟨header, isHeader⟩ := isPlain.exists_header visibleDates
      obtain ⟨added, appended, kept, set⟩ :=
        inductionHypothesis restPlain (headers.append .setCookie header)
      rw [FieldMap.getAll_append_self] at kept
      refine ⟨added, ?_, ?_, ?_⟩
      · simp only [appendCookies, someOr500, bind_eq_ok_iff, okOr_eq_ok_iff]
        exact ⟨header, isHeader, _, rfl, appended⟩
      · exact fun other member => kept other (List.mem_append_left _ member)
      · rw [List.forall_mem_cons]
        exact ⟨⟨header, kept header (List.mem_append_right _
          (List.mem_singleton_self _)), isHeader⟩, set⟩

/-- A passed challenge is answered with the new cookies. -/
theorem exists_issueVerified_response
    {cookies : List SetCookie}
    (generated :
      generateCaptchaVerifiedCookies lib manager.signingKey clientId now jti
        entropy = .ok cookies)
    (arePlain : ∀ cookie ∈ cookies, cookie.IsPlain) :
    ∃ response,
      issueVerified lib manager clientId now jti entropy = .ok response ∧
        response.status = StatusCode.ok ∧
        ∀ cookie ∈ cookies, response.Sets cookie.name cookie.value := by
  obtain ⟨headers, parts, -⟩ := jsonResponse_parts
  have whole : jsonResponse = ⟨some (StatusCode.ok, headers)⟩ :=
    congrArg ResponseBuilder.mk parts
  obtain ⟨added, appended, -, set⟩ :=
    exists_appendCookies visibleDates arePlain StatusCode.ok headers
  refine ⟨⟨StatusCode.ok, added, .full (Str.asBytes "\x7b\x7d".toList)⟩, ?_, rfl,
    fun cookie member => ?_⟩
  · simp only [issueVerified, or500, bind_eq_ok_iff, mapErr_eq_ok_iff,
      expect_eq_ok_iff, whole]
    exact ⟨cookies, generated, _, appended, rfl⟩
  · obtain ⟨header, isSet, isHeader⟩ := set cookie member
    have isPlain := arePlain cookie member
    exact sets_of_toStr
      (List.mem_map.mpr ⟨header, isSet, bytes_of_fromStr isHeader⟩)
      isPlain.name.plain isPlain.value.noSemicolon

end Responses

section Listener

variable {Expression Context Value : Type}

/-- With a valid cookie, no action leads to the page. -/
theorem scanActions_verified
    (captchaPage page : Response)
    (ip : IpAddr)
    (dispatched : ListenerProgram Expression Response)
    (actions : List (Rule Expression × Action)) :
    scanActions captchaPage true ip dispatched actions =
      scanActions page true ip dispatched actions := by
  induction actions with
  | nil =>
      rfl
  | cons entry rest inductionHypothesis =>
      obtain ⟨rule, action⟩ := entry
      cases action with
      | block =>
          rfl
      | captcha =>
          exact inductionHypothesis
      | limit =>
          rw [scanActions, scanActions]
          cases rule.limiterTx with
          | none =>
              exact inductionHypothesis
          | some limiter =>
              dsimp only
              congr 1
              funext reply
              cases reply with
              | notSent =>
                  rfl
              | notReceived =>
                  rfl
              | received result =>
                  cases result with
                  | error =>
                      rfl
                  | ok canResume =>
                      cases canResume with
                      | false =>
                          rfl
                      | true =>
                          exact inductionHypothesis

variable {language : ExpressionLanguage Expression Context Value}
variable {splitParse : Str → List (Except Unit Cookie)}
variable {captchaPage : Response} {sha256 : Sha256}

/-- A request whose cookie is valid is not shown the page. -/
theorem ends_of_validated
    {arrival : Arrival Expression Value}
    {cookie : Cookie}
    {log : List (ListenerExchange Expression)}
    {response : Response}
    (found :
      ((parseCookies splitParse arrival.req).find? fun cookie =>
        cookie.name = captchaVerifiedCookie) = some cookie)
    (validated :
      ∀ reply,
        ⟨.validateCaptchaVerifiedCookie cookie.value (arrival.clientId sha256),
            reply⟩ ∈ log →
          reply = .ok ())
    (ends :
      Ends (serveArrival language splitParse captchaPage sha256 arrival) log
        response)
    (page : Response) :
    Ends (serveArrival language splitParse page sha256 arrival) log
      response := by
  rw [serveArrival, serveHttpRequest_eq_reference] at ends ⊢
  obtain ⟨first, second, record, rfl, looked, handled⟩ := ends_bind_iff.mp ends
  refine ends_bind_iff.mpr ⟨first, second, record, rfl, looked, ?_⟩
  unfold referencePipeline at handled ⊢
  dsimp only at handled ⊢
  split_ifs at handled ⊢
  · exact handled
  · exact handled
  · rw [found] at handled ⊢
    obtain ⟨reply, rest, rfl, continued⟩ := ends_request_bind_iff.mp handled
    obtain rfl := validated reply
      (List.mem_append_right _ List.mem_cons_self)
    refine ends_request_bind_iff.mpr ⟨.ok (), rest, rfl, ?_⟩
    rw [scanActions_verified page captchaPage]
    exact continued

end Listener

/-- A client is told its challenge, and given the token of it. -/
structure IsChallenged
    (lib : CaptchaLibrary)
    (init : InitCall)
    (response : Response)
    (token : Str) : Prop where
  status : response.status = StatusCode.ok
  sets : response.Sets captchaCookie token
  body :
    response.body =
      .full (Str.asBytes (lib.serde.valueToString
        (captchaInitResponseBody (captchaChallenge init.challengeRaw)
          proofOfWorkDifficulty)))

/--
A client has what its page found verified, with the token of its challenge and
before the token expires.
-/
structure BringsSolution
    (lib : CaptchaLibrary)
    (init : InitCall)
    (token : Str)
    (verify : VerifyCall) : Prop where
  client : verify.clientId = init.clientId
  cookie :
    verify.cookies.find? (fun cookie => cookie.name = captchaCookie) =
      some ⟨captchaCookie, token⟩
  found :
    ∃ fuel result,
      proofOfWork lib.sha256 (captchaChallenge init.challengeRaw).text
          proofOfWorkDifficulty.toNat fuel = some result ∧
        verify.body = some result.toJson.asBytes
  expInTime :
    init.now.nanos ≤ verify.expNow.nanos ∧
      verify.expNow.nanos ≤ init.now.nanos + captchaJwtExpiration
  nbfInTime :
    init.now.nanos ≤ verify.nbfNow.nanos ∧
      verify.nbfNow.nanos ≤ init.now.nanos + captchaJwtExpiration
  dated : HasCookieDates verify.now

/-- A reading of the clock is within a day from some time. -/
def IsWithinDay (issued : Utc.DateTime) (reading : Int) : Prop :=
  issued.nanos ≤ reading ∧
    reading ≤ issued.nanos + captchaVerifiedJwtExpiration

/-- A cookie is accepted from a client for a day. -/
def IsValidForDay
    (lib : CaptchaLibrary)
    (manager : CaptchaManager lib.lc)
    (issued : Utc.DateTime)
    (clientId verified : Str) : Prop :=
  ∀ expNow nbfNow, IsWithinDay issued expNow → IsWithinDay issued nbfNow →
    validateCaptchaVerifiedCookie lib manager verified clientId expNow nbfNow =
      .ok ()

/-- The manager answers the checks of cookies within a day from some time. -/
def ChecksWithinDay
    (lib : CaptchaLibrary)
    (manager : CaptchaManager lib.lc)
    (issued : Utc.DateTime)
    {Expression : Type}
    (log : List (ListenerExchange Expression)) : Prop :=
  ∀ cookie clientId reply,
    ⟨.validateCaptchaVerifiedCookie cookie clientId, reply⟩ ∈ log →
      ∃ expNow nbfNow, IsWithinDay issued expNow ∧ IsWithinDay issued nbfNow ∧
        (reply = .ok () ↔
          validateCaptchaVerifiedCookie lib manager cookie clientId expNow
            nbfNow = .ok ())

/-- For a day, requests with a cookie are not shown the page. -/
def IsNotShownPage
    (lib : CaptchaLibrary)
    (manager : CaptchaManager lib.lc)
    (issued : Utc.DateTime)
    (clientId verified : Str)
    {Expression Context Value : Type}
    (language : ExpressionLanguage Expression Context Value) : Prop :=
  ∀ splitParse captchaPage sha256 (arrival : Arrival Expression Value) log
      response,
    arrival.clientId sha256 = clientId →
    ((parseCookies splitParse arrival.req).find? fun cookie =>
        cookie.name = captchaVerifiedCookie) =
      some ⟨captchaVerifiedCookie, verified⟩ →
    ChecksWithinDay lib manager issued log →
    Ends (serveArrival language splitParse captchaPage sha256 arrival) log
      response →
    -- whatever the page is, the request would have been served like this
    ∀ page,
      Ends (serveArrival language splitParse page sha256 arrival) log response

section Session

variable {lib : CaptchaLibrary} {manager : CaptchaManager lib.lc}
variable (laws : lib.lc.Ed25519Laws)
variable (readsObjects : lib.serde.ReadsWhatItWrites)
variable (visibleDates : lib.WritesVisibleDates)
variable
  (readsHeader : lib.serde.ReadsHeader (captchaHeader manager.signingKey))
variable {jwks : List Jwk} {first last : Jwk}
variable {keypair other : lib.lc.Ed25519KeyPair}
variable (signsWith : SignsWith jwks manager first last keypair other)

include laws visibleDates readsHeader signsWith

/-- A client that asks for a challenge gets one, and the token of it. -/
theorem exists_challenge
    (init : InitCall)
    (dated : HasCookieDates init.now) :
    ∃ response cookie,
      answer lib manager (.init init) = some response ∧
        generateCaptchaCookie lib manager.signingKey init.clientId
            (captchaChallenge init.challengeRaw).text proofOfWorkDifficulty
            init.now.nanos init.jti init.entropy = .ok cookie ∧
        IsChallenged lib init response cookie.value := by
  obtain ⟨cookie, generated, isName, isPlain⟩ :=
    @exists_captchaCookie lib laws _ _ keypair signsWith.signingKey readsHeader
      _ dated init.clientId (captchaChallenge init.challengeRaw).text
      proofOfWorkDifficulty init.jti init.entropy
  obtain ⟨response, returned, status, sets, body⟩ :=
    exists_apiInit_response visibleDates generated isPlain
  rw [isName] at sets
  refine ⟨response, cookie, ?_, generated, ⟨status, sets, body⟩⟩
  rw [answer, returned]
  rfl

variable
  (same : lib.lc.ed25519PublicKey keypair = lib.lc.ed25519PublicKey other)

include readsObjects same

/-- A client that brings a solution gets a cookie, which is valid for a day. -/
theorem exists_verified
    (readsResults : lib.ReadsResults)
    {init : InitCall}
    {cookie : SetCookie}
    {verify : VerifyCall}
    (dated : HasCookieDates init.now)
    (generated :
      generateCaptchaCookie lib manager.signingKey init.clientId
          (captchaChallenge init.challengeRaw).text proofOfWorkDifficulty
          init.now.nanos init.jti init.entropy = .ok cookie)
    (brings : BringsSolution lib init cookie.value verify) :
    ∃ response verified,
      answer lib manager (.verify verify) = some response ∧
        response.status = StatusCode.ok ∧
        response.Sets captchaVerifiedCookie verified ∧
        IsCookieValue verified ∧
        IsValidForDay lib manager verify.now init.clientId verified := by
  obtain ⟨_, initAdded, -⟩ :=
    @exists_expires init.now dated (60 * 10) (by decide) (by decide)
  obtain ⟨_, verifyAdded, -⟩ :=
    @exists_expires verify.now brings.dated (60 * 60 * 24) (by decide) le_rfl
  have isToken := passesTokenChecks_own laws readsObjects readsHeader signsWith
    same generated initAdded brings.expInTime brings.nbfInTime
  have token :
      TokenAccepted lib manager verify.cookies verify.clientId
        verify.expNow.nanos verify.nbfNow.nanos
        (captchaChallenge init.challengeRaw).text proofOfWorkDifficulty := by
    obtain ⟨header, key, parsed, isHeader, isKey, isParsed, client, rest⟩ :=
      isToken
    exact ⟨_, header, key, parsed, brings.cookie, isHeader, isKey, isParsed,
      client.trans brings.client.symm, rest⟩
  obtain ⟨fuel, result, found, body⟩ := brings.found
  obtain ⟨verified, removal, issued, isName, isPlain, removalPlain⟩ :=
    @exists_captchaVerifiedCookies lib laws _ _ keypair signsWith.signingKey
      readsHeader _ brings.dated verify.clientId verify.jti verify.entropy
  have arePlain : ∀ cookie ∈ [verified, removal], cookie.IsPlain := by
    simp [isPlain, removalPlain]
  obtain ⟨response, returned, status, sets⟩ :=
    exists_issueVerified_response visibleDates issued arePlain
  have set := sets verified List.mem_cons_self
  rw [isName] at set
  refine ⟨response, verified.value, ?_, status, set, isPlain.value, ?_⟩
  · rw [answer, body, (apiVerify_of_tokenAccepted token _ _ _ _).1
      (passesProofOfWork_of_proofOfWork readsResults found), returned]
    rfl
  · intro expNow nbfNow expCurrent nbfCurrent
    rw [← brings.client]
    exact validate_own laws readsObjects readsHeader signsWith same issued
      verifyAdded expCurrent nbfCurrent

end Session

/--
A client that asks for a challenge, and brings what its page found before the
token of the challenge expires, is given a cookie that is valid for a day.  For
this day, no request with the cookie is shown the page of the captcha, whatever
the rules ask for.
-/
theorem admitted_of_solution
    {lib : CaptchaLibrary}
    (laws : lib.lc.Ed25519Laws)
    (readsObjects : lib.serde.ReadsWhatItWrites)
    (readsResults : lib.ReadsResults)
    (visibleDates : lib.WritesVisibleDates)
    {files : CaptchaFiles}
    {content : Bytes}
    {jwks : List Jwk}
    {keyId : Str}
    {entropy : Nat}
    {manager : CaptchaManager lib.lc}
    (fileExists : files.tryExists = .ok true)
    (read : files.read = .ok content)
    (parsed : files.jwksFromSlice content = .ok jwks)
    (accepted : CaptchaManager.new files keyId entropy = .ok manager)
    (readsHeader : lib.serde.ReadsHeader (captchaHeader manager.signingKey))
    (isFound : SigningKeyIsFound jwks)
    {Expression Context Value : Type}
    (language : ExpressionLanguage Expression Context Value)
    {init : InitCall}
    (dated : HasCookieDates init.now) :
    ∃ response token,
      answer lib manager (.init init) = some response ∧
        IsChallenged lib init response token ∧
        ∀ verify, BringsSolution lib init token verify →
          ∃ response verified,
            answer lib manager (.verify verify) = some response ∧
              response.status = StatusCode.ok ∧
              response.Sets captchaVerifiedCookie verified ∧
              IsCookieValue verified ∧
              IsValidForDay lib manager verify.now init.clientId verified ∧
              IsNotShownPage lib manager verify.now init.clientId verified
                language := by
  obtain ⟨first, last, keypair, other, signsWith⟩ :=
    signsWith_of_ofFile laws read parsed (ofFile_of_new fileExists accepted)
  have same := signsWith.publicKey_eq_iff.mp isFound
  obtain ⟨response, cookie, answered, generated, isChallenged⟩ :=
    exists_challenge laws visibleDates readsHeader signsWith init dated
  refine ⟨response, cookie.value, answered, isChallenged,
    fun verify brings => ?_⟩
  obtain ⟨response, verified, answered, status, sets, isValue, isValid⟩ :=
    exists_verified laws readsObjects visibleDates readsHeader signsWith same
      readsResults dated generated brings
  refine ⟨response, verified, answered, status, sets, isValue, isValid, ?_⟩
  intro splitParse captchaPage sha256 arrival log served isClient found checks
    ends
  refine ends_of_validated found (fun reply asked => ?_) ends
  rw [isClient] at asked
  obtain ⟨expNow, nbfNow, expCurrent, nbfCurrent, passes⟩ := checks _ _ _ asked
  exact passes.mpr (isValid _ _ expCurrent nbfCurrent)

section Sample

/-- The digests of the sample challenge with the first nonces. -/
private def sessionSha256 : Sha256 := fun data =>
  if data = Str.asBytes ((captchaChallenge sampleChallengeRaw).text ++ ['0']) then
    #v[60, 51, 119, 23, 62, 196, 153, 79, 239, 73, 69, 85, 116, 153, 216, 129,
      127, 249, 5, 160, 197, 210, 164, 48, 202, 152, 74, 147, 6, 159, 17, 33]
  else if data =
      Str.asBytes ((captchaChallenge sampleChallengeRaw).text ++ ['1']) then
    #v[148, 228, 169, 93, 1, 1, 229, 39, 234, 81, 119, 2, 143, 199, 74, 28,
      29, 125, 152, 42, 26, 250, 247, 222, 234, 133, 112, 112, 147, 46, 239,
      145]
  else if data =
      Str.asBytes ((captchaChallenge sampleChallengeRaw).text ++ ['2']) then
    #v[101, 82, 193, 106, 48, 87, 178, 102, 100, 178, 103, 134, 78, 66, 127,
      191, 34, 169, 77, 207, 63, 39, 91, 185, 107, 18, 236, 211, 106, 117, 6,
      110]
  else
    sampleDigest

private def sessionLibrary : CaptchaLibrary where
  lc :=
    twoKeyPairs
  serde :=
    twoKeyLibrary.serde
  bodyFromReader :=
    sampleBodyFromReader
  sha256 :=
    sessionSha256
  formatExpires :=
    twoKeyLibrary.formatExpires

private def sessionManager : CaptchaManager sessionLibrary.lc :=
  twoKeyManager "k2".toList

private theorem sessionLibrary_visibleDates :
    sessionLibrary.WritesVisibleDates := by
  intro time
  change ∀ character ∈ "Fri, 14 Jul 2017 02:49:00 GMT".toList, _
  decide

/-- What the page finds for the sample challenge. -/
private def sessionResult : ProofOfWorkResult where
  nonce :=
    sampleNonce
  hash :=
    Str.hexEncode sampleDigest.toList

private theorem sessionBegins : 0 ≤ 100000 := by
  decide

private theorem sessionEarly : 60 ≤ 100000 := by
  decide

private theorem proofOfWork_session :
    proofOfWork sessionLibrary.sha256 (captchaChallenge sampleChallengeRaw).text
      proofOfWorkDifficulty.toNat 4 = some sessionResult := by
  decide +kernel

private theorem sessionInitDated :
    HasCookieDates (sampleReading 0 sessionBegins) := by
  decide

private theorem sessionDated : HasCookieDates (sampleReading 60 sessionEarly) := by
  decide

private def sessionInit : InitCall where
  clientId :=
    gatedClient
  challengeRaw :=
    sampleChallengeRaw
  now :=
    sampleReading 0 sessionBegins
  jti :=
    sampleChallengeJti
  entropy :=
    0

/-- A minute later, the client brings the result. -/
private def sessionVerify (token : Str) : VerifyCall where
  clientId :=
    gatedClient
  cookies :=
    [⟨captchaCookie, token⟩]
  body :=
    some sessionResult.toJson.asBytes
  expNow :=
    sampleReading 60 sessionEarly
  nbfNow :=
    sampleReading 60 sessionEarly
  now :=
    sampleReading 60 sessionEarly
  jti :=
    sampleVerifiedJti
  entropy :=
    0

private theorem sessionInTime :
    sessionInit.now.nanos ≤ (sampleReading 60 sessionEarly).nanos ∧
      (sampleReading 60 sessionEarly).nanos ≤
        sessionInit.now.nanos + captchaJwtExpiration := by
  decide

private theorem bringsSolution_sessionVerify (token : Str) :
    BringsSolution sessionLibrary sessionInit token (sessionVerify token) where
  client :=
    rfl
  cookie :=
    List.find?_cons_of_pos (decide_eq_true rfl)
  found :=
    ⟨4, sessionResult, proofOfWork_session, rfl⟩
  expInTime :=
    sessionInTime
  nbfInTime :=
    sessionInTime
  dated :=
    sessionDated

/-- What a visitor with a valid cookie asks. -/
private def sessionLog (header : HeaderValue) (verified : Str) :
    List (ListenerExchange Empty) :=
  [⟨.validateCaptchaVerifiedCookie verified
      ((gatedArrival (gatedRequest "/" (some header) [])).clientId gatedSha256),
        .ok ()⟩,
    ⟨.handle gatedService
      ((gatedArrival (gatedRequest "/" (some header) [])).handed
        GeoipRecord.default), newNotFoundError⟩]

private theorem exists_visit
    {verified : Str}
    (isValue : IsCookieValue verified) :
    ∃ header,
      ((parseCookies gatedSplitParse
          (gatedArrival (gatedRequest "/" (some header) [])).req).find?
            fun cookie => cookie.name = captchaVerifiedCookie) =
          some ⟨captchaVerifiedCookie, verified⟩ ∧
        Ends
          (serveArrival noExpressions gatedSplitParse newNotFoundError
            gatedSha256 (gatedArrival (gatedRequest "/" (some header) [])))
          (sessionLog header verified) newNotFoundError := by
  have visible :
      ∀ character ∈ captchaVerifiedCookie ++ '=' :: verified,
        isVisibleAscii character = true := by
    have separator : isVisibleAscii '=' = true := by
      decide
    simp only [List.forall_mem_append, List.forall_mem_cons]
    exact ⟨isCookieName_captchaVerifiedCookie.visible, separator,
      isValue.visible⟩
  have isCookie :
      gatedSplitParse (captchaVerifiedCookie ++ '=' :: verified) =
        [.ok ⟨captchaVerifiedCookie, verified⟩] := by
    rw [gatedSplitParse, nameValue_pair isCookieName_captchaVerifiedCookie.plain
      isValue.noSemicolon]
  obtain ⟨header, isText⟩ :
      ∃ header : HeaderValue,
        header.toStr = some (captchaVerifiedCookie ++ '=' :: verified) :=
    ⟨.ofVisible _ visible, HeaderValue.toStr_ofVisible visible⟩
  have areCookies := parseCookies_gatedRequest "/" header [] isText isCookie
  obtain ⟨next, isAsking, asksService⟩ := serveArrival_gatedVisit areCookies
  refine ⟨header, find_gatedVisit areCookies, ?_⟩
  rw [isAsking, sessionLog]
  refine ⟨.ok (), _, rfl, ?_⟩
  rw [asksService]
  exact ⟨newNotFoundError, [], rfl, rfl, rfl⟩

/--
The client of the sample gets a cookie, and visits a site whose only rule asks
for a captcha.
-/
theorem admitted_of_solution_sample :
    ∃ token response verified header,
      answer sessionLibrary sessionManager (.verify (sessionVerify token)) =
          some response ∧
        response.Sets captchaVerifiedCookie verified ∧
        ∀ page,
          Ends
            (serveArrival noExpressions gatedSplitParse page gatedSha256
              (gatedArrival (gatedRequest "/" (some header) [])))
            (sessionLog header verified) newNotFoundError := by
  have isFound : SigningKeyIsFound (twoJwks "k2".toList) := by
    intro first isFirst last isLast
    cases isFirst
    cases isLast
    rfl
  obtain ⟨_, token, -, -, admitted⟩ :=
    @admitted_of_solution sessionLibrary twoKeyPairs_laws
      (sampleTable.readsWhatItWrites _)
      ⟨sampleProofLibrary_readsResults.result⟩ sessionLibrary_visibleDates
      (twoKeyFiles "k2".toList) _ _ [] 0 sessionManager rfl rfl
      (jwksFromSlice_twoKeyFiles _) (new_twoKeyFiles (by decide))
      (readsHeader_twoKeyManager _) isFound Empty Unit Unit noExpressions
      sessionInit sessionInitDated
  obtain ⟨response, verified, answered, -, sets, isValue, isValid, notShown⟩ :=
    admitted (sessionVerify token) (bringsSolution_sessionVerify token)
  obtain ⟨header, found, ends⟩ := exists_visit isValue
  refine ⟨token, response, verified, header, answered, sets, ?_⟩
  refine notShown gatedSplitParse newNotFoundError gatedSha256 _ _ _
    (clientId_gatedArrival _ _ _) found ?_ ends
  intro cookie clientId reply member
  have issued : IsWithinDay (sessionVerify token).now
      (sessionVerify token).now.nanos :=
    ⟨le_rfl, Int.le_add_of_nonneg_right (Int.natCast_nonneg _)⟩
  rw [sessionLog, List.mem_cons] at member
  rcases member with made | member
  · cases made
    rw [clientId_gatedArrival]
    exact ⟨_, _, issued, issued, fun _ => isValid _ _ issued issued,
      fun _ => rfl⟩
  · cases List.mem_singleton.mp member

end Sample

end Pingoo
