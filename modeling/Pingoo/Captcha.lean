import Pingoo.HttpListener
import Pingoo.Jwt.Claims

namespace Pingoo

/-!
# The captcha manager

A client that asks for a captcha gets a challenge, bound to it by a token in a
cookie.  It answers with the cookie and a proof of work, and gets another token
that certifies that it passed.  Both tokens are signed with one key.
-/

open Fallible Jwt

/-- `CAPTCHA_JWT_ISSUER`. -/
def captchaJwtIssuer : Str :=
  "pingoo".toList

/-- `CAPTCHA_VERIFIED_JWT_EXPIRATION`. -/
def captchaVerifiedJwtExpiration : Nat :=
  Duration.fromSecs (60 * 60 * 24)

/-- `CAPTCHA_JWT_EXPIRATION`. -/
def captchaJwtExpiration : Nat :=
  Duration.fromSecs (60 * 10)

/-- `PROOF_OF_WORK_DIFFICULTY`. -/
def proofOfWorkDifficulty : UInt8 :=
  1

/-- `JWT_VALDIATION_OPTIONS`. -/
def jwtValdiationOptions : ValidateOptions where
  allowedTimeDrift :=
    Duration.fromSecs 5
  nbf :=
    true
  exp :=
    true
  aud :=
    [captchaJwtIssuer]
  iss :=
    [captchaJwtIssuer]

/-- The claims of the token that binds a challenge to a client. -/
structure CaptchaCookieJwtClaims where
  challenge : Str
  difficulty : UInt8
  registeredClaims : RegisteredClaims
  deriving Repr, DecidableEq

/-- The claims of the token of a client that passed the challenge. -/
structure CaptchaVerifiedCookieJwtClaims where
  challengePassed : Bool
  registeredClaims : RegisteredClaims
  deriving Repr, DecidableEq

namespace CaptchaCookieJwtClaims

/-- The members these claims are written as. -/
def toFields (claims : CaptchaCookieJwtClaims) : List (Str × Json) :=
  ("challenge".toList, .string claims.challenge) ::
    ("difficulty".toList, .number (.posInt claims.difficulty.toUInt64)) ::
    claims.registeredClaims.toFields

/-- These claims among the members of an object. -/
def fromFields (fields : List (Str × Json)) :
    Option CaptchaCookieJwtClaims := do
  let challenge ← Json.requiredMember Json.asStr fields "challenge".toList
  let difficulty ← Json.requiredMember Json.asU8 fields "difficulty".toList
  let registeredClaims ← RegisteredClaims.fromFields fields
  some ⟨challenge, difficulty, registeredClaims⟩

end CaptchaCookieJwtClaims

namespace CaptchaVerifiedCookieJwtClaims

/-- The members these claims are written as. -/
def toFields (claims : CaptchaVerifiedCookieJwtClaims) : List (Str × Json) :=
  ("challenge_passed".toList, .bool claims.challengePassed) ::
    claims.registeredClaims.toFields

/-- These claims among the members of an object. -/
def fromFields (fields : List (Str × Json)) :
    Option CaptchaVerifiedCookieJwtClaims := do
  let challengePassed ←
    Json.requiredMember Json.asBool fields "challenge_passed".toList
  let registeredClaims ← RegisteredClaims.fromFields fields
  some ⟨challengePassed, registeredClaims⟩

end CaptchaVerifiedCookieJwtClaims

/-- The value of a hexadecimal digit. -/
def hexVal (digit : Char) : Option Nat :=
  if '0' ≤ digit ∧ digit ≤ '9' then
    some (digit.toNat - '0'.toNat)
  else if 'a' ≤ digit ∧ digit ≤ 'f' then
    some (digit.toNat - 'a'.toNat + 10)
  else if 'A' ≤ digit ∧ digit ≤ 'F' then
    some (digit.toNat - 'A'.toNat + 10)
  else
    none

/-- `hex::decode`: one byte for every two digits. -/
def hexDecode : Str → Option Bytes
  | [] =>
      some []
  | [_] =>
      none
  | high :: low :: rest => do
      let high ← hexVal high
      let low ← hexVal low
      let bytes ← hexDecode rest
      some ((16 * high + low).toUInt8 :: bytes)

/-- A digest that is given in hexadecimal. -/
def hexDecodeDigest (text : Str) : Option (Vector UInt8 32) :=
  (hexDecode text).bind fun bytes =>
    if length : bytes.length = 32 then
      some ⟨bytes.toArray, by simpa using length⟩
    else
      none

/-- The answer of a client to a challenge. -/
structure CaptchaVerifyRequestBody where
  hash : Vector UInt8 32
  nonce : Str
  deriving DecidableEq

/--
The libraries the captcha manager uses: cryptography, JSON, the texts of `hash`
and `nonce` in a request body, digests, and the format of an expiration date.
-/
structure CaptchaLibrary where
  lc : AwsLc
  serde : SerdeJson
  bodyFromReader : Bytes → Option (Str × Str)
  sha256 : Sha256
  formatExpires : Int → Str

/--
A cookie that is set in a response.  All of them are secure, for HTTP only and
for the whole site, and have `SameSite=Lax`.
-/
structure SetCookie where
  name : Str
  value : Str
  expires : Int
  deriving Repr, DecidableEq

/-- `OffsetDateTime::from_unix_timestamp`: years from -9999 to 9999. -/
def offsetDateTimeFromUnixTimestamp (timestamp : Int) : Option Int :=
  if -377705116800 ≤ timestamp ∧ timestamp ≤ 253402300799 then
    some timestamp
  else
    none

/-- A manager: the key that signs, and the keys that verify by their ids. -/
structure CaptchaManager (lc : AwsLc) where
  signingKey : Key lc
  verifyingKeys : List (Str × Key lc)
  distinct : (verifyingKeys.map Prod.fst).Nodup

/-- The verifying key with an id. -/
def CaptchaManager.verifyingKey
    {lc : AwsLc}
    (manager : CaptchaManager lc)
    (kid : Str) : Option (Key lc) :=
  (manager.verifyingKeys.find? fun entry => entry.1 = kid).map Prod.snd

section

variable (lib : CaptchaLibrary)

namespace SetCookie

/-- `Cookie::to_string`. -/
def toStr (cookie : SetCookie) : Str :=
  cookie.name ++ '=' :: cookie.value ++
    "; HttpOnly; SameSite=Lax; Secure; Path=/; Expires=".toList ++
    lib.formatExpires cookie.expires

end SetCookie

/-- How the claims of a challenge are written and read. -/
def captchaClaims : SerdeClaims CaptchaCookieJwtClaims where
  toString :=
    fun claims => .ok (lib.serde.valueToString (.object claims.toFields))
  fromSlice :=
    fun _ => none
  fromValue :=
    fun value =>
      match value with
      | .object fields => CaptchaCookieJwtClaims.fromFields fields
      | _ => none

/-- How the claims of a passed challenge are written and read. -/
def captchaVerifiedClaims : SerdeClaims CaptchaVerifiedCookieJwtClaims where
  toString :=
    fun claims => .ok (lib.serde.valueToString (.object claims.toFields))
  fromSlice :=
    fun _ => none
  fromValue :=
    fun value =>
      match value with
      | .object fields => CaptchaVerifiedCookieJwtClaims.fromFields fields
      | _ => none

/-- The registered claims of a token for a client. -/
def captchaRegisteredClaims
    (clientId : Str)
    (now expiresAt : Int)
    (jti : Str) : RegisteredClaims where
  iss :=
    some captchaJwtIssuer
  sub :=
    some clientId
  aud :=
    some captchaJwtIssuer
  exp :=
    some (Int64.ofInt (Utc.timestamp expiresAt))
  nbf :=
    some (Int64.ofInt (Utc.timestamp now))
  iat :=
    some (Int64.ofInt (Utc.timestamp now))
  jti :=
    some jti

/-- The header of a token signed with a key. -/
def captchaHeader {lc : AwsLc} (key : Key lc) : Header where
  typ :=
    .jwt
  alg :=
    .edDsa
  cty :=
    none
  jku :=
    none
  kid :=
    some key.id
  x5u :=
    none
  x5c :=
    none
  x5t :=
    none
  x5tS256 :=
    none

/-- `generate_captcha_cookie`. -/
def generateCaptchaCookie
    (key : Key lib.lc)
    (clientId challenge : Str)
    (difficulty : UInt8)
    (now : Int)
    (jti : Str)
    (entropy : Nat) : Outcome SetCookie := do
  let jwtExpiresAt ← expect (Utc.add now captchaJwtExpiration)
  let token ← sign lib.serde (captchaClaims lib) key entropy
    (captchaHeader key) {
      challenge := challenge
      difficulty := difficulty
      registeredClaims :=
        captchaRegisteredClaims clientId now jwtExpiresAt jti
    }
  let expires ← expect
    (offsetDateTimeFromUnixTimestamp (Utc.timestamp jwtExpiresAt - 60))
  .ok {
    name := captchaCookie
    value := token
    expires := expires
  }

/-- `generate_captcha_verified_cookies`. -/
def generateCaptchaVerifiedCookies
    (key : Key lib.lc)
    (clientId : Str)
    (now : Int)
    (jti : Str)
    (entropy : Nat) : Outcome (List SetCookie) := do
  let jwtExpiresAt ← expect (Utc.add now captchaVerifiedJwtExpiration)
  let token ← sign lib.serde (captchaVerifiedClaims lib) key entropy
    (captchaHeader key) {
      challengePassed := true
      registeredClaims :=
        captchaRegisteredClaims clientId now jwtExpiresAt jti
    }
  let expires ← expect
    (offsetDateTimeFromUnixTimestamp (Utc.timestamp jwtExpiresAt - 60))
  .ok [
    {
      name := captchaVerifiedCookie
      value := token
      expires := expires
    },
    -- remove the captcha cookie
    {
      name := captchaCookie
      value := []
      expires := 0
    }
  ]

/-- The errors of the captcha manager: the text of `Error::Unspecified`. -/
abbrev CaptchaError := Str

/-- `CaptchaManager::validate_captcha_verified_cookie`. -/
def validateCaptchaVerifiedCookie
    (manager : CaptchaManager lib.lc)
    (cookieStr clientId : Str)
    (expNow nbfNow : Int) : Except (Failure CaptchaError) Unit := do
  let jwtHeader ← mapErr (fun _ => "JWT is not valid".toList)
    (parseHeader lib.serde cookieStr)
  let jwtKey ← okOr "JWT is not valid".toList
    (manager.verifyingKey (jwtHeader.kid.getD []))
  let token ← mapErr (fun err => "JWT is not valid: ".toList ++ err.toStr)
    (parseAndVerify lib.serde (captchaVerifiedClaims lib) jwtKey cookieStr
      jwtValdiationOptions expNow nbfNow)
  if clientId.asBytes ≠
      (token.claims.registeredClaims.sub.getD []).asBytes ∨
      token.claims.challengePassed ≠ true then
    .error (.error "JWT is not valid".toList)
  else
    .ok ()

/-- A handler of the manager ends early with a response, or with one. -/
abbrev Handler := Except (Failure Response)

/-- What fails ends the handler with an internal error. -/
def or500 {ε α : Type} (call : Except (Failure ε) α) : Handler α :=
  mapErr (fun _ => newInternalErrorResponse500) call

/-- What is missing ends the handler with an internal error. -/
def someOr500 {α : Type} (option : Option α) : Handler α :=
  okOr newInternalErrorResponse500 option

/-- The response of a handler; `none` stands for a panic. -/
def respond : Handler Response → Option Response
  | .ok response =>
      some response
  | .error (.error response) =>
      some response
  | .error .panic =>
      none

/-- The head of the responses with a JSON body. -/
def jsonResponse : ResponseBuilder :=
  ((Response.builder.status .ok).header .contentType
    (HeaderValue.fromStr "application/json".toList)).header .cacheControl
    (HeaderValue.fromStr "public, no-cache, must-revalidate".toList)

/-- The challenge made of random bytes. -/
def captchaChallenge (challengeRaw : Vector UInt8 32) : HeaplessString 44 :=
  (encodeToBase64Heapless 44 challengeRaw.toList).get
    (isSome_encodeToBase64Heapless challengeRaw)

/-- The JSON of a `CaptchaInitResponseBody`. -/
def captchaInitResponseBody
    (challenge : HeaplessString 44)
    (difficulty : UInt8) : Json :=
  .object [
    ("challenge".toList, .string challenge.text),
    ("difficulty".toList, .number (.posInt difficulty.toUInt64))
  ]

/-- `CaptchaManager::api_init`. -/
def apiInit
    (manager : CaptchaManager lib.lc)
    (clientId : Str)
    (challengeRaw : Vector UInt8 32)
    (now : Int)
    (jti : Str)
    (entropy : Nat) : Handler Response := do
  let challenge := captchaChallenge challengeRaw
  let captchaCookie ← or500 (generateCaptchaCookie lib manager.signingKey
    clientId challenge.text proofOfWorkDifficulty now jti entropy)
  let responseBody := lib.serde.valueToString
    (captchaInitResponseBody challenge proofOfWorkDifficulty)
  let setCookieHeader ← someOr500
    (HeaderValue.fromStr (captchaCookie.toStr lib))
  expect ((jsonResponse.header .setCookie (some setCookieHeader)).body
    (.full responseBody.asBytes))

/-- The number of leading zeroes of a hash in hexadecimal. -/
def leadingZeroes (hash : Vector UInt8 32) : Nat :=
  ((Str.hexEncode hash.toList).takeWhile (· = '0')).length

/-- Add the headers that set cookies. -/
def appendCookies (builder : ResponseBuilder) :
    List SetCookie → Handler ResponseBuilder
  | [] =>
      .ok builder
  | cookie :: rest => do
      let value ← someOr500 (HeaderValue.fromStr (cookie.toStr lib))
      let (code, headers) ← someOr500 builder.parts
      appendCookies ⟨some (code, headers.append .setCookie value)⟩ rest

/-- A condition without which the handler ends with an internal error. -/
def ensure (condition : Prop) [Decidable condition] : Handler Unit :=
  if condition then .ok () else .error (.error newInternalErrorResponse500)

/-- `CaptchaVerifyRequestBody` from the texts in a body. -/
def captchaVerifyRequestBody (body : Bytes) :
    Option CaptchaVerifyRequestBody := do
  let (hash, nonce) ← lib.bodyFromReader body
  let hash ← hexDecodeDigest hash
  some ⟨hash, nonce⟩

/-- `CaptchaManager::api_verify`; `body` is `none` when it cannot be read. -/
def apiVerify
    (manager : CaptchaManager lib.lc)
    (cookies : List Cookie)
    (body : Option Bytes)
    (clientId : Str)
    (expNow nbfNow now : Int)
    (jti : Str)
    (entropy : Nat) : Handler Response := do
  let cookie ← someOr500
    (cookies.find? fun cookie => cookie.name = captchaCookie)
  let captchaJwtFromCookie := cookie.value
  let jwtHeader ← or500 (parseHeader lib.serde captchaJwtFromCookie)
  let jwtKey ← someOr500 (manager.verifyingKey (jwtHeader.kid.getD []))
  let challengeToken ← or500 (parseAndVerify lib.serde (captchaClaims lib)
    jwtKey captchaJwtFromCookie jwtValdiationOptions expNow nbfNow)
  let claims := challengeToken.claims
  let body ← someOr500 body
  let input ← someOr500 (captchaVerifyRequestBody lib body)
  ensure (clientId.asBytes = (claims.registeredClaims.sub.getD []).asBytes)
  -- the number of leading zeroes has to match the difficulty
  ensure (claims.difficulty.toNat ≤ leadingZeroes input.hash)
  let hash := lib.sha256 (claims.challenge.asBytes ++ input.nonce.asBytes)
  ensure (hash = input.hash)
  let newCookies ← or500 (generateCaptchaVerifiedCookies lib
    manager.signingKey clientId now jti entropy)
  let builder ← appendCookies lib jsonResponse newCookies
  -- the body is an empty JSON object
  expect (builder.body (.full (Str.asBytes "\x7b\x7d".toList)))

end

end Pingoo
