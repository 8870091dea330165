import Pingoo.CaptchaGate
import Pingoo.CaptchaKeys
import Pingoo.Jwt.TokenAccepted
import Pingoo.Library.RelatedLists

namespace Pingoo

/-!
# Whether the captcha manager accepts its own cookies

Tokens carry the id of the key that signed them, and are verified with the key
of that id.  So the manager accepts what it gives out when the two keys have one
public key: when the last key of the file that has the id of the first one does.
-/

open Fallible Jwt KeyedFold

section

variable (lib : CaptchaLibrary) (manager : CaptchaManager lib.lc)

/--
A text passes what `api_verify` checks of the token of a challenge for a client,
and the challenge is read from it.
-/
def PassesTokenChecks
    (token clientId challenge : Str)
    (difficulty : UInt8)
    (expNow nbfNow : Int) : Prop :=
  ∃ header key parsed,
    parseHeader lib.serde token = .ok header ∧
    manager.verifyingKey (header.kid.getD []) = some key ∧
    parseAndVerify lib.serde (captchaClaims lib) key token
      jwtValdiationOptions expNow nbfNow = .ok parsed ∧
    parsed.claims.registeredClaims.sub.getD [] = clientId ∧
    parsed.claims.challenge = challenge ∧
    parsed.claims.difficulty = difficulty

/--
The manager accepts the cookies it makes from their issue to their expiry.
-/
structure AcceptsOwnCookies : Prop where
  verified :
    ∀ {clientId jti entropy verified others expiresAt expNow nbfNow}
      {now : Utc.DateTime},
      clientId ≠ [] →
      generateCaptchaVerifiedCookies lib manager.signingKey clientId now.nanos
        jti entropy = .ok (verified :: others) →
      Utc.add now.nanos captchaVerifiedJwtExpiration = some expiresAt →
      now.nanos ≤ expNow ∧ expNow ≤ expiresAt →
      now.nanos ≤ nbfNow ∧ nbfNow ≤ expiresAt →
      validateCaptchaVerifiedCookie lib manager verified.value clientId expNow
        nbfNow = .ok ()
  challenge :
    ∀ {clientId challenge difficulty jti entropy cookie expiresAt expNow nbfNow}
      {now : Utc.DateTime},
      clientId ≠ [] →
      generateCaptchaCookie lib manager.signingKey clientId challenge
        difficulty now.nanos jti entropy = .ok cookie →
      Utc.add now.nanos captchaJwtExpiration = some expiresAt →
      now.nanos ≤ expNow ∧ expNow ≤ expiresAt →
      now.nanos ≤ nbfNow ∧ nbfNow ≤ expiresAt →
      PassesTokenChecks lib manager cookie.value clientId challenge difficulty
        expNow nbfNow

end

/-- Past the token checks, `api_verify` asks for the work and gives cookies. -/
theorem apiVerify_of_passesTokenChecks
    {lib : CaptchaLibrary}
    {manager : CaptchaManager lib.lc}
    {cookies : List Cookie}
    {cookie : Cookie}
    {clientId challenge jti : Str}
    {difficulty : UInt8}
    {expNow nbfNow now : Int}
    {data : Bytes}
    {input : CaptchaVerifyRequestBody}
    {entropy : Nat}
    {newCookies : List SetCookie}
    (found :
      cookies.find? (fun cookie => cookie.name = captchaCookie) = some cookie)
    (passes :
      PassesTokenChecks lib manager cookie.value clientId challenge difficulty
        expNow nbfNow)
    (isInput : captchaVerifyRequestBody lib data = some input)
    (work : difficulty.toNat ≤ leadingZeroes input.hash)
    (hash :
      lib.sha256 (challenge.asBytes ++ input.nonce.asBytes) = input.hash)
    (generated :
      generateCaptchaVerifiedCookies lib manager.signingKey clientId now jti
        entropy = .ok newCookies) :
    apiVerify lib manager cookies (some data) clientId expNow nbfNow now jti
        entropy =
      appendCookies lib jsonResponse newCookies >>= fun builder =>
        expect (builder.body (.full (Str.asBytes "\x7b\x7d".toList))) := by
  obtain ⟨header, key, parsed, isHeader, isKey, isParsed, client, rfl, rfl⟩ :=
    passes
  simp only [apiVerify, found, isHeader, isKey, isParsed, isInput, client,
    generated, ensure, if_pos work, hash, someOr500, or500, okOr, mapErr,
    if_true, bind, Except.bind]

/--
The last key of the file with the id of the first one has the public key of the
first one.
-/
def SigningKeyIsFound (jwks : List Jwk) : Prop :=
  ∀ first ∈ jwks.head?,
    ∀ last ∈ jwks.reverse.find? fun jwk => decide (first.kid = jwk.kid),
      publicKeyOf last = publicKeyOf first

section Times

variable {now : Utc.DateTime} {expiresAt expires expNow nbfNow : Int}
variable {duration : Nat}

/-- The timestamp of the clock fits the integers it is stored in. -/
theorem toInt_timestamp_now (now : Utc.DateTime) :
    (Int64.ofInt (Utc.timestamp now.nanos)).toInt =
      Utc.timestamp now.nanos := by
  have noLater : Utc.add now.nanos 0 = some now.nanos := by
    have inRange := now.inRange
    simp [Utc.add, inRange.2]
  exact Utc.toInt_timestamp_of_add now noLater

/-- No date on a cookie is near the ends of the clock. -/
theorem dates_of_expires
    (added : Utc.add now.nanos duration = some expiresAt)
    (short : duration ≤ captchaVerifiedJwtExpiration)
    (dated :
      offsetDateTimeFromUnixTimestamp (Utc.timestamp expiresAt - 60) =
        some expires) :
    Utc.minUtc + Duration.fromSecs 5 ≤ now.nanos ∧
      expiresAt + Duration.fromSecs 5 ≤ Utc.maxUtc := by
  simp only [offsetDateTimeFromUnixTimestamp] at dated
  split at dated
  · next inRange =>
      simp only [Utc.add] at added
      split at added
      · cases added
        simp only [Utc.timestamp, Utc.minUtc, Utc.maxUtc, nanosPerSec,
          captchaVerifiedJwtExpiration, Duration.fromSecs] at *
        omega
      · cases added
  · cases dated

/-- The time drift can be taken from the clock before a token expires. -/
theorem exists_sub_drift
    (early : Utc.minUtc + Duration.fromSecs 5 ≤ now.nanos)
    (current : now.nanos ≤ expNow ∧ expNow ≤ expiresAt) :
    ∃ limit,
      Utc.sub expNow (Duration.fromSecs 5) = some limit ∧
      Utc.timestamp limit ≤ Utc.timestamp expiresAt := by
  refine ⟨expNow - Duration.fromSecs 5, if_pos (by omega), ?_⟩
  apply Int.ediv_le_ediv (by decide)
  omega

/-- The time drift can be added to the clock after a token was issued. -/
theorem exists_add_drift
    (late : expiresAt + Duration.fromSecs 5 ≤ Utc.maxUtc)
    (current : now.nanos ≤ nbfNow ∧ nbfNow ≤ expiresAt) :
    ∃ limit,
      Utc.add nbfNow (Duration.fromSecs 5) = some limit ∧
      Utc.timestamp now.nanos ≤ Utc.timestamp limit := by
  refine ⟨nbfNow + Duration.fromSecs 5, if_pos (by omega), ?_⟩
  apply Int.ediv_le_ediv (by decide)
  omega

/-- The registered claims of a current token pass the checks. -/
theorem claimsPass_of_current
    (clientId jti : Str)
    {members : List (Str × Json)}
    (added : Utc.add now.nanos duration = some expiresAt)
    (short : duration ≤ captchaVerifiedJwtExpiration)
    (dated :
      offsetDateTimeFromUnixTimestamp (Utc.timestamp expiresAt - 60) =
        some expires)
    (expCurrent : now.nanos ≤ expNow ∧ expNow ≤ expiresAt)
    (nbfCurrent : now.nanos ≤ nbfNow ∧ nbfNow ≤ expiresAt)
    (same :
      ∀ name ∈ RegisteredClaims.names,
        Json.lookup members name =
          Json.lookup (captchaRegisteredClaims clientId now.nanos expiresAt
            jti).toFields name) :
    ClaimsPass jwtValdiationOptions expNow nbfNow members := by
  obtain ⟨early, late⟩ := dates_of_expires added short dated
  obtain ⟨iss, _, aud, exp, nbf, _⟩ :=
    (captchaRegisteredClaims clientId now.nanos expiresAt jti).lookup_toFields
  rw [← same _ (by decide)] at iss aud exp nbf
  have isIssuer :
      captchaJwtIssuer ∈ jwtValdiationOptions.iss ∧
        captchaJwtIssuer ∈ jwtValdiationOptions.aud :=
    ⟨List.mem_singleton_self _, List.mem_singleton_self _⟩
  refine {
    exp := fun _ => ?_
    nbf := fun _ => ?_
    aud := fun _ => ⟨_, _, aud, rfl, isIssuer.2⟩
    iss := fun _ => ⟨_, _, iss, rfl, isIssuer.1⟩
  }
  · obtain ⟨limit, shifted, notExpired⟩ := exists_sub_drift early expCurrent
    refine ⟨_, _, limit, exp, Json.asI64_ofInt64 _, shifted, ?_⟩
    rwa [Utc.toInt_timestamp_of_add now added]
  · obtain ⟨limit, shifted, begun⟩ := exists_add_drift late nbfCurrent
    refine ⟨_, _, limit, nbf, Json.asI64_ofInt64 _, shifted, ?_⟩
    rwa [toInt_timestamp_now]

end Times

section Keys

variable {lc : AwsLc}

/--
The keys that a manager of a file works with: it signs with the first one, and
finds the last one that has the id of the first.
-/
structure SignsWith
    (jwks : List Jwk)
    (manager : CaptchaManager lc)
    (first last : Jwk)
    (keypair other : lc.Ed25519KeyPair) : Prop where
  isFirst : jwks.head? = some first
  isLast :
    (jwks.reverse.find? fun jwk => decide (first.kid = jwk.kid)) = some last
  signingKey :
    manager.signingKey = ⟨first.kid, .edDsa, .eddsa .ed25519 keypair⟩
  verifyingKey :
    manager.verifyingKey first.kid =
      some ⟨last.kid, .edDsa, .eddsa .ed25519 other⟩
  publicKey : publicKeyOf first = some (lc.ed25519PublicKey keypair)
  otherPublicKey : publicKeyOf last = some (lc.ed25519PublicKey other)

/-- With a file that exists, the manager is made from that file. -/
theorem ofFile_of_new
    {files : CaptchaFiles}
    {keyId : Str}
    {entropy : Nat}
    {manager : CaptchaManager lc}
    (fileExists : files.tryExists = .ok true)
    (accepted : CaptchaManager.new files keyId entropy = .ok manager) :
    CaptchaManager.ofFile files = .ok manager := by
  simpa only [CaptchaManager.new, bind_eq_ok_iff, orReport_eq_ok_iff,
    fileExists, Except.ok.injEq, exists_eq_left', if_true] using accepted

/-- A manager that was made from a file signs with a key of the file. -/
theorem signsWith_of_ofFile
    (laws : lc.Ed25519Laws)
    {files : CaptchaFiles}
    {content : Bytes}
    {jwks : List Jwk}
    {manager : CaptchaManager lc}
    (read : files.read = .ok content)
    (parsed : files.jwksFromSlice content = .ok jwks)
    (accepted : CaptchaManager.ofFile files = .ok manager) :
    ∃ first last keypair other,
      SignsWith jwks manager first last keypair other := by
  simp only [CaptchaManager.ofFile, bind_eq_ok_iff, orReport_eq_ok_iff, read,
    parsed, Except.ok.injEq, exists_eq_left', callEach_eq_ok_iff] at accepted
  obtain ⟨keys, each, returned⟩ := accepted
  cases each with
  | nil =>
      cases returned
  | @cons first key rest others isFirst restKeys =>
      cases returned
      have everyKey :
          List.Forall₂ (IsReadFrom lc) (first :: rest) (key :: others) :=
        List.Forall₂.imp (fun _ _ => isReadFrom_of_captchaKey)
          (.cons isFirst restKeys)
      have sameId :
          ∀ jwk key, IsReadFrom lc jwk key →
            decide (first.kid = jwk.kid) = decide (first.kid = key.id) := by
        intro jwk key isRead
        rw [isRead.id]
      have related := RelatedLists.rel_find? sameId
        (List.forall₂_reverse_iff.mpr everyKey)
      have present :
          ((first :: rest).reverse.find? fun jwk =>
            decide (first.kid = jwk.kid)).isSome = true := by
        rw [List.find?_isSome]
        exact ⟨first, by simp, by simp⟩
      obtain ⟨last, isLast⟩ := Option.isSome_iff_exists.mp present
      rw [isLast, ← verifyingKey_ofKeys key] at related
      generalize found :
        (CaptchaManager.ofKeys key (key :: others)).verifyingKey first.kid =
          verifyingKey at related
      cases related with
      | some lastRead =>
          obtain ⟨x, seed, keypair, isPublic, built, rfl⟩ :=
            (isReadFrom_of_captchaKey isFirst).keypair
          obtain ⟨otherX, otherSeed, other, otherPublic, otherBuilt, rfl⟩ :=
            lastRead.keypair
          exact ⟨first, last, keypair, other, {
            isFirst := rfl
            isLast := isLast
            signingKey := rfl
            verifyingKey := found
            publicKey := by
              rw [laws.publicKey built]
              exact isPublic
            otherPublicKey := by
              rw [laws.publicKey otherBuilt]
              exact otherPublic
          }⟩

/-- The key that verifies has the public key of the one that signs. -/
theorem SignsWith.publicKey_eq_iff
    {jwks : List Jwk}
    {manager : CaptchaManager lc}
    {first last : Jwk}
    {keypair other : lc.Ed25519KeyPair}
    (signsWith : SignsWith jwks manager first last keypair other) :
    SigningKeyIsFound jwks ↔
      lc.ed25519PublicKey keypair = lc.ed25519PublicKey other := by
  have samePublic :
      publicKeyOf last = publicKeyOf first ↔
        lc.ed25519PublicKey keypair = lc.ed25519PublicKey other := by
    rw [signsWith.publicKey, signsWith.otherPublicKey, Option.some.injEq,
      eq_comm]
  rw [← samePublic]
  constructor
  · exact fun isFound => isFound first signsWith.isFirst last signsWith.isLast
  · intro same firstJwk isFirst lastJwk isLast
    cases signsWith.isFirst.symm.trans isFirst
    cases signsWith.isLast.symm.trans isLast
    exact same

end Keys

/-- The Unix epoch, as a reading of the clock. -/
def epoch : Utc.DateTime where
  nanos :=
    0
  inRange := by
    decide

/--
A verified cookie that was made with an Ed25519 key is accepted while it is
current, by a manager whose key of that id has the same public key.
-/
theorem validate_of_verifyingKey
    {lib : CaptchaLibrary}
    {manager : CaptchaManager lib.lc}
    (laws : lib.lc.Ed25519Laws)
    (readsObjects : lib.serde.ReadsWhatItWrites)
    {id otherId : Str}
    {keypair other : lib.lc.Ed25519KeyPair}
    (readsHeader :
      lib.serde.ReadsHeader
        (@captchaHeader lib.lc ⟨id, .edDsa, .eddsa .ed25519 keypair⟩))
    (isFound :
      manager.verifyingKey id =
        some ⟨otherId, .edDsa, .eddsa .ed25519 other⟩)
    (same : lib.lc.ed25519PublicKey keypair = lib.lc.ed25519PublicKey other)
    {clientId jti : Str}
    {entropy : Nat}
    {verified : SetCookie}
    {others : List SetCookie}
    {now : Utc.DateTime}
    {expiresAt expNow nbfNow : Int}
    (generated :
      generateCaptchaVerifiedCookies lib
        ⟨id, .edDsa, .eddsa .ed25519 keypair⟩ clientId now.nanos jti entropy =
          .ok (verified :: others))
    (added : Utc.add now.nanos captchaVerifiedJwtExpiration = some expiresAt)
    (expCurrent : now.nanos ≤ expNow ∧ expNow ≤ expiresAt)
    (nbfCurrent : now.nanos ≤ nbfNow ∧ nbfNow ≤ expiresAt) :
    validateCaptchaVerifiedCookie lib manager verified.value clientId expNow
      nbfNow = .ok () := by
  simp only [generateCaptchaVerifiedCookies, bind_eq_ok_iff, expect_eq_ok_iff,
    added, Option.some.injEq, exists_eq_left', Except.ok.injEq,
    List.cons.injEq] at generated
  obtain ⟨token, signed, expires, dated, rfl, _⟩ := generated
  have passes :
      ∀ members : List (Str × Json),
        (∀ name, Json.lookup members name =
          Json.lookup
            (CaptchaVerifiedCookieJwtClaims.toFields
              ⟨true, captchaRegisteredClaims clientId now.nanos expiresAt jti⟩)
            name) →
        ClaimsPass jwtValdiationOptions expNow nbfNow members := by
    intro members sameMembers
    refine claimsPass_of_current clientId jti added le_rfl dated expCurrent
      nbfCurrent ?_
    intro name registered
    rw [sameMembers name]
    exact CaptchaVerifiedCookieJwtClaims.lookup_registered _ name registered
  have accepted := parseAndVerify_of_sign laws readsObjects readsHeader
    otherId same rfl rfl rfl
    (CaptchaVerifiedCookieJwtClaims.toFields_distinct _)
    (CaptchaVerifiedCookieJwtClaims.isScalar_toFields _)
    (fun members sameMembers =>
      ⟨passes members sameMembers,
        CaptchaVerifiedCookieJwtClaims.fromFields_eq_some sameMembers⟩) signed
  simp only [validateCaptchaVerifiedCookie, bind_eq_ok_iff, mapErr_eq_ok_iff,
    okOr_eq_ok_iff]
  refine ⟨_, parseHeader_of_sign readsHeader signed, _, isFound, _, accepted,
    ?_⟩
  exact if_neg (not_or.mpr ⟨not_not.mpr rfl, not_not.mpr rfl⟩)

section Acceptance

variable {lib : CaptchaLibrary} {manager : CaptchaManager lib.lc}
variable {jwks : List Jwk} {first last : Jwk}
variable {keypair other : lib.lc.Ed25519KeyPair}
variable (laws : lib.lc.Ed25519Laws)
variable (readsObjects : lib.serde.ReadsWhatItWrites)
variable
  (readsHeader : lib.serde.ReadsHeader (captchaHeader manager.signingKey))
variable (signsWith : SignsWith jwks manager first last keypair other)

include laws signsWith

section SamePublicKey

variable
  (same : lib.lc.ed25519PublicKey keypair = lib.lc.ed25519PublicKey other)

include readsObjects readsHeader same

/-- A verified cookie is accepted while it is current. -/
theorem validate_own
    {clientId jti : Str}
    {entropy : Nat}
    {verified : SetCookie}
    {others : List SetCookie}
    {now : Utc.DateTime}
    {expiresAt expNow nbfNow : Int}
    (generated :
      generateCaptchaVerifiedCookies lib manager.signingKey clientId now.nanos
        jti entropy = .ok (verified :: others))
    (added : Utc.add now.nanos captchaVerifiedJwtExpiration = some expiresAt)
    (expCurrent : now.nanos ≤ expNow ∧ expNow ≤ expiresAt)
    (nbfCurrent : now.nanos ≤ nbfNow ∧ nbfNow ≤ expiresAt) :
    validateCaptchaVerifiedCookie lib manager verified.value clientId expNow
      nbfNow = .ok () := by
  rw [signsWith.signingKey] at generated readsHeader
  exact validate_of_verifyingKey laws readsObjects readsHeader
    signsWith.verifyingKey same generated added expCurrent nbfCurrent

/-- The cookie of a challenge passes the token checks while it is current. -/
theorem passesTokenChecks_own
    {clientId challenge jti : Str}
    {difficulty : UInt8}
    {entropy : Nat}
    {cookie : SetCookie}
    {now : Utc.DateTime}
    {expiresAt expNow nbfNow : Int}
    (generated :
      generateCaptchaCookie lib manager.signingKey clientId challenge
        difficulty now.nanos jti entropy = .ok cookie)
    (added : Utc.add now.nanos captchaJwtExpiration = some expiresAt)
    (expCurrent : now.nanos ≤ expNow ∧ expNow ≤ expiresAt)
    (nbfCurrent : now.nanos ≤ nbfNow ∧ nbfNow ≤ expiresAt) :
    PassesTokenChecks lib manager cookie.value clientId challenge difficulty
      expNow nbfNow := by
  simp only [generateCaptchaCookie, bind_eq_ok_iff, expect_eq_ok_iff, added,
    Option.some.injEq, exists_eq_left', Except.ok.injEq] at generated
  obtain ⟨token, signed, expires, dated, rfl⟩ := generated
  rw [signsWith.signingKey] at signed readsHeader
  have short : captchaJwtExpiration ≤ captchaVerifiedJwtExpiration := by
    decide
  have passes :
      ∀ members : List (Str × Json),
        (∀ name, Json.lookup members name =
          Json.lookup
            (CaptchaCookieJwtClaims.toFields
              ⟨challenge, difficulty,
                captchaRegisteredClaims clientId now.nanos expiresAt jti⟩)
            name) →
        ClaimsPass jwtValdiationOptions expNow nbfNow members := by
    intro members sameMembers
    refine claimsPass_of_current clientId jti added short dated expCurrent
      nbfCurrent ?_
    intro name registered
    rw [sameMembers name]
    exact CaptchaCookieJwtClaims.lookup_registered _ name registered
  have accepted := parseAndVerify_of_sign laws readsObjects readsHeader
    last.kid same rfl rfl rfl
    (CaptchaCookieJwtClaims.toFields_distinct _)
    (CaptchaCookieJwtClaims.isScalar_toFields _)
    (fun members sameMembers =>
      ⟨passes members sameMembers,
        CaptchaCookieJwtClaims.fromFields_eq_some sameMembers⟩) signed
  exact ⟨_, _, _, parseHeader_of_sign readsHeader signed,
    signsWith.verifyingKey, accepted, rfl, rfl, rfl⟩

end SamePublicKey

include readsHeader

/-- No verified cookie is accepted when the public keys differ. -/
theorem not_validate_own
    (refuses : lib.lc.RefusesOtherKeys)
    (different :
      lib.lc.ed25519PublicKey keypair ≠ lib.lc.ed25519PublicKey other)
    {clientId jti : Str}
    {entropy : Nat}
    {verified : SetCookie}
    {others : List SetCookie}
    {now expNow nbfNow : Int}
    (generated :
      generateCaptchaVerifiedCookies lib manager.signingKey clientId now jti
        entropy = .ok (verified :: others)) :
    validateCaptchaVerifiedCookie lib manager verified.value clientId expNow
      nbfNow ≠ .ok () := by
  intro validated
  simp only [generateCaptchaVerifiedCookies, bind_eq_ok_iff, expect_eq_ok_iff,
    Except.ok.injEq, List.cons.injEq] at generated
  obtain ⟨expiresAt, _, token, signed, _, _, rfl, _⟩ := generated
  rw [signsWith.signingKey] at signed readsHeader
  simp only [validateCaptchaVerifiedCookie, bind_eq_ok_iff, mapErr_eq_ok_iff,
    okOr_eq_ok_iff] at validated
  obtain ⟨header, isHeader, key, isKey, parsed, returned, _⟩ := validated
  cases (parseHeader_of_sign readsHeader signed).symm.trans isHeader
  cases signsWith.verifyingKey.symm.trans isKey
  exact not_parseAndVerify_of_sign laws refuses last.kid different signed
    parsed returned

/-- At the epoch there is a verified cookie for every client. -/
theorem exists_verifiedCookie (clientId : Str) :
    ∃ verified others,
      generateCaptchaVerifiedCookies lib manager.signingKey clientId
        epoch.nanos [] 0 = .ok (verified :: others) := by
  rw [signsWith.signingKey] at readsHeader ⊢
  obtain ⟨json, written, _⟩ := readsHeader
  simp only [generateCaptchaVerifiedCookies, bind_eq_ok_iff, expect_eq_ok_iff,
    sign_eq_ok_iff, sign_ed25519 laws, Except.ok.injEq, List.cons.injEq]
  exact ⟨_, _, _, rfl, _, ⟨json, _, _, written, rfl, rfl, rfl⟩, _, rfl, rfl,
    rfl⟩

/-- A manager of a file accepts its cookies if its signing key is found. -/
theorem acceptsOwnCookies_of_signingKeyIsFound
    (readsObjects : lib.serde.ReadsWhatItWrites)
    (isFound : SigningKeyIsFound jwks) :
    AcceptsOwnCookies lib manager := by
  have same := signsWith.publicKey_eq_iff.mp isFound
  exact {
    verified := fun _ generated added expCurrent nbfCurrent =>
      validate_own laws readsObjects readsHeader signsWith same generated added
        expCurrent nbfCurrent
    challenge := fun _ generated added expCurrent nbfCurrent =>
      passesTokenChecks_own laws readsObjects readsHeader signsWith same
        generated added expCurrent nbfCurrent
  }

/-- A manager that accepts its cookies finds its signing key. -/
theorem signingKeyIsFound_of_acceptsOwnCookies
    (refuses : lib.lc.RefusesOtherKeys)
    (accepts : AcceptsOwnCookies lib manager) :
    SigningKeyIsFound jwks := by
  rw [signsWith.publicKey_eq_iff]
  by_contra different
  obtain ⟨verified, others, generated⟩ :=
    exists_verifiedCookie laws readsHeader signsWith "client".toList
  have validated := accepts.verified (by decide) generated rfl
    ⟨le_rfl, by decide⟩ ⟨le_rfl, by decide⟩
  exact not_validate_own laws readsHeader signsWith refuses different generated
    validated

end Acceptance

/--
A manager that was made from a file accepts its own cookies when the last key
with the id of the first one has its public key; and only then, if signatures
are refused under other public keys.
-/
theorem acceptsOwnCookies_iff_signingKeyIsFound
    {lib : CaptchaLibrary}
    (laws : lib.lc.Ed25519Laws)
    (readsObjects : lib.serde.ReadsWhatItWrites)
    {files : CaptchaFiles}
    {content : Bytes}
    {jwks : List Jwk}
    {keyId : Str}
    {entropy : Nat}
    {manager : CaptchaManager lib.lc}
    (fileExists : files.tryExists = .ok true)
    (read : files.read = .ok content)
    (parsed : files.jwksFromSlice content = .ok jwks)
    (accepted : CaptchaManager.new files keyId entropy = .ok manager)
    (readsHeader :
      lib.serde.ReadsHeader (captchaHeader manager.signingKey)) :
    (SigningKeyIsFound jwks → AcceptsOwnCookies lib manager) ∧
      (lib.lc.RefusesOtherKeys →
        (AcceptsOwnCookies lib manager ↔ SigningKeyIsFound jwks)) := by
  obtain ⟨first, last, keypair, other, signsWith⟩ :=
    signsWith_of_ofFile laws read parsed (ofFile_of_new fileExists accepted)
  have forward := acceptsOwnCookies_of_signingKeyIsFound laws readsHeader
    signsWith readsObjects
  exact ⟨forward, fun refuses => ⟨signingKeyIsFound_of_acceptsOwnCookies laws
    readsHeader signsWith refuses, forward⟩⟩

section Sample

/-- The public key of the second test vector of Ed25519. -/
def otherPublicKey : Bytes :=
  [
    61, 64, 23, 195, 232, 67, 137, 90, 146, 183, 10, 167, 77, 27, 126, 188,
    156, 152, 44, 207, 46, 196, 150, 140, 192, 205, 85, 241, 42, 244, 102, 12
  ]

/-- The seed of the second test vector of Ed25519. -/
def otherSeed : Bytes :=
  [
    76, 205, 8, 155, 40, 255, 150, 218, 157, 182, 195, 70, 236, 17, 78, 15, 91,
    138, 49, 159, 53, 171, 166, 36, 218, 140, 246, 237, 79, 184, 166, 251
  ]

/-- The public keys of two key pairs. -/
def publicKeyOfPair (second : Bool) : Bytes :=
  if second then otherPublicKey else ed25519PublicKey

/-- A library that knows two key pairs, and signs with a mark of the pair. -/
def twoKeyPairs : AwsLc :=
  { sampleKeyPairs with
    Ed25519KeyPair := Bool
    ParsedPublicKey := Bool
    ed25519Generate := fun _ => .ok false
    ed25519FromSeedAndPublicKey := fun seed publicKey =>
      if seed = ed25519Seed ∧ publicKey = ed25519PublicKey then
        .ok false
      else if seed = otherSeed ∧ publicKey = otherPublicKey then
        .ok true
      else
        .error "InconsistentComponents".toList
    ed25519PublicKey := publicKeyOfPair
    ed25519Seed := fun second =>
      some (if second then otherSeed else ed25519Seed)
    ed25519Sign := fun second _ => List.replicate 64 (if second then 2 else 1)
    parsePublicKey := fun algorithm publicKey =>
      if algorithm ≠ .ed25519 then
        none
      else if publicKey = ed25519PublicKey then
        some false
      else if publicKey = otherPublicKey then
        some true
      else
        none
    verifySig := fun second _ signature =>
      decide (signature = List.replicate 64 (if second then 2 else 1)) }

theorem parsePublicKey_twoKeyPairs (second : Bool) :
    twoKeyPairs.parsePublicKey .ed25519 (publicKeyOfPair second) =
      some second := by
  cases second <;> rfl

theorem twoKeyPairs_laws : twoKeyPairs.Ed25519Laws where
  publicKey := by
    intro seed publicKey keypair built
    simp only [twoKeyPairs] at built
    split at built
    · next first =>
        cases built
        exact first.2.symm
    · split at built
      · next second =>
          cases built
          exact second.2.symm
      · cases built
  signatureLength := by
    intro keypair message
    exact List.length_replicate
  verifies := by
    intro keypair
    exact ⟨keypair, parsePublicKey_twoKeyPairs keypair,
      fun message => decide_eq_true rfl⟩

theorem twoKeyPairs_refusesOtherKeys : twoKeyPairs.RefusesOtherKeys := by
  intro keypair other parsed message different isParsed
  cases (parsePublicKey_twoKeyPairs other).symm.trans isParsed
  have otherPair : keypair ≠ other := by
    rintro rfl
    exact different rfl
  have otherMark :
      ∀ first second : Bool, first ≠ second →
        decide ((List.replicate 64 (if first then 2 else 1) : Bytes) =
          List.replicate 64 (if second then 2 else 1)) = false := by
    decide
  exact otherMark keypair other otherPair

/-- A library of the captcha manager with the two key pairs. -/
def twoKeyLibrary : CaptchaLibrary where
  lc :=
    twoKeyPairs
  serde :=
    sampleTable.serde [(captchaHeader sampleSigningKey, sampleHeaderText)]
  bodyFromReader :=
    fun _ => none
  sha256 :=
    fun _ => Vector.replicate 32 0
  formatExpires :=
    fun _ => "Fri, 14 Jul 2017 02:49:00 GMT".toList

/-- A JSON Web Key of one of the pairs. -/
def pairJwk (kid : Str) (second : Bool) : Jwk where
  kid :=
    kid
  use :=
    .sign
  algorithm :=
    .edDsa
  crypto :=
    .okp .ed25519 (publicKeyOfPair second)
      (some (if second then otherSeed else ed25519Seed))

/-- The file with both keys, the second one under some id. -/
@[irreducible] def twoKeyFile (secondId : Str) : Bytes :=
  Str.asBytes
    ("\x7b\"keys\":[\x7b\"kid\":\"k1\",\"use\":\"sig\",\"alg\":\"EdDSA\"," ++
      "\"kty\":\"OKP\",\"crv\":\"Ed25519\"," ++
      "\"x\":\"11qYAYKxCrfVS_7TyWQHOg7hcvPapiMlrwIaaPcHURo\"," ++
      "\"d\":\"nWGxne_9WmC6hEr0kuwsxERJxWl7MmkZcDusAxyuf2A\"\x7d," ++
      "\x7b\"kid\":\"" ++ String.ofList secondId ++ "\",\"use\":\"sig\"," ++
      "\"alg\":\"EdDSA\",\"kty\":\"OKP\",\"crv\":\"Ed25519\"," ++
      "\"x\":\"PUAXw-hDiVqStwqnTRt-vJyYLM8uxJaMwM1V8Sr0Zgw\"," ++
      "\"d\":\"TM0Imyj_ltqdtsNG7BFOD1uKMZ81q6Yk2oz27U-4pvs\"\x7d]\x7d").toList

/-- The keys in that file. -/
def twoJwks (secondId : Str) : List Jwk :=
  [pairJwk "k1".toList false, pairJwk secondId true]

/-- A file system with that file. -/
def twoKeyFiles (secondId : Str) : CaptchaFiles where
  tryExists :=
    .ok true
  read :=
    .ok (twoKeyFile secondId)
  jwksFromSlice :=
    fun content =>
      if content = twoKeyFile secondId then
        .ok (twoJwks secondId)
      else
        .error "expected value at line 1 column 1"
  jwksToVecPretty :=
    fun _ => .error "not written"
  write :=
    fun _ => .error "Read-only file system (os error 30)"

/-- The keys of the two pairs. -/
def pairKey (kid : Str) (second : Bool) : Key twoKeyLibrary.lc where
  id :=
    kid
  algorithm :=
    .edDsa
  crypto :=
    .eddsa .ed25519 second

/-- The manager of the file. -/
def twoKeyManager (secondId : Str) : CaptchaManager twoKeyLibrary.lc :=
  .ofKeys (pairKey "k1".toList false)
    [pairKey "k1".toList false, pairKey secondId true]

theorem captchaKey_pairJwk
    {kid : Str}
    {second : Bool}
    (notBlank : (pairJwk kid second).kid.trim ≠ []) :
    captchaKey (pairJwk kid second) = .ok (pairKey kid second) := by
  have valid : validateJwk (pairJwk kid second) = .ok () := by
    rw [validateJwk, if_neg notBlank]
    rfl
  have converted :
      Key.tryFrom (pairJwk kid second) = .ok (pairKey kid second) := by
    cases second <;> rfl
  rw [captchaKey, valid, converted]
  rfl

theorem jwksFromSlice_twoKeyFiles (secondId : Str) :
    (twoKeyFiles secondId).jwksFromSlice (twoKeyFile secondId) =
      .ok (twoJwks secondId) := by
  simp only [twoKeyFiles, if_true]

theorem new_twoKeyFiles {secondId : Str} (notBlank : secondId.trim ≠ []) :
    CaptchaManager.new (twoKeyFiles secondId) [] 0 =
      .ok (twoKeyManager secondId) := by
  have keys :
      callEach captchaKey (twoJwks secondId) =
        .ok [pairKey "k1".toList false, pairKey secondId true] :=
    callEach_eq_ok_iff.mpr (.cons (captchaKey_pairJwk (by decide))
      (.cons (captchaKey_pairJwk notBlank) .nil))
  rw [CaptchaManager.new, bind_eq_ok_iff]
  refine ⟨true, rfl, ?_⟩
  simp only [CaptchaManager.ofFile, if_true, bind_eq_ok_iff,
    orReport_eq_ok_iff]
  exact ⟨_, rfl, _, jwksFromSlice_twoKeyFiles secondId, _, keys, rfl⟩

/-- The header of the first key is read back. -/
theorem readsHeader_twoKeyManager (secondId : Str) :
    twoKeyLibrary.serde.ReadsHeader
      (captchaHeader (twoKeyManager secondId).signingKey) := by
  refine ⟨sampleHeaderText, rfl, ?_⟩
  simp [twoKeyLibrary, SerdeTable.serde]
  rfl

theorem acceptsOwnCookies_iff_signingKeyIsFound_sample :
    SigningKeyIsFound (twoJwks "k2".toList) ∧
      AcceptsOwnCookies twoKeyLibrary (twoKeyManager "k2".toList) := by
  have isFound : SigningKeyIsFound (twoJwks "k2".toList) := by
    intro first isFirst last isLast
    cases isFirst
    cases isLast
    rfl
  exact ⟨isFound, (acceptsOwnCookies_iff_signingKeyIsFound twoKeyPairs_laws
    (sampleTable.readsWhatItWrites _) rfl rfl
    (jwksFromSlice_twoKeyFiles _) (new_twoKeyFiles (by decide))
    (readsHeader_twoKeyManager _)).1 isFound⟩

/-- A file with two keys of one id is accepted, and makes no cookie valid. -/
theorem not_acceptsOwnCookies_duplicate_id :
    ¬ ∀ (lib : CaptchaLibrary) (files : CaptchaFiles) (content : Bytes)
        (jwks : List Jwk) (manager : CaptchaManager lib.lc),
      lib.lc.Ed25519Laws →
      lib.serde.ReadsWhatItWrites →
      files.tryExists = .ok true →
      files.read = .ok content →
      files.jwksFromSlice content = .ok jwks →
      CaptchaManager.new files [] 0 = .ok manager →
      lib.serde.ReadsHeader (captchaHeader manager.signingKey) →
      AcceptsOwnCookies lib manager := by
  intro accepts
  have notBlank : Str.trim "k1".toList ≠ [] := by
    decide
  have new := new_twoKeyFiles notBlank
  have isFound : SigningKeyIsFound (twoJwks "k1".toList) := by
    obtain ⟨first, last, keypair, other, signsWith⟩ :=
      signsWith_of_ofFile twoKeyPairs_laws rfl
        (jwksFromSlice_twoKeyFiles _) (ofFile_of_new rfl new)
    exact signingKeyIsFound_of_acceptsOwnCookies twoKeyPairs_laws
      (readsHeader_twoKeyManager _) signsWith twoKeyPairs_refusesOtherKeys
      (accepts twoKeyLibrary _ _ _ _ twoKeyPairs_laws
        (sampleTable.readsWhatItWrites _) rfl rfl
        (jwksFromSlice_twoKeyFiles _) new
        (readsHeader_twoKeyManager _))
  have samePublic :
      publicKeyOf (pairJwk "k1".toList true) =
        publicKeyOf (pairJwk "k1".toList false) :=
    isFound _ rfl _ rfl
  have differ : otherPublicKey ≠ ed25519PublicKey := by
    decide
  exact differ (Option.some.inj samePublic)

end Sample

end Pingoo
