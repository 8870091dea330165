import Pingoo.Captcha
import Pingoo.Jwt.TokenSigned

namespace Pingoo

/-!
# The tokens of the captcha manager

Both kinds of tokens have the same header and the same registered claims.  Their
other claims have different names, so that one kind is not read as the other.
-/

open Fallible Jwt

namespace CaptchaCookieJwtClaims

/-- The names of all members. -/
def names : List Str :=
  "challenge".toList :: "difficulty".toList :: RegisteredClaims.names

variable (claims : CaptchaCookieJwtClaims)

theorem toFields_names_sublist :
    List.Sublist (claims.toFields.map Prod.fst) names :=
  (claims.registeredClaims.toFields_names_sublist.cons_cons _).cons_cons _

theorem toFields_distinct : (claims.toFields.map Prod.fst).Nodup := by
  have allDistinct : names.Nodup := by
    decide
  exact allDistinct.sublist claims.toFields_names_sublist

theorem isScalar_toFields : ∀ field ∈ claims.toFields, field.2.IsScalar := by
  intro field member
  rw [toFields, List.mem_cons, List.mem_cons] at member
  rcases member with rfl | rfl | registered
  · trivial
  · trivial
  · exact claims.registeredClaims.isScalar_toFields registered

/-- The registered claims are found behind the other claims. -/
theorem lookup_registered :
    ∀ name ∈ RegisteredClaims.names,
      Json.lookup claims.toFields name =
        Json.lookup claims.registeredClaims.toFields name := by
  intro name registered
  have notOther :
      ∀ name ∈ RegisteredClaims.names,
        "challenge".toList ≠ name ∧ "difficulty".toList ≠ name := by
    decide
  obtain ⟨notChallenge, notDifficulty⟩ := notOther name registered
  rw [toFields, Json.lookup_cons_of_ne notChallenge,
    Json.lookup_cons_of_ne notDifficulty]

variable {claims} {members : List (Str × Json)}

/-- Claims that were written are read back. -/
theorem fromFields_eq_some
    (same :
      ∀ name, Json.lookup members name = Json.lookup claims.toFields name) :
    fromFields members = some claims := by
  have challenge :
      Json.requiredMember Json.asStr members "challenge".toList =
        some claims.challenge := by
    rw [Json.requiredMember, same, toFields, Json.lookup_cons_self]
    rfl
  have difficulty :
      Json.requiredMember Json.asU8 members "difficulty".toList =
        some claims.difficulty := by
    rw [Json.requiredMember, same, toFields,
      Json.lookup_cons_of_ne (by decide), Json.lookup_cons_self]
    exact Json.asU8_toUInt64 claims.difficulty
  have registered :
      RegisteredClaims.fromFields members = some claims.registeredClaims :=
    RegisteredClaims.fromFields_eq_some fun name isRegistered =>
      (same name).trans (claims.lookup_registered name isRegistered)
  simp only [fromFields, challenge, difficulty, registered]
  rfl

/-- No member says that a challenge was passed. -/
theorem verified_fromFields_eq_none
    (same :
      ∀ name, Json.lookup members name = Json.lookup claims.toFields name) :
    CaptchaVerifiedCookieJwtClaims.fromFields members = none := by
  have notAName : "challenge_passed".toList ∉ names := by
    decide
  have absent :
      Json.requiredMember Json.asBool members "challenge_passed".toList =
        none := by
    rw [Json.requiredMember, same, Json.lookup_eq_none fun member =>
      notAName (claims.toFields_names_sublist.subset member)]
    rfl
  simp only [CaptchaVerifiedCookieJwtClaims.fromFields, absent]
  rfl

end CaptchaCookieJwtClaims

namespace CaptchaVerifiedCookieJwtClaims

/-- The names of all members. -/
def names : List Str :=
  "challenge_passed".toList :: RegisteredClaims.names

variable (claims : CaptchaVerifiedCookieJwtClaims)

theorem toFields_names_sublist :
    List.Sublist (claims.toFields.map Prod.fst) names :=
  claims.registeredClaims.toFields_names_sublist.cons_cons _

theorem toFields_distinct : (claims.toFields.map Prod.fst).Nodup := by
  have allDistinct : names.Nodup := by
    decide
  exact allDistinct.sublist claims.toFields_names_sublist

theorem isScalar_toFields : ∀ field ∈ claims.toFields, field.2.IsScalar := by
  intro field member
  rw [toFields, List.mem_cons] at member
  rcases member with rfl | registered
  · trivial
  · exact claims.registeredClaims.isScalar_toFields registered

/-- The registered claims are found behind the other claim. -/
theorem lookup_registered :
    ∀ name ∈ RegisteredClaims.names,
      Json.lookup claims.toFields name =
        Json.lookup claims.registeredClaims.toFields name := by
  intro name registered
  have notPassed :
      ∀ name ∈ RegisteredClaims.names, "challenge_passed".toList ≠ name := by
    decide
  rw [toFields, Json.lookup_cons_of_ne (notPassed name registered)]

variable {claims} {members : List (Str × Json)}

/-- Claims that were written are read back. -/
theorem fromFields_eq_some
    (same :
      ∀ name, Json.lookup members name = Json.lookup claims.toFields name) :
    fromFields members = some claims := by
  have passed :
      Json.requiredMember Json.asBool members "challenge_passed".toList =
        some claims.challengePassed := by
    rw [Json.requiredMember, same, toFields, Json.lookup_cons_self]
    rfl
  have registered :
      RegisteredClaims.fromFields members = some claims.registeredClaims :=
    RegisteredClaims.fromFields_eq_some fun name isRegistered =>
      (same name).trans (claims.lookup_registered name isRegistered)
  simp only [fromFields, passed, registered]
  rfl

/-- No member is a challenge. -/
theorem challenge_fromFields_eq_none
    (same :
      ∀ name, Json.lookup members name = Json.lookup claims.toFields name) :
    CaptchaCookieJwtClaims.fromFields members = none := by
  have notAName : "challenge".toList ∉ names := by
    decide
  have absent :
      Json.requiredMember Json.asStr members "challenge".toList = none := by
    rw [Json.requiredMember, same, Json.lookup_eq_none fun member =>
      notAName (claims.toFields_names_sublist.subset member)]
    rfl
  simp only [CaptchaCookieJwtClaims.fromFields, absent]
  rfl

end CaptchaVerifiedCookieJwtClaims

section Tokens

variable {lib : CaptchaLibrary}

/-- A token whose claims are an object with these members. -/
def IsTokenOf
    (lib : CaptchaLibrary)
    (fields : List (Str × Json))
    (token : Str) : Prop :=
  ∃ headerJson signature,
    token = tokenOf headerJson
      (Str.asBytes (lib.serde.valueToString (.object fields))) signature

/-- The challenge cookie holds a token for the client and the challenge. -/
theorem generateCaptchaCookie_eq_ok
    {key : Key lib.lc}
    {clientId challenge jti : Str}
    {difficulty : UInt8}
    {now : Int}
    {entropy : Nat}
    {cookie : SetCookie}
    (returned :
      generateCaptchaCookie lib key clientId challenge difficulty now jti
        entropy = .ok cookie) :
    ∃ expiresAt,
      Utc.add now captchaJwtExpiration = some expiresAt ∧
      cookie.name = captchaCookie ∧
      IsTokenOf lib
        (CaptchaCookieJwtClaims.mk challenge difficulty
          (captchaRegisteredClaims clientId now expiresAt jti)).toFields
        cookie.value := by
  simp only [generateCaptchaCookie, bind_eq_ok_iff, expect_eq_ok_iff,
    Except.ok.injEq] at returned
  obtain ⟨expiresAt, added, token, signed, _, _, rfl⟩ := returned
  obtain ⟨headerJson, claimsJson, signature, written, isToken⟩ :=
    sign_eq_ok signed
  cases written
  exact ⟨expiresAt, added, rfl, headerJson, signature, isToken⟩

/--
A verified cookie holds a token for the client, and comes with the cookie that
removes the challenge.
-/
theorem generateCaptchaVerifiedCookies_eq_ok
    {key : Key lib.lc}
    {clientId jti : Str}
    {now : Int}
    {entropy : Nat}
    {cookies : List SetCookie}
    (returned :
      generateCaptchaVerifiedCookies lib key clientId now jti entropy =
        .ok cookies) :
    ∃ expiresAt verified removal,
      cookies = [verified, removal] ∧
      verified.name = captchaVerifiedCookie ∧
      IsTokenOf lib
        (CaptchaVerifiedCookieJwtClaims.mk true
          (captchaRegisteredClaims clientId now expiresAt jti)).toFields
        verified.value ∧
      removal.name = captchaCookie ∧
      removal.value = [] := by
  simp only [generateCaptchaVerifiedCookies, bind_eq_ok_iff, expect_eq_ok_iff,
    Except.ok.injEq] at returned
  obtain ⟨expiresAt, added, token, signed, _, _, rfl⟩ := returned
  obtain ⟨headerJson, claimsJson, signature, written, isToken⟩ :=
    sign_eq_ok signed
  cases written
  exact ⟨expiresAt, _, _, rfl, rfl, ⟨headerJson, signature, isToken⟩, rfl, rfl⟩

variable (laws : lib.serde.ReadsWhatItWrites)
variable {key : Key lib.lc} {token : Str} {expNow nbfNow : Int}

include laws

/-- The claims that are returned for a token come from its members. -/
theorem members_of_isTokenOf
    {Claims : Type}
    {serdeClaims : SerdeClaims Claims}
    {fields : List (Str × Json)}
    (isToken : IsTokenOf lib fields token)
    (distinct : (fields.map Prod.fst).Nodup)
    (scalars : ∀ field ∈ fields, field.2.IsScalar)
    {parsed : ParsedJwt Claims}
    (returned :
      parseAndVerify lib.serde serdeClaims key token jwtValdiationOptions expNow
        nbfNow = .ok parsed) :
    ∃ members,
      (∀ name, Json.lookup members name = Json.lookup fields name) ∧
        ClaimsPass jwtValdiationOptions expNow nbfNow members ∧
          serdeClaims.fromValue (.object members) = some parsed.claims := by
  obtain ⟨headerJson, signature, rfl⟩ := isToken
  exact members_of_parseAndVerify laws distinct scalars rfl returned

/-- A challenge token is accepted with its own claims, until it expires. -/
theorem challengeToken_accepted
    {claims : CaptchaCookieJwtClaims}
    (isToken : IsTokenOf lib claims.toFields token)
    {parsed : ParsedJwt CaptchaCookieJwtClaims}
    (returned :
      parseAndVerify lib.serde (captchaClaims lib) key token
        jwtValdiationOptions expNow nbfNow = .ok parsed) :
    parsed.claims = claims ∧
      ∀ exp, claims.registeredClaims.exp = some exp →
        ∃ limit,
          Utc.sub expNow (Duration.fromSecs 5) = some limit ∧
          Utc.timestamp limit ≤ exp.toInt := by
  obtain ⟨members, same, pass, typed⟩ :=
    members_of_isTokenOf laws isToken claims.toFields_distinct
      claims.isScalar_toFields returned
  refine ⟨Option.some.inj (typed.symm.trans
    (CaptchaCookieJwtClaims.fromFields_eq_some same)), fun exp isExp => ?_⟩
  obtain ⟨value, checked, limit, found, isNumber, shifted, notExpired⟩ :=
    pass.exp rfl
  have registered := claims.registeredClaims.lookup_toFields.2.2.2.1
  rw [same, claims.lookup_registered _ (by decide), registered, isExp] at found
  cases found
  rw [Json.asI64_ofInt64] at isNumber
  cases isNumber
  exact ⟨limit, shifted, notExpired⟩

/-- A challenge token is not accepted as the token of a passed challenge. -/
theorem challengeToken_not_verified
    {claims : CaptchaCookieJwtClaims}
    (isToken : IsTokenOf lib claims.toFields token)
    (parsed : ParsedJwt CaptchaVerifiedCookieJwtClaims) :
    parseAndVerify lib.serde (captchaVerifiedClaims lib) key token
      jwtValdiationOptions expNow nbfNow ≠ .ok parsed := by
  intro returned
  obtain ⟨members, same, -, typed⟩ :=
    members_of_isTokenOf laws isToken claims.toFields_distinct
      claims.isScalar_toFields returned
  cases typed.symm.trans
    (CaptchaCookieJwtClaims.verified_fromFields_eq_none same)

/-- The token of a passed challenge is accepted with its own claims. -/
theorem verifiedToken_accepted
    {claims : CaptchaVerifiedCookieJwtClaims}
    (isToken : IsTokenOf lib claims.toFields token)
    {parsed : ParsedJwt CaptchaVerifiedCookieJwtClaims}
    (returned :
      parseAndVerify lib.serde (captchaVerifiedClaims lib) key token
        jwtValdiationOptions expNow nbfNow = .ok parsed) :
    parsed.claims = claims := by
  obtain ⟨members, same, -, typed⟩ :=
    members_of_isTokenOf laws isToken claims.toFields_distinct
      claims.isScalar_toFields returned
  exact Option.some.inj (typed.symm.trans
    (CaptchaVerifiedCookieJwtClaims.fromFields_eq_some same))

/-- The token of a passed challenge is not accepted as a challenge token. -/
theorem verifiedToken_not_challenge
    {claims : CaptchaVerifiedCookieJwtClaims}
    (isToken : IsTokenOf lib claims.toFields token)
    (parsed : ParsedJwt CaptchaCookieJwtClaims) :
    parseAndVerify lib.serde (captchaClaims lib) key token
      jwtValdiationOptions expNow nbfNow ≠ .ok parsed := by
  intro returned
  obtain ⟨members, same, -, typed⟩ :=
    members_of_isTokenOf laws isToken claims.toFields_distinct
      claims.isScalar_toFields returned
  cases typed.symm.trans
    (CaptchaVerifiedCookieJwtClaims.challenge_fromFields_eq_none same)

end Tokens

end Pingoo
