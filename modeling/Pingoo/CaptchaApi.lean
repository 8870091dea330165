import Pingoo.CaptchaTokens
import Pingoo.Library.Separated

namespace Pingoo

/-!
# What the captcha API answers

A response that sets a cookie comes from a call that went through to its end:
such a call has made all its checks, and the cookie holds its own token.
-/

open Fallible Jwt Separated

/-- The name and the value that a `Set-Cookie` header gives to a client. -/
def SetCookie.nameValue (text : Str) : Str × Str :=
  let pair := text.takeWhile (· ≠ ';')
  (pair.takeWhile (· ≠ '='), (pair.dropWhile (· ≠ '=')).drop 1)

/-- A response gives a cookie to the client. -/
def Response.Sets (response : Response) (name value : Str) : Prop :=
  ∃ header ∈ response.headers.getAll .setCookie, ∃ text : Str,
    header.bytes = text.asBytes ∧
    SetCookie.nameValue text = (name, value)

section Headers

variable {lib : CaptchaLibrary}

/-- A cookie is read back from the header that sets it. -/
theorem nameValue_toStr
    {cookie : SetCookie}
    (plainName : '=' ∉ cookie.name ∧ ';' ∉ cookie.name)
    (plainValue : ';' ∉ cookie.value) :
    SetCookie.nameValue (cookie.toStr lib) = (cookie.name, cookie.value) := by
  obtain ⟨attributes, shape⟩ : ∃ attributes,
      cookie.toStr lib =
        (cookie.name ++ '=' :: cookie.value) ++ ';' :: attributes :=
    ⟨" HttpOnly; SameSite=Lax; Secure; Path=/; Expires=".toList ++
      lib.formatExpires cookie.expires, by simp [SetCookie.toStr]⟩
  have noSemicolon : ';' ∉ cookie.name ++ '=' :: cookie.value := by
    simp [plainName.2, plainValue]
  simp only [SetCookie.nameValue, shape,
    takeWhile_ne_append_cons noSemicolon,
    takeWhile_ne_append_cons plainName.1,
    dropWhile_ne_append_cons plainName.1, List.drop_one, List.tail_cons]

/-- A cookie without attributes is read back. -/
theorem nameValue_pair
    {name value : Str}
    (plainName : '=' ∉ name ∧ ';' ∉ name)
    (plainValue : ';' ∉ value) :
    SetCookie.nameValue (name ++ '=' :: value) = (name, value) := by
  have noSemicolon : ';' ∉ name ++ '=' :: value := by
    simp [plainName.2, plainValue]
  have whole :
      (name ++ '=' :: value).takeWhile (· ≠ ';') = name ++ '=' :: value := by
    rw [List.takeWhile_eq_self_iff]
    intro character member
    exact decide_eq_true fun same => noSemicolon (same ▸ member)
  simp only [SetCookie.nameValue, whole, takeWhile_ne_append_cons plainName.1,
    dropWhile_ne_append_cons plainName.1, List.drop_one, List.tail_cons]

theorem bytes_of_fromStr
    {text : Str}
    {header : HeaderValue}
    (isHeader : HeaderValue.fromStr text = some header) :
    header.bytes = text.asBytes := by
  unfold HeaderValue.fromStr at isHeader
  split at isHeader
  · cases isHeader
    rfl
  · cases isHeader

/-- A token has no semicolon. -/
theorem semicolon_notMem_tokenOf (headerJson claimsJson signature : Bytes) :
    ';' ∉ tokenOf headerJson claimsJson signature := by
  have noSemicolon (bytes : Bytes) : ';' ∉ urlSafe.encode bytes := by
    intro member
    obtain ⟨sextet, same⟩ := urlSafe.mem_encode member
    have plain : ∀ sextet, urlSafeChar sextet ≠ ';' := by
      decide +kernel
    exact plain sextet same
  simp [tokenOf, signedPart, noSemicolon]

/-- A token is visible text. -/
theorem isVisibleAscii_tokenOf (headerJson claimsJson signature : Bytes) :
    ∀ character ∈ tokenOf headerJson claimsJson signature,
      isVisibleAscii character = true := by
  have visible (bytes : Bytes) :
      ∀ character ∈ urlSafe.encode bytes, isVisibleAscii character = true := by
    intro character member
    obtain ⟨sextet, rfl⟩ := urlSafe.mem_encode member
    have plain : ∀ sextet, isVisibleAscii (urlSafeChar sextet) = true := by
      decide +kernel
    exact plain sextet
  have separator : isVisibleAscii '.' = true := by
    decide
  simp only [tokenOf, signedPart, List.forall_mem_append, List.forall_mem_cons]
  exact ⟨⟨visible _, separator, visible _⟩, separator, visible _⟩

theorem IsTokenOf.notMem_semicolon
    {fields : List (Str × Json)}
    {token : Str}
    (isToken : IsTokenOf lib fields token) :
    ';' ∉ token := by
  obtain ⟨headerJson, signature, rfl⟩ := isToken
  exact semicolon_notMem_tokenOf _ _ signature

/-- The header of a cookie gives the cookie and no other. -/
theorem eq_of_nameValue
    {cookie : SetCookie}
    {header : HeaderValue}
    {text name value : Str}
    (isHeader : HeaderValue.fromStr (cookie.toStr lib) = some header)
    (sameBytes : header.bytes = text.asBytes)
    (isPair : SetCookie.nameValue text = (name, value))
    (plainName : '=' ∉ cookie.name ∧ ';' ∉ cookie.name)
    (plainValue : ';' ∉ cookie.value) :
    name = cookie.name ∧ value = cookie.value := by
  rw [bytes_of_fromStr isHeader] at sameBytes
  have sameText := Str.asBytes_injective sameBytes
  rw [← sameText, nameValue_toStr plainName plainValue] at isPair
  cases isPair
  exact ⟨rfl, rfl⟩

/-- A response with the header of a cookie gives the cookie. -/
theorem sets_of_toStr
    {response : Response}
    {cookie : SetCookie}
    (member :
      (cookie.toStr lib).asBytes ∈
        (response.headers.getAll .setCookie).map HeaderValue.bytes)
    (plainName : '=' ∉ cookie.name ∧ ';' ∉ cookie.name)
    (plainValue : ';' ∉ cookie.value) :
    response.Sets cookie.name cookie.value := by
  obtain ⟨header, inHeaders, sameBytes⟩ := List.mem_map.mp member
  exact ⟨header, inHeaders, cookie.toStr lib, sameBytes,
    nameValue_toStr plainName plainValue⟩

end Headers

section Failures

/-- A handler that ends early ends with an internal error. -/
def IsInternalError : Failure Response → Prop
  | .error response =>
      response = newInternalErrorResponse500
  | .panic =>
      True

theorem or500_fails {ε α : Type} (call : Except (Failure ε) α) :
    FailsOnly IsInternalError (or500 call) := by
  rcases call with (error | _) | value
  · exact FailsOnly.error rfl
  · exact FailsOnly.error trivial
  · exact FailsOnly.ok _ value

theorem someOr500_fails {α : Type} (option : Option α) :
    FailsOnly IsInternalError (someOr500 option) := by
  cases option with
  | none =>
      exact FailsOnly.error rfl
  | some value =>
      exact FailsOnly.ok _ value

theorem expect_fails {α : Type} (option : Option α) :
    FailsOnly IsInternalError (expect option) := by
  cases option with
  | none =>
      exact FailsOnly.error trivial
  | some value =>
      exact FailsOnly.ok _ value

theorem ensure_fails (condition : Prop) [Decidable condition] :
    FailsOnly IsInternalError (ensure condition) := by
  unfold ensure
  split
  · exact FailsOnly.ok _ ()
  · exact FailsOnly.error rfl

theorem ensure_eq_ok_iff {condition : Prop} [Decidable condition] :
    ensure condition = .ok () ↔ condition := by
  unfold ensure
  split
  · next holds =>
      simp [holds]
  · next fails =>
      simp [fails]

variable (lib : CaptchaLibrary)

theorem appendCookies_fails
    (builder : ResponseBuilder)
    (cookies : List SetCookie) :
    FailsOnly IsInternalError (appendCookies lib builder cookies) := by
  induction cookies generalizing builder with
  | nil =>
      exact FailsOnly.ok _ builder
  | cons cookie rest inductionHypothesis =>
      apply (someOr500_fails _).bind
      intro value _
      apply (someOr500_fails _).bind
      intro parts _
      exact inductionHypothesis _

theorem apiInit_fails
    (manager : CaptchaManager lib.lc)
    (clientId : Str)
    (challengeRaw : Vector UInt8 32)
    (now : Int)
    (jti : Str)
    (entropy : Nat) :
    FailsOnly IsInternalError
      (apiInit lib manager clientId challengeRaw now jti entropy) := by
  apply (or500_fails _).bind
  intro cookie _
  apply (someOr500_fails _).bind
  intro header _
  exact expect_fails _

theorem apiVerify_fails
    (manager : CaptchaManager lib.lc)
    (cookies : List Cookie)
    (body : Option Bytes)
    (clientId : Str)
    (expNow nbfNow now : Int)
    (jti : Str)
    (entropy : Nat) :
    FailsOnly IsInternalError
      (apiVerify lib manager cookies body clientId expNow nbfNow now jti
        entropy) := by
  apply (someOr500_fails _).bind
  intro cookie _
  apply (or500_fails _).bind
  intro header _
  apply (someOr500_fails _).bind
  intro key _
  apply (or500_fails _).bind
  intro parsed _
  apply (someOr500_fails _).bind
  intro data _
  apply (someOr500_fails _).bind
  intro input _
  apply (ensure_fails _).bind
  intro _ _
  apply (ensure_fails _).bind
  intro _ _
  apply (ensure_fails _).bind
  intro _ _
  apply (or500_fails _).bind
  intro newCookies _
  apply (appendCookies_fails lib _ _).bind
  intro builder _
  exact expect_fails _

/-- A response other than an internal error is the end of the handler. -/
theorem eq_ok_of_respond
    {call : Handler Response}
    (fails : FailsOnly IsInternalError call)
    {response : Response}
    (answered : respond call = some response)
    (different : response ≠ newInternalErrorResponse500) :
    call = .ok response := by
  rcases call with (early | _) | final
  · cases answered
    exact absurd (fails _ rfl) different
  · cases answered
  · cases answered
    rfl

/-- An internal error sets no cookie. -/
theorem ne_internalError_of_sets
    {response : Response}
    {name value : Str}
    (sets : response.Sets name value) :
    response ≠ newInternalErrorResponse500 := by
  rintro rfl
  obtain ⟨header, member, _⟩ := sets
  have none :
      newInternalErrorResponse500.headers.getAll .setCookie = [] := by
    decide
  rw [none] at member
  cases member

theorem ne_internalError_of_status
    {response : Response}
    (succeeded : response.status = StatusCode.ok) :
    response ≠ newInternalErrorResponse500 := by
  rintro rfl
  cases succeeded

end Failures

section Success

variable {lib : CaptchaLibrary} {manager : CaptchaManager lib.lc}
variable {clientId jti : Str} {entropy : Nat} {response : Response}

/-- The head of the JSON responses has no header that sets a cookie. -/
theorem jsonResponse_parts :
    ∃ headers : HeaderMap,
      jsonResponse.parts = some (StatusCode.ok, headers) ∧
      headers.getAll .setCookie = [] := by
  have visibleType :
      ∀ character ∈ "application/json".toList,
        isVisibleAscii character = true := by
    decide
  have visibleControl :
      ∀ character ∈ "public, no-cache, must-revalidate".toList,
        isVisibleAscii character = true := by
    decide
  obtain ⟨contentType, isContentType, -⟩ :=
    HeaderValue.fromStr_of_isVisibleAscii visibleType
  obtain ⟨cacheControl, isCacheControl, -⟩ :=
    HeaderValue.fromStr_of_isVisibleAscii visibleControl
  have notType : HeaderName.setCookie ≠ .contentType := by
    decide
  have notControl : HeaderName.setCookie ≠ .cacheControl := by
    decide
  refine ⟨((∅ : HeaderMap).append .contentType contentType).append
    .cacheControl cacheControl, ?_, ?_⟩
  · simp only [jsonResponse, ResponseBuilder.header, isContentType,
      isCacheControl]
    rfl
  · rw [FieldMap.getAll_append_of_ne _ notControl,
      FieldMap.getAll_append_of_ne _ notType, FieldMap.getAll_empty]

/-- A started challenge is answered with its cookie. -/
theorem apiInit_eq_ok
    {challengeRaw : Vector UInt8 32}
    {now : Int}
    (returned :
      apiInit lib manager clientId challengeRaw now jti entropy =
        .ok response) :
    ∃ cookie header,
      generateCaptchaCookie lib manager.signingKey clientId
        (captchaChallenge challengeRaw).text proofOfWorkDifficulty now jti
        entropy = .ok cookie ∧
      HeaderValue.fromStr (cookie.toStr lib) = some header ∧
      response.status = StatusCode.ok ∧
      response.headers.getAll .setCookie = [header] := by
  simp only [apiInit, or500, someOr500, bind_eq_ok_iff, mapErr_eq_ok_iff,
    okOr_eq_ok_iff, expect_eq_ok_iff] at returned
  obtain ⟨cookie, generated, header, isHeader, built⟩ := returned
  obtain ⟨headers, parts, noCookie⟩ := jsonResponse_parts
  simp only [ResponseBuilder.header, parts, ResponseBuilder.body,
    Option.map_some, Option.some.injEq] at built
  subst built
  refine ⟨cookie, header, generated, isHeader, rfl, ?_⟩
  rw [FieldMap.getAll_append_self, noCookie, List.nil_append]

/-- The headers that are added come from the cookies, and the status stays. -/
theorem appendCookies_eq_ok
    {code : StatusCode}
    {headers : HeaderMap}
    {cookies : List SetCookie}
    {builder : ResponseBuilder}
    (returned :
      appendCookies lib ⟨some (code, headers)⟩ cookies = .ok builder) :
    ∃ added : HeaderMap,
      builder.parts = some (code, added) ∧
      ∀ header ∈ added.getAll .setCookie,
        header ∈ headers.getAll .setCookie ∨
          ∃ cookie ∈ cookies,
            HeaderValue.fromStr (cookie.toStr lib) = some header := by
  induction cookies generalizing headers with
  | nil =>
      cases returned
      exact ⟨headers, rfl, fun _ member => Or.inl member⟩
  | cons cookie rest inductionHypothesis =>
      simp only [appendCookies, someOr500, bind_eq_ok_iff, okOr_eq_ok_iff,
        Option.some.injEq, exists_eq_left'] at returned
      obtain ⟨value, isValue, restReturned⟩ := returned
      obtain ⟨added, parts, members⟩ := inductionHypothesis restReturned
      refine ⟨added, parts, fun header member => ?_⟩
      rcases members header member with inHeaders | ⟨other, inRest, isHeader⟩
      · rw [FieldMap.getAll_append_self, List.mem_append,
          List.mem_singleton] at inHeaders
        rcases inHeaders with inHeaders | rfl
        · exact Or.inl inHeaders
        · exact Or.inr ⟨cookie, List.mem_cons_self, isValue⟩
      · exact Or.inr ⟨other, List.mem_cons_of_mem _ inRest, isHeader⟩

/-- What a verification that goes through has checked. -/
structure VerifyChecks
    (lib : CaptchaLibrary)
    (manager : CaptchaManager lib.lc)
    (cookies : List Cookie)
    (body : Option Bytes)
    (clientId : Str)
    (expNow nbfNow : Int)
    (cookie : Cookie)
    (kid : Str)
    (key : Key lib.lc)
    (parsed : ParsedJwt CaptchaCookieJwtClaims)
    (input : CaptchaVerifyRequestBody) : Prop where
  cookieFound :
    cookies.find? (fun cookie => cookie.name = captchaCookie) = some cookie
  keyFound : manager.verifyingKey kid = some key
  token :
    parseAndVerify lib.serde (captchaClaims lib) key cookie.value
      jwtValdiationOptions expNow nbfNow = .ok parsed
  body : body.bind (captchaVerifyRequestBody lib) = some input
  client : parsed.claims.registeredClaims.sub.getD [] = clientId
  difficulty : parsed.claims.difficulty.toNat ≤ leadingZeroes input.hash
  hash :
    lib.sha256 (parsed.claims.challenge.asBytes ++ input.nonce.asBytes) =
      input.hash

/-- A verification that goes through has made all checks. -/
theorem apiVerify_eq_ok
    {cookies : List Cookie}
    {body : Option Bytes}
    {expNow nbfNow now : Int}
    (returned :
      apiVerify lib manager cookies body clientId expNow nbfNow now jti
        entropy = .ok response) :
    (∃ cookie kid key parsed input,
      VerifyChecks lib manager cookies body clientId expNow nbfNow cookie kid
        key parsed input) ∧
    ∃ newCookies,
      generateCaptchaVerifiedCookies lib manager.signingKey clientId now jti
        entropy = .ok newCookies ∧
      response.status = StatusCode.ok ∧
      ∀ header ∈ response.headers.getAll .setCookie,
        ∃ cookie ∈ newCookies,
          HeaderValue.fromStr (cookie.toStr lib) = some header := by
  simp only [apiVerify, or500, someOr500, bind_eq_ok_iff, mapErr_eq_ok_iff,
    okOr_eq_ok_iff, expect_eq_ok_iff] at returned
  obtain ⟨cookie, cookieFound, header, _, key, keyFound, parsed, token, data,
    read, input, isInput, _, client, _, difficulty, _, hash, newCookies,
    generated, builder, appended, built⟩ := returned
  constructor
  · exact ⟨cookie, _, key, parsed, input, {
      cookieFound := cookieFound
      keyFound := keyFound
      token := token
      body := by
        rw [read]
        exact isInput
      client := (Str.asBytes_injective (ensure_eq_ok_iff.mp client)).symm
      difficulty := ensure_eq_ok_iff.mp difficulty
      hash := ensure_eq_ok_iff.mp hash
    }⟩
  · obtain ⟨headers, parts, noCookie⟩ := jsonResponse_parts
    have whole : jsonResponse = ⟨some (StatusCode.ok, headers)⟩ :=
      congrArg ResponseBuilder.mk parts
    rw [whole] at appended
    obtain ⟨added, addedParts, members⟩ := appendCookies_eq_ok appended
    simp only [ResponseBuilder.body, addedParts, Option.map_some,
      Option.some.injEq] at built
    subst built
    refine ⟨newCookies, generated, rfl, fun header member => ?_⟩
    rcases members header member with inHead | fromCookie
    · rw [noCookie] at inHead
      cases inHead
    · exact fromCookie

/-- The cookie of a started challenge holds its token. -/
theorem sets_of_apiInit
    {challengeRaw : Vector UInt8 32}
    {now : Int}
    {name value : Str}
    (answered :
      respond (apiInit lib manager clientId challengeRaw now jti entropy) =
        some response)
    (sets : response.Sets name value) :
    ∃ expiresAt,
      Utc.add now captchaJwtExpiration = some expiresAt ∧
      name = captchaCookie ∧
      IsTokenOf lib
        (CaptchaCookieJwtClaims.mk (captchaChallenge challengeRaw).text
          proofOfWorkDifficulty
          (captchaRegisteredClaims clientId now expiresAt jti)).toFields
        value := by
  obtain ⟨cookie, header, generated, isHeader, _, headers⟩ :=
    apiInit_eq_ok (eq_ok_of_respond (apiInit_fails lib manager _ _ _ _ _)
      answered (ne_internalError_of_sets sets))
  obtain ⟨expiresAt, added, isName, isToken⟩ :=
    generateCaptchaCookie_eq_ok generated
  obtain ⟨other, member, text, sameBytes, isPair⟩ := sets
  rw [headers, List.mem_singleton] at member
  subst member
  have plainName : '=' ∉ cookie.name ∧ ';' ∉ cookie.name := by
    rw [isName]
    decide
  obtain ⟨sameName, sameValue⟩ := eq_of_nameValue isHeader sameBytes isPair
    plainName isToken.notMem_semicolon
  subst sameName sameValue
  exact ⟨expiresAt, added, isName, isToken⟩

/--
A verification that sets a cookie has succeeded.  The cookie holds the token of
the passed challenge, or is the removal of the challenge.
-/
theorem sets_of_apiVerify
    {cookies : List Cookie}
    {body : Option Bytes}
    {expNow nbfNow now : Int}
    {name value : Str}
    (answered :
      respond (apiVerify lib manager cookies body clientId expNow nbfNow now
        jti entropy) = some response)
    (sets : response.Sets name value) :
    response.status = StatusCode.ok ∧
      ((name = captchaCookie ∧ value = []) ∨
        (name = captchaVerifiedCookie ∧ ∃ expiresAt,
          IsTokenOf lib
            (CaptchaVerifiedCookieJwtClaims.mk true
              (captchaRegisteredClaims clientId now expiresAt jti)).toFields
            value)) := by
  obtain ⟨_, newCookies, generated, succeeded, members⟩ :=
    apiVerify_eq_ok (eq_ok_of_respond (apiVerify_fails lib manager _ _ _ _ _ _
      _ _) answered (ne_internalError_of_sets sets))
  obtain ⟨expiresAt, verified, removal, rfl, verifiedName, isToken,
    removalName, removalValue⟩ :=
    generateCaptchaVerifiedCookies_eq_ok generated
  obtain ⟨header, member, text, sameBytes, isPair⟩ := sets
  obtain ⟨cookie, isNew, isHeader⟩ := members header member
  refine ⟨succeeded, ?_⟩
  simp only [List.mem_cons, List.not_mem_nil, or_false] at isNew
  rcases isNew with rfl | rfl
  · right
    have plainName : '=' ∉ cookie.name ∧ ';' ∉ cookie.name := by
      rw [verifiedName]
      decide
    obtain ⟨sameName, sameValue⟩ := eq_of_nameValue isHeader sameBytes isPair
      plainName isToken.notMem_semicolon
    subst sameName sameValue
    exact ⟨verifiedName, expiresAt, isToken⟩
  · left
    have plainName : '=' ∉ cookie.name ∧ ';' ∉ cookie.name := by
      rw [removalName]
      decide
    have plainValue : ';' ∉ cookie.value := by
      simp [removalValue]
    obtain ⟨sameName, sameValue⟩ := eq_of_nameValue isHeader sameBytes isPair
      plainName plainValue
    subst sameName sameValue
    exact ⟨removalName, removalValue⟩

end Success

end Pingoo
