import Pingoo.Jwt.Claims

namespace Pingoo.Jwt

/-!
# What an accepted token proves

A token that is accepted has three parts; its signature is over the first two,
as they stand in the token; and the header and the claims that are returned are
what these two parts decode to and what was checked.
-/

open Fallible

variable {lc : AwsLc} {Claims : Type}
variable {serde : SerdeJson} {serdeClaims : SerdeClaims Claims}

/-- The public keys of key pairs are public keys. -/
structure AwsLc.PublicKeysParse (lc : AwsLc) : Prop where
  ed25519 :
    ∀ keypair, ∃ parsed,
      lc.parsePublicKey .ed25519 (lc.ed25519PublicKey keypair) = some parsed
  ecdsa :
    ∀ {curve} (keypair : lc.EcdsaKeyPair curve), ∃ parsed,
      lc.parsePublicKey (.ecdsa curve) (lc.ecdsaPublicKey keypair) =
        some parsed

/-- The signatures a key accepts, said with what the library computes. -/
def Key.Accepts (key : Key lc) (message signature : Bytes) : Prop :=
  match key.crypto with
  | .eddsa .ed25519 keypair =>
      ∃ parsed,
        lc.parsePublicKey .ed25519 (lc.ed25519PublicKey keypair) =
          some parsed ∧
        lc.verifySig parsed message signature = true
  | .ecdsa curve keypair =>
      ∃ parsed,
        lc.parsePublicKey (.ecdsa curve) (lc.ecdsaPublicKey keypair) =
          some parsed ∧
        lc.verifySig parsed message signature = true
  | .hmac algorithm secret =>
      lc.hmacSign algorithm secret message = signature

/-- A claim that has to be one of some texts is there and is one of them. -/
def IsMember
    (name : Str)
    (allowed : List Str)
    (claims : List (Str × Json)) : Prop :=
  allowed ≠ [] → ∃ value text,
    Json.lookup claims name = some value ∧
    value.asStr = some text ∧
    text ∈ allowed

/-- What the enabled options say about the claims. -/
structure ClaimsPass
    (options : ValidateOptions)
    (expNow nbfNow : Int)
    (claims : List (Str × Json)) : Prop where
  exp :
    options.exp = true → ∃ value exp limit,
      Json.lookup claims "exp".toList = some value ∧
      value.asI64 = some exp ∧
      Utc.sub expNow options.allowedTimeDrift = some limit ∧
      Utc.timestamp limit ≤ exp
  nbf :
    options.nbf = true → ∃ value nbf limit,
      Json.lookup claims "nbf".toList = some value ∧
      value.asI64 = some nbf ∧
      Utc.add nbfNow options.allowedTimeDrift = some limit ∧
      nbf ≤ Utc.timestamp limit
  aud : IsMember "aud".toList options.aud claims
  iss : IsMember "iss".toList options.iss claims

/--
The claims that are returned: decoded from the value that was checked, or
directly from the bytes when no option is enabled.
-/
def ClaimsDecoded
    (serde : SerdeJson)
    (serdeClaims : SerdeClaims Claims)
    (options : ValidateOptions)
    (expNow nbfNow : Int)
    (claimsJson : Bytes)
    (claims : Claims) : Prop :=
  if options.checksClaims then
    ∃ fields,
      serde.valueFromSlice claimsJson = some (.object fields) ∧
      ClaimsPass options expNow nbfNow fields ∧
      serdeClaims.fromValue (.object fields) = some claims
  else
    serdeClaims.fromSlice claimsJson = some claims

/-- A token that was parsed and verified, with what its parts decode to. -/
structure IsVerified
    (serde : SerdeJson)
    (serdeClaims : SerdeClaims Claims)
    (key : Key lc)
    (token : Str)
    (options : ValidateOptions)
    (expNow nbfNow : Int)
    (parsed : ParsedJwt Claims)
    (headerBase64 claimsBase64 signatureBase64 : Str)
    (headerJson claimsJson signature : Bytes) : Prop where
  parts : token.splitOn '.' = [headerBase64, claimsBase64, signatureBase64]
  signatureDecoded : urlSafe.decode signatureBase64 = some signature
  accepted :
    key.Accepts (Str.asBytes (signedPart headerBase64 claimsBase64)) signature
  headerDecoded : urlSafe.decode headerBase64 = some headerJson
  headerParsed : serde.headerFromSlice headerJson = some parsed.header
  algorithm : parsed.header.alg = key.algorithm
  sameHeader : parseHeader serde token = .ok parsed.header
  claimsDecoded : urlSafe.decode claimsBase64 = some claimsJson
  claims :
    ClaimsDecoded serde serdeClaims options expNow nbfNow claimsJson
      parsed.claims

section Parts

/-- The three parts of a token and its dots are the whole token. -/
theorem eq_of_splitOn
    {token headerBase64 claimsBase64 signatureBase64 : Str}
    (parts :
      token.splitOn '.' = [headerBase64, claimsBase64, signatureBase64]) :
    token =
      signedPart headerBase64 claimsBase64 ++ '.' :: signatureBase64 := by
  have joined : ['.'].intercalate (token.splitOn '.') = token :=
    List.intercalate_splitOn '.'
  rw [parts] at joined
  rw [← joined]
  simp [List.intercalate_cons_cons, signedPart]

/-- The slice that is verified is the first two parts with their dot. -/
theorem sliceTo_signedPart
    {token headerBase64 claimsBase64 signatureBase64 : Str}
    (parts :
      token.splitOn '.' = [headerBase64, claimsBase64, signatureBase64]) :
    token.sliceTo (Str.len headerBase64 + 1 + Str.len claimsBase64) =
      some (signedPart headerBase64 claimsBase64) := by
  have dotLength : Char.utf8Size '.' = 1 := by
    decide
  have signedLength :
      Str.len headerBase64 + 1 + Str.len claimsBase64 =
        Str.len (signedPart headerBase64 claimsBase64) := by
    simp [signedPart, Str.len, dotLength, Nat.add_assoc]
  rw [eq_of_splitOn parts, signedLength]
  exact Str.sliceTo_len_append _ _

theorem Key.verifyWith_eq_ok_iff
    {algorithm : VerificationAlgorithm}
    {publicKey message signature : Bytes} :
    Key.verifyWith lc algorithm publicKey message signature = .ok () ↔
      ∃ parsed,
        lc.parsePublicKey algorithm publicKey = some parsed ∧
        lc.verifySig parsed message signature = true := by
  simp only [Key.verifyWith, bind_eq_ok_iff, expect_eq_ok_iff]
  constructor
  · rintro ⟨parsed, isParsed, checked⟩
    split at checked
    · next accepted =>
        exact ⟨parsed, isParsed, accepted⟩
    · cases checked
  · rintro ⟨parsed, isParsed, accepted⟩
    exact ⟨parsed, isParsed, if_pos accepted⟩

/-- `verify` returns without an error for what the key accepts. -/
theorem Key.verify_eq_ok_iff
    {key : Key lc}
    {message signature : Bytes} :
    key.verify message signature = .ok () ↔
      key.Accepts message signature := by
  obtain ⟨id, algorithm, crypto⟩ := key
  cases crypto with
  | eddsa curve keypair =>
      cases curve
      exact verifyWith_eq_ok_iff
  | ecdsa curve keypair =>
      exact verifyWith_eq_ok_iff
  | hmac algorithm secret =>
      simp only [verify, Accepts]
      split
      · next same =>
          simp [same]
      · next different =>
          simp [different]

theorem decodeSignature_eq_ok
    {signatureBase64 : Str}
    {signature : Bytes}
    (decoded : decodeSignature signatureBase64 = .ok signature) :
    urlSafe.decode signatureBase64 = some signature := by
  unfold decodeSignature at decoded
  split at decoded
  · next found =>
      split at decoded
      · cases decoded
        exact found
      · cases decoded
  · cases decoded

end Parts

section Checks

variable {options : ValidateOptions} {expNow nbfNow : Int}
variable {claims : List (Str × Json)}

theorem checkExp_eq_ok
    (passed : checkExp options expNow claims = .ok ())
    (enabled : options.exp = true) :
    ∃ value exp limit,
      Json.lookup claims "exp".toList = some value ∧
      value.asI64 = some exp ∧
      Utc.sub expNow options.allowedTimeDrift = some limit ∧
      Utc.timestamp limit ≤ exp := by
  rw [checkExp, if_pos enabled] at passed
  cases found : Json.lookup claims "exp".toList with
  | none =>
      rw [found] at passed
      cases passed
  | some value =>
      rw [found] at passed
      cases isNumber : value.asI64 with
      | none =>
          simp only [isNumber] at passed
          cases passed
      | some exp =>
          simp only [isNumber, bind_eq_ok_iff, expect_eq_ok_iff] at passed
          obtain ⟨limit, shifted, compared⟩ := passed
          split at compared
          · cases compared
          · next notExpired =>
              exact ⟨value, exp, limit, rfl, isNumber, shifted,
                not_lt.mp notExpired⟩

theorem checkNbf_eq_ok
    (passed : checkNbf options nbfNow claims = .ok ())
    (enabled : options.nbf = true) :
    ∃ value nbf limit,
      Json.lookup claims "nbf".toList = some value ∧
      value.asI64 = some nbf ∧
      Utc.add nbfNow options.allowedTimeDrift = some limit ∧
      nbf ≤ Utc.timestamp limit := by
  rw [checkNbf, if_pos enabled] at passed
  cases found : Json.lookup claims "nbf".toList with
  | none =>
      rw [found] at passed
      cases passed
  | some value =>
      rw [found] at passed
      cases isNumber : value.asI64 with
      | none =>
          simp only [isNumber] at passed
          cases passed
      | some nbf =>
          simp only [isNumber, bind_eq_ok_iff, expect_eq_ok_iff] at passed
          obtain ⟨limit, shifted, compared⟩ := passed
          split at compared
          · cases compared
          · next begun =>
              exact ⟨value, nbf, limit, rfl, isNumber, shifted,
                not_lt.mp begun⟩

theorem checkMember_eq_ok
    {name : Str}
    {allowed : List Str}
    (passed : checkMember name allowed claims = .ok ()) :
    IsMember name allowed claims := by
  intro enabled
  rw [checkMember, if_pos enabled] at passed
  cases found : Json.lookup claims name with
  | none =>
      rw [found] at passed
      cases passed
  | some value =>
      rw [found] at passed
      cases isText : value.asStr with
      | none =>
          simp only [isText] at passed
          cases passed
      | some text =>
          simp only [isText] at passed
          split at passed
          · next member =>
              exact ⟨value, text, rfl, isText, member⟩
          · cases passed

/-- What decoding the claims returns was checked. -/
theorem decodeClaims_eq_ok
    {claimsJson : Bytes}
    {decoded : Claims}
    (returned :
      decodeClaims serde serdeClaims options expNow nbfNow claimsJson =
        .ok decoded) :
    ClaimsDecoded serde serdeClaims options expNow nbfNow claimsJson
      decoded := by
  unfold decodeClaims at returned
  unfold ClaimsDecoded
  split at returned
  · next enabled =>
      rw [if_pos enabled]
      split at returned
      · cases returned
      · next value parsed =>
          split at returned
          · next fields =>
              simp only [bind_eq_ok_iff, okOr_eq_ok_iff] at returned
              obtain ⟨_, exp, _, nbf, _, aud, _, iss, typed⟩ := returned
              exact ⟨fields, parsed, {
                exp := checkExp_eq_ok exp
                nbf := checkNbf_eq_ok nbf
                aud := checkMember_eq_ok aud
                iss := checkMember_eq_ok iss
              }, typed⟩
          · cases returned
  · next disabled =>
      rw [if_neg disabled]
      exact okOr_eq_ok_iff.mp returned

end Checks

section Soundness

variable {key : Key lc} {token : Str} {options : ValidateOptions}
variable {expNow nbfNow : Int}

/-- A token that is accepted is verified, part by part. -/
theorem isVerified_of_parseAndVerify
    {parsed : ParsedJwt Claims}
    (returned :
      parseAndVerify serde serdeClaims key token options expNow nbfNow =
        .ok parsed) :
    ∃ headerBase64 claimsBase64 signatureBase64 headerJson claimsJson signature,
      IsVerified serde serdeClaims key token options expNow nbfNow parsed
        headerBase64 claimsBase64 signatureBase64 headerJson claimsJson
        signature := by
  unfold parseAndVerify at returned
  split at returned
  · next headerBase64 claimsBase64 signatureBase64 parts =>
      simp only [bind_eq_ok_iff, sliceTo_signedPart parts, expect,
        Except.ok.injEq] at returned
      obtain ⟨signature, signatureDecoded, _, rfl, _, accepted, header,
        headerReturned, rest⟩ := returned
      split at rest
      · cases rest
      · next sameAlgorithm =>
          simp only [bind_eq_ok_iff, okOr_eq_ok_iff] at rest
          obtain ⟨claimsJson, claimsDecoded, claims, claimsReturned, whole⟩ :=
            rest
          cases whole
          have headerParts := headerReturned
          simp only [decodeHeader, bind_eq_ok_iff, okOr_eq_ok_iff]
            at headerParts
          obtain ⟨headerJson, headerDecoded, headerParsed⟩ := headerParts
          exact ⟨headerBase64, claimsBase64, signatureBase64, headerJson,
            claimsJson, signature, {
              parts := parts
              signatureDecoded := decodeSignature_eq_ok signatureDecoded
              accepted := Key.verify_eq_ok_iff.mp accepted
              headerDecoded := headerDecoded
              headerParsed := headerParsed
              algorithm := not_not.mp sameAlgorithm
              sameHeader := by
                rw [parseHeader, parts]
                exact headerReturned
              claimsDecoded := claimsDecoded
              claims := decodeClaims_eq_ok claimsReturned
            }⟩
  · cases returned

end Soundness

section Panics

/--
The time drift can be taken from the first reading of the clock and added to
the second, where the options ask for it.
-/
structure DriftFits
    (options : ValidateOptions)
    (expNow nbfNow : Int) : Prop where
  exp :
    options.exp = true →
      (Utc.sub expNow options.allowedTimeDrift).isSome = true
  nbf :
    options.nbf = true →
      (Utc.add nbfNow options.allowedTimeDrift).isSome = true

theorem fail_noPanic {α : Type} (error : Error) :
    NoPanic (fail error : Outcome α) :=
  FailsOnly.error nofun

theorem decodeSignature_noPanic (signatureBase64 : Str) :
    NoPanic (decodeSignature signatureBase64) := by
  unfold decodeSignature
  split
  · split
    · exact FailsOnly.ok _ _
    · exact fail_noPanic _
  · exact fail_noPanic _

theorem decodeHeader_noPanic (headerBase64 : Str) :
    NoPanic (decodeHeader serde headerBase64) :=
  (okOr_noPanic _ _).bind fun _ _ => okOr_noPanic _ _

theorem Key.verifyWith_noPanic
    {algorithm : VerificationAlgorithm}
    {publicKey : Bytes}
    (parses : ∃ parsed, lc.parsePublicKey algorithm publicKey = some parsed)
    (message signature : Bytes) :
    NoPanic
      (Key.verifyWith lc algorithm publicKey message signature) := by
  apply (expect_noPanic (Option.isSome_iff_exists.mpr parses)).bind
  intro parsed _
  split
  · exact FailsOnly.ok _ _
  · exact FailsOnly.error nofun

theorem Key.verify_noPanic
    (laws : lc.PublicKeysParse)
    (key : Key lc)
    (message signature : Bytes) :
    NoPanic (key.verify message signature) := by
  obtain ⟨id, algorithm, crypto⟩ := key
  cases crypto with
  | eddsa curve keypair =>
      cases curve
      exact verifyWith_noPanic (laws.ed25519 keypair) _ _
  | ecdsa curve keypair =>
      exact verifyWith_noPanic (laws.ecdsa keypair) _ _
  | hmac algorithm secret =>
      simp only [Key.verify]
      split
      · exact FailsOnly.ok _ _
      · exact FailsOnly.error nofun

variable {options : ValidateOptions} {expNow nbfNow : Int}

theorem checkExp_noPanic
    (fits : DriftFits options expNow nbfNow)
    (claims : List (Str × Json)) :
    NoPanic (checkExp options expNow claims) := by
  unfold checkExp
  split
  · next enabled =>
      split
      · exact fail_noPanic _
      · split
        · exact fail_noPanic _
        · apply (expect_noPanic (fits.exp enabled)).bind
          intro limit _
          split
          · exact fail_noPanic _
          · exact FailsOnly.ok _ _
  · exact FailsOnly.ok _ _

theorem checkNbf_noPanic
    (fits : DriftFits options expNow nbfNow)
    (claims : List (Str × Json)) :
    NoPanic (checkNbf options nbfNow claims) := by
  unfold checkNbf
  split
  · next enabled =>
      split
      · exact fail_noPanic _
      · split
        · exact fail_noPanic _
        · apply (expect_noPanic (fits.nbf enabled)).bind
          intro limit _
          split
          · exact fail_noPanic _
          · exact FailsOnly.ok _ _
  · exact FailsOnly.ok _ _

theorem checkMember_noPanic
    (name : Str)
    (allowed : List Str)
    (claims : List (Str × Json)) :
    NoPanic (checkMember name allowed claims) := by
  unfold checkMember
  split
  · split
    · exact fail_noPanic _
    · split
      · exact fail_noPanic _
      · split
        · exact FailsOnly.ok _ _
        · exact fail_noPanic _
  · exact FailsOnly.ok _ _

theorem decodeClaims_noPanic
    (fits : DriftFits options expNow nbfNow)
    (claimsJson : Bytes) :
    NoPanic
      (decodeClaims serde serdeClaims options expNow nbfNow claimsJson) := by
  unfold decodeClaims
  split
  · split
    · exact fail_noPanic _
    · split
      · apply (checkExp_noPanic fits _).bind
        intro _ _
        apply (checkNbf_noPanic fits _).bind
        intro _ _
        apply (checkMember_noPanic _ _ _).bind
        intro _ _
        apply (checkMember_noPanic _ _ _).bind
        intro _ _
        exact okOr_noPanic _ _
      · exact fail_noPanic _
  · exact okOr_noPanic _ _

/-- Nothing that is given as a token makes the verification panic. -/
theorem parseAndVerify_noPanic
    (laws : lc.PublicKeysParse)
    (fits : DriftFits options expNow nbfNow)
    (key : Key lc)
    (token : Str) :
    NoPanic
      (parseAndVerify serde serdeClaims key token options expNow nbfNow) := by
  unfold parseAndVerify
  split
  · next headerBase64 claimsBase64 signatureBase64 parts =>
      apply (decodeSignature_noPanic _).bind
      intro signature _
      rw [sliceTo_signedPart parts]
      apply (expect_noPanic rfl).bind
      intro signedMessage _
      apply (Key.verify_noPanic laws key _ _).bind
      intro _ _
      apply (decodeHeader_noPanic _).bind
      intro header _
      split
      · exact fail_noPanic _
      · apply (okOr_noPanic _ _).bind
        intro claimsJson _
        apply (decodeClaims_noPanic fits _).bind
        intro claims _
        exact FailsOnly.ok _ _
  · exact fail_noPanic _

end Panics

section Verified

/--
Verification does not panic while the time drift can be taken from and added to
the clock; and what it returns was signed by the key and checked, part by part.
-/
theorem parseAndVerify_sound
    (laws : lc.PublicKeysParse)
    (serde : SerdeJson)
    (serdeClaims : SerdeClaims Claims)
    (key : Key lc)
    (token : Str)
    (options : ValidateOptions)
    (expNow nbfNow : Int) :
    (DriftFits options expNow nbfNow →
      parseAndVerify serde serdeClaims key token options expNow nbfNow ≠
        .error .panic) ∧
    ∀ parsed,
      parseAndVerify serde serdeClaims key token options expNow nbfNow =
        .ok parsed →
      ∃ headerBase64 claimsBase64 signatureBase64 headerJson claimsJson
          signature,
        IsVerified serde serdeClaims key token options expNow nbfNow parsed
          headerBase64 claimsBase64 signatureBase64 headerJson claimsJson
          signature :=
  ⟨fun fits panics =>
      parseAndVerify_noPanic laws fits key token _ panics rfl,
    fun _ returned => isVerified_of_parseAndVerify returned⟩

/-- The text that is signed in the sample token. -/
def sampleSigned : Str :=
  signedPart "eyJ0eXAiOiJKV1QiLCJhbGciOiJIUzUxMiJ9".toList
    ("eyJpc3MiOiJwaW5nb28iLCJhdWQiOiJwaW5nb28iLCJleHAiOjIwMDAwMDAwMDAs" ++
      "Im5iZiI6MTAwMDAwMDAwMH0").toList

/-- The HMAC-SHA-512 tag of the sample under the key "pingoo". -/
def sampleTag : Bytes :=
  [
    143, 213, 179, 161, 96, 229, 157, 14, 121, 221, 131, 85, 78, 175, 221, 57,
    80, 9, 84, 184, 212, 169, 105, 186, 175, 146, 229, 40, 236, 109, 56, 60,
    206, 164, 180, 69, 228, 254, 7, 164, 216, 27, 148, 67, 77, 139, 5, 13,
    132, 162, 250, 137, 240, 64, 228, 233, 16, 52, 218, 157, 38, 121, 161, 55
  ]

/-- A library without key pairs, that computes one tag. -/
def sampleAwsLc : AwsLc where
  Ed25519KeyPair :=
    Empty
  EcdsaKeyPair :=
    fun _ => Empty
  ParsedPublicKey :=
    Empty
  ed25519Generate :=
    fun _ => .error []
  ed25519FromSeedAndPublicKey :=
    fun _ _ => .error []
  ed25519PublicKey :=
    Empty.elim
  ed25519Seed :=
    Empty.elim
  ed25519Sign :=
    Empty.elim
  ecdsaFromPrivateKeyAndPublicKey :=
    fun _ _ _ => .error []
  ecdsaPublicKey :=
    Empty.elim
  ecdsaPrivateKey :=
    Empty.elim
  ecdsaSign :=
    Empty.elim
  parsePublicKey :=
    fun _ _ => none
  verifySig :=
    Empty.elim
  hmacSign :=
    fun algorithm key message =>
      if algorithm = .sha512 ∧ key = Str.asBytes "pingoo".toList ∧
          message = sampleSigned.asBytes then
        sampleTag
      else
        []

def sampleKey : Key sampleAwsLc where
  id :=
    "sample".toList
  algorithm :=
    .hs512
  crypto :=
    .hmac .sha512 (Str.asBytes "pingoo".toList)

def sampleHeader : Header where
  typ :=
    .jwt
  alg :=
    .hs512
  cty :=
    none
  jku :=
    none
  kid :=
    none
  x5u :=
    none
  x5c :=
    none
  x5t :=
    none
  x5tS256 :=
    none

def sampleClaims : RegisteredClaims where
  iss :=
    some "pingoo".toList
  sub :=
    none
  aud :=
    some "pingoo".toList
  exp :=
    some 2000000000
  nbf :=
    some 1000000000
  iat :=
    none
  jti :=
    none

/-- What is read from the two texts of the sample token. -/
def sampleSerde : SerdeJson where
  headerToString :=
    fun _ => .error []
  headerFromSlice :=
    fun json =>
      if json = Str.asBytes "\x7b\"typ\":\"JWT\",\"alg\":\"HS512\"\x7d".toList then
        some sampleHeader
      else
        none
  valueFromSlice :=
    fun json =>
      if json = Str.asBytes
          ("\x7b\"iss\":\"pingoo\",\"aud\":\"pingoo\"," ++
            "\"exp\":2000000000,\"nbf\":1000000000\x7d").toList then
        some (.object sampleClaims.toFields)
      else
        none
  valueToString :=
    fun _ => []

def sampleSerdeClaims : SerdeClaims RegisteredClaims where
  toString :=
    fun _ => .error []
  fromSlice :=
    fun _ => none
  fromValue :=
    fun value =>
      match value with
      | .object fields => RegisteredClaims.fromFields fields
      | _ => none

def sampleToken : Str :=
  sampleSigned ++ '.' :: urlSafe.encode sampleTag

/-- Check everything, with a time drift. -/
def sampleOptions (allowedTimeDrift : Nat) : ValidateOptions where
  allowedTimeDrift :=
    allowedTimeDrift
  nbf :=
    true
  exp :=
    true
  aud :=
    ["pingoo".toList]
  iss :=
    ["pingoo".toList]

def sampleNow : Int :=
  1500000000 * nanosPerSec

theorem sampleAwsLc_publicKeysParse : sampleAwsLc.PublicKeysParse where
  ed25519 :=
    fun keypair => keypair.elim
  ecdsa :=
    fun keypair => keypair.elim

theorem parseAndVerify_sound_sample :
    parseAndVerify sampleSerde sampleSerdeClaims sampleKey sampleToken
        (sampleOptions (Duration.fromSecs 5)) sampleNow sampleNow =
      .ok ⟨sampleHeader, sampleClaims⟩ ∧
    ∃ headerBase64 claimsBase64 signatureBase64 headerJson claimsJson
        signature,
      IsVerified sampleSerde sampleSerdeClaims sampleKey sampleToken
        (sampleOptions (Duration.fromSecs 5)) sampleNow sampleNow
        ⟨sampleHeader, sampleClaims⟩ headerBase64 claimsBase64 signatureBase64
        headerJson claimsJson signature := by
  have returned :
      parseAndVerify sampleSerde sampleSerdeClaims sampleKey sampleToken
          (sampleOptions (Duration.fromSecs 5)) sampleNow sampleNow =
        .ok ⟨sampleHeader, sampleClaims⟩ := by
    decide +kernel
  exact ⟨returned, (parseAndVerify_sound sampleAwsLc_publicKeysParse _ _ _ _ _
    _ _).2 _ returned⟩

/-- The longest duration is too long for a clock: the subtraction panics. -/
theorem parseAndVerify_panics_on_longest_drift :
    ¬ ∀ (lc : AwsLc) (key : Key lc) (serde : SerdeJson)
        (serdeClaims : SerdeClaims RegisteredClaims) (token : Str)
        (options : ValidateOptions) (expNow nbfNow : Int),
      lc.PublicKeysParse →
      parseAndVerify serde serdeClaims key token options expNow nbfNow ≠
        .error .panic := by
  intro neverPanics
  have panics :
      parseAndVerify sampleSerde sampleSerdeClaims sampleKey sampleToken
          (sampleOptions Duration.max) sampleNow sampleNow =
        .error .panic := by
    decide +kernel
  exact neverPanics _ _ _ _ _ _ _ _ sampleAwsLc_publicKeysParse panics

end Verified

end Pingoo.Jwt
