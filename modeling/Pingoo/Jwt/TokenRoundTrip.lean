import Pingoo.Jwt.TokenAccepted

namespace Pingoo.Jwt

/-!
# Signing, then verifying

A token that a key signed is returned to the same key with its header and its
claims exactly when the header names the algorithm of the key and the claims
pass the checks that are enabled.  The checks of the times shift the clock by
the allowed drift, which has to stay within the range of dates.
-/

open Fallible

variable {lc : AwsLc} {Claims : Type}
variable {serde : SerdeJson} {serdeClaims : SerdeClaims Claims}

/-- The library accepts what it signed, under the public key of the key pair. -/
structure AwsLc.VerifiesItsSignatures (lc : AwsLc) : Prop where
  ed25519 :
    ∀ keypair, ∃ parsed,
      lc.parsePublicKey .ed25519 (lc.ed25519PublicKey keypair) = some parsed ∧
      ∀ message,
        lc.verifySig parsed message (lc.ed25519Sign keypair message) = true
  ecdsa :
    ∀ {curve} (keypair : lc.EcdsaKeyPair curve), ∃ parsed,
      lc.parsePublicKey (.ecdsa curve) (lc.ecdsaPublicKey keypair) =
        some parsed ∧
      ∀ entropy message signature,
        lc.ecdsaSign keypair entropy message = .ok signature →
        lc.verifySig parsed message signature = true

/--
Claims are written as an object with these members, and read back from it.
-/
structure ReadsClaims
    (serde : SerdeJson)
    (serdeClaims : SerdeClaims Claims)
    (claims : Claims)
    (members : List (Str × Json)) : Prop where
  written :
    ∃ json,
      serdeClaims.toString claims = .ok json ∧
      serde.valueFromSlice json.asBytes = some (.object members) ∧
      serdeClaims.fromSlice json.asBytes = some claims
  typed : serdeClaims.fromValue (.object members) = some claims

/--
The claims satisfy the checks that are enabled: not expired before the clock
less the drift, begun at the clock plus the drift, and for an allowed audience
and issuer.
-/
structure ClaimsSatisfy
    (options : ValidateOptions)
    (expNow nbfNow : Int)
    (claims : List (Str × Json)) : Prop where
  exp :
    options.exp = true → ∃ value exp,
      Json.lookup claims "exp".toList = some value ∧
      value.asI64 = some exp ∧
      Utc.timestamp (expNow - options.allowedTimeDrift) ≤ exp
  nbf :
    options.nbf = true → ∃ value nbf,
      Json.lookup claims "nbf".toList = some value ∧
      value.asI64 = some nbf ∧
      nbf ≤ Utc.timestamp (nbfNow + options.allowedTimeDrift)
  aud : IsMember "aud".toList options.aud claims
  iss : IsMember "iss".toList options.iss claims

section Checks

variable {options : ValidateOptions} {expNow nbfNow : Int}
variable {members : List (Str × Json)}

/--
The checks pass when the claims satisfy them and the clock can be shifted.
-/
theorem claimsPass_iff :
    ClaimsPass options expNow nbfNow members ↔
      ClaimsSatisfy options expNow nbfNow members ∧
        DriftFits options expNow nbfNow := by
  constructor
  · intro pass
    refine ⟨{
      exp := fun enabled => ?_
      nbf := fun enabled => ?_
      aud := pass.aud
      iss := pass.iss
    }, {
      exp := fun enabled => ?_
      nbf := fun enabled => ?_
    }⟩
    · obtain ⟨value, exp, limit, found, isNumber, shifted, notExpired⟩ :=
        pass.exp enabled
      obtain ⟨rfl, -⟩ := Utc.sub_eq_some_iff.mp shifted
      exact ⟨value, exp, found, isNumber, notExpired⟩
    · obtain ⟨value, nbf, limit, found, isNumber, shifted, begun⟩ :=
        pass.nbf enabled
      obtain ⟨rfl, -⟩ := Utc.add_eq_some_iff.mp shifted
      exact ⟨value, nbf, found, isNumber, begun⟩
    · obtain ⟨_, _, limit, _, _, shifted, _⟩ := pass.exp enabled
      exact (Utc.sub_eq_some_iff.mp shifted).2
    · obtain ⟨_, _, limit, _, _, shifted, _⟩ := pass.nbf enabled
      exact (Utc.add_eq_some_iff.mp shifted).2
  · rintro ⟨satisfy, fits⟩
    refine {
      exp := fun enabled => ?_
      nbf := fun enabled => ?_
      aud := satisfy.aud
      iss := satisfy.iss
    }
    · obtain ⟨value, exp, found, isNumber, notExpired⟩ := satisfy.exp enabled
      exact ⟨value, exp, _, found, isNumber,
        Utc.sub_eq_some_iff.mpr ⟨rfl, fits.exp enabled⟩, notExpired⟩
    · obtain ⟨value, nbf, found, isNumber, begun⟩ := satisfy.nbf enabled
      exact ⟨value, nbf, _, found, isNumber,
        Utc.add_eq_some_iff.mpr ⟨rfl, fits.nbf enabled⟩, begun⟩

/-- Options that check nothing are passed by every claims. -/
theorem claimsPass_of_checksClaims_eq_false
    (unchecked : options.checksClaims = false) :
    ClaimsPass options expNow nbfNow members := by
  simp only [ValidateOptions.checksClaims, Bool.or_eq_false_iff,
    bne_eq_false_iff_eq] at unchecked
  obtain ⟨⟨⟨noExp, noNbf⟩, noAud⟩, noIss⟩ := unchecked
  exact {
    exp := fun enabled => absurd (noExp.symm.trans enabled) nofun
    nbf := fun enabled => absurd (noNbf.symm.trans enabled) nofun
    aud := fun enabled => absurd noAud enabled
    iss := fun enabled => absurd noIss enabled
  }

end Checks

/-- A key accepts what it signed, and its signature fits the buffer. -/
theorem accepts_of_sign
    (verifies : lc.VerifiesItsSignatures)
    {key : Key lc}
    {entropy : Nat}
    {message signature : Bytes}
    (signed : key.sign entropy message = .ok signature) :
    key.Accepts message signature ∧ signature.length ≤ signatureMaxSize := by
  obtain ⟨id, algorithm, crypto⟩ := key
  cases crypto with
  | eddsa curve keypair =>
      cases curve
      obtain ⟨rfl, fits⟩ := toSignature_eq_ok_iff.mp signed
      obtain ⟨parsed, isParsed, accepted⟩ := verifies.ed25519 keypair
      exact ⟨⟨parsed, isParsed, accepted message⟩, fits⟩
  | ecdsa curve keypair =>
      simp only [Key.sign] at signed
      split at signed
      · cases signed
      · next made isMade =>
          obtain ⟨rfl, fits⟩ := toSignature_eq_ok_iff.mp signed
          obtain ⟨parsed, isParsed, accepted⟩ := verifies.ecdsa keypair
          exact ⟨⟨parsed, isParsed, accepted entropy message _ isMade⟩, fits⟩
  | hmac hash secret =>
      obtain ⟨rfl, fits⟩ := toSignature_eq_ok_iff.mp signed
      exact ⟨rfl, fits⟩

section RoundTrip

variable {options : ValidateOptions} {expNow nbfNow : Int}
variable {key : Key lc} {header : Header} {claims : Claims}
variable {members : List (Str × Json)} {entropy : Nat} {token : Str}

/-- The claims of a signed token are decoded when they pass the checks. -/
theorem decodeClaims_of_claimsPass
    {json : Str}
    (parsed : serde.valueFromSlice json.asBytes = some (.object members))
    (direct : serdeClaims.fromSlice json.asBytes = some claims)
    (typed : serdeClaims.fromValue (.object members) = some claims)
    (pass : ClaimsPass options expNow nbfNow members) :
    decodeClaims serde serdeClaims options expNow nbfNow json.asBytes =
      .ok claims := by
  cases checked : options.checksClaims with
  | true =>
      exact decodeClaims_of_pass checked parsed pass typed
  | false =>
      rw [decodeClaims, checked, if_neg Bool.false_ne_true, direct]
      rfl

/--
A signed token is returned with its header and its claims exactly when the
header names the key's algorithm and the claims satisfy the enabled checks, the
clock being shifted within the range of dates; its header is always read back.
-/
theorem parseAndVerify_sign_iff
    (verifies : lc.VerifiesItsSignatures)
    (readsHeader : serde.ReadsHeader header)
    (readsClaims : ReadsClaims serde serdeClaims claims members)
    (signed : sign serde serdeClaims key entropy header claims = .ok token)
    (options : ValidateOptions)
    (expNow nbfNow : Int) :
    parseHeader serde token = .ok header ∧
      (parseAndVerify serde serdeClaims key token options expNow nbfNow =
          .ok ⟨header, claims⟩ ↔
        header.alg = key.algorithm ∧
          ClaimsSatisfy options expNow nbfNow members ∧
            DriftFits options expNow nbfNow) := by
  refine ⟨parseHeader_of_sign readsHeader signed, ?_⟩
  obtain ⟨headerJson, claimsJson, signature, headerWritten, claimsWritten,
    keySigned, rfl⟩ := sign_eq_ok_iff.mp signed
  obtain ⟨_, isJson, headerRead⟩ := readsHeader
  cases headerWritten.symm.trans isJson
  obtain ⟨_, isClaimsJson, parsedValue, direct⟩ := readsClaims.written
  cases claimsWritten.symm.trans isClaimsJson
  rw [← claimsPass_iff]
  constructor
  · intro returned
    obtain ⟨_, _, _, _, decodedJson, _, verified⟩ :=
      isVerified_of_parseAndVerify returned
    refine ⟨verified.algorithm, ?_⟩
    obtain ⟨_, sameClaims, _⟩ := tokenOf_inj verified.eq_tokenOf
    have decoded := verified.claims
    rw [ClaimsDecoded] at decoded
    split at decoded
    · obtain ⟨fields, fieldsParsed, pass, _⟩ := decoded
      rw [← sameClaims] at fieldsParsed
      cases parsedValue.symm.trans fieldsParsed
      exact pass
    · next unchecked =>
        exact claimsPass_of_checksClaims_eq_false
          (Bool.eq_false_iff.mpr unchecked)
  · rintro ⟨sameAlgorithm, pass⟩
    obtain ⟨accepts, fits⟩ := accepts_of_sign verifies keySigned
    exact parseAndVerify_tokenOf fits accepts headerRead sameAlgorithm
      (decodeClaims_of_claimsPass parsedValue direct readsClaims.typed pass)

end RoundTrip

section Sample

/-- What is read from the sample token, and what writes it. -/
def writingSerde : SerdeJson :=
  { sampleSerde with
    headerToString := fun _ =>
      .ok "\x7b\"typ\":\"JWT\",\"alg\":\"HS512\"\x7d".toList }

def writingSerdeClaims : SerdeClaims RegisteredClaims where
  toString :=
    fun _ =>
      .ok ("\x7b\"iss\":\"pingoo\",\"aud\":\"pingoo\"," ++
        "\"exp\":2000000000,\"nbf\":1000000000\x7d").toList
  fromSlice :=
    fun _ => some sampleClaims
  fromValue :=
    sampleSerdeClaims.fromValue

/-- The JSON Web Key of the sample key. -/
def sampleOctJwk : Jwk where
  kid :=
    "sample".toList
  use :=
    .sign
  algorithm :=
    .hs512
  crypto :=
    .oct (Str.asBytes "pingoo".toList)

theorem sampleAwsLc_verifiesItsSignatures :
    sampleAwsLc.VerifiesItsSignatures where
  ed25519 :=
    fun keypair => keypair.elim
  ecdsa :=
    fun keypair => keypair.elim

theorem writingSerde_readsHeader : writingSerde.ReadsHeader sampleHeader :=
  ⟨_, rfl, by decide +kernel⟩

theorem writingSerdeClaims_readsClaims :
    ReadsClaims writingSerde writingSerdeClaims sampleClaims
      sampleClaims.toFields where
  written :=
    ⟨_, rfl, rfl, rfl⟩
  typed :=
    RegisteredClaims.fromFields_toFields sampleClaims

theorem sign_sampleKey :
    sign writingSerde writingSerdeClaims sampleKey 0 sampleHeader sampleClaims =
      .ok sampleToken := by
  decide +kernel

theorem parseAndVerify_sign_iff_sample :
    parseHeader writingSerde sampleToken = .ok sampleHeader ∧
      (parseAndVerify writingSerde writingSerdeClaims sampleKey sampleToken
          (sampleOptions (Duration.fromSecs 5)) sampleNow sampleNow =
          .ok ⟨sampleHeader, sampleClaims⟩ ↔
        sampleHeader.alg = sampleKey.algorithm ∧
          ClaimsSatisfy (sampleOptions (Duration.fromSecs 5)) sampleNow
              sampleNow sampleClaims.toFields ∧
            DriftFits (sampleOptions (Duration.fromSecs 5)) sampleNow
              sampleNow) :=
  parseAndVerify_sign_iff sampleAwsLc_verifiesItsSignatures
    writingSerde_readsHeader writingSerdeClaims_readsClaims sign_sampleKey _ _ _

/-- The sample claims satisfy every check, whatever the drift. -/
theorem claimsSatisfy_sample (drift : Nat) :
    ClaimsSatisfy (sampleOptions drift) sampleNow sampleNow
      sampleClaims.toFields where
  exp _ := by
    refine ⟨_, 2000000000, rfl, rfl, ?_⟩
    simp only [Utc.timestamp, sampleNow, sampleOptions, nanosPerSec]
    omega
  nbf _ := by
    refine ⟨_, 1000000000, rfl, rfl, ?_⟩
    simp only [Utc.timestamp, sampleNow, sampleOptions, nanosPerSec]
    omega
  aud _ :=
    ⟨_, _, rfl, rfl, List.mem_singleton_self _⟩
  iss _ :=
    ⟨_, _, rfl, rfl, List.mem_singleton_self _⟩

/-- With the longest duration as drift, satisfied checks panic. -/
theorem not_parseAndVerify_sign_longest_drift :
    ¬ ∀ (lc : AwsLc) (jwk : Jwk) (key : Key lc) (serde : SerdeJson)
        (serdeClaims : SerdeClaims RegisteredClaims) (entropy : Nat)
        (header : Header) (claims : RegisteredClaims)
        (members : List (Str × Json)) (token : Str)
        (options : ValidateOptions) (now : Int),
      lc.VerifiesItsSignatures →
      Key.tryFrom jwk = .ok key →
      serde.ReadsHeader header →
      ReadsClaims serde serdeClaims claims members →
      sign serde serdeClaims key entropy header claims = .ok token →
      (parseAndVerify serde serdeClaims key token options now now =
          .ok ⟨header, claims⟩ ↔
        header.alg = key.algorithm ∧
          ClaimsSatisfy options now now members) := by
  intro returnsExactly
  have returned :=
    (returnsExactly sampleAwsLc sampleOctJwk sampleKey writingSerde
      writingSerdeClaims 0 sampleHeader sampleClaims _ sampleToken
      (sampleOptions Duration.max) sampleNow
      sampleAwsLc_verifiesItsSignatures rfl writingSerde_readsHeader
      writingSerdeClaims_readsClaims sign_sampleKey).mpr
      ⟨rfl, claimsSatisfy_sample _⟩
  have panics :
      parseAndVerify writingSerde writingSerdeClaims sampleKey sampleToken
          (sampleOptions Duration.max) sampleNow sampleNow =
        .error .panic := by
    decide +kernel
  cases panics.symm.trans returned

end Sample

end Pingoo.Jwt
