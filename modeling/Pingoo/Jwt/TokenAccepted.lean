import Pingoo.Jwt.TokenSigned

namespace Pingoo.Jwt

/-!
# Which signed tokens are accepted

The other direction of what an accepted token proves: a token is accepted by a
key that accepts its signature, when its header is read back with the algorithm
of the key and its claims pass the checks.
-/

open Fallible

variable {lc : AwsLc} {Claims : Type}
variable {serde : SerdeJson} {serdeClaims : SerdeClaims Claims}

/-- What the library promises about its Ed25519 key pairs. -/
structure AwsLc.Ed25519Laws (lc : AwsLc) : Prop where
  publicKey :
    ∀ {seed publicKey keypair},
      lc.ed25519FromSeedAndPublicKey seed publicKey = .ok keypair →
      lc.ed25519PublicKey keypair = publicKey
  signatureLength :
    ∀ keypair message, (lc.ed25519Sign keypair message).length = 64
  verifies :
    ∀ keypair, ∃ parsed,
      lc.parsePublicKey .ed25519 (lc.ed25519PublicKey keypair) = some parsed ∧
      ∀ message,
        lc.verifySig parsed message (lc.ed25519Sign keypair message) = true

/-- A signature is refused under the public key of another key pair. -/
def AwsLc.RefusesOtherKeys (lc : AwsLc) : Prop :=
  ∀ keypair other parsed message,
    lc.ed25519PublicKey keypair ≠ lc.ed25519PublicKey other →
    lc.parsePublicKey .ed25519 (lc.ed25519PublicKey other) = some parsed →
    lc.verifySig parsed message (lc.ed25519Sign keypair message) = false

/-- The JSON of a header is read back. -/
def SerdeJson.ReadsHeader (serde : SerdeJson) (header : Header) : Prop :=
  ∃ json,
    serde.headerToString header = .ok json ∧
    serde.headerFromSlice json.asBytes = some header

section Signatures

variable {id otherId : Str} {algorithm otherAlgorithm : Algorithm}
variable {keypair other : lc.Ed25519KeyPair}
variable {entropy : Nat} {message : Bytes}

/-- An Ed25519 key signs everything. -/
theorem sign_ed25519
    (laws : lc.Ed25519Laws)
    (id : Str)
    (algorithm : Algorithm)
    (keypair : lc.Ed25519KeyPair)
    (entropy : Nat)
    (message : Bytes) :
    Key.sign ⟨id, algorithm, .eddsa .ed25519 keypair⟩ entropy message =
      .ok (lc.ed25519Sign keypair message) := by
  have fits :
      (lc.ed25519Sign keypair message).length ≤ signatureMaxSize := by
    rw [laws.signatureLength]
    decide
  simp only [Key.sign, toSignature, if_pos fits]

/-- A key accepts what a key with the same public key signed. -/
theorem accepts_of_publicKey_eq
    (laws : lc.Ed25519Laws)
    (same : lc.ed25519PublicKey keypair = lc.ed25519PublicKey other) :
    Key.Accepts ⟨otherId, otherAlgorithm, .eddsa .ed25519 other⟩ message
      (lc.ed25519Sign keypair message) := by
  obtain ⟨parsed, isParsed, verifies⟩ := laws.verifies keypair
  rw [same] at isParsed
  exact ⟨parsed, isParsed, verifies message⟩

/-- A key accepts nothing that a key with another public key signed. -/
theorem not_accepts_of_publicKey_ne
    (refuses : lc.RefusesOtherKeys)
    (different : lc.ed25519PublicKey keypair ≠ lc.ed25519PublicKey other) :
    ¬ Key.Accepts ⟨otherId, otherAlgorithm, .eddsa .ed25519 other⟩ message
      (lc.ed25519Sign keypair message) := by
  rintro ⟨parsed, isParsed, verified⟩
  rw [refuses keypair other parsed message different isParsed] at verified
  cases verified

end Signatures

section Checks

variable {options : ValidateOptions} {expNow nbfNow : Int}
variable {members : List (Str × Json)}

theorem checkExp_of_pass
    (pass : ClaimsPass options expNow nbfNow members) :
    checkExp options expNow members = .ok () := by
  unfold checkExp
  split
  · next enabled =>
      obtain ⟨value, exp, limit, found, isNumber, shifted, notExpired⟩ :=
        pass.exp enabled
      simp only [found, isNumber, shifted]
      exact if_neg (not_lt.mpr notExpired)
  · rfl

theorem checkNbf_of_pass
    (pass : ClaimsPass options expNow nbfNow members) :
    checkNbf options nbfNow members = .ok () := by
  unfold checkNbf
  split
  · next enabled =>
      obtain ⟨value, nbf, limit, found, isNumber, shifted, begun⟩ :=
        pass.nbf enabled
      simp only [found, isNumber, shifted]
      exact if_neg (not_lt.mpr begun)
  · rfl

theorem checkMember_of_isMember
    {name : Str}
    {allowed : List Str}
    (isMember : IsMember name allowed members) :
    checkMember name allowed members = .ok () := by
  unfold checkMember
  split
  · next enabled =>
      obtain ⟨value, text, found, isText, member⟩ := isMember enabled
      simp only [found, isText]
      exact if_pos member
  · rfl

/-- Claims that pass the checks are decoded. -/
theorem decodeClaims_of_pass
    {claimsJson : Bytes}
    {claims : Claims}
    (checked : options.checksClaims = true)
    (parsed : serde.valueFromSlice claimsJson = some (.object members))
    (pass : ClaimsPass options expNow nbfNow members)
    (typed : serdeClaims.fromValue (.object members) = some claims) :
    decodeClaims serde serdeClaims options expNow nbfNow claimsJson =
      .ok claims := by
  simp only [decodeClaims, if_pos checked, parsed, bind_eq_ok_iff,
    okOr_eq_ok_iff]
  exact ⟨(), checkExp_of_pass pass, (), checkNbf_of_pass pass,
    (), checkMember_of_isMember pass.aud, (),
    checkMember_of_isMember pass.iss, typed⟩

end Checks

section Token

variable {key : Key lc} {options : ValidateOptions} {expNow nbfNow : Int}
variable {headerJson claimsJson signature : Bytes} {header : Header}

theorem decodeHeader_encode
    (read : serde.headerFromSlice headerJson = some header) :
    decodeHeader serde (urlSafe.encode headerJson) = .ok header := by
  simp only [decodeHeader, urlSafe.decode_encode, bind_eq_ok_iff,
    okOr_eq_ok_iff]
  exact ⟨headerJson, rfl, read⟩

/-- The header of a token is read before anything is verified. -/
theorem parseHeader_tokenOf
    (read : serde.headerFromSlice headerJson = some header) :
    parseHeader serde (tokenOf headerJson claimsJson signature) =
      .ok header := by
  rw [parseHeader, splitOn_tokenOf]
  exact decodeHeader_encode read

/-- A token is accepted when every part of it is. -/
theorem parseAndVerify_tokenOf
    {claims : Claims}
    (fits : signature.length ≤ signatureMaxSize)
    (accepts :
      key.Accepts (Str.asBytes (signedPart (urlSafe.encode headerJson)
        (urlSafe.encode claimsJson))) signature)
    (read : serde.headerFromSlice headerJson = some header)
    (algorithm : header.alg = key.algorithm)
    (decoded :
      decodeClaims serde serdeClaims options expNow nbfNow claimsJson =
        .ok claims) :
    parseAndVerify serde serdeClaims key
        (tokenOf headerJson claimsJson signature) options expNow nbfNow =
      .ok ⟨header, claims⟩ := by
  have parts := splitOn_tokenOf headerJson claimsJson signature
  have signatureDecoded :
      decodeSignature (urlSafe.encode signature) = .ok signature := by
    rw [decodeSignature, urlSafe.decode_encode]
    exact if_pos fits
  have claimsDecoded :
      (okOr .invalidToken (urlSafe.decode (urlSafe.encode claimsJson)) :
        Outcome Bytes) = .ok claimsJson := by
    rw [urlSafe.decode_encode]
    rfl
  rw [parseAndVerify, parts]
  simp only [bind_eq_ok_iff]
  refine ⟨signature, signatureDecoded, _,
    expect_eq_ok_iff.mpr (sliceTo_signedPart parts), (),
    Key.verify_eq_ok_iff.mpr accepts, header, decodeHeader_encode read, ?_⟩
  rw [if_neg (not_not.mpr algorithm)]
  simp only [bind_eq_ok_iff]
  exact ⟨claimsJson, claimsDecoded, claims, decoded, rfl⟩

/-- The header that was written is read from a signed token. -/
theorem parseHeader_of_sign
    (readsHeader : serde.ReadsHeader header)
    {entropy : Nat}
    {claims : Claims}
    {token : Str}
    (signed : sign serde serdeClaims key entropy header claims = .ok token) :
    parseHeader serde token = .ok header := by
  obtain ⟨headerJson, _, _, headerWritten, _, _, rfl⟩ :=
    sign_eq_ok_iff.mp signed
  obtain ⟨json, isJson, headerRead⟩ := readsHeader
  cases headerWritten.symm.trans isJson
  exact parseHeader_tokenOf headerRead

/--
A token that an Ed25519 key signed is accepted by an Ed25519 key with the same
public key, when the claims that are read back pass the checks.
-/
theorem parseAndVerify_of_sign
    (laws : lc.Ed25519Laws)
    (readsObjects : serde.ReadsWhatItWrites)
    (readsHeader : serde.ReadsHeader header)
    {id token : Str}
    (otherId : Str)
    {keypair other : lc.Ed25519KeyPair}
    {entropy : Nat}
    {claims : Claims}
    {fields : List (Str × Json)}
    (same : lc.ed25519PublicKey keypair = lc.ed25519PublicKey other)
    (algorithm : header.alg = .edDsa)
    (checked : options.checksClaims = true)
    (written :
      serdeClaims.toString claims =
        .ok (serde.valueToString (.object fields)))
    (distinct : (fields.map Prod.fst).Nodup)
    (scalars : ∀ field ∈ fields, field.2.IsScalar)
    (readBack :
      ∀ members : List (Str × Json),
        (∀ name, Json.lookup members name = Json.lookup fields name) →
        ClaimsPass options expNow nbfNow members ∧
          serdeClaims.fromValue (.object members) = some claims)
    (signed :
      sign serde serdeClaims ⟨id, .edDsa, .eddsa .ed25519 keypair⟩ entropy
        header claims = .ok token) :
    parseAndVerify serde serdeClaims ⟨otherId, .edDsa, .eddsa .ed25519 other⟩
      token options expNow nbfNow = .ok ⟨header, claims⟩ := by
  obtain ⟨headerJson, claimsJson, signature, headerWritten, claimsWritten,
    keySigned, rfl⟩ := sign_eq_ok_iff.mp signed
  obtain ⟨json, isJson, headerRead⟩ := readsHeader
  cases headerWritten.symm.trans isJson
  cases claimsWritten.symm.trans written
  rw [sign_ed25519 laws] at keySigned
  cases keySigned
  obtain ⟨members, parsed, sameMembers⟩ :=
    readsObjects.object fields distinct scalars
  obtain ⟨pass, typed⟩ := readBack members sameMembers
  have fits :
      (lc.ed25519Sign keypair (Str.asBytes
        (signedPart (urlSafe.encode headerJson.asBytes)
          (urlSafe.encode (Str.asBytes
            (serde.valueToString (.object fields))))))).length ≤
        signatureMaxSize := by
    rw [laws.signatureLength]
    decide
  exact parseAndVerify_tokenOf fits (accepts_of_publicKey_eq laws same)
    headerRead algorithm (decodeClaims_of_pass checked parsed pass typed)

/-- A token that a key signed is refused by a key with another public key. -/
theorem not_parseAndVerify_of_sign
    (laws : lc.Ed25519Laws)
    (refuses : lc.RefusesOtherKeys)
    {id token : Str}
    (otherId : Str)
    {keypair other : lc.Ed25519KeyPair}
    {entropy : Nat}
    {claims : Claims}
    (different : lc.ed25519PublicKey keypair ≠ lc.ed25519PublicKey other)
    (signed :
      sign serde serdeClaims ⟨id, .edDsa, .eddsa .ed25519 keypair⟩ entropy
        header claims = .ok token)
    (parsed : ParsedJwt Claims) :
    parseAndVerify serde serdeClaims ⟨otherId, .edDsa, .eddsa .ed25519 other⟩
      token options expNow nbfNow ≠ .ok parsed := by
  intro returned
  obtain ⟨headerJson, claimsJson, signature, _, _, keySigned, rfl⟩ :=
    sign_eq_ok_iff.mp signed
  rw [sign_ed25519 laws] at keySigned
  cases keySigned
  obtain ⟨_, _, _, _, _, _, verified⟩ := isVerified_of_parseAndVerify returned
  obtain ⟨sameHeader, sameClaims, sameSignature⟩ :=
    tokenOf_inj verified.eq_tokenOf
  have accepts := verified.accepts
  rw [← sameHeader, ← sameClaims, ← sameSignature] at accepts
  exact not_accepts_of_publicKey_ne refuses different accepts

end Token

end Pingoo.Jwt
