import Pingoo.Jwt.KeyConversion

namespace Pingoo.Jwt

/-!
# The algorithm of a key and what it computes

A key names an algorithm, and its crypto computes one.  Only an elliptic curve
JSON Web Key can make the two differ: its algorithm and its curve are read
independently of each other.
-/

open Fallible

variable {lc : AwsLc}

/-- The algorithm of the signatures on a curve. -/
def EcCurve.algorithm : EcCurve → Algorithm
  | .p256 =>
      .es256
  | .p521 =>
      .es512

/-- The algorithm that crypto computes; there is none for HMAC with SHA-256. -/
def KeyCrypto.usedAlgorithm : KeyCrypto lc → Option Algorithm
  | .eddsa .ed25519 _ =>
      some .edDsa
  | .ecdsa curve _ =>
      some curve.algorithm
  | .hmac .sha512 _ =>
      some .hs512
  | .hmac .sha256 _ =>
      none

/-- The documented lengths of the signatures the library makes. -/
structure AwsLc.SignatureSizes (lc : AwsLc) : Prop where
  ed25519 : ∀ keypair message, (lc.ed25519Sign keypair message).length = 64
  ecdsa :
    ∀ {curve} {keypair : lc.EcdsaKeyPair curve} {entropy message signature},
      lc.ecdsaSign keypair entropy message = .ok signature →
      signature.length = 2 * Jwk.coordinateLength curve
  hmacSha512 :
    ∀ secret message, (lc.hmacSign .sha512 secret message).length = 64

/--
A key computes the algorithm it names: its signatures have the size of that
algorithm, and the tokens it accepts announce the algorithm that was used.
-/
structure Key.Agrees (key : Key lc) : Prop where
  algorithm : key.crypto.usedAlgorithm = some key.algorithm
  signatureSize :
    ∀ entropy message signature,
      key.sign entropy message = .ok signature →
      signature.length = key.algorithm.signatureSize
  announced :
    ∀ {Claims : Type} (serde : SerdeJson) (serdeClaims : SerdeClaims Claims)
      (token : Str) (options : ValidateOptions) (expNow nbfNow : Int)
      (parsed : ParsedJwt Claims),
      parseAndVerify serde serdeClaims key token options expNow nbfNow =
        .ok parsed →
      key.crypto.usedAlgorithm = some parsed.header.alg

/-- An elliptic curve key has the algorithm of its curve. -/
def Jwk.CurveMatches (jwk : Jwk) : Prop :=
  ∀ curve x y d, jwk.crypto = .ec curve x y d → jwk.algorithm = curve.algorithm

/-- A signature has the size of the algorithm that is used. -/
theorem length_sign
    (sizes : lc.SignatureSizes)
    {key : Key lc}
    {algorithm : Algorithm}
    (used : key.crypto.usedAlgorithm = some algorithm)
    {entropy : Nat}
    {message signature : Bytes}
    (signed : key.sign entropy message = .ok signature) :
    signature.length = algorithm.signatureSize := by
  obtain ⟨id, named, crypto⟩ := key
  cases crypto with
  | eddsa curve keypair =>
      cases curve
      cases used
      rw [(toSignature_eq_ok_iff.mp signed).1]
      exact sizes.ed25519 keypair message
  | ecdsa curve keypair =>
      cases used
      simp only [Key.sign] at signed
      split at signed
      · cases signed
      · next made isMade =>
          rw [(toSignature_eq_ok_iff.mp signed).1, sizes.ecdsa isMade]
          cases curve
          · rfl
          · rfl
  | hmac hash secret =>
      cases hash with
      | sha256 =>
          cases used
      | sha512 =>
          cases used
          rw [(toSignature_eq_ok_iff.mp signed).1]
          exact sizes.hmacSha512 secret message

/-- What is accepted announces the algorithm of the key. -/
theorem Key.agrees_of_usedAlgorithm
    (sizes : lc.SignatureSizes)
    {key : Key lc}
    (used : key.crypto.usedAlgorithm = some key.algorithm) : key.Agrees where
  algorithm :=
    used
  signatureSize _ _ _ signed :=
    length_sign sizes used signed
  announced _ _ _ _ _ _ _ returned := by
    obtain ⟨_, _, _, _, _, _, verified⟩ := isVerified_of_parseAndVerify returned
    rw [used, verified.algorithm]

/-- What an accepted key computes is decided by its algorithm and its curve. -/
theorem usedAlgorithm_of_tryFrom
    {jwk : Jwk}
    {key : Key lc}
    (accepted : Key.tryFrom jwk = .ok key) :
    key.crypto.usedAlgorithm = some key.algorithm ↔ jwk.CurveMatches := by
  rcases tryFrom_cases accepted with
    ⟨secret, isOct, rfl⟩ | ⟨x, seed, keypair, isEdDsa, isOkp, _, rfl⟩ |
      ⟨curve, x, y, d, isEc⟩
  · have curveMatches : jwk.CurveMatches := by
      intro curve x y d isEc
      cases isOct.symm.trans isEc
    have isHs512 : jwk.algorithm = .hs512 := by
      obtain ⟨kid, use, algorithm, crypto⟩ := jwk
      cases isOct
      cases algorithm with
      | hs512 =>
          rfl
      | edDsa | es256 | es512 =>
          cases accepted
    exact iff_of_true (congrArg some isHs512.symm) curveMatches
  · have curveMatches : jwk.CurveMatches := by
      intro curve x y d isEc
      cases isOkp.symm.trans isEc
    exact iff_of_true rfl curveMatches
  · rw [tryFrom_of_isEc isEc, tryFromEc_eq_ok_iff] at accepted
    obtain ⟨keypair, _, rfl⟩ := accepted
    constructor
    · intro used other x' y' d' isOther
      cases isEc.crypto.symm.trans isOther
      exact (Option.some.inj used).symm
    · intro curveMatches
      exact congrArg some (curveMatches curve x y (some d) isEc.crypto).symm

/--
An accepted key computes the algorithm it names exactly when its algorithm is
the one of its curve, if it has a curve.
-/
theorem agrees_iff_curveMatches
    (sizes : lc.SignatureSizes)
    {jwk : Jwk}
    {key : Key lc}
    (accepted : Key.tryFrom jwk = .ok key) :
    key.Agrees ↔ jwk.CurveMatches := by
  rw [← usedAlgorithm_of_tryFrom accepted]
  exact ⟨Key.Agrees.algorithm, Key.agrees_of_usedAlgorithm sizes⟩

section Sample

/-- The sample library with signatures of the right lengths. -/
def sampleSigners : AwsLc :=
  { sampleKeyPairs with
    ed25519Sign := fun _ _ => List.replicate 64 0
    ecdsaSign := fun {curve} _ _ _ =>
      .ok (List.replicate (2 * Jwk.coordinateLength curve) 0)
    hmacSign := fun _ _ _ => List.replicate 64 0 }

theorem sampleSigners_signatureSizes : sampleSigners.SignatureSizes where
  ed25519 _ _ :=
    List.length_replicate
  ecdsa signed := by
    cases signed
    exact List.length_replicate
  hmacSha512 _ _ :=
    List.length_replicate

/-- The sample Ed25519 key names the algorithm it computes. -/
theorem agrees_iff_curveMatches_sample :
    Key.Agrees
      (⟨"okp".toList, .edDsa, .eddsa .ed25519 ()⟩ : Key sampleSigners) :=
  (@agrees_iff_curveMatches sampleSigners sampleSigners_signatureSizes
    sampleOkpJwk _ rfl).mpr nofun

/--
A key of P-256 that names ES512, with the coordinates in the order in which they
are accepted.
-/
def mismatchedJwk : Jwk where
  kid :=
    "ec".toList
  use :=
    .sign
  algorithm :=
    .es512
  crypto :=
    .ec .p256 p256BaseY p256BaseX (some p256One)

/-- The key that names ES512 is accepted and signs with 64 bytes. -/
theorem not_agrees_p256_es512 :
    sampleSigners.SignatureSizes ∧
    ¬ ∀ (jwk : Jwk) (key : Key sampleSigners),
      Key.tryFrom jwk = .ok key → key.Agrees := by
  refine ⟨sampleSigners_signatureSizes, fun agrees => ?_⟩
  have isKey :
      Key.tryFrom mismatchedJwk =
        .ok (⟨"ec".toList, .es512, .ecdsa .p256 ()⟩ : Key sampleSigners) :=
    rfl
  have size := (agrees _ _ isKey).signatureSize 0 [] _ rfl
  cases size

end Sample

end Pingoo.Jwt
