import Pingoo.Library.Fallible
import Pingoo.Text

namespace Pingoo.Jwt

/-!
# Keys

JSON Web Keys, the keys that sign and verify, and the conversions between them.
The cryptographic library is a parameter: its key pairs, what it builds them
from, and what it computes with them.
-/

open Fallible

/-- The errors of the token library. -/
inductive Error where
  | invalidToken
  | invalidSignature
  | invalidJwk (kid err : Str)
  | unspecified (message : Str)
  | json (err : Str)
  deriving Repr, DecidableEq

/-- The text of an error. -/
def Error.toStr : Error → Str
  | .invalidToken =>
      "JWT is not valid".toList
  | .invalidSignature =>
      "JWSignatureT is not valid".toList
  | .invalidJwk kid err =>
      kid ++ " is not a valid JWK: ".toList ++ err
  | .unspecified message =>
      message
  | .json err =>
      "error encoding JWT to JSON: ".toList ++ err

/-- The result of a call. -/
abbrev Outcome := Except (Failure Error)

/-- `SIGNATURE_MAX_SIZE`. -/
def signatureMaxSize : Nat :=
  132

/-- The algorithms supported for signing and verifying tokens. -/
inductive Algorithm where
  | hs512
  | edDsa
  | es256
  | es512
  deriving Repr, DecidableEq

/-- `Algorithm::signature_size`. -/
def Algorithm.signatureSize : Algorithm → Nat
  | .hs512 =>
      64
  | .edDsa =>
      64
  | .es256 =>
      64
  | .es512 =>
      132

inductive OkpCurve where
  | ed25519
  deriving Repr, DecidableEq

inductive EcCurve where
  | p256
  | p521
  deriving Repr, DecidableEq

inductive KeyUse where
  | sign
  | encrypt
  deriving Repr, DecidableEq

inductive JwkCrypto where
  | okp (curve : OkpCurve) (x : Bytes) (d : Option Bytes)
  | ec (curve : EcCurve) (x y : Bytes) (d : Option Bytes)
  | oct (key : Bytes)
  deriving Repr, DecidableEq

/-- A JSON Web Key. -/
structure Jwk where
  kid : Str
  use : KeyUse
  algorithm : Algorithm
  crypto : JwkCrypto
  deriving Repr, DecidableEq

inductive HmacAlgorithm where
  | sha256
  | sha512
  deriving Repr, DecidableEq

/-- The signature schemes a public key is parsed for. -/
inductive VerificationAlgorithm where
  | ed25519
  | ecdsa (curve : EcCurve)
  deriving Repr, DecidableEq

/--
The cryptographic library.  A key pair gives out its public key and, unless that
fails, its private key in the form of fixed length.
-/
structure AwsLc where
  Ed25519KeyPair : Type
  EcdsaKeyPair : EcCurve → Type
  ParsedPublicKey : Type
  ed25519Generate : Nat → Except Str Ed25519KeyPair
  ed25519FromSeedAndPublicKey : Bytes → Bytes → Except Str Ed25519KeyPair
  ed25519PublicKey : Ed25519KeyPair → Bytes
  ed25519Seed : Ed25519KeyPair → Option Bytes
  ed25519Sign : Ed25519KeyPair → Bytes → Bytes
  ecdsaFromPrivateKeyAndPublicKey :
    (curve : EcCurve) → Bytes → Bytes → Except Str (EcdsaKeyPair curve)
  ecdsaPublicKey : {curve : EcCurve} → EcdsaKeyPair curve → Bytes
  ecdsaPrivateKey : {curve : EcCurve} → EcdsaKeyPair curve → Option Bytes
  ecdsaSign :
    {curve : EcCurve} → EcdsaKeyPair curve → Nat → Bytes → Except Str Bytes
  parsePublicKey : VerificationAlgorithm → Bytes → Option ParsedPublicKey
  verifySig : ParsedPublicKey → Bytes → Bytes → Bool
  hmacSign : HmacAlgorithm → Bytes → Bytes → Bytes

section

variable (lc : AwsLc)

inductive KeyCrypto where
  | eddsa (curve : OkpCurve) (keypair : lc.Ed25519KeyPair)
  | ecdsa (curve : EcCurve) (keypair : lc.EcdsaKeyPair curve)
  | hmac (algorithm : HmacAlgorithm) (key : Bytes)

/-- A key used to sign and verify. -/
structure Key where
  id : Str
  algorithm : Algorithm
  crypto : KeyCrypto lc

/-- Verify a signature with a public key that has to parse. -/
def Key.verifyWith
    (algorithm : VerificationAlgorithm)
    (publicKey message signature : Bytes) : Outcome Unit := do
  let parsed ← expect (lc.parsePublicKey algorithm publicKey)
  if lc.verifySig parsed message signature then
    .ok ()
  else
    .error (.error .invalidSignature)

variable {lc}

/-- Copy a signature into a buffer of `SIGNATURE_MAX_SIZE` bytes. -/
def toSignature (signature : Bytes) : Outcome Bytes :=
  if signature.length ≤ signatureMaxSize then
    .ok signature
  else
    .error .panic

/-- What is copied is the signature, if it fits. -/
theorem toSignature_eq_ok_iff {signature copied : Bytes} :
    toSignature signature = .ok copied ↔
      copied = signature ∧ signature.length ≤ signatureMaxSize := by
  unfold toSignature
  split
  · next fits =>
      simp [fits, eq_comm]
  · next tooLong =>
      simp [tooLong]

namespace Key

/-- `Key::generate_ed25519`; `entropy` is what the generator draws. -/
def generateEd25519 (id : Str) (entropy : Nat) : Outcome (Key lc) :=
  match lc.ed25519Generate entropy with
  | .error err =>
      .error (.error (.unspecified
        ("error generating Ed25519 signing key: ".toList ++ err)))
  | .ok keypair =>
      .ok {
        id := id
        algorithm := .edDsa
        crypto := .eddsa .ed25519 keypair
      }

/-- `Key::sign`; `entropy` is what an ECDSA signature draws. -/
def sign (key : Key lc) (entropy : Nat) (message : Bytes) : Outcome Bytes :=
  match key.crypto with
  | .eddsa _ keypair =>
      toSignature (lc.ed25519Sign keypair message)
  | .ecdsa _ keypair =>
      match lc.ecdsaSign keypair entropy message with
      | .error err =>
          .error (.error (.unspecified
            ("error signing token: ".toList ++ err)))
      | .ok signature => toSignature signature
  | .hmac algorithm secret =>
      toSignature (lc.hmacSign algorithm secret message)

/-- `Key::verify`. -/
def verify (key : Key lc) (message signature : Bytes) : Outcome Unit :=
  match key.crypto with
  | .eddsa .ed25519 keypair =>
      verifyWith lc .ed25519 (lc.ed25519PublicKey keypair) message signature
  | .ecdsa curve keypair =>
      verifyWith lc (.ecdsa curve) (lc.ecdsaPublicKey keypair) message
        signature
  | .hmac algorithm secret =>
      if lc.hmacSign algorithm secret message = signature then
        .ok ()
      else
        .error (.error .invalidSignature)

/-- An invalid key is reported with its id. -/
def invalidJwk (jwk : Jwk) (err : Str) : Failure Error :=
  .error (.invalidJwk jwk.kid err)

/-- The private key of a JSON Web Key. -/
def privateKey (jwk : Jwk) (d : Option Bytes) : Outcome Bytes :=
  match d with
  | some privateKey => .ok privateKey
  | none => .error (invalidJwk jwk "private key is missing".toList)

/-- What the library refuses is an invalid key. -/
def orInvalidJwk {α : Type} (jwk : Jwk) : Except Str α → Outcome α
  | .ok value =>
      .ok value
  | .error err =>
      .error (invalidJwk jwk err)

/-- The public key of an EC key, as `Key::try_from` puts it together. -/
def ecPublicKey (x y : Bytes) : Bytes :=
  0x04 :: (y ++ x)

/-- A key from an elliptic curve JSON Web Key. -/
def tryFromEc
    (jwk : Jwk)
    (curve : EcCurve)
    (x y : Bytes)
    (d : Option Bytes) : Outcome (Key lc) := do
  let privateKey ← privateKey jwk d
  let keypair ← orInvalidJwk jwk
    (lc.ecdsaFromPrivateKeyAndPublicKey curve privateKey (ecPublicKey x y))
  .ok {
    id := jwk.kid
    algorithm := jwk.algorithm
    crypto := .ecdsa curve keypair
  }

/-- `Key::try_from`. -/
def tryFrom (jwk : Jwk) : Outcome (Key lc) :=
  match jwk.algorithm, jwk.crypto with
  | .hs512, .oct key =>
      .ok {
        id := jwk.kid
        algorithm := jwk.algorithm
        crypto := .hmac .sha512 key
      }
  | .edDsa, .okp .ed25519 x d => do
      let rawSeed ← privateKey jwk d
      let keypair ←
        orInvalidJwk jwk (lc.ed25519FromSeedAndPublicKey rawSeed x)
      .ok {
        id := jwk.kid
        algorithm := .edDsa
        crypto := .eddsa .ed25519 keypair
      }
  | .es256, .ec curve x y d =>
      tryFromEc jwk curve x y d
  | .es512, .ec curve x y d =>
      tryFromEc jwk curve x y d
  | _, _ =>
      .error (invalidJwk jwk "JWK is not valid".toList)

end Key

namespace Jwk

/-- The length of a public key with its prefix, and of one coordinate. -/
def uncompressedLength : EcCurve → Nat
  | .p256 =>
      65
  | .p521 =>
      133

def coordinateLength : EcCurve → Nat
  | .p256 =>
      32
  | .p521 =>
      66

/-- Split a slice, or panic when it is too short. -/
def splitAt (bytes : Bytes) (position : Nat) : Outcome (Bytes × Bytes) :=
  if position ≤ bytes.length then
    .ok (bytes.take position, bytes.drop position)
  else
    .error .panic

/-- `Jwk::from`. -/
def ofKey (key : Key lc) : Outcome Jwk :=
  match key.crypto with
  | .eddsa curve keypair => do
      let publicKey := lc.ed25519PublicKey keypair
      let privateKey ← expect (lc.ed25519Seed keypair)
      .ok {
        kid := key.id
        use := .sign
        algorithm := key.algorithm
        crypto := .okp curve publicKey (some privateKey)
      }
  | .ecdsa curve keypair => do
      let publicKey := lc.ecdsaPublicKey keypair
      -- skip the 0x04 byte if present
      let publicKey :=
        if publicKey.length = uncompressedLength curve then
          publicKey.drop 1
        else
          publicKey
      let privateKey ← expect (lc.ecdsaPrivateKey keypair)
      let (x, y) ← splitAt publicKey (coordinateLength curve)
      .ok {
        kid := key.id
        use := .sign
        algorithm := key.algorithm
        crypto := .ec curve x y (some privateKey)
      }
  | .hmac _ secret =>
      .ok {
        kid := key.id
        use := .sign
        algorithm := key.algorithm
        crypto := .oct secret
      }

end Jwk

end

end Pingoo.Jwt
