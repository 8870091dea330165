import Pingoo.Jwt.Json
import Pingoo.Jwt.Key

namespace Pingoo

/-!
# JSON Web Keys as JSON

What `serde` derives for the keys of a file.  The members of the cryptographic
part stand among those of the key, next to a tag that names the kind of key, and
bytes are written as base64 texts.
-/

namespace Json

/--
A variant of an enumeration: its name, or an object with its name and nothing
else.
-/
def asVariant
    {α : Type}
    (variants : List α)
    (name : α → Str) : Json → Option α
  | .string text =>
      variants.find? fun variant => name variant = text
  | .object [(text, .null)] =>
      variants.find? fun variant => name variant = text
  | _ =>
      none

/-- The variant that a tag names, or gives by its position. -/
def asTag
    {α : Type}
    (variants : List α)
    (name : α → Str) : Json → Option α
  | .string text =>
      variants.find? fun variant => name variant = text
  | .number (.posInt position) =>
      variants[position.toNat]?
  | _ =>
      none

/-- The value of a member that has to be there, and not twice. -/
def onlyMember
    (fields : List (Str × Json))
    (name : Str) : Option Json :=
  match fields.filter fun field => field.1 = name with
  | [field] => some field.2
  | _ => none

/-- Read a member that has to be there, and not twice. -/
def readOnly
    {α : Type}
    (read : Json → Option α)
    (fields : List (Str × Json))
    (name : Str) : Option α :=
  (onlyMember fields name).bind read

end Json

namespace Jwt

open Json

namespace Base64UrlNoPadding

/-- `base64_url_no_padding::serialize`. -/
def serialize (bytes : Bytes) : Json :=
  .string (urlSafe.encode bytes)

/-- `base64_url_no_padding::deserialize`. -/
def deserialize (value : Json) : Option Bytes :=
  value.asStr.bind urlSafe.decode

/-- `base64_url_no_padding::option::serialize`. -/
def serializeOption : Option Bytes → Json
  | some bytes =>
      serialize bytes
  | none =>
      .null

/-- `base64_url_no_padding::option::deserialize`. -/
def deserializeOption : Json → Option (Option Bytes)
  | .null =>
      some none
  | value =>
      (deserialize value).map some

end Base64UrlNoPadding

open Base64UrlNoPadding

/-- The names of the variants in JSON. -/
def KeyUse.name : KeyUse → Str
  | .sign =>
      "sig".toList
  | .encrypt =>
      "enc".toList

def KeyUse.variants : List KeyUse :=
  [.sign, .encrypt]

def Algorithm.name : Algorithm → Str
  | .hs512 =>
      "HS512".toList
  | .edDsa =>
      "EdDSA".toList
  | .es256 =>
      "ES256".toList
  | .es512 =>
      "ES512".toList

def Algorithm.variants : List Algorithm :=
  [.hs512, .edDsa, .es256, .es512]

def OkpCurve.name : OkpCurve → Str
  | .ed25519 =>
      "Ed25519".toList

def OkpCurve.variants : List OkpCurve :=
  [.ed25519]

def EcCurve.name : EcCurve → Str
  | .p256 =>
      "P-256".toList
  | .p521 =>
      "P-521".toList

def EcCurve.variants : List EcCurve :=
  [.p256, .p521]

/-- The kinds of keys, which tag the cryptographic part. -/
inductive JwkKind where
  | okp
  | ec
  | oct
  deriving Repr, DecidableEq

def JwkKind.name : JwkKind → Str
  | .okp =>
      "OKP".toList
  | .ec =>
      "EC".toList
  | .oct =>
      "oct".toList

def JwkKind.variants : List JwkKind :=
  [.okp, .ec, .oct]

/-- The members of the cryptographic part, its tag first. -/
def JwkCrypto.toFields : JwkCrypto → List (Str × Json)
  | .okp curve x d =>
      [
        ("kty".toList, .string JwkKind.okp.name),
        ("crv".toList, .string curve.name),
        ("x".toList, serialize x),
        ("d".toList, serializeOption d)
      ]
  | .ec curve x y d =>
      [
        ("kty".toList, .string JwkKind.ec.name),
        ("crv".toList, .string curve.name),
        ("x".toList, serialize x),
        ("y".toList, serialize y),
        ("d".toList, serializeOption d)
      ]
  | .oct key =>
      [
        ("kty".toList, .string JwkKind.oct.name),
        ("key".toList, serialize key)
      ]

/-- The cryptographic part among some members. -/
def JwkCrypto.fromFields (fields : List (Str × Json)) : Option JwkCrypto := do
  let kty ← readOnly (asTag JwkKind.variants JwkKind.name) fields "kty".toList
  let content := fields.filter fun field => field.1 ≠ "kty".toList
  match kty with
  | .okp =>
      let curve ←
        readOnly (asVariant OkpCurve.variants OkpCurve.name) content
          "crv".toList
      let x ← readOnly deserialize content "x".toList
      let d ← readOnly deserializeOption content "d".toList
      some (.okp curve x d)
  | .ec =>
      let curve ←
        readOnly (asVariant EcCurve.variants EcCurve.name) content
          "crv".toList
      let x ← readOnly deserialize content "x".toList
      let y ← readOnly deserialize content "y".toList
      let d ← readOnly deserializeOption content "d".toList
      some (.ec curve x y d)
  | .oct =>
      let key ← readOnly deserialize content "key".toList
      some (.oct key)

/-- The names of the members of a key besides its cryptographic part. -/
def Jwk.ownNames : List Str :=
  ["kid".toList, "use".toList, "alg".toList]

/-- The members of a key. -/
def Jwk.toFields (jwk : Jwk) : List (Str × Json) :=
  [
    ("kid".toList, .string jwk.kid),
    ("use".toList, .string jwk.use.name),
    ("alg".toList, .string jwk.algorithm.name)
  ] ++ jwk.crypto.toFields

/-- The key among the members of an object. -/
def Jwk.fromFields (fields : List (Str × Json)) : Option Jwk := do
  let kid ← readOnly asStr fields "kid".toList
  let use ←
    readOnly (asVariant KeyUse.variants KeyUse.name) fields "use".toList
  let algorithm ←
    readOnly (asVariant Algorithm.variants Algorithm.name) fields
      "alg".toList
  let crypto ←
    JwkCrypto.fromFields (fields.filter fun field =>
      field.1 ∉ Jwk.ownNames)
  some ⟨kid, use, algorithm, crypto⟩

/-- The key that a JSON value stands for. -/
def Jwk.fromValue : Json → Option Jwk
  | .object fields =>
      fromFields fields
  | _ =>
      none

namespace Jwks

/-- The JSON of the keys of a file. -/
def toValue (keys : List Jwk) : Json :=
  .object [
    ("keys".toList, .array (keys.map fun jwk => .object jwk.toFields))]

/-- The keys in an array. -/
def keysOf : Json → Option (List Jwk)
  | .array values =>
      values.mapM Jwk.fromValue
  | _ =>
      none

/--
The keys of a file.  The structure has one member, and may also be written as
the array of its members.
-/
def fromValue : Json → Option (List Jwk)
  | .object fields =>
      readOnly keysOf fields "keys".toList
  | .array [keys] =>
      keysOf keys
  | _ =>
      none

end Jwks

section RoundTrip

/-- The variants are read back from their names. -/
theorem KeyUse.asVariant_name (use : KeyUse) :
    asVariant KeyUse.variants KeyUse.name (.string use.name) = some use := by
  cases use <;> rfl

theorem Algorithm.asVariant_name (algorithm : Algorithm) :
    asVariant Algorithm.variants Algorithm.name (.string algorithm.name) =
      some algorithm := by
  cases algorithm <;> rfl

theorem OkpCurve.asVariant_name (curve : OkpCurve) :
    asVariant OkpCurve.variants OkpCurve.name (.string curve.name) =
      some curve := by
  cases curve
  rfl

theorem EcCurve.asVariant_name (curve : EcCurve) :
    asVariant EcCurve.variants EcCurve.name (.string curve.name) =
      some curve := by
  cases curve <;> rfl

theorem deserialize_serialize (bytes : Bytes) :
    deserialize (serialize bytes) = some bytes := by
  simp [deserialize, serialize, asStr]

theorem deserializeOption_serializeOption (bytes : Option Bytes) :
    deserializeOption (serializeOption bytes) = some bytes := by
  cases bytes with
  | none =>
      rfl
  | some bytes =>
      exact congrArg (Option.map some) (deserialize_serialize bytes)

/-- The cryptographic part is read back. -/
theorem JwkCrypto.fromFields_toFields (crypto : JwkCrypto) :
    fromFields crypto.toFields = some crypto := by
  cases crypto with
  | okp curve x d =>
      change
        (do
          let curve ← asVariant OkpCurve.variants OkpCurve.name
            (.string curve.name)
          let x ← deserialize (serialize x)
          let d ← deserializeOption (serializeOption d)
          some (JwkCrypto.okp curve x d)) = _
      rw [curve.asVariant_name, deserialize_serialize,
        deserializeOption_serializeOption]
      rfl
  | ec curve x y d =>
      change
        (do
          let curve ← asVariant EcCurve.variants EcCurve.name
            (.string curve.name)
          let x ← deserialize (serialize x)
          let y ← deserialize (serialize y)
          let d ← deserializeOption (serializeOption d)
          some (JwkCrypto.ec curve x y d)) = _
      rw [curve.asVariant_name, deserialize_serialize, deserialize_serialize,
        deserializeOption_serializeOption]
      rfl
  | oct key =>
      change
        (do
          let key ← deserialize (serialize key)
          some (JwkCrypto.oct key)) = _
      rw [deserialize_serialize]
      rfl

/-- A key is read back from its members. -/
theorem Jwk.fromFields_toFields (jwk : Jwk) :
    fromFields jwk.toFields = some jwk := by
  obtain ⟨kid, use, algorithm, crypto⟩ := jwk
  have isKid :
      readOnly asStr (toFields ⟨kid, use, algorithm, crypto⟩)
        "kid".toList = some kid := by
    cases crypto <;> rfl
  have isUse :
      readOnly (asVariant KeyUse.variants KeyUse.name)
        (toFields ⟨kid, use, algorithm, crypto⟩) "use".toList =
          asVariant KeyUse.variants KeyUse.name (.string use.name) := by
    cases crypto <;> rfl
  have isAlgorithm :
      readOnly (asVariant Algorithm.variants Algorithm.name)
        (toFields ⟨kid, use, algorithm, crypto⟩) "alg".toList =
          asVariant Algorithm.variants Algorithm.name
            (.string algorithm.name) := by
    cases crypto <;> rfl
  have isRest :
      ((toFields ⟨kid, use, algorithm, crypto⟩).filter fun field =>
        field.1 ∉ ownNames) = crypto.toFields := by
    cases crypto <;> rfl
  rw [fromFields, isKid, isUse, isAlgorithm, isRest, use.asVariant_name,
    algorithm.asVariant_name, crypto.fromFields_toFields]
  rfl

/-- The keys are read back from the JSON of the file. -/
theorem Jwks.fromValue_toValue (keys : List Jwk) :
    fromValue (toValue keys) = some keys := by
  change (keys.map fun jwk => Json.object jwk.toFields).mapM Jwk.fromValue =
    some keys
  induction keys with
  | nil =>
      rfl
  | cons jwk rest inductionHypothesis =>
      rw [List.map_cons, List.mapM_cons, inductionHypothesis, Jwk.fromValue,
        jwk.fromFields_toFields]
      rfl

end RoundTrip

end Jwt

end Pingoo
