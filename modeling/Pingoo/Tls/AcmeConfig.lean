import Pingoo.Jwt.JwkJson
import Pingoo.Library.Base64Engine
import Pingoo.Library.IndexMap

namespace Pingoo.Tls

/-!
# The ACME configuration file

The accounts of the proxy are kept as JSON, under a version and by the URLs of
their directories.  The private key of an account is written in base64.
-/

open Json

/-- The codecs of keys: base64, and which bytes are taken for PKCS #8 keys. -/
structure KeyCodec where
  base64 : Base64.Engine
  acceptsKey : Bytes → Bool

/-- `PrivatePkcs8KeyDer`: the bytes of a key that are accepted as one. -/
structure PrivatePkcs8KeyDer (codec : KeyCodec) where
  secretPkcs8Der : Bytes
  accepted : codec.acceptsKey secretPkcs8Der = true

/-- `AcmeAccount`. -/
structure AcmeAccount (codec : KeyCodec) where
  id : Str
  key : PrivatePkcs8KeyDer codec

/-- `AcmeConfigV1`. -/
structure AcmeConfigV1 (codec : KeyCodec) where
  accounts : IndexMap Str (AcmeAccount codec)

/-- `AcmeConfig`. -/
inductive AcmeConfig (codec : KeyCodec) where
  | v1 (config : AcmeConfigV1 codec)

/-- The variants of the configuration, which its tag names. -/
inductive AcmeConfigVersion where
  | v1
  deriving Repr, DecidableEq

def AcmeConfigVersion.name : AcmeConfigVersion → Str
  | .v1 =>
      "1".toList

def AcmeConfigVersion.variants : List AcmeConfigVersion :=
  [.v1]

variable {codec : KeyCodec}

namespace PrivatePkcs8KeyDer

/-- `PrivatePkcs8KeyDer::try_from`. -/
def tryFrom (codec : KeyCodec) (bytes : Bytes) :
    Option (PrivatePkcs8KeyDer codec) :=
  if accepted : codec.acceptsKey bytes = true then
    some ⟨bytes, accepted⟩
  else
    none

/-- `rustls_private_pkcs_key_der::serialize`. -/
def serialize (privateKey : PrivatePkcs8KeyDer codec) : Json :=
  .string (codec.base64.encode privateKey.secretPkcs8Der)

/-- `rustls_private_pkcs_key_der::deserialize`. -/
def deserialize (codec : KeyCodec) (value : Json) :
    Option (PrivatePkcs8KeyDer codec) := do
  let text ← value.asStr
  let bytes ← codec.base64.decode text
  tryFrom codec bytes

end PrivatePkcs8KeyDer

namespace AcmeAccount

def toValue (account : AcmeAccount codec) : Json :=
  .object [
    ("id".toList, .string account.id),
    ("key".toList, account.key.serialize)
  ]

/-- The account of an object, or of the array of its members. -/
def fromValue (codec : KeyCodec) : Json → Option (AcmeAccount codec)
  | .object fields => do
      let id ← readOnly asStr fields "id".toList
      let key ←
        readOnly (PrivatePkcs8KeyDer.deserialize codec) fields "key".toList
      some ⟨id, key⟩
  | .array [id, key] => do
      let id ← id.asStr
      let key ← PrivatePkcs8KeyDer.deserialize codec key
      some ⟨id, key⟩
  | _ =>
      none

end AcmeAccount

namespace AcmeConfigV1

def toValue (config : AcmeConfigV1 codec) : Json :=
  .object [
    ("accounts".toList,
      .object (config.accounts.entries.map fun entry =>
        (entry.1, entry.2.toValue)))
  ]

/-- The accounts of an object; a later one of an equal URL wins. -/
def accountsOf (codec : KeyCodec) :
    Json → Option (IndexMap Str (AcmeAccount codec))
  | .object fields => do
      let entries ← fields.mapM fun field =>
        (AcmeAccount.fromValue codec field.2).map fun account =>
          (field.1, account)
      some (.ofEntries entries)
  | _ =>
      none

/-- The first version, of an object or of the array of its one member. -/
def fromValue (codec : KeyCodec) : Json → Option (AcmeConfigV1 codec)
  | .object fields =>
      (readOnly (accountsOf codec) fields "accounts".toList).map .mk
  | .array [accounts] =>
      (accountsOf codec accounts).map .mk
  | _ =>
      none

end AcmeConfigV1

namespace AcmeConfig

def toValue : AcmeConfig codec → Json
  | .v1 config =>
      .object [
        ("version".toList, .string AcmeConfigVersion.v1.name),
        ("data".toList, config.toValue)
      ]

/-- The version that a tag names. -/
def versionOf : Json → Option AcmeConfigVersion :=
  asVariant AcmeConfigVersion.variants AcmeConfigVersion.name

/-- The content of a version. -/
def dataOf (codec : KeyCodec) :
    AcmeConfigVersion → Json → Option (AcmeConfig codec)
  | .v1, data =>
      (AcmeConfigV1.fromValue codec data).map .v1

/-- The configuration of an object, or of the array of its tag and content. -/
def fromValue (codec : KeyCodec) : Json → Option (AcmeConfig codec)
  | .object fields => do
      let version ← readOnly versionOf fields "version".toList
      readOnly (dataOf codec version) fields "data".toList
  | .array [tag, data] => do
      let version ← versionOf tag
      dataOf codec version data
  | _ =>
      none

end AcmeConfig

section RoundTrip

/-- A key is accepted back. -/
@[simp] theorem PrivatePkcs8KeyDer.deserialize_serialize
    (privateKey : PrivatePkcs8KeyDer codec) :
    deserialize codec privateKey.serialize = some privateKey := by
  simp [deserialize, serialize, asStr, codec.base64.decode_encode, tryFrom,
    privateKey.accepted]

@[simp] theorem AcmeAccount.fromValue_toValue (account : AcmeAccount codec) :
    fromValue codec account.toValue = some account := by
  change
    (do
      let key ← PrivatePkcs8KeyDer.deserialize codec account.key.serialize
      some (AcmeAccount.mk account.id key)) = _
  rw [PrivatePkcs8KeyDer.deserialize_serialize]
  rfl

/-- The accounts are read back, in their order. -/
theorem AcmeConfigV1.accountsOf_object
    (accounts : IndexMap Str (AcmeAccount codec)) :
    accountsOf codec
        (.object (accounts.entries.map fun entry =>
          (entry.1, entry.2.toValue))) =
      some accounts := by
  have isRead (entries : List (Str × AcmeAccount codec)) :
      (entries.map fun entry => (entry.1, entry.2.toValue)).mapM
          (fun field =>
            (AcmeAccount.fromValue codec field.2).map fun account =>
              (field.1, account)) =
        some entries := by
    induction entries with
    | nil =>
        rfl
    | cons entry rest inductionHypothesis =>
        rw [List.map_cons, List.mapM_cons, inductionHypothesis,
          AcmeAccount.fromValue_toValue]
        rfl
  obtain ⟨entries, distinct⟩ := accounts
  rw [accountsOf, isRead]
  exact congrArg some
    (IndexMap.ext (IndexMap.entries_ofEntries distinct))

theorem AcmeConfigV1.fromValue_toValue (config : AcmeConfigV1 codec) :
    fromValue codec config.toValue = some config := by
  change
    (accountsOf codec
        (.object (config.accounts.entries.map fun entry =>
          (entry.1, entry.2.toValue)))).map AcmeConfigV1.mk = _
  rw [accountsOf_object]
  rfl

/-- The configuration is read back from its JSON. -/
theorem AcmeConfig.fromValue_toValue (config : AcmeConfig codec) :
    fromValue codec config.toValue = some config := by
  obtain ⟨config⟩ := config
  change (AcmeConfigV1.fromValue codec config.toValue).map AcmeConfig.v1 = _
  rw [AcmeConfigV1.fromValue_toValue]
  rfl

end RoundTrip

end Pingoo.Tls
