import Pingoo.CaptchaOwnCookies
import Pingoo.Jwt.JwkJson

namespace Pingoo

/-!
# Captcha sessions after a restart

The keys of the captcha manager are saved as JSON and read back at the next
start.  The manager of that start has the same keys under the same ids, so it
accepts the cookies that were made before.
-/

open Fallible Jwt

/--
`serde_json` for the file of the keys: values and their texts, and the error for
a value that stands for no keys.
-/
structure JwksJson where
  fromSlice : Bytes → Except String Json
  toVecPretty : Json → Except String Bytes
  mismatch : Json → String

/-- The file of the keys, as the file system has it. -/
structure JwksDisk where
  tryExists : Except String Bool
  read : Except String Bytes
  write : Bytes → Except String Unit

/-- What the manager asks, of a file and of `serde_json`. -/
def JwksJson.files (json : JwksJson) (disk : JwksDisk) : CaptchaFiles where
  tryExists :=
    disk.tryExists
  read :=
    disk.read
  jwksFromSlice content := do
    let value ← json.fromSlice content
    orError (json.mismatch value) (Jwks.fromValue value)
  jwksToVecPretty jwks :=
    json.toVecPretty (Jwks.toValue jwks)
  write :=
    disk.write

/-- The JSON of some keys is written, and read back. -/
def JwksJson.ReadsBack (json : JwksJson) : Prop :=
  ∀ jwks, ∃ content,
    json.toVecPretty (Jwks.toValue jwks) = .ok content ∧
      json.fromSlice content = .ok (Jwks.toValue jwks)

/-- The file is there, with this content. -/
structure JwksDisk.Holds (disk : JwksDisk) (content : Bytes) : Prop where
  present : disk.tryExists = .ok true
  read : disk.read = .ok content

section Definitions

variable {lc : AwsLc}

/-- A key pair is built again from its seed and its public key. -/
def Jwt.AwsLc.RebuildsKeyPairs (lc : AwsLc) : Prop :=
  ∀ keypair, ∃ seed rebuilt,
    lc.ed25519Seed keypair = some seed ∧
      lc.ed25519FromSeedAndPublicKey seed (lc.ed25519PublicKey keypair) =
          .ok rebuilt ∧
        lc.ed25519Seed rebuilt = some seed ∧
          lc.ed25519PublicKey rebuilt = lc.ed25519PublicKey keypair

/-- A key that signs with Ed25519. -/
def Jwt.Key.IsEd25519 (key : Key lc) : Prop :=
  ∃ keypair, key = ⟨key.id, .edDsa, .eddsa .ed25519 keypair⟩

/-- A key with the id, the algorithm, the seed and the public key of another. -/
structure Jwt.Key.IsCopy (key copy : Key lc) : Prop where
  id : copy.id = key.id
  algorithm : copy.algorithm = key.algorithm
  crypto :
    ∃ keypair other seed,
      key.crypto = .eddsa .ed25519 keypair ∧
        copy.crypto = .eddsa .ed25519 other ∧
          lc.ed25519Seed keypair = some seed ∧
            lc.ed25519Seed other = some seed ∧
              lc.ed25519PublicKey other = lc.ed25519PublicKey keypair

/-- Keys that a manager can be restarted with. -/
structure AreCaptchaKeys (keys : List (Key lc)) : Prop where
  notEmpty : keys ≠ []
  areEd25519 : ∀ key ∈ keys, key.IsEd25519
  distinct : (keys.map Key.id).Nodup
  notBlank : ∀ key ∈ keys, key.id.trim ≠ []

/-- Saving the keys is writing this content. -/
def SavesAs
    (json : JwksJson)
    (keys : List (Key lc))
    (content : Bytes) : Prop :=
  ∀ disk path,
    CaptchaManager.saveJwtKeys (json.files disk) keys path =
      orReport (fun err => .config s!"error writing JWKS file {path}: {err}")
        (disk.write content)

/-- A manager signs with the first key, and finds each key by its id. -/
structure RestoresKeys
    (keys : List (Key lc))
    (manager : CaptchaManager lc) : Prop where
  signingKey : ∃ first ∈ keys.head?, first.IsCopy manager.signingKey
  verifyingKeys :
    ∀ key ∈ keys, ∃ copy,
      manager.verifyingKey key.id = some copy ∧ key.IsCopy copy

end Definitions

/--
A manager accepts the verified cookies that were made with one of the keys, for
the same client and until they expire.
-/
def AcceptsEarlierCookies
    (lib : CaptchaLibrary)
    (keys : List (Key lib.lc))
    (manager : CaptchaManager lib.lc) : Prop :=
  ∀ key ∈ keys,
    ∀ {clientId jti entropy verified others expiresAt expNow nbfNow}
      {now : Utc.DateTime},
      generateCaptchaVerifiedCookies lib key clientId now.nanos jti entropy =
          .ok (verified :: others) →
        Utc.add now.nanos captchaVerifiedJwtExpiration = some expiresAt →
          now.nanos ≤ expNow ∧ expNow ≤ expiresAt →
            now.nanos ≤ nbfNow ∧ nbfNow ≤ expiresAt →
              validateCaptchaVerifiedCookie lib manager verified.value
                clientId expNow nbfNow = .ok ()

section Copies

variable {lc : AwsLc} {keys : List (Key lc)}

/-- A key is written as a JSON Web Key that is read as a copy of it. -/
theorem exists_copy
    (rebuilds : lc.RebuildsKeyPairs)
    {key : Key lc}
    (isEd25519 : key.IsEd25519)
    (notBlank : key.id.trim ≠ []) :
    ∃ jwk copy,
      Jwk.ofKey key = .ok jwk ∧ captchaKey jwk = .ok copy ∧
        key.IsCopy copy := by
  obtain ⟨keypair, isKey⟩ := isEd25519
  obtain ⟨seed, rebuilt, isSeed, isBuilt, sameSeed, samePublic⟩ :=
    rebuilds keypair
  rw [isKey]
  refine ⟨⟨key.id, .sign, .edDsa,
    .okp .ed25519 (lc.ed25519PublicKey keypair) (some seed)⟩,
    ⟨key.id, .edDsa, .eddsa .ed25519 rebuilt⟩, ?_, ?_, ?_⟩
  · rw [Jwk.ofKey]
    simp only [isSeed]
    rfl
  · have isValid : validateJwk ⟨key.id, .sign, .edDsa,
        .okp .ed25519 (lc.ed25519PublicKey keypair) (some seed)⟩ =
          .ok () := by
      rw [validateJwk, if_neg notBlank]
      rfl
    simp only [captchaKey, bind_eq_ok_iff, mapErr_eq_ok_iff, Key.tryFrom,
      privateKey_eq_ok_iff, orInvalidJwk_eq_ok_iff]
    exact ⟨(), isValid, seed, rfl, rebuilt, isBuilt, rfl⟩
  · exact ⟨rfl, rfl, keypair, rebuilt, seed, rfl, rfl, isSeed, sameSeed,
      samePublic⟩

/-- A copy of an Ed25519 key is one, of the same public key. -/
theorem exists_eq_of_isCopy
    {id : Str}
    {keypair : lc.Ed25519KeyPair}
    {copy : Key lc}
    (isCopy : Key.IsCopy ⟨id, .edDsa, .eddsa .ed25519 keypair⟩ copy) :
    ∃ other,
      copy = ⟨id, .edDsa, .eddsa .ed25519 other⟩ ∧
        lc.ed25519PublicKey other = lc.ed25519PublicKey keypair := by
  obtain ⟨sameId, sameAlgorithm, _, other, _, isPair, isOther, -, -,
    samePublic⟩ := isCopy
  cases isPair
  obtain ⟨copyId, copyAlgorithm, copyCrypto⟩ := copy
  dsimp only at sameId sameAlgorithm isOther
  subst sameId sameAlgorithm isOther
  exact ⟨other, rfl, samePublic⟩

/-- The keys are written one by one, and read as copies. -/
theorem exists_copies
    (rebuilds : lc.RebuildsKeyPairs)
    (areEd25519 : ∀ key ∈ keys, key.IsEd25519)
    (notBlank : ∀ key ∈ keys, key.id.trim ≠ []) :
    ∃ jwks copies,
      callEach Jwk.ofKey keys = .ok jwks ∧
        callEach captchaKey jwks = .ok copies ∧
          List.Forall₂ Key.IsCopy keys copies := by
  simp only [callEach_eq_ok_iff]
  induction keys with
  | nil =>
      exact ⟨[], [], .nil, .nil, .nil⟩
  | cons key rest inductionHypothesis =>
      rw [List.forall_mem_cons] at areEd25519 notBlank
      obtain ⟨jwk, copy, isWritten, isRead, isCopy⟩ :=
        exists_copy rebuilds areEd25519.1 notBlank.1
      obtain ⟨jwks, copies, areWritten, areRead, areCopies⟩ :=
        inductionHypothesis areEd25519.2 notBlank.2
      exact ⟨jwk :: jwks, copy :: copies, .cons isWritten areWritten,
        .cons isRead areRead, .cons isCopy areCopies⟩

/-- Where ids are distinct, each key is found by its id. -/
theorem verifyingKey_of_mem
    {signingKey : Key lc}
    (distinct : (keys.map Key.id).Nodup)
    {key : Key lc}
    (member : key ∈ keys) :
    (CaptchaManager.ofKeys signingKey keys).verifyingKey key.id =
      some key := by
  rw [verifyingKey_ofKeys]
  have isSome :
      (keys.reverse.find? fun other =>
        decide (key.id = other.id)).isSome = true := by
    rw [List.find?_isSome]
    exact ⟨key, List.mem_reverse.mpr member, decide_eq_true rfl⟩
  obtain ⟨found, isFound⟩ := Option.isSome_iff_exists.mp isSome
  have sameId : key.id = found.id := by
    simpa using List.find?_some isFound
  have isMember : found ∈ keys :=
    List.mem_reverse.mp (List.mem_of_find?_eq_some isFound)
  rw [isFound, List.inj_on_of_nodup_map distinct isMember member sameId.symm]

/-- A manager of copies signs and verifies as the keys do. -/
theorem restoresKeys_of_copies
    (distinct : (keys.map Key.id).Nodup)
    {copy : Key lc}
    {others : List (Key lc)}
    (areCopies : List.Forall₂ Key.IsCopy keys (copy :: others)) :
    RestoresKeys keys (.ofKeys copy (copy :: others)) := by
  have sameIds : keys.map Key.id = (copy :: others).map Key.id :=
    RelatedLists.map_eq_map (fun _ _ isCopy => isCopy.id.symm) areCopies
  constructor
  · cases areCopies with
    | cons isCopy rest =>
        exact ⟨_, rfl, isCopy⟩
  · intro key member
    obtain ⟨found, isFound, isCopy⟩ :=
      RelatedLists.exists_of_mem_left areCopies member
    rw [sameIds] at distinct
    refine ⟨found, ?_, isCopy⟩
    rw [← isCopy.id]
    exact verifyingKey_of_mem distinct isFound

end Copies

section Restart

variable {lc : AwsLc} {keys : List (Key lc)}

/-- Keys that are written as JSON Web Keys are saved as the JSON of these. -/
theorem savesAs_of_ofKey
    {json : JwksJson}
    {jwks : List Jwk}
    {content : Bytes}
    (areWritten : callEach Jwk.ofKey keys = .ok jwks)
    (isWritten : json.toVecPretty (Jwks.toValue jwks) = .ok content) :
    SavesAs json keys content := by
  intro disk path
  rw [CaptchaManager.saveJwtKeys, areWritten]
  change (orReport _ (json.toVecPretty (Jwks.toValue jwks)) >>=
    fun jwksJson => orReport _ (disk.write jwksJson)) = _
  rw [isWritten]
  rfl

/-- A start with a file that is there makes a manager of its keys. -/
theorem new_of_holds
    {json : JwksJson}
    {jwks : List Jwk}
    {content : Bytes}
    (isRead : json.fromSlice content = .ok (Jwks.toValue jwks))
    {disk : JwksDisk}
    (holds : disk.Holds content)
    {copy : Key lc}
    {others : List (Key lc)}
    (areRead : callEach captchaKey jwks = .ok (copy :: others))
    (keyId : Str)
    (entropy : Nat) :
    CaptchaManager.new (json.files disk) keyId entropy =
      .ok (.ofKeys copy (copy :: others)) := by
  have isParsed : (json.files disk).jwksFromSlice content = .ok jwks := by
    simp only [JwksJson.files, bind_eq_ok_iff, orError_eq_ok_iff]
    exact ⟨_, isRead, Jwks.fromValue_toValue jwks⟩
  simp only [CaptchaManager.new, bind_eq_ok_iff, orReport_eq_ok_iff]
  refine ⟨true, holds.present, ?_⟩
  simp only [CaptchaManager.ofFile, if_true, bind_eq_ok_iff,
    orReport_eq_ok_iff]
  exact ⟨content, holds.read, jwks, isParsed, _, areRead, rfl⟩

end Restart

/-- A manager with copies of the keys accepts the cookies made with them. -/
theorem acceptsEarlierCookies_of_restoresKeys
    {lib : CaptchaLibrary}
    (laws : lib.lc.Ed25519Laws)
    (readsObjects : lib.serde.ReadsWhatItWrites)
    {keys : List (Key lib.lc)}
    (areEd25519 : ∀ key ∈ keys, key.IsEd25519)
    (readsHeaders : ∀ key ∈ keys, lib.serde.ReadsHeader (captchaHeader key))
    {manager : CaptchaManager lib.lc}
    (restores : RestoresKeys keys manager) :
    AcceptsEarlierCookies lib keys manager := by
  intro key member clientId jti entropy verified others expiresAt expNow nbfNow
    now generated added expCurrent nbfCurrent
  obtain ⟨copy, isFound, isCopy⟩ := restores.verifyingKeys key member
  have readsHeader := readsHeaders key member
  obtain ⟨keypair, isKey⟩ := areEd25519 key member
  rw [isKey] at readsHeader isCopy generated
  obtain ⟨other, rfl, samePublic⟩ := exists_eq_of_isCopy isCopy
  exact validate_of_verifyingKey laws readsObjects readsHeader isFound
    samePublic.symm generated added expCurrent nbfCurrent

/--
The file that the keys are saved in is accepted by the next start.  Its manager
signs with the first key and finds each key by its id, and it accepts the
cookies that were made before.
-/
theorem sessionsSurviveRestart
    {lib : CaptchaLibrary}
    {json : JwksJson}
    (readsBack : json.ReadsBack)
    (laws : lib.lc.Ed25519Laws)
    (rebuilds : lib.lc.RebuildsKeyPairs)
    (readsObjects : lib.serde.ReadsWhatItWrites)
    {keys : List (Key lib.lc)}
    (areKeys : AreCaptchaKeys keys)
    (readsHeaders :
      ∀ key ∈ keys, lib.serde.ReadsHeader (captchaHeader key)) :
    ∃ content,
      SavesAs json keys content ∧
        ∀ disk : JwksDisk, disk.Holds content →
          ∀ keyId entropy, ∃ manager,
            CaptchaManager.new (json.files disk) keyId entropy =
                .ok manager ∧
              RestoresKeys keys manager ∧
                AcceptsEarlierCookies lib keys manager := by
  obtain ⟨jwks, copies, areWritten, areRead, areCopies⟩ :=
    exists_copies rebuilds areKeys.areEd25519 areKeys.notBlank
  obtain ⟨content, isWritten, isRead⟩ := readsBack jwks
  refine ⟨content, savesAs_of_ofKey areWritten isWritten, ?_⟩
  intro disk holds keyId entropy
  cases copies with
  | nil =>
      exact absurd (List.forall₂_nil_right_iff.mp areCopies) areKeys.notEmpty
  | cons copy others =>
      have restores := restoresKeys_of_copies areKeys.distinct areCopies
      exact ⟨_, new_of_holds isRead holds areRead keyId entropy, restores,
        acceptsEarlierCookies_of_restoresKeys laws readsObjects
          areKeys.areEd25519 readsHeaders restores⟩

section Sample

/-- The bytes as numbers. -/
def bytesCode (bytes : Bytes) : List Nat :=
  bytes.map UInt8.toNat

def bytesOfCode (code : List Nat) : Bytes :=
  code.map UInt8.ofNat

/-- What tells the keys of a file apart, in numbers. -/
abbrev JwkCode :=
  List Nat × Bool × Nat × Nat × List Nat × List Nat × Option (List Nat)

/-- The code of the cryptographic part: a kind, and the bytes. -/
def cryptoCode : JwkCrypto → Nat × List Nat × List Nat × Option (List Nat)
  | .okp .ed25519 x d =>
      (0, bytesCode x, [], d.map bytesCode)
  | .ec .p256 x y d =>
      (1, bytesCode x, bytesCode y, d.map bytesCode)
  | .ec .p521 x y d =>
      (2, bytesCode x, bytesCode y, d.map bytesCode)
  | .oct key =>
      (3, bytesCode key, [], none)

def cryptoOfCode :
    Nat × List Nat × List Nat × Option (List Nat) → JwkCrypto
  | (0, x, _, d) =>
      .okp .ed25519 (bytesOfCode x) (d.map bytesOfCode)
  | (1, x, y, d) =>
      .ec .p256 (bytesOfCode x) (bytesOfCode y) (d.map bytesOfCode)
  | (2, x, y, d) =>
      .ec .p521 (bytesOfCode x) (bytesOfCode y) (d.map bytesOfCode)
  | (_, key, _, _) =>
      .oct (bytesOfCode key)

/-- The code of a key. -/
def jwkCode (jwk : Jwk) : JwkCode :=
  (textCode jwk.kid, jwk.use = .sign, Algorithm.variants.idxOf jwk.algorithm,
    cryptoCode jwk.crypto)

def jwkOfCode : JwkCode → Jwk
  | (kid, isSign, algorithm, crypto) => {
      kid := textOfCode kid
      use := if isSign then .sign else .encrypt
      algorithm := Algorithm.variants[algorithm]?.getD .edDsa
      crypto := cryptoOfCode crypto
    }

theorem bytesOfCode_bytesCode (bytes : Bytes) :
    bytesOfCode (bytesCode bytes) = bytes := by
  simp [bytesOfCode, bytesCode, Function.comp_def]

theorem cryptoOfCode_cryptoCode (crypto : JwkCrypto) :
    cryptoOfCode (cryptoCode crypto) = crypto := by
  rcases crypto with ⟨⟨⟩, x, d⟩ | ⟨⟨⟩, x, y, d⟩ | key
  all_goals
    simp [cryptoCode, cryptoOfCode, bytesOfCode_bytesCode, Function.comp_def]

theorem jwkOfCode_jwkCode (jwk : Jwk) : jwkOfCode (jwkCode jwk) = jwk := by
  obtain ⟨kid, use, algorithm, crypto⟩ := jwk
  have sameAlgorithm :
      Algorithm.variants[Algorithm.variants.idxOf algorithm]?.getD .edDsa =
        algorithm := by
    cases algorithm <;> rfl
  simp only [jwkCode, jwkOfCode, textOfCode_textCode, cryptoOfCode_cryptoCode,
    sameAlgorithm]
  cases use <;> rfl

/-- JSON that writes the keys of a file as a number, in unary. -/
def numberJson : JwksJson where
  fromSlice content :=
    match (Encodable.decode content.length : Option (List JwkCode)) with
    | some codes => .ok (Jwks.toValue (codes.map jwkOfCode))
    | none => .error "expected value at line 1 column 1"
  toVecPretty value :=
    match Jwks.fromValue value with
    | some jwks =>
        .ok (List.replicate (Encodable.encode (jwks.map jwkCode)) 120)
    | none => .error "not written"
  mismatch _ :=
    "invalid type"

theorem numberJson_readsBack : numberJson.ReadsBack := by
  intro jwks
  refine ⟨List.replicate (Encodable.encode (jwks.map jwkCode)) 120, ?_, ?_⟩
  · simp only [numberJson, Jwks.fromValue_toValue]
  · simp [numberJson, Function.comp_def, jwkOfCode_jwkCode]

theorem twoKeyPairs_rebuildsKeyPairs : twoKeyPairs.RebuildsKeyPairs := by
  intro second
  cases second with
  | false =>
      exact ⟨ed25519Seed, false, rfl, rfl, rfl, rfl⟩
  | true =>
      exact ⟨otherSeed, true, rfl, rfl, rfl, rfl⟩

/-- The header that the second key signs. -/
def secondHeaderText : Str :=
  "\x7b\"typ\":\"JWT\",\"alg\":\"EdDSA\",\"kid\":\"k2\"\x7d".toList

/-- A library that writes and reads the headers of both keys. -/
def restartLibrary : CaptchaLibrary :=
  { twoKeyLibrary with
    serde := sampleTable.serde
      [(captchaHeader sampleSigningKey, sampleHeaderText),
        (captchaHeader (pairKey "k2".toList true), secondHeaderText)] }

/-- A key of one of the pairs. -/
def restartKey (kid : Str) (second : Bool) : Key restartLibrary.lc where
  id :=
    kid
  algorithm :=
    .edDsa
  crypto :=
    .eddsa .ed25519 second

/-- The keys of a manager, the second of which was added to the file. -/
def savedKeys : List (Key restartLibrary.lc) :=
  [restartKey "k1".toList false, restartKey "k2".toList true]

theorem forall_mem_savedKeys
    {property : Key restartLibrary.lc → Prop}
    (first : property (restartKey "k1".toList false))
    (second : property (restartKey "k2".toList true)) :
    ∀ key ∈ savedKeys, property key :=
  List.forall_mem_cons.mpr ⟨first, List.forall_mem_singleton.mpr second⟩

theorem areCaptchaKeys_savedKeys : AreCaptchaKeys savedKeys where
  notEmpty :=
    List.cons_ne_nil _ _
  areEd25519 :=
    forall_mem_savedKeys ⟨false, rfl⟩ ⟨true, rfl⟩
  distinct :=
    (by decide : ["k1".toList, "k2".toList].Nodup)
  notBlank :=
    forall_mem_savedKeys (by decide) (by decide)

/-- A restart with the two keys of the earlier start. -/
theorem sessionsSurviveRestart_sample :
    ∃ content,
      SavesAs numberJson savedKeys content ∧
        ∀ disk : JwksDisk, disk.Holds content →
          ∀ keyId entropy, ∃ manager,
            CaptchaManager.new (numberJson.files disk) keyId entropy =
                .ok manager ∧
              RestoresKeys savedKeys manager ∧
                AcceptsEarlierCookies restartLibrary savedKeys manager := by
  refine sessionsSurviveRestart numberJson_readsBack twoKeyPairs_laws
    twoKeyPairs_rebuildsKeyPairs (sampleTable.readsWhatItWrites _)
    areCaptchaKeys_savedKeys (forall_mem_savedKeys ?_ ?_)
  · exact ⟨sampleHeaderText, rfl, by decide⟩
  · exact ⟨secondHeaderText, rfl, by decide⟩

end Sample

end Pingoo
