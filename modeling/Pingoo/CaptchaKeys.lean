import Pingoo.Captcha
import Pingoo.Config
import Pingoo.Jwt.KeyConversion
import Pingoo.Library.KeyedFold

namespace Pingoo

/-!
# The keys of the captcha manager

The manager reads its keys from a file, or makes one and saves it.  The first
key of the file signs; a key that verifies is found by its id, and of several
keys with one id it is the last.
-/

open Fallible Jwt KeyedFold

/-- How an algorithm is printed for a developer. -/
def Jwt.Algorithm.debug : Algorithm → String
  | .hs512 =>
      "HS512"
  | .edDsa =>
      "EdDSA"
  | .es256 =>
      "ES256"
  | .es512 =>
      "ES512"

/-- `CAPTCHA_JWKS_PATH`. -/
def captchaJwksPath : String :=
  "/etc/pingoo/captcha_jwks.json"

/--
What the manager asks of the file system and of `serde_json`; each of it may
fail.
-/
structure CaptchaFiles where
  tryExists : Except String Bool
  read : Except String Bytes
  jwksFromSlice : Bytes → Except String (List Jwk)
  jwksToVecPretty : List Jwk → Except String Bytes
  write : Bytes → Except String Unit

/-- A step of making the manager: it may report an error, or panic. -/
abbrev CaptchaStart (α : Type) := Except (Failure Pingoo.Error) α

/-- What fails is reported as an error of the proxy. -/
def orReport
    {α : Type}
    (report : String → Pingoo.Error)
    (call : Except String α) : CaptchaStart α :=
  attempt (call.mapError report)

/-- The report of a key without its private part. -/
def privateKeyIsMissing (jwk : Jwk) : CaptchaStart Unit :=
  .error (.error (.unspecified
    s!"captcha: Private key is missing for key {String.ofList jwk.kid}"))

/-- `validate_jwk`. -/
def validateJwk (jwk : Jwk) : CaptchaStart Unit :=
  if jwk.kid.trim = [] then
    .error (.error (.unspecified "JWK key ID is empty"))
  else if jwk.algorithm ≠ .edDsa then
    .error (.error (.unspecified
      (s!"captcha: JWT algorithm {jwk.algorithm.debug} not suported for key " ++
        s!"{String.ofList jwk.kid}. Only {Algorithm.edDsa.debug} is " ++
        "currently supported.")))
  else
    match jwk.crypto with
    | .okp _ _ d =>
        if d.isNone then privateKeyIsMissing jwk else .ok ()
    | .ec _ _ _ d =>
        if d.isNone then privateKeyIsMissing jwk else .ok ()
    | .oct key =>
        if key.length < 32 then
          .error (.error (.unspecified
            s!"captcha: key is too short for key {String.ofList jwk.kid}"))
        else
          .ok ()

section

variable {lc : AwsLc}

/-- A key of the file, validated and converted. -/
def captchaKey (jwk : Jwk) : CaptchaStart (Key lc) := do
  let () ← validateJwk jwk
  mapErr (fun err => .unspecified (String.ofList err.toStr)) (Key.tryFrom jwk)

namespace CaptchaManager

/-- The keys by their ids, entered one after the other. -/
def keysById (keys : List (Key lc)) : AList fun _ : Str => Key lc :=
  keys.foldl (enter fun key => [key.id]) ∅

/-- A manager that signs with one key and verifies with several. -/
def ofKeys (signingKey : Key lc) (keys : List (Key lc)) :
    CaptchaManager lc where
  signingKey :=
    signingKey
  verifyingKeys :=
    (keysById keys).entries.map fun entry => (entry.1, entry.2)
  distinct := by
    rw [List.map_map]
    exact (keysById keys).nodupKeys

variable (files : CaptchaFiles)

/-- The manager for the keys in the file. -/
def ofFile : CaptchaStart (CaptchaManager lc) := do
  let content ← orReport
    (fun err => .config s!"error reading captcha JWKS file: {err}") files.read
  let jwks ← orReport
    (fun err => .config s!"error parsing captcha JWKS file: {err}")
    (files.jwksFromSlice content)
  let keys ← callEach captchaKey jwks
  match keys with
  | [] => .error (.error (.config "captcha JWKS file is empty"))
  | signingKey :: _ => .ok (ofKeys signingKey keys)

/-- `save_jwt_keys`. -/
def saveJwtKeys (keys : List (Key lc)) (path : String) : CaptchaStart Unit := do
  let jwks ← mapErr (fun err => .unspecified (String.ofList err.toStr))
    (callEach Jwk.ofKey keys)
  let jwksJson ← orReport
    (fun err => .unspecified s!"error converting JWKS to JSON: {err}")
    (files.jwksToVecPretty jwks)
  orReport (fun err => .config s!"error writing JWKS file {path}: {err}")
    (files.write jwksJson)

/-- The manager with a new key, which is saved. -/
def ofNewKey (keyId : Str) (entropy : Nat) :
    CaptchaStart (CaptchaManager lc) := do
  let signingKey ← mapErr
    (fun err => .unspecified
      ("captcha: error generating captcha JWT signing key: " ++
        String.ofList err.toStr))
    (Key.generateEd25519 keyId entropy)
  let () ← saveJwtKeys files [signingKey] captchaJwksPath
  .ok (ofKeys signingKey [signingKey])

/-- `CaptchaManager::new`; `keyId` and `entropy` are for a new key. -/
def new (keyId : Str) (entropy : Nat) : CaptchaStart (CaptchaManager lc) := do
  let fileExists ← orReport
    (fun err => .config s!"error reading captcha JWKS file: {err}")
    files.tryExists
  if fileExists then
    ofFile files
  else
    ofNewKey files keyId entropy

end CaptchaManager

/-- The public key of an Ed25519 key of the file. -/
def publicKeyOf (jwk : Jwk) : Option Bytes :=
  match jwk.crypto with
  | .okp _ x _ => some x
  | _ => none

theorem orReport_eq_ok_iff
    {α : Type}
    {report : String → Pingoo.Error}
    {call : Except String α}
    {value : α} :
    orReport report call = .ok value ↔ call = .ok value := by
  cases call <;> simp [orReport, attempt, Except.mapError]

/-- What is read of a key that is accepted: it is an Ed25519 key pair. -/
structure IsReadFrom (lc : AwsLc) (jwk : Jwk) (key : Key lc) : Prop where
  id : key.id = jwk.kid
  keypair :
    ∃ x seed keypair,
      publicKeyOf jwk = some x ∧
      lc.ed25519FromSeedAndPublicKey seed x = .ok keypair ∧
      key = ⟨jwk.kid, .edDsa, .eddsa .ed25519 keypair⟩

theorem algorithm_of_validateJwk
    {jwk : Jwk}
    (valid : validateJwk jwk = .ok ()) : jwk.algorithm = .edDsa := by
  unfold validateJwk at valid
  split at valid
  · cases valid
  · split at valid
    · cases valid
    · next supported =>
        exact not_not.mp supported

/-- A key that is accepted is an Ed25519 key pair with the id of the file. -/
theorem isReadFrom_of_captchaKey
    {jwk : Jwk}
    {key : Key lc}
    (accepted : captchaKey jwk = .ok key) : IsReadFrom lc jwk key := by
  simp only [captchaKey, bind_eq_ok_iff, mapErr_eq_ok_iff] at accepted
  obtain ⟨_, valid, converted⟩ := accepted
  have algorithm := algorithm_of_validateJwk valid
  obtain ⟨kid, use, alg, crypto⟩ := jwk
  dsimp only at algorithm
  subst algorithm
  cases crypto with
  | okp curve x d =>
      cases curve
      simp only [Key.tryFrom, bind_eq_ok_iff, privateKey_eq_ok_iff,
        orInvalidJwk_eq_ok_iff, Except.ok.injEq] at converted
      obtain ⟨seed, _, keypair, built, rfl⟩ := converted
      exact ⟨rfl, x, seed, keypair, rfl, built, rfl⟩
  | ec curve x y d =>
      cases converted
  | oct key =>
      cases converted

/-- A verifying key is the last one that has the id. -/
theorem verifyingKey_ofKeys
    (signingKey : Key lc)
    (keys : List (Key lc))
    (kid : Str) :
    (CaptchaManager.ofKeys signingKey keys).verifyingKey kid =
      keys.reverse.find? fun key => decide (kid = key.id) := by
  have entered := lookup_foldl_enter (fun key : Key lc => [key.id]) keys kid
  simp only [List.mem_singleton] at entered
  rw [← entered]
  have found := List.map_dlookup_eq_find kid
    (CaptchaManager.keysById keys).entries
  have lookup :
      (keys.foldl (enter fun key => [key.id]) ∅).lookup kid =
        ((CaptchaManager.keysById keys).entries.find? fun entry =>
          kid = entry.1).map Sigma.snd := by
    rw [← found, Option.map_map]
    exact Option.map_id'.symm
  rw [lookup]
  simp only [CaptchaManager.verifyingKey, CaptchaManager.ofKeys,
    List.find?_map, Option.map_map, Function.comp_def, eq_comm]

end

end Pingoo
