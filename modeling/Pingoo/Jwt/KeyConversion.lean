import Pingoo.Jwt.TokenSound

namespace Pingoo.Jwt

/-!
# Keys and JSON Web Keys

A key that was read from a JSON Web Key is written back as one.  The two
conversions put the coordinates of an elliptic curve point in different orders,
and the last theorem says for which JSON Web Keys that makes a difference.
-/

open Fallible

variable {lc : AwsLc}

/--
What the library promises about its key pairs.  `point` gives the affine
coordinates of the public point of a private key and `fixedLength` the private
key in its form of fixed length.
-/
structure AwsLc.KeyPairLaws
    (lc : AwsLc)
    (point : EcCurve → Bytes → Option (Bytes × Bytes))
    (fixedLength : EcCurve → Bytes → Bytes) : Prop where
  ed25519 :
    ∀ {seed publicKey keypair},
      lc.ed25519FromSeedAndPublicKey seed publicKey = .ok keypair →
      lc.ed25519PublicKey keypair = publicKey ∧
        lc.ed25519Seed keypair = some seed
  ecdsaAccepts :
    ∀ {curve privateKey publicKey},
      (∃ keypair,
        lc.ecdsaFromPrivateKeyAndPublicKey curve privateKey publicKey =
          .ok keypair) ↔
      ∃ x y,
        point curve privateKey = some (x, y) ∧ publicKey = 0x04 :: (x ++ y)
  ecdsa :
    ∀ {curve privateKey publicKey keypair},
      lc.ecdsaFromPrivateKeyAndPublicKey curve privateKey publicKey =
        .ok keypair →
      lc.ecdsaPublicKey keypair = publicKey ∧
        lc.ecdsaPrivateKey keypair = some (fixedLength curve privateKey)
  coordinates :
    ∀ {curve privateKey x y},
      point curve privateKey = some (x, y) →
      x.length = Jwk.coordinateLength curve ∧
        y.length = Jwk.coordinateLength curve

/-- A JSON Web Key of an elliptic curve, with its private key. -/
structure Jwk.IsEc
    (jwk : Jwk)
    (curve : EcCurve)
    (x y d : Bytes) : Prop where
  algorithm : jwk.algorithm = .es256 ∨ jwk.algorithm = .es512
  crypto : jwk.crypto = .ec curve x y (some d)

/--
The conversions are inverse on a JSON Web Key: what is accepted is written back
and accepted again, and a key with the point of its private key is accepted.
-/
structure Jwk.RoundTrips
    (lc : AwsLc)
    (point : EcCurve → Bytes → Option (Bytes × Bytes))
    (jwk : Jwk) : Prop where
  back :
    ∀ key : Key lc, Key.tryFrom jwk = .ok key →
      ∃ back,
        Jwk.ofKey key = .ok back ∧
        back.kid = jwk.kid ∧
        back.algorithm = jwk.algorithm ∧
        back.crypto = jwk.crypto ∧
        Key.tryFrom back = .ok key
  accepted :
    ∀ {curve x y d},
      jwk.IsEc curve x y d →
      point curve d = some (x, y) →
      ∃ key : Key lc, Key.tryFrom jwk = .ok key

/--
Where the order of the coordinates makes no difference: neither order is the
point of the private key, or the coordinates are equal and the private key has
the fixed length.
-/
def Jwk.OrderIrrelevant
    (point : EcCurve → Bytes → Option (Bytes × Bytes))
    (fixedLength : EcCurve → Bytes → Bytes)
    (jwk : Jwk) : Prop :=
  ∀ {curve x y d pointX pointY},
    jwk.IsEc curve x y d →
    point curve d = some (pointX, pointY) →
    (y ++ x ≠ pointX ++ pointY ∧ (x, y) ≠ (pointX, pointY)) ∨
      ((x, y) = (pointX, pointY) ∧ x = y ∧ fixedLength curve d = d)

section Conversions

theorem orInvalidJwk_eq_ok_iff
    {α : Type}
    {jwk : Jwk}
    {call : Except Str α}
    {value : α} :
    Key.orInvalidJwk jwk call = .ok value ↔ call = .ok value := by
  cases call <;> simp [Key.orInvalidJwk]

theorem privateKey_eq_ok_iff
    {jwk : Jwk}
    {d : Option Bytes}
    {secret : Bytes} :
    Key.privateKey jwk d = .ok secret ↔ d = some secret := by
  cases d <;> simp [Key.privateKey]

/-- The use of a JSON Web Key does not matter for the key. -/
theorem tryFrom_use (jwk : Jwk) (use : KeyUse) :
    (Key.tryFrom { jwk with use := use } : Outcome (Key lc)) =
      Key.tryFrom jwk :=
  rfl

theorem tryFromEc_eq_ok_iff
    {jwk : Jwk}
    {curve : EcCurve}
    {x y d : Bytes}
    {key : Key lc} :
    Key.tryFromEc jwk curve x y (some d) = .ok key ↔
      ∃ keypair,
        lc.ecdsaFromPrivateKeyAndPublicKey curve d (Key.ecPublicKey x y) =
          .ok keypair ∧
        key = ⟨jwk.kid, jwk.algorithm, .ecdsa curve keypair⟩ := by
  simp only [Key.tryFromEc, bind_eq_ok_iff, privateKey_eq_ok_iff,
    orInvalidJwk_eq_ok_iff, Option.some.injEq, Except.ok.injEq,
    exists_eq_left', eq_comm (a := key)]

/-- An elliptic curve key is read by one function for both algorithms. -/
theorem tryFrom_of_isEc
    {jwk : Jwk}
    {curve : EcCurve}
    {x y d : Bytes}
    (isEc : jwk.IsEc curve x y d) :
    (Key.tryFrom jwk : Outcome (Key lc)) =
      Key.tryFromEc jwk curve x y (some d) := by
  obtain ⟨kid, use, algorithm, crypto⟩ := jwk
  obtain ⟨algorithm, crypto⟩ := isEc
  dsimp only at algorithm crypto
  subst crypto
  rcases algorithm with rfl | rfl
  · rfl
  · rfl

/-- The keys that are accepted, one case for each kind. -/
theorem tryFrom_cases
    {jwk : Jwk}
    {key : Key lc}
    (accepted : Key.tryFrom jwk = .ok key) :
    (∃ secret,
      jwk.crypto = .oct secret ∧
      key = ⟨jwk.kid, jwk.algorithm, .hmac .sha512 secret⟩) ∨
    (∃ x seed keypair,
      jwk.algorithm = .edDsa ∧
      jwk.crypto = .okp .ed25519 x (some seed) ∧
      lc.ed25519FromSeedAndPublicKey seed x = .ok keypair ∧
      key = ⟨jwk.kid, .edDsa, .eddsa .ed25519 keypair⟩) ∨
    ∃ curve x y d, jwk.IsEc curve x y d := by
  obtain ⟨kid, use, algorithm, crypto⟩ := jwk
  simp only [Key.tryFrom] at accepted
  split at accepted
  · next secret =>
      cases accepted
      exact Or.inl ⟨secret, rfl, rfl⟩
  · next x d =>
      simp only [bind_eq_ok_iff, privateKey_eq_ok_iff,
        orInvalidJwk_eq_ok_iff, Except.ok.injEq] at accepted
      obtain ⟨seed, rfl, keypair, built, rfl⟩ := accepted
      exact Or.inr (Or.inl ⟨x, seed, keypair, rfl, rfl, built, rfl⟩)
  · next curve x y d =>
      simp only [Key.tryFromEc, bind_eq_ok_iff, privateKey_eq_ok_iff]
        at accepted
      obtain ⟨secret, rfl, _⟩ := accepted
      exact Or.inr (Or.inr ⟨curve, x, y, secret, Or.inl rfl, rfl⟩)
  · next curve x y d =>
      simp only [Key.tryFromEc, bind_eq_ok_iff, privateKey_eq_ok_iff]
        at accepted
      obtain ⟨secret, rfl, _⟩ := accepted
      exact Or.inr (Or.inr ⟨curve, x, y, secret, Or.inr rfl, rfl⟩)
  · cases accepted

/-- A public key of full length is split into its two coordinates. -/
theorem ofKey_ecdsa
    {id : Str}
    {algorithm : Algorithm}
    {curve : EcCurve}
    {keypair : lc.EcdsaKeyPair curve}
    {x y d : Bytes}
    (publicKey : lc.ecdsaPublicKey keypair = 0x04 :: (x ++ y))
    (privateKey : lc.ecdsaPrivateKey keypair = some d)
    (xLength : x.length = Jwk.coordinateLength curve)
    (yLength : y.length = Jwk.coordinateLength curve) :
    Jwk.ofKey ⟨id, algorithm, .ecdsa curve keypair⟩ =
      .ok ⟨id, .sign, algorithm, .ec curve x y (some d)⟩ := by
  have fullLength :
      (0x04 :: (x ++ y)).length = Jwk.uncompressedLength curve := by
    rw [List.length_cons, List.length_append, xLength, yLength]
    cases curve <;> rfl
  have coordinates :
      Jwk.splitAt (x ++ y) (Jwk.coordinateLength curve) = .ok (x, y) := by
    rw [← xLength, Jwk.splitAt, if_pos (by simp), List.take_left,
      List.drop_left]
  simp only [Jwk.ofKey, publicKey, if_pos fullLength, privateKey,
    List.drop_succ_cons, List.drop_zero, coordinates]
  rfl

end Conversions

section RoundTrip

variable {point : EcCurve → Bytes → Option (Bytes × Bytes)}
variable {fixedLength : EcCurve → Bytes → Bytes}

/--
An elliptic curve key is accepted when the point of its private key is `y`
followed by `x`, and is written back with the coordinates of the point.
-/
theorem tryFrom_ec_eq_ok
    (laws : lc.KeyPairLaws point fixedLength)
    {jwk : Jwk}
    {curve : EcCurve}
    {x y d pointX pointY : Bytes}
    (isEc : jwk.IsEc curve x y d)
    (isPoint : point curve d = some (pointX, pointY))
    {key : Key lc}
    (accepted : Key.tryFrom jwk = .ok key) :
    y ++ x = pointX ++ pointY ∧
      Jwk.ofKey key = .ok ⟨jwk.kid, .sign, jwk.algorithm,
        .ec curve pointX pointY (some (fixedLength curve d))⟩ := by
  rw [tryFrom_of_isEc isEc, tryFromEc_eq_ok_iff] at accepted
  obtain ⟨keypair, built, rfl⟩ := accepted
  obtain ⟨_, _, samePoint, publicBytes⟩ :=
    laws.ecdsaAccepts.mp ⟨keypair, built⟩
  obtain ⟨rfl, rfl⟩ :=
    Prod.mk.inj (Option.some.inj (isPoint.symm.trans samePoint))
  obtain ⟨publicKey, privateKey⟩ := laws.ecdsa built
  obtain ⟨xLength, yLength⟩ := laws.coordinates isPoint
  exact ⟨(List.cons.inj publicBytes).2,
    ofKey_ecdsa (publicKey.trans publicBytes) privateKey xLength yLength⟩

/-- The public bytes that are put together decide what is accepted. -/
theorem tryFrom_ec_accepts
    (laws : lc.KeyPairLaws point fixedLength)
    {jwk : Jwk}
    {curve : EcCurve}
    {x y d pointX pointY : Bytes}
    (isEc : jwk.IsEc curve x y d)
    (isPoint : point curve d = some (pointX, pointY))
    (swapped : y ++ x = pointX ++ pointY) :
    ∃ key : Key lc, Key.tryFrom jwk = .ok key := by
  obtain ⟨keypair, built⟩ := laws.ecdsaAccepts.mpr
    ⟨pointX, pointY, isPoint, congrArg (0x04 :: ·) swapped⟩
  exact ⟨_, (tryFrom_of_isEc isEc).trans
    (tryFromEc_eq_ok_iff.mpr ⟨keypair, built, rfl⟩)⟩

/-- A key that round trips either is not accepted, or keeps its coordinates. -/
theorem orderIrrelevant_of_roundTrips
    (laws : lc.KeyPairLaws point fixedLength)
    {jwk : Jwk}
    (roundTrips : jwk.RoundTrips lc point) :
    jwk.OrderIrrelevant point fixedLength := by
  intro curve x y d pointX pointY isEc isPoint
  by_cases swapped : y ++ x = pointX ++ pointY
  · right
    obtain ⟨key, accepted⟩ := tryFrom_ec_accepts laws isEc isPoint swapped
    obtain ⟨back, written, _, _, sameCrypto, _⟩ :=
      roundTrips.back key accepted
    obtain ⟨_, expected⟩ := tryFrom_ec_eq_ok laws isEc isPoint accepted
    cases expected.symm.trans written
    rw [isEc.crypto] at sameCrypto
    injection sameCrypto with _ sameX sameY sameD
    subst sameX sameY
    obtain ⟨xLength, yLength⟩ := laws.coordinates isPoint
    have sameCoordinate :=
      (List.append_inj swapped (yLength.trans xLength.symm)).2
    exact ⟨rfl, sameCoordinate, Option.some.inj sameD⟩
  · left
    refine ⟨swapped, fun samePoint => ?_⟩
    obtain ⟨rfl, rfl⟩ := Prod.mk.inj samePoint
    obtain ⟨key, accepted⟩ := roundTrips.accepted isEc isPoint
    exact swapped (tryFrom_ec_eq_ok laws isEc isPoint accepted).1

/-- What is accepted is written back when the order is irrelevant. -/
theorem back_of_orderIrrelevant
    (laws : lc.KeyPairLaws point fixedLength)
    {jwk : Jwk}
    (irrelevant : jwk.OrderIrrelevant point fixedLength)
    (key : Key lc)
    (accepted : Key.tryFrom jwk = .ok key) :
    Jwk.ofKey key = .ok { jwk with use := .sign } := by
  obtain ⟨kid, use, algorithm, crypto⟩ := jwk
  rcases tryFrom_cases accepted with
    ⟨secret, rfl, rfl⟩ | ⟨x, seed, keypair, rfl, rfl, built, rfl⟩ |
      ⟨curve, x, y, d, isEc⟩
  · rfl
  · obtain ⟨publicKey, secretSeed⟩ := laws.ed25519 built
    simp only [Jwk.ofKey, publicKey, secretSeed]
    rfl
  · have readAsEc := accepted
    rw [tryFrom_of_isEc isEc, tryFromEc_eq_ok_iff] at readAsEc
    obtain ⟨keypair, built, rfl⟩ := readAsEc
    obtain ⟨pointX, pointY, isPoint, _⟩ :=
      laws.ecdsaAccepts.mp ⟨keypair, built⟩
    obtain ⟨swapped, written⟩ := tryFrom_ec_eq_ok laws isEc isPoint accepted
    rcases irrelevant isEc isPoint with ⟨neither, _⟩ | ⟨samePoint, _, fixed⟩
    · exact absurd swapped neither
    · obtain ⟨rfl, rfl⟩ := Prod.mk.inj samePoint
      rw [written, fixed, ← isEc.crypto]

/-- The conversions are inverse exactly where the order is irrelevant. -/
theorem roundTrips_iff_orderIrrelevant
    (laws : lc.KeyPairLaws point fixedLength)
    (jwk : Jwk) :
    jwk.RoundTrips lc point ↔ jwk.OrderIrrelevant point fixedLength := by
  constructor
  · exact fun roundTrips => orderIrrelevant_of_roundTrips laws roundTrips
  · intro irrelevant
    refine {
      back := fun key accepted => ⟨{ jwk with use := .sign },
        back_of_orderIrrelevant laws irrelevant key accepted, rfl, rfl, rfl,
        (tryFrom_use jwk .sign).trans accepted⟩
      accepted := fun isEc isPoint => ?_
    }
    rcases irrelevant isEc isPoint with ⟨_, different⟩ | ⟨_, same, _⟩
    · exact absurd rfl different
    · exact tryFrom_ec_accepts laws isEc isPoint (by rw [same])

end RoundTrip

section Sample

/-- The `x` coordinate of the base point of P-256. -/
def p256BaseX : Bytes :=
  [
    107, 23, 209, 242, 225, 44, 66, 71, 248, 188, 230, 229, 99, 164, 64, 242,
    119, 3, 125, 129, 45, 235, 51, 160, 244, 161, 57, 69, 216, 152, 194, 150
  ]

/-- The `y` coordinate of the base point of P-256. -/
def p256BaseY : Bytes :=
  [
    79, 227, 66, 226, 254, 26, 127, 155, 142, 231, 235, 74, 124, 15, 158, 22,
    43, 206, 51, 87, 107, 49, 94, 206, 203, 182, 64, 104, 55, 191, 81, 245
  ]

/-- The private key one, whose public point is the base point. -/
def p256One : Bytes :=
  List.replicate 31 0 ++ [1]

/-- The seed of the first test vector of Ed25519. -/
def ed25519Seed : Bytes :=
  [
    157, 97, 177, 157, 239, 253, 90, 96, 186, 132, 74, 244, 146, 236, 44, 196,
    68, 73, 197, 105, 123, 50, 105, 25, 112, 59, 172, 3, 28, 174, 127, 96
  ]

/-- The public key of the first test vector of Ed25519. -/
def ed25519PublicKey : Bytes :=
  [
    215, 90, 152, 1, 130, 177, 10, 183, 213, 75, 254, 211, 201, 100, 7, 58,
    14, 225, 114, 243, 218, 166, 35, 37, 175, 2, 26, 104, 247, 7, 81, 26
  ]

/-- The public point of the private key one of P-256. -/
def samplePoint (curve : EcCurve) (privateKey : Bytes) :
    Option (Bytes × Bytes) :=
  if curve = .p256 ∧ privateKey = p256One then
    some (p256BaseX, p256BaseY)
  else
    none

/-- A library that knows one key pair of each of two kinds. -/
def sampleKeyPairs : AwsLc where
  Ed25519KeyPair :=
    Unit
  EcdsaKeyPair :=
    fun _ => Unit
  ParsedPublicKey :=
    Empty
  ed25519Generate :=
    fun _ => .ok ()
  ed25519FromSeedAndPublicKey :=
    fun seed publicKey =>
      if seed = ed25519Seed ∧ publicKey = ed25519PublicKey then
        .ok ()
      else
        .error "InconsistentComponents".toList
  ed25519PublicKey :=
    fun _ => ed25519PublicKey
  ed25519Seed :=
    fun _ => some ed25519Seed
  ed25519Sign :=
    fun _ _ => []
  ecdsaFromPrivateKeyAndPublicKey :=
    fun curve privateKey publicKey =>
      if samplePoint curve privateKey = some (p256BaseX, p256BaseY) ∧
          publicKey = 0x04 :: (p256BaseX ++ p256BaseY) then
        .ok ()
      else
        .error "InconsistentComponents".toList
  ecdsaPublicKey :=
    fun _ => 0x04 :: (p256BaseX ++ p256BaseY)
  ecdsaPrivateKey :=
    fun _ => some p256One
  ecdsaSign :=
    fun _ _ _ => .error []
  parsePublicKey :=
    fun _ _ => none
  verifySig :=
    Empty.elim
  hmacSign :=
    fun _ _ _ => []

theorem sampleKeyPairs_laws :
    sampleKeyPairs.KeyPairLaws samplePoint (fun _ privateKey => privateKey) where
  ed25519 := by
    intro seed publicKey keypair built
    simp only [sampleKeyPairs] at built
    split at built
    · next known =>
        exact ⟨known.2.symm, congrArg some known.1.symm⟩
    · cases built
  ecdsaAccepts := by
    intro curve privateKey publicKey
    simp only [sampleKeyPairs]
    constructor
    · rintro ⟨keypair, built⟩
      split at built
      · next known =>
          exact ⟨p256BaseX, p256BaseY, known⟩
      · cases built
    · rintro ⟨x, y, isPoint, publicBytes⟩
      have known := isPoint
      simp only [samplePoint] at known
      split at known
      · cases known
        exact ⟨(), if_pos ⟨isPoint, publicBytes⟩⟩
      · cases known
  ecdsa := by
    intro curve privateKey publicKey keypair built
    simp only [sampleKeyPairs] at built
    split at built
    · next known =>
        obtain ⟨isPoint, publicBytes⟩ := known
        simp only [samplePoint] at isPoint
        split at isPoint
        · next isOne =>
            exact ⟨publicBytes.symm, congrArg some isOne.2.symm⟩
        · cases isPoint
    · cases built
  coordinates := by
    intro curve privateKey x y isPoint
    simp only [samplePoint] at isPoint
    split at isPoint
    · next isOne =>
        cases isPoint
        rw [isOne.1]
        exact ⟨rfl, rfl⟩
    · cases isPoint

def sampleOkpJwk : Jwk where
  kid :=
    "okp".toList
  use :=
    .encrypt
  algorithm :=
    .edDsa
  crypto :=
    .okp .ed25519 ed25519PublicKey (some ed25519Seed)

theorem roundTrips_iff_orderIrrelevant_sample :
    sampleOkpJwk.RoundTrips sampleKeyPairs samplePoint :=
  (roundTrips_iff_orderIrrelevant sampleKeyPairs_laws sampleOkpJwk).mpr
    fun isEc _ => absurd isEc.crypto nofun

def sampleEcJwk : Jwk where
  kid :=
    "ec".toList
  use :=
    .sign
  algorithm :=
    .es256
  crypto :=
    .ec .p256 p256BaseX p256BaseY (some p256One)

/-- A correct key of P-256 is refused. -/
theorem not_roundTrips_p256 :
    sampleKeyPairs.KeyPairLaws samplePoint (fun _ privateKey => privateKey) ∧
    (Key.tryFrom sampleEcJwk : Outcome (Key sampleKeyPairs)) =
      .error (.error (.invalidJwk "ec".toList
        "InconsistentComponents".toList)) ∧
    ¬ sampleEcJwk.RoundTrips sampleKeyPairs samplePoint := by
  have refused :
      (Key.tryFrom sampleEcJwk : Outcome (Key sampleKeyPairs)) =
        .error (.error (.invalidJwk "ec".toList
          "InconsistentComponents".toList)) := by
    rfl
  refine ⟨sampleKeyPairs_laws, refused, fun roundTrips => ?_⟩
  obtain ⟨key, accepted⟩ :=
    roundTrips.accepted (d := p256One) ⟨Or.inl rfl, rfl⟩ rfl
  cases refused.symm.trans accepted

end Sample

end Pingoo.Jwt
