import Pingoo.Jwt.TokenAccepted

namespace Pingoo.Jwt

/-!
# When a token is valid

The times of a token are whole seconds.  `checkNbf` and `checkExp` compare them
with the clock, shifted by the allowed drift and rounded down to a second.  For
the first time this rounding changes nothing; for the expiration time it admits
one second too many, the one that begins when the token has expired.
-/

open Fallible

variable {lc : AwsLc} {Claims : Type}
variable {serde : SerdeJson} {serdeClaims : SerdeClaims Claims}

/-- The reading of the clock at the time of a claim. -/
def atTime (seconds : Int64) : Int :=
  seconds.toInt * nanosPerSec

/--
The window of a token: from its first time less the drift to its expiration time
plus the drift, this end excluded.
-/
structure InWindow
    (exp nbf : Int64)
    (drift : Nat)
    (now : Int) : Prop where
  begun : atTime nbf - drift ≤ now
  notExpired : now < atTime exp + drift

/-- The window has just ended: the token expired less than a second ago. -/
structure JustExpired
    (exp nbf : Int64)
    (drift : Nat)
    (now : Int) : Prop where
  begun : atTime nbf - drift ≤ now
  expired : atTime exp + drift ≤ now
  lessThanASecondAgo : now < atTime exp + drift + nanosPerSec

/-- Both checks of the times pass. -/
structure TimesPass
    (options : ValidateOptions)
    (now : Int)
    (members : List (Str × Json)) : Prop where
  exp : checkExp options now members = .ok ()
  nbf : checkNbf options now members = .ok ()

/-- What is required of the claims besides their times. -/
structure OthersPass
    (serdeClaims : SerdeClaims Claims)
    (options : ValidateOptions)
    (members : List (Str × Json)) : Prop where
  aud : IsMember "aud".toList options.aud members
  iss : IsMember "iss".toList options.iss members
  typed : (serdeClaims.fromValue (.object members)).isSome = true

/--
A correctly signed token: its signature is one the key accepts, its header names
the algorithm of the key and its claims are an object.
-/
structure IsSigned
    (serde : SerdeJson)
    (key : Key lc)
    (token : Str)
    (header : Header)
    (members : List (Str × Json)) : Prop where
  made :
    ∃ headerJson claimsJson signature,
      token = tokenOf headerJson claimsJson signature ∧
      signature.length ≤ signatureMaxSize ∧
      key.Accepts (Str.asBytes (signedPart (urlSafe.encode headerJson)
        (urlSafe.encode claimsJson))) signature ∧
      serde.headerFromSlice headerJson = some header ∧
      serde.valueFromSlice claimsJson = some (.object members)
  algorithm : header.alg = key.algorithm

/-- The claims have both times, as 64-bit integers. -/
structure HasTimes
    (members : List (Str × Json))
    (exp nbf : Int64) : Prop where
  exp :
    ∃ value,
      Json.lookup members "exp".toList = some value ∧
      value.asI64 = some exp.toInt
  nbf :
    ∃ value,
      Json.lookup members "nbf".toList = some value ∧
      value.asI64 = some nbf.toInt

section Checks

variable {options : ValidateOptions} {now : Int}
variable {members : List (Str × Json)} {exp nbf : Int64}

/-- The expiration time is compared with the end of its second. -/
theorem checkExp_eq_ok_iff
    (times : HasTimes members exp nbf)
    (enabled : options.exp = true)
    (fits : (Utc.sub now options.allowedTimeDrift).isSome = true) :
    checkExp options now members = .ok () ↔
      now < atTime exp + options.allowedTimeDrift + nanosPerSec := by
  obtain ⟨value, found, isNumber⟩ := times.exp
  obtain ⟨limit, shifted⟩ := Option.isSome_iff_exists.mp fits
  obtain ⟨rfl, -⟩ := Utc.sub_eq_some_iff.mp shifted
  have sameSecond :
      Utc.timestamp (now - options.allowedTimeDrift) ≤ exp.toInt ↔
        now < atTime exp + options.allowedTimeDrift + nanosPerSec := by
    simp only [Utc.timestamp, atTime, nanosPerSec]
    omega
  rw [← sameSecond]
  simp only [checkExp, if_pos enabled, found, isNumber, shifted,
    bind_eq_ok_iff, expect_eq_ok_iff, Option.some.injEq, exists_eq_left']
  split
  · next expired =>
      exact iff_of_false (by rintro ⟨⟩) (not_le.mpr expired)
  · next notExpired =>
      exact iff_of_true rfl (not_lt.mp notExpired)

/-- The first time is compared exactly. -/
theorem checkNbf_eq_ok_iff
    (times : HasTimes members exp nbf)
    (enabled : options.nbf = true)
    (fits : (Utc.add now options.allowedTimeDrift).isSome = true) :
    checkNbf options now members = .ok () ↔
      atTime nbf - options.allowedTimeDrift ≤ now := by
  obtain ⟨value, found, isNumber⟩ := times.nbf
  obtain ⟨limit, shifted⟩ := Option.isSome_iff_exists.mp fits
  obtain ⟨rfl, -⟩ := Utc.add_eq_some_iff.mp shifted
  have sameSecond :
      nbf.toInt ≤ Utc.timestamp (now + options.allowedTimeDrift) ↔
        atTime nbf - options.allowedTimeDrift ≤ now := by
    simp only [Utc.timestamp, atTime, nanosPerSec]
    omega
  rw [← sameSecond]
  simp only [checkNbf, if_pos enabled, found, isNumber, shifted,
    bind_eq_ok_iff, expect_eq_ok_iff, Option.some.injEq, exists_eq_left']
  split
  · next early =>
      exact iff_of_false (by rintro ⟨⟩) (not_le.mpr early)
  · next begun =>
      exact iff_of_true rfl (not_lt.mp begun)

/-- What the checks of the times admit: the window and one second more. -/
theorem timesPass_iff
    (times : HasTimes members exp nbf)
    (checksExp : options.exp = true)
    (checksNbf : options.nbf = true)
    (fits : DriftFits options now now) :
    TimesPass options now members ↔
      InWindow exp nbf options.allowedTimeDrift now ∨
        JustExpired exp nbf options.allowedTimeDrift now := by
  have onExp := checkExp_eq_ok_iff times checksExp (fits.exp checksExp)
  have onNbf := checkNbf_eq_ok_iff times checksNbf (fits.nbf checksNbf)
  constructor
  · intro pass
    have beforeEnd := onExp.mp pass.exp
    have begun := onNbf.mp pass.nbf
    rcases lt_or_ge now (atTime exp + options.allowedTimeDrift) with
      notExpired | expired
    · exact Or.inl ⟨begun, notExpired⟩
    · exact Or.inr ⟨begun, expired, beforeEnd⟩
  · rintro (inWindow | justExpired)
    · have positive : (0 : Int) < nanosPerSec := by
        decide
      have notExpired := inWindow.notExpired
      exact ⟨onExp.mpr (by omega), onNbf.mpr inWindow.begun⟩
    · exact ⟨onExp.mpr justExpired.lessThanASecondAgo,
        onNbf.mpr justExpired.begun⟩

/-- A token that has just expired is not in its window. -/
theorem JustExpired.not_inWindow
    {drift : Nat}
    (justExpired : JustExpired exp nbf drift now) :
    ¬ InWindow exp nbf drift now :=
  fun inWindow => not_lt.mpr justExpired.expired inWindow.notExpired

end Checks

section Acceptance

variable {key : Key lc} {token : Str} {header : Header}
variable {members : List (Str × Json)} {options : ValidateOptions} {now : Int}

/-- The checks are made in order, and each of them has to pass. -/
theorem claimsPass_of_timesPass
    (times : TimesPass options now members)
    (aud : IsMember "aud".toList options.aud members)
    (iss : IsMember "iss".toList options.iss members) :
    ClaimsPass options now now members where
  exp :=
    checkExp_eq_ok times.exp
  nbf :=
    checkNbf_eq_ok times.nbf
  aud :=
    aud
  iss :=
    iss

/-- A correctly signed token is accepted exactly when its claims pass. -/
theorem IsSigned.accepted_iff
    (signed : IsSigned serde key token header members)
    (checked : options.checksClaims = true) :
    (∃ parsed,
        parseAndVerify serde serdeClaims key token options now now =
          .ok parsed) ↔
      TimesPass options now members ∧
        OthersPass serdeClaims options members := by
  obtain ⟨headerJson, claimsJson, signature, rfl, fits, accepts, headerRead,
    claimsRead⟩ := signed.made
  constructor
  · rintro ⟨parsed, returned⟩
    obtain ⟨_, _, _, _, decodedJson, _, verified⟩ :=
      isVerified_of_parseAndVerify returned
    obtain ⟨_, rfl, _⟩ := tokenOf_inj verified.eq_tokenOf
    have decoded := verified.claims
    rw [ClaimsDecoded, if_pos checked] at decoded
    obtain ⟨fields, fieldsRead, pass, typed⟩ := decoded
    cases claimsRead.symm.trans fieldsRead
    exact ⟨⟨checkExp_of_pass pass, checkNbf_of_pass pass⟩,
      ⟨pass.aud, pass.iss, Option.isSome_iff_exists.mpr ⟨_, typed⟩⟩⟩
  · rintro ⟨times, others⟩
    obtain ⟨claims, typed⟩ := Option.isSome_iff_exists.mp others.typed
    have pass := claimsPass_of_timesPass times others.aud others.iss
    exact ⟨⟨header, claims⟩, parseAndVerify_tokenOf fits accepts headerRead
      signed.algorithm (decodeClaims_of_pass checked claimsRead pass typed)⟩

/--
A correctly signed token whose times are checked is accepted when these checks
and the others pass.  The checks of the times pass exactly within the window of
the token, unless the token has just expired: then they pass outside of it.
-/
theorem timesPass_iff_inWindow
    (signed : IsSigned serde key token header members)
    {exp nbf : Int64}
    (times : HasTimes members exp nbf)
    (serdeClaims : SerdeClaims Claims)
    (checksExp : options.exp = true)
    (checksNbf : options.nbf = true)
    (fits : DriftFits options now now) :
    ((∃ parsed,
        parseAndVerify serde serdeClaims key token options now now =
          .ok parsed) ↔
      TimesPass options now members ∧
        OthersPass serdeClaims options members) ∧
    ((TimesPass options now members ↔
        InWindow exp nbf options.allowedTimeDrift now) ↔
      ¬ JustExpired exp nbf options.allowedTimeDrift now) := by
  have checked : options.checksClaims = true := by
    simp [ValidateOptions.checksClaims, checksExp]
  refine ⟨signed.accepted_iff checked, ?_⟩
  rw [timesPass_iff times checksExp checksNbf fits]
  constructor
  · intro exactly justExpired
    exact justExpired.not_inWindow (exactly.mp (Or.inr justExpired))
  · intro notJustExpired
    exact or_iff_left notJustExpired

end Acceptance

section Sample

theorem isSigned_sample :
    IsSigned sampleSerde sampleKey sampleToken sampleHeader
      sampleClaims.toFields where
  made :=
    ⟨Str.asBytes "\x7b\"typ\":\"JWT\",\"alg\":\"HS512\"\x7d".toList,
      Str.asBytes ("\x7b\"iss\":\"pingoo\",\"aud\":\"pingoo\"," ++
        "\"exp\":2000000000,\"nbf\":1000000000\x7d").toList,
      sampleTag, by decide +kernel, by decide,
      Key.verify_eq_ok_iff.mp (by decide +kernel), rfl, rfl⟩
  algorithm :=
    rfl

theorem hasTimes_sample :
    HasTimes sampleClaims.toFields 2000000000 1000000000 where
  exp :=
    ⟨_, rfl, rfl⟩
  nbf :=
    ⟨_, rfl, rfl⟩

/-- The instant at which the sample token expires, with a drift of 5 s. -/
def sampleExpiration : Int :=
  atTime 2000000000 + Duration.fromSecs 5

theorem driftFits_sampleExpiration :
    DriftFits (sampleOptions (Duration.fromSecs 5)) sampleExpiration
      sampleExpiration where
  exp _ := by
    decide
  nbf _ := by
    decide

theorem timesPass_iff_inWindow_sample :
    ((∃ parsed,
        parseAndVerify sampleSerde sampleSerdeClaims sampleKey sampleToken
          (sampleOptions (Duration.fromSecs 5)) sampleExpiration
          sampleExpiration = .ok parsed) ↔
      TimesPass (sampleOptions (Duration.fromSecs 5)) sampleExpiration
          sampleClaims.toFields ∧
        OthersPass sampleSerdeClaims (sampleOptions (Duration.fromSecs 5))
          sampleClaims.toFields) ∧
    ((TimesPass (sampleOptions (Duration.fromSecs 5)) sampleExpiration
          sampleClaims.toFields ↔
        InWindow 2000000000 1000000000 (Duration.fromSecs 5)
          sampleExpiration) ↔
      ¬ JustExpired 2000000000 1000000000 (Duration.fromSecs 5)
        sampleExpiration) :=
  timesPass_iff_inWindow isSigned_sample hasTimes_sample sampleSerdeClaims rfl
    rfl driftFits_sampleExpiration

/--
A token is accepted at its expiration time plus the drift, when its window has
ended.
-/
theorem not_timesPass_iff_inWindow :
    ¬ ∀ (lc : AwsLc) (serde : SerdeJson) (key : Key lc) (token : Str)
        (header : Header) (members : List (Str × Json)) (exp nbf : Int64)
        (options : ValidateOptions) (now : Int),
      IsSigned serde key token header members →
      HasTimes members exp nbf →
      options.exp = true →
      options.nbf = true →
      DriftFits options now now →
      (TimesPass options now members ↔
        InWindow exp nbf options.allowedTimeDrift now) := by
  intro exactly
  have justExpired :
      JustExpired 2000000000 1000000000
        (sampleOptions (Duration.fromSecs 5)).allowedTimeDrift
        sampleExpiration := {
    begun := by
      decide
    expired := le_rfl
    lessThanASecondAgo := by
      decide
  }
  have pass :=
    (timesPass_iff hasTimes_sample rfl rfl driftFits_sampleExpiration).mpr
      (Or.inr justExpired)
  have inWindow :=
    (exactly sampleAwsLc sampleSerde sampleKey sampleToken sampleHeader _
      2000000000 1000000000 _ sampleExpiration isSigned_sample hasTimes_sample
      rfl rfl driftFits_sampleExpiration).mp pass
  exact absurd inWindow.notExpired (lt_irrefl sampleExpiration)

end Sample

end Pingoo.Jwt
