import Pingoo.Jwt.TokenSound

namespace Pingoo.Jwt

/-!
# What a signed token contains

A token that `sign` made is taken apart into what it was made of.  So the claims
that are read from it are the claims that were written.
-/

open Fallible

variable {lc : AwsLc} {Claims : Type}
variable {serde : SerdeJson} {serdeClaims : SerdeClaims Claims}

/--
What is written as JSON is read back: an object of scalars, up to the order of
its members.
-/
structure SerdeJson.ReadsWhatItWrites (serde : SerdeJson) : Prop where
  object :
    ∀ fields : List (Str × Json),
      (fields.map Prod.fst).Nodup →
      (∀ field ∈ fields, field.2.IsScalar) →
      ∃ members,
        serde.valueFromSlice (Str.asBytes
          (serde.valueToString (.object fields))) = some (.object members) ∧
        ∀ name, Json.lookup members name = Json.lookup fields name

/-- The token made of a header, claims and a signature. -/
def tokenOf (headerJson claimsJson signature : Bytes) : Str :=
  signedPart (urlSafe.encode headerJson) (urlSafe.encode claimsJson) ++
    '.' :: urlSafe.encode signature

theorem notMem_encode (bytes : Bytes) : '.' ∉ urlSafe.encode bytes := by
  intro member
  obtain ⟨sextet, same⟩ := urlSafe.mem_encode member
  have noDot : ∀ sextet, urlSafeChar sextet ≠ '.' := by
    decide +kernel
  exact noDot sextet same

/-- The dots of a token separate its three parts. -/
theorem splitOn_tokenOf (headerJson claimsJson signature : Bytes) :
    (tokenOf headerJson claimsJson signature).splitOn '.' =
      [urlSafe.encode headerJson, urlSafe.encode claimsJson,
        urlSafe.encode signature] := by
  have joined :
      tokenOf headerJson claimsJson signature =
        ['.'].intercalate [urlSafe.encode headerJson,
          urlSafe.encode claimsJson, urlSafe.encode signature] := by
    simp [tokenOf, signedPart, List.intercalate_cons_cons]
  rw [joined]
  apply List.splitOn_intercalate
  · intro part member
    simp only [List.mem_cons, List.not_mem_nil, or_false] at member
    rcases member with rfl | rfl | rfl
    · exact notMem_encode headerJson
    · exact notMem_encode claimsJson
    · exact notMem_encode signature
  · exact List.cons_ne_nil _ _

theorem orJson_eq_ok_iff
    {α : Type}
    {call : Except Str α}
    {value : α} :
    orJson call = .ok value ↔ call = .ok value := by
  cases call <;> simp [orJson, fail]

/-- What a signed token is made of. -/
theorem sign_eq_ok_iff
    {key : Key lc}
    {entropy : Nat}
    {header : Header}
    {claims : Claims}
    {token : Str} :
    sign serde serdeClaims key entropy header claims = .ok token ↔
      ∃ headerJson claimsJson signature,
        serde.headerToString header = .ok headerJson ∧
        serdeClaims.toString claims = .ok claimsJson ∧
        key.sign entropy (Str.asBytes
          (signedPart (urlSafe.encode headerJson.asBytes)
            (urlSafe.encode claimsJson.asBytes))) = .ok signature ∧
        token =
          tokenOf headerJson.asBytes (Str.asBytes claimsJson) signature := by
  simp only [sign, bind_eq_ok_iff, orJson_eq_ok_iff, Except.ok.injEq]
  constructor
  · rintro ⟨headerJson, headerWritten, claimsJson, written, signature, signed,
      rfl⟩
    exact ⟨headerJson, claimsJson, signature, headerWritten, written, signed,
      rfl⟩
  · rintro ⟨headerJson, claimsJson, signature, headerWritten, written, signed,
      rfl⟩
    exact ⟨headerJson, headerWritten, claimsJson, written, signature, signed,
      rfl⟩

/-- A token that is signed is made of the claims as they are written. -/
theorem sign_eq_ok
    {key : Key lc}
    {entropy : Nat}
    {header : Header}
    {claims : Claims}
    {token : Str}
    (returned : sign serde serdeClaims key entropy header claims = .ok token) :
    ∃ headerJson claimsJson signature,
      serdeClaims.toString claims = .ok claimsJson ∧
      token = tokenOf headerJson (Str.asBytes claimsJson) signature := by
  obtain ⟨headerJson, claimsJson, signature, _, written, _, isToken⟩ :=
    sign_eq_ok_iff.mp returned
  exact ⟨headerJson.asBytes, claimsJson, signature, written, isToken⟩

section Verified

variable {key : Key lc} {token : Str} {options : ValidateOptions}
variable {expNow nbfNow : Int} {parsed : ParsedJwt Claims}
variable {headerBase64 claimsBase64 signatureBase64 : Str}
variable {headerJson claimsJson signature : Bytes}

/-- A verified token is made of what its parts decode to. -/
theorem IsVerified.eq_tokenOf
    (verified : IsVerified serde serdeClaims key token options expNow nbfNow
      parsed headerBase64 claimsBase64 signatureBase64 headerJson claimsJson
      signature) :
    token = tokenOf headerJson claimsJson signature := by
  rw [tokenOf, urlSafe.encode_of_decode verified.headerDecoded,
    urlSafe.encode_of_decode verified.claimsDecoded,
    urlSafe.encode_of_decode verified.signatureDecoded]
  exact eq_of_splitOn verified.parts

/-- The bytes the signature of a verified token is about. -/
theorem IsVerified.accepts
    (verified : IsVerified serde serdeClaims key token options expNow nbfNow
      parsed headerBase64 claimsBase64 signatureBase64 headerJson claimsJson
      signature) :
    key.Accepts (Str.asBytes (signedPart (urlSafe.encode headerJson)
      (urlSafe.encode claimsJson))) signature := by
  rw [urlSafe.encode_of_decode verified.headerDecoded,
    urlSafe.encode_of_decode verified.claimsDecoded]
  exact verified.accepted

/-- The three parts of a token are what it was made of. -/
theorem tokenOf_inj
    {otherHeader otherClaims otherSignature : Bytes}
    (same : tokenOf headerJson claimsJson signature =
      tokenOf otherHeader otherClaims otherSignature) :
    headerJson = otherHeader ∧
      claimsJson = otherClaims ∧
      signature = otherSignature := by
  have parts := congrArg (·.splitOn '.') same
  simp only [splitOn_tokenOf, List.cons.injEq, and_true] at parts
  obtain ⟨sameHeader, sameClaims, sameSignature⟩ := parts
  exact ⟨urlSafe.encode_injective sameHeader,
    urlSafe.encode_injective sameClaims,
    urlSafe.encode_injective sameSignature⟩

/--
The claims that are returned for a token come from an object with the members
that were written into it, and these members were checked.
-/
theorem members_of_parseAndVerify
    (laws : serde.ReadsWhatItWrites)
    {fields : List (Str × Json)}
    (distinct : (fields.map Prod.fst).Nodup)
    (scalars : ∀ field ∈ fields, field.2.IsScalar)
    (checked : options.checksClaims = true)
    (returned :
      parseAndVerify serde serdeClaims key
        (tokenOf headerJson
          (Str.asBytes (serde.valueToString (.object fields))) signature)
        options expNow nbfNow = .ok parsed) :
    ∃ members,
      (∀ name, Json.lookup members name = Json.lookup fields name) ∧
      ClaimsPass options expNow nbfNow members ∧
      serdeClaims.fromValue (.object members) = some parsed.claims := by
  obtain ⟨_, _, _, _, decodedJson, _, verified⟩ :=
    isVerified_of_parseAndVerify returned
  obtain ⟨_, sameClaims, _⟩ := tokenOf_inj verified.eq_tokenOf
  have decoded := verified.claims
  rw [ClaimsDecoded, if_pos checked] at decoded
  obtain ⟨members, parsedValue, pass, typed⟩ := decoded
  obtain ⟨_, readBack, sameLookups⟩ :=
    laws.object fields distinct scalars
  rw [← sameClaims, readBack] at parsedValue
  cases parsedValue
  exact ⟨members, sameLookups, pass, typed⟩

end Verified

end Pingoo.Jwt
