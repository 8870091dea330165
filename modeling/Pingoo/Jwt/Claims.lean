import Pingoo.Jwt.Token

namespace Pingoo.Jwt

/-!
# Registered claims as JSON

What `serde` derives for the registered claims: a claim that is absent is not
written, and an absent or null member is read as an absent claim.
-/

namespace RegisteredClaims

/-- The members the registered claims are written as. -/
def toFields (claims : RegisteredClaims) : List (Str × Json) :=
  Json.memberOf .string "iss".toList claims.iss ++
    Json.memberOf .string "sub".toList claims.sub ++
    Json.memberOf .string "aud".toList claims.aud ++
    Json.memberOf Json.ofInt64 "exp".toList claims.exp ++
    Json.memberOf Json.ofInt64 "nbf".toList claims.nbf ++
    Json.memberOf Json.ofInt64 "iat".toList claims.iat ++
    Json.memberOf .string "jti".toList claims.jti

/-- The registered claims among the members of an object. -/
def fromFields (fields : List (Str × Json)) : Option RegisteredClaims := do
  let iss ← Json.optionalMember Json.asStr fields "iss".toList
  let sub ← Json.optionalMember Json.asStr fields "sub".toList
  let aud ← Json.optionalMember Json.asStr fields "aud".toList
  let exp ← Json.optionalMember Json.asInt64 fields "exp".toList
  let nbf ← Json.optionalMember Json.asInt64 fields "nbf".toList
  let iat ← Json.optionalMember Json.asInt64 fields "iat".toList
  let jti ← Json.optionalMember Json.asStr fields "jti".toList
  some {
    iss := iss
    sub := sub
    aud := aud
    exp := exp
    nbf := nbf
    iat := iat
    jti := jti
  }

/-- The names of the registered claims. -/
def names : List Str :=
  [
    "iss".toList, "sub".toList, "aud".toList, "exp".toList, "nbf".toList,
    "iat".toList, "jti".toList
  ]

/-- No member is written under another name, and none twice. -/
theorem toFields_names_sublist (claims : RegisteredClaims) :
    List.Sublist (claims.toFields.map Prod.fst) names := by
  have whole :
      names =
        ["iss".toList] ++ ["sub".toList] ++ ["aud".toList] ++
          ["exp".toList] ++ ["nbf".toList] ++ ["iat".toList] ++
          ["jti".toList] :=
    rfl
  rw [whole, toFields]
  simp only [List.map_append]
  repeat'
    first
    | exact Json.memberOf_names_sublist _ _ _
    | apply List.Sublist.append

/-- Every member is written as a scalar. -/
theorem isScalar_toFields
    (claims : RegisteredClaims)
    {field : Str × Json}
    (member : field ∈ claims.toFields) :
    field.2.IsScalar := by
  simp only [toFields, Json.memberOf, List.mem_append, Option.mem_toList,
    Option.map_eq_some_iff, or_assoc] at member
  rcases member with ⟨_, _, rfl⟩ | ⟨_, _, rfl⟩ | ⟨_, _, rfl⟩ | ⟨_, _, rfl⟩ |
    ⟨_, _, rfl⟩ | ⟨_, _, rfl⟩ | ⟨_, _, rfl⟩
  · trivial
  · trivial
  · trivial
  · exact Json.isScalar_ofInt64 _
  · exact Json.isScalar_ofInt64 _
  · exact Json.isScalar_ofInt64 _
  · trivial

/-- What is read is decided by the lookups of the registered names. -/
theorem fromFields_congr
    {first second : List (Str × Json)}
    (same : ∀ name ∈ names, Json.lookup first name = Json.lookup second name) :
    fromFields first = fromFields second := by
  simp only [fromFields, Json.optionalMember,
    same "iss".toList (by decide), same "sub".toList (by decide),
    same "aud".toList (by decide), same "exp".toList (by decide),
    same "nbf".toList (by decide), same "iat".toList (by decide),
    same "jti".toList (by decide)]

/-- Every claim is found under its name. -/
theorem lookup_toFields (claims : RegisteredClaims) :
    Json.lookup claims.toFields "iss".toList = claims.iss.map .string ∧
    Json.lookup claims.toFields "sub".toList = claims.sub.map .string ∧
    Json.lookup claims.toFields "aud".toList = claims.aud.map .string ∧
    Json.lookup claims.toFields "exp".toList =
      claims.exp.map Json.ofInt64 ∧
    Json.lookup claims.toFields "nbf".toList =
      claims.nbf.map Json.ofInt64 ∧
    Json.lookup claims.toFields "iat".toList =
      claims.iat.map Json.ofInt64 ∧
    Json.lookup claims.toFields "jti".toList = claims.jti.map .string := by
  refine ⟨?_, ?_, ?_, ?_, ?_, ?_, ?_⟩ <;>
    simp (disch := decide) [toFields, Json.lookup_append,
      Json.lookup_memberOf_of_ne]

/-- Registered claims that were written are read back. -/
theorem fromFields_toFields (claims : RegisteredClaims) :
    fromFields claims.toFields = some claims := by
  have isText : ∀ value, Json.asStr (.string value) = some value :=
    fun _ => rfl
  have text {name : Str} {value : Option Str}
      (found : Json.lookup claims.toFields name = value.map .string) :
      Json.optionalMember Json.asStr claims.toFields name = some value :=
    Json.optionalMember_eq_some isText (fun _ => nofun) found
  have number {name : Str} {value : Option Int64}
      (found : Json.lookup claims.toFields name = value.map Json.ofInt64) :
      Json.optionalMember Json.asInt64 claims.toFields name = some value :=
    Json.optionalMember_eq_some Json.asInt64_ofInt64 Json.ofInt64_ne_null found
  obtain ⟨iss, sub, aud, exp, nbf, iat, jti⟩ := lookup_toFields claims
  simp only [fromFields, text iss, text sub, text aud, number exp, number nbf,
    number iat, text jti]
  rfl

/-- Whatever else there is, they are read back from their own members. -/
theorem fromFields_eq_some
    {claims : RegisteredClaims}
    {members : List (Str × Json)}
    (same :
      ∀ name ∈ names,
        Json.lookup members name = Json.lookup claims.toFields name) :
    fromFields members = some claims :=
  (fromFields_congr same).trans (fromFields_toFields claims)

end RegisteredClaims

end Pingoo.Jwt
