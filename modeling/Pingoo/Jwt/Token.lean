import Pingoo.Clock
import Pingoo.Jwt.Json
import Pingoo.Jwt.Key

namespace Pingoo.Jwt

/-!
# Tokens

A token is three texts in base64, separated by dots: a header, the claims and a
signature of both.  Encoding to JSON and decoding from it are parameters.
-/

open Fallible

inductive TokenType where
  | jwt
  deriving Repr, DecidableEq

/-- The header of a token. -/
structure Header where
  typ : TokenType
  alg : Algorithm
  cty : Option Str
  jku : Option Str
  kid : Option Str
  x5u : Option Str
  x5c : Option (List Str)
  x5t : Option Str
  x5tS256 : Option Str
  deriving Repr, DecidableEq

/-- The registered claims. -/
structure RegisteredClaims where
  iss : Option Str
  sub : Option Str
  aud : Option Str
  exp : Option Int64
  nbf : Option Int64
  iat : Option Int64
  jti : Option Str
  deriving Repr, DecidableEq

structure ValidateOptions where
  allowedTimeDrift : Nat
  nbf : Bool
  exp : Bool
  aud : List Str
  iss : List Str
  deriving Repr, DecidableEq

structure ParsedJwt (Claims : Type) where
  header : Header
  claims : Claims
  deriving Repr, DecidableEq

/--
What `serde_json` reads and writes besides claims.  Writing a value, or a
structure of such values, does not fail.
-/
structure SerdeJson where
  headerToString : Header → Except Str Str
  headerFromSlice : Bytes → Option Header
  valueFromSlice : Bytes → Option Json
  valueToString : Json → Str

/-- What `serde_json` reads and writes for one type of claims. -/
structure SerdeClaims (Claims : Type) where
  toString : Claims → Except Str Str
  fromSlice : Bytes → Option Claims
  fromValue : Json → Option Claims

/-- The call fails with an error. -/
def fail {α : Type} (error : Error) : Outcome α :=
  .error (.error error)

/-- What cannot be written is reported with the reason. -/
def orJson {α : Type} : Except Str α → Outcome α
  | .ok value =>
      .ok value
  | .error err =>
      fail (.json err)

section

variable (serde : SerdeJson)

/-- Decode and parse a header. -/
def decodeHeader (headerBase64 : Str) : Outcome Header := do
  let headerJson ← okOr .invalidToken (urlSafe.decode headerBase64)
  okOr .invalidToken (serde.headerFromSlice headerJson)

/-- `parse_header`. -/
def parseHeader (token : Str) : Outcome Header :=
  match token.splitOn '.' with
  | [headerBase64, _, _] => decodeHeader serde headerBase64
  | _ => fail .invalidToken

/-- `decode_slice` into the signature buffer. -/
def decodeSignature (signatureBase64 : Str) : Outcome Bytes :=
  match urlSafe.decode signatureBase64 with
  | some signature =>
      if signature.length ≤ signatureMaxSize then
        .ok signature
      else
        fail .invalidSignature
  | none => fail .invalidSignature

/-- The check of `exp`; `now` is read when the claim is a number. -/
def checkExp
    (options : ValidateOptions)
    (now : Int)
    (claims : List (Str × Json)) : Outcome Unit :=
  if options.exp then
    match Json.lookup claims "exp".toList with
    | none => fail .invalidToken
    | some expValue =>
        match expValue.asI64 with
        | none => fail .invalidToken
        | some exp => do
            let limit ← expect (Utc.sub now options.allowedTimeDrift)
            if exp < Utc.timestamp limit then
              fail .invalidToken
            else
              .ok ()
  else
    .ok ()

/-- The check of `nbf`; `now` is read when the claim is a number. -/
def checkNbf
    (options : ValidateOptions)
    (now : Int)
    (claims : List (Str × Json)) : Outcome Unit :=
  if options.nbf then
    match Json.lookup claims "nbf".toList with
    | none => fail .invalidToken
    | some nbfValue =>
        match nbfValue.asI64 with
        | none => fail .invalidToken
        | some nbf => do
            let limit ← expect (Utc.add now options.allowedTimeDrift)
            if Utc.timestamp limit < nbf then
              fail .invalidToken
            else
              .ok ()
  else
    .ok ()

/-- The check of a claim that has to be one of some texts, if there are any. -/
def checkMember
    (name : Str)
    (allowed : List Str)
    (claims : List (Str × Json)) : Outcome Unit :=
  if allowed ≠ [] then
    match Json.lookup claims name with
    | none => fail .invalidToken
    | some value =>
        match value.asStr with
        | none => fail .invalidToken
        | some text =>
            if text ∈ allowed then .ok () else fail .invalidToken
  else
    .ok ()

def checkAud (options : ValidateOptions) (claims : List (Str × Json)) :
    Outcome Unit :=
  checkMember "aud".toList options.aud claims

def checkIss (options : ValidateOptions) (claims : List (Str × Json)) :
    Outcome Unit :=
  checkMember "iss".toList options.iss claims

/-- Whether any claim is checked. -/
def ValidateOptions.checksClaims (options : ValidateOptions) : Bool :=
  options.exp || options.nbf || options.aud != [] || options.iss != []

variable {Claims : Type} (serdeClaims : SerdeClaims Claims)

/-- Check and decode the claims; both readings of the clock are given. -/
def decodeClaims
    (options : ValidateOptions)
    (expNow nbfNow : Int)
    (claimsJson : Bytes) : Outcome Claims :=
  if options.checksClaims then
    match serde.valueFromSlice claimsJson with
    | none => fail .invalidToken
    | some value =>
        match value with
        | .object claimsObject => do
            checkExp options expNow claimsObject
            checkNbf options nbfNow claimsObject
            checkAud options claimsObject
            checkIss options claimsObject
            okOr .invalidToken (serdeClaims.fromValue value)
        | _ => fail .invalidToken
  else
    okOr .invalidToken (serdeClaims.fromSlice claimsJson)

variable {lc : AwsLc}

/-- `parse_and_verify`; both readings of the clock are given. -/
def parseAndVerify
    (key : Key lc)
    (token : Str)
    (options : ValidateOptions)
    (expNow nbfNow : Int) : Outcome (ParsedJwt Claims) :=
  match token.splitOn '.' with
  | [headerBase64, claimsBase64, signatureBase64] => do
      let rawSignature ← decodeSignature signatureBase64
      let signedMessage ← expect
        (token.sliceTo (Str.len headerBase64 + 1 + Str.len claimsBase64))
      key.verify signedMessage.asBytes rawSignature
      let header ← decodeHeader serde headerBase64
      if header.alg ≠ key.algorithm then
        fail .invalidToken
      else do
        let claimsJson ← okOr .invalidToken (urlSafe.decode claimsBase64)
        let claims ←
          decodeClaims serde serdeClaims options expNow nbfNow claimsJson
        .ok ⟨header, claims⟩
  | _ => fail .invalidToken

/-- The part of a token that is signed. -/
def signedPart (headerBase64 claimsBase64 : Str) : Str :=
  headerBase64 ++ '.' :: claimsBase64

/-- `sign`. -/
def sign
    (key : Key lc)
    (entropy : Nat)
    (header : Header)
    (claims : Claims) : Outcome Str := do
  let headerJson ← orJson (serde.headerToString header)
  let claimsJson ← orJson (serdeClaims.toString claims)
  let jwt :=
    signedPart (urlSafe.encode headerJson.asBytes)
      (urlSafe.encode claimsJson.asBytes)
  let signature ← key.sign entropy jwt.asBytes
  .ok (jwt ++ '.' :: urlSafe.encode signature)

end

end Pingoo.Jwt
