import Mathlib.Algebra.Group.Nat.Even
import Pingoo.CaptchaApi

namespace Pingoo

/-!
# The proof of work

The page of the captcha looks for a nonce whose digest with the challenge begins
with some zeroes, and sends the nonce and the digest to the server.  The server
decodes the digest, counts its zeroes and computes it again.  Both mean the same
by a solution.
-/

open Fallible Jwt Separated

/-- `String.prototype.padStart` with one character. -/
def padStart (text : Str) (targetLength : Nat) (padString : Char) : Str :=
  List.replicate (targetLength - text.length) padString ++ text

/-- `uint8ArrayToHex`. -/
def uint8ArrayToHex (data : Bytes) : Str :=
  data.foldl
    (fun hexString byte =>
      hexString ++ padStart (Str.lowerHex byte.toNat) 2 '0')
    []

/-- The increment of a whole number; from 2^53 on, one more is rounded away. -/
def increment (number : Nat) : Nat :=
  if number < 2 ^ 53 then number + 1 else number

/-- What the page sends to the server. -/
structure ProofOfWorkResult where
  nonce : Str
  hash : Str
  deriving Repr, DecidableEq

/-- `JSON.stringify` of a result without characters to escape. -/
def ProofOfWorkResult.toJson (result : ProofOfWorkResult) : Str :=
  "\x7b\"nonce\":\"".toList ++ (result.nonce ++
    ("\",\"hash\":\"".toList ++ (result.hash ++ "\"\x7d".toList)))

section Page

variable (sha256 : Sha256)

/-- The text that a nonce is tried with. -/
def hashOf (challenge : Str) (nonce : Nat) : Str :=
  uint8ArrayToHex
    (sha256 (Str.asBytes (challenge ++ Str.decimal nonce))).toList

/-- The loop of `proofOfWork`, in at most `fuel` rounds. -/
def proofOfWorkLoop (challenge : Str) (difficulty : Nat) :
    Nat → Nat → Option ProofOfWorkResult
  | 0, _ =>
      none
  | fuel + 1, nonce =>
      let nonce := increment nonce
      let hash := hashOf sha256 challenge nonce
      let target := List.replicate difficulty '0'
      if hash.take difficulty ≠ target then
        proofOfWorkLoop challenge difficulty fuel nonce
      else
        some ⟨Str.decimal nonce, hash⟩

/-- `proofOfWork`; it is `none` when the loop has not stopped yet. -/
def proofOfWork
    (challenge : Str)
    (difficulty fuel : Nat) : Option ProofOfWorkResult :=
  proofOfWorkLoop sha256 challenge difficulty fuel 0

end Page

section Hex

/-- The digits of a byte, padded to two. -/
theorem padStart_lowerHex {byte : Nat} (small : byte < 256) :
    padStart (Str.lowerHex byte) 2 '0' =
      [Nat.digitChar (byte / 16), Nat.digitChar (byte % 16)] := by
  have allBytes :
      ∀ byte < 256,
        padStart (Str.lowerHex byte) 2 '0' =
          [Nat.digitChar (byte / 16), Nat.digitChar (byte % 16)] := by
    decide +kernel
  exact allBytes byte small

/-- The page writes digests as the server does. -/
theorem uint8ArrayToHex_eq (data : Bytes) :
    uint8ArrayToHex data = Str.hexEncode data := by
  have accumulates :
      ∀ (rest : Bytes) (hexString : Str),
        rest.foldl
            (fun hexString byte =>
              hexString ++ padStart (Str.lowerHex byte.toNat) 2 '0')
            hexString =
          hexString ++ Str.hexEncode rest := by
    intro rest
    induction rest with
    | nil =>
        intro hexString
        exact (List.append_nil hexString).symm
    | cons byte others inductionHypothesis =>
        intro hexString
        rw [List.foldl_cons, inductionHypothesis,
          padStart_lowerHex byte.toNat_lt]
        simp [Str.hexEncode]
  exact accumulates data []

/-- A digit is read back as its value. -/
theorem hexVal_digitChar {value : Nat} (small : value < 16) :
    hexVal (Nat.digitChar value) = some value := by
  have allDigits :
      ∀ value < 16, hexVal (Nat.digitChar value) = some value := by
    decide
  exact allDigits value small

/-- What has a value is a digit in lower or upper case. -/
theorem toLower_of_hexVal
    {digit : Char}
    {value : Nat}
    (isDigit : hexVal digit = some value) :
    value < 16 ∧ digit.toLower = Nat.digitChar value := by
  have allDigits :
      ∀ code < 103, ∀ value ∈ hexVal (Char.ofNat code),
        value < 16 ∧ (Char.ofNat code).toLower = Nat.digitChar value := by
    decide +kernel
  have small : digit.toNat < 103 := by
    by_contra large
    have tooLarge :
        ∀ limit : Char, limit.toNat < 103 → ¬ digit ≤ limit := by
      intro limit inRange notAbove
      have below : digit.toNat ≤ limit.toNat :=
        notAbove
      omega
    rw [hexVal, if_neg (fun both => tooLarge '9' (by decide) both.2),
      if_neg (fun both => tooLarge 'f' (by decide) both.2),
      if_neg (fun both => tooLarge 'F' (by decide) both.2)] at isDigit
    cases isDigit
  have known := allDigits digit.toNat small value
  rw [Char.ofNat_toNat] at known
  exact known isDigit

/-- A byte is its high digit and its low digit. -/
theorem toUInt8_digits (byte : UInt8) :
    (16 * (byte.toNat / 16) + byte.toNat % 16).toUInt8 = byte := by
  rw [Nat.div_add_mod]
  exact UInt8.ofNat_toNat

/-- What is encoded in hexadecimal is decoded again. -/
theorem hexDecode_hexEncode (bytes : Bytes) :
    hexDecode (Str.hexEncode bytes) = some bytes := by
  induction bytes with
  | nil =>
      rfl
  | cons byte rest inductionHypothesis =>
      have high : byte.toNat / 16 < 16 := by
        have small := byte.toNat_lt
        omega
      have low : byte.toNat % 16 < 16 :=
        Nat.mod_lt _ (by decide)
      have encoded :
          Str.hexEncode (byte :: rest) =
            Nat.digitChar (byte.toNat / 16) ::
              Nat.digitChar (byte.toNat % 16) :: Str.hexEncode rest :=
        rfl
      rw [encoded, hexDecode, hexVal_digitChar high, hexVal_digitChar low,
        inductionHypothesis]
      exact congrArg (fun first => some (first :: rest)) (toUInt8_digits byte)

/-- A text that is decoded is the encoding, up to the case of its digits. -/
theorem toLower_of_hexDecode
    {text : Str}
    {bytes : Bytes}
    (decoded : hexDecode text = some bytes) :
    text.map Char.toLower = Str.hexEncode bytes := by
  induction text using hexDecode.induct generalizing bytes with
  | case1 =>
      cases decoded
      rfl
  | case2 digit =>
      cases decoded
  | case3 high low rest inductionHypothesis =>
      simp only [hexDecode, Option.bind_eq_bind, Option.bind_eq_some_iff]
        at decoded
      obtain ⟨first, isHigh, second, isLow, others, isRest, whole⟩ := decoded
      cases whole
      obtain ⟨highSmall, highLower⟩ := toLower_of_hexVal isHigh
      obtain ⟨lowSmall, lowLower⟩ := toLower_of_hexVal isLow
      have sameByte :
          (16 * first + second).toUInt8.toNat = 16 * first + second := by
        simp only [UInt8.toNat_ofNat']
        omega
      have highDigit : (16 * first + second) / 16 = first := by
        omega
      have lowDigit : (16 * first + second) % 16 = second := by
        omega
      simp only [List.map_cons, Str.hexEncode, List.flatMap_cons, sameByte,
        highDigit, lowDigit, highLower, lowLower,
        inductionHypothesis isRest]
      rfl

/-- A digest is read back from its encoding. -/
theorem hexDecodeDigest_hexEncode (digest : Vector UInt8 32) :
    hexDecodeDigest (Str.hexEncode digest.toList) = some digest := by
  simp [hexDecodeDigest, hexDecode_hexEncode, Vector.toList]

end Hex

section Zeroes

/-- A list begins with so many copies when it has that many in front. -/
theorem take_eq_replicate_iff
    {text : Str}
    {count : Nat}
    {character : Char} :
    text.take count = List.replicate count character ↔
      count ≤ (text.takeWhile (· = character)).length := by
  induction count generalizing text with
  | zero =>
      simp
  | succ count inductionHypothesis =>
      cases text with
      | nil =>
          simp
      | cons first rest =>
          rw [List.take_succ_cons, List.replicate_succ, List.cons.injEq,
            inductionHypothesis, List.takeWhile_cons]
          by_cases isFirst : first = character
          · simp [isFirst]
          · simp [isFirst]

/-- The zeroes the page asks for are those the server counts. -/
theorem take_hexEncode_iff (hash : Vector UInt8 32) (difficulty : Nat) :
    (Str.hexEncode hash.toList).take difficulty =
        List.replicate difficulty '0' ↔
      difficulty ≤ leadingZeroes hash :=
  take_eq_replicate_iff

end Zeroes

section Loop

variable {sha256 : Sha256} {challenge : Str} {difficulty : Nat}

/-- A nonce solves a challenge. -/
def Solves
    (sha256 : Sha256)
    (challenge : Str)
    (difficulty nonce : Nat) : Prop :=
  difficulty ≤
    leadingZeroes (sha256 (Str.asBytes (challenge ++ Str.decimal nonce)))

/-- One round of the loop, in terms of the digest. -/
theorem proofOfWorkLoop_succ (fuel nonce : Nat) :
    proofOfWorkLoop sha256 challenge difficulty (fuel + 1) nonce =
      if difficulty ≤ leadingZeroes (sha256
          (Str.asBytes (challenge ++ Str.decimal (increment nonce)))) then
        some ⟨Str.decimal (increment nonce), Str.hexEncode (sha256
          (Str.asBytes (challenge ++ Str.decimal (increment nonce)))).toList⟩
      else
        proofOfWorkLoop sha256 challenge difficulty fuel (increment nonce) := by
  simp only [proofOfWorkLoop, hashOf, uint8ArrayToHex_eq, ne_eq,
    take_hexEncode_iff, ite_not]

/-- What the loop stops with is a solution, and its digest. -/
theorem solves_of_proofOfWorkLoop
    {fuel nonce : Nat}
    {result : ProofOfWorkResult}
    (stopped :
      proofOfWorkLoop sha256 challenge difficulty fuel nonce = some result) :
    ∃ solution,
      Solves sha256 challenge difficulty solution ∧
      result.nonce = Str.decimal solution ∧
      result.hash = Str.hexEncode (sha256
        (Str.asBytes (challenge ++ Str.decimal solution))).toList := by
  induction fuel generalizing nonce with
  | zero =>
      cases stopped
  | succ fuel inductionHypothesis =>
      rw [proofOfWorkLoop_succ] at stopped
      split at stopped
      · next solved =>
          cases stopped
          exact ⟨increment nonce, solved, rfl, rfl⟩
      · exact inductionHypothesis stopped

/-- The loop stops when there is a solution it can get to. -/
theorem proofOfWorkLoop_stops
    {steps nonce : Nat}
    (inRange : nonce + steps < 2 ^ 53)
    (solved : Solves sha256 challenge difficulty (nonce + steps + 1)) :
    (proofOfWorkLoop sha256 challenge difficulty (steps + 1)
      nonce).isSome = true := by
  induction steps generalizing nonce with
  | zero =>
      have next : increment nonce = nonce + 1 :=
        if_pos inRange
      rw [proofOfWorkLoop_succ, next]
      exact congrArg Option.isSome (if_pos solved)
  | succ steps inductionHypothesis =>
      have next : increment nonce = nonce + 1 :=
        if_pos (by omega)
      rw [proofOfWorkLoop_succ, next]
      split
      · rfl
      · apply inductionHypothesis
        · omega
        · have sameNonce : nonce + 1 + steps + 1 = nonce + (steps + 1) + 1 := by
            omega
          rw [sameNonce]
          exact solved

end Loop

section Server

variable {lib : CaptchaLibrary}

/-- The results that the page can send are read back by the server. -/
structure CaptchaLibrary.ReadsResults (lib : CaptchaLibrary) : Prop where
  result :
    ∀ result : ProofOfWorkResult,
      (∀ character ∈ result.nonce ++ result.hash,
        character.isAlphanum = true) →
      lib.bodyFromReader result.toJson.asBytes =
        some (result.hash, result.nonce)

/--
A body passes the checks of the proof of work, against a token with a challenge
and a difficulty.
-/
def PassesProofOfWork
    (lib : CaptchaLibrary)
    (challenge : Str)
    (difficulty : UInt8)
    (body : Bytes) : Prop :=
  ∃ input,
    captchaVerifyRequestBody lib body = some input ∧
    difficulty.toNat ≤ leadingZeroes input.hash ∧
    lib.sha256 (challenge.asBytes ++ input.nonce.asBytes) = input.hash

/--
A body carries a hash that is, in lower case, the digest of the challenge and
the nonce, and begins with enough zeroes.
-/
def CarriesSolution
    (lib : CaptchaLibrary)
    (challenge : Str)
    (difficulty : UInt8)
    (body : Bytes) : Prop :=
  ∃ hash nonce,
    lib.bodyFromReader body = some (hash, nonce) ∧
    (hash.map Char.toLower).take difficulty.toNat =
      List.replicate difficulty.toNat '0' ∧
    hash.map Char.toLower =
      Str.hexEncode (lib.sha256 (challenge.asBytes ++ nonce.asBytes)).toList

/-- The token of a call is accepted for its client, and holds a challenge. -/
structure TokenAccepted
    (lib : CaptchaLibrary)
    (manager : CaptchaManager lib.lc)
    (cookies : List Cookie)
    (clientId : Str)
    (expNow nbfNow : Int)
    (challenge : Str)
    (difficulty : UInt8) : Prop where
  accepted :
    ∃ cookie header key parsed,
      cookies.find? (fun cookie => cookie.name = captchaCookie) =
        some cookie ∧
      parseHeader lib.serde cookie.value = .ok header ∧
      manager.verifyingKey (header.kid.getD []) = some key ∧
      parseAndVerify lib.serde (captchaClaims lib) key cookie.value
        jwtValdiationOptions expNow nbfNow = .ok parsed ∧
      parsed.claims.registeredClaims.sub.getD [] = clientId ∧
      parsed.claims.challenge = challenge ∧
      parsed.claims.difficulty = difficulty

/-- What `api_verify` does when its checks have passed. -/
def issueVerified
    (lib : CaptchaLibrary)
    (manager : CaptchaManager lib.lc)
    (clientId : Str)
    (now : Int)
    (jti : Str)
    (entropy : Nat) : Handler Response := do
  let newCookies ← or500 (generateCaptchaVerifiedCookies lib
    manager.signingKey clientId now jti entropy)
  let builder ← appendCookies lib jsonResponse newCookies
  expect (builder.body (.full (Str.asBytes "\x7b\x7d".toList)))

theorem ensure_of_holds
    {condition : Prop}
    [Decidable condition]
    (holds : condition) : ensure condition = .ok () :=
  if_pos holds

theorem ensure_of_fails
    {condition : Prop}
    [Decidable condition]
    (fails : ¬ condition) :
    ensure condition = .error (.error newInternalErrorResponse500) :=
  if_neg fails

theorem asBytes_append (first second : Str) :
    (first ++ second : Str).asBytes = first.asBytes ++ second.asBytes :=
  List.flatMap_append

/-- What the page sends passes the checks. -/
theorem passesProofOfWork_of_proofOfWork
    (reads : lib.ReadsResults)
    {challenge : Str}
    {difficulty : UInt8}
    {fuel : Nat}
    {result : ProofOfWorkResult}
    (stopped :
      proofOfWork lib.sha256 challenge difficulty.toNat fuel = some result) :
    PassesProofOfWork lib challenge difficulty result.toJson.asBytes := by
  obtain ⟨nonce, solves, isNonce, isHash⟩ := solves_of_proofOfWorkLoop stopped
  have plain :
      ∀ character ∈ result.nonce ++ result.hash,
        character.isAlphanum = true := by
    intro character member
    rw [isNonce, isHash, List.mem_append] at member
    rcases member with inNonce | inHash
    · exact isAlphanum_of_mem_decimal inNonce
    · exact isAlphanum_of_mem_hexEncode inHash
  refine ⟨⟨lib.sha256 (Str.asBytes (challenge ++ Str.decimal nonce)),
    result.nonce⟩, ?_, solves, ?_⟩
  · simp only [captchaVerifyRequestBody, reads.result result plain, isHash,
      Option.bind_eq_bind, Option.bind_some, hexDecodeDigest_hexEncode]
  · rw [isNonce, asBytes_append]

/-- What passes the checks carries a solution. -/
theorem carriesSolution_of_passesProofOfWork
    {challenge : Str}
    {difficulty : UInt8}
    {body : Bytes}
    (passes : PassesProofOfWork lib challenge difficulty body) :
    CarriesSolution lib challenge difficulty body := by
  obtain ⟨input, isInput, difficult, isDigest⟩ := passes
  simp only [captchaVerifyRequestBody, Option.bind_eq_bind,
    Option.bind_eq_some_iff, Option.some.injEq] at isInput
  obtain ⟨⟨hash, nonce⟩, read, digest, decoded, rfl⟩ := isInput
  have lowered : hash.map Char.toLower = Str.hexEncode digest.toList := by
    simp only [hexDecodeDigest, Option.bind_eq_some_iff] at decoded
    obtain ⟨bytes, isBytes, fits⟩ := decoded
    split at fits
    · cases fits
      simpa [Vector.toList] using toLower_of_hexDecode isBytes
    · cases fits
  refine ⟨hash, nonce, read, ?_, ?_⟩
  · rw [lowered]
    exact (take_hexEncode_iff digest difficulty.toNat).mpr difficult
  · rw [lowered, isDigest]

/--
With an accepted token, the call goes on exactly when the body passes the checks
of the proof of work against it.
-/
theorem apiVerify_of_tokenAccepted
    {manager : CaptchaManager lib.lc}
    {cookies : List Cookie}
    {clientId challenge : Str}
    {expNow nbfNow : Int}
    {difficulty : UInt8}
    (token :
      TokenAccepted lib manager cookies clientId expNow nbfNow challenge
        difficulty)
    (body : Bytes)
    (now : Int)
    (jti : Str)
    (entropy : Nat) :
    (PassesProofOfWork lib challenge difficulty body →
      apiVerify lib manager cookies (some body) clientId expNow nbfNow now jti
          entropy =
        issueVerified lib manager clientId now jti entropy) ∧
    (¬ PassesProofOfWork lib challenge difficulty body →
      apiVerify lib manager cookies (some body) clientId expNow nbfNow now jti
          entropy =
        .error (.error newInternalErrorResponse500)) := by
  obtain ⟨cookie, header, key, parsed, cookieFound, headerParsed, keyFound,
    verified, rfl, rfl, rfl⟩ := token.accepted
  have untilBody :
      apiVerify lib manager cookies (some body)
          (parsed.claims.registeredClaims.sub.getD []) expNow nbfNow now jti
          entropy = (do
        let input ← someOr500 (captchaVerifyRequestBody lib body)
        ensure (parsed.claims.difficulty.toNat ≤ leadingZeroes input.hash)
        ensure (lib.sha256 (parsed.claims.challenge.asBytes ++
          input.nonce.asBytes) = input.hash)
        issueVerified lib manager
          (parsed.claims.registeredClaims.sub.getD []) now jti entropy) := by
    simp only [apiVerify, cookieFound, headerParsed, keyFound, verified,
      someOr500, or500, okOr, mapErr, ok_bind, ensure_of_holds trivial,
      issueVerified]
  rw [untilBody]
  cases read : captchaVerifyRequestBody lib body with
  | none =>
      have notPasses :
          ¬ PassesProofOfWork lib parsed.claims.challenge
            parsed.claims.difficulty body := by
        rintro ⟨input, isInput, _⟩
        rw [read] at isInput
        cases isInput
      exact ⟨fun passes => absurd passes notPasses, fun _ => rfl⟩
  | some input =>
      have passes_iff :
          PassesProofOfWork lib parsed.claims.challenge
              parsed.claims.difficulty body ↔
            parsed.claims.difficulty.toNat ≤ leadingZeroes input.hash ∧
              lib.sha256 (parsed.claims.challenge.asBytes ++
                input.nonce.asBytes) = input.hash := by
        simp only [PassesProofOfWork, read, Option.some.injEq,
          exists_eq_left']
      have goesOn :
          ∀ following : CaptchaVerifyRequestBody → Handler Response,
            someOr500 (some input) >>= following = following input :=
        fun following => ok_bind input following
      rw [passes_iff, goesOn]
      constructor
      · rintro ⟨difficult, isDigest⟩
        rw [ensure_of_holds difficult, ensure_of_holds isDigest]
        rfl
      · intro fails
        by_cases difficult :
            parsed.claims.difficulty.toNat ≤ leadingZeroes input.hash
        · have notDigest := fun isDigest => fails ⟨difficult, isDigest⟩
          rw [ensure_of_holds difficult, ensure_of_fails notDigest]
          rfl
        · rw [ensure_of_fails difficult]
          rfl

/--
The page and the server agree on the proof of work: what the loop stops with
passes the checks, what passes them carries a solution, and a call with an
accepted token goes on exactly with what passes them.
-/
theorem proofOfWork_agrees
    (reads : lib.ReadsResults)
    (challenge : Str)
    (difficulty : UInt8) :
    (∀ fuel result,
      proofOfWork lib.sha256 challenge difficulty.toNat fuel = some result →
      PassesProofOfWork lib challenge difficulty result.toJson.asBytes) ∧
    (∀ body,
      PassesProofOfWork lib challenge difficulty body →
      CarriesSolution lib challenge difficulty body) ∧
    ∀ (manager : CaptchaManager lib.lc) (cookies : List Cookie)
        (clientId : Str) (expNow nbfNow : Int),
      TokenAccepted lib manager cookies clientId expNow nbfNow challenge
        difficulty →
      ∀ (body : Bytes) (now : Int) (jti : Str) (entropy : Nat),
        (PassesProofOfWork lib challenge difficulty body →
          apiVerify lib manager cookies (some body) clientId expNow nbfNow now
              jti entropy =
            issueVerified lib manager clientId now jti entropy) ∧
        (¬ PassesProofOfWork lib challenge difficulty body →
          apiVerify lib manager cookies (some body) clientId expNow nbfNow now
              jti entropy =
            .error (.error newInternalErrorResponse500)) :=
  ⟨fun _ _ stopped => passesProofOfWork_of_proofOfWork reads stopped,
    fun _ passes => carriesSolution_of_passesProofOfWork passes,
    fun _ _ _ _ _ token => apiVerify_of_tokenAccepted token⟩

end Server

section Sample

/-- Read a text that the page wrote. -/
def sampleBodyFromReader (body : Bytes) : Option (Str × Str) := do
  let text : Str := body.map Char.ofUInt8
  let afterName ← text.stripPrefix "\x7b\"nonce\":\"".toList
  let afterNonce ← Str.stripPrefix (afterName.dropWhile Char.isAlphanum)
    "\",\"hash\":\"".toList
  if afterNonce.dropWhile Char.isAlphanum = "\"\x7d".toList then
    some (afterNonce.takeWhile Char.isAlphanum,
      afterName.takeWhile Char.isAlphanum)
  else
    none

theorem stripPrefix_append (pattern rest : Str) :
    Str.stripPrefix (pattern ++ rest) pattern = some rest := by
  have begins : pattern.isPrefixOf (pattern ++ rest) = true :=
    List.isPrefixOf_iff_prefix.mpr (List.prefix_append pattern rest)
  rw [Str.stripPrefix, if_pos begins, List.drop_left]

/-- A text of letters and digits ends before a quotation mark. -/
theorem span_isAlphanum
    {text : Str}
    (plain : ∀ character ∈ text, character.isAlphanum = true)
    (rest : Str) :
    (text ++ '"' :: rest).takeWhile Char.isAlphanum = text ∧
      (text ++ '"' :: rest).dropWhile Char.isAlphanum = '"' :: rest := by
  have ends :
      ∀ character ∈ ('"' :: rest).head?, character.isAlphanum = false := by
    rintro character ⟨⟩
    decide
  exact ⟨takeWhile_append_stop plain ends, dropWhile_append_stop plain ends⟩

/-- Two digests of SHA-256. -/
def sampleSha256 : Sha256 := fun data =>
  if data = Str.asBytes "pingoo1".toList then
    #v[221, 103, 92, 199, 44, 188, 225, 119,
      51, 148, 236, 247, 205, 220, 3, 19,
      94, 48, 245, 161, 107, 208, 253, 34,
      85, 111, 232, 88, 65, 239, 85, 117]
  else if data = Str.asBytes "pingoo2".toList then
    #v[13, 108, 71, 38, 91, 203, 255, 137,
      200, 25, 78, 144, 255, 186, 166, 101,
      182, 134, 140, 150, 16, 99, 131, 196,
      138, 122, 224, 40, 172, 158, 171, 0]
  else
    Vector.replicate 32 0

/-- A library that reads what the page sends. -/
def sampleProofLibrary : CaptchaLibrary where
  lc :=
    sampleAwsLc
  serde :=
    sampleSerde
  bodyFromReader :=
    sampleBodyFromReader
  sha256 :=
    sampleSha256
  formatExpires :=
    fun _ => []

/-- A result of letters and digits is sent as visible text. -/
theorem isVisibleAscii_toJson
    {nonce hash : Str}
    (plainNonce : ∀ character ∈ nonce, character.isAlphanum = true)
    (plainHash : ∀ character ∈ hash, character.isAlphanum = true) :
    ∀ character ∈ (ProofOfWorkResult.mk nonce hash).toJson,
      isVisibleAscii character = true := by
  have firstMark :
      ∀ character ∈ "\x7b\"nonce\":\"".toList,
        isVisibleAscii character = true := by
    decide
  have secondMark :
      ∀ character ∈ "\",\"hash\":\"".toList,
        isVisibleAscii character = true := by
    decide
  have lastMark :
      ∀ character ∈ "\"\x7d".toList, isVisibleAscii character = true := by
    decide
  intro character member
  unfold ProofOfWorkResult.toJson at member
  rcases List.mem_append.mp member with inFirst | member
  · exact firstMark character inFirst
  · rcases List.mem_append.mp member with inNonce | member
    · exact isVisibleAscii_of_isAlphanum (plainNonce character inNonce)
    · rcases List.mem_append.mp member with inSecond | member
      · exact secondMark character inSecond
      · rcases List.mem_append.mp member with inHash | inLast
        · exact isVisibleAscii_of_isAlphanum (plainHash character inHash)
        · exact lastMark character inLast

theorem sampleProofLibrary_readsResults :
    sampleProofLibrary.ReadsResults where
  result result plain := by
    obtain ⟨nonce, hash⟩ := result
    have plainNonce :
        ∀ character ∈ nonce, character.isAlphanum = true :=
      fun character member => plain character (List.mem_append_left _ member)
    have plainHash :
        ∀ character ∈ hash, character.isAlphanum = true :=
      fun character member => plain character (List.mem_append_right _ member)
    have visible := isVisibleAscii_toJson plainNonce plainHash
    let ending := "\"\x7d".toList
    let middle := "\",\"hash\":\"".toList
    have begun :
        Str.stripPrefix (ProofOfWorkResult.mk nonce hash).toJson
            "\x7b\"nonce\":\"".toList =
          some (nonce ++ (middle ++ (hash ++ ending))) :=
      stripPrefix_append _ _
    have isMiddle :
        middle ++ (hash ++ ending) =
          '"' :: (",\"hash\":\"".toList ++ (hash ++ ending)) :=
      rfl
    have isEnding : ending = ['"', '\x7d'] :=
      rfl
    have nonceSpan := span_isAlphanum plainNonce
      (",\"hash\":\"".toList ++ (hash ++ ending))
    rw [← isMiddle] at nonceSpan
    have hashSpan := span_isAlphanum plainHash ['\x7d']
    rw [← isEnding] at hashSpan
    have continued :
        Str.stripPrefix (middle ++ (hash ++ ending))
            "\",\"hash\":\"".toList =
          some (hash ++ ending) :=
      stripPrefix_append _ _
    change sampleBodyFromReader _ = _
    simp only [sampleBodyFromReader, map_ofUInt8_asBytes visible, begun,
      Option.bind_eq_bind, Option.bind_some, nonceSpan, continued, hashSpan]
    exact if_pos rfl

/-- What the page finds for the challenge "pingoo". -/
def sampleResult : ProofOfWorkResult where
  nonce :=
    "2".toList
  hash :=
    ("0d6c47265bcbff89c8194e90ffbaa665" ++
      "b6868c96106383c48a7ae028ac9eab00").toList

theorem proofOfWork_sample :
    proofOfWork sampleProofLibrary.sha256 "pingoo".toList (1 : UInt8).toNat 2 =
      some sampleResult := by
  decide +kernel

theorem proofOfWork_agrees_sample :
    PassesProofOfWork sampleProofLibrary "pingoo".toList 1
        sampleResult.toJson.asBytes ∧
      CarriesSolution sampleProofLibrary "pingoo".toList 1
        sampleResult.toJson.asBytes := by
  have agrees :=
    proofOfWork_agrees sampleProofLibrary_readsResults "pingoo".toList 1
  have passes := agrees.1 2 sampleResult proofOfWork_sample
  exact ⟨passes, agrees.2.1 _ passes⟩

end Sample

end Pingoo
