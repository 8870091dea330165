import Pingoo.CaptchaGate
import Pingoo.Library.UnixPath

namespace Pingoo

open Fallible Jwt UnixPath

/-!
# The requests that the captcha manager serves

A request below the path of the captcha is for an asset of its page, starts a
challenge, or asks for its verification.
-/

/-- What a request to the captcha manager draws, and reads while it is served. -/
structure CaptchaDraws where
  challengeRaw : Vector UInt8 32
  expNow : Utc.DateTime
  nbfNow : Utc.DateTime
  now : Utc.DateTime
  jti : Str
  entropy : Nat
  /-- The body of the request arrives as a whole. -/
  bodyArrives : Bool

/-- The call of `api_init` of a request. -/
def CaptchaDraws.initCall (draws : CaptchaDraws) (clientId : Str) :
    InitCall where
  clientId :=
    clientId
  challengeRaw :=
    draws.challengeRaw
  now :=
    draws.now
  jti :=
    draws.jti
  entropy :=
    draws.entropy

/-- The call of `api_verify` of a request. -/
def CaptchaDraws.verifyCall
    (draws : CaptchaDraws)
    (req : Request)
    (cookies : List Cookie)
    (clientId : Str) : VerifyCall where
  clientId :=
    clientId
  cookies :=
    cookies
  body :=
    if draws.bodyArrives then some req.body else none
  expNow :=
    draws.expNow
  nbfNow :=
    draws.nbfNow
  now :=
    draws.now
  jti :=
    draws.jti
  entropy :=
    draws.entropy

def captchaAssetsPath : Str :=
  "/__pingoo/captcha/assets".toList

def captchaInitPath : Str :=
  "/__pingoo/captcha/api/init".toList

def captchaVerifyPath : Str :=
  "/__pingoo/captcha/api/verify".toList

section

-- the files of the captcha page, and the content type for an extension
variable (assets : Str → Option Bytes) (mimeFromExt : Str → Str)

/-- `CaptchaManager::serve_asset`; `none` stands for a panic. -/
def serveAsset (path : Str) : Option Response :=
  match assets (path.trimStartMatches '/') with
  | some asset =>
      (((Response.builder.status .ok).header .contentType
        (HeaderValue.fromStr (mimeFromExt ((extension path).getD [])))).header
        .cacheControl
        (HeaderValue.fromStr "public, no-cache, must-revalidate".toList)).body
        (.full asset)
  | none =>
      some newNotFoundError

variable (lib : CaptchaLibrary) (manager : CaptchaManager lib.lc)

/-- `CaptchaManager::serve_captcha_request`; `none` stands for a panic. -/
def serveCaptchaRequest
    (req : Request)
    (cookies : List Cookie)
    (clientId : Str)
    (draws : CaptchaDraws) : Option Response :=
  let path := getPath req
  if path.startsWith captchaAssetsPath then
    serveAsset assets mimeFromExt path
  else if path = captchaInitPath then
    respond (apiInit lib manager clientId draws.challengeRaw draws.now.nanos
      draws.jti draws.entropy)
  else if path = captchaVerifyPath then
    respond (apiVerify lib manager cookies
      (if draws.bodyArrives then some req.body else none) clientId
      draws.expNow.nanos draws.nbfNow.nanos draws.now.nanos draws.jti
      draws.entropy)
  else
    some newNotFoundError

end

/-- The call of the API that a request makes. -/
def captchaCall
    (req : Request)
    (cookies : List Cookie)
    (clientId : Str)
    (draws : CaptchaDraws) : Option Call :=
  if getPath req = captchaInitPath then
    some (.init (draws.initCall clientId))
  else if getPath req = captchaVerifyPath then
    some (.verify (draws.verifyCall req cookies clientId))
  else
    none

/-- The client that makes a call. -/
def Call.clientId : Call → Str
  | .init call =>
      call.clientId
  | .verify call =>
      call.clientId

/-- The path that a call is made through. -/
def Call.path : Call → Str
  | .init _ =>
      captchaInitPath
  | .verify _ =>
      captchaVerifyPath

theorem captchaCall_spec
    {req : Request}
    {cookies : List Cookie}
    {clientId : Str}
    {draws : CaptchaDraws}
    {call : Call}
    (isCall : captchaCall req cookies clientId draws = some call) :
    call.clientId = clientId ∧ getPath req = call.path := by
  unfold captchaCall at isCall
  split_ifs at isCall with isInit isVerify
  · cases isCall
    exact ⟨rfl, isInit⟩
  · cases isCall
    exact ⟨rfl, isVerify⟩

/-- A request that makes a call is answered by it. -/
theorem serveCaptchaRequest_of_call
    {assets : Str → Option Bytes}
    {mimeFromExt : Str → Str}
    {lib : CaptchaLibrary}
    {manager : CaptchaManager lib.lc}
    {req : Request}
    {cookies : List Cookie}
    {clientId : Str}
    {draws : CaptchaDraws}
    {call : Call}
    (isCall : captchaCall req cookies clientId draws = some call) :
    serveCaptchaRequest assets mimeFromExt lib manager req cookies clientId
        draws = answer lib manager call := by
  have notAsset :
      captchaInitPath.startsWith captchaAssetsPath = false ∧
        captchaVerifyPath.startsWith captchaAssetsPath = false ∧
        captchaVerifyPath ≠ captchaInitPath := by
    decide
  unfold captchaCall at isCall
  unfold serveCaptchaRequest
  dsimp only
  split_ifs at isCall with isInit isVerify
  · cases isCall
    rw [isInit, if_neg (by simp [notAsset.1]), if_pos rfl]
    rfl
  · cases isCall
    rw [isVerify, if_neg (by simp [notAsset.2.1]), if_neg notAsset.2.2,
      if_pos rfl]
    rfl

end Pingoo
