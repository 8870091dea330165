import Pingoo.Net

namespace Pingoo

/-!
# The client of a captcha

A captcha belongs to a client of a site: an address, a user agent and a host
name.  What identifies the client is a digest of the three.
-/

/-- `CAPTCHA_COOKIE`. -/
def captchaCookie : Str :=
  "__pingoo_captcha".toList

/-- `CAPTCHA_VERIFIED_COOKIE`. -/
def captchaVerifiedCookie : Str :=
  "__pingoo_captcha_verified".toList

/--
`encode_to_base64_heapless`: the encoding is written to a buffer of zero bytes,
and the whole buffer becomes the string.  It is `none` where the source panics.
-/
def encodeToBase64Heapless (capacity : Nat) (data : Bytes) :
    Option (HeaplessString capacity) :=
  let encoded := urlSafe.encode data
  if encoded.length ≤ capacity then
    some (HeaplessString.fromStrOrDefault
      (encoded ++ List.replicate (capacity - encoded.length) '\x00'))
  else
    none

/-- The bytes of an address. -/
def IpAddr.octets : IpAddr → Bytes
  | .v4 octets =>
      octets.toList
  | .v6 segments =>
      segments.toList.flatMap fun segment =>
        [(segment / 256).toUInt8, segment.toUInt8]

/-- A digest always fits the buffer. -/
theorem isSome_encodeToBase64Heapless (digest : Vector UInt8 32) :
    (encodeToBase64Heapless 44 digest.toList).isSome = true := by
  simp [encodeToBase64Heapless, urlSafe.length_encode]

section

variable (sha256 : Sha256)

/-- `generate_captcha_client_id`. -/
def generateCaptchaClientId
    (ip : IpAddr)
    (userAgent hostname : Str) : HeaplessString 44 :=
  let hash := sha256 (ip.octets ++ userAgent.asBytes ++ hostname.asBytes)
  (encodeToBase64Heapless 44 hash.toList).get
    (isSome_encodeToBase64Heapless hash)

end

end Pingoo
