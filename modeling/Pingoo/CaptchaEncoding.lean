import Pingoo.Captcha
import Pingoo.Library.Base64Engine

namespace Pingoo

/-!
# The base64 strings of the captcha

An encoding is written at the start of a buffer of zero bytes, and the whole
buffer becomes the string, whatever the number of bytes that were written.  So
the string is the encoding followed by a zero byte for each byte of the buffer
that is left over, and is exact only when none is.
-/

open Base64

/-- `encode_to_base64_heapless`, for any engine. -/
def encodeToBase64HeaplessWith
    (engine : Engine)
    (capacity : Nat)
    (data : Bytes) : Option (HeaplessString capacity) :=
  let encoded := engine.encode data
  if encoded.length ≤ capacity then
    some (HeaplessString.fromStrOrDefault
      (encoded ++ List.replicate (capacity - encoded.length) '\x00'))
  else
    none

/-- `base64::engine::general_purpose::URL_SAFE_NO_PAD`. -/
def urlSafeNoPad : GeneralPurpose where
  alphabet :=
    urlSafe
  padding :=
    false
  printable sextet := by
    have isPrintable : ∀ sextet,
        33 ≤ (urlSafeChar sextet).toNat ∧ (urlSafeChar sextet).toNat < 127 := by
      decide +kernel
    exact ⟨(isPrintable sextet).1, (isPrintable sextet).2⟩
  noPad := by
    decide +kernel

/-- The captcha encodes with this engine. -/
theorem encodeToBase64Heapless_eq (capacity : Nat) (data : Bytes) :
    encodeToBase64Heapless capacity data =
      encodeToBase64HeaplessWith urlSafeNoPad.engine capacity data :=
  rfl

/-- The string is the encoding of the bytes, and is decoded to them. -/
def EncodesExactly
    (engine : Engine)
    (capacity : Nat)
    (data : Bytes) : Prop :=
  ∃ encoded,
    encodeToBase64HeaplessWith engine capacity data = some encoded ∧
      encoded.text = engine.encode data ∧
        engine.decode encoded.text = some data

section Buffer

variable {engine : Engine} {capacity : Nat} {data : Bytes}

/-- The buffer has as many bytes as it has characters. -/
theorem len_buffer (fits : (engine.encode data).length ≤ capacity) :
    Str.len (engine.encode data ++
        List.replicate (capacity - (engine.encode data).length) '\x00') =
      capacity := by
  rw [Str.len_eq_length, List.length_append, List.length_replicate,
    Nat.add_sub_cancel' fits]
  intro character member
  rcases List.mem_append.mp member with inText | isZero
  · exact (engine.printable data character inText).utf8Size_eq_one
  · obtain ⟨-, rfl⟩ := List.mem_replicate.mp isZero
    decide

/-- What fits the buffer is encoded as the whole buffer. -/
theorem text_of_fits (fits : (engine.encode data).length ≤ capacity) :
    ∃ encoded,
      encodeToBase64HeaplessWith engine capacity data = some encoded ∧
        encoded.text =
          engine.encode data ++
            List.replicate (capacity - (engine.encode data).length) '\x00' := by
  refine ⟨_, if_pos fits, ?_⟩
  rw [HeaplessString.fromStrOrDefault, HeaplessString.fromStr,
    dif_pos (Nat.le_of_eq (len_buffer fits))]
  rfl

/-- The string is exact when the encoding fills the buffer. -/
theorem encodesExactly_iff_of_fits
    (fits : (engine.encode data).length ≤ capacity) :
    EncodesExactly engine capacity data ↔
      (engine.encode data).length = capacity := by
  obtain ⟨encoded, isEncoded, text⟩ := text_of_fits fits
  constructor
  · rintro ⟨other, isOther, exact, -⟩
    rw [isEncoded] at isOther
    cases isOther
    have sameLength := congrArg List.length (text.symm.trans exact)
    rw [List.length_append, List.length_replicate] at sameLength
    omega
  · intro filled
    have exact : encoded.text = engine.encode data := by
      rw [text, filled, Nat.sub_self, List.replicate_zero, List.append_nil]
    exact ⟨encoded, isEncoded, exact, by rw [exact, engine.decode_encode]⟩

/-- The string is exact when the number of bytes is one that fills the buffer. -/
theorem encodesExactly_generalPurpose_iff
    (purpose : GeneralPurpose)
    (fits : (purpose.encode data).length ≤ capacity) :
    EncodesExactly purpose.engine capacity data ↔
      (if purpose.padding then
        (data.length + 2) / 3 * 4
      else
        (data.length * 4 + 2) / 3) = capacity := by
  rw [encodesExactly_iff_of_fits fits, ← purpose.length_encode]
  rfl

end Buffer

section Digest

variable (digest : Vector UInt8 32)

theorem length_encode_digest :
    (urlSafeNoPad.engine.encode digest.toList).length = 43 := by
  change (urlSafeNoPad.encode digest.toList).length = 43
  simp [GeneralPurpose.length_encode, urlSafeNoPad]

/-- 32 bytes are encoded as 43 characters, and one zero byte is left. -/
theorem text_encodeToBase64Heapless :
    ((encodeToBase64Heapless 44 digest.toList).get
        (isSome_encodeToBase64Heapless digest)).text =
      urlSafe.encode digest.toList ++ ['\x00'] := by
  have length := length_encode_digest digest
  have fits : (urlSafeNoPad.engine.encode digest.toList).length ≤ 44 := by
    rw [length]
    decide
  obtain ⟨encoded, isEncoded, text⟩ := text_of_fits fits
  simp only [encodeToBase64Heapless_eq, isEncoded, Option.get_some]
  rw [text, length]
  rfl

/-- The challenge is not the encoding of its bytes. -/
theorem captchaChallenge_text :
    (captchaChallenge digest).text =
      urlSafe.encode digest.toList ++ ['\x00'] :=
  text_encodeToBase64Heapless digest

/-- A client id is not the encoding of its digest. -/
theorem generateCaptchaClientId_text
    (sha256 : Sha256)
    (ip : IpAddr)
    (userAgent hostname : Str) :
    (generateCaptchaClientId sha256 ip userAgent hostname).text =
      urlSafe.encode
          (sha256 (ip.octets ++ userAgent.asBytes ++ hostname.asBytes)).toList ++
        ['\x00'] :=
  text_encodeToBase64Heapless _

theorem not_encodesExactly_digest :
    ¬ EncodesExactly urlSafeNoPad.engine 44 digest.toList := by
  have length := length_encode_digest digest
  rw [encodesExactly_iff_of_fits (by rw [length]; decide), length]
  decide

end Digest

/--
A text that fits the buffer is encoded exactly if and only if it fills the
buffer.
-/
theorem encodesExactly_iff
    (engine : Engine)
    (capacity : Nat)
    (data : Bytes)
    (fits : (engine.encode data).length ≤ capacity) :
    EncodesExactly engine capacity data ↔
      (engine.encode data).length = capacity :=
  encodesExactly_iff_of_fits fits

/-- `base64::engine::general_purpose::URL_SAFE`. -/
def urlSafePadded : GeneralPurpose :=
  { urlSafeNoPad with padding := true }

/-- With padding, 32 bytes fill the buffer. -/
theorem encodesExactly_iff_padded :
    (urlSafePadded.engine.encode (List.replicate 32 0)).length ≤ 44 ∧
      EncodesExactly urlSafePadded.engine 44 (List.replicate 32 0) := by
  have length :
      (urlSafePadded.engine.encode (List.replicate 32 0)).length = 44 := by
    decide +kernel
  refine ⟨Nat.le_of_eq length, ?_⟩
  exact (encodesExactly_iff urlSafePadded.engine 44 _
    (Nat.le_of_eq length)).mpr length

/-- A challenge of 32 zero bytes fits the buffer, and is not encoded exactly. -/
theorem not_encodesExactly_challenge :
    ¬ ∀ (engine : Engine) (capacity : Nat) (data : Bytes),
      (engine.encode data).length ≤ capacity →
        EncodesExactly engine capacity data := by
  intro exact
  have length := length_encode_digest (.replicate 32 0)
  refine not_encodesExactly_digest (.replicate 32 0)
    (exact urlSafeNoPad.engine 44 _ ?_)
  rw [length]
  decide

end Pingoo
