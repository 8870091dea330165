import Pingoo.Library.Base64

namespace Base64

/-!
# Base64 engines

An engine writes bytes as a text of printable ASCII characters, and decodes what
it writes.  A general-purpose engine has an alphabet, and may pad its texts with
`=` to a multiple of four characters; such a text is decoded only with the
padding that it was written with.
-/

/-- A printable character of one byte that is no white space. -/
structure IsPrintable (character : Char) : Prop where
  large : 33 ≤ character.toNat
  small : character.toNat < 127

theorem IsPrintable.utf8Size_eq_one
    {character : Char}
    (printable : IsPrintable character) : character.utf8Size = 1 := by
  have small := printable.small
  refine Char.utf8Size_eq_one_iff.mpr (UInt32.le_iff_toNat_le.mpr ?_)
  exact Nat.le_of_lt small

/-- What every engine promises. -/
structure Engine where
  encode : List UInt8 → List Char
  decode : List Char → Option (List UInt8)
  printable : ∀ bytes, ∀ character ∈ encode bytes, IsPrintable character
  decode_encode : ∀ bytes, decode (encode bytes) = some bytes

/-- An alphabet of printable characters other than `=`, padded or not. -/
structure GeneralPurpose where
  alphabet : Alphabet
  padding : Bool
  printable : ∀ sextet, IsPrintable (alphabet.char sextet)
  noPad : ∀ sextet, alphabet.char sextet ≠ '='

namespace GeneralPurpose

/-- The padding of a text of some length, up to a multiple of four. -/
def pad (length : Nat) : List Char :=
  List.replicate ((4 - length % 4) % 4) '='

variable (purpose : GeneralPurpose)

def encode (bytes : List UInt8) : List Char :=
  let text := purpose.alphabet.encode bytes
  if purpose.padding then text ++ pad text.length else text

def decode (text : List Char) : Option (List UInt8) :=
  if purpose.padding then
    let body := text.takeWhile (· != '=')
    if text = body ++ pad body.length then
      purpose.alphabet.decode body
    else
      none
  else
    purpose.alphabet.decode text

/-- Padding is not mistaken for a part of the text. -/
theorem takeWhile_encode_append_pad (bytes : List UInt8) (length : Nat) :
    (purpose.alphabet.encode bytes ++ pad length).takeWhile (· != '=') =
      purpose.alphabet.encode bytes := by
  have inText : ∀ character ∈ purpose.alphabet.encode bytes,
      (character != '=') = true := by
    intro character member
    obtain ⟨sextet, rfl⟩ := purpose.alphabet.mem_encode member
    exact bne_iff_ne.mpr (purpose.noPad sextet)
  rw [List.takeWhile_append_of_pos inText, pad, List.takeWhile_replicate]
  simp

theorem decode_encode (bytes : List UInt8) :
    purpose.decode (purpose.encode bytes) = some bytes := by
  cases isPadded : purpose.padding with
  | false =>
      simp [decode, encode, isPadded]
  | true =>
      simp [decode, encode, isPadded, takeWhile_encode_append_pad]

theorem printable_of_mem_encode
    {bytes : List UInt8}
    {character : Char}
    (member : character ∈ purpose.encode bytes) : IsPrintable character := by
  have inText (inText : character ∈ purpose.alphabet.encode bytes) :
      IsPrintable character := by
    obtain ⟨sextet, rfl⟩ := purpose.alphabet.mem_encode inText
    exact purpose.printable sextet
  rw [encode] at member
  split at member
  · rcases List.mem_append.mp member with isInText | inPad
    · exact inText isInText
    · obtain ⟨-, rfl⟩ := List.mem_replicate.mp inPad
      exact ⟨by decide, by decide⟩
  · exact inText member

/-- The number of characters, which are four for every three bytes if padded. -/
theorem length_encode (bytes : List UInt8) :
    (purpose.encode bytes).length =
      if purpose.padding then
        (bytes.length + 2) / 3 * 4
      else
        (bytes.length * 4 + 2) / 3 := by
  rw [encode]
  split
  · rw [List.length_append, pad, List.length_replicate,
      purpose.alphabet.length_encode]
    omega
  · exact purpose.alphabet.length_encode bytes

/-- The engine of an alphabet. -/
def engine : Engine where
  encode :=
    purpose.encode
  decode :=
    purpose.decode
  printable _ _ member :=
    purpose.printable_of_mem_encode member
  decode_encode :=
    purpose.decode_encode

end GeneralPurpose

end Base64
