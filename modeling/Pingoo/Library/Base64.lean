import Mathlib.Data.List.FinRange
import Mathlib.Logic.Function.Basic

namespace Base64

/-!
# Base64 without padding

Three bytes are four sextets, and a rest of one or two bytes is two or three
sextets whose unused bits are zero.  Decoding refuses other unused bits, so a
text that decodes is the encoding of what it decodes to.  An alphabet spells
sextets as characters.
-/

abbrev Sextet := Fin 64

section Sextets

/-- The six high bits of a byte. -/
def first (a : UInt8) : Sextet :=
  ⟨a.toNat / 4, by have := a.toNat_lt; omega⟩

/-- The two low bits of a byte and the four high bits of the next. -/
def second (a b : UInt8) : Sextet :=
  ⟨a.toNat % 4 * 16 + b.toNat / 16, by have := b.toNat_lt; omega⟩

/-- The four low bits of a byte and the two high bits of the next. -/
def third (b c : UInt8) : Sextet :=
  ⟨b.toNat % 16 * 4 + c.toNat / 64, by have := c.toNat_lt; omega⟩

/-- The six low bits of a byte. -/
def fourth (c : UInt8) : Sextet :=
  ⟨c.toNat % 64, by omega⟩

/-- The byte of a first and a second sextet. -/
def firstByte (w x : Sextet) : UInt8 :=
  UInt8.ofNat (w.val * 4 + x.val / 16)

/-- The byte of a second and a third sextet. -/
def secondByte (x y : Sextet) : UInt8 :=
  UInt8.ofNat (x.val % 16 * 16 + y.val / 4)

/-- The byte of a third and a fourth sextet. -/
def thirdByte (y z : Sextet) : UInt8 :=
  UInt8.ofNat (y.val % 4 * 64 + z.val)

/-- The sextets of some bytes. -/
def toSextets : List UInt8 → List Sextet
  | [] =>
      []
  | [a] =>
      [first a, second a 0]
  | [a, b] =>
      [first a, second a b, third b 0]
  | a :: b :: c :: rest =>
      first a :: second a b :: third b c :: fourth c :: toSextets rest

/-- The bytes of some sextets; the unused bits have to be zero. -/
def ofSextets : List Sextet → Option (List UInt8)
  | [] =>
      some []
  | [_] =>
      none
  | [w, x] =>
      if x.val % 16 = 0 then some [firstByte w x] else none
  | [w, x, y] =>
      if y.val % 4 = 0 then some [firstByte w x, secondByte x y] else none
  | w :: x :: y :: z :: rest =>
      (ofSextets rest).map fun bytes =>
        firstByte w x :: secondByte x y :: thirdByte y z :: bytes

@[simp] theorem firstByte_first_second (a b : UInt8) :
    firstByte (first a) (second a b) = a := by
  have := a.toNat_lt
  have := b.toNat_lt
  apply UInt8.toNat_inj.mp
  simp only [firstByte, first, second, UInt8.toNat_ofNat']
  omega

@[simp] theorem secondByte_second_third (a b c : UInt8) :
    secondByte (second a b) (third b c) = b := by
  have := b.toNat_lt
  have := c.toNat_lt
  apply UInt8.toNat_inj.mp
  simp only [secondByte, second, third, UInt8.toNat_ofNat']
  omega

@[simp] theorem thirdByte_third_fourth (b c : UInt8) :
    thirdByte (third b c) (fourth c) = c := by
  have := c.toNat_lt
  apply UInt8.toNat_inj.mp
  simp only [thirdByte, third, fourth, UInt8.toNat_ofNat']
  omega

@[simp] theorem first_firstByte (w x : Sextet) :
    first (firstByte w x) = w := by
  ext
  simp only [first, firstByte, UInt8.toNat_ofNat']
  omega

@[simp] theorem second_firstByte_secondByte (w x y : Sextet) :
    second (firstByte w x) (secondByte x y) = x := by
  ext
  simp only [second, firstByte, secondByte, UInt8.toNat_ofNat']
  omega

@[simp] theorem third_secondByte_thirdByte (x y z : Sextet) :
    third (secondByte x y) (thirdByte y z) = y := by
  ext
  simp only [third, secondByte, thirdByte, UInt8.toNat_ofNat']
  omega

@[simp] theorem fourth_thirdByte (y z : Sextet) :
    fourth (thirdByte y z) = z := by
  ext
  simp only [fourth, thirdByte, UInt8.toNat_ofNat']
  omega

/-- Without a byte after it, the unused bits of a second sextet are zero. -/
theorem second_firstByte_zero
    {w x : Sextet}
    (unused : x.val % 16 = 0) :
    second (firstByte w x) 0 = x := by
  ext
  simp only [second, firstByte, UInt8.toNat_ofNat', UInt8.toNat_zero]
  omega

/-- Without a byte after it, the unused bits of a third sextet are zero. -/
theorem third_secondByte_zero
    {x y : Sextet}
    (unused : y.val % 4 = 0) :
    third (secondByte x y) 0 = y := by
  ext
  simp only [third, secondByte, UInt8.toNat_ofNat', UInt8.toNat_zero]
  omega

/-- The sextets of some bytes give the bytes back. -/
@[simp] theorem ofSextets_toSextets (bytes : List UInt8) :
    ofSextets (toSextets bytes) = some bytes := by
  induction bytes using toSextets.induct with
  | case1 =>
      rfl
  | case2 a =>
      have unused : (second a 0).val % 16 = 0 := by
        simp [second]
      rw [toSextets, ofSextets, if_pos unused, firstByte_first_second]
  | case3 a b =>
      have unused : (third b 0).val % 4 = 0 := by
        simp [third]
      rw [toSextets, ofSextets, if_pos unused, firstByte_first_second,
        secondByte_second_third]
  | case4 a b c rest inductionHypothesis =>
      simp [toSextets, ofSextets, inductionHypothesis]

/-- Sextets that have bytes are the sextets of those bytes. -/
theorem toSextets_of_ofSextets
    {sextets : List Sextet}
    {bytes : List UInt8}
    (decoded : ofSextets sextets = some bytes) :
    toSextets bytes = sextets := by
  induction sextets using ofSextets.induct generalizing bytes with
  | case1 =>
      cases decoded
      rfl
  | case2 =>
      cases decoded
  | case3 w x unused =>
      rw [ofSextets, if_pos unused] at decoded
      cases decoded
      simp [toSextets, second_firstByte_zero unused]
  | case4 w x used =>
      rw [ofSextets, if_neg used] at decoded
      cases decoded
  | case5 w x y unused =>
      rw [ofSextets, if_pos unused] at decoded
      cases decoded
      simp [toSextets, third_secondByte_zero unused]
  | case6 w x y used =>
      rw [ofSextets, if_neg used] at decoded
      cases decoded
  | case7 w x y z rest inductionHypothesis =>
      obtain ⟨others, restDecoded, rfl⟩ := Option.map_eq_some_iff.mp decoded
      simp [toSextets, inductionHypothesis restDecoded]

/-- Four sextets for three bytes, and one more than the rest of the bytes. -/
theorem length_toSextets (bytes : List UInt8) :
    (toSextets bytes).length = (bytes.length * 4 + 2) / 3 := by
  induction bytes using toSextets.induct with
  | case1 =>
      rfl
  | case2 a =>
      simp [toSextets]
  | case3 a b =>
      simp [toSextets]
  | case4 a b c rest inductionHypothesis =>
      simp only [toSextets, List.length_cons, inductionHypothesis]
      omega

end Sextets

/-- The characters that stand for the sextets. -/
structure Alphabet where
  char : Sextet → Char
  injective : Function.Injective char

namespace Alphabet

variable (alphabet : Alphabet)

/-- The sextet a character stands for. -/
def index (character : Char) : Option Sextet :=
  (List.finRange 64).find? fun sextet => alphabet.char sextet == character

/-- The text of some bytes. -/
def encode (bytes : List UInt8) : List Char :=
  (toSextets bytes).map alphabet.char

/-- The sextets of a text. -/
def indices : List Char → Option (List Sextet)
  | [] =>
      some []
  | character :: rest =>
      match alphabet.index character, indices rest with
      | some sextet, some sextets => some (sextet :: sextets)
      | _, _ => none

/-- The bytes of a text. -/
def decode (text : List Char) : Option (List UInt8) :=
  (alphabet.indices text).bind ofSextets

@[simp] theorem index_char (sextet : Sextet) :
    alphabet.index (alphabet.char sextet) = some sextet := by
  rw [index, List.find?_eq_some_iff_getElem]
  refine ⟨by simp, sextet.val, by simp, by simp, ?_⟩
  intro position earlier
  have inRange : position < (List.finRange 64).length := by
    simp only [List.length_finRange]
    omega
  have lateDifferent : (List.finRange 64)[position] ≠ sextet := by
    simp only [List.getElem_finRange, ne_eq, Fin.ext_iff, Fin.val_cast]
    omega
  simpa using fun same => lateDifferent (alphabet.injective same)

/-- A character that stands for a sextet is that sextet's character. -/
theorem char_of_index
    {character : Char}
    {sextet : Sextet}
    (found : alphabet.index character = some sextet) :
    alphabet.char sextet = character := by
  simpa using List.find?_some found

@[simp] theorem indices_map_char (sextets : List Sextet) :
    alphabet.indices (sextets.map alphabet.char) = some sextets := by
  induction sextets with
  | nil =>
      rfl
  | cons sextet rest inductionHypothesis =>
      simp [indices, inductionHypothesis]

/-- A text with sextets spells them. -/
theorem map_char_of_indices
    {text : List Char}
    {sextets : List Sextet}
    (spelled : alphabet.indices text = some sextets) :
    sextets.map alphabet.char = text := by
  induction text generalizing sextets with
  | nil =>
      cases spelled
      rfl
  | cons character rest inductionHypothesis =>
      rw [indices] at spelled
      split at spelled
      · next sextet others found restSpelled =>
          cases spelled
          rw [List.map_cons, alphabet.char_of_index found,
            inductionHypothesis restSpelled]
      · cases spelled

/-- Decoding what was encoded gives the bytes back. -/
@[simp] theorem decode_encode (bytes : List UInt8) :
    alphabet.decode (alphabet.encode bytes) = some bytes := by
  simp [decode, encode]

/-- A text that decodes is the encoding of its bytes. -/
theorem encode_of_decode
    {text : List Char}
    {bytes : List UInt8}
    (decoded : alphabet.decode text = some bytes) :
    alphabet.encode bytes = text := by
  obtain ⟨sextets, spelled, rebuilt⟩ := Option.bind_eq_some_iff.mp decoded
  rw [encode, toSextets_of_ofSextets rebuilt,
    alphabet.map_char_of_indices spelled]

theorem encode_injective : Function.Injective alphabet.encode := by
  intro bytes others same
  have decoded := congrArg alphabet.decode same
  simpa using decoded

theorem length_encode (bytes : List UInt8) :
    (alphabet.encode bytes).length = (bytes.length * 4 + 2) / 3 := by
  rw [encode, List.length_map, length_toSextets]

/-- The text is made of the characters of the alphabet. -/
theorem mem_encode
    {bytes : List UInt8}
    {character : Char}
    (member : character ∈ alphabet.encode bytes) :
    ∃ sextet, alphabet.char sextet = character := by
  obtain ⟨sextet, -, same⟩ := List.mem_map.mp member
  exact ⟨sextet, same⟩

end Alphabet

end Base64
