import Pingoo.Http
import Pingoo.Net

namespace Pingoo

/-!
# Geographic data of an address

The record of the geoip database for one address: a country and the number of an
autonomous system.
-/

/-- One of the letters a country code is made of. -/
def isCountryLetter (byte : UInt8) : Bool :=
  65 ≤ byte && byte ≤ 90

/-- A 2-letters country code: upper-case ASCII letters only. -/
structure CountryCode where
  bytes : Vector UInt8 2
  letters : ∀ byte ∈ bytes.toList, isCountryLetter byte = true
  deriving DecidableEq

namespace CountryCode

/-- `CountryCode::from_str`. -/
def fromStr (text : Str) : Option CountryCode :=
  match text.asBytes with
  | [first, second] =>
      if letters : ∀ byte ∈ (#v[first, second] : Vector UInt8 2).toList,
          isCountryLetter byte = true then
        some ⟨#v[first, second], letters⟩
      else
        none
  | _ =>
      none

/-- `CountryCode::as_str`. -/
def asStr (country : CountryCode) : Str :=
  country.bytes.toList.map Char.ofUInt8

/-- The code that stands for an unknown country. -/
def xx : CountryCode where
  bytes :=
    #v[88, 88]
  letters := by
    decide

/-- A country code is visible text. -/
theorem asStr_isVisibleAscii (country : CountryCode) :
    ∀ character ∈ country.asStr, isVisibleAscii character = true := by
  intro character member
  obtain ⟨byte, inBytes, rfl⟩ := List.mem_map.mp member
  have letter := country.letters byte inBytes
  simp only [isCountryLetter, Bool.and_eq_true, decide_eq_true_eq,
    UInt8.le_iff_toNat_le, UInt8.reduceToNat] at letter
  have number : (Char.ofUInt8 byte).toNat = byte.toNat :=
    rfl
  simp only [isVisibleAscii, number, Bool.or_eq_true, Bool.and_eq_true,
    decide_eq_true_eq]
  left
  omega

end CountryCode

structure GeoipRecord where
  asn : UInt32
  country : CountryCode
  deriving DecidableEq

/-- `GeoipRecord::default`. -/
def GeoipRecord.default : GeoipRecord where
  asn :=
    0
  country :=
    CountryCode.xx

example : CountryCode.fromStr "XX".toList = some GeoipRecord.default.country := by
  decide

end Pingoo
