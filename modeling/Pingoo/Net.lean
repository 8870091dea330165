import Pingoo.Text
import Mathlib.Data.List.Basic

namespace Pingoo

/-!
# Network addresses

The addresses of `std::net` with the text they are displayed as.
-/

/-- `std::net::Ipv4Addr`, by its octets. -/
abbrev Ipv4Addr := Vector UInt8 4

/-- `Ipv4Addr::new`. -/
abbrev Ipv4Addr.new (first second third fourth : UInt8) : Ipv4Addr :=
  #v[first, second, third, fourth]

/-- `std::net::IpAddr`. -/
inductive IpAddr where
  | v4 (octets : Ipv4Addr)
  | v6 (segments : Vector UInt16 8)
  deriving Repr, DecidableEq

/-- `std::net::SocketAddr`, as `SocketAddr::new` builds it. -/
structure SocketAddr where
  ip : IpAddr
  port : UInt16
  deriving Repr, DecidableEq

namespace IpAddr

/-- `Ipv4Addr::LOCALHOST`. -/
def localhost : IpAddr :=
  .v4 (.new 127 0 0 1)

/-- The dotted form of four octets. -/
def dotted (octets : List UInt8) : Str :=
  List.intercalate ['.'] (octets.map fun octet => Str.decimal octet.toNat)

/-- The colon-separated form of some segments. -/
def fmtSubslice (segments : List UInt16) : Str :=
  List.intercalate [':'] 
    (segments.map fun segment => Str.lowerHex segment.toNat)

/-- A run of zero segments: where it starts and how long it is. -/
structure Span where
  start : Nat
  len : Nat
  deriving Repr, DecidableEq

/-- The first of the longest runs of zero segments. -/
def longestZeroes (segments : List UInt16) : Span :=
  (segments.zipIdx.foldl
    (fun (spans : Span × Span) (entry : UInt16 × Nat) =>
      let (longest, current) := spans
      if entry.1 = 0 then
        let current : Span := {
          start := if current.len = 0 then entry.2 else current.start
          len := current.len + 1
        }
        (if longest.len < current.len then current else longest, current)
      else
        (longest, ⟨0, 0⟩))
    (⟨0, 0⟩, ⟨0, 0⟩)).1

/-- `Ipv6Addr::to_ipv4_mapped`: the octets of an address `::ffff:a.b.c.d`. -/
def toIpv4Mapped (segments : List UInt16) : Option (List UInt8) :=
  match segments with
  | [0, 0, 0, 0, 0, 0xffff, high, low] =>
      some [(high / 256).toUInt8, high.toUInt8, (low / 256).toUInt8, low.toUInt8]
  | _ =>
      none

/-- The text of an IPv6 address. -/
def fmtV6 (segments : List UInt16) : Str :=
  match toIpv4Mapped segments with
  | some octets =>
      "::ffff:".toList ++ dotted octets
  | none =>
      let zeroes := longestZeroes segments
      if 1 < zeroes.len then
        fmtSubslice (segments.take zeroes.start) ++ "::".toList ++
          fmtSubslice (segments.drop (zeroes.start + zeroes.len))
      else
        fmtSubslice segments

/-- The text of an address, `IpAddr`'s `Display`. -/
def toStr : IpAddr → Str
  | .v4 octets =>
      dotted octets.toList
  | .v6 segments =>
      fmtV6 segments.toList

/-- What the text of an address is made of. -/
def isAddressChar (character : Char) : Bool :=
  "0123456789abcdef.:".toList.contains character

private theorem isAddressChar_of_mem_toDigits
    {base number : Nat}
    (baseLarge : 1 < base)
    (baseSmall : base ≤ 16)
    {character : Char}
    (member : character ∈ Nat.toDigits base number) :
    isAddressChar character = true := by
  obtain ⟨digit, small, rfl⟩ := Str.mem_toDigits baseLarge member
  have digits : ∀ digit < 16, isAddressChar (Nat.digitChar digit) = true := by
    decide
  exact digits digit (Nat.lt_of_lt_of_le small baseSmall)

private theorem isAddressChar_dotted
    {octets : List UInt8}
    {character : Char}
    (member : character ∈ dotted octets) :
    isAddressChar character = true := by
  rcases Str.mem_intercalate member with isDot | ⟨part, inParts, inPart⟩
  · rw [List.mem_singleton.mp isDot]
    decide
  · obtain ⟨octet, -, rfl⟩ := List.mem_map.mp inParts
    exact isAddressChar_of_mem_toDigits (by omega) (by omega) inPart

private theorem isAddressChar_fmtSubslice
    {segments : List UInt16}
    {character : Char}
    (member : character ∈ fmtSubslice segments) :
    isAddressChar character = true := by
  rcases Str.mem_intercalate member with isColon | ⟨part, inParts, inPart⟩
  · rw [List.mem_singleton.mp isColon]
    decide
  · obtain ⟨segment, -, rfl⟩ := List.mem_map.mp inParts
    exact isAddressChar_of_mem_toDigits (by omega) (by omega) inPart

/-- The text of an address is hexadecimal digits, dots and colons. -/
theorem toStr_isAddressChar (ip : IpAddr) :
    ∀ character ∈ ip.toStr, isAddressChar character = true := by
  intro character member
  cases ip with
  | v4 octets =>
      exact isAddressChar_dotted member
  | v6 segments =>
      simp only [toStr, fmtV6] at member
      split at member
      · rcases List.mem_append.mp member with isPrefix | inOctets
        · have prefixChars : ∀ other ∈ "::ffff:".toList,
              isAddressChar other = true := by
            decide
          exact prefixChars character isPrefix
        · exact isAddressChar_dotted inOctets
      · split at member
        · simp only [List.mem_append] at member
          rcases member with (before | isColon) | after
          · exact isAddressChar_fmtSubslice before
          · have colonChars : ∀ other ∈ "::".toList,
                isAddressChar other = true := by
              decide
            exact colonChars character isColon
          · exact isAddressChar_fmtSubslice after
        · exact isAddressChar_fmtSubslice member

end IpAddr

/-- The text of a socket address; an IPv6 host stands in brackets. -/
def SocketAddr.toStr (address : SocketAddr) : Str :=
  match address.ip with
  | .v4 _ =>
      address.ip.toStr ++ ':' :: Str.decimal address.port.toNat
  | .v6 _ =>
      '[' :: address.ip.toStr ++ ']' :: ':' ::
        Str.decimal address.port.toNat

example :
    IpAddr.toStr (.v6 #v[0x2001, 0xdb8, 0, 0, 1, 0, 0, 1]) =
      "2001:db8::1:0:0:1".toList := by
  decide

end Pingoo
