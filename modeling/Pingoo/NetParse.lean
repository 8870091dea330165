import Pingoo.Net

namespace Pingoo.IpAddr

/-!
# Reading network addresses

The parser of `std::net` behind `str::parse::<IpAddr>`.  A reader takes a text
and gives what it read with the text that follows it, or nothing.
-/

/-- `char::to_digit`. -/
def toDigit (radix : Nat) (character : Char) : Option Nat :=
  let digit :=
    if '0' ≤ character ∧ character ≤ '9' then
      character.toNat - '0'.toNat
    else if 'a' ≤ character ∧ character ≤ 'z' then
      character.toNat - 'a'.toNat + 10
    else if 'A' ≤ character ∧ character ≤ 'Z' then
      character.toNat - 'A'.toNat + 10
    else
      radix
  if digit < radix then some digit else none

/-- The digits at the start of a text, and what follows them. -/
def readDigits (radix : Nat) : Str → List Nat × Str
  | [] =>
      ([], [])
  | character :: rest =>
      match toDigit radix character with
      | none => ([], character :: rest)
      | some digit =>
          let (digits, following) := readDigits radix rest
          (digit :: digits, following)

/-- `Parser::read_number`, for numbers below a bound. -/
def readNumber
    (radix maxDigits bound : Nat)
    (allowZeroPrefix : Bool)
    (text : Str) : Option (Nat × Str) :=
  let (digits, rest) := readDigits radix text
  let hasLeadingZero := decide (text.head? = some '0')
  if digits = [] ∨ maxDigits < digits.length then
    none
  else if !allowZeroPrefix && hasLeadingZero && decide (1 < digits.length) then
    none
  else
    let value := digits.foldl (fun number digit => radix * number + digit) 0
    if value < bound then some (value, rest) else none

/-- `Parser::read_separator`: the first item has no separator before it. -/
def readSeparator
    {α : Type}
    (separator : Char)
    (isFirst : Bool)
    (read : Str → Option (α × Str))
    (text : Str) : Option (α × Str) :=
  if isFirst then
    read text
  else
    match text with
    | [] => none
    | character :: rest =>
        if character = separator then read rest else none

/-- One octet of an IPv4 address. -/
def readOctet (text : Str) : Option (UInt8 × Str) :=
  (readNumber 10 3 256 false text).map fun (value, rest) =>
    (value.toUInt8, rest)

/-- `Parser::read_ipv4_addr`. -/
def readIpv4Addr (text : Str) : Option (Ipv4Addr × Str) := do
  let (first, text) ← readSeparator '.' true readOctet text
  let (second, text) ← readSeparator '.' false readOctet text
  let (third, text) ← readSeparator '.' false readOctet text
  let (fourth, text) ← readSeparator '.' false readOctet text
  some (.new first second third fourth, text)

/-- One group of an IPv6 address. -/
def readGroup (text : Str) : Option (UInt16 × Str) :=
  (readNumber 16 4 65536 true text).map fun (value, rest) =>
    (value.toUInt16, rest)

/-- `u16::from_be_bytes`. -/
def fromBeBytes (high low : UInt8) : UInt16 :=
  256 * high.toUInt16 + low.toUInt16

/--
`read_groups`: groups separated by colons, at most so many, the last two of them
perhaps as an IPv4 address; whether there was one is told with the groups.
-/
def readGroups : Nat → Bool → Str → List UInt16 × Bool × Str
  | 0, _, text =>
      ([], false, text)
  | remaining + 1, isFirst, text =>
      let ipv4 :=
        if 1 ≤ remaining then
          readSeparator ':' isFirst readIpv4Addr text
        else
          none
      match ipv4 with
      | some (octets, rest) =>
          ([fromBeBytes octets[0] octets[1], fromBeBytes octets[2] octets[3]],
            true, rest)
      | none =>
          match readSeparator ':' isFirst readGroup text with
          | none => ([], false, text)
          | some (group, rest) =>
              let (groups, isIpv4, following) :=
                readGroups remaining false rest
              (group :: groups, isIpv4, following)

/-- `Parser::read_ipv6_addr`. -/
def readIpv6Addr (text : Str) : Option (List UInt16 × Str) :=
  let (head, headIpv4, text) := readGroups 8 true text
  if head.length = 8 then
    some (head, text)
  else if headIpv4 then
    none
  else
    match text with
    | ':' :: ':' :: rest =>
        let (tail, _, rest) := readGroups (7 - head.length) true rest
        let zeroes := List.replicate (8 - head.length - tail.length) 0
        some (head ++ zeroes ++ tail, rest)
    | _ => none

/-- The address of eight segments. -/
def ofSegments (segments : List UInt16) : Option IpAddr :=
  if length : segments.length = 8 then
    some (.v6 ⟨segments.toArray, by simpa using length⟩)
  else
    none

/-- `Parser::read_ip_addr`. -/
def readIpAddr (text : Str) : Option (IpAddr × Str) :=
  match readIpv4Addr text with
  | some (octets, rest) => some (.v4 octets, rest)
  | none =>
      (readIpv6Addr text).bind fun (segments, rest) =>
        (ofSegments segments).map fun ip => (ip, rest)

/-- `str::parse::<IpAddr>`: the whole text is an address. -/
def parse (text : Str) : Option IpAddr :=
  match readIpAddr text with
  | some (ip, []) => some ip
  | _ => none

example :
    parse "192.0.2.1".toList = some (.v4 (.new 192 0 2 1)) ∧
      parse "192.0.2.01".toList = none ∧
        parse "2001:db8::1".toList =
          some (.v6 #v[0x2001, 0xdb8, 0, 0, 0, 0, 0, 1]) ∧
          parse "[::1]".toList = none := by
  decide

end Pingoo.IpAddr
