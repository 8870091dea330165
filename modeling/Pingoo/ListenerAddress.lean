import Pingoo.ConfigFile
import Pingoo.Library.UriReference
import Pingoo.NetLiteral

namespace Pingoo

/-!
# The address of a listener

How `parse_listener_address` reads the address of a listener from a URI, and
which texts it should take: a protocol, an IP address, a port, and nothing that
follows but a slash.  It takes exactly these when they are not written with an
IPv6 address; it takes others as well.
-/

open Fallible UriText

/-- The text that an error is displayed as. -/
def Error.toStr : Error → String
  | .config message =>
      message
  | .unspecified message =>
      s!"error loading config: {message}"
  | .tls message =>
      message
  | .io message =>
      message

namespace ListenerProtocol

/-- The text that a protocol is displayed as. -/
def toStr : ListenerProtocol → Str
  | .http =>
      "http".toList
  | .https =>
      "https".toList
  | .tcp =>
      "tcp".toList
  | .tcpAndTls =>
      "tcp+tls".toList

/-- `ListenerProtocol::from_str`. -/
def fromStr (protocolStr : Str) : Except Error ListenerProtocol :=
  if protocolStr = "http".toList then
    .ok .http
  else if protocolStr = "https".toList then
    .ok .https
  else if protocolStr = "tcp".toList then
    .ok .tcp
  else if protocolStr = "tcp+tls".toList then
    .ok .tcpAndTls
  else
    .error (.config s!"{String.ofList protocolStr} is not a valid protocol")

/-- The port of a listener that names none. -/
def defaultPort : ListenerProtocol → Option UInt16
  | .http =>
      some 80
  | .https =>
      some 443
  | .tcp =>
      none
  | .tcpAndTls =>
      none

/-- A protocol is read from its text only. -/
theorem fromStr_eq_ok_iff
    {protocolStr : Str}
    {protocol : ListenerProtocol} :
    fromStr protocolStr = .ok protocol ↔ protocolStr = protocol.toStr := by
  constructor
  · intro isRead
    unfold fromStr at isRead
    split at isRead
    · next same =>
        cases isRead
        exact same
    · split at isRead
      · next same =>
          cases isRead
          exact same
      · split at isRead
        · next same =>
            cases isRead
            exact same
        · split at isRead
          · next same =>
              cases isRead
              exact same
          · cases isRead
  · rintro rfl
    cases protocol <;> rfl

end ListenerProtocol

/-- What is read of the authority of a parsed `http::Uri`. -/
structure ListenerAuthority where
  host : Str
  portU16 : Option UInt16
  deriving Repr, DecidableEq

/-- What is read of a parsed `http::Uri`. -/
structure ListenerUri where
  schemeStr : Option Str
  authority : Option ListenerAuthority
  path : Str
  deriving Repr, DecidableEq

/-- The port of a listener: the one of its authority, or of its protocol. -/
def listenerPort
    (listenerAddress : String) :
    Option UInt16 → ListenerProtocol → Except Error UInt16
  | some port, _ =>
      .ok port
  | none, .http =>
      .ok 80
  | none, .https =>
      .ok 443
  | none, _ =>
      .error (.config
        s!"listener address {listenerAddress} is not valid: port is missing")

theorem listenerPort_eq_ok_iff
    {listenerAddress : String}
    {portU16 : Option UInt16}
    {protocol : ListenerProtocol}
    {port : UInt16} :
    listenerPort listenerAddress portU16 protocol = .ok port ↔
      portU16.or protocol.defaultPort = some port := by
  cases portU16 with
  | some written =>
      simp [listenerPort]
  | none =>
      cases protocol <;> simp [listenerPort, ListenerProtocol.defaultPort]

section Parse

variable (parseUri : Str → Except String ListenerUri)

/-- `parse_listener_address`. -/
def parseListenerAddress
    (listenerAddress : Str) : Except Error ListenerAddressConfigFile := do
  let text := String.ofList listenerAddress
  let listenerUri ←
    (parseUri listenerAddress).mapError fun err =>
      .config s!"config: error parsing listener [{text}]: {err}"
  let protocolStr := listenerUri.schemeStr.getD ListenerProtocol.http.toStr
  let protocol ←
    (ListenerProtocol.fromStr protocolStr).mapError fun err =>
      .config (s!"config: listeners.[{text}]: protocol is not valid: " ++
        err.toStr)
  -- The error of a path is made here, but it is not returned.
  let _pathError : Option Error :=
    if listenerUri.path ≠ [] then
      some (.config s!"config: listeners.[{text}]: path must be empty")
    else
      none
  let authority ←
    orError
      (.config s!"listener address {text} is not valid: authority is missing")
      listenerUri.authority
  let port ← listenerPort text authority.portU16 protocol
  let ipAddress ←
    orError
      (.config (s!"listener address {text} is not valid: " ++
        "invalid IP address syntax"))
      (IpAddr.parse authority.host)
  .ok {
    socketAddress := ⟨ipAddress, port⟩
    protocol := protocol
  }

/-- A parsed URI has what the address of a listener is made of. -/
structure ListenerUri.Gives
    (uri : ListenerUri)
    (authority : ListenerAuthority)
    (address : ListenerAddressConfigFile) : Prop where
  scheme : uri.schemeStr.getD "http".toList = address.protocol.toStr
  isAuthority : uri.authority = some authority
  port :
    authority.portU16.or address.protocol.defaultPort =
      some address.socketAddress.port
  host : IpAddr.parse authority.host = some address.socketAddress.ip

/-- An address is read when the text is a URI that gives it. -/
theorem parseListenerAddress_eq_ok_iff
    {listenerAddress : Str}
    {address : ListenerAddressConfigFile} :
    parseListenerAddress parseUri listenerAddress = .ok address ↔
      ∃ uri authority,
        parseUri listenerAddress = .ok uri ∧ uri.Gives authority address := by
  simp only [parseListenerAddress, bind_eq_ok_iff, mapError_eq_ok_iff,
    orError_eq_ok_iff, listenerPort_eq_ok_iff,
    ListenerProtocol.fromStr_eq_ok_iff, Except.ok.injEq]
  constructor
  · rintro ⟨uri, isUri, protocol, isProtocol, authority, isAuthority, port,
      isPort, ip, isIp, rfl⟩
    exact ⟨uri, authority, isUri, isProtocol, isAuthority, isPort, isIp⟩
  · rintro ⟨uri, authority, isUri, gives⟩
    exact ⟨uri, isUri, address.protocol, gives.scheme, authority,
      gives.isAuthority, address.socketAddress.port, gives.port,
      address.socketAddress.ip, gives.host, rfl⟩

end Parse

/-! ## The texts that should be addresses -/

/-- A port as it is written: digits whose value is the port. -/
structure IsPort (text : Str) (port : UInt16) : Prop where
  nonempty : text ≠ []
  digits : ∀ character ∈ text, character.isDigit = true
  value : Nat.ofDigitChars 10 text 0 = port.toNat

/-- An IP address as a host: an IPv6 address stands in brackets. -/
inductive IsIpHost : Str → IpAddr → Prop where
  | v4
      {text : Str}
      {octets : Ipv4Addr}
      (isAddress : IpAddr.parse text = some (.v4 octets)) :
      IsIpHost text (.v4 octets)
  | v6
      {text : Str}
      {segments : Vector UInt16 8}
      (isAddress : IpAddr.parse text = some (.v6 segments)) :
      IsIpHost ('[' :: (text ++ [']'])) (.v6 segments)

/-- The parts of the text of a listener's address. -/
structure DescribesListener
    (reference : Reference)
    (address : ListenerAddressConfigFile) : Prop where
  scheme :
    (reference.scheme = none ∧ address.protocol = .http) ∨
      reference.scheme = some address.protocol.toStr
  noUserInfo : reference.userInfo = none
  host : IsIpHost reference.host address.socketAddress.ip
  defaultPort :
    reference.port = none →
      address.protocol.defaultPort = some address.socketAddress.port
  port : ∀ text ∈ reference.port, IsPort text address.socketAddress.port
  noPath : reference.rest = [] ∨ reference.rest = ['/']

/-- A text that should be read as the address of a listener. -/
def IsListenerAddress
    (text : Str)
    (address : ListenerAddressConfigFile) : Prop :=
  ∃ reference : Reference,
    reference.text = text ∧ DescribesListener reference address

/-- The listeners of this text are bound to what it says, or refused. -/
def ParsedExactly
    (parseUri : Str → Except String ListenerUri)
    (text : Str) : Prop :=
  ∀ address,
    parseListenerAddress parseUri text = .ok address ↔
      IsListenerAddress text address

/-! ## What the library reads -/

/-- `http::Uri` refuses texts that are longer. -/
def maxUriLength : Nat := 65534

/-- How the library reads a text whose host stands without brackets. -/
structure ListenerUri.IsReadFrom
    (uri : ListenerUri)
    (authority : ListenerAuthority)
    (reference : Reference) : Prop where
  separated : reference.IsSeparated
  scheme : uri.schemeStr = none ↔ reference.scheme = none
  bare : reference.scheme = none → reference.rest = []
  host : authority.host = reference.host
  noPort : reference.port = none → authority.portU16 = none
  port :
    ∀ text ∈ reference.port, ∀ port,
      IsPort text port → authority.portU16 = some port

/--
What the library does: a host has a colon in brackets only, a text is read as
the parts it is put together from, one that is too long is refused, and an IPv4
address with a protocol or a port is read; without a scheme nothing follows it.
-/
structure ReadsListenerUris
    (parseUri : Str → Except String ListenerUri) : Prop where
  colon :
    ∀ {text uri authority},
      parseUri text = .ok uri →
      uri.authority = some authority →
      ':' ∈ authority.host →
      authority.host.head? = some '['
  parts :
    ∀ {text uri authority},
      parseUri text = .ok uri →
      uri.authority = some authority →
      authority.host.head? ≠ some '[' →
      ∃ reference : Reference,
        reference.text = text ∧ uri.IsReadFrom authority reference
  short :
    ∀ {text uri}, parseUri text = .ok uri → Str.len text ≤ maxUriLength
  accepts :
    ∀ {reference address octets},
      DescribesListener reference address →
      address.socketAddress.ip = .v4 octets →
      (reference.scheme = none → reference.rest = []) →
      Str.len reference.text ≤ maxUriLength →
      ∃ uri authority,
        parseUri reference.text = .ok uri ∧
        uri.authority = some authority ∧
        uri.schemeStr = reference.scheme ∧
        authority.host = reference.host

/-! ## When an address is read exactly -/

/-- The address of a listener with an IPv6 address. -/
def IsIpv6Listener (text : Str) : Prop :=
  ∃ address segments,
    IsListenerAddress text address ∧
    address.socketAddress.ip = .v6 segments

/-- The address of a listener without a scheme, with a slash at its end. -/
def IsBareWithSlash (text : Str) : Prop :=
  ∃ reference address,
    reference.text = text ∧
    DescribesListener reference address ∧
    reference.scheme = none ∧
    reference.rest = ['/']

/-- The address of a listener that is too long for a URI. -/
def IsOverlong (text : Str) : Prop :=
  ∃ address,
    IsListenerAddress text address ∧ maxUriLength < Str.len text

/-- A text has something that no address of a listener has. -/
inductive HasExtra (uri : ListenerUri) (reference : Reference) : Prop where
  | userInfo (isPresent : reference.userInfo ≠ none)
  | target (isTarget : reference.rest ≠ [] ∧ reference.rest ≠ ['/'])
  | port
      {text : Str}
      (isText : reference.port = some text)
      (isNoPort : ∀ port, ¬ IsPort text port)
  | scheme (isOther : reference.scheme ≠ uri.schemeStr)

/--
A URI with a protocol, an IPv4 host and a port, and with user information, a
path, a query or a fragment, a port that is no number, or another scheme.
-/
def IsReadWithExtra
    (parseUri : Str → Except String ListenerUri)
    (text : Str) : Prop :=
  ∃ uri authority reference address,
    parseUri text = .ok uri ∧
    uri.Gives authority address ∧
    reference.text = text ∧
    uri.IsReadFrom authority reference ∧
    HasExtra uri reference

section Exactness

variable {parseUri : Str → Except String ListenerUri}
variable {reference : Reference} {address : ListenerAddressConfigFile}
variable {text : Str}

/-- What an IPv4 address is made of separates nothing. -/
theorem isInAuthority_of_isIpv4Char
    {character : Char}
    (isChar : IpAddr.IsIpv4Char character) :
    isInAuthority character = true ∧ character ≠ ':' ∧ character ≠ '@' := by
  rcases isChar with isDigit | rfl
  · exact isInAuthority_of_isDigit isDigit
  · decide

/-- An IPv4 host stands as it is. -/
theorem parse_host_of_describes
    {octets : Ipv4Addr}
    (describes : DescribesListener reference address)
    (isIpv4 : address.socketAddress.ip = .v4 octets) :
    IpAddr.parse reference.host = some (.v4 octets) := by
  have isHost := describes.host
  rw [isIpv4] at isHost
  generalize reference.host = host at isHost ⊢
  cases isHost with
  | v4 isAddress =>
      exact isAddress

/-- The parts of an address without brackets are separated. -/
theorem isSeparated_of_describes
    {octets : Ipv4Addr}
    (describes : DescribesListener reference address)
    (isIpv4 : address.socketAddress.ip = .v4 octets) :
    reference.IsSeparated where
  scheme := by
    intro scheme isScheme
    rcases describes.scheme with ⟨noScheme, _⟩ | named
    · rw [noScheme] at isScheme
      cases isScheme
    · rw [named] at isScheme
      cases isScheme
      cases address.protocol <;> decide
  userInfo := by
    rw [describes.noUserInfo]
    nofun
  host := fun character member =>
    isInAuthority_of_isIpv4Char
      (IpAddr.isIpv4Char_of_parse (parse_host_of_describes describes isIpv4)
        character member)
  port := by
    intro port isPort character member
    have separates :=
      isInAuthority_of_isDigit
        ((describes.port port isPort).digits character member)
    exact ⟨separates.1, separates.2.2⟩
  rest := by
    intro character isHead
    rcases describes.noPath with isEmpty | isSlash
    · rw [isEmpty] at isHead
      cases isHead
    · rw [isSlash] at isHead
      cases isHead
      decide
  bare := fun _ => describes.noPath

/-- Only IPv4 hosts are parsed, and these stand without brackets. -/
theorem isIpv4_of_gives
    (laws : ReadsListenerUris parseUri)
    {uri : ListenerUri}
    {authority : ListenerAuthority}
    (isUri : parseUri text = .ok uri)
    (gives : uri.Gives authority address) :
    authority.host.head? ≠ some '[' ∧
      ∃ octets, address.socketAddress.ip = .v4 octets := by
  have noBracket : authority.host.head? ≠ some '[' := by
    intro isBracket
    obtain ⟨rest, same⟩ := List.head?_eq_some_iff.mp isBracket
    have isHost := gives.host
    rw [same, IpAddr.parse_bracket] at isHost
    cases isHost
  refine ⟨noBracket, ?_⟩
  cases isIp : address.socketAddress.ip with
  | v4 octets =>
      exact ⟨octets, rfl⟩
  | v6 segments =>
      have isHost := gives.host
      rw [isIp] at isHost
      have hasColon := (IpAddr.isIpv6Char_of_parse isHost).1
      exact absurd (laws.colon isUri gives.isAuthority hasColon) noBracket

/-- The address that is read is an IPv4 address. -/
theorem isIpv4_of_parseListenerAddress
    (laws : ReadsListenerUris parseUri)
    (parsed : parseListenerAddress parseUri text = .ok address) :
    ∃ octets, address.socketAddress.ip = .v4 octets := by
  obtain ⟨uri, authority, isUri, gives⟩ :=
    (parseListenerAddress_eq_ok_iff parseUri).mp parsed
  exact (isIpv4_of_gives laws isUri gives).2

/-- What the library reads of the text of an address are the parts of it. -/
theorem isReadFrom_of_describes
    (laws : ReadsListenerUris parseUri)
    {uri : ListenerUri}
    {authority : ListenerAuthority}
    {octets : Ipv4Addr}
    (isUri : parseUri reference.text = .ok uri)
    (isAuthority : uri.authority = some authority)
    (noBracket : authority.host.head? ≠ some '[')
    (describes : DescribesListener reference address)
    (isIpv4 : address.socketAddress.ip = .v4 octets) :
    uri.IsReadFrom authority reference := by
  obtain ⟨read, sameText, isReadFrom⟩ :=
    laws.parts isUri isAuthority noBracket
  have same : read = reference :=
    isReadFrom.separated.text_injective
      (isSeparated_of_describes describes isIpv4) sameText
  rwa [same] at isReadFrom

/-- An IPv4 address is read, unless a slash follows it without a scheme. -/
theorem parseListenerAddress_of_describes
    (laws : ReadsListenerUris parseUri)
    {octets : Ipv4Addr}
    (describes : DescribesListener reference address)
    (isIpv4 : address.socketAddress.ip = .v4 octets)
    (bare : reference.scheme = none → reference.rest = [])
    (short : Str.len reference.text ≤ maxUriLength) :
    parseListenerAddress parseUri reference.text = .ok address := by
  obtain ⟨uri, authority, isUri, isAuthority, sameScheme, sameHost⟩ :=
    laws.accepts describes isIpv4 bare short
  have isHost := parse_host_of_describes describes isIpv4
  have noBracket : authority.host.head? ≠ some '[' := by
    intro isBracket
    obtain ⟨rest, same⟩ := List.head?_eq_some_iff.mp isBracket
    rw [← sameHost, same, IpAddr.parse_bracket] at isHost
    cases isHost
  have isReadFrom :=
    isReadFrom_of_describes laws isUri isAuthority noBracket describes isIpv4
  refine (parseListenerAddress_eq_ok_iff parseUri).mpr
    ⟨uri, authority, isUri, ?_, isAuthority, ?_, ?_⟩
  · rw [sameScheme]
    rcases describes.scheme with ⟨noScheme, isHttp⟩ | named
    · rw [noScheme, isHttp]
      rfl
    · rw [named]
      rfl
  · cases isPort : reference.port with
    | none =>
        rw [isReadFrom.noPort isPort, Option.none_or]
        exact describes.defaultPort isPort
    | some port =>
        rw [isReadFrom.port port isPort _ (describes.port port isPort),
          Option.some_or]
  · rw [sameHost, isHost, isIpv4]

/-- What is read is the address that the text describes, or has an extra. -/
theorem describes_of_gives
    {uri : ListenerUri}
    {authority : ListenerAuthority}
    {octets : Ipv4Addr}
    (gives : uri.Gives authority address)
    (isIpv4 : address.socketAddress.ip = .v4 octets)
    (isReadFrom : uri.IsReadFrom authority reference)
    (noExtra : ¬ HasExtra uri reference) :
    DescribesListener reference address where
  scheme := by
    have sameScheme : reference.scheme = uri.schemeStr := by
      by_contra isOther
      exact noExtra (.scheme isOther)
    have isProtocol := gives.scheme
    rw [← sameScheme] at isProtocol
    cases isScheme : reference.scheme with
    | none =>
        left
        rw [isScheme, Option.getD_none] at isProtocol
        refine ⟨rfl, ?_⟩
        cases isOther : address.protocol <;> rw [isOther] at isProtocol <;>
          revert isProtocol <;> decide
    | some scheme =>
        right
        rw [isScheme, Option.getD_some] at isProtocol
        rw [isProtocol]
  noUserInfo := by
    by_contra isPresent
    exact noExtra (.userInfo isPresent)
  host := by
    have isHost := gives.host
    rw [isReadFrom.host, isIpv4] at isHost
    rw [isIpv4]
    exact .v4 isHost
  defaultPort := by
    intro noPort
    have isPort := gives.port
    rwa [isReadFrom.noPort noPort, Option.none_or] at isPort
  port := by
    intro port isText
    by_contra isOther
    refine noExtra (.port isText ?_)
    intro value isPort
    have isValue := gives.port
    rw [isReadFrom.port port isText value isPort, Option.some_or] at isValue
    cases isValue
    exact isOther isPort
  noPath := by
    by_contra isTarget
    exact noExtra (.target (not_or.mp isTarget))

/-- The text of an address has no extra. -/
theorem not_hasExtra_of_describes
    {uri : ListenerUri}
    {authority : ListenerAuthority}
    (gives : uri.Gives authority address)
    (isReadFrom : uri.IsReadFrom authority reference)
    (describes : DescribesListener reference address) :
    ¬ HasExtra uri reference := by
  rintro (isPresent | ⟨notEmpty, notSlash⟩ | ⟨isText, isNoPort⟩ | isOther)
  · exact isPresent describes.noUserInfo
  · exact describes.noPath.elim notEmpty notSlash
  · exact isNoPort _ (describes.port _ isText)
  · refine isOther ?_
    rcases describes.scheme with ⟨noScheme, _⟩ | named
    · rw [noScheme, isReadFrom.scheme.mpr noScheme]
    · have isProtocol := gives.scheme
      cases isScheme : uri.schemeStr with
      | none =>
          rw [isReadFrom.scheme.mp isScheme] at named
          cases named
      | some scheme =>
          rw [isScheme, Option.getD_some] at isProtocol
          rw [named, isProtocol]

/-- When a text is read exactly as the address of a listener. -/
theorem parsedExactly_iff
    (laws : ReadsListenerUris parseUri)
    (text : Str) :
    ParsedExactly parseUri text ↔
      ¬ IsIpv6Listener text ∧
      ¬ IsBareWithSlash text ∧
      ¬ IsOverlong text ∧
      ¬ IsReadWithExtra parseUri text := by
  constructor
  · intro exactly
    refine ⟨?_, ?_, ?_, ?_⟩
    · rintro ⟨address, segments, isAddress, isIpv6⟩
      obtain ⟨octets, isIpv4⟩ :=
        isIpv4_of_parseListenerAddress laws ((exactly address).mpr isAddress)
      rw [isIpv6] at isIpv4
      cases isIpv4
    · rintro ⟨reference, address, rfl, describes, noScheme, isSlash⟩
      have parsed := (exactly address).mpr ⟨reference, rfl, describes⟩
      obtain ⟨uri, authority, isUri, gives⟩ :=
        (parseListenerAddress_eq_ok_iff parseUri).mp parsed
      obtain ⟨noBracket, octets, isIpv4⟩ := isIpv4_of_gives laws isUri gives
      have isReadFrom :=
        isReadFrom_of_describes laws isUri gives.isAuthority noBracket describes
          isIpv4
      have isEmpty := isReadFrom.bare noScheme
      rw [isSlash] at isEmpty
      cases isEmpty
    · rintro ⟨address, isAddress, long⟩
      obtain ⟨uri, _, isUri, _⟩ :=
        (parseListenerAddress_eq_ok_iff parseUri).mp
          ((exactly address).mpr isAddress)
      exact Nat.not_le.mpr long (laws.short isUri)
    · rintro ⟨uri, authority, reference, address, isUri, gives, rfl, isReadFrom,
        hasExtra⟩
      obtain ⟨_, octets, isIpv4⟩ := isIpv4_of_gives laws isUri gives
      have parsed :=
        (parseListenerAddress_eq_ok_iff parseUri).mpr
          ⟨uri, authority, isUri, gives⟩
      obtain ⟨described, sameText, describes⟩ := (exactly address).mp parsed
      have same : described = reference :=
        (isSeparated_of_describes describes isIpv4).text_injective
          isReadFrom.separated sameText
      rw [same] at describes
      exact not_hasExtra_of_describes gives isReadFrom describes hasExtra
  · rintro ⟨noIpv6, noBareSlash, notLong, noExtra⟩ address
    constructor
    · intro parsed
      obtain ⟨uri, authority, isUri, gives⟩ :=
        (parseListenerAddress_eq_ok_iff parseUri).mp parsed
      obtain ⟨noBracket, octets, isIpv4⟩ := isIpv4_of_gives laws isUri gives
      obtain ⟨reference, rfl, isReadFrom⟩ :=
        laws.parts isUri gives.isAuthority noBracket
      refine ⟨reference, rfl,
        describes_of_gives gives isIpv4 isReadFrom fun hasExtra => ?_⟩
      exact noExtra ⟨uri, authority, reference, address, isUri, gives, rfl,
        isReadFrom, hasExtra⟩
    · rintro ⟨reference, rfl, describes⟩
      have isAddress : IsListenerAddress reference.text address :=
        ⟨reference, rfl, describes⟩
      have short : Str.len reference.text ≤ maxUriLength :=
        Nat.not_lt.mp fun long => notLong ⟨address, isAddress, long⟩
      have bare : reference.scheme = none → reference.rest = [] := by
        intro noScheme
        refine describes.noPath.resolve_right fun isSlash => noBareSlash ?_
        exact ⟨reference, address, rfl, describes, noScheme, isSlash⟩
      cases isIp : address.socketAddress.ip with
      | v4 octets =>
          exact parseListenerAddress_of_describes laws describes isIp bare short
      | v6 segments =>
          exact absurd ⟨address, segments, isAddress, isIp⟩ noIpv6

end Exactness

/-! ## The text that the server prints -/

/-- What the server prints of a listener: `{protocol}://{address}`. -/
def listenerText
    (protocol : ListenerProtocol)
    (address : SocketAddr) : Str :=
  protocol.toStr ++ "://".toList ++ address.toStr

/-- A port is written in decimal. -/
theorem isPort_decimal (port : UInt16) :
    IsPort (Str.decimal port.toNat) port where
  nonempty := Nat.toDigits_ne_nil
  digits := fun _ member =>
    Nat.isDigit_of_mem_toDigits (by decide) (by decide) member
  value := Nat.ofDigitChars_ten_toDigits

/-- The parts of the text that is printed with an IPv4 address. -/
def listenerReference
    (protocol : ListenerProtocol)
    (octets : Ipv4Addr)
    (port : UInt16) : Reference where
  scheme := some protocol.toStr
  userInfo := none
  host := IpAddr.dotted octets.toList
  port := some (Str.decimal port.toNat)
  rest := []

theorem text_listenerReference
    (protocol : ListenerProtocol)
    (octets : Ipv4Addr)
    (port : UInt16) :
    (listenerReference protocol octets port).text =
      listenerText protocol ⟨.v4 octets, port⟩ := by
  simp [listenerReference, listenerText, Reference.text, Reference.schemeText,
    Reference.authority, following, SocketAddr.toStr, IpAddr.toStr]

theorem describes_listenerReference
    (protocol : ListenerProtocol)
    (octets : Ipv4Addr)
    (port : UInt16) :
    DescribesListener (listenerReference protocol octets port)
      ⟨⟨.v4 octets, port⟩, protocol⟩ where
  scheme := Or.inr rfl
  noUserInfo := rfl
  host := .v4 (IpAddr.parse_dotted octets)
  defaultPort := nofun
  port := by
    rintro text ⟨⟩
    exact isPort_decimal port
  noPath := Or.inl rfl

/-- What is printed is not too long to be read. -/
theorem len_listenerText_le
    (protocol : ListenerProtocol)
    (octets : Ipv4Addr)
    (port : UInt16) :
    Str.len (listenerText protocol ⟨.v4 octets, port⟩) ≤ maxUriLength := by
  have shortHost := IpAddr.length_dotted_le octets
  have shortPort : (Str.decimal port.toNat).length ≤ 5 := by
    refine (Nat.length_toDigits_le_iff (by decide) (by decide)).mpr ?_
    exact Nat.lt_of_lt_of_le port.toNat_lt (by decide)
  have shortProtocol : protocol.toStr.length ≤ 7 := by
    cases protocol <;> decide
  have short :
      (listenerText protocol ⟨.v4 octets, port⟩).length ≤ 31 := by
    have marks : "://".toList.length = 3 :=
      rfl
    simp only [listenerText, SocketAddr.toStr, IpAddr.toStr, List.length_append,
      List.length_cons, marks]
    omega
  have bytes := Str.len_le (listenerText protocol ⟨.v4 octets, port⟩)
  rw [maxUriLength]
  omega

/--
A text is read exactly as the address of a listener when it has no IPv6
address, no slash without a scheme, is not too long and has no extra; of what
the server prints, the IPv4 addresses are read back.
-/
theorem parseListenerAddress_exact_iff
    {parseUri : Str → Except String ListenerUri}
    (laws : ReadsListenerUris parseUri) :
    (∀ text,
      ParsedExactly parseUri text ↔
        ¬ IsIpv6Listener text ∧
        ¬ IsBareWithSlash text ∧
        ¬ IsOverlong text ∧
        ¬ IsReadWithExtra parseUri text) ∧
    ∀ protocol address,
      parseListenerAddress parseUri (listenerText protocol address) =
          .ok ⟨address, protocol⟩ ↔
        ∃ octets, address.ip = .v4 octets := by
  refine ⟨parsedExactly_iff laws, fun protocol address => ?_⟩
  constructor
  · exact isIpv4_of_parseListenerAddress laws
  · rintro ⟨octets, isIpv4⟩
    obtain ⟨ip, port⟩ := address
    cases isIpv4
    have isText := text_listenerReference protocol octets port
    have short := len_listenerText_le protocol octets port
    rw [← isText] at short ⊢
    exact parseListenerAddress_of_describes laws
      (describes_listenerReference protocol octets port) rfl nofun short

/-! ## A reader of URIs -/

/-- The value of a port that is written in digits. -/
def readPort (text : Str) : Option UInt16 :=
  if text ≠ [] ∧ text.all Char.isDigit ∧
      Nat.ofDigitChars 10 text 0 < UInt16.size then
    some (Nat.ofDigitChars 10 text 0).toUInt16
  else
    none

theorem readPort_of_isPort
    {text : Str}
    {port : UInt16}
    (isPort : IsPort text port) : readPort text = some port := by
  have digits : text.all Char.isDigit = true :=
    List.all_eq_true.mpr isPort.digits
  rw [readPort, isPort.value,
    if_pos ⟨isPort.nonempty, digits, port.toNat_lt⟩, Nat.toUInt16,
    UInt16.ofNat_toNat]

/-- A URI with the given parts. -/
def plainUri (reference : Reference) : ListenerUri where
  schemeStr := reference.scheme
  authority := some ⟨reference.host, reference.port.bind readPort⟩
  path :=
    if reference.scheme ≠ none ∧ reference.rest = [] then
      ['/']
    else
      reference.rest

/-- A reader of URIs with hosts without brackets, and of one with brackets. -/
def plainParseUri (text : Str) : Except String ListenerUri :=
  let reference := readReference text
  if reference.text = text ∧ reference.IsSeparated ∧
      (reference.scheme = none → reference.rest = []) ∧
      Str.len text ≤ maxUriLength then
    .ok (plainUri reference)
  else if text = "http://[::1]:8080".toList then
    .ok {
      schemeStr := some "http".toList
      authority := some ⟨"[::1]".toList, some 8080⟩
      path := ['/']
    }
  else
    .error "invalid uri character"

/-- It reads the parts of a text that is put together. -/
theorem plainParseUri_text
    {reference : Reference}
    (separated : reference.IsSeparated)
    (bare : reference.scheme = none → reference.rest = [])
    (short : Str.len reference.text ≤ maxUriLength) :
    plainParseUri reference.text = .ok (plainUri reference) := by
  simp only [plainParseUri, separated.readReference_text]
  exact if_pos ⟨trivial, separated, bare, short⟩

theorem readsListenerUris_plainParseUri :
    ReadsListenerUris plainParseUri where
  colon := by
    intro text uri authority isUri isAuthority hasColon
    simp only [plainParseUri] at isUri
    split at isUri
    · next accepted =>
        cases isUri
        cases isAuthority
        exact absurd rfl (accepted.2.1.host ':' hasColon).2.1
    · split at isUri
      · cases isUri
        cases isAuthority
        rfl
      · cases isUri
  parts := by
    intro text uri authority isUri isAuthority noBracket
    simp only [plainParseUri] at isUri
    split at isUri
    · next accepted =>
        cases isUri
        cases isAuthority
        refine ⟨readReference text, accepted.1, accepted.2.1, Iff.rfl,
          accepted.2.2.1, rfl, ?_, ?_⟩
        · intro noPort
          simp only [noPort, Option.bind_none]
        · intro port isText value isPort
          simp only [Option.mem_def.mp isText, Option.bind_some,
            readPort_of_isPort isPort]
    · split at isUri
      · cases isUri
        cases isAuthority
        exact absurd rfl noBracket
      · cases isUri
  short := by
    intro text uri isUri
    simp only [plainParseUri] at isUri
    split at isUri
    · next accepted =>
        exact accepted.2.2.2
    · split at isUri
      · next same =>
          rw [same]
          decide
      · cases isUri
  accepts := by
    intro reference address octets describes isIpv4 bare short
    exact ⟨plainUri reference, ⟨reference.host, _⟩,
      plainParseUri_text (isSeparated_of_describes describes isIpv4) bare short,
      rfl, rfl, rfl⟩

theorem parseListenerAddress_exact_iff_sample :
    parseListenerAddress plainParseUri
        "tcp+tls://127.0.0.1:8443".toList =
      .ok ⟨⟨.v4 (.new 127 0 0 1), 8443⟩, .tcpAndTls⟩ :=
  ((parseListenerAddress_exact_iff readsListenerUris_plainParseUri).2
    .tcpAndTls ⟨.v4 (.new 127 0 0 1), 8443⟩).mpr ⟨_, rfl⟩

/-- The parts of `http://[::1]:8080`. -/
def loopbackReference : Reference where
  scheme := some "http".toList
  userInfo := none
  host := "[::1]".toList
  port := some "8080".toList
  rest := []

theorem describes_loopbackReference :
    DescribesListener loopbackReference
      ⟨⟨.v6 #v[0, 0, 0, 0, 0, 0, 0, 1], 8080⟩, .http⟩ where
  scheme := Or.inr rfl
  noUserInfo := rfl
  host :=
    show IsIpHost ('[' :: ("::1".toList ++ [']'])) _ from .v6 (by decide)
  defaultPort := nofun
  port := by
    rintro text ⟨⟩
    exact isPort_decimal 8080
  noPath := Or.inl rfl

/-- The parts of `http://127.0.0.1:8080/path`. -/
def pathReference : Reference where
  scheme := some "http".toList
  userInfo := none
  host := "127.0.0.1".toList
  port := some "8080".toList
  rest := "/path".toList

theorem isSeparated_pathReference : pathReference.IsSeparated := by
  decide

/-- The path is dropped. -/
theorem parseListenerAddress_pathReference :
    parseListenerAddress plainParseUri pathReference.text =
      .ok ⟨⟨.v4 (.new 127 0 0 1), 8080⟩, .http⟩ := by
  have isUri :=
    plainParseUri_text isSeparated_pathReference nofun (by decide)
  refine (parseListenerAddress_eq_ok_iff plainParseUri).mpr
    ⟨plainUri pathReference, ⟨"127.0.0.1".toList, some 8080⟩, isUri, ?_⟩
  exact ⟨rfl, by decide, rfl, by decide⟩

/--
The address that the server prints of a listener on `[::1]:8080` is refused, and
a path is dropped.
-/
theorem not_parsedExactly_ipv6_or_path :
    ReadsListenerUris plainParseUri ∧
      ¬ ParsedExactly plainParseUri "http://[::1]:8080".toList ∧
      ¬ ParsedExactly plainParseUri "http://127.0.0.1:8080/path".toList := by
  have isLoopback :
      loopbackReference.text = "http://[::1]:8080".toList := by
    decide
  have isPath :
      pathReference.text = "http://127.0.0.1:8080/path".toList := by
    decide
  rw [← isLoopback, ← isPath]
  refine ⟨readsListenerUris_plainParseUri, ?_, ?_⟩
  · intro exactly
    have parsed :=
      (exactly _).mpr ⟨loopbackReference, rfl, describes_loopbackReference⟩
    obtain ⟨octets, isIpv4⟩ :=
      isIpv4_of_parseListenerAddress readsListenerUris_plainParseUri parsed
    cases isIpv4
  · intro exactly
    obtain ⟨reference, sameText, describes⟩ :=
      (exactly _).mp parseListenerAddress_pathReference
    have same : reference = pathReference :=
      (isSeparated_of_describes describes rfl).text_injective
        isSeparated_pathReference sameText
    rw [same] at describes
    have noPath := describes.noPath
    revert noPath
    decide

end Pingoo
