import Pingoo.NetLiteral
import Pingoo.ProxyUri
import Pingoo.UpstreamDiscovery

namespace Pingoo

/-!
# Upstreams that are written with an address

The URL of an upstream with an IPv4 address is read as that address, which makes
it a static upstream of its service.  The host of a URL with an IPv6 address
stands in brackets, and is not an address: it is taken for a domain.
-/

open Fallible UriText

/-- The schemes that an upstream may be written with. -/
def upstreamSchemes : List Str :=
  ["tcp".toList, "http".toList, "https".toList]

/-- The URL of an upstream with an address: `{scheme}://{ip}:{port}`. -/
def upstreamUrl (scheme : Str) (address : SocketAddr) : Str :=
  scheme ++ "://".toList ++ address.toStr

/-- `Url::port`: a port is left out when it is the one of the scheme. -/
def elidedPort (scheme : Str) (port : UInt16) : Option UInt16 :=
  if defaultPort scheme = some port then none else some port

/--
How the library reads the URL of an address: the host of an IPv6 address is some
text in brackets, and the port of the scheme is left out.
-/
structure ConfigLibrary.ReadsAddresses
    {Expression : Type}
    (library : ConfigLibrary Expression) : Prop where
  v4 :
    ∀ scheme ∈ upstreamSchemes, ∀ octets port,
      library.parseUrl
          (String.ofList (upstreamUrl scheme ⟨.v4 octets, port⟩)) =
        .ok {
          scheme := scheme
          hostStr := some (IpAddr.dotted octets.toList)
          port := elidedPort scheme port
        }
  v6 :
    ∀ scheme ∈ upstreamSchemes, ∀ segments port,
      ∃ ip : Str,
        (∀ character ∈ ip, character.toNat < 128) ∧
        library.parseUrl
            (String.ofList (upstreamUrl scheme ⟨.v6 segments, port⟩)) =
          .ok {
            scheme := scheme
            hostStr := some ('[' :: (ip ++ [']']))
            port := elidedPort scheme port
          }

/--
An upstream is recognised by its address: it is parsed as it, whatever service
it stands in lists it as a static upstream, and it is not looked up.
-/
structure RecognisedAsIp
    {Expression : Type}
    (library : ConfigLibrary Expression)
    (scheme : Str)
    (address : SocketAddr) : Prop where
  parsed :
    ∃ hostname,
      parseUpstream library (String.ofList (upstreamUrl scheme address)) =
        .ok (.ipAddress
          ⟨address, hostname, decide (scheme = "https".toList)⟩)
  listed :
    ∀ {config servicesConfig service before after},
      parseUpstream library (String.ofList (upstreamUrl scheme address)) =
        .ok config →
      (servicesConfig.map ServiceConfig.name).Nodup →
      service ∈ servicesConfig →
      service.upstreams = before ++ config :: after →
      ∃ upstream : Upstream,
        upstream.socketAddress = address ∧
        upstream.tls = decide (scheme = "https".toList) ∧
        (getStaticUpstreams servicesConfig).lookup service.name =
          some (ipUpstreams before ++ upstream :: ipUpstreams after) ∧
        (getUpstreamHosts servicesConfig).lookup service.name =
          some (domainHosts before ++ domainHosts after)

/-- The port that was left out is found again. -/
theorem elidedPort_or_defaultPort (scheme : Str) (port : UInt16) :
    (elidedPort scheme port).or (defaultPort scheme) = some port := by
  rw [elidedPort]
  split
  · next isDefault =>
      exact isDefault
  · rfl

section Parse

variable {Expression : Type} {library : ConfigLibrary Expression}
variable {scheme : Str}

/-- How a URL with a scheme, a host and a port is classified. -/
theorem parseUpstream_of_parseUrl
    {upstreamStr : String}
    {hostname : Str}
    {port : UInt16}
    (isScheme : scheme ∈ upstreamSchemes)
    (parsed :
      library.parseUrl upstreamStr =
        .ok ⟨scheme, some hostname, elidedPort scheme port⟩)
    (present : hostname ≠ [])
    (ascii : ∀ character ∈ hostname, character.toNat < 128)
    (notLocal : hostname ≠ "localhost".toList) :
    parseUpstream library upstreamStr =
      .ok (match IpAddr.parse hostname with
        | some ip =>
            .ipAddress ⟨⟨ip, port⟩, String.ofList hostname,
              decide (scheme = "https".toList)⟩
        | none =>
            .domain (String.ofList hostname)
              (decide (scheme = "https".toList)) port) := by
  have noOther :
      ¬ (hostname.any fun character => decide (128 ≤ character.toNat)) =
        true := by
    simpa using ascii
  have allowed :
      ¬ scheme ∉ ["tcp".toList, "http".toList, "https".toList] :=
    not_not.mpr isScheme
  rw [parseUpstream, parsed]
  simp only [Except.mapError, ok_bind, Option.getD_some, if_neg present,
    if_neg noOther, if_neg allowed, elidedPort_or_defaultPort, orError,
    if_neg notLocal]
  cases IpAddr.parse hostname with
  | none =>
      rfl
  | some ip =>
      rfl

/-- An IPv4 address is parsed as it. -/
theorem parseUpstream_v4
    (laws : library.ReadsAddresses)
    (isScheme : scheme ∈ upstreamSchemes)
    (octets : Ipv4Addr)
    (port : UInt16) :
    parseUpstream library
        (String.ofList (upstreamUrl scheme ⟨.v4 octets, port⟩)) =
      .ok (.ipAddress ⟨⟨.v4 octets, port⟩,
        String.ofList (IpAddr.dotted octets.toList),
        decide (scheme = "https".toList)⟩) := by
  have isAddress := IpAddr.parse_dotted octets
  have isChar := IpAddr.isIpv4Char_of_parse isAddress
  have present : IpAddr.dotted octets.toList ≠ [] := by
    intro isEmpty
    rw [isEmpty] at isAddress
    cases isAddress
  have ascii :
      ∀ character ∈ IpAddr.dotted octets.toList, character.toNat < 128 := by
    intro character member
    rcases isChar character member with isDigit | rfl
    · exact Nat.lt_of_le_of_lt (Char.isDigit_iff_toNat.mp isDigit).2 (by decide)
    · decide
  have notLocal : IpAddr.dotted octets.toList ≠ "localhost".toList := by
    intro isLocal
    have isFirst := isChar 'l' (by rw [isLocal]; decide)
    revert isFirst
    rintro (isDigit | isPoint)
    · cases isDigit
    · cases isPoint
  rw [parseUpstream_of_parseUrl isScheme (laws.v4 scheme isScheme octets port)
    present ascii notLocal, isAddress]

/-- An IPv6 address is taken for a domain, with its brackets. -/
theorem parseUpstream_v6
    (laws : library.ReadsAddresses)
    (isScheme : scheme ∈ upstreamSchemes)
    (segments : Vector UInt16 8)
    (port : UInt16) :
    ∃ ip : Str,
      parseUpstream library
          (String.ofList (upstreamUrl scheme ⟨.v6 segments, port⟩)) =
        .ok (.domain (String.ofList ('[' :: (ip ++ [']'])))
          (decide (scheme = "https".toList)) port) := by
  obtain ⟨ip, ascii, parsed⟩ := laws.v6 scheme isScheme segments port
  have allAscii :
      ∀ character ∈ '[' :: (ip ++ [']']), character.toNat < 128 := by
    refine List.forall_mem_cons.mpr ⟨by decide, ?_⟩
    exact List.forall_mem_append.mpr ⟨ascii, by decide⟩
  refine ⟨ip, ?_⟩
  rw [parseUpstream_of_parseUrl isScheme parsed (List.cons_ne_nil _ _) allAscii
    (by rintro ⟨⟩), IpAddr.parse_bracket]

end Parse

/--
The URL of an upstream with an address is recognised exactly when it is an IPv4
address.
-/
theorem recognisedAsIp_iff
    {Expression : Type}
    {library : ConfigLibrary Expression}
    (laws : library.ReadsAddresses)
    {scheme : Str}
    (isScheme : scheme ∈ upstreamSchemes)
    (address : SocketAddr) :
    RecognisedAsIp library scheme address ↔
      ∃ octets, address.ip = .v4 octets := by
  obtain ⟨ip, port⟩ := address
  constructor
  · rintro ⟨⟨hostname, parsed⟩, _⟩
    cases ip with
    | v4 octets =>
        exact ⟨octets, rfl⟩
    | v6 segments =>
        obtain ⟨host, isDomain⟩ :=
          parseUpstream_v6 laws isScheme segments port
        rw [isDomain] at parsed
        cases parsed
  · rintro ⟨octets, rfl⟩
    have isAddress := parseUpstream_v4 laws isScheme octets port
    refine ⟨⟨_, isAddress⟩, ?_⟩
    intro config servicesConfig service before after parsed distinct member
      isEntry
    rw [isAddress] at parsed
    cases parsed
    refine ⟨⟨⟨.v4 octets, port⟩, String.ofList (IpAddr.dotted octets.toList),
      decide (scheme = "https".toList)⟩, rfl, rfl, ?_, ?_⟩
    · rw [lookup_getStaticUpstreams distinct member, isEntry, ipUpstreams,
        List.filterMap_append, List.filterMap_cons]
      rfl
    · rw [lookup_getUpstreamHosts distinct member, isEntry, domainHosts,
        List.filterMap_append, List.filterMap_cons]
      rfl

section Sample

/-- The host that is written in an authority. -/
def authorityHost (authority : Str) : Str :=
  authority.take (authority.length - (afterHost authority).length)

/-- A library that reads a scheme, a host and a port. -/
def addressLibrary : ConfigLibrary Unit where
  parseUrl text :=
    match UriText.parts text.toList with
    | none => .error "relative URL without a base"
    | some parts =>
        .ok {
          scheme := parts.scheme
          hostStr := some (authorityHost parts.authority)
          port :=
            (writtenPort parts.authority).bind fun port =>
              elidedPort parts.scheme port.toUInt16
        }
  compileExpression _ :=
    .error "not compiled"

/-- The library reads a host and the port that is written after it. -/
theorem parseUrl_addressLibrary
    {scheme host : Str}
    {address : SocketAddr}
    (isScheme : scheme ∈ upstreamSchemes)
    (isHost : IsHost host)
    (isText : address.toStr = host ++ ':' :: Str.decimal address.port.toNat) :
    addressLibrary.parseUrl (String.ofList (upstreamUrl scheme address)) =
      .ok {
        scheme := scheme
        hostStr := some host
        port := elidedPort scheme address.port
      } := by
  have noColon : ∀ scheme ∈ upstreamSchemes, ':' ∉ scheme := by
    decide
  have inAuthority :
      ∀ character ∈ address.toStr, isInAuthority character = true := by
    rw [isText]
    exact isHost.isInAuthority_append_port address.port.toNat
  have isParts :=
    parts_append_rest (noColon scheme isScheme) inAuthority []
  simp only [List.append_nil, List.takeWhile_nil, List.dropWhile_nil]
    at isParts
  have isPort :
      ∀ character ∈ (':' :: Str.decimal address.port.toNat).head?,
        character = ':' := by
    rintro character ⟨⟩
    rfl
  have hostRead : authorityHost address.toStr = host := by
    rw [authorityHost, isText, afterHost_append isHost.form isPort,
      List.length_append, Nat.add_sub_cancel, List.take_left]
  have portRead : writtenPort address.toStr = some address.port.toNat := by
    rw [isText]
    exact writtenPort_append isHost.form address.port.toNat
  simp only [addressLibrary, String.toList_ofList, upstreamUrl, isParts,
    hostRead, portRead, Option.bind_some, Nat.toUInt16, UInt16.ofNat_toNat]

theorem readsAddresses_addressLibrary : addressLibrary.ReadsAddresses where
  v4 := by
    intro scheme isScheme octets port
    obtain ⟨host, isHost, isText⟩ :=
      exists_host_socketAddress ⟨.v4 octets, port⟩
    have sameHost : IpAddr.dotted octets.toList = host :=
      List.append_cancel_right isText
    rw [sameHost]
    exact parseUrl_addressLibrary isScheme isHost isText
  v6 := by
    intro scheme isScheme segments port
    obtain ⟨host, isHost, isText⟩ :=
      exists_host_socketAddress ⟨.v6 segments, port⟩
    have sameHost :
        '[' :: ((IpAddr.v6 segments).toStr ++ [']']) = host := by
      refine List.append_cancel_right (Eq.trans ?_ isText)
      simp [SocketAddr.toStr]
    refine ⟨(IpAddr.v6 segments).toStr, ?_, ?_⟩
    · intro character member
      have allChars :
          ∀ other ∈ "0123456789abcdef.:".toList, other.toNat < 128 := by
        decide
      have isChar := IpAddr.toStr_isAddressChar _ character member
      exact allChars character (by simpa [IpAddr.isAddressChar] using isChar)
    · rw [sameHost]
      exact parseUrl_addressLibrary isScheme isHost isText

theorem recognisedAsIp_iff_sample :
    RecognisedAsIp addressLibrary "https".toList
      ⟨.v4 (.new 192 0 2 1), 443⟩ :=
  (recognisedAsIp_iff readsAddresses_addressLibrary (by decide) _).mpr
    ⟨.new 192 0 2 1, rfl⟩

/-- The upstream `http://[::1]:8080` is taken for the domain `[::1]`. -/
theorem not_recognisedAsIp_ipv6 :
    addressLibrary.ReadsAddresses ∧
      parseUpstream addressLibrary "http://[::1]:8080" =
        .ok (.domain "[::1]" false 8080) ∧
      ¬ RecognisedAsIp addressLibrary "http".toList
        ⟨.v6 #v[0, 0, 0, 0, 0, 0, 0, 1], 8080⟩ := by
  refine ⟨readsAddresses_addressLibrary, by decide, ?_⟩
  have isScheme : "http".toList ∈ upstreamSchemes := by
    decide
  rintro ⟨⟨hostname, parsed⟩, _⟩
  obtain ⟨ip, isDomain⟩ :=
    parseUpstream_v6 readsAddresses_addressLibrary isScheme
      #v[0, 0, 0, 0, 0, 0, 0, 1] 8080
  rw [isDomain] at parsed
  cases parsed

end Sample

end Pingoo
