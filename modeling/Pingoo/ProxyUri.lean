import Pingoo.ConfigFile
import Pingoo.Dns
import Pingoo.HttpProxyHeaders
import Pingoo.Library.UriText

namespace Pingoo

/-!
# The URI of the upstream

The proxy builds the URI of the forwarded request from an upstream that was
found for the configuration.  A plain upstream is designated by its socket
address; one with TLS by its host name alone, so that its port is the one of the
scheme.
-/

open Fallible Interaction UriText

/-- The hosts that the parser of URLs gives are hosts. -/
def ConfigLibrary.HostsAreHosts
    {Expression : Type}
    (library : ConfigLibrary Expression) : Prop :=
  ∀ text url,
    library.parseUrl text = .ok url → ∀ host ∈ url.hostStr, IsHost host

/-- The port that is configured by the URL of an upstream. -/
def Url.configuredPort (url : Url) : Option UInt16 :=
  url.port.or (Pingoo.defaultPort url.scheme)

/-- The target of a request in origin form: a path, perhaps with a query. -/
def Uri.OriginForm (uri : Uri) (target : Str) : Prop :=
  target.head? = some '/' ∧
    uri.pathAndQuery.map PathAndQuery.asStr = some target

/--
A URI designates the upstream that is configured by a URL, for a target: it has
the port of the URL, it has the scheme of the upstream, and the target is as it
was.
-/
structure DesignatesUpstream
    (url : Url)
    (upstream : Upstream)
    (target text : Str)
    (parts : Parts) : Prop where
  isText : UriText.parts text = some parts
  port : parts.port = url.configuredPort.map UInt16.toNat
  https : parts.scheme = "https".toList ↔ upstream.tls = true
  configuredTls : upstream.tls = true ↔ url.scheme = "https".toList
  sameTarget : parts.target = target

section Hosts

/-- What the text of an IPv4 address is made of. -/
private theorem mem_dotted
    {octets : List UInt8}
    {character : Char}
    (member : character ∈ IpAddr.dotted octets) :
    character = '.' ∨ character.isDigit = true := by
  rcases Str.mem_intercalate member with isDot | ⟨part, inParts, inPart⟩
  · exact Or.inl (List.mem_singleton.mp isDot)
  · obtain ⟨octet, _, rfl⟩ := List.mem_map.mp inParts
    exact Or.inr
      (Nat.isDigit_of_mem_toDigits (by decide) (by decide) inPart)

/-- A character of an address does not end an authority, and is no bracket. -/
private theorem inAuthority_of_isAddressChar
    {character : Char}
    (isChar : IpAddr.isAddressChar character = true) :
    isInAuthority character = true ∧ character ≠ ']' := by
  have allChars :
      ∀ other ∈ "0123456789abcdef.:".toList,
        isInAuthority other = true ∧ other ≠ ']' := by
    decide
  exact allChars character (by simpa [IpAddr.isAddressChar] using isChar)

/-- The text of a socket address is a host with its port. -/
theorem exists_host_socketAddress (address : SocketAddr) :
    ∃ host,
      IsHost host ∧
      address.toStr = host ++ ':' :: Str.decimal address.port.toNat := by
  obtain ⟨ip, port⟩ := address
  have inAuthority :
      ∀ character ∈ ip.toStr, isInAuthority character = true :=
    fun character member => (inAuthority_of_isAddressChar
      (ip.toStr_isAddressChar character member)).1
  cases ip with
  | v4 octets =>
      refine ⟨_, ⟨.name ?_ ?_, inAuthority⟩, rfl⟩
      · intro member
        rcases mem_dotted member with isDot | isDigit
        · exact absurd isDot (by decide)
        · exact absurd isDigit (by decide)
      · intro member
        rcases mem_dotted member with isDot | isDigit
        · exact absurd isDot (by decide)
        · exact absurd isDigit (by decide)
  | v6 segments =>
      have noBracket : ']' ∉ (IpAddr.v6 segments).toStr := by
        intro member
        exact (inAuthority_of_isAddressChar
          (IpAddr.toStr_isAddressChar _ _ member)).2 rfl
      refine ⟨'[' :: ((IpAddr.v6 segments).toStr ++ [']']),
        ⟨.literal noBracket, ?_⟩, ?_⟩
      · intro character member
        simp only [List.mem_cons, List.mem_append, List.not_mem_nil,
          or_false] at member
        rcases member with rfl | inAddress | rfl
        · decide
        · exact inAuthority character inAddress
        · decide
      · simp [SocketAddr.toStr]

end Hosts

section Configuration

variable {Expression : Type} {library : ConfigLibrary Expression}
variable {upstreamStr : String} {url : Url} {config : UpstreamConfig}

/-- What an accepted text is read as. -/
theorem parseUpstream_eq_ok
    (parsed : library.parseUrl upstreamStr = .ok url)
    (accepted : parseUpstream library upstreamStr = .ok config) :
    ∃ hostname port,
      url.hostStr = some hostname ∧
      url.configuredPort = some port ∧
      ((∃ ip, config = .ipAddress ⟨⟨ip, port⟩, String.ofList hostname,
          decide (url.scheme = "https".toList)⟩) ∨
        config = .domain (String.ofList hostname)
          (decide (url.scheme = "https".toList)) port) := by
  rw [parseUpstream, parsed] at accepted
  change (if url.hostStr.getD [] = [] then _ else _) = _ at accepted
  split at accepted
  · cases accepted
  · next present =>
      split at accepted
      · cases accepted
      · split at accepted
        · cases accepted
        · rw [bind_eq_ok_iff] at accepted
          obtain ⟨port, isPort, accepted⟩ := accepted
          refine ⟨url.hostStr.getD [], port, ?_, orError_eq_ok_iff.mp isPort,
            ?_⟩
          · cases isHost : url.hostStr with
            | none =>
                rw [isHost] at present
                exact absurd rfl present
            | some hostname =>
                rfl
          · dsimp only at accepted
            split at accepted
            · cases accepted
              exact Or.inl ⟨_, rfl⟩
            · split at accepted
              · cases accepted
                exact Or.inl ⟨_, rfl⟩
              · cases accepted
                exact Or.inr rfl

/--
An upstream that is found for an accepted text has the host, the port and the
protocol of its URL.
-/
theorem resolvesTo_of_parseUpstream
    (parsed : library.parseUrl upstreamStr = .ok url)
    (accepted : parseUpstream library upstreamStr = .ok config)
    {upstream : Upstream}
    (resolves : ResolvesTo config upstream) :
    url.hostStr = some upstream.hostname.toList ∧
      url.configuredPort = some upstream.socketAddress.port ∧
      (upstream.tls = true ↔ url.scheme = "https".toList) := by
  obtain ⟨hostname, port, isHost, isPort, isConfig⟩ :=
    parseUpstream_eq_ok parsed accepted
  rcases isConfig with ⟨ip, rfl⟩ | rfl
  · cases resolves
    exact ⟨isHost.trans (by simp), isPort, decide_eq_true_iff⟩
  · cases resolves with
    | domain found =>
        obtain ⟨samePort, sameHost, sameTls⟩ := mem_upstreams found
        rw [samePort, sameHost, sameTls]
        exact ⟨isHost.trans (by simp), isPort, decide_eq_true_iff⟩

end Configuration

section Built

variable {upstream : Upstream} {uri : Uri} {target : Str}

/-- The text that is built for a TLS upstream, taken apart. -/
theorem parts_upstreamUri_tls
    (isTls : upstream.tls = true)
    (isHost : IsHost upstream.hostname.toList)
    (origin : uri.OriginForm target) :
    ∃ parts,
      UriText.parts (upstreamUri upstream uri) = some parts ∧
      parts.scheme = "https".toList ∧
      parts.port = some 443 ∧
      parts.target = target := by
  have isText :
      upstreamUri upstream uri =
        "https".toList ++ "://".toList ++ upstream.hostname.toList ++
          target := by
    simp only [upstreamUri, isTls, if_true, origin.2, Option.getD_some]
    rfl
  refine ⟨⟨"https".toList, upstream.hostname.toList, target⟩, ?_, rfl, ?_,
    rfl⟩
  · rw [isText]
    exact parts_append (by decide) isHost.inAuthority origin.1
  · rw [Parts.port, writtenPort_host isHost.form]
    rfl

/-- The text that is built for a plain upstream, taken apart. -/
theorem parts_upstreamUri_plain
    (isPlain : upstream.tls = false)
    (origin : uri.OriginForm target) :
    ∃ parts,
      UriText.parts (upstreamUri upstream uri) = some parts ∧
      parts.scheme = "http".toList ∧
      parts.port = some upstream.socketAddress.port.toNat ∧
      parts.target = target := by
  obtain ⟨host, isHost, isAddress⟩ :=
    exists_host_socketAddress upstream.socketAddress
  have isText :
      upstreamUri upstream uri =
        "http".toList ++ "://".toList ++
          (host ++ ':' :: Str.decimal upstream.socketAddress.port.toNat) ++
          target := by
    simp only [upstreamUri, isPlain, Bool.false_eq_true, if_false, origin.2,
      Option.getD_some, isAddress]
    rfl
  have inAuthority :=
    isHost.isInAuthority_append_port upstream.socketAddress.port.toNat
  refine ⟨_, (congrArg UriText.parts isText).trans
    (parts_append (by decide) inAuthority origin.1), rfl, ?_, rfl⟩
  · rw [Parts.port, Str.decimal, writtenPort_append isHost.form]
    rfl

end Built

section Designation

variable {Expression : Type} {library : ConfigLibrary Expression}
variable {upstreamStr : String} {url : Url} {config : UpstreamConfig}

/-- A request is sent to the URI that is built for one of the upstreams. -/
theorem uri_of_sent
    {parseUri : Str → Option Uri}
    {oracle : ProxyOracle}
    {service : HttpProxyService}
    {ctx : RequestContext}
    {req sent : Request}
    (context : req.extension = some ctx)
    (isSent : ProxyQuery.request sent ∈
      (service.handleHttpRequest parseUri req).queries oracle) :
    ∃ upstream ∈ oracle [] (.getUpstreams service.name),
      parseUri (upstreamUri upstream req.uri) = some sent.uri := by
  obtain ⟨upstream, isUpstream, forwarded⟩ :=
    sent_eq_forwardRequest context isSent
  refine ⟨upstream, isUpstream, ?_⟩
  unfold forwardRequest at forwarded
  split at forwarded
  · cases forwarded
  · next uri isUri =>
      cases forwarded
      exact isUri

/--
The URI that is built for an upstream designates what is configured exactly when
the port is one that the URI does not have to write: when the upstream is plain,
or its port is the one of HTTPS.
-/
theorem designatesUpstream_iff
    (laws : library.HostsAreHosts)
    (parsed : library.parseUrl upstreamStr = .ok url)
    (accepted : parseUpstream library upstreamStr = .ok config)
    {upstream : Upstream}
    (resolves : ResolvesTo config upstream)
    {uri : Uri}
    {target : Str}
    (origin : uri.OriginForm target) :
    (∃ parts,
      DesignatesUpstream url upstream target (upstreamUri upstream uri)
        parts) ↔
      (url.scheme = "https".toList → url.configuredPort = some 443) := by
  obtain ⟨isHost, isPort, isTls⟩ :=
    resolvesTo_of_parseUpstream parsed accepted resolves
  cases tls : upstream.tls with
  | true =>
      obtain ⟨parts, isText, scheme, port, sameTarget⟩ :=
        parts_upstreamUri_tls tls (laws _ _ parsed _ isHost) origin
      have isHttps := isTls.mp tls
      constructor
      · rintro ⟨others, designates⟩ _
        cases isText.symm.trans designates.isText
        have samePort := designates.port
        rw [port, isPort, Option.map_some, Option.some.injEq] at samePort
        have isStandard : upstream.socketAddress.port = 443 :=
          UInt16.toNat_inj.mp samePort.symm
        rw [isPort, isStandard]
      · intro standard
        refine ⟨parts, isText, ?_, ⟨fun _ => tls, fun _ => scheme⟩, isTls,
          sameTarget⟩
        rw [port, standard isHttps]
        rfl
  | false =>
      obtain ⟨parts, isText, scheme, port, sameTarget⟩ :=
        parts_upstreamUri_plain tls origin
      have notHttps : url.scheme ≠ "https".toList := by
        intro isHttps
        rw [isTls.mpr isHttps] at tls
        cases tls
      refine iff_of_true ⟨parts, isText, ?_, ?_, isTls, sameTarget⟩
        fun isHttps => absurd isHttps notHttps
      · rw [port, isPort, Option.map_some]
      · rw [scheme, tls]
        exact iff_of_false (by decide) (by decide)

/--
For every upstream that an accepted text is found as, and every request in
origin form, the URI that is built designates what is configured exactly when
the text is not for HTTPS, or for its port; and this URI is what a request is
sent to.
-/
theorem upstreamUri_designatesUpstream_iff
    (laws : library.HostsAreHosts)
    (parsed : library.parseUrl upstreamStr = .ok url)
    (accepted : parseUpstream library upstreamStr = .ok config) :
    (∀ (upstream : Upstream) (uri : Uri) (target : Str),
      ResolvesTo config upstream →
      uri.OriginForm target →
      ((∃ parts,
        DesignatesUpstream url upstream target (upstreamUri upstream uri)
          parts) ↔
        (url.scheme = "https".toList → url.configuredPort = some 443))) ∧
    ∀ (parseUri : Str → Option Uri) (oracle : ProxyOracle)
        (service : HttpProxyService) (ctx : RequestContext)
        (req sent : Request),
      req.extension = some ctx →
      ProxyQuery.request sent ∈
        (service.handleHttpRequest parseUri req).queries oracle →
      ∃ upstream ∈ oracle [] (.getUpstreams service.name),
        parseUri (upstreamUri upstream req.uri) = some sent.uri :=
  ⟨fun _ _ _ resolves origin =>
      designatesUpstream_iff laws parsed accepted resolves origin,
    fun _ _ _ _ _ _ context isSent => uri_of_sent context isSent⟩

end Designation

section Sample

/-- The URL of an upstream with a host name and a port. -/
def backendUrl (scheme : Str) (port : UInt16) : Url where
  scheme :=
    scheme
  hostStr :=
    some "backend.internal".toList
  port :=
    some port

/-- A library that reads the URLs of two upstreams. -/
def backendLibrary : ConfigLibrary Unit where
  parseUrl :=
    fun text =>
      if text = "https://backend.internal:8443" then
        .ok (backendUrl "https".toList 8443)
      else if text = "http://backend.internal:8080" then
        .ok (backendUrl "http".toList 8080)
      else
        .error "relative URL without a base"
  compileExpression :=
    fun _ => .error "not compiled"

theorem backendLibrary_hostsAreHosts : backendLibrary.HostsAreHosts := by
  have isHost : IsHost "backend.internal".toList := {
    form := .name (by decide) (by decide)
    inAuthority := by
      decide
  }
  intro text url parsed host present
  simp only [backendLibrary] at parsed
  split at parsed
  · cases parsed
    cases present
    exact isHost
  · split at parsed
    · cases parsed
      cases present
      exact isHost
    · cases parsed

/-- The backend as it is found at one address. -/
def backendUpstream (tls : Bool) (port : UInt16) : Upstream where
  socketAddress :=
    ⟨.v4 (.new 10 0 0 7), port⟩
  hostname :=
    "backend.internal"
  tls :=
    tls

theorem resolvesTo_backendUpstream (tls : Bool) (port : UInt16) :
    ResolvesTo (.domain "backend.internal" tls port)
      (backendUpstream tls port) := by
  have found :
      backendUpstream tls port ∈
        UpstreamHost.upstreams ⟨"backend.internal", tls, port⟩
          [.v4 (.new 10 0 0 7)] := by
    exact List.mem_singleton_self _
  exact .domain found

/-- A request for `/search?q=1`. -/
def searchUri : Uri :=
  { (Request.ofPath .get "/search".toList).uri with
    pathAndQuery := some ⟨"/search".toList, some "q=1".toList⟩ }

theorem originForm_searchUri : searchUri.OriginForm "/search?q=1".toList :=
  ⟨by decide, by decide⟩

theorem upstreamUri_designatesUpstream_iff_sample :
    ∃ parts,
      DesignatesUpstream (backendUrl "http".toList 8080)
        (backendUpstream false 8080) "/search?q=1".toList
        (upstreamUri (backendUpstream false 8080) searchUri) parts := by
  have parsed :
      backendLibrary.parseUrl "http://backend.internal:8080" =
        .ok (backendUrl "http".toList 8080) :=
    rfl
  have accepted :
      parseUpstream backendLibrary "http://backend.internal:8080" =
        .ok (.domain "backend.internal" false 8080) :=
    rfl
  have designated := (upstreamUri_designatesUpstream_iff
    backendLibrary_hostsAreHosts parsed accepted).1 _ _ _
    (resolvesTo_backendUpstream false 8080) originForm_searchUri
  exact designated.mpr fun isHttps => absurd isHttps (by decide)

/-- An upstream at `https://backend.internal:8443` is asked at port 443. -/
theorem not_designatesUpstream_https_port :
    ¬ ∀ (library : ConfigLibrary Unit) (upstreamStr : String) (url : Url)
        (config : UpstreamConfig) (upstream : Upstream) (uri : Uri)
        (target : Str),
      library.HostsAreHosts →
      library.parseUrl upstreamStr = .ok url →
      parseUpstream library upstreamStr = .ok config →
      ResolvesTo config upstream →
      uri.OriginForm target →
      ∃ parts,
        DesignatesUpstream url upstream target (upstreamUri upstream uri)
          parts := by
  intro designated
  obtain ⟨parts, designates⟩ :=
    designated backendLibrary "https://backend.internal:8443" _ _ _ searchUri _
      backendLibrary_hostsAreHosts rfl rfl
      (resolvesTo_backendUpstream true 8443) originForm_searchUri
  have isText :
      UriText.parts (upstreamUri (backendUpstream true 8443) searchUri) =
        some ⟨"https".toList, "backend.internal".toList,
          "/search?q=1".toList⟩ := by
    decide
  cases isText.symm.trans designates.isText
  exact absurd designates.port (by decide)

end Sample

end Pingoo
