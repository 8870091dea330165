import Pingoo.HttpPipeline
import Pingoo.HttpProxyHeaders
import Pingoo.Library.UriText

namespace Pingoo

/-!
# The host of a request

A request carries its authority in the URI or in the `Host` header.  The URI is
already separated from its port when the handler reads the host; the header is
not.  So the handler sees the same host in both forms exactly when no port is
written, or when the host alone is too long to be kept.
-/

/-- An authority: a host, perhaps with a port. -/
structure Authority where
  host : Str
  port : Option Str
  isHost : UriText.IsHost host
  nonempty : host ≠ []
  graphic : ∀ character ∈ host, IsGraphic character
  digits : ∀ text ∈ port, ∀ character ∈ text, character.isDigit = true

namespace Authority

/-- What is written after the host. -/
def portText (authority : Authority) : Str :=
  match authority.port with
  | none => []
  | some text => ':' :: text

/-- An authority as it is written. -/
def asStr (authority : Authority) : Str :=
  authority.host ++ authority.portText

/-- An authority is written without white space. -/
theorem isGraphic_asStr (authority : Authority) :
    ∀ character ∈ authority.asStr, IsGraphic character := by
  intro character member
  rw [asStr, List.mem_append] at member
  rcases member with inHost | inPort
  · exact authority.graphic character inHost
  · cases isPort : authority.port with
    | none =>
        simp [portText, isPort] at inPort
    | some text =>
        simp only [portText, isPort, List.mem_cons] at inPort
        rcases inPort with rfl | inText
        · exact ⟨by decide, by decide⟩
        · have isDigit := authority.digits text isPort character inText
          simp only [Char.isDigit, Bool.and_eq_true, decide_eq_true_eq]
            at isDigit
          exact ⟨isDigit.1.trans' (by decide),
            Nat.lt_of_le_of_lt isDigit.2 (by decide)⟩

end Authority

/--
The request carries the authority in its URI: in HTTP/2, or in absolute form.
The URI gives the host without the port.
-/
def CarriesInUri (req : Request) (authority : Authority) : Prop :=
  req.uri.host = some authority.host

/-- The request is in origin form, with the authority in its `Host` header. -/
structure CarriesInHeader (req : Request) (authority : Authority) : Prop where
  originForm : req.uri.host = none
  header :
    ∃ value,
      req.headers.get .host = some value ∧
      value.toStr = some authority.asStr

section Hosts

variable {req : Request} {authority : Authority}

/-- Of the URI the host is read, without the port. -/
theorem getHost_of_carriesInUri
    (carries : CarriesInUri req authority) :
    getHost req = .fromStrOrDefault authority.host := by
  rw [CarriesInUri] at carries
  simp only [getHost, carries, trim_of_isGraphic authority.graphic]

/-- Of the header the whole authority is read. -/
theorem getHost_of_carriesInHeader
    (carries : CarriesInHeader req authority) :
    getHost req = .fromStrOrDefault authority.asStr := by
  obtain ⟨value, found, read⟩ := carries.header
  simp only [getHost, carries.originForm, found, read, Option.getD_some,
    trim_of_isGraphic authority.isGraphic_asStr]

/-- A text that fits is kept. -/
theorem text_fromStrOrDefault_of_le
    {capacity : Nat}
    {text : Str}
    (fits : text.len ≤ capacity) :
    (HeaplessString.fromStrOrDefault text : HeaplessString capacity).text =
      text := by
  simp [HeaplessString.fromStrOrDefault, HeaplessString.fromStr, fits]

/-- Of a text that is too long nothing is kept. -/
theorem fromStrOrDefault_of_lt
    {capacity : Nat}
    {text : Str}
    (long : capacity < text.len) :
    (HeaplessString.fromStrOrDefault text : HeaplessString capacity) =
      .new := by
  simp [HeaplessString.fromStrOrDefault, HeaplessString.fromStr,
    Nat.not_le.mpr long]

/-- The host and the whole authority are kept as the same string. -/
theorem fromStrOrDefault_host_eq_iff (authority : Authority) :
    (HeaplessString.fromStrOrDefault authority.host :
        HeaplessString hostnameMaxLength) =
        .fromStrOrDefault authority.asStr ↔
      authority.port = none ∨
        hostnameMaxLength < Str.len authority.host := by
  cases isPort : authority.port with
  | none =>
      simp [Authority.asStr, Authority.portText, isPort]
  | some text =>
      have longer :
          Str.len authority.host < Str.len authority.asStr := by
        have whole : authority.asStr = authority.host ++ ':' :: text := by
          simp [Authority.asStr, Authority.portText, isPort]
        have colon : Str.len (':' :: text) = 1 + Str.len text :=
          Str.len_append [':'] text
        rw [whole, Str.len_append, colon]
        omega
      simp only [reduceCtorEq, false_or]
      rcases Nat.lt_or_ge hostnameMaxLength (Str.len authority.host) with
        long | fits
      · rw [fromStrOrDefault_of_lt long,
          fromStrOrDefault_of_lt (Nat.lt_trans long longer)]
        exact iff_of_true rfl long
      · refine iff_of_false ?_ (Nat.not_lt.mpr fits)
        intro same
        have sameText := congrArg HeaplessString.text same
        rw [text_fromStrOrDefault_of_le fits] at sameText
        rcases Nat.lt_or_ge hostnameMaxLength (Str.len authority.asStr) with
          long | allFits
        · rw [fromStrOrDefault_of_lt long] at sameText
          exact authority.nonempty sameText
        · rw [text_fromStrOrDefault_of_le allFits] at sameText
          exact absurd (congrArg Str.len sameText) (Nat.ne_of_lt longer)

end Hosts

section Versions

variable {Expression Value : Type}

/--
The host is seen alike in two requests: by the rules and the routes, by the
captcha of a client with a user agent, and by the upstreams.
-/
structure HostSeenAlike
    (Expression Value : Type)
    (first second : Request) : Prop where
  host : getHost first = getHost second
  clientId :
    ∀ (sha256 : Sha256) (client : SocketAddr) (userAgent : Str),
      generateCaptchaClientId sha256 client.ip userAgent (getHost first).text =
        generateCaptchaClientId sha256 client.ip userAgent
          (getHost second).text
  forwarded :
    ∀ (listener : HttpListener Expression Value) (client : SocketAddr)
        (record : GeoipRecord) (headers : HeaderMap),
      (forwardHeaders (requestContext listener client record first)
          headers).getAll .xForwardedHost =
        (forwardHeaders (requestContext listener client record second)
          headers).getAll .xForwardedHost

/-- Requests with the same host are seen alike. -/
theorem hostSeenAlike_of_getHost_eq
    {first second : Request}
    (same : getHost first = getHost second) :
    HostSeenAlike Expression Value first second where
  host :=
    same
  clientId sha256 client userAgent := by
    rw [same]
  forwarded listener client record headers := by
    have sameContext :
        requestContext listener client record first =
          requestContext listener client record second := by
      simp only [requestContext, same]
    rw [sameContext]

/--
A host in the URI is seen as one in the header exactly when no port is written,
or when the host alone is longer than what is kept.
-/
theorem hostSeenAlike_iff
    (authority : Authority)
    {inUri inHeader : Request}
    (uri : CarriesInUri inUri authority)
    (header : CarriesInHeader inHeader authority) :
    HostSeenAlike Expression Value inUri inHeader ↔
      authority.port = none ∨
        hostnameMaxLength < Str.len authority.host := by
  rw [← fromStrOrDefault_host_eq_iff, ← getHost_of_carriesInUri uri,
    ← getHost_of_carriesInHeader header]
  exact ⟨HostSeenAlike.host, hostSeenAlike_of_getHost_eq⟩

end Versions

section Sample

/-- `example.com:8443`. -/
def sampleAuthority : Authority where
  host :=
    "example.com".toList
  port :=
    some "8443".toList
  isHost := {
    form := .name (by decide) (by decide)
    inAuthority := by
      decide
  }
  nonempty :=
    List.cons_ne_nil _ _
  graphic := by
    have inRange :
        ∀ character ∈ "example.com".toList,
          33 ≤ character.toNat ∧ character.toNat < 127 := by
      decide
    exact fun character member =>
      ⟨(inRange character member).1, (inRange character member).2⟩
  digits := by
    rintro text ⟨⟩
    decide

/-- A request of HTTP/2 with that authority. -/
def sampleInUri : Request :=
  { Request.ofPath .get ['/'] with
    uri := {
      host := some sampleAuthority.host
      pathAndQuery := some ⟨['/'], none⟩
      hostVisible := by
        rintro name ⟨⟩ character member
        exact (sampleAuthority.graphic character member).isVisibleAscii
    }
    version := .http2 }

/-- A request of HTTP/1.1 with that authority. -/
def sampleInHeader : Request :=
  { Request.ofPath .get ['/'] with
    headers :=
      FieldMap.insert ∅ .host
        (HeaderValue.ofVisible sampleAuthority.asStr fun character member =>
          (sampleAuthority.isGraphic_asStr character member).isVisibleAscii) }

theorem carriesInUri_sampleInUri : CarriesInUri sampleInUri sampleAuthority :=
  rfl

theorem carriesInHeader_sampleInHeader :
    CarriesInHeader sampleInHeader sampleAuthority where
  originForm :=
    rfl
  header :=
    ⟨_, rfl, HeaderValue.toStr_ofVisible _⟩

theorem hostSeenAlike_iff_sample :
    HostSeenAlike Unit Unit sampleInUri sampleInHeader ↔
      sampleAuthority.port = none ∨
        hostnameMaxLength < Str.len sampleAuthority.host :=
  hostSeenAlike_iff sampleAuthority carriesInUri_sampleInUri
    carriesInHeader_sampleInHeader

/-- With a port, the two forms give `example.com` and `example.com:8443`. -/
theorem not_hostSeenAlike_with_port :
    ¬ ∀ (authority : Authority) (inUri inHeader : Request),
      CarriesInUri inUri authority →
      CarriesInHeader inHeader authority →
      HostSeenAlike Unit Unit inUri inHeader := by
  intro alike
  have same :=
    (alike sampleAuthority sampleInUri sampleInHeader carriesInUri_sampleInUri
      carriesInHeader_sampleInHeader).host
  have different :
      (getHost sampleInUri).text ≠ (getHost sampleInHeader).text := by
    decide
  exact different (congrArg HeaplessString.text same)

end Sample

end Pingoo
