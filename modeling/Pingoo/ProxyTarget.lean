import Pingoo.HttpHost
import Pingoo.ProxyUri

namespace Pingoo

/-!
# The target of a request and the destination

The URI of the upstream is the text of its authority with the target of the
client's request after it.  A target that begins with a slash or a question mark
ends the authority.  The asterisk form does not: it becomes a part of it.
-/

open UriText

/-- The forms of a request target. -/
inductive RequestTarget where
  | originForm (path : Str) (query : Option Str)
  | absoluteForm (authority : Authority) (path query : Option Str)
  | asteriskForm
  | authorityForm (authority : Authority)

theorem Authority.hostVisible
    (authority : Authority) :
    ∀ name ∈ some authority.host,
      ∀ character ∈ name, isVisibleAscii character = true := by
  rintro _ ⟨⟩ character member
  exact (authority.graphic character member).isVisibleAscii

theorem hostVisible_none :
    ∀ name ∈ (none : Option Str),
      ∀ character ∈ name, isVisibleAscii character = true := by
  rintro _ ⟨⟩

/--
The URI of a target.  A path is written after a slash; in absolute form it may
be missing.  The authority form has neither path nor query.
-/
def RequestTarget.uri : RequestTarget → Uri
  | .originForm path query => {
      host := none
      pathAndQuery := some ⟨'/' :: path, query⟩
      hostVisible := hostVisible_none
    }
  | .absoluteForm authority path query => {
      host := some authority.host
      pathAndQuery := some ⟨(path.map ('/' :: ·)).getD [], query⟩
      hostVisible := authority.hostVisible
    }
  | .asteriskForm => {
      host := none
      pathAndQuery := some ⟨['*'], none⟩
      hostVisible := hostVisible_none
    }
  | .authorityForm authority => {
      host := some authority.host
      pathAndQuery := none
      hostVisible := authority.hostVisible
    }

/-- The text of a target that is put after the authority of the upstream. -/
def Uri.target (uri : Uri) : Str :=
  (uri.pathAndQuery.map PathAndQuery.asStr).getD ['/']

/--
The target of a URI ends the authority that it is put after.  A path without a
slash, as HTTP/2 can carry one, does not.
-/
def Uri.EndsAuthority (uri : Uri) : Prop :=
  ∀ character ∈ uri.target.head?, isInAuthority character = false

/-- The scheme that is formatted for an upstream. -/
def Upstream.scheme (upstream : Upstream) : Str :=
  if upstream.tls then "https".toList else "http".toList

/-- The authority that is formatted for an upstream. -/
def Upstream.authority (upstream : Upstream) : Str :=
  if upstream.tls then
    upstream.hostname.toList
  else
    upstream.socketAddress.toStr

/-- The text that is built has the scheme and the authority of the upstream. -/
def IsFor (upstream : Upstream) (text : Str) : Prop :=
  ∃ target,
    UriText.parts text =
      some ⟨upstream.scheme, upstream.authority, target⟩

/-- Two requests are sent to the same destination: that of the upstream. -/
structure SameDestination
    (upstream : Upstream)
    (first second : Uri) : Prop where
  first : IsFor upstream (upstreamUri upstream first)
  second : IsFor upstream (upstreamUri upstream second)

/--
An upstream that the service may have: one that is found for an accepted text of
the configuration, or a plain one, as those of Docker are.
-/
inductive Upstream.Known
    {Expression : Type}
    (library : ConfigLibrary Expression)
    (upstream : Upstream) : Prop where
  | configured
      {upstreamStr : String}
      {url : Url}
      {config : UpstreamConfig}
      (parsed : library.parseUrl upstreamStr = .ok url)
      (accepted : parseUpstream library upstreamStr = .ok config)
      (resolves : ResolvesTo config upstream)
  | plain
      (isPlain : upstream.tls = false)

section Built

variable {upstream : Upstream}

/-- The text is the authority with the target after it. -/
theorem upstreamUri_eq (upstream : Upstream) (uri : Uri) :
    upstreamUri upstream uri =
      upstream.scheme ++ "://".toList ++ upstream.authority ++ uri.target := by
  cases tls : upstream.tls <;>
    simp [upstreamUri, Upstream.scheme, Upstream.authority, Uri.target, tls]

theorem notMem_scheme (upstream : Upstream) : ':' ∉ upstream.scheme := by
  unfold Upstream.scheme
  split <;> decide

/-- The text of a socket address does not end an authority. -/
theorem isInAuthority_socketAddress (address : SocketAddr) :
    ∀ character ∈ address.toStr, isInAuthority character = true := by
  obtain ⟨host, isHost, isText⟩ := exists_host_socketAddress address
  rw [isText]
  exact isHost.isInAuthority_append_port address.port.toNat

/-- The authority of a known upstream is not ended by itself. -/
theorem isInAuthority_of_known
    {Expression : Type}
    {library : ConfigLibrary Expression}
    (laws : library.HostsAreHosts)
    (known : upstream.Known library) :
    ∀ character ∈ upstream.authority, isInAuthority character = true := by
  unfold Upstream.authority
  split
  · next isTls =>
      cases known with
      | configured parsed accepted resolves =>
          have isHost :=
            (resolvesTo_of_parseUpstream parsed accepted resolves).1
          exact (laws _ _ parsed _ isHost).inAuthority
      | plain isPlain =>
          rw [isTls] at isPlain
          cases isPlain
  · exact isInAuthority_socketAddress upstream.socketAddress

/-- The destination is kept exactly when the target ends the authority. -/
theorem isFor_upstreamUri_iff
    (inAuthority :
      ∀ character ∈ upstream.authority, isInAuthority character = true)
    (uri : Uri) :
    IsFor upstream (upstreamUri upstream uri) ↔ uri.EndsAuthority := by
  have built :=
    parts_append_rest (notMem_scheme upstream) inAuthority uri.target
  rw [IsFor, upstreamUri_eq, built, Uri.EndsAuthority]
  simp only [Option.some.injEq, Parts.mk.injEq, true_and,
    List.append_right_eq_self, exists_and_left, exists_eq', and_true]
  cases uri.target with
  | nil =>
      simp
  | cons first rest =>
      simp [List.takeWhile_cons]

/--
Two requests with any URIs for a known upstream are sent to its destination
exactly when both targets end the authority.
-/
theorem sameDestination_iff_endsAuthority
    {Expression : Type}
    {library : ConfigLibrary Expression}
    (laws : library.HostsAreHosts)
    (known : upstream.Known library)
    (first second : Uri) :
    SameDestination upstream first second ↔
      first.EndsAuthority ∧ second.EndsAuthority := by
  have inAuthority := isInAuthority_of_known laws known
  rw [← isFor_upstreamUri_iff inAuthority, ← isFor_upstreamUri_iff inAuthority]
  exact ⟨fun same => ⟨same.first, same.second⟩,
    fun both => ⟨both.1, both.2⟩⟩

end Built

section Targets

/-- Only the asterisk form does not end an authority. -/
theorem endsAuthority_uri_iff (target : RequestTarget) :
    target.uri.EndsAuthority ↔ target ≠ .asteriskForm := by
  cases target with
  | originForm path query =>
      cases query <;>
        simp [Uri.EndsAuthority, RequestTarget.uri, Uri.target,
          PathAndQuery.asStr, isInAuthority]
  | absoluteForm authority path query =>
      cases path <;> cases query <;>
        simp [Uri.EndsAuthority, RequestTarget.uri, Uri.target,
          PathAndQuery.asStr, isInAuthority]
  | asteriskForm =>
      simp [Uri.EndsAuthority, RequestTarget.uri, Uri.target,
        PathAndQuery.asStr, isInAuthority]
  | authorityForm authority =>
      simp [Uri.EndsAuthority, RequestTarget.uri, Uri.target, isInAuthority]

/--
Two requests for a known upstream are sent to its destination exactly when
neither target is in asterisk form.
-/
theorem sameDestination_iff
    {Expression : Type}
    {library : ConfigLibrary Expression}
    (laws : library.HostsAreHosts)
    {upstream : Upstream}
    (known : upstream.Known library)
    (first second : RequestTarget) :
    SameDestination upstream first.uri second.uri ↔
      first ≠ .asteriskForm ∧ second ≠ .asteriskForm := by
  rw [sameDestination_iff_endsAuthority laws known, endsAuthority_uri_iff,
    endsAuthority_uri_iff]

end Targets

section Sample

/-- The upstream that is found for `http://backend.internal:8080`. -/
theorem known_backendUpstream :
    (backendUpstream false 8080).Known backendLibrary :=
  .configured
    (show backendLibrary.parseUrl "http://backend.internal:8080" = .ok _
      from rfl)
    rfl (resolvesTo_backendUpstream false 8080)

theorem sameDestination_iff_sample :
    SameDestination (backendUpstream false 8080)
        (RequestTarget.originForm "search".toList (some "q=1".toList)).uri
        (RequestTarget.authorityForm sampleAuthority).uri ↔
      RequestTarget.originForm "search".toList (some "q=1".toList) ≠
          .asteriskForm ∧
        RequestTarget.authorityForm sampleAuthority ≠ .asteriskForm :=
  sameDestination_iff backendLibrary_hostsAreHosts known_backendUpstream _ _

/-- The URI for `OPTIONS *` is `http://10.0.0.7:8080*`. -/
theorem not_sameDestination_asteriskForm :
    ¬ ∀ (library : ConfigLibrary Unit) (upstream : Upstream)
        (first second : RequestTarget),
      library.HostsAreHosts →
      upstream.Known library →
      SameDestination upstream first.uri second.uri := by
  intro same
  obtain ⟨target, isText⟩ :=
    (same backendLibrary (backendUpstream false 8080) .asteriskForm
      .asteriskForm backendLibrary_hostsAreHosts known_backendUpstream).first
  have built :
      UriText.parts (upstreamUri (backendUpstream false 8080)
          RequestTarget.asteriskForm.uri) =
        some ⟨"http".toList, "10.0.0.7:8080*".toList, []⟩ := by
    decide
  have sameAuthority :
      "10.0.0.7:8080*".toList = (backendUpstream false 8080).authority :=
    congrArg Parts.authority (Option.some.inj (built.symm.trans isText))
  exact absurd sameAuthority (by decide)

end Sample

end Pingoo
