import Pingoo.HttpProxy

namespace Pingoo

/-!
# The headers an upstream trusts

What the proxy tells an upstream about the client comes from the request context
and not from the client, with one exception: while geoip is disabled, the
headers with the country and the autonomous system that the client sent reach
the upstream.
-/

open Interaction

/-- The headers that only the proxy should write. -/
def trustedNames : List HeaderName :=
  [.host, .xForwardedHost, .xForwardedProto, .pingooClientIp,
    .pingooClientCountry, .pingooClientAsn]

/-- The last element of a comma-separated list. -/
def lastElement (text : Str) : Str :=
  Str.trim ((text.splitOn ',').getLastD [])

/-- The one value of `x-forwarded-for` ends in the address of the client. -/
def ForwardedForEndsInClientIp
    (ctx : RequestContext)
    (headers : HeaderMap) : Prop :=
  ∃ value text,
    headers.getAll .xForwardedFor = [value] ∧
    value.toStr = some text ∧
    lastElement text = ctx.clientAddress.ip.toStr

/-- No value of the headers about geographic data. -/
def HasNoGeoipHeaders (headers : HeaderMap) : Prop :=
  headers.getAll .pingooClientCountry = [] ∧
    headers.getAll .pingooClientAsn = []

/-- Two forwarded requests tell the upstream the same about the client. -/
structure TrustedHeadersAgree
    (ctx : RequestContext)
    (first second : HeaderMap) : Prop where
  single :
    ∀ name ∈ trustedNames,
      first.getAll name = second.getAll name ∧
        (first.getAll name).length ≤ 1
  forwardedFor :
    ForwardedForEndsInClientIp ctx first ∧
      ForwardedForEndsInClientIp ctx second
  geoipOnly :
    ctx.geoipEnabled = false →
      HasNoGeoipHeaders first ∧ HasNoGeoipHeaders second

section Values

/-- The text of an address is visible, and has no comma or space in it. -/
theorem isVisibleAscii_of_isAddressChar
    {character : Char}
    (addressChar : IpAddr.isAddressChar character = true) :
    isVisibleAscii character = true ∧ character ≠ ',' ∧
      Str.isWhitespace character = false := by
  have listed : ∀ other ∈ "0123456789abcdef.:".toList,
      isVisibleAscii other = true ∧ other ≠ ',' ∧
        Str.isWhitespace other = false := by
    decide
  exact listed character (List.contains_iff_mem.mp addressChar)

theorem isVisibleAscii_ipStr (ip : IpAddr) :
    ∀ character ∈ ip.toStr, isVisibleAscii character = true :=
  fun character member =>
    (isVisibleAscii_of_isAddressChar
      (ip.toStr_isAddressChar character member)).1

theorem isVisibleAscii_decimal (number : Nat) :
    ∀ character ∈ Str.decimal number, isVisibleAscii character = true := by
  intro character member
  obtain ⟨digit, small, rfl⟩ := Str.mem_toDigits (by omega) member
  have digits : ∀ digit < 10,
      isVisibleAscii (Nat.digitChar digit) = true := by
    decide
  exact digits digit small

theorem isVisibleAscii_forwardedForToUpstream
    (ip : IpAddr)
    (headers : HeaderMap) :
    ∀ character ∈ forwardedForToUpstream ip.toStr headers,
      isVisibleAscii character = true := by
  intro character member
  have separatorVisible : ∀ other ∈ ", ".toList,
      isVisibleAscii other = true := by
    decide
  unfold forwardedForToUpstream at member
  dsimp only at member
  split at member
  · exact isVisibleAscii_ipStr ip character member
  · rw [List.mem_append, List.mem_append] at member
    rcases member with inClient | inSeparator | inIp
    · rcases Str.mem_intercalate inClient with
        inSeparator | ⟨part, inParts, inPart⟩
      · exact separatorVisible character inSeparator
      · obtain ⟨value, -, rfl⟩ := List.mem_map.mp inParts
        cases read : value.toStr with
        | none =>
            simp [read] at inPart
        | some text =>
            rw [read] at inPart
            exact HeaderValue.isVisibleAscii_of_toStr read character inPart
    · exact separatorVisible character inSeparator
    · exact isVisibleAscii_ipStr ip character inIp

/-- Whatever the client sent, its address comes last. -/
theorem lastElement_forwardedForToUpstream
    (ip : IpAddr)
    (headers : HeaderMap) :
    lastElement (forwardedForToUpstream ip.toStr headers) = ip.toStr := by
  have noComma : ',' ∉ ip.toStr := fun member =>
    (isVisibleAscii_of_isAddressChar
      (ip.toStr_isAddressChar ',' member)).2.1 rfl
  have solid : ∀ character ∈ ip.toStr, Str.isWhitespace character = false :=
    fun character member =>
      (isVisibleAscii_of_isAddressChar
        (ip.toStr_isAddressChar character member)).2.2
  unfold forwardedForToUpstream lastElement
  dsimp only
  split
  · rw [List.splitOn_eq_singleton noComma]
    exact Str.trim_eq_self solid
  · have lastSplit :
        List.splitOn ',' (' ' :: ip.toStr) = [' ' :: ip.toStr] :=
      List.splitOn_eq_singleton (by simp [noComma])
    have separated : ", ".toList ++ ip.toStr = ',' :: ' ' :: ip.toStr :=
      rfl
    rw [separated, List.splitOn_append_cons_self, lastSplit,
      List.getLastD_concat, Str.trim_cons_space]
    exact Str.trim_eq_self solid

end Values

section Forwarding

variable (ctx : RequestContext) (headers : HeaderMap)

/-- The headers of the context, each with the text of its only value. -/
def trustedHeaders : List (HeaderName × Str) :=
  [(.host, ctx.host.text),
    (.xForwardedHost, ctx.host.text),
    (.xForwardedProto, forwardedProto ctx),
    (.pingooClientIp, ctx.clientAddress.ip.toStr)] ++
  if ctx.geoipEnabled then
    [(.pingooClientCountry, ctx.country.asStr),
      (.pingooClientAsn, Str.decimal ctx.asn.toNat)]
  else
    []

/-- Every text the proxy writes into a header is a header value. -/
theorem exists_fromStr_trustedHeaders
    {entry : HeaderName × Str}
    (member : entry ∈ trustedHeaders ctx) :
    ∃ value, HeaderValue.fromStr entry.2 = some value := by
  have visible : ∀ character ∈ entry.2, isVisibleAscii character = true := by
    have protoVisible : ∀ character ∈ forwardedProto ctx,
        isVisibleAscii character = true := by
      unfold forwardedProto
      split <;> decide
    unfold trustedHeaders at member
    rw [List.mem_append] at member
    rcases member with always | whenEnabled
    · simp only [List.mem_cons, List.not_mem_nil, or_false] at always
      rcases always with rfl | rfl | rfl | rfl
      · exact ctx.hostVisible
      · exact ctx.hostVisible
      · exact protoVisible
      · exact isVisibleAscii_ipStr ctx.clientAddress.ip
    · split at whenEnabled
      · simp only [List.mem_cons, List.not_mem_nil, or_false] at whenEnabled
        rcases whenEnabled with rfl | rfl
        · exact ctx.country.asStr_isVisibleAscii
        · exact isVisibleAscii_decimal ctx.asn.toNat
      · cases whenEnabled
  obtain ⟨value, accepted, -⟩ := HeaderValue.fromStr_of_isVisibleAscii visible
  exact ⟨value, accepted⟩

/-- Inserting one header leaves the values of the others. -/
theorem getAll_insertStr_of_ne
    {name other : HeaderName}
    (different : other ≠ name)
    (text : Str) :
    (headers.insertStr name text).getAll other = headers.getAll other := by
  unfold HeaderMap.insertStr
  split
  · exact FieldMap.getAll_insert_of_ne headers different _
  · rfl

/-- A header that is inserted has that value only. -/
theorem getAll_insertStr_self
    {name : HeaderName}
    {text : Str}
    {value : HeaderValue}
    (accepted : HeaderValue.fromStr text = some value) :
    (headers.insertStr name text).getAll name = [value] := by
  simp [HeaderMap.insertStr, accepted]

/-- Each header of the context reaches the upstream with that value only. -/
theorem getAll_forwardHeaders_of_mem
    {entry : HeaderName × Str}
    (member : entry ∈ trustedHeaders ctx) :
    (forwardHeaders ctx headers).getAll entry.1 =
      (HeaderValue.fromStr entry.2).toList := by
  obtain ⟨value, accepted⟩ := exists_fromStr_trustedHeaders ctx member
  rw [accepted, Option.toList_some]
  unfold forwardHeaders forwardGeoip
  unfold trustedHeaders at member
  cases enabled : ctx.geoipEnabled with
  | true =>
      simp only [enabled, if_true, List.cons_append, List.nil_append,
        List.mem_cons, List.not_mem_nil, or_false] at member
      rcases member with rfl | rfl | rfl | rfl | rfl | rfl <;>
        simp (disch := decide) [forwardClientIp, forwardProto, forwardFor,
          forwardHost, getAll_insertStr_of_ne,
          getAll_insertStr_self _ accepted, accepted]
  | false =>
      simp only [enabled, Bool.false_eq_true, if_false, List.append_nil,
        List.mem_cons, List.not_mem_nil, or_false] at member
      rcases member with rfl | rfl | rfl | rfl <;>
        simp (disch := decide) [forwardClientIp, forwardProto, forwardFor,
          forwardHost, getAll_insertStr_of_ne,
          getAll_insertStr_self _ accepted, accepted]

/-- The names of the headers that the proxy writes itself. -/
def writtenNames : List HeaderName :=
  .xForwardedFor :: (trustedHeaders ctx).map Prod.fst

/-- A header that the proxy does not write is as the removal left it. -/
theorem getAll_forwardHeaders_of_notMem
    {name : HeaderName}
    (notWritten : name ∉ writtenNames ctx) :
    (forwardHeaders ctx headers).getAll name =
      (headers.removeStrs hopHeaders).getAll name := by
  simp only [writtenNames, trustedHeaders, List.map_append, List.mem_cons,
    List.mem_append, List.map_cons, List.map_nil, List.not_mem_nil, or_false,
    not_or] at notWritten
  obtain ⟨notFor, ⟨notHost, notForwardedHost, notProto, notIp⟩, notGeoip⟩ :=
    notWritten
  have geoipKept :
      ∀ kept : HeaderMap,
        (forwardGeoip ctx kept).getAll name = kept.getAll name := by
    intro kept
    unfold forwardGeoip
    split
    · next enabled =>
        simp only [enabled, if_true, List.map_cons, List.map_nil,
          List.mem_cons, List.not_mem_nil, or_false, not_or] at notGeoip
        rw [getAll_insertStr_of_ne _ notGeoip.2,
          getAll_insertStr_of_ne _ notGeoip.1]
    · rfl
  have hostKept :
      ∀ kept : HeaderMap,
        (forwardHost ctx kept).getAll name = kept.getAll name := by
    intro kept
    unfold forwardHost
    split
    · rw [FieldMap.getAll_insert_of_ne _ notForwardedHost,
        FieldMap.getAll_insert_of_ne _ notHost]
    · rfl
  rw [forwardHeaders, geoipKept, forwardClientIp,
    getAll_insertStr_of_ne _ notIp, forwardProto,
    getAll_insertStr_of_ne _ notProto, forwardFor,
    getAll_insertStr_of_ne _ notFor, hostKept]

/-- While geoip is disabled the client's own geoip headers go through. -/
theorem getAll_forwardHeaders_of_geoip_disabled
    (disabled : ctx.geoipEnabled = false)
    {name : HeaderName}
    (isGeoip : name = .pingooClientCountry ∨ name = .pingooClientAsn) :
    (forwardHeaders ctx headers).getAll name = headers.getAll name := by
  have hopKept : name ∉ hopHeaders.filterMap HeaderName.parse := by
    rcases isGeoip with rfl | rfl <;> decide
  have notWritten : name ∉ writtenNames ctx := by
    rcases isGeoip with rfl | rfl <;>
      simp [writtenNames, trustedHeaders, disabled] <;> decide
  rw [getAll_forwardHeaders_of_notMem ctx headers notWritten,
    HeaderMap.removeStrs, FieldMap.getAll_removeAll_of_notMem _ hopKept]

/-- While geoip is disabled only the client can add geoip headers. -/
theorem hasNoGeoipHeaders_forwardHeaders_iff
    (disabled : ctx.geoipEnabled = false) :
    HasNoGeoipHeaders (forwardHeaders ctx headers) ↔
      HasNoGeoipHeaders headers := by
  rw [HasNoGeoipHeaders, HasNoGeoipHeaders,
    getAll_forwardHeaders_of_geoip_disabled ctx headers disabled (Or.inl rfl),
    getAll_forwardHeaders_of_geoip_disabled ctx headers disabled (Or.inr rfl)]

/-- The one value of `x-forwarded-for` is made of what the client sent. -/
theorem getAll_xForwardedFor_forwardHeaders :
    ∃ value,
      (forwardHeaders ctx headers).getAll .xForwardedFor = [value] ∧
      value.toStr =
        some (forwardedForToUpstream ctx.clientAddress.ip.toStr headers) := by
  let received := forwardHost ctx (headers.removeStrs hopHeaders)
  have hopKept :
      HeaderName.xForwardedFor ∉ hopHeaders.filterMap HeaderName.parse := by
    decide
  have sameValues :
      received.getAll .xForwardedFor = headers.getAll .xForwardedFor := by
    have removed :
        (headers.removeStrs hopHeaders).getAll .xForwardedFor =
          headers.getAll .xForwardedFor := by
      rw [HeaderMap.removeStrs, FieldMap.getAll_removeAll_of_notMem _ hopKept]
    rw [← removed]
    simp only [received, forwardHost]
    split <;> simp (disch := decide)
  have sameText :
      forwardedForToUpstream ctx.clientAddress.ip.toStr received =
        forwardedForToUpstream ctx.clientAddress.ip.toStr headers := by
    rw [forwardedForToUpstream, sameValues, forwardedForToUpstream]
  obtain ⟨value, accepted, read⟩ := HeaderValue.fromStr_of_isVisibleAscii
    (isVisibleAscii_forwardedForToUpstream ctx.clientAddress.ip received)
  refine ⟨value, ?_, read.trans (congrArg some sameText)⟩
  unfold forwardHeaders forwardGeoip
  split <;>
    simp (disch := decide) [forwardClientIp, forwardProto, forwardFor,
      getAll_insertStr_of_ne, getAll_insertStr_self _ accepted, received]

/-- The client's address ends the one value of `x-forwarded-for`. -/
theorem forwardedFor_forwardHeaders :
    ForwardedForEndsInClientIp ctx (forwardHeaders ctx headers) := by
  obtain ⟨value, single, read⟩ :=
    getAll_xForwardedFor_forwardHeaders ctx headers
  exact ⟨value, _, single, read,
    lastElement_forwardedForToUpstream ctx.clientAddress.ip headers⟩

/--
The values of a trusted header come from the context, or are the client's.
-/
theorem getAll_forwardHeaders_of_mem_trustedNames
    {name : HeaderName}
    (trusted : name ∈ trustedNames) :
    (∃ entry ∈ trustedHeaders ctx, entry.1 = name) ∨
      ctx.geoipEnabled = false ∧
        (name = .pingooClientCountry ∨ name = .pingooClientAsn) := by
  unfold trustedHeaders
  simp only [trustedNames, List.mem_cons, List.not_mem_nil, or_false]
    at trusted
  cases enabled : ctx.geoipEnabled <;>
    rcases trusted with rfl | rfl | rfl | rfl | rfl | rfl <;> simp

end Forwarding

section Agreement

/--
The forwarded headers of two requests agree exactly when geoip is enabled, or
neither client sent the headers that are reserved for it.
-/
theorem trustedHeadersAgree_forwardHeaders_iff
    (ctx : RequestContext)
    (first second : HeaderMap) :
    TrustedHeadersAgree ctx (forwardHeaders ctx first)
        (forwardHeaders ctx second) ↔
      ctx.geoipEnabled = true ∨
        HasNoGeoipHeaders first ∧ HasNoGeoipHeaders second := by
  constructor
  · intro agree
    cases enabled : ctx.geoipEnabled with
    | true =>
        exact Or.inl rfl
    | false =>
        right
        simpa only [hasNoGeoipHeaders_forwardHeaders_iff ctx _ enabled]
          using agree.geoipOnly enabled
  · intro absent
    refine {
      single := ?_
      forwardedFor :=
        ⟨forwardedFor_forwardHeaders ctx first,
          forwardedFor_forwardHeaders ctx second⟩
      geoipOnly := ?_
    }
    · intro name trusted
      rcases getAll_forwardHeaders_of_mem_trustedNames ctx trusted with
        ⟨entry, member, rfl⟩ | ⟨disabled, isGeoip⟩
      · obtain ⟨value, accepted⟩ := exists_fromStr_trustedHeaders ctx member
        rw [getAll_forwardHeaders_of_mem ctx first member,
          getAll_forwardHeaders_of_mem ctx second member, accepted]
        exact ⟨rfl, Nat.le_refl 1⟩
      · obtain ⟨firstAbsent, secondAbsent⟩ :=
          absent.resolve_left (by simp [disabled])
        rw [getAll_forwardHeaders_of_geoip_disabled ctx first disabled isGeoip,
          getAll_forwardHeaders_of_geoip_disabled ctx second disabled isGeoip]
        rcases isGeoip with rfl | rfl
        · simp [firstAbsent.1, secondAbsent.1]
        · simp [firstAbsent.2, secondAbsent.2]
    · intro disabled
      simpa only [hasNoGeoipHeaders_forwardHeaders_iff ctx _ disabled]
        using absent.resolve_left (by simp [disabled])

/-- The environment of the proxy: an answer to each query, in its turn. -/
abbrev ProxyOracle :=
  List ProxyQuery → (query : ProxyQuery) → query.Answer

/-- What is sent to an upstream is the request as it is rewritten for it. -/
theorem sent_eq_forwardRequest
    {parseUri : Str → Option Uri}
    {oracle : ProxyOracle}
    {service : HttpProxyService}
    {ctx : RequestContext}
    {req sent : Request}
    (context : req.extension = some ctx)
    (isSent : ProxyQuery.request sent ∈
      (service.handleHttpRequest parseUri req).queries oracle) :
    ∃ upstream ∈ oracle [] (.getUpstreams service.name),
      forwardRequest parseUri upstream ctx req = some sent := by
  unfold Program.queries HttpProxyService.handleHttpRequest getUpstreams
    chooseUpstream clientRequest at isSent
  rw [Program.run_request_bind] at isSent
  split at isSent
  · simp at isSent
  · simp only [context, Program.run_request_bind] at isSent
    split at isSent
    · simp at isSent
    · next upstream _ =>
        cases forwarded : forwardRequest parseUri upstream.val ctx req with
        | none =>
            simp [forwarded] at isSent
        | some rewritten =>
            simp only [forwarded, Program.run_request_bind] at isSent
            split at isSent <;>
              simp only [Program.run_pure, List.mem_append, List.mem_cons,
                List.not_mem_nil, reduceCtorEq, or_false, false_or,
                ProxyQuery.request.injEq] at isSent <;>
              exact ⟨upstream.val, upstream.property, by rw [forwarded, isSent]⟩

/-- The headers that are sent are those of the client, rewritten. -/
theorem headers_of_forwardRequest
    {parseUri : Str → Option Uri}
    {upstream : Upstream}
    {ctx : RequestContext}
    {req sent : Request}
    (forwarded : forwardRequest parseUri upstream ctx req = some sent) :
    sent.headers = forwardHeaders ctx req.headers := by
  unfold forwardRequest at forwarded
  split at forwarded
  · cases forwarded
  · cases forwarded
    rfl

/--
For any two requests in the same context, whatever the environment: the requests
that are sent agree on what they say about the client exactly when geoip is
enabled, or neither client sent the headers that are reserved for it.
-/
theorem sent_trustedHeadersAgree_iff
    {parseUri : Str → Option Uri}
    {firstOracle secondOracle : ProxyOracle}
    {service : HttpProxyService}
    {ctx : RequestContext}
    {first second firstSent secondSent : Request}
    (firstContext : first.extension = some ctx)
    (secondContext : second.extension = some ctx)
    (firstIsSent : ProxyQuery.request firstSent ∈
      (service.handleHttpRequest parseUri first).queries firstOracle)
    (secondIsSent : ProxyQuery.request secondSent ∈
      (service.handleHttpRequest parseUri second).queries secondOracle) :
    TrustedHeadersAgree ctx firstSent.headers secondSent.headers ↔
      ctx.geoipEnabled = true ∨
        HasNoGeoipHeaders first.headers ∧
          HasNoGeoipHeaders second.headers := by
  obtain ⟨_, _, firstForwarded⟩ :=
    sent_eq_forwardRequest firstContext firstIsSent
  obtain ⟨_, _, secondForwarded⟩ :=
    sent_eq_forwardRequest secondContext secondIsSent
  rw [headers_of_forwardRequest firstForwarded,
    headers_of_forwardRequest secondForwarded]
  exact trustedHeadersAgree_forwardHeaders_iff ctx first.headers second.headers

/-- A client at 1.2.3.4 that asks for `example.com` over plain HTTP. -/
def RequestContext.sample (geoipEnabled : Bool) : RequestContext where
  clientAddress :=
    ⟨.v4 (.new 1 2 3 4), 50000⟩
  serverAddress :=
    ⟨.v4 (.new 0 0 0 0), 80⟩
  asn :=
    0
  country :=
    .xx
  geoipEnabled :=
    geoipEnabled
  tls :=
    false
  host :=
    ⟨"example.com".toList, by decide⟩
  hostVisible := by
    decide

/-- A request in that context with some headers. -/
def Request.sample (geoipEnabled : Bool) (headers : HeaderMap) : Request :=
  { Request.ofPath .get "/".toList with
    headers := headers
    extension := some (.sample geoipEnabled) }

/-- An environment with one upstream, which cannot be reached. -/
def ProxyOracle.oneUpstream : ProxyOracle
  | _, .getUpstreams _ =>
      [⟨⟨.v4 (.new 10 0 0 1), 8080⟩, "10.0.0.1", false⟩]
  | _, .choose [] =>
      none
  | _, .choose (upstream :: _) =>
      some ⟨upstream, List.mem_cons_self⟩
  | _, .request _ =>
      .error ()

/-- The sample request as it is sent to that upstream. -/
def Request.sampleSent (geoipEnabled : Bool) (headers : HeaderMap) : Request :=
  { Request.sample geoipEnabled headers with
    headers := forwardHeaders (.sample geoipEnabled) headers }

/-- The sample request is sent to that upstream. -/
theorem sampleSent_mem_queries (geoipEnabled : Bool) (headers : HeaderMap) :
    ProxyQuery.request (Request.sampleSent geoipEnabled headers) ∈
      ((⟨"api"⟩ : HttpProxyService).handleHttpRequest
        (fun _ => some (Request.sample geoipEnabled headers).uri)
        (Request.sample geoipEnabled headers)).queries
        ProxyOracle.oneUpstream := by
  simp [HttpProxyService.handleHttpRequest, Program.queries, getUpstreams,
    chooseUpstream, clientRequest, ProxyOracle.oneUpstream, Request.sample,
    Request.sampleSent, Request.ofPath, forwardRequest]

/-- Headers of a client that claims to be another one, in another country. -/
def spoofedHeaders : HeaderMap :=
  HeaderMap.insertStr (HeaderMap.insertStr ∅ .xForwardedFor "9.9.9.9".toList)
    .pingooClientCountry "FR".toList

/-- With geoip enabled the claims of a client make no difference. -/
theorem sent_trustedHeadersAgree_sample :
    TrustedHeadersAgree (.sample true)
        (Request.sampleSent true spoofedHeaders).headers
        (Request.sampleSent true ∅).headers ∧
      ¬ TrustedHeadersAgree (.sample false)
        (Request.sampleSent false spoofedHeaders).headers
        (Request.sampleSent false ∅).headers := by
  have agree (geoipEnabled : Bool) :=
    sent_trustedHeadersAgree_iff rfl rfl
      (sampleSent_mem_queries geoipEnabled spoofedHeaders)
      (sampleSent_mem_queries geoipEnabled ∅)
  refine ⟨(agree true).mpr (Or.inl rfl), fun disabled => ?_⟩
  rcases (agree false).mp disabled with isEnabled | ⟨⟨noCountry, -⟩, -⟩
  · cases isEnabled
  · revert noCountry
    decide

/-- With geoip disabled a client can claim to be in a country. -/
theorem sent_not_trustedHeadersAgree_spoofed_country :
    ¬ ∀ (parseUri : Str → Option Uri) (oracle : ProxyOracle)
        (service : HttpProxyService) (ctx : RequestContext)
        (first second firstSent secondSent : Request),
        first.extension = some ctx →
        second.extension = some ctx →
        ProxyQuery.request firstSent ∈
          (service.handleHttpRequest parseUri first).queries oracle →
        ProxyQuery.request secondSent ∈
          (service.handleHttpRequest parseUri second).queries oracle →
        TrustedHeadersAgree ctx firstSent.headers secondSent.headers := by
  intro alwaysAgree
  have agree := alwaysAgree _ .oneUpstream ⟨"api"⟩ (.sample false) _ _ _ _ rfl
    rfl (sampleSent_mem_queries false spoofedHeaders)
    (sampleSent_mem_queries false ∅)
  have absent := (agree.geoipOnly rfl).1.1
  revert absent
  decide

end Agreement

end Pingoo
