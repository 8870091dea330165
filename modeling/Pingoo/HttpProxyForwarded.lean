import Pingoo.HttpProxyHeaders
import Pingoo.Library.Separated

namespace Pingoo

/-!
# What is forwarded of a request

A fixed list of headers is removed from a request, a few are written by the
proxy, and all others are forwarded with their values.  What the client names in
its `Connection` headers is not looked at: it is forwarded like the others.
-/

open Interaction

/-- A header of the fixed list, in any case. -/
def IsHopHeader (name : HeaderName) : Prop :=
  ∃ text ∈ hopHeaders, HeaderName.parse text = some name

namespace HeaderName

def connection : HeaderName :=
  ⟨"connection".toList, by decide, by decide⟩

end HeaderName

/-- A header that is named in a `Connection` header, in any case. -/
def IsNamedInConnection (headers : HeaderMap) (name : HeaderName) : Prop :=
  ∃ value ∈ headers.getAll .connection, ∃ text,
    value.toStr = some text ∧
    ∃ element ∈ text.splitOn ',',
      HeaderName.parse (Str.trim element) = some name

/--
The value of `x-forwarded-for`: what the client sent in its fields, in order,
and then the address of the client.
-/
def forwardedForText (ip : IpAddr) (headers : HeaderMap) : Str :=
  ", ".toList.intercalate
    ((headers.getAll .xForwardedFor).map (fun value => value.toStr.getD []) ++
      [ip.toStr])

/-- A request as it is forwarded. -/
structure IsForwarded
    (ctx : RequestContext)
    (received forwarded : HeaderMap) : Prop where
  hop : ∀ name, IsHopHeader name → forwarded.getAll name = []
  kept :
    ∀ name,
      ¬ IsHopHeader name →
      name ∉ writtenNames ctx →
      forwarded.getAll name = received.getAll name
  forwardedFor :
    ∃ value,
      forwarded.getAll .xForwardedFor = [value] ∧
      value.toStr = some (forwardedForText ctx.clientAddress.ip received)

section Forwarded

variable (ctx : RequestContext) (headers : HeaderMap)

theorem mem_parse_hopHeaders_iff {name : HeaderName} :
    name ∈ hopHeaders.filterMap HeaderName.parse ↔ IsHopHeader name :=
  List.mem_filterMap

/-- The headers of the context are among those the upstream trusts. -/
theorem mem_trustedNames_of_mem
    {entry : HeaderName × Str}
    (member : entry ∈ trustedHeaders ctx) : entry.1 ∈ trustedNames := by
  cases enabled : ctx.geoipEnabled <;>
    simp only [trustedHeaders, enabled, Bool.false_eq_true, if_true, if_false,
      List.cons_append, List.nil_append, List.append_nil, List.mem_cons,
      List.not_mem_nil, or_false] at member
  · rcases member with rfl | rfl | rfl | rfl <;> simp [trustedNames]
  · rcases member with rfl | rfl | rfl | rfl | rfl | rfl <;>
      simp [trustedNames]

/-- The proxy writes no header of the fixed list. -/
theorem notMem_writtenNames_of_isHopHeader
    {name : HeaderName}
    (isHop : IsHopHeader name) : name ∉ writtenNames ctx := by
  have apart :
      ∀ other ∈ hopHeaders.filterMap HeaderName.parse,
        other ∉ HeaderName.xForwardedFor :: trustedNames := by
    decide
  intro written
  apply apart name (mem_parse_hopHeaders_iff.mpr isHop)
  rcases List.mem_cons.mp written with isFor | inContext
  · exact List.mem_cons.mpr (Or.inl isFor)
  · obtain ⟨entry, member, rfl⟩ := List.mem_map.mp inContext
    exact List.mem_cons_of_mem _ (mem_trustedNames_of_mem ctx member)

/-- The address is one more element of the list the client sent. -/
theorem forwardedForToUpstream_eq (ip : IpAddr) (headers : HeaderMap) :
    forwardedForToUpstream ip.toStr headers = forwardedForText ip headers := by
  unfold forwardedForToUpstream forwardedForText
  dsimp only
  split
  · next none_sent =>
      rw [none_sent, List.nil_append, List.intercalate_singleton]
  · next some_sent =>
      rw [Separated.intercalate_append _ some_sent (List.cons_ne_nil _ _),
        List.intercalate_singleton]

/-- The headers of a forwarded request. -/
theorem isForwarded_forwardHeaders :
    IsForwarded ctx headers (forwardHeaders ctx headers) where
  hop name isHop := by
    rw [getAll_forwardHeaders_of_notMem ctx headers
        (notMem_writtenNames_of_isHopHeader ctx isHop), HeaderMap.removeStrs]
    exact FieldMap.getAll_removeAll_of_mem _
      (mem_parse_hopHeaders_iff.mpr isHop)
  kept name notHop notWritten := by
    rw [getAll_forwardHeaders_of_notMem ctx headers notWritten,
      HeaderMap.removeStrs]
    exact FieldMap.getAll_removeAll_of_notMem _
      fun member => notHop (mem_parse_hopHeaders_iff.mp member)
  forwardedFor := by
    rw [← forwardedForToUpstream_eq]
    exact getAll_xForwardedFor_forwardHeaders ctx headers

end Forwarded

section Sent

/--
Whatever the environment, a request that is sent to an upstream has no header of
the fixed list, every other one that the proxy does not write with the values of
the client, and the one value of `x-forwarded-for`.
-/
theorem isForwarded_of_sent
    {parseUri : Str → Option Uri}
    {oracle : ProxyOracle}
    {service : HttpProxyService}
    {ctx : RequestContext}
    {req sent : Request}
    (context : req.extension = some ctx)
    (isSent : ProxyQuery.request sent ∈
      (service.handleHttpRequest parseUri req).queries oracle) :
    IsForwarded ctx req.headers sent.headers := by
  obtain ⟨_, _, forwarded⟩ := sent_eq_forwardRequest context isSent
  rw [headers_of_forwardRequest forwarded]
  exact isForwarded_forwardHeaders ctx req.headers

namespace HeaderName

def xFoo : HeaderName :=
  ⟨"x-foo".toList, by decide, by decide⟩

end HeaderName

/-- `Connection: X-Foo` with a header of that name. -/
def connectionHeaders : HeaderMap :=
  HeaderMap.insertStr (HeaderMap.insertStr ∅ .connection "X-Foo".toList) .xFoo
    "1".toList

theorem isForwarded_of_sent_sample :
    IsForwarded (.sample true) connectionHeaders
      (Request.sampleSent true connectionHeaders).headers :=
  isForwarded_of_sent rfl (sampleSent_mem_queries true connectionHeaders)

/-- A header that is named in `Connection` reaches the upstream. -/
theorem not_removed_named_in_connection :
    ¬ ∀ (parseUri : Str → Option Uri) (oracle : ProxyOracle)
        (service : HttpProxyService) (ctx : RequestContext)
        (req sent : Request),
        req.extension = some ctx →
        ProxyQuery.request sent ∈
          (service.handleHttpRequest parseUri req).queries oracle →
        ∀ name,
          IsNamedInConnection req.headers name →
          sent.headers.getAll name = [] := by
  intro removed
  have named : IsNamedInConnection connectionHeaders .xFoo :=
    ⟨_, List.mem_singleton_self _, "X-Foo".toList, by decide, _,
      List.mem_singleton_self _, by decide⟩
  have absent :=
    removed _ .oneUpstream ⟨"api"⟩ (.sample true) _ _ rfl
      (sampleSent_mem_queries true connectionHeaders) .xFoo named
  revert absent
  decide

end Sent

end Pingoo
