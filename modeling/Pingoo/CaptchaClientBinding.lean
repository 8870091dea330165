import Pingoo.CaptchaEncoding

namespace Pingoo

/-!
# What a captcha client id binds

The id of a client is a digest of its address, its user agent and the host name,
written one after the other without a mark between them.  So the text of a
client may be split into a user agent and a host name in several ways, and the
last octets of an IPv6 address may be read as the text of a client with an IPv4
address.  These are the only clients whose ids have one input.
-/

/-- What identifies a client of a site. -/
structure CaptchaClient where
  ip : IpAddr
  userAgent : Str
  hostname : Str
  deriving DecidableEq

/-- The client of a request, as the listener builds it. -/
def captchaClient (client : SocketAddr) (req : Request) : CaptchaClient where
  ip :=
    client.ip
  userAgent :=
    (getUserAgent req).text
  hostname :=
    (getHost req).text

namespace CaptchaClient

/-- The bytes that `generate_captcha_client_id` hashes. -/
def input (client : CaptchaClient) : Bytes :=
  client.ip.octets ++ client.userAgent.asBytes ++ client.hostname.asBytes

/-- The id of a client. -/
def id (sha256 : Sha256) (client : CaptchaClient) : HeaplessString 44 :=
  generateCaptchaClientId sha256 client.ip client.userAgent client.hostname

/-- The user agent followed by the host name. -/
def text (client : CaptchaClient) : Str :=
  client.userAgent ++ client.hostname

/-- Two clients of one address whose text is split at different places. -/
def MovesText (first second : CaptchaClient) : Prop :=
  first.ip = second.ip ∧ first.text = second.text ∧
    first.userAgent.length ≠ second.userAgent.length

/--
The octets of an IPv6 address start with an IPv4 address and go on with the text
of its client.
-/
def ReadsAddressAsText (short long : CaptchaClient) : Prop :=
  short.ip.octets = long.ip.octets.take 4 ∧
    short.text.asBytes = long.ip.octets.drop 4 ++ long.text.asBytes

/-- The clients that one input may belong to. -/
def Confusable (first second : CaptchaClient) : Prop :=
  match first.ip, second.ip with
  | .v4 _, .v6 _ =>
      ReadsAddressAsText first second
  | .v6 _, .v4 _ =>
      ReadsAddressAsText second first
  | _, _ =>
      MovesText first second

end CaptchaClient

section Octets

theorem length_octets_v4 (octets : Vector UInt8 4) :
    (IpAddr.v4 octets).octets.length = 4 := by
  simp [IpAddr.octets]

theorem length_octets_v6 (segments : Vector UInt16 8) :
    (IpAddr.v6 segments).octets.length = 16 := by
  simp [IpAddr.octets, List.length_flatMap]

/-- The two bytes of a segment determine it. -/
private theorem segment_eq
    {segment other : UInt16}
    (high : (segment / 256).toUInt8 = (other / 256).toUInt8)
    (low : segment.toUInt8 = other.toUInt8) : segment = other := by
  have highNat := congrArg UInt8.toNat high
  have lowNat := congrArg UInt8.toNat low
  have bound := segment.toNat_lt
  have otherBound := other.toNat_lt
  simp only [UInt16.toNat_toUInt8, UInt16.toNat_div,
    UInt16.reduceToNat] at highNat lowNat
  apply UInt16.toNat_inj.mp
  omega

/-- The bytes of segments determine them. -/
private theorem flatMap_segments_injective
    {segments others : List UInt16}
    (same :
      (segments.flatMap fun segment =>
          [(segment / 256).toUInt8, segment.toUInt8]) =
        others.flatMap fun segment =>
          [(segment / 256).toUInt8, segment.toUInt8]) :
    segments = others := by
  induction segments generalizing others with
  | nil =>
      cases others with
      | nil =>
          rfl
      | cons other rest =>
          cases same
  | cons segment segments inductionHypothesis =>
      cases others with
      | nil =>
          cases same
      | cons other others =>
          simp only [List.flatMap_cons, List.cons_append, List.nil_append,
            List.cons.injEq] at same
          obtain ⟨high, low, rest⟩ := same
          rw [segment_eq high low, inductionHypothesis rest]

/-- Addresses with the same octets are the same. -/
theorem IpAddr.octets_injective : Function.Injective IpAddr.octets := by
  intro ip other same
  have sameLength := congrArg List.length same
  cases ip with
  | v4 octets =>
      cases other with
      | v4 others =>
          exact congrArg IpAddr.v4 (Vector.toList_inj.mp same)
      | v6 segments =>
          rw [length_octets_v4, length_octets_v6] at sameLength
          omega
  | v6 segments =>
      cases other with
      | v4 octets =>
          rw [length_octets_v4, length_octets_v6] at sameLength
          omega
      | v6 others =>
          exact congrArg IpAddr.v6
            (Vector.toList_inj.mp (flatMap_segments_injective same))

end Octets

namespace CaptchaClient

theorem input_eq (client : CaptchaClient) :
    client.input = client.ip.octets ++ client.text.asBytes := by
  simp [input, text, Str.asBytes]

/-- Clients with addresses of one length have one input if they share both. -/
theorem input_eq_iff_of_length_eq
    {first second : CaptchaClient}
    (sameLength : first.ip.octets.length = second.ip.octets.length) :
    first.input = second.input ↔
      first.ip = second.ip ∧ first.text = second.text := by
  rw [input_eq, input_eq]
  constructor
  · intro same
    obtain ⟨sameOctets, sameText⟩ := List.append_inj same sameLength
    exact ⟨IpAddr.octets_injective sameOctets,
      Str.asBytes_injective sameText⟩
  · rintro ⟨sameIp, sameText⟩
    rw [sameIp, sameText]

/-- Clients of both families have one input if an address is read as text. -/
theorem input_eq_iff_readsAddressAsText
    {short long : CaptchaClient}
    (shortLength : short.ip.octets.length = 4)
    (longLength : long.ip.octets.length = 16) :
    short.input = long.input ↔ ReadsAddressAsText short long := by
  rw [input_eq, input_eq, ReadsAddressAsText]
  constructor
  · intro same
    rw [← List.take_append_drop 4 long.ip.octets, List.append_assoc] at same
    exact List.append_inj same (by simp [shortLength, longLength])
  · rintro ⟨sameOctets, sameText⟩
    rw [sameOctets, sameText, ← List.append_assoc, List.take_append_drop]

/-- Different clients that share address and text split the text differently. -/
theorem movesText_iff {first second : CaptchaClient} :
    MovesText first second ↔
      first ≠ second ∧
        first.ip = second.ip ∧ first.text = second.text := by
  constructor
  · rintro ⟨sameIp, sameText, otherLength⟩
    exact ⟨fun same => otherLength (by rw [same]), sameIp, sameText⟩
  · rintro ⟨different, sameIp, sameText⟩
    refine ⟨sameIp, sameText, fun sameLength => different ?_⟩
    obtain ⟨sameAgent, sameHost⟩ := List.append_inj sameText sameLength
    cases first
    cases second
    simp only at sameIp sameAgent sameHost
    rw [sameIp, sameAgent, sameHost]

/-- The confusable clients are the different ones with one input. -/
theorem confusable_iff {first second : CaptchaClient} :
    Confusable first second ↔
      first ≠ second ∧ first.input = second.input := by
  obtain ⟨ip, userAgent, hostname⟩ := first
  obtain ⟨otherIp, otherAgent, otherHost⟩ := second
  cases ip with
  | v4 octets =>
      cases otherIp with
      | v4 others =>
          rw [input_eq_iff_of_length_eq
            (by rw [length_octets_v4, length_octets_v4]), ← movesText_iff]
          exact Iff.rfl
      | v6 others =>
          rw [input_eq_iff_readsAddressAsText (length_octets_v4 octets)
            (length_octets_v6 others)]
          exact (and_iff_right (by simp)).symm
  | v6 segments =>
      cases otherIp with
      | v4 others =>
          rw [eq_comm (b := input _), input_eq_iff_readsAddressAsText
            (length_octets_v4 others) (length_octets_v6 segments)]
          exact (and_iff_right (by simp)).symm
      | v6 others =>
          rw [input_eq_iff_of_length_eq
            (by rw [length_octets_v6, length_octets_v6]), ← movesText_iff]
          exact Iff.rfl

/-- Clients have one id exactly if their inputs have one digest. -/
theorem id_eq_iff (sha256 : Sha256) {first second : CaptchaClient} :
    first.id sha256 = second.id sha256 ↔
      sha256 first.input = sha256 second.input := by
  constructor
  · intro same
    have sameText := congrArg HeaplessString.text same
    rw [id, id, generateCaptchaClientId_text,
      generateCaptchaClientId_text] at sameText
    exact Vector.toList_inj.mp
      (urlSafe.encode_injective (List.append_cancel_right sameText))
  · intro same
    rw [id, id, generateCaptchaClientId, generateCaptchaClientId]
    simp only [input] at same
    simp only [same]

/--
The inputs of two clients tell them apart exactly when the clients are not
confusable; so do their ids, where the digest does not collide on the inputs.
-/
theorem input_ne_iff_not_confusable (first second : CaptchaClient) :
    ((first ≠ second → first.input ≠ second.input) ↔
      ¬ first.Confusable second) ∧
    ∀ sha256 : Sha256,
      (sha256 first.input = sha256 second.input →
        first.input = second.input) →
      ((first ≠ second → first.id sha256 ≠ second.id sha256) ↔
        ¬ first.Confusable second) := by
  constructor
  · rw [confusable_iff, not_and]
  · intro sha256 noCollision
    rw [confusable_iff, not_and, ne_eq (first.id sha256), id_eq_iff]
    exact imp_congr_right fun _ => not_congr
      ⟨noCollision, congrArg sha256⟩

/-- A request with a user agent and a host. -/
def requestOf (userAgent hostname : HeaderValue) : Request :=
  { Request.ofPath .get "/".toList with
    headers := (FieldMap.insert ∅ .userAgent userAgent).insert .host hostname }

/-- The user agent is one that the listener lets through. -/
def PassesUserAgent (req : Request) : Prop :=
  (getUserAgent req).text ≠ [] ∧
    (getUserAgent req).text.len < userAgentMaxLength

/-- A user agent `ab` at the host `c`, and a user agent `a` at the host `bc`. -/
theorem not_input_ne_moved_text :
    ¬ ∀ client other req otherReq,
      PassesUserAgent req → PassesUserAgent otherReq →
      captchaClient client req ≠ captchaClient other otherReq →
        (captchaClient client req).input ≠
          (captchaClient other otherReq).input := by
  intro inputsDiffer
  refine inputsDiffer ⟨.v4 (.new 10 0 0 7), 40000⟩ ⟨.v4 (.new 10 0 0 7), 40000⟩
    (requestOf ⟨[97, 98], by decide⟩ ⟨[99], by decide⟩)
    (requestOf ⟨[97], by decide⟩ ⟨[98, 99], by decide⟩) ?_ ?_ ?_ ?_
  · exact ⟨by decide, by decide⟩
  · exact ⟨by decide, by decide⟩
  · decide
  · decide

end CaptchaClient

end Pingoo
