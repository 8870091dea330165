import Pingoo.GeoipDatabase
import Pingoo.HttpListenerLogs
import Pingoo.Library.Implementation

namespace Pingoo

/-!
# Requests that share the geoip cache

The handlers of requests look up their clients in one cache, while records leave
it at any time.  Whatever they do, they could have done with a database that has
no cache.  So the record that a request is judged by, and handed on with, is the
one of the database for its own client.
-/

open Interaction
open Transition (Run)

/-- What handlers ask: the cache, or what they ask besides of a look-up. -/
inductive CachedCall (Expression : Type) where
  | cache (asked : GeoipCacheQuery)
  | call (asked : ListenerQuery Expression)

@[reducible] def CachedCall.Answer {Expression : Type} :
    CachedCall Expression → Type
  | .cache asked =>
      asked.Answer
  | .call asked =>
      asked.Answer

section

variable {Expression Context Value σ : Type}
variable (geoipDb : GeoipDB)

/-- What comes of a look-up, as far as a handler looks at it. -/
def GeoipDB.answer (ip : IpAddr) : Except Unit GeoipRecord :=
  (geoipDb.plainLookup ip).mapError fun _ => ()

/-- How a handler carries out its calls. -/
def carryOutCall :
    (asked : ListenerQuery Expression) →
      Program (CachedCall Expression) CachedCall.Answer asked.Answer
  | .geoipLookup ip =>
      (geoipDb.lookup ip).embed CachedCall.cache fun found =>
        found.mapError fun _ => ()
  | asked =>
      Program.request (CachedCall.call asked)

/-- What handlers share: the cache, and an object for their other calls. -/
def cachedObject
    (others :
      SharedObject σ (ListenerQuery Expression) ListenerQuery.Answer) :
    SharedObject (GeoipCache × σ) (CachedCall Expression)
      CachedCall.Answer where
  changes before after :=
    before.1.Evicts after.1 ∧ after.2 = before.2 ∨
      after.1 = before.1 ∧ others.changes before.2 after.2
  answers before asked reply after :=
    match asked, reply with
    | .cache asked, reply =>
        before.1.Answers asked reply after.1 ∧ after.2 = before.2
    | .call asked, reply =>
        others.answers before.2 asked reply after.2 ∧ after.1 = before.1

/-- The same with a database that has no cache. -/
def plainObject
    (others :
      SharedObject σ (ListenerQuery Expression) ListenerQuery.Answer) :
    SharedObject σ (ListenerQuery Expression) ListenerQuery.Answer where
  changes :=
    others.changes
  answers before asked reply after :=
    match asked, reply with
    | .geoipLookup ip, reply =>
        reply = geoipDb.answer ip ∧ after = before
    | asked, reply =>
        others.answers before asked reply after

/-- What is seen of a handler: all that it asks besides of a look-up. -/
def seenCall : ListenerExchange Expression → Option (ListenerExchange Expression)
  | ⟨.geoipLookup _, _⟩ =>
      none
  | made =>
      some made

/-- What is seen of a handler that uses the cache. -/
def seenCachedCall :
    AnsweredQuery (CachedCall Expression) CachedCall.Answer →
      Option (ListenerExchange Expression)
  | ⟨.cache _, _⟩ =>
      none
  | ⟨.call asked, reply⟩ =>
      seenCall ⟨asked, reply⟩

/-- Handlers without a cache, and below them handlers with one. -/
def geoipLayers
    (others :
      SharedObject σ (ListenerQuery Expression) ListenerQuery.Answer) :
    Layers σ (GeoipCache × σ) (ListenerQuery Expression)
      (CachedCall Expression) ListenerQuery.Answer CachedCall.Answer
      (ListenerExchange Expression) where
  above :=
    plainObject geoipDb others
  below :=
    cachedObject others
  view :=
    Prod.snd
  invariant state :=
    geoipDb.Caches state.1
  seenAbove :=
    seenCall
  seenBelow :=
    seenCachedCall

variable {geoipDb}
variable {others : SharedObject σ (ListenerQuery Expression) ListenerQuery.Answer}

/-- A record is put into the cache after it was found. -/
private theorem carriesOut_insert
    {ip : IpAddr}
    {record : GeoipRecord}
    (isRecord : geoipDb.mmdb ip = .ok record)
    (isAnswer : .ok record = geoipDb.answer ip) :
    (geoipLayers geoipDb others).CarriesOut (.geoipLookup ip)
      (.ask (.cache (.insert ip record)) fun _ => .done (.ok record)) := by
  rintro ⟨cache, state⟩ reply ⟨later, after⟩ caches ⟨answers, same⟩
  dsimp only at answers same
  subst same
  cases answers
  exact ⟨GeoipDB.Caches.insert caches isRecord,
    .inr ⟨.ok record, rfl, ⟨isAnswer, rfl⟩, rfl⟩⟩

/-- A look-up in the cache does what a look-up does. -/
theorem carriesOut_geoipLookup (ip : IpAddr) :
    (geoipLayers geoipDb others).CarriesOut (.geoipLookup ip)
      (carryOutCall geoipDb (.geoipLookup ip)) := by
  rw [carryOutCall, GeoipDB.lookup]
  cases isLocal : ip.isLoopback || ip.isMulticast with
  | true =>
      have isAnswer : geoipDb.answer ip = .error () := by
        rw [GeoipDB.answer, GeoipDB.plainLookup, isLocal]
        rfl
      exact ⟨rfl, fun _ _ => ⟨isAnswer.symm, rfl⟩⟩
  | false =>
      have isAnswer :
          geoipDb.answer ip = (geoipDb.mmdb ip).mapError fun _ => () := by
        rw [GeoipDB.answer, GeoipDB.plainLookup, isLocal]
        cases geoipDb.mmdb ip <;> rfl
      rintro ⟨cache, state⟩ reply ⟨later, after⟩ caches ⟨answers, same⟩
      dsimp only at answers same
      subst same
      cases answers
      refine ⟨caches, ?_⟩
      cases isCached : cache ip with
      | some record =>
          refine .inr ⟨.ok record, rfl, ⟨?_, rfl⟩, rfl⟩
          rw [isAnswer, caches ip record isCached]
          rfl
      | none =>
          cases isRead : geoipDb.mmdb ip with
          | ok record =>
              rw [isRead] at isAnswer
              exact .inl ⟨carriesOut_insert isRead isAnswer.symm, rfl, rfl⟩
          | error err =>
              rw [isRead] at isAnswer
              refine .inr ⟨.error (), ?_, ⟨isAnswer.symm, rfl⟩, rfl⟩
              cases err <;> rfl

/-- Any other call is made as it is. -/
theorem carriesOut_request
    {asked : ListenerQuery Expression}
    (notLookup : ∀ ip, asked ≠ .geoipLookup ip) :
    (geoipLayers geoipDb others).CarriesOut asked
      (Program.request (CachedCall.call asked)) := by
  rintro ⟨cache, state⟩ reply ⟨later, after⟩ caches ⟨answers, same⟩
  dsimp only at answers same
  subst same
  refine ⟨caches, .inr ⟨reply, rfl, ?_, rfl⟩⟩
  cases asked with
  | geoipLookup ip =>
      exact absurd rfl (notLookup ip)
  | _ =>
      exact answers

theorem refines_geoipLayers :
    (geoipLayers geoipDb others).Refines (carryOutCall geoipDb) where
  changes {before after} caches changes := by
    rcases changes with ⟨evicts, same⟩ | ⟨same, changes⟩
    · exact ⟨GeoipDB.Caches.evicts caches evicts, .inl same⟩
    · refine ⟨?_, .inr changes⟩
      change geoipDb.Caches after.1
      rw [same]
      exact caches
  carriesOut asked := by
    cases asked with
    | geoipLookup ip =>
        exact carriesOut_geoipLookup ip
    | validateCaptchaVerifiedCookie =>
        exact carriesOut_request (by simp)
    | serveCaptchaRequest =>
        exact carriesOut_request (by simp)
    | probe =>
        exact carriesOut_request (by simp)
    | handle =>
        exact carriesOut_request (by simp)

/-! ## Runs -/

section Run

variable {language : ExpressionLanguage Expression Context Value}
variable {splitParse : Str → List (Except Unit Cookie)}
variable {captchaPage : Response} {sha256 : Sha256}
variable {events :
  List (PoolEvent (CachedCall Expression) CachedCall.Answer
    (Arrival Expression Value))}
variable {state : σ}
variable {finish :
  Pool (GeoipCache × σ) (CachedCall Expression) CachedCall.Answer Response}

/-- The cache before the first look-up. -/
def GeoipCache.empty : GeoipCache :=
  fun _ => none

/-- One step of handlers with a cache. -/
abbrev CachedStep
    (geoipDb : GeoipDB)
    (others :
      SharedObject σ (ListenerQuery Expression) ListenerQuery.Answer)
    (language : ExpressionLanguage Expression Context Value)
    (splitParse : Str → List (Except Unit Cookie))
    (captchaPage : Response)
    (sha256 : Sha256) :=
  Pool.Step (cachedObject others) fun arrival : Arrival Expression Value =>
    (serveArrival language splitParse captchaPage sha256 arrival).implement
      (carryOutCall geoipDb)

/-- One step of handlers with a database that has no cache. -/
abbrev PlainStep
    (geoipDb : GeoipDB)
    (others :
      SharedObject σ (ListenerQuery Expression) ListenerQuery.Answer)
    (language : ExpressionLanguage Expression Context Value)
    (splitParse : Str → List (Except Unit Cookie))
    (captchaPage : Response)
    (sha256 : Sha256) :=
  Pool.Step (plainObject geoipDb others) fun arrival : Arrival Expression Value =>
    serveArrival language splitParse captchaPage sha256 arrival

/--
Whatever handlers do with the cache, they could do without it: the same requests
come, the same calls are made besides of the look-ups, with the same answers and
in the same order, and the same responses are given.
-/
theorem plain_of_run
    (run :
      Run
        (CachedStep geoipDb others language splitParse captchaPage sha256)
        (.initial (.empty, state)) events finish) :
    ∃ plainEvents plain,
      Run (PlainStep geoipDb others language splitParse captchaPage sha256)
          (.initial state) plainEvents plain ∧
        plain.shared = finish.shared.2 ∧
        plainEvents.filterMap (PoolEvent.seen seenCall) =
          events.filterMap (PoolEvent.seen seenCachedCall) ∧
        ∀ index log response,
          finish.processes index = some ⟨log, .done response⟩ →
            ∃ plainLog,
              plain.processes index = some ⟨plainLog, .done response⟩ := by
  have initial :
      (geoipLayers geoipDb others).invariant (GeoipCache.empty, state) :=
    nofun
  obtain ⟨plainEvents, plain, plainRun, simulates, isSeen⟩ :=
    refines_geoipLayers.exists_run initial run
  exact ⟨plainEvents, plain, plainRun, simulates.shared, isSeen,
    fun index log response isDone => simulates.done isDone⟩

/-- The record of the database for the client of a request. -/
def GeoipDB.recordOf
    (geoipDb : GeoipDB)
    (arrival : Arrival Expression Value) : GeoipRecord :=
  if arrival.listener.geoip then
    (geoipDb.answer arrival.client.ip).toOption.getD GeoipRecord.default
  else
    GeoipRecord.default

/-- The record that is known after a look-up is the one that was answered. -/
theorem loggedRecord_of_answered
    {log : List (ListenerExchange Expression)}
    {answer : Except Unit GeoipRecord}
    (answered :
      ∀ ip reply, ⟨.geoipLookup ip, reply⟩ ∈ log → reply = answer)
    (looked : ∃ ip reply, ⟨.geoipLookup ip, reply⟩ ∈ log) :
    loggedRecord log = answer.toOption.getD GeoipRecord.default := by
  have isRecord (made : ListenerExchange Expression) (member : made ∈ log)
      {record : GeoipRecord} (found : made.record = some record) :
      answer = .ok record := by
    obtain ⟨asked, reply⟩ := made
    cases asked with
    | geoipLookup ip =>
        rw [← answered ip reply member]
        cases reply with
        | error =>
            cases found
        | ok other =>
            cases found
            rfl
    | _ =>
        cases found
  rw [loggedRecord]
  cases isFound : log.findSome? ListenerExchange.record with
  | some record =>
      obtain ⟨made, member, found⟩ := List.exists_of_findSome?_eq_some isFound
      rw [isRecord made member found]
      rfl
  | none =>
      obtain ⟨ip, reply, member⟩ := looked
      have none := List.findSome?_eq_none_iff.mp isFound _ member
      obtain rfl := answered ip reply member
      cases reply with
      | error =>
          rfl
      | ok record =>
          cases none

/-- Without a cache, a look-up is answered with the record of the client. -/
theorem answer_of_geoipLookup
    {plainEvents :
      List (PoolEvent (ListenerQuery Expression) ListenerQuery.Answer
        (Arrival Expression Value))}
    {plain : Pool σ (ListenerQuery Expression) ListenerQuery.Answer Response}
    {index : Nat}
    {arrival : Arrival Expression Value}
    {ip : IpAddr}
    {reply : Except Unit GeoipRecord}
    (run :
      Run (PlainStep geoipDb others language splitParse captchaPage sha256)
        (.initial state) plainEvents plain)
    (started : .start index arrival ∈ plainEvents)
    (isMade : ⟨.geoipLookup ip, reply⟩ ∈ exchangesOf index plainEvents) :
    arrival.listener.geoip = true ∧
      reply = geoipDb.answer arrival.client.ip := by
  obtain ⟨_, _, split⟩ := List.append_of_mem isMade
  obtain ⟨isClient, enabled, -⟩ :=
    Pool.asked_of_run run started (asksAfter_serveArrival arrival) split
  obtain ⟨_, _, _, _, step⟩ := run.step_of_mem (mem_exchangesOf.mp isMade)
  cases step with
  | exchange _ answers =>
      exact ⟨enabled, isClient ▸ answers.1⟩

/-- Without a cache, a handler gets to a service with the record of its client. -/
theorem loggedRecord_of_handled
    {plainEvents :
      List (PoolEvent (ListenerQuery Expression) ListenerQuery.Answer
        (Arrival Expression Value))}
    {plain : Pool σ (ListenerQuery Expression) ListenerQuery.Answer Response}
    {index : Nat}
    {arrival : Arrival Expression Value}
    {earlier later : List (ListenerExchange Expression)}
    {service : HttpService Expression}
    {req : Request}
    {response : Response}
    (run :
      Run (PlainStep geoipDb others language splitParse captchaPage sha256)
        (.initial state) plainEvents plain)
    (started : .start index arrival ∈ plainEvents)
    (split :
      exchangesOf index plainEvents =
        earlier ++ ⟨.handle service req, response⟩ :: later) :
    loggedRecord earlier = geoipDb.recordOf arrival := by
  have lookup (ip : IpAddr) (reply : Except Unit GeoipRecord)
      (member : ⟨.geoipLookup ip, reply⟩ ∈ earlier) :
      arrival.listener.geoip = true ∧
        reply = geoipDb.answer arrival.client.ip := by
    have isMade :
        ⟨.geoipLookup ip, reply⟩ ∈ exchangesOf index plainEvents := by
      rw [split]
      exact List.mem_append_left _ member
    exact answer_of_geoipLookup run started isMade
  rw [GeoipDB.recordOf]
  cases enabled : arrival.listener.geoip with
  | true =>
      obtain ⟨reply, member⟩ :=
        (Pool.asked_of_run run started (asksAfter_looksUp arrival) split
          enabled).resolve_left nofun
      exact loggedRecord_of_answered
        (fun ip reply member => (lookup ip reply member).2)
        ⟨_, reply, member⟩
  | false =>
      have noRecord : earlier.findSome? ListenerExchange.record = none := by
        refine List.findSome?_eq_none_iff.mpr fun made member => ?_
        obtain ⟨asked, reply⟩ := made
        cases asked with
        | geoipLookup ip =>
            rw [(lookup ip reply member).1] at enabled
            cases enabled
        | _ =>
            rfl
      rw [loggedRecord, noRecord]
      rfl

/--
Whatever other requests put into the cache, a request is given to a service with
the record of the database for its own client, and no rule that matches with
this record blocks it.
-/
theorem recordOf_of_handled
    {index : Nat}
    {arrival : Arrival Expression Value}
    {service : HttpService Expression}
    {req : Request}
    {response : Response}
    (run :
      Run
        (CachedStep geoipDb others language splitParse captchaPage sha256)
        (.initial (.empty, state)) events finish)
    (started : .start index arrival ∈ events)
    (handled :
      .exchange index ⟨.call (.handle service req), response⟩ ∈ events) :
    req = arrival.handed (geoipDb.recordOf arrival) ∧
      ∀ entry ∈ arrival.actions language (geoipDb.recordOf arrival),
        entry.2 ≠ .block := by
  obtain ⟨plainEvents, plain, plainRun, -, isSeen, -⟩ := plain_of_run run
  have plainStarted : .start index arrival ∈ plainEvents := by
    rw [← mem_seen_start_iff, isSeen]
    exact mem_seen_start_iff.mpr started
  have plainHandled :
      .exchange index ⟨.handle service req, response⟩ ∈ plainEvents := by
    obtain ⟨made, isMade, same⟩ :
        ∃ made, .exchange index made ∈ plainEvents ∧
          seenCall made = some ⟨.handle service req, response⟩ := by
      rw [← mem_seen_exchange_iff, isSeen]
      exact mem_seen_exchange_iff.mpr ⟨_, handled, rfl⟩
    obtain ⟨asked, reply⟩ := made
    cases asked with
    | handle =>
        cases same
        exact isMade
    | _ =>
        cases same
  obtain ⟨earlier, later, split⟩ :=
    List.append_of_mem (mem_exchangesOf.mpr plainHandled)
  obtain ⟨-, isReq, gotPast⟩ :=
    Pool.asked_of_run plainRun plainStarted
      (asksAfter_serveArrival arrival) split
  rw [loggedRecord_of_handled plainRun plainStarted split] at isReq gotPast
  exact ⟨isReq, fun entry member => (gotPast entry member).notBlock⟩

end Run

end

section Sample

private theorem letters_locatedCountry :
    ∀ byte ∈ (#v[70, 82] : Vector UInt8 2).toList,
      isCountryLetter byte = true := by
  decide

/-- An address that the database knows, and its record. -/
private def locatedClient : IpAddr :=
  .v4 (.new 9 9 9 9)

private def locatedRecord : GeoipRecord where
  asn :=
    64500
  country :=
    ⟨#v[70, 82], letters_locatedCountry⟩

private def sampleGeoipDb : GeoipDB where
  mmdb ip :=
    .ok (if ip = locatedClient then locatedRecord else GeoipRecord.default)

/-- A language whose expressions are compared with the country of the client. -/
private def countries : ExpressionLanguage CountryCode CountryCode Bool where
  context _ client _ :=
    client.country
  execute country known :=
    .ok (decide (country = known))
  isTrue value :=
    value

/-- A rule that blocks clients of an unknown country. -/
private def unknownRule : Rule CountryCode where
  name :=
    "unknown"
  expression :=
    some CountryCode.xx
  actions :=
    [.block]
  limiterTx :=
    none

/-- An object that may answer anything. -/
private def anyAnswers :
    SharedObject Unit (ListenerQuery CountryCode) ListenerQuery.Answer where
  changes _ _ :=
    True
  answers _ _ _ _ :=
    True

private def locatedService : HttpService CountryCode where
  name :=
    "site"
  route :=
    none

private def locatedArrival : Arrival CountryCode Bool where
  listener := {
    address := ⟨.localhost, 80⟩
    services := [locatedService]
    rules := [unknownRule]
    lists := false
    geoip := true
    useTls := false
  }
  client :=
    ⟨locatedClient, 5000⟩
  req :=
    { Request.ofPath .get ['/'] with
      headers :=
        FieldMap.insert ∅ .userAgent sampleAgent }

private def locatedSha256 : Sha256 :=
  fun _ => Vector.replicate 32 0

private def locatedLog :
    List (AnsweredQuery (CachedCall CountryCode) CachedCall.Answer) :=
  [⟨.cache (.get locatedArrival.client.ip), none⟩,
    ⟨.cache (.insert locatedArrival.client.ip locatedRecord), ()⟩,
    ⟨.call (.handle locatedService
      (locatedArrival.handed locatedRecord)), newNotFoundError⟩]

private theorem ends_locatedLog :
    Ends
      ((serveArrival countries (fun _ => []) newNotFoundError locatedSha256
        locatedArrival).implement (carryOutCall sampleGeoipDb))
      locatedLog newNotFoundError := by
  have notBlocked : ¬ HasBlockedUserAgent locatedArrival.req := by
    decide
  have notCaptcha :
      ¬ (getPath locatedArrival.req).startsWith
        "/__pingoo/captcha".toList = true := by
    decide
  rw [serveArrival, serveHttpRequest_eq_reference]
  refine ⟨none, _, rfl, (), _, rfl, ?_⟩
  have isScan :=
    @referencePipeline_of_noCookie _ _ _ countries (fun _ => [])
      newNotFoundError locatedSha256 locatedArrival locatedRecord
      notBlocked notCaptcha rfl
  change
    Ends
      ((referencePipeline countries (fun _ => []) newNotFoundError
        locatedSha256 locatedArrival.listener locatedArrival.client
        locatedRecord locatedArrival.req).implement
          (carryOutCall sampleGeoipDb)) _ _
  rw [isScan]
  exact ⟨newNotFoundError, [], rfl, rfl, rfl⟩

private def locatedEvents :
    List (PoolEvent (CachedCall CountryCode) CachedCall.Answer
      (Arrival CountryCode Bool)) :=
  .start 0 locatedArrival :: locatedLog.map (.exchange 0)

private theorem run_locatedEvents :
    ∃ finish,
      Run
          (CachedStep sampleGeoipDb anyAnswers countries (fun _ => [])
            newNotFoundError locatedSha256)
          (.initial (.empty, ())) locatedEvents finish ∧
        ∃ log, finish.processes 0 = some ⟨log, .done newNotFoundError⟩ := by
  let cached : GeoipCache × Unit :=
    (Function.update GeoipCache.empty locatedArrival.client.ip
      (some locatedRecord), ())
  have looked :
      (cachedObject anyAnswers).answers (GeoipCache.empty, ())
        (.cache (.get locatedArrival.client.ip)) none (GeoipCache.empty, ()) :=
    ⟨.get _, rfl⟩
  have inserted :
      (cachedObject anyAnswers).answers (GeoipCache.empty, ())
        (.cache (.insert locatedArrival.client.ip locatedRecord)) ()
        cached :=
    ⟨.insert _ _, rfl⟩
  have handled :
      (cachedObject anyAnswers).answers cached
        (.call (.handle locatedService
          (locatedArrival.handed locatedRecord)))
        newNotFoundError cached :=
    ⟨trivial, rfl⟩
  have replies :
      (cachedObject anyAnswers).Replies (GeoipCache.empty, ()) locatedLog
        cached :=
    .cons looked (.cons inserted (.cons handled .nil))
  obtain ⟨finish, run, -, isDone, -⟩ :=
    @Pool.run_of_ends _ _ _ _ _ (cachedObject anyAnswers)
      (fun arrival : Arrival CountryCode Bool =>
        (serveArrival countries (fun _ => []) newNotFoundError locatedSha256
          arrival).implement (carryOutCall sampleGeoipDb))
      (.initial (.empty, ())) 0 locatedArrival _ _ _ rfl ends_locatedLog replies
  exact ⟨finish, run, _, isDone⟩

/-- A request with its look-up, as if there were no cache. -/
theorem plain_of_run_sample :
    ∃ plainEvents plain plainLog,
      Run
          (PlainStep sampleGeoipDb anyAnswers countries (fun _ => [])
            newNotFoundError locatedSha256)
          (.initial ()) plainEvents plain ∧
        plain.processes 0 = some ⟨plainLog, .done newNotFoundError⟩ := by
  obtain ⟨finish, run, log, isDone⟩ := run_locatedEvents
  obtain ⟨plainEvents, plain, plainRun, -, -, done⟩ := plain_of_run run
  obtain ⟨plainLog, isPlainDone⟩ := done 0 log _ isDone
  exact ⟨plainEvents, plain, plainLog, plainRun, isPlainDone⟩

/--
The service is given the record of the database, with which no rule blocks the
client, as one does with the default record.
-/
theorem recordOf_of_handled_sample :
    ∃ finish,
      Run
          (CachedStep sampleGeoipDb anyAnswers countries (fun _ => [])
            newNotFoundError locatedSha256)
          (.initial (.empty, ())) locatedEvents finish ∧
        locatedArrival.handed locatedRecord =
          locatedArrival.handed (sampleGeoipDb.recordOf locatedArrival) ∧
        (∀ entry ∈
            locatedArrival.actions countries
              (sampleGeoipDb.recordOf locatedArrival),
          entry.2 ≠ .block) ∧
        (unknownRule, .block) ∈
          locatedArrival.actions countries GeoipRecord.default := by
  obtain ⟨finish, run, -⟩ := run_locatedEvents
  have handled :
      .exchange 0 ⟨.call (.handle locatedService
        (locatedArrival.handed locatedRecord)), newNotFoundError⟩ ∈
        locatedEvents :=
    List.mem_cons_of_mem _ (List.mem_map_of_mem
      (List.mem_cons_of_mem _ (List.mem_cons_of_mem _ List.mem_cons_self)))
  obtain ⟨isHanded, notBlocked⟩ :=
    recordOf_of_handled run List.mem_cons_self handled
  exact ⟨finish, run, isHanded, notBlocked, List.mem_singleton_self _⟩

end Sample

end Pingoo
