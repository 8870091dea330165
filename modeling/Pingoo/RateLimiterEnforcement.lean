import Pingoo.HttpListenerLogs
import Pingoo.RateLimiterProtocol

namespace Pingoo

open Interaction RateLimiter
open Transition (Run)

/-!
# What a rate limit enforces

The handlers of all requests share the limiters of the rules.  However they are
scheduled, and whoever gives up waiting for an answer: in any stretch of a run
that is shorter than the window of a limit, at most twice as many requests of
one address get past the rule and are handled by a service.

A probe is answered in one step here; the steps of the task behind it are those
of the limiter protocol, in which every probe that is taken is answered once and
in order.  All limiters read one clock, which stands between the readings of one
call and those of the next one, so the calls of limiters of different rules do
not overlap either.
-/

/-- What a limiter is made with, and when. -/
structure MadeLimiter where
  limiterCfg : RateLimit
  createdAt : Int
  elapsed : Nat

/-- The clock, and the calls that each limiter has counted. -/
structure LimitersState where
  clock : Int
  calls : ProbeSender → List ClockedCall

/-- A call reads the clock twice. -/
structure ReadsClock (state : LimitersState) (call : ClockedCall) : Prop where
  now : state.clock ≤ call.now
  readAt : call.now ≤ call.readAt

/-- A limiter has counted one more call. -/
def LimitersState.count
    (state : LimitersState)
    (limiter : ProbeSender)
    (call : ClockedCall) : LimitersState where
  clock :=
    call.readAt
  calls :=
    Function.update state.calls limiter (state.calls limiter ++ [call])

/--
The clock goes on, and limiters count probes whose requesters do not wait for
the answer any more.
-/
inductive LimitersState.Changes : LimitersState → LimitersState → Prop
  | tick
      {state : LimitersState}
      {later : Int}
      (isLater : state.clock ≤ later) :
      Changes state { state with clock := later }
  | counted
      {state : LimitersState}
      {limiter : ProbeSender}
      {call : ClockedCall}
      (reads : ReadsClock state call) :
      Changes state (state.count limiter call)

section

variable {Expression Context Value : Type}
variable (withCapacity : Nat → Nat) (made : ProbeSender → MadeLimiter)

/-- The limiter behind a channel, after some calls. -/
def limiterAfter (limiter : ProbeSender) (calls : List ClockedCall) :
    RateLimiter :=
  StepRun.final (answerCall withCapacity)
    (getRateLimitHandle withCapacity (made limiter).limiterCfg
      (made limiter).createdAt (made limiter).elapsed).server calls

/-- A probe is counted and answered, or lost; other calls count nothing. -/
inductive LimitersState.Answers :
    LimitersState → (asked : ListenerQuery Expression) → asked.Answer →
      LimitersState → Prop
  | counted
      {state : LimitersState}
      {limiter : ProbeSender}
      {call : ClockedCall}
      (reads : ReadsClock state call) :
      Answers state (.probe limiter call.ip)
        (.received
          (answerCall withCapacity
            (limiterAfter withCapacity made limiter (state.calls limiter))
            call).1)
        (state.count limiter call)
  | notSent
      {state : LimitersState}
      {limiter : ProbeSender}
      {ip : IpAddr} :
      Answers state (.probe limiter ip) .notSent state
  | notReceived
      {state : LimitersState}
      {limiter : ProbeSender}
      {ip : IpAddr} :
      Answers state (.probe limiter ip) .notReceived state
  | other
      {state : LimitersState}
      {asked : ListenerQuery Expression}
      {reply : asked.Answer}
      (noProbe : asked.limiter = none) :
      Answers state asked reply state

/-- The limiters as the object that the handlers ask. -/
def limiters :
    SharedObject LimitersState (ListenerQuery Expression)
      ListenerQuery.Answer where
  changes :=
    LimitersState.Changes
  answers :=
    LimitersState.Answers withCapacity made

/-- The answer to a probe lets the request of an address go on. -/
def isGrant (limiter : ProbeSender) (ip : IpAddr) :
    ListenerExchange Expression → Bool
  | ⟨.probe asked askedFor, .received (.ok true)⟩ =>
      decide (asked = limiter) && decide (askedFor = ip)
  | _ =>
      false

theorem isGrant_of_noProbe
    {limiter : ProbeSender}
    {ip : IpAddr}
    {asked : ListenerQuery Expression}
    {reply : asked.Answer}
    (noProbe : asked.limiter = none) :
    isGrant limiter ip ⟨asked, reply⟩ = false := by
  cases asked with
  | probe => cases noProbe
  | geoipLookup | validateCaptchaVerifiedCookie | serveCaptchaRequest | handle =>
      rfl

theorem of_isGrant
    {limiter asked : ProbeSender}
    {ip askedFor : IpAddr}
    {result : Except Unit Bool}
    (isGranted :
      isGrant limiter ip
        (⟨.probe asked askedFor, .received result⟩ :
          ListenerExchange Expression) = true) :
    asked = limiter ∧ askedFor = ip ∧ result = .ok true := by
  obtain ⟨⟩ | ⟨_ | _⟩ := result
  · cases isGranted
  · cases isGranted
  · simpa [isGrant] using isGranted

/-- The answers of a limiter to some calls. -/
def answersTo (limiter : ProbeSender) (calls : List ClockedCall) :
    List RateLimiter.Answered :=
  answersOf withCapacity (made limiter).limiterCfg.max
    (made limiter).limiterCfg.window.toNat (made limiter).limiterCfg.capacity
    (made limiter).createdAt (made limiter).elapsed calls

section Answers

/-- Tracking the buckets does not change the limiter. -/
theorem limiter_final_answerTracked
    (tracked : Tracked)
    (calls : List ClockedCall) :
    (StepRun.final (answerTracked withCapacity) tracked calls).limiter =
      StepRun.final (answerCall withCapacity) tracked.limiter calls := by
  induction calls generalizing tracked with
  | nil =>
      rfl
  | cons call rest inductionHypothesis =>
      exact inductionHypothesis _

/-- One more call is answered by the limiter after the calls before it. -/
theorem answersTo_snoc
    (limiter : ProbeSender)
    (calls : List ClockedCall)
    (call : ClockedCall) :
    ∃ answered,
      answersTo withCapacity made limiter (calls ++ [call]) =
          answersTo withCapacity made limiter calls ++ [answered] ∧
        answered.ip = call.ip ∧
        answered.time = call.now ∧
        answered.answer =
          (answerCall withCapacity
            (limiterAfter withCapacity made limiter calls) call).1 := by
  refine ⟨_, StepRun.outputs_append _ _ _ _, rfl, rfl, ?_⟩
  have sameLimiter := limiter_final_answerTracked withCapacity
    ⟨(getRateLimitHandle withCapacity (made limiter).limiterCfg
      (made limiter).createdAt (made limiter).elapsed).server, 0⟩ calls
  rw [limiterAfter, ← sameLimiter]
  rfl

end Answers

/-- The calls of a limiter, after its making, in the order of their times. -/
structure InOrder (limiter : ProbeSender) (state : LimitersState) : Prop where
  ordered :
    ((made limiter).createdAt ::
      (state.calls limiter).map ClockedCall.now).Pairwise (· ≤ ·)
  past :
    ∀ time ∈ (made limiter).createdAt ::
        (state.calls limiter).map ClockedCall.now,
      time ≤ state.clock

/--
What a stretch of a run, from a state on, has added: calls that were made since
then, among whose answers are all the grants of the stretch.
-/
structure Since
    (limiter : ProbeSender)
    (ip : IpAddr)
    (start : LimitersState)
    (grants : Nat)
    (state : LimitersState) : Prop where
  inOrder : InOrder made limiter state
  later : start.clock ≤ state.clock
  added :
    ∃ added,
      answersTo withCapacity made limiter (state.calls limiter) =
          answersTo withCapacity made limiter (start.calls limiter) ++ added ∧
        (∀ answered ∈ added,
          start.clock ≤ answered.time ∧ answered.time ≤ state.clock) ∧
        grants ≤ added.countP (grantedTo ip)

variable {withCapacity made}
variable {limiter : ProbeSender} {ip : IpAddr} {start state : LimitersState}
variable {grants : Nat}

/-- A counted call comes after all others. -/
theorem InOrder.count
    {counting : ProbeSender}
    {call : ClockedCall}
    (inOrder : InOrder made limiter state)
    (reads : ReadsClock state call) :
    InOrder made limiter (state.count counting call) := by
  have clockLater : state.clock ≤ call.readAt :=
    reads.now.trans reads.readAt
  by_cases same : limiter = counting
  · subst counting
    have calls : (state.count limiter call).calls limiter =
        state.calls limiter ++ [call] :=
      Function.update_self _ _ _
    constructor
    · rw [calls, List.map_append, ← List.cons_append, List.pairwise_append]
      refine ⟨inOrder.ordered, List.pairwise_singleton _ _, ?_⟩
      intro earlier member last isLast
      rw [List.mem_map] at isLast
      obtain ⟨_, isCall, rfl⟩ := isLast
      rw [List.mem_singleton.mp isCall]
      exact (inOrder.past earlier member).trans reads.now
    · rw [calls, List.map_append, ← List.cons_append, List.forall_mem_append]
      refine ⟨fun time member => ?_, ?_⟩
      · exact (inOrder.past time member).trans clockLater
      · rw [List.map_singleton, List.forall_mem_singleton]
        exact reads.readAt
  · have calls : (state.count counting call).calls limiter =
        state.calls limiter :=
      Function.update_of_ne same _ _
    constructor
    · rw [calls]
      exact inOrder.ordered
    · rw [calls]
      exact fun time member => (inOrder.past time member).trans clockLater

/-- A counted call adds its answer, which may be one more grant. -/
theorem Since.count
    {counting : ProbeSender}
    {call : ClockedCall}
    {granted : Nat}
    (since : Since withCapacity made limiter ip start grants state)
    (reads : ReadsClock state call)
    (isGranted :
      granted = 0 ∨
        granted = 1 ∧ counting = limiter ∧ call.ip = ip ∧
          (answerCall withCapacity
            (limiterAfter withCapacity made limiter (state.calls limiter))
            call).1 = .ok true) :
    Since withCapacity made limiter ip start (grants + granted)
      (state.count counting call) := by
  obtain ⟨inOrder, later, added, answers, within, enough⟩ := since
  have clockLater : state.clock ≤ call.readAt :=
    reads.now.trans reads.readAt
  refine ⟨inOrder.count reads, later.trans clockLater, ?_⟩
  by_cases same : limiter = counting
  · subst counting
    obtain ⟨answered, next, isIp, isTime, isAnswer⟩ :=
      answersTo_snoc withCapacity made limiter (state.calls limiter) call
    have calls : (state.count limiter call).calls limiter =
        state.calls limiter ++ [call] :=
      Function.update_self _ _ _
    refine ⟨added ++ [answered], ?_, ?_, ?_⟩
    · rw [calls, next, answers, List.append_assoc]
    · rw [List.forall_mem_append]
      refine ⟨fun earlier member => ?_, ?_⟩
      · exact ⟨(within earlier member).1,
          (within earlier member).2.trans clockLater⟩
      · rw [List.forall_mem_singleton, isTime]
        exact ⟨later.trans reads.now, reads.readAt⟩
    · rw [List.countP_append, List.countP_singleton]
      rcases isGranted with rfl | ⟨rfl, -, isFor, isTrue⟩
      · omega
      · have isGranted : grantedTo ip answered = true := by
          rw [grantedTo, isIp, isFor, isAnswer, isTrue]
          simp
        rw [if_pos isGranted]
        omega
  · have calls : (state.count counting call).calls limiter =
        state.calls limiter :=
      Function.update_of_ne same _ _
    refine ⟨added, by rw [calls, answers], fun answered member => ?_, ?_⟩
    · exact ⟨(within answered member).1,
        (within answered member).2.trans clockLater⟩
    · rcases isGranted with rfl | ⟨-, isCounting, -⟩
      · omega
      · exact absurd isCounting.symm same

/-- The clock goes on, and no limiter counts anything. -/
theorem Since.tick
    {clock : Int}
    (since : Since withCapacity made limiter ip start grants state)
    (isLater : state.clock ≤ clock) :
    Since withCapacity made limiter ip start grants
      { state with clock := clock } := by
  obtain ⟨inOrder, later, added, answers, within, enough⟩ := since
  refine ⟨⟨inOrder.ordered, fun time member => ?_⟩, later.trans isLater, added,
    answers, fun answered member => ?_, enough⟩
  · exact (inOrder.past time member).trans isLater
  · exact ⟨(within answered member).1,
      (within answered member).2.trans isLater⟩

section Run

variable {language : ExpressionLanguage Expression Context Value}
variable {splitParse : Str → List (Except Unit Cookie)}
variable {captchaPage : Response} {sha256 : Sha256}

/-- One step of a run of the handlers. -/
abbrev LimitedStep
    (withCapacity : Nat → Nat)
    (made : ProbeSender → MadeLimiter)
    (language : ExpressionLanguage Expression Context Value)
    (splitParse : Str → List (Except Unit Cookie))
    (captchaPage : Response)
    (sha256 : Sha256) :=
  Pool.Step (limiters withCapacity made)
    (serveArrival language splitParse captchaPage sha256)

abbrev LimitedEvent (Expression Value : Type) :=
  PoolEvent (ListenerQuery Expression) ListenerQuery.Answer
    (Arrival Expression Value)

abbrev LimitedPool (Expression : Type) :=
  Pool LimitersState (ListenerQuery Expression) ListenerQuery.Answer Response

/-- What a stretch of a run, from some state of the limiters on, has added. -/
def StretchSince
    (withCapacity : Nat → Nat)
    (made : ProbeSender → MadeLimiter)
    (limiter : ProbeSender)
    (ip : IpAddr)
    (start : LimitersState)
    (events : List (LimitedEvent Expression Value))
    (pool : LimitedPool Expression) : Prop :=
  Since withCapacity made limiter ip start (countExchanges (isGrant limiter ip) events)
    pool.shared

/-- What a step adds to the grants of a stretch is what it adds to the calls. -/
theorem StretchSince.step
    {events : List (LimitedEvent Expression Value)}
    {event : LimitedEvent Expression Value}
    {before after : LimitedPool Expression}
    (since : StretchSince withCapacity made limiter ip start events before)
    (taken :
      LimitedStep withCapacity made language splitParse captchaPage sha256
        before event after) :
    StretchSince withCapacity made limiter ip start (events ++ [event])
      after := by
  unfold StretchSince at since ⊢
  cases taken with
  | change changes =>
      rw [countExchanges_snoc_of_none rfl]
      cases changes with
      | tick isLater =>
          exact since.tick isLater
      | counted reads =>
          exact since.count reads (.inl rfl)
  | start =>
      rw [countExchanges_snoc_of_none rfl]
      exact since
  | exchange _ answers =>
      rw [countExchanges_snoc_exchange]
      cases answers with
      | notSent =>
          exact since
      | notReceived =>
          exact since
      | other noProbe =>
          rw [isGrant_of_noProbe noProbe]
          exact since
      | counted reads =>
          refine since.count reads ?_
          split_ifs with isGranted
          · obtain ⟨rfl, isIp, isTrue⟩ := of_isGrant isGranted
            exact .inr ⟨rfl, rfl, isIp, isTrue⟩
          · exact .inl rfl

/-- A stretch of a run from some state of the limiters on. -/
theorem stretchSince_of_run
    {events : List (LimitedEvent Expression Value)}
    {middle finish : LimitedPool Expression}
    (run :
      Run (LimitedStep withCapacity made language splitParse captchaPage sha256)
        middle events finish)
    (inOrder : InOrder made limiter middle.shared) :
    StretchSince withCapacity made limiter ip middle.shared events finish := by
  have nothing : StretchSince withCapacity made limiter ip middle.shared
      ([] : List (LimitedEvent Expression Value)) middle :=
    ⟨inOrder, Int.le_refl _, [], (List.append_nil _).symm, by simp,
      Nat.zero_le _⟩
  exact run.invariant_of_events StretchSince.step nothing

/-- A stretch shorter than a period has at most twice the limit of grants. -/
theorem grants_le_of_since
    (since : Since withCapacity made limiter ip start grants state)
    (near :
      state.clock <
        start.clock +
          Duration.fromSecs (made limiter).limiterCfg.window.toNat) :
    grants ≤ 2 * min (made limiter).limiterCfg.max.toNat 65534 := by
  obtain ⟨⟨ordered, -⟩, later, added, answers, within, enough⟩ := since
  have positive : 1 ≤ (made limiter).limiterCfg.window.toNat := by
    by_contra isZero
    rw [Nat.lt_one_iff.mp (Nat.not_le.mp isZero)] at near
    simp only [Duration.fromSecs] at near
    omega
  have bound :=
    (grantedTo_bounds withCapacity (made limiter).limiterCfg.max
      (made limiter).limiterCfg.window.toNat
      (made limiter).limiterCfg.capacity (made limiter).createdAt
      (made limiter).elapsed ordered ip).2.1 positive start.clock
  rw [limit_configured, ← answersTo, answers, List.countP_append] at bound
  refine enough.trans (le_trans (List.countP_mono_left ?_)
    ((Nat.le_add_left _ _).trans bound))
  intro answered member granted
  obtain ⟨fromStart, toState⟩ := within answered member
  simp only [granted, Bool.true_and, Bool.and_eq_true, decide_eq_true_eq]
  exact ⟨fromStart, by omega⟩

/--
A service was given a request of an address, although a rule with this limiter
matched it.
-/
structure HandledUnderLimit
    (language : ExpressionLanguage Expression Context Value)
    (limiter : ProbeSender)
    (ip : IpAddr)
    (arrival : Arrival Expression Value)
    (log : List (ListenerExchange Expression)) : Prop where
  client : arrival.client.ip = ip
  handled :
    ∃ earlier service req response later rule,
      log = earlier ++ ⟨.handle service req, response⟩ :: later ∧
        (rule, .limit) ∈ arrival.actions language (loggedRecord earlier) ∧
        rule.limiterTx = some limiter

/-- Such a request was let go on by the limiter. -/
theorem exists_grant_of_handled
    {events : List (LimitedEvent Expression Value)}
    {initial : LimitersState}
    {finish : LimitedPool Expression}
    {index : Nat}
    {arrival : Arrival Expression Value}
    (run :
      Run (LimitedStep withCapacity made language splitParse captchaPage sha256)
        (.initial initial) events finish)
    (started : .start index arrival ∈ events)
    (handled :
      HandledUnderLimit language limiter ip arrival
        (exchangesOf index events)) :
    ∃ exchange ∈ exchangesOf index events,
      isGrant limiter ip exchange = true := by
  obtain ⟨isClient, earlier, service, req, response, later, rule, split,
    isAction, isLimiter⟩ := handled
  have mayAsk :
      MayAsk language splitParse sha256 arrival earlier
        (.handle service req) :=
    Pool.asked_of_run run started (asksAfter_serveArrival arrival) split
  have granted := (mayAsk.2.2 _ isAction).limit limiter isLimiter
  rw [split]
  refine ⟨_, List.mem_append_left _ granted, ?_⟩
  simp [isGrant, isClient]

/--
In any stretch of a run that is shorter than the window of a limit, at most
twice the limit of the requests of an address that the rule is about get past
the limiter and are handled by a service, however the handlers are scheduled.
-/
theorem handled_le_twice_limit
    {first second : List (LimitedEvent Expression Value)}
    {initial : LimitersState}
    {middle finish : LimitedPool Expression}
    (limiter : ProbeSender)
    (ip : IpAddr)
    (noCalls : initial.calls limiter = [])
    (isMade : (made limiter).createdAt ≤ initial.clock)
    (earlierRun :
      Run (LimitedStep withCapacity made language splitParse captchaPage sha256)
        (.initial initial) first middle)
    (stretch :
      Run (LimitedStep withCapacity made language splitParse captchaPage sha256)
        middle second finish)
    (near :
      finish.shared.clock <
        middle.shared.clock +
          Duration.fromSecs (made limiter).limiterCfg.window.toNat)
    (indices : Finset Nat)
    (handled :
      ∀ index ∈ indices,
        (∃ arrival,
          .start index arrival ∈ first ++ second ∧
            HandledUnderLimit language limiter ip arrival
              (exchangesOf index (first ++ second))) ∧
          ∀ exchange ∈ exchangesOf index first,
            isGrant limiter ip exchange = false) :
    indices.card ≤ 2 * min (made limiter).limiterCfg.max.toNat 65534 := by
  have inOrder : InOrder made limiter initial := by
    constructor <;> simp [noCalls, isMade]
  have fromInitial :
      StretchSince withCapacity made limiter ip initial first middle :=
    stretchSince_of_run earlierRun inOrder
  have since :
      StretchSince withCapacity made limiter ip middle.shared second finish :=
    stretchSince_of_run stretch fromInitial.inOrder
  refine le_trans ?_ (grants_le_of_since since near)
  refine card_le_countExchanges (isGrant limiter ip) indices fun index member => ?_
  obtain ⟨⟨arrival, started, isHandled⟩, notBefore⟩ := handled index member
  obtain ⟨exchange, inLog, granted⟩ :=
    exists_grant_of_handled (earlierRun.append stretch) started isHandled
  rw [exchangesOf_append, List.mem_append] at inLog
  rcases inLog with before | after
  · rw [notBefore exchange before] at granted
    cases granted
  · exact ⟨exchange, after, granted⟩

end Run

end

section Sample

private def limitedRule : Rule Empty where
  name :=
    "limited"
  expression :=
    none
  actions :=
    [.limit]
  limiterTx :=
    some ⟨0⟩

private def limitedService : HttpService Empty where
  name :=
    "site"
  route :=
    none

private def limitedArrival : Arrival Empty Unit where
  listener := {
    address := ⟨.localhost, 80⟩
    services := [limitedService]
    rules := [limitedRule]
    lists := ()
    geoip := false
    useTls := false
  }
  client :=
    ⟨.localhost, 5000⟩
  req :=
    { Request.ofPath .get ['/'] with
      headers :=
        FieldMap.insert ∅ .userAgent sampleAgent }

private def samplePage : Response :=
  newNotFoundError

private def limitedSha256 : Sha256 :=
  fun _ => Vector.replicate 32 0

private def limitedHanded : Request :=
  limitedArrival.handed GeoipRecord.default

/-- A request that the limiter lets go on, and that the service handles. -/
private def grantedLog : List (ListenerExchange Empty) :=
  [⟨.probe ⟨0⟩ .localhost, .received (.ok true)⟩,
    ⟨.handle limitedService limitedHanded, samplePage⟩]

/-- A request that the limiter does not let go on. -/
private def refusedLog : List (ListenerExchange Empty) :=
  [⟨.probe ⟨0⟩ .localhost, .received (.ok false)⟩]

/-- Three requests, one after the other, two of which go on. -/
private def limitedEvents : List (LimitedEvent Empty Unit) :=
  (.start 0 limitedArrival :: grantedLog.map (.exchange 0)) ++
    (.start 1 limitedArrival :: grantedLog.map (.exchange 1)) ++
      (.start 2 limitedArrival :: refusedLog.map (.exchange 2))

/-- The handler of a request asks the limiter, and the service if it may. -/
private theorem ends_limitedArrival :
    Ends
        (serveArrival noExpressions (fun _ => []) samplePage limitedSha256
          limitedArrival)
        grantedLog samplePage ∧
      Ends
        (serveArrival noExpressions (fun _ => []) samplePage limitedSha256
          limitedArrival)
        refusedLog newTooManyRequestsResponse429 := by
  have notBlocked : ¬ HasBlockedUserAgent limitedArrival.req := by
    decide
  have notCaptcha :
      ¬ (getPath limitedArrival.req).startsWith
        "/__pingoo/captcha".toList = true := by
    decide
  rw [@serveArrival_of_noCookie _ _ _ noExpressions (fun _ => []) samplePage
    limitedSha256 limitedArrival rfl notBlocked notCaptcha rfl]
  exact ⟨⟨_, _, rfl, _, _, rfl, rfl, rfl⟩, _, _, rfl, rfl, rfl⟩

/-- Two requests in a second. -/
private def sampleMade : ProbeSender → MadeLimiter :=
  fun _ => ⟨⟨2, 1, 8⟩, 0, 0⟩

private abbrev SampleStep :=
  LimitedStep id sampleMade noExpressions (fun _ => []) samplePage limitedSha256

/-- The limiters after some probes of one address at the start. -/
private def afterProbes : Nat → LimitersState
  | 0 =>
      ⟨0, fun _ => []⟩
  | count + 1 =>
      (afterProbes count).count ⟨0⟩ ⟨.localhost, 0, 0⟩

/-- A probe is answered by what the limiter has counted. -/
private theorem answers_probe
    {count : Nat}
    {granted : Bool}
    (isAnswer :
      (answerCall id
        (limiterAfter id sampleMade ⟨0⟩ ((afterProbes count).calls ⟨0⟩))
        ⟨.localhost, 0, 0⟩).1 = .ok granted)
    (isNow : (afterProbes count).clock = 0) :
    LimitersState.Answers id sampleMade (afterProbes count)
      (.probe ⟨0⟩ .localhost : ListenerQuery Empty) (.received (.ok granted))
      (afterProbes (count + 1)) := by
  have reads : ReadsClock (afterProbes count) ⟨.localhost, 0, 0⟩ :=
    ⟨isNow.le, Int.le_refl _⟩
  have counted :=
    @LimitersState.Answers.counted Empty id sampleMade (afterProbes count) ⟨0⟩
      _ reads
  rw [isAnswer] at counted
  exact counted

private theorem run_limitedEvents :
    ∃ finish,
      Run SampleStep (.initial ⟨0, fun _ => []⟩) limitedEvents finish ∧
        finish.shared.clock = 0 := by
  have service (count : Nat) :
      LimitersState.Answers id sampleMade (afterProbes count)
        (.handle limitedService limitedHanded : ListenerQuery Empty) samplePage
        (afterProbes count) :=
    .other rfl
  obtain ⟨first, firstRun, isFirst, -, others⟩ :=
    @Pool.run_of_ends _ _ _ _ _ (limiters id sampleMade) _
      (.initial (afterProbes 0)) 0 limitedArrival _ _ _ rfl
      ends_limitedArrival.1
      (.cons (@answers_probe 0 true (by decide) rfl) (.cons (service 1) .nil))
  obtain ⟨second, secondRun, isSecond, -, laterOthers⟩ :=
    @Pool.run_of_ends _ _ _ _ _ (limiters id sampleMade) _ first 1
      limitedArrival _ _ (afterProbes 2) (others 1 (by decide))
      ends_limitedArrival.1
      (isFirst ▸ .cons (@answers_probe 1 true (by decide) rfl)
        (.cons (service 2) .nil))
  obtain ⟨finish, lastRun, isFinish, -, -⟩ :=
    @Pool.run_of_ends _ _ _ _ _ (limiters id sampleMade) _ second 2
      limitedArrival _ _ (afterProbes 3)
      ((laterOthers 2 (by decide)).trans (others 2 (by decide)))
      ends_limitedArrival.2
      (isSecond ▸ .cons (@answers_probe 2 false (by decide) rfl) .nil)
  exact ⟨finish, (firstRun.append secondRun).append lastRun, by
    rw [isFinish]
    rfl⟩

/--
Of three requests at the start of a second the first two are handled, and the
third is not; a limit of two lets at most four through.
-/
theorem handled_le_twice_limit_sample :
    ∃ finish,
      Run SampleStep (.initial ⟨0, fun _ => []⟩) limitedEvents finish ∧
        (∀ index ∈ ({0, 1} : Finset Nat),
          HandledUnderLimit noExpressions ⟨0⟩ .localhost limitedArrival
            (exchangesOf index limitedEvents)) ∧
        exchangesOf 2 limitedEvents = refusedLog ∧
        ({0, 1} : Finset Nat).card ≤ 2 * min (2 : UInt16).toNat 65534 := by
  obtain ⟨finish, run, isNow⟩ := run_limitedEvents
  have isHandled :
      HandledUnderLimit noExpressions ⟨0⟩ .localhost limitedArrival
        grantedLog :=
    ⟨rfl, [⟨.probe ⟨0⟩ .localhost, .received (.ok true)⟩], limitedService,
      limitedHanded, samplePage, [], limitedRule, rfl,
      List.mem_singleton_self _, rfl⟩
  have areHandled :
      ∀ index ∈ ({0, 1} : Finset Nat),
        HandledUnderLimit noExpressions ⟨0⟩ .localhost limitedArrival
          (exchangesOf index limitedEvents) := by
    intro index member
    rw [Finset.mem_insert, Finset.mem_singleton] at member
    rcases member with rfl | rfl <;> exact isHandled
  refine ⟨finish, run, areHandled, rfl, ?_⟩
  refine @handled_le_twice_limit _ _ _ id sampleMade noExpressions _ _ _ []
    limitedEvents ⟨0, fun _ => []⟩ _ finish ⟨0⟩ .localhost rfl (Int.le_refl _)
    .nil run ?_ {0, 1} ?_
  · rw [isNow]
    decide
  · intro index member
    have started : .start index limitedArrival ∈ limitedEvents := by
      rw [Finset.mem_insert, Finset.mem_singleton] at member
      rcases member with rfl | rfl <;> simp [limitedEvents]
    exact ⟨⟨limitedArrival, started, areHandled index member⟩,
      fun _ none => absurd none List.not_mem_nil⟩

end Sample

end Pingoo
