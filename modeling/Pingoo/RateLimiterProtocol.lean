import Pingoo.ConfigFile
import Pingoo.HttpListener
import Pingoo.Library.RequestReply
import Pingoo.RateLimiterRefusals

namespace Pingoo

open RequestReply (Caller)

/-!
# The limiter protocol

Each rule with a limit has a task of its own that owns the limiter.  The
requests of all listeners send their probes to it through one channel, and each
waits for the reply to its own probe.

The worker waits nowhere but for the next probe, so it stops nowhere else.
-/

/-- The readings of the clock while a probe is answered. -/
structure ClockReadings where
  now : Int
  readAt : Int
  deriving Repr, DecidableEq

/-- The call of `can_resume` for a probe. -/
def probeCall
    (ip : IpAddr)
    (clock : ClockReadings) : RateLimiter.ClockedCall where
  ip :=
    ip
  now :=
    clock.now
  readAt :=
    clock.readAt

/-- The size of the channel that `load_and_validate` makes for a limiter. -/
def probeBuffer : Nat :=
  1024

/-- A limiter task, its channel and the calls of `limit_http_request`. -/
abbrev LimiterState :=
  RequestReply.State RateLimiter IpAddr (Except Unit Bool)

abbrev LimiterEvent :=
  RequestReply.Event IpAddr ClockReadings

/-- The callers and the calls that the worker counted, in order. -/
def countedCalls (events : List LimiterEvent) :
    List (Caller × RateLimiter.ClockedCall) :=
  (RequestReply.answered events).map fun entry =>
    (entry.1, probeCall entry.2.1 entry.2.2)

/-- What a call of `limit_http_request` learns of its probe. -/
def probeReply : RequestReply.Reply (Except Unit Bool) → ProbeReply
  | .notSent =>
      .notSent
  | .notReceived =>
      .notReceived
  | .received result =>
      .received result

namespace LimiterState

/-- What a call of `limit_http_request` returned, once it has. -/
def returned (state : LimiterState) (caller : Caller) :
    Option (Option Response) :=
  match state.calls caller with
  | .returned reply =>
      some (probeResponse (probeReply reply))
  | _ =>
      none

end LimiterState

section

variable (withCapacity : Nat → Nat)

/-- The task that `get_rate_limit_handle` spawns, before any probe. -/
def getRateLimitHandle
    (limiterCfg : RateLimit)
    (now : Int)
    (elapsed : Nat) : LimiterState :=
  RequestReply.initial
    (.new withCapacity limiterCfg.max
      (Duration.fromSecs limiterCfg.window.toNat) limiterCfg.capacity now
      elapsed)

/-- One step of the worker or of a call of `limit_http_request`. -/
def LimiterStep : LimiterState → LimiterEvent → LimiterState → Prop :=
  RequestReply.Step
    (fun limiter ip clock =>
      limiter.answerCall withCapacity (probeCall ip clock))
    probeBuffer

/-- The answers of a limiter run alone, next to the callers of the probes. -/
def sequentialAnswers
    (limiter : RateLimiter)
    (counted : List (Caller × RateLimiter.ClockedCall)) :
    List (Caller × Except Unit Bool) :=
  (counted.map Prod.fst).zip
    (StepRun.outputs (RateLimiter.answerCall withCapacity) limiter
      (counted.map Prod.snd))

/-- Every probe that the worker takes is counted once, in order. -/
structure CountsEachProbe
    (limiter : RateLimiter)
    (events : List LimiterEvent)
    (state : LimiterState) : Prop where
  inOrder :
    RequestReply.received events =
      (countedCalls events).map (fun entry => (entry.1, entry.2.ip)) ++
        state.worker.held
  once : ((RequestReply.received events).map Prod.fst).Nodup
  limiter :
    state.server =
      StepRun.final (RateLimiter.answerCall withCapacity) limiter
        ((countedCalls events).map Prod.snd)
  /-- Whatever became of its requester. -/
  goesOn :
    ∀ caller ip, state.worker = .answering caller ip →
      ∀ clock, ∃ next, LimiterStep withCapacity state
        (.answer caller ip clock) next

/-- A call that returned has the response for the answer to its own probe. -/
structure ReturnsOwnAnswer
    (limiter : RateLimiter)
    (events : List LimiterEvent)
    (caller : Caller)
    (ip : IpAddr)
    (response : Option Response) : Prop where
  ownProbe :
    ∀ call, (caller, call) ∈ countedCalls events → call.ip = ip
  answered :
    (∃ result,
        (caller, result) ∈
            sequentialAnswers withCapacity limiter (countedCalls events) ∧
          response =
            match result with
            | .ok true => none
            | .ok false => some newTooManyRequestsResponse429
            | .error () => some newServiceUnavailableError503) ∨
      (∀ taken, (caller, taken) ∉ RequestReply.received events) ∧
        response = some newInternalErrorResponse500
  failsClosed :
    response = none →
      (caller, .ok true) ∈
        sequentialAnswers withCapacity limiter (countedCalls events)

variable {withCapacity}

section Run

variable
  {limiterCfg : RateLimit} {now : Int} {elapsed : Nat}
  {events : List LimiterEvent} {state : LimiterState}

/-- The answers of the worker are those of a limiter run alone. -/
theorem answers_eq_sequentialAnswers (limiter : RateLimiter) :
    RequestReply.answers
        (fun limiter ip clock =>
          limiter.answerCall withCapacity (probeCall ip clock))
        limiter events =
      sequentialAnswers withCapacity limiter (countedCalls events) := by
  rw [RequestReply.answers, RequestReply.outputs_serveCaller]
  simp only [sequentialAnswers, countedCalls, List.map_map]
  rfl

theorem countsEachProbe_of_run
    (run : Transition.Run (LimiterStep withCapacity)
      (getRateLimitHandle withCapacity limiterCfg now elapsed) events state) :
    CountsEachProbe withCapacity
      (getRateLimitHandle withCapacity limiterCfg now elapsed).server events
      state := by
  have linearized := RequestReply.linearized_of_run run
  constructor
  · rw [linearized.taken, countedCalls, List.map_map]
    rfl
  · exact linearized.once
  · rw [linearized.serves, RequestReply.final_serveCaller, countedCalls,
      List.map_map]
    rfl
  · intro caller ip isAnswering clock
    exact ⟨_, .answer isAnswering⟩

/-- A probe that was counted was taken. -/
theorem mem_received_of_countedCalls
    {caller : Caller}
    {call : RateLimiter.ClockedCall}
    {limiter : RateLimiter}
    (counts : CountsEachProbe withCapacity limiter events state)
    (member : (caller, call) ∈ countedCalls events) :
    (caller, call.ip) ∈ RequestReply.received events := by
  rw [counts.inOrder]
  exact List.mem_append_left _ (List.mem_map_of_mem member)

theorem returnsOwnAnswer_of_run
    {caller : Caller}
    {ip : IpAddr}
    {response : Option Response}
    (run : Transition.Run (LimiterStep withCapacity)
      (getRateLimitHandle withCapacity limiterCfg now elapsed) events state)
    (started : .start caller ip ∈ events)
    (returned : state.returned caller = some response) :
    ReturnsOwnAnswer withCapacity
      (getRateLimitHandle withCapacity limiterCfg now elapsed).server events
      caller ip response := by
  have linearized := RequestReply.linearized_of_run run
  have own (call : RateLimiter.ClockedCall)
      (member : (caller, call) ∈ countedCalls events) : call.ip = ip :=
    linearized.own caller ip call.ip started
      (mem_received_of_countedCalls (countsEachProbe_of_run run) member)
  have notTaken
      (lost :
        state.calls caller = .returned .notSent ∨
          state.calls caller = .returned .notReceived)
      (taken : IpAddr) :
      (caller, taken) ∉ RequestReply.received events :=
    fun member => linearized.lost caller lost (List.mem_map_of_mem member)
  unfold LimiterState.returned at returned
  cases call : state.calls caller with
  | returned reply =>
      simp only [call, Option.some.injEq] at returned
      subst returned
      cases reply with
      | notSent =>
          exact ⟨own, Or.inr ⟨notTaken (Or.inl call), rfl⟩, nofun⟩
      | notReceived =>
          exact ⟨own, Or.inr ⟨notTaken (Or.inr call), rfl⟩, nofun⟩
      | received result =>
          have member := linearized.returned caller result call
          rw [answers_eq_sequentialAnswers] at member
          refine ⟨own, Or.inl ⟨result, member, ?_⟩, ?_⟩
          · obtain ⟨⟩ | ⟨_ | _⟩ := result <;> rfl
          · intro goesOn
            obtain ⟨⟩ | ⟨_ | _⟩ := result
            · cases goesOn
            · cases goesOn
            · exact member
  | _ =>
      simp [call] at returned

/-- No more probes wait for the worker than the channel has room for. -/
theorem length_queue_le_probeBuffer
    (run : Transition.Run (LimiterStep withCapacity)
      (getRateLimitHandle withCapacity limiterCfg now elapsed) events state) :
    state.queue.length ≤ probeBuffer :=
  RequestReply.length_queue_le run

/--
In every interleaving, each probe that the worker takes is counted once and in
order, and each call of `limit_http_request` that returns has the answer to its
own probe; only an `Ok(true)` lets a request go on.
-/
theorem limitHttpRequest_linearizable
    (run : Transition.Run (LimiterStep withCapacity)
      (getRateLimitHandle withCapacity limiterCfg now elapsed) events state) :
    CountsEachProbe withCapacity
        (getRateLimitHandle withCapacity limiterCfg now elapsed).server events
        state ∧
      ∀ caller ip response,
        .start caller ip ∈ events →
        state.returned caller = some response →
        ReturnsOwnAnswer withCapacity
          (getRateLimitHandle withCapacity limiterCfg now elapsed).server
          events caller ip response :=
  ⟨countsEachProbe_of_run run,
    fun _ _ _ started returned => returnsOwnAnswer_of_run run started returned⟩

/-- A limiter that lets one call of an address through in a second. -/
def oneInASecond : LimiterState :=
  getRateLimitHandle id ⟨1, 1, 8⟩ 0 0

/-- Two requests of one address; the requester of the first probe is gone. -/
def goneRequester : List LimiterEvent :=
  [.start 0 .localhost, .send 0, .drop 0, .start 1 .localhost, .send 1,
    .receive 0 .localhost, .answer 0 .localhost ⟨0, 0⟩,
    .receive 1 .localhost, .answer 1 .localhost ⟨0, 0⟩, .reply 1]

theorem run_goneRequester :
    ∃ state,
      Transition.Run (LimiterStep id) oneInASecond goneRequester state ∧
        state.returned 1 = some (some newTooManyRequestsResponse429) := by
  have started :
      Transition.Run (LimiterStep id) oneInASecond
        ([] ++ [.start 0 .localhost]) _ :=
    .snoc .nil (.start rfl)
  have sent : Transition.Run (LimiterStep id) oneInASecond (_ ++ [.send 0]) _ :=
    started.snoc (.send rfl nofun (by decide))
  have dropped :
      Transition.Run (LimiterStep id) oneInASecond (_ ++ [.drop 0]) _ :=
    sent.snoc (.drop rfl)
  have startedNext :
      Transition.Run (LimiterStep id) oneInASecond
        (_ ++ [.start 1 .localhost]) _ :=
    dropped.snoc (.start rfl)
  have sentNext :
      Transition.Run (LimiterStep id) oneInASecond (_ ++ [.send 1]) _ :=
    startedNext.snoc (.send rfl nofun (by decide))
  have counted :
      Transition.Run (LimiterStep id) oneInASecond
        (_ ++ [.answer 0 .localhost ⟨0, 0⟩]) _ :=
    (sentNext.snoc (.receive rfl rfl)).snoc (.answer rfl)
  have countedNext :
      Transition.Run (LimiterStep id) oneInASecond
        (_ ++ [.answer 1 .localhost ⟨0, 0⟩]) _ :=
    (counted.snoc (.receive rfl rfl)).snoc (.answer rfl)
  have replied :
      Transition.Run (LimiterStep id) oneInASecond (_ ++ [.reply 1]) _ :=
    countedNext.snoc (.reply rfl rfl)
  exact ⟨_, replied, rfl⟩

/-- The protocol on a run whose first requester is gone. -/
theorem limitHttpRequest_linearizable_gone :
    ∃ state,
      CountsEachProbe id oneInASecond.server goneRequester state ∧
        ReturnsOwnAnswer id oneInASecond.server goneRequester 1 .localhost
          (some newTooManyRequestsResponse429) := by
  obtain ⟨state, run, returned⟩ := run_goneRequester
  obtain ⟨counts, answers⟩ := limitHttpRequest_linearizable run
  exact ⟨state, counts,
    answers 1 .localhost _ (by decide) returned⟩

end Run

end

end Pingoo
