import Pingoo.Config
import Pingoo.Library.ProgramLogs
import Pingoo.Listeners.GracefulShutdown
import Pingoo.Retry

namespace Pingoo

/-!
# TCP proxy

The proxy service connects a client to one of its upstreams.  An attempt looks
the upstreams up, picks one at random and connects to it; when it fails, another
one is made, with the upstreams that there are by then.  What an attempt does,
and how many there are, is all that a connection can have exchanged.
-/

open Interaction Transition Program

/-- A connection to an upstream. -/
structure TcpStream where
  peer : SocketAddr
  deriving Repr, DecidableEq

/-- What `TcpStream::connect` comes to within three seconds. -/
inductive ConnectOutcome where
  | connected
  | failed (err : String)
  | elapsed
  deriving Repr, DecidableEq

/-- What a connection asks its environment. -/
inductive TcpProxyQuery where
  | getUpstreams (service : String)
  | choose (upstreams : List Upstream)
  | connect (address : SocketAddr)
  | spawnCopy (outbound : TcpStream)
  deriving DecidableEq

/-- The answers: `choose` is asked of a list that is not empty only. -/
@[reducible] def TcpProxyQuery.Answer : TcpProxyQuery → Type
  | .getUpstreams _ =>
      List Upstream
  | .choose upstreams =>
      { upstream // upstream ∈ upstreams }
  | .connect _ =>
      ConnectOutcome
  | .spawnCopy _ =>
      Unit

abbrev TcpProxyProgram := Program TcpProxyQuery TcpProxyQuery.Answer

/-- What a connection asked, with the answer. -/
abbrev TcpProxyExchange := AnsweredQuery TcpProxyQuery TcpProxyQuery.Answer

structure TcpProxyService where
  name : String
  deriving Repr, DecidableEq

namespace TcpProxyService

variable (service : TcpProxyService)

/-- What comes of connecting to an upstream. -/
def connectResult (address : SocketAddr) :
    ConnectOutcome → Except Error TcpStream
  | .connected =>
      .ok ⟨address⟩
  | .failed err =>
      .error (.unspecified (
        s!"error connecting to upstream {String.ofList address.toStr}: {err}"))
  | .elapsed =>
      .error (.unspecified (
        s!"error connecting to upstream {String.ofList address.toStr}: " ++
        "timeout"))

/-- The operation that `serve_connection` tries. -/
def connect : TcpProxyProgram (Except Error TcpStream) := do
  let upstreams ←
    (request (TcpProxyQuery.getUpstreams service.name) :
      TcpProxyProgram (List Upstream))
  if upstreams = [] then
    pure (.error (.unspecified "no upstream available"))
  else
    let upstream ←
      (request (TcpProxyQuery.choose upstreams) :
        TcpProxyProgram { upstream // upstream ∈ upstreams })
    let outcome ←
      (request (TcpProxyQuery.connect upstream.val.socketAddress) :
        TcpProxyProgram ConnectOutcome)
    pure (connectResult upstream.val.socketAddress outcome)

/-- `TcpProxyService::serve_connection`. -/
def serveConnection : TcpProxyProgram Unit := do
  match ← retry service.connect connectRetries with
  | .error _ => pure ()
  | .ok outboundStream => request (TcpProxyQuery.spawnCopy outboundStream)

end TcpProxyService

/-! ## What a connection exchanges -/

/-- An attempt to connect to an upstream. -/
inductive ConnectAttempt where
  | noUpstream
  | connect
      (upstreams : List Upstream)
      (upstream : { upstream // upstream ∈ upstreams })
      (outcome : ConnectOutcome)

namespace ConnectAttempt

/-- The stream of an attempt that succeeded. -/
def stream : ConnectAttempt → Option TcpStream
  | .connect _ upstream .connected =>
      some ⟨upstream.val.socketAddress⟩
  | _ =>
      none

/-- The upstreams that an attempt read. -/
def upstreams : ConnectAttempt → List Upstream
  | .noUpstream =>
      []
  | .connect upstreams _ _ =>
      upstreams

/-- What an attempt for a service exchanges. -/
def log (service : TcpProxyService) : ConnectAttempt → List TcpProxyExchange
  | .noUpstream =>
      [⟨.getUpstreams service.name, []⟩]
  | .connect upstreams upstream outcome =>
      [⟨.getUpstreams service.name, upstreams⟩, ⟨.choose upstreams, upstream⟩,
        ⟨.connect upstream.val.socketAddress, outcome⟩]

theorem read_mem_log (service : TcpProxyService) (attempt : ConnectAttempt) :
    ⟨.getUpstreams service.name, attempt.upstreams⟩ ∈ attempt.log service := by
  cases attempt <;> exact List.mem_cons_self

/-- What an attempt comes to. -/
def result : ConnectAttempt → Except Error TcpStream
  | .noUpstream =>
      .error (.unspecified "no upstream available")
  | .connect _ upstream outcome =>
      TcpProxyService.connectResult upstream.val.socketAddress outcome

theorem result_eq_ok_iff {attempt : ConnectAttempt} {stream : TcpStream} :
    attempt.result = .ok stream ↔ attempt.stream = some stream := by
  cases attempt with
  | noUpstream =>
      simp [result, ConnectAttempt.stream]
  | connect upstreams upstream outcome =>
      cases outcome <;>
        simp [result, TcpProxyService.connectResult, ConnectAttempt.stream]

theorem exists_result_eq_error_iff {attempt : ConnectAttempt} :
    (∃ err, attempt.result = .error err) ↔ attempt.stream = none := by
  cases attempt with
  | noUpstream =>
      simp [result, stream]
  | connect upstreams upstream outcome =>
      cases outcome <;> simp [result, TcpProxyService.connectResult, stream]

end ConnectAttempt

/-- The attempts that a connection makes before the one that ends it. -/
structure Attempts where
  failures : List ConnectAttempt
  last : ConnectAttempt
  fail : ∀ attempt ∈ failures, attempt.stream = none
  few : failures.length < connectRetries
  isLast : last.stream = none → failures.length + 1 = connectRetries

namespace Attempts

/-- All attempts, in order. -/
def all (attempts : Attempts) : List ConnectAttempt :=
  attempts.failures ++ [attempts.last]

/-- The exchanges of the attempts, and of the relay if one is started. -/
def log (service : TcpProxyService) (attempts : Attempts) :
    List TcpProxyExchange :=
  attempts.all.flatMap (ConnectAttempt.log service) ++
    attempts.last.stream.toList.map fun stream => ⟨.spawnCopy stream, ()⟩

theorem read_mem_log
    {service : TcpProxyService}
    (attempts : Attempts)
    {attempt : ConnectAttempt}
    (member : attempt ∈ attempts.all) :
    ⟨.getUpstreams service.name, attempt.upstreams⟩ ∈ attempts.log service :=
  List.mem_append_left _
    (List.mem_flatMap.mpr ⟨attempt, member, attempt.read_mem_log service⟩)

end Attempts

section Exchanges

variable {service : TcpProxyService}
variable {log : List TcpProxyExchange}

/-- What is tried is an attempt. -/
theorem ends_connect_iff {result : Except Error TcpStream} :
    Ends service.connect log result ↔
      ∃ attempt : ConnectAttempt,
        log = attempt.log service ∧ result = attempt.result := by
  rw [TcpProxyService.connect, ends_request_bind_iff]
  constructor
  · rintro ⟨upstreams, rest, rfl, ends⟩
    by_cases isEmpty : upstreams = []
    · subst isEmpty
      obtain ⟨rfl, rfl⟩ := ends
      exact ⟨.noUpstream, rfl, rfl⟩
    · rw [if_neg isEmpty] at ends
      obtain ⟨upstream, _, rfl, outcome, _, rfl, rfl, rfl⟩ := ends
      exact ⟨.connect upstreams upstream outcome, rfl, rfl⟩
  · rintro ⟨attempt, rfl, rfl⟩
    cases attempt with
    | noUpstream =>
        exact ⟨[], [], rfl, rfl, rfl⟩
    | connect upstreams upstream outcome =>
        refine ⟨upstreams, _, rfl, ?_⟩
        rw [if_neg (List.ne_nil_of_mem upstream.property)]
        exact ⟨upstream, _, rfl, outcome, [], rfl, rfl, rfl⟩

/-- Failed attempts have logs, and failed logs are those of attempts. -/
theorem allFail_connect_iff {logs : List (List TcpProxyExchange)} :
    AllFail service.connect logs ↔
      ∃ failures : List ConnectAttempt,
        (∀ attempt ∈ failures, attempt.stream = none) ∧
          logs = failures.map (ConnectAttempt.log service) := by
  constructor
  · intro allFail
    induction logs with
    | nil =>
        exact ⟨[], nofun, rfl⟩
    | cons first rest inductionHypothesis =>
        obtain ⟨⟨err, endsFirst⟩, failRest⟩ := List.forall_mem_cons.mp allFail
        obtain ⟨attempt, rfl, isError⟩ := ends_connect_iff.mp endsFirst
        obtain ⟨failures, fail, rfl⟩ := inductionHypothesis failRest
        have isFailure : attempt.stream = none :=
          ConnectAttempt.exists_result_eq_error_iff.mp ⟨err, isError.symm⟩
        exact ⟨attempt :: failures,
          List.forall_mem_cons.mpr ⟨isFailure, fail⟩, rfl⟩
  · rintro ⟨failures, fail, rfl⟩ failed member
    obtain ⟨attempt, isFailure, rfl⟩ := List.mem_map.mp member
    obtain ⟨err, isError⟩ :=
      ConnectAttempt.exists_result_eq_error_iff.mpr (fail attempt isFailure)
    exact ⟨err, ends_connect_iff.mpr ⟨attempt, rfl, isError.symm⟩⟩

/--
A connection makes attempts until one succeeds, three at most, and relays to the
upstream of that one and to no other.
-/
theorem ends_serveConnection_iff :
    Ends service.serveConnection log () ↔
      ∃ attempts : Attempts, log = attempts.log service := by
  rw [TcpProxyService.serveConnection, ends_bind_iff]
  simp only [ends_retry_iff (show 0 < connectRetries by decide),
    allFail_connect_iff, ends_connect_iff]
  constructor
  · rintro ⟨_, second, _, rfl,
      ⟨_, _, ⟨failures, fail, rfl⟩, rfl, ⟨last, rfl, rfl⟩, few, isLast⟩, ends⟩
    rw [List.length_map] at few isLast
    refine ⟨⟨failures, last, fail, few, fun isFailure => ?_⟩, ?_⟩
    · obtain ⟨err, isError⟩ :=
        ConnectAttempt.exists_result_eq_error_iff.mpr isFailure
      exact isLast err isError
    · rw [Attempts.log, Attempts.all, List.flatMap_append, List.flatMap_def,
        List.flatMap_singleton]
      refine congrArg _ ?_
      cases isStream : last.stream with
      | none =>
          obtain ⟨err, isError⟩ :=
            ConnectAttempt.exists_result_eq_error_iff.mpr isStream
          rw [isError] at ends
          exact ends.1
      | some stream =>
          rw [ConnectAttempt.result_eq_ok_iff.mpr isStream] at ends
          obtain ⟨_, _, rfl, rfl, _⟩ := ends
          rfl
  · rintro ⟨attempts, rfl⟩
    refine ⟨_, _, attempts.last.result, rfl,
      ⟨_, _, ⟨attempts.failures, attempts.fail, rfl⟩, ?_,
        ⟨attempts.last, rfl, rfl⟩, ?_, ?_⟩, ?_⟩
    · rw [Attempts.all, List.flatMap_append, List.flatMap_def,
        List.flatMap_singleton]
    · rw [List.length_map]
      exact attempts.few
    · intro err isError
      rw [List.length_map]
      exact attempts.isLast
        (ConnectAttempt.exists_result_eq_error_iff.mp ⟨err, isError⟩)
    · cases isStream : attempts.last.stream with
      | none =>
          obtain ⟨err, isError⟩ :=
            ConnectAttempt.exists_result_eq_error_iff.mpr isStream
          rw [isError]
          exact ⟨rfl, rfl⟩
      | some stream =>
          rw [ConnectAttempt.result_eq_ok_iff.mpr isStream]
          exact ⟨(), [], rfl, rfl, rfl⟩

end Exchanges

/-! ## The connection that a listener waits for -/

namespace Attempts

/-- The steps of the task of a connection, while it makes its attempts. -/
def events (attempts : Attempts) : List ConnectionEvent :=
  attempts.failures.flatMap (fun _ => [.attemptFailed, .slept]) ++
    [if attempts.last.stream = none then .attemptFailed else .connected]

/-- The relay after the attempts. -/
def relay (attempts : Attempts) : Relay :=
  if attempts.last.stream = none then .notSpawned else .running

/-- While attempts are left, each one that fails leads to the next. -/
private theorem run_failures
    (failures : List ConnectAttempt)
    {attempt : Nat}
    (left : attempt + failures.length ≤ connectRetries) :
    Run Connection.Step ⟨.connecting attempt, .notSpawned⟩
      (failures.flatMap fun _ => [.attemptFailed, .slept])
      ⟨.connecting (attempt + failures.length), .notSpawned⟩ := by
  induction failures generalizing attempt with
  | nil =>
      exact .nil
  | cons failure rest inductionHypothesis =>
      rw [List.length_cons] at left ⊢
      have isFailing :
          Connection.Step ⟨.connecting attempt, .notSpawned⟩ .attemptFailed
            ⟨.waiting attempt, .notSpawned⟩ := by
        have isLeft : attempt < connectRetries := by
          omega
        simp [Connection.Step, Connection.step, isLeft]
      have isNext :
          Connection.Step ⟨.waiting attempt, .notSpawned⟩ .slept
            ⟨.connecting (attempt + 1), .notSpawned⟩ :=
        rfl
      have others :=
        @inductionHypothesis (attempt + 1) (by omega)
      rw [Nat.add_assoc, Nat.add_comm 1] at others
      exact ((Run.single isFailing).snoc isNext).append others

/--
The attempts take the task of a listener's connection from its first attempt to
its end, with a relay exactly when the last one succeeds.
-/
theorem run_connection (attempts : Attempts) :
    Run Connection.Step (.accepted false) attempts.events
      ⟨.returning, attempts.relay⟩ := by
  have failing :=
    @run_failures attempts.failures 1 (by
      rw [Nat.add_comm]
      exact attempts.few)
  refine failing.snoc ?_
  rw [relay]
  split_ifs with isFailure
  · have isLast := attempts.isLast isFailure
    have noneLeft : ¬ 1 + attempts.failures.length < connectRetries := by
      omega
    simp [Connection.Step, Connection.step, noneLeft]
  · rfl

end Attempts

end Pingoo
