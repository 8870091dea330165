import Pingoo.Listeners.TcpListener

namespace Pingoo

open Transition

/-!
# Graceful shutdown of TCP listeners

A listener waits for the tasks of its `JoinSet`, and such a task is over as soon
as the relay of its connection was spawned.  So what `listen` waits for is not
what is relayed: when it observes the shutdown signal while a connection is, or
may still come to be, relayed, it can return at once with the relay running.
-/

/-- A task that may still come to a relay. -/
def ConnectionTask.leadsToRelay : ConnectionTask → Bool
  | .handshake .clientHello =>
      true
  | .handshake .stream =>
      true
  | .connecting _ =>
      true
  | .waiting _ =>
      true
  | _ =>
      false

namespace Connection

/-- The connection is relayed, or may still come to be. -/
def MayRelay (connection : Connection) : Prop :=
  connection.relay = .running ∨ connection.task.leadsToRelay = true

instance (connection : Connection) : Decidable connection.MayRelay :=
  inferInstanceAs (Decidable (_ ∨ _))

/-- The steps of a connection. -/
def Step
    (before : Connection)
    (event : ConnectionEvent)
    (after : Connection) : Prop :=
  before.step event = some after

/-- A connection that cannot be relayed any more stays so. -/
theorem not_mayRelay_of_step
    {before after : Connection}
    {event : ConnectionEvent}
    (never : ¬ before.MayRelay)
    (taken : before.Step event after) : ¬ after.MayRelay := by
  obtain ⟨task, relay⟩ := before
  obtain ⟨notRunning, noRelay⟩ := not_or.mp never
  unfold Step step at taken
  split at taken
  · next handshake event isHandshake =>
      simp only at isHandshake
      subst isHandshake
      obtain ⟨progress, isProgress, rfl⟩ := Option.map_eq_some_iff.mp taken
      cases handshake with
      | clientHello =>
          cases noRelay rfl
      | stream =>
          cases noRelay rfl
      | acmeStream =>
          cases event <;> cases isProgress <;>
            exact not_or.mpr ⟨notRunning, nofun⟩
      | acmeShutdown =>
          cases event <;> cases isProgress <;>
            exact not_or.mpr ⟨notRunning, nofun⟩
  · next attempt isConnecting =>
      simp only at isConnecting
      subst isConnecting
      cases noRelay rfl
  · next attempt isWaiting =>
      simp only at isWaiting
      subst isWaiting
      cases noRelay rfl
  · next attempt isConnecting =>
      simp only at isConnecting
      subst isConnecting
      cases noRelay rfl
  · cases taken
    exact not_or.mpr ⟨notRunning, nofun⟩
  · rw [if_neg notRunning] at taken
    cases taken
  · cases taken

/-- The task of a connection can finish, with a relay where one may start. -/
structure Finishes (connection finished : Connection) : Prop where
  task : finished.task = .finished
  relay : connection.MayRelay → finished.relay = .running

/-- A task that is about to return returns. -/
private theorem run_returning (relay : Relay) :
    Run Step ⟨.returning, relay⟩ [.returned] ⟨.finished, relay⟩ :=
  .single rfl

/-- A task that connects starts a relay. -/
private theorem run_connecting (attempt : Nat) (relay : Relay) :
    Run Step ⟨.connecting attempt, relay⟩ [.connected, .returned]
      ⟨.finished, .running⟩ := by
  have connects : Step ⟨.connecting attempt, relay⟩ .connected
      ⟨.returning, .running⟩ := rfl
  exact (Run.single connects).append (run_returning .running)

/-- A handshake with a client that is served ends with a relay. -/
private theorem run_stream (relay : Relay) :
    Run Step ⟨.handshake .stream, relay⟩
      [.handshake .completed, .connected, .returned]
      ⟨.finished, .running⟩ := by
  have completes : Step ⟨.handshake .stream, relay⟩ (.handshake .completed)
      ⟨.connecting 1, relay⟩ := rfl
  exact (Run.single completes).append (run_connecting 1 relay)

/-- A handshake for an ACME challenge ends without a relay. -/
private theorem run_acmeShutdown (relay : Relay) :
    Run Step ⟨.handshake .acmeShutdown, relay⟩
      [.handshake .completed, .returned] ⟨.finished, relay⟩ := by
  have completes : Step ⟨.handshake .acmeShutdown, relay⟩
      (.handshake .completed) ⟨.returning, relay⟩ := rfl
  exact (Run.single completes).append (run_returning relay)

/-- The relay stays where no other may start. -/
private theorem finishes_of_leadsToRelay_eq_false
    {task : ConnectionTask}
    {relay : Relay}
    (noRelay : task.leadsToRelay = false) :
    Finishes ⟨task, relay⟩ ⟨.finished, relay⟩ where
  task :=
    rfl
  relay mayRelay :=
    mayRelay.resolve_right (by simp [noRelay])

/-- A task can go on until it returns, and with a relay where one may start. -/
theorem exists_run_finishes (connection : Connection) :
    ∃ events finished,
      Run Step connection events finished ∧
        connection.Finishes finished := by
  obtain ⟨task, relay⟩ := connection
  cases task with
  | finished =>
      exact ⟨_, _, .nil, finishes_of_leadsToRelay_eq_false rfl⟩
  | returning =>
      exact ⟨_, _, run_returning relay,
        finishes_of_leadsToRelay_eq_false rfl⟩
  | connecting attempt =>
      exact ⟨_, _, run_connecting attempt relay, rfl, fun _ => rfl⟩
  | waiting attempt =>
      have wakes : Step ⟨.waiting attempt, relay⟩ .slept
          ⟨.connecting (attempt + 1), relay⟩ := rfl
      exact ⟨_, _, (Run.single wakes).append (run_connecting _ relay), rfl,
        fun _ => rfl⟩
  | handshake handshake =>
      cases handshake with
      | clientHello =>
          have reads : Step ⟨.handshake .clientHello, relay⟩
              (.handshake (.helloReceived false))
              ⟨.handshake .stream, relay⟩ := rfl
          exact ⟨_, _, (Run.single reads).append (run_stream relay), rfl,
            fun _ => rfl⟩
      | stream =>
          exact ⟨_, _, run_stream relay, rfl, fun _ => rfl⟩
      | acmeShutdown =>
          exact ⟨_, _, run_acmeShutdown relay,
            finishes_of_leadsToRelay_eq_false rfl⟩
      | acmeStream =>
          have completes : Step ⟨.handshake .acmeStream, relay⟩
              (.handshake .completed)
              ⟨.handshake .acmeShutdown, relay⟩ := rfl
          exact ⟨_, _,
            (Run.single completes).append (run_acmeShutdown relay),
            finishes_of_leadsToRelay_eq_false rfl⟩

end Connection

namespace TcpListen

variable {tls : Bool}

/--
If `listen` has returned before the timeout since the signal, no connection that
it accepted is still relayed.
-/
def DrainedIfEarly (listen : TcpListen) : Prop :=
  ∀ returnedAt signalledAt,
    listen.phase = .returned returnedAt →
    listen.signalledAt = some signalledAt →
    returnedAt < signalledAt + gracefulShutdownTimeout →
    ∀ connection ∈ listen.connections, connection.relay ≠ .running

/--
When the signal is observed no connection is relayed or may still come to be, or
the timeout has already elapsed since the signal.
-/
def MeetsCondition (listen : TcpListen) : TcpListenEvent → Prop
  | .shutdownObserved =>
      (∀ connection ∈ listen.connections, ¬ connection.MayRelay) ∨
        ∀ signalledAt, listen.signalledAt = some signalledAt →
          signalledAt + gracefulShutdownTimeout ≤ listen.now
  | _ =>
      True

section Sufficient

/-- The time that counts for a return: that of the return, or the present. -/
def endsAt (listen : TcpListen) : Nat :=
  match listen.phase with
  | .returned returnedAt =>
      returnedAt
  | _ =>
      listen.now

/-- What holds of a listener whose shutdown met the condition. -/
structure SafeShutdown (listen : TcpListen) : Prop where
  observed : listen.phase ≠ .accepting
  signalled : listen.signalledAt ≠ none
  safe :
    (∀ connection ∈ listen.connections, ¬ connection.MayRelay) ∨
      ∀ signalledAt, listen.signalledAt = some signalledAt →
        signalledAt + gracefulShutdownTimeout ≤ listen.endsAt

/-- A safe shutdown never returns early with a relay. -/
theorem SafeShutdown.drainedIfEarly
    {listen : TcpListen}
    (safe : listen.SafeShutdown) : listen.DrainedIfEarly := by
  intro returnedAt signalledAt isReturned isSignalled early connection member
  rcases safe.safe with never | late
  · exact fun isRunning => never connection member (.inl isRunning)
  · have elapsed := late signalledAt isSignalled
    simp only [endsAt, isReturned] at elapsed
    omega

/-- A safe shutdown stays safe as time passes and connections come to an end. -/
private theorem SafeShutdown.of_later
    {before after : TcpListen}
    (safe : before.SafeShutdown)
    (observed : after.phase ≠ .accepting)
    (sameSignal : after.signalledAt = before.signalledAt)
    (later : before.endsAt ≤ after.endsAt)
    (never :
      (∀ connection ∈ before.connections, ¬ connection.MayRelay) →
        ∀ connection ∈ after.connections, ¬ connection.MayRelay) :
    after.SafeShutdown where
  observed :=
    observed
  signalled := by
    rw [sameSignal]
    exact safe.signalled
  safe := by
    rw [sameSignal]
    exact safe.safe.imp never fun late signalledAt isSignalled =>
      Nat.le_trans (late signalledAt isSignalled) later

theorem safeShutdown_of_step
    {before after : TcpListen}
    {event : TcpListenEvent}
    (safe : before.SafeShutdown)
    (taken : Step tls before event after) : after.SafeShutdown := by
  unfold Step at taken
  cases event with
  | tick =>
      cases taken
      refine safe.of_later safe.observed rfl ?_ id
      unfold endsAt
      split <;> simp_all
  | signal =>
      rw [step, if_neg safe.signalled] at taken
      cases taken
  | acceptFailed =>
      rw [step, if_neg safe.observed] at taken
      cases taken
  | accept =>
      rw [step, if_neg safe.observed] at taken
      cases taken
  | connection index connectionEvent =>
      obtain ⟨changed, isChanged, rfl⟩ := Option.map_eq_some_iff.mp taken
      obtain ⟨connection, isConnection, changes⟩ :=
        Option.bind_eq_some_iff.mp isChanged
      refine safe.of_later safe.observed rfl (Nat.le_refl _) fun never => ?_
      intro other member
      rcases List.mem_or_eq_of_mem_set member with isOld | rfl
      · exact never other isOld
      · exact Connection.not_mayRelay_of_step
          (never connection (List.mem_of_getElem? isConnection)) changes
  | shutdownObserved =>
      rw [step, if_neg fun accepting => safe.observed accepting.1] at taken
      cases taken
  | joined =>
      rw [step] at taken
      split at taken
      · next startedAt isDraining =>
          split at taken
          · cases taken
            refine safe.of_later nofun rfl ?_ id
            simp [endsAt, isDraining]
          · cases taken
      · cases taken
  | timedOut =>
      rw [step] at taken
      split at taken
      · next startedAt isDraining =>
          split at taken
          · cases taken
            refine safe.of_later nofun rfl ?_ fun never => ?_
            · simp [endsAt, isDraining]
            · intro aborted member
              obtain ⟨connection, inBefore, rfl⟩ := List.mem_map.mp member
              exact not_or.mpr
                ⟨(not_or.mp (never connection inBefore)).1, nofun⟩
          · cases taken
      · cases taken

/-- Observing the signal under the condition makes the shutdown safe. -/
theorem safeShutdown_of_shutdownObserved
    {before after : TcpListen}
    (meets : before.MeetsCondition .shutdownObserved)
    (taken : Step tls before .shutdownObserved after) :
    after.SafeShutdown := by
  rw [Step, step] at taken
  split at taken
  · next observed =>
      cases taken
      refine ⟨nofun, ?_, meets⟩
      exact Option.isSome_iff_ne_none.mp observed.2
  · cases taken

/-- A listener accepts, or its shutdown is safe. -/
theorem accepting_or_safeShutdown_of_step
    {before after : TcpListen}
    {event : TcpListenEvent}
    (invariant : before.phase = .accepting ∨ before.SafeShutdown)
    (taken : Guarded MeetsCondition (Step tls) before event after) :
    after.phase = .accepting ∨ after.SafeShutdown := by
  obtain ⟨meets, step⟩ := taken
  rcases invariant with accepting | safe
  · cases event with
    | shutdownObserved =>
        exact .inr (safeShutdown_of_shutdownObserved meets step)
    | tick =>
        cases step
        exact .inl accepting
    | signal =>
        rw [Step, TcpListen.step] at step
        split at step <;> cases step
        exact .inl accepting
    | acceptFailed =>
        rw [Step, TcpListen.step, if_pos accepting] at step
        cases step
        exact .inl accepting
    | accept =>
        rw [Step, TcpListen.step, if_pos accepting] at step
        cases step
        exact .inl accepting
    | connection index connectionEvent =>
        obtain ⟨changed, _, rfl⟩ := Option.map_eq_some_iff.mp step
        exact .inl accepting
    | joined =>
        simp [Step, TcpListen.step, accepting] at step
    | timedOut =>
        simp [Step, TcpListen.step, accepting] at step
  · exact .inr (safeShutdown_of_step safe step)

end Sufficient

section Necessary

/-- A run of one connection is a run of the listener. -/
private theorem run_connection
    {listen : TcpListen}
    {earlier later : List Connection}
    {connection changed : Connection}
    {events : List ConnectionEvent}
    (isConnection : listen.connections = earlier ++ connection :: later)
    (run : Run Connection.Step connection events changed) :
    Run (Step tls) listen (events.map (.connection earlier.length))
      { listen with connections := earlier ++ changed :: later } := by
  induction run with
  | nil =>
      rw [← isConnection]
      exact .nil
  | @snoc events event before after _ last inductionHypothesis =>
      rw [List.map_append]
      refine inductionHypothesis.snoc ?_
      have taken : before.step event = some after := last
      simp [Step, step, taken]

/-- All tasks are finished, with a relay where one of them could start it. -/
structure AllFinish (connections finished : List Connection) : Prop where
  task : ∀ connection ∈ finished, connection.task = .finished
  relay :
    (∃ connection ∈ connections, connection.MayRelay) →
      ∃ connection ∈ finished, connection.relay = .running

private theorem AllFinish.cons
    {connection changed : Connection}
    {connections finished : List Connection}
    (finishes : connection.Finishes changed)
    (allFinish : AllFinish connections finished) :
    AllFinish (connection :: connections) (changed :: finished) where
  task :=
    List.forall_mem_cons.mpr ⟨finishes.task, allFinish.task⟩
  relay := by
    rintro ⟨other, member, mayRelay⟩
    rcases List.mem_cons.mp member with rfl | inRest
    · exact ⟨changed, List.mem_cons_self, finishes.relay mayRelay⟩
    · obtain ⟨relayed, isRelayed, running⟩ :=
        allFinish.relay ⟨other, inRest, mayRelay⟩
      exact ⟨relayed, List.mem_cons_of_mem _ isRelayed, running⟩

/-- The tasks of a listener can all finish before anything else happens. -/
private theorem exists_run_finished
    (tls : Bool)
    (listen : TcpListen)
    (earlier later : List Connection)
    (isSplit : listen.connections = earlier ++ later) :
    ∃ events finished,
      Run (Step tls) listen events
        { listen with connections := earlier ++ finished } ∧
      AllFinish later finished := by
  induction later generalizing listen earlier with
  | nil =>
      refine ⟨[], [], ?_, by simp, by simp⟩
      rw [← isSplit]
      exact .nil
  | cons connection rest inductionHypothesis =>
      obtain ⟨events, changed, run, finishes⟩ :=
        connection.exists_run_finishes
      obtain ⟨restEvents, finished, restRun, restFinish⟩ :=
        inductionHypothesis
          { listen with connections := earlier ++ changed :: rest }
          (earlier ++ [changed]) (by simp)
      rw [List.append_assoc, List.singleton_append] at restRun
      exact ⟨_, changed :: finished,
        (run_connection isSplit run).append restRun, .cons finishes restFinish⟩

/-- A listener that has finished tasks returns at once. -/
private theorem step_joined
    {listen : TcpListen}
    {startedAt : Nat}
    (isDraining : listen.phase = .draining startedAt)
    (finished :
      ∀ connection ∈ listen.connections, connection.task = .finished) :
    Step tls listen .joined { listen with phase := .returned listen.now } := by
  have all : listen.connections.all (·.task = .finished) = true := by
    simpa using finished
  simp only [Step, step, isDraining, all, if_true]

/--
A listener that observes the signal in time while a connection may be relayed
can return early with a relay that runs.
-/
theorem exists_not_drainedIfEarly
    (tls : Bool)
    {listen : TcpListen}
    (accepting : listen.phase = .accepting)
    (signalled : listen.signalledAt.isSome)
    (violates : ¬ listen.MeetsCondition .shutdownObserved) :
    ∃ draining events later,
      Step tls listen .shutdownObserved draining ∧
      Run (Step tls) draining events later ∧
      ¬ later.DrainedIfEarly := by
  obtain ⟨someMayRelay, notLate⟩ := not_or.mp violates
  simp only [not_forall, not_not, Nat.not_le] at someMayRelay notLate
  obtain ⟨connection, member, mayRelay⟩ := someMayRelay
  obtain ⟨signalledAt, isSignalled, early⟩ := notLate
  have observes : Step tls listen .shutdownObserved
      { listen with phase := .draining listen.now } := by
    rw [Step, step, if_pos ⟨accepting, signalled⟩]
  obtain ⟨events, finished, run, allFinish⟩ :=
    exists_run_finished tls
      { listen with phase := .draining listen.now } [] listen.connections rfl
  have returns : Step tls
      ⟨listen.now, listen.signalledAt, .draining listen.now, finished⟩ .joined
      ⟨listen.now, listen.signalledAt, .returned listen.now, finished⟩ :=
    step_joined rfl allFinish.task
  obtain ⟨relayed, isRelayed, running⟩ :=
    allFinish.relay ⟨connection, member, mayRelay⟩
  refine ⟨_, _, _, observes, run.snoc returns, ?_⟩
  intro drained
  exact drained listen.now signalledAt rfl isSignalled early relayed isRelayed
    running

end Necessary

/--
In every run whose shutdowns meet the condition, a listener of either kind that
returns early has drained its connections.  Whenever the signal is observed, all
that may follow is so exactly when the condition is met.
-/
theorem drainedIfEarly_iff_meetsCondition (tls : Bool) :
    (∀ events listen,
      Run (Guarded MeetsCondition (Step tls)) initial events listen →
      listen.DrainedIfEarly) ∧
    ∀ events listen,
      Run (Step tls) initial events listen →
      listen.phase = .accepting →
      listen.signalledAt.isSome →
        ((∀ draining later after,
            Step tls listen .shutdownObserved draining →
            Run (Step tls) draining later after →
            after.DrainedIfEarly) ↔
          listen.MeetsCondition .shutdownObserved) := by
  constructor
  · intro events listen run
    rcases run.invariant accepting_or_safeShutdown_of_step (.inl rfl) with
      accepting | safe
    · intro returnedAt _ isReturned
      rw [accepting] at isReturned
      cases isReturned
    · exact safe.drainedIfEarly
  · intro events listen _ accepting signalled
    constructor
    · intro drained
      by_contra violates
      obtain ⟨draining, later, after, observes, run, notDrained⟩ :=
        exists_not_drainedIfEarly tls accepting signalled violates
      exact notDrained (drained draining later after observes run)
    · intro meets draining later after observes run
      have safe := safeShutdown_of_shutdownObserved meets observes
      exact (run.invariant safeShutdown_of_step safe).drainedIfEarly

/-- A listener with one connection, at the time 0. -/
private def oneConnection
    (signalledAt : Option Nat)
    (phase : ListenPhase)
    (connection : Connection) : TcpListen where
  now :=
    0
  signalledAt :=
    signalledAt
  phase :=
    phase
  connections :=
    [connection]

/--
A TCP listener with one connection that is relayed: it returns as soon as it
observes the signal.
-/
theorem not_drainedIfEarly_one_relay :
    ¬ ∀ tls events listen,
      Run (Step tls) initial events listen → listen.DrainedIfEarly := by
  intro drained
  have accepts : Step false initial .accept
      (oneConnection none .accepting ⟨.connecting 1, .notSpawned⟩) := by
    decide
  have connects : Step false
      (oneConnection none .accepting ⟨.connecting 1, .notSpawned⟩)
      (.connection 0 .connected)
      (oneConnection none .accepting ⟨.returning, .running⟩) := by
    decide
  have finishes : Step false
      (oneConnection none .accepting ⟨.returning, .running⟩)
      (.connection 0 .returned)
      (oneConnection none .accepting ⟨.finished, .running⟩) := by
    decide
  have signals : Step false
      (oneConnection none .accepting ⟨.finished, .running⟩) .signal
      (oneConnection (some 0) .accepting ⟨.finished, .running⟩) := by
    decide
  have observes : Step false
      (oneConnection (some 0) .accepting ⟨.finished, .running⟩)
      .shutdownObserved
      (oneConnection (some 0) (.draining 0) ⟨.finished, .running⟩) := by
    decide
  have returns : Step false
      (oneConnection (some 0) (.draining 0) ⟨.finished, .running⟩) .joined
      (oneConnection (some 0) (.returned 0) ⟨.finished, .running⟩) := by
    decide
  have run :=
    (((((Run.single accepts).snoc connects).snoc finishes).snoc signals).snoc
      observes).snoc returns
  exact drained false _ _ run 0 0 rfl rfl (by decide) _ List.mem_cons_self rfl

end TcpListen

end Pingoo
