import Pingoo.Clock
import Pingoo.Library.Transition
import Pingoo.Listeners.TlsHandshake

namespace Pingoo

open Transition

/-!
# TCP listeners

`TcpListener::listen` and `TcpAndTlsListener::listen` accept connections until
the shutdown signal and start a task of their own for each, which they keep in a
`JoinSet`.  The task connects to an upstream and starts another task that relays
the data; that one is in no set.

Time is counted in nanoseconds.
-/

/-- `GRACEFUL_SHUTDOWN_TIMEOUT`. -/
def gracefulShutdownTimeout : Nat :=
  Duration.fromSecs 20

/-- The retries with which `serve_connection` connects to an upstream. -/
def connectRetries : Nat :=
  3

/-- Where the task of a connection is. -/
inductive ConnectionTask where
  | handshake (handshake : TlsHandshake)
  | connecting (attempt : Nat)
  | waiting (attempt : Nat)
  | returning
  | finished
  deriving Repr, DecidableEq

/-- The task that relays the data of a connection. -/
inductive Relay where
  | notSpawned
  | running
  | ended
  deriving Repr, DecidableEq

/-- An accepted connection with its two tasks. -/
structure Connection where
  task : ConnectionTask
  relay : Relay
  deriving Repr, DecidableEq

/-- What may happen to a connection. -/
inductive ConnectionEvent where
  | handshake (event : TlsHandshakeEvent)
  | attemptFailed
  | slept
  | connected
  | returned
  | relayEnded
  deriving Repr, DecidableEq

namespace Connection

/-- A connection that was just accepted. -/
def accepted (tls : Bool) : Connection where
  task :=
    if tls then .handshake .clientHello else .connecting 1
  relay :=
    .notSpawned

/-- Go on after a handshake. -/
def afterHandshake (connection : Connection) : TlsProgress → Connection
  | .waits handshake =>
      { connection with task := .handshake handshake }
  | .returns .stream =>
      { connection with task := .connecting 1 }
  | .returns _ =>
      { connection with task := .returning }

/--
The handshake, `serve_connection` with its `retry`, and `copy_bidirectional`.
-/
def step (connection : Connection) (event : ConnectionEvent) :
    Option Connection :=
  match connection.task, event with
  | .handshake handshake, .handshake event =>
      (handshake.step event).map connection.afterHandshake
  | .connecting attempt, .attemptFailed =>
      if attempt < connectRetries then
        some { connection with task := .waiting attempt }
      else
        some { connection with task := .returning }
  | .waiting attempt, .slept =>
      some { connection with task := .connecting (attempt + 1) }
  | .connecting _, .connected =>
      some ⟨.returning, .running⟩
  | .returning, .returned =>
      some { connection with task := .finished }
  | _, .relayEnded =>
      if connection.relay = .running then
        some { connection with relay := .ended }
      else
        none
  | _, _ =>
      none

/-- A task that is dropped with its set does not go on. -/
def abort (connection : Connection) : Connection :=
  { connection with task := .finished }

end Connection

/-- Where `listen` is. -/
inductive ListenPhase where
  | accepting
  | draining (startedAt : Nat)
  | returned (returnedAt : Nat)
  deriving Repr, DecidableEq

/-- A listener with the connections it accepted, in order. -/
structure TcpListen where
  now : Nat
  signalledAt : Option Nat
  phase : ListenPhase
  connections : List Connection
  deriving Repr, DecidableEq

/-- What may happen to a listener. -/
inductive TcpListenEvent where
  | tick
  | signal
  | acceptFailed
  | accept
  | connection (index : Nat) (event : ConnectionEvent)
  | shutdownObserved
  | joined
  | timedOut
  deriving Repr, DecidableEq

namespace TcpListen

/-- A listener that starts to listen. -/
def initial : TcpListen where
  now :=
    0
  signalledAt :=
    none
  phase :=
    .accepting
  connections :=
    []

/-- `listen`; the flag tells a `TcpAndTlsListener` from a `TcpListener`. -/
def step (tls : Bool) (listen : TcpListen) : TcpListenEvent → Option TcpListen
  | .tick =>
      some { listen with now := listen.now + 1 }
  | .signal =>
      if listen.signalledAt = none then
        some { listen with signalledAt := some listen.now }
      else
        none
  | .acceptFailed =>
      if listen.phase = .accepting then
        some listen
      else
        none
  | .accept =>
      if listen.phase = .accepting then
        some { listen with
          connections := listen.connections ++ [Connection.accepted tls] }
      else
        none
  | .connection index event =>
      (listen.connections[index]?.bind (·.step event)).map fun connection =>
        { listen with connections := listen.connections.set index connection }
  | .shutdownObserved =>
      if listen.phase = .accepting ∧ listen.signalledAt.isSome then
        some { listen with phase := .draining listen.now }
      else
        none
  | .joined =>
      match listen.phase with
      | .draining _ =>
          if listen.connections.all (·.task = .finished) then
            some { listen with phase := .returned listen.now }
          else
            none
      | _ =>
          none
  | .timedOut =>
      match listen.phase with
      | .draining startedAt =>
          if startedAt + gracefulShutdownTimeout ≤ listen.now then
            some { listen with
              phase := .returned listen.now
              connections := listen.connections.map Connection.abort }
          else
            none
      | _ =>
          none

/-- The steps of a listener. -/
def Step
    (tls : Bool)
    (before : TcpListen)
    (event : TcpListenEvent)
    (after : TcpListen) : Prop :=
  before.step tls event = some after

instance
    (tls : Bool)
    (before after : TcpListen)
    (event : TcpListenEvent) : Decidable (Step tls before event after) :=
  inferInstanceAs (Decidable (_ = _))

end TcpListen

end Pingoo
