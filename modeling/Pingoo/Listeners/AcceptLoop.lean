import Pingoo.Library.Transition
import Pingoo.Listeners.TlsHandshake

namespace Pingoo

/-!
# Accept loops of the TLS listeners

`TcpAndTlsListener::listen` and `HttpsListener::listen` accept connections until
they observe the shutdown signal.  The first starts a task that does the
handshake and serves the connection.  The second has the handshake in the block
that computes the future to spawn, so the loop itself waits for its end.

What becomes of a connection after its handshake is not part of the loops.
-/

/-- A client, by its number. -/
abbrev Client := Nat

/-- The handshake of an accepted connection. -/
inductive Handshaking where
  | pending (handshake : TlsHandshake)
  | ended (accepted : TlsAccepted)
  deriving Repr, DecidableEq

namespace Handshaking

/-- The handshake is not over. -/
def isPending : Handshaking → Bool
  | .pending _ =>
      true
  | .ended _ =>
      false

/-- The handshake goes on. -/
def step : Handshaking → TlsHandshakeEvent → Option Handshaking
  | .pending handshake, event =>
      (handshake.step event).map fun
        | .waits next => .pending next
        | .returns accepted => .ended accepted
  | .ended _, _ =>
      none

end Handshaking

/-- What may happen to a TLS listener and to its clients. -/
inductive TlsListenEvent where
  | connects (client : Client)
  | accept (client : Client)
  | acceptFailed
  | handshake (index : Nat) (event : TlsHandshakeEvent)
  | signal
  | shutdownObserved
  deriving Repr, DecidableEq

/--
The clients that wait to be accepted, the handshakes of those that were
accepted, in order, and whether the signal was sent and observed.
-/
structure TlsListen where
  backlog : List Client
  handshakes : List Handshaking
  signalled : Bool
  observed : Bool
  deriving Repr, DecidableEq

namespace TlsListen

/-- A listener that starts to listen. -/
def initial : TlsListen where
  backlog :=
    []
  handshakes :=
    []
  signalled :=
    false
  observed :=
    false

/-- A handshake of the listener is not over. -/
def HasPending (listen : TlsListen) : Prop :=
  ∃ handshake ∈ listen.handshakes, handshake.isPending = true

instance (listen : TlsListen) : Decidable listen.HasPending :=
  inferInstanceAs (Decidable (∃ handshake ∈ listen.handshakes, _))

/-- The first client in the backlog is accepted. -/
def acceptFirst (listen : TlsListen) (client : Client) : Option TlsListen :=
  match listen.backlog with
  | [] =>
      none
  | first :: rest =>
      if first = client then
        some { listen with
          backlog := rest
          handshakes := listen.handshakes ++ [.pending .clientHello] }
      else
        none

/-- The handshake of a connection goes on. -/
def progress
    (listen : TlsListen)
    (index : Nat)
    (event : TlsHandshakeEvent) : Option TlsListen :=
  (listen.handshakes[index]?.bind (·.step event)).map fun handshake =>
    { listen with handshakes := listen.handshakes.set index handshake }

end TlsListen

/-- The accept loop of `TcpAndTlsListener::listen`. -/
def TcpAndTlsListener.step (listen : TlsListen) :
    TlsListenEvent → Option TlsListen
  | .connects client =>
      some { listen with backlog := listen.backlog ++ [client] }
  | .signal =>
      some { listen with signalled := true }
  | .accept client =>
      if listen.observed then
        none
      else
        listen.acceptFirst client
  | .acceptFailed =>
      if listen.observed then
        none
      else
        some listen
  -- in the task of the connection
  | .handshake index event =>
      listen.progress index event
  | .shutdownObserved =>
      if listen.signalled && !listen.observed then
        some { listen with observed := true }
      else
        none

/--
The loop of an HTTPS listener: it selects among its events, or it waits for the
handshake of the connection that it accepted last.
-/
structure HttpsListen where
  listen : TlsListen
  awaited : Option Nat
  deriving Repr, DecidableEq

/-- A listener that starts to listen. -/
def HttpsListen.initial : HttpsListen where
  listen :=
    .initial
  awaited :=
    none

/-- The accept loop of `HttpsListener::listen`. -/
def HttpsListener.step (https : HttpsListen) :
    TlsListenEvent → Option HttpsListen
  | .connects client =>
      some { https with
        listen := { https.listen with
          backlog := https.listen.backlog ++ [client] } }
  | .signal =>
      some { https with listen := { https.listen with signalled := true } }
  | .accept client =>
      if https.listen.observed || https.awaited.isSome then
        none
      else
        (https.listen.acceptFirst client).map fun accepted =>
          ⟨accepted, some https.listen.handshakes.length⟩
  | .acceptFailed =>
      if https.listen.observed || https.awaited.isSome then
        none
      else
        some https
  -- in the loop itself
  | .handshake index event =>
      if https.awaited = some index then
        (https.listen.progress index event).map fun progressed =>
          ⟨progressed,
            if (progressed.handshakes[index]?.any (·.isPending)) then
              some index
            else
              none⟩
      else
        none
  | .shutdownObserved =>
      if https.listen.signalled && !https.listen.observed &&
          https.awaited.isNone then
        some { https with listen := { https.listen with observed := true } }
      else
        none

/-- The steps of a TCP and TLS listener. -/
def TcpAndTlsListener.Step
    (before : TlsListen)
    (event : TlsListenEvent)
    (after : TlsListen) : Prop :=
  TcpAndTlsListener.step before event = some after

/-- The steps of an HTTPS listener. -/
def HttpsListener.Step
    (before : HttpsListen)
    (event : TlsListenEvent)
    (after : HttpsListen) : Prop :=
  HttpsListener.step before event = some after

end Pingoo
