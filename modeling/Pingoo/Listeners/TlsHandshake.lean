import Mathlib.Tactic.TypeStar

namespace Pingoo

/-!
# TLS handshakes of the listeners

`accept_tls_connection` reads a ClientHello and then completes the handshake.  A
connection for an ACME challenge is closed after it.  Each of the waits depends
on the client and ends with a timeout.
-/

/-- What `accept_tls_connection` waits for. -/
inductive TlsHandshake where
  | clientHello
  | acmeStream
  | acmeShutdown
  | stream
  deriving Repr, DecidableEq

/-- What ends a wait; an error and a timeout are the same here. -/
inductive TlsHandshakeEvent where
  | helloReceived (isTlsAlpnChallenge : Bool)
  | completed
  | failed
  deriving Repr, DecidableEq

/--
What `accept_tls_connection` returns: `Err(())`, `Ok(None)`, `Ok(Some(_))`.
-/
inductive TlsAccepted where
  | err
  | acme
  | stream
  deriving Repr, DecidableEq

/-- Where a handshake goes on, or what is returned. -/
inductive TlsProgress where
  | waits (handshake : TlsHandshake)
  | returns (accepted : TlsAccepted)
  deriving Repr, DecidableEq

/-- `accept_tls_connection`, from one wait to the next. -/
def TlsHandshake.step : TlsHandshake → TlsHandshakeEvent → Option TlsProgress
  | .clientHello, .helloReceived true =>
      some (.waits .acmeStream)
  | .clientHello, .helloReceived false =>
      some (.waits .stream)
  | .clientHello, .failed =>
      some (.returns .err)
  | .acmeStream, .completed =>
      some (.waits .acmeShutdown)
  | .acmeStream, .failed =>
      some (.returns .err)
  -- the result of the shutdown is ignored
  | .acmeShutdown, .completed =>
      some (.returns .acme)
  | .acmeShutdown, .failed =>
      some (.returns .acme)
  | .stream, .completed =>
      some (.returns .stream)
  | .stream, .failed =>
      some (.returns .err)
  | _, _ =>
      none

end Pingoo
