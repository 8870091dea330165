import Pingoo.Docker.Client

namespace Pingoo.Docker.World

open Transition

/-!
# Recovery of the Docker client

Nothing ever takes a connection out of the client again.  So once the connection
that it holds was closed every later request fails, and while it holds none or
an open one a request can succeed as soon as the daemon is up.
-/

variable {α : Type} {library : ClientLibrary α}

/-- The daemon is not stopped. -/
def StaysUp (_ : World α) : Event → Prop
  | .daemonStops =>
      False
  | _ =>
      True

/-- A later call of `send_request` can succeed while the daemon stays up. -/
def Recoverable (library : ClientLibrary α) (world : World α) : Prop :=
  ∃ events after results value,
    Run (Guarded StaysUp (Step library)) world events after ∧
      after.results = world.results ++ results ∧ .ok value ∈ results

/-- The connection that the client holds is not closed. -/
def KeepsConnection (world : World α) : Event → Prop
  | .connectionCloses =>
      False
  | .daemonStops =>
      world.socket = none
  | _ =>
      True

/-- Some request can be built and answered. -/
def CanSucceed (library : ClientLibrary α) : Prop :=
  ∃ args request body value,
    prepareRequest library args = .ok request ∧
      library.parseResponse body = .ok value

section Returned

@[simp] theorem returned_socket (world : World α) (result : Except Error α) :
    (world.returned result).socket = world.socket :=
  rfl

@[simp] theorem returned_call (world : World α) (result : Except Error α) :
    (world.returned result).call = none :=
  rfl

@[simp] theorem returned_results
    (world : World α)
    (result : Except Error α) :
    (world.returned result).results = world.results ++ [result] :=
  rfl

@[simp] theorem prepared_socket (world : World α) (args : RequestArgs) :
    (world.prepared library args).socket = world.socket := by
  unfold prepared
  split <;> rfl

theorem prepared_eq_of_ok
    {world : World α}
    {args : RequestArgs}
    {request : HyperRequest}
    (isRequest : prepareRequest library args = .ok request) :
    world.prepared library args =
      { world with call := some (.sending request) } := by
  rw [prepared, isRequest]

end Returned

section Stuck

/-- The client holds a closed connection, and its calls since have failed. -/
structure Stuck
    (earlier : List (Except Error α))
    (world : World α) : Prop where
  socket : world.socket = some .closed
  call : world.call = none ∨ ∃ request, world.call = some (.sending request)
  results :
    ∃ later, world.results = earlier ++ later ∧
      ∀ value, .ok value ∉ later

/-- A call that returns an error leaves a stuck client stuck. -/
theorem Stuck.returned_error
    {earlier : List (Except Error α)}
    {world : World α}
    (stuck : Stuck earlier world)
    (err : Error) : Stuck earlier (world.returned (.error err)) := by
  obtain ⟨later, isLater, failed⟩ := stuck.results
  refine ⟨stuck.socket, .inl rfl, later ++ [.error err], ?_, ?_⟩
  · rw [returned_results, isLater, List.append_assoc]
  · intro value member
    rcases List.mem_append.mp member with inLater | isLast
    · exact failed value inLater
    · cases List.mem_singleton.mp isLast

theorem Stuck.prepared
    {earlier : List (Except Error α)}
    {world : World α}
    (stuck : Stuck earlier world)
    (args : RequestArgs) : Stuck earlier (world.prepared library args) := by
  unfold World.prepared
  split
  · next request _ =>
      exact ⟨stuck.socket, .inr ⟨request, rfl⟩, stuck.results⟩
  · exact stuck.returned_error _

/-- A stuck client stays stuck, whatever the daemon does. -/
theorem stuck_of_step
    {earlier : List (Except Error α)}
    {before after : World α}
    {event : Event}
    (stuck : Stuck earlier before)
    (taken : Step library before event after) : Stuck earlier after := by
  obtain ⟨socket, call, results⟩ := id stuck
  cases event with
  | daemonStarts =>
      cases taken
      exact ⟨socket, call, results⟩
  | daemonStops =>
      cases taken
      exact ⟨by rw [socket]; rfl, call, results⟩
  | connectionCloses =>
      simp [Step, step, socket] at taken
  | sendRequest args =>
      rcases call with isNone | ⟨request, isSending⟩
      · simp only [Step, step, isNone, socket, Option.some.injEq] at taken
        cases taken
        exact stuck.prepared args
      · simp [Step, step, isSending] at taken
  | connected =>
      rcases call with isNone | ⟨request, isSending⟩
      · simp [Step, step, isNone] at taken
      · simp [Step, step, isSending] at taken
  | connectFailed err =>
      rcases call with isNone | ⟨request, isSending⟩
      · simp [Step, step, isNone] at taken
      · simp [Step, step, isSending] at taken
  | responded status =>
      simp [Step, step, socket] at taken
  | sendFailed err =>
      rcases call with isNone | ⟨request, isSending⟩
      · simp [Step, step, isNone] at taken
      · simp only [Step, step, isSending, Option.some.injEq] at taken
        cases taken
        exact stuck.returned_error _
  | bodyRead body =>
      rcases call with isNone | ⟨request, isSending⟩
      · simp [Step, step, isNone] at taken
      · simp [Step, step, isSending] at taken
  | bodyFailed err =>
      rcases call with isNone | ⟨request, isSending⟩
      · simp [Step, step, isNone] at taken
      · simp [Step, step, isSending] at taken

/-- A client that holds a closed connection does not recover. -/
theorem not_recoverable_of_closed
    {world : World α}
    (idle : world.call = none)
    (closed : world.socket = some .closed) :
    ¬ world.Recoverable library := by
  rintro ⟨events, after, results, value, run, isResults, succeeded⟩
  have stuck : Stuck world.results world :=
    ⟨closed, .inl idle, [], (List.append_nil _).symm, by simp⟩
  obtain ⟨later, isLater, failed⟩ :=
    (run.invariant (fun before taken => stuck_of_step before taken.2)
      stuck).results
  rw [isResults] at isLater
  exact failed value (List.append_cancel_left isLater ▸ succeeded)

end Stuck

section Success

/-- A request that was sent on an open connection can be answered. -/
private theorem run_answered
    {world : World α}
    {request : HyperRequest}
    {body : List UInt8}
    {value : α}
    (isSending : world.call = some (.sending request))
    (isOpen : world.socket = some .established)
    (parses : library.parseResponse body = .ok value) :
    Run (Guarded StaysUp (Step library)) world [.responded 200, .bodyRead body]
      (world.returned (.ok value)) := by
  have responds : Step library world (.responded 200)
      { world with call := some .reading } := by
    simp [Step, step, isSending, isOpen]
  have reads : Step library { world with call := some .reading }
      (.bodyRead body) (world.returned (.ok value)) := by
    simp only [Step, step, parses]
    rfl
  exact (Run.single ⟨trivial, responds⟩).snoc ⟨trivial, reads⟩

/-- A client without a closed connection recovers when the daemon is up. -/
theorem recoverable_of_not_closed
    {world : World α}
    (canSucceed : CanSucceed library)
    (idle : world.call = none)
    (daemonUp : world.daemonUp = true)
    (notClosed : world.socket ≠ some .closed) :
    world.Recoverable library := by
  obtain ⟨args, request, body, value, isRequest, parses⟩ := canSucceed
  cases isSocket : world.socket with
  | none =>
      have calls : Guarded StaysUp (Step library) world (.sendRequest args)
          { world with call := some (.connecting args) } :=
        ⟨trivial, by simp [Step, step, idle, isSocket]⟩
      have connects : Guarded StaysUp (Step library)
          { world with call := some (.connecting args) } .connected
          { world with
            socket := some .established
            call := some (.sending request) } :=
        ⟨trivial, by
          simp [Step, step, daemonUp, prepared_eq_of_ok isRequest]⟩
      have answered : Run (Guarded StaysUp (Step library))
          { world with
            socket := some .established
            call := some (.sending request) } _ _ :=
        run_answered rfl rfl parses
      exact ⟨_, _, [.ok value], value,
        ((Run.single calls).snoc connects).append answered, rfl,
        List.mem_singleton_self _⟩
  | some sender =>
      cases sender with
      | closed =>
          exact absurd isSocket notClosed
      | established =>
          have calls : Guarded StaysUp (Step library) world
              (.sendRequest args)
              { world with call := some (.sending request) } :=
            ⟨trivial, by
              simp [Step, step, idle, isSocket, prepared_eq_of_ok isRequest]⟩
          exact ⟨_, _, [.ok value], value,
            (Run.single calls).append (run_answered rfl isSocket parses), rfl,
            List.mem_singleton_self _⟩

end Success

/-- A connection that is kept open is not closed by any step. -/
theorem socket_ne_closed_of_step
    {before after : World α}
    {event : Event}
    (notClosed : before.socket ≠ some .closed)
    (taken : Guarded KeepsConnection (Step library) before event after) :
    after.socket ≠ some .closed := by
  obtain ⟨keeps, step⟩ := taken
  unfold Step World.step at step
  cases event with
  | daemonStarts =>
      cases step
      exact notClosed
  | daemonStops =>
      cases step
      simp [show before.socket = none from keeps]
  | connectionCloses =>
      cases keeps
  | connected =>
      simp only at step
      split at step
      · cases step
        simp
      · cases step
  | responded status =>
      simp only at step
      split at step
      · split at step
        · cases step
          exact notClosed
        · cases step
          exact notClosed
      · cases step
  | _ =>
      simp only at step
      split at step <;> cases step <;> simpa using notClosed

/--
Whenever a client has no call in progress and the daemon is up, it recovers
exactly when it does not hold a closed connection; in a run in which the
connection is never closed while it is held, it always does.
-/
theorem recoverable_iff_socket_ne_closed
    (library : ClientLibrary α)
    (canSucceed : CanSucceed library)
    (daemonUp : Bool) :
    (∀ events world,
      Run (Step library) (initial daemonUp) events world →
      world.call = none →
      world.daemonUp = true →
        (world.Recoverable library ↔ world.socket ≠ some .closed)) ∧
    ∀ events world,
      Run (Guarded KeepsConnection (Step library)) (initial daemonUp) events
        world →
      world.call = none →
      world.daemonUp = true →
        world.Recoverable library := by
  constructor
  · intro events world _ idle isUp
    constructor
    · intro recoverable closed
      exact not_recoverable_of_closed idle closed recoverable
    · exact recoverable_of_not_closed canSucceed idle isUp
  · intro events world run idle isUp
    have notClosed : world.socket ≠ some .closed :=
      run.invariant socket_ne_closed_of_step (by simp [initial])
    exact recoverable_of_not_closed canSucceed idle isUp notClosed

section Sample

/-- URIs that are put together, and a response that lists no container. -/
private def listLibrary : ClientLibrary (List String) where
  buildUri scheme authority pathAndQuery :=
    .ok s!"{scheme}://{authority}{pathAndQuery}"
  buildRequest :=
    .ok
  canonicalReason status :=
    if status = 200 then some "OK" else none
  parseResponse body :=
    if body = [91, 93] then
      .ok []
    else
      .error "expected value at line 1 column 1"

/-- The containers are listed. -/
private def listContainers : RequestArgs where
  path :=
    "/containers/json"
  query :=
    none
  body :=
    none

private def listRequest : HyperRequest where
  method :=
    "GET"
  uri :=
    "unix://docker/containers/json"
  host :=
    "docker"
  contentType :=
    "application/json"
  body :=
    []

private theorem canSucceed_listLibrary : CanSucceed listLibrary :=
  ⟨listContainers, listRequest, [91, 93], [], by decide, by decide⟩

/-- A request is answered over the connection that is opened for it. -/
private theorem run_listed :
    Run (Step listLibrary) (initial true)
      [.sendRequest listContainers, .connected, .responded 200,
        .bodyRead [91, 93]]
      ⟨true, some .established, none, [.ok []]⟩ := by
  have calls : Step listLibrary (initial true) (.sendRequest listContainers)
      ⟨true, none, some (.connecting listContainers), []⟩ :=
    rfl
  have connects : Step listLibrary
      ⟨true, none, some (.connecting listContainers), []⟩ .connected
      ⟨true, some .established, some (.sending listRequest), []⟩ :=
    rfl
  have responds : Step listLibrary
      ⟨true, some .established, some (.sending listRequest), []⟩
      (.responded 200) ⟨true, some .established, some .reading, []⟩ :=
    rfl
  have reads : Step listLibrary
      ⟨true, some .established, some .reading, []⟩ (.bodyRead [91, 93])
      ⟨true, some .established, none, [.ok []]⟩ :=
    rfl
  exact (((Run.single calls).snoc connects).snoc responds).snoc reads

/-- The daemon restarts while the client holds its connection. -/
private theorem run_restarts :
    Run (Step listLibrary) ⟨true, some .established, none, [.ok []]⟩
      [.daemonStops, .daemonStarts] ⟨true, some .closed, none, [.ok []]⟩ := by
  have stops : Step listLibrary
      ⟨true, some .established, none, [.ok []]⟩ .daemonStops
      ⟨false, some .closed, none, [.ok []]⟩ :=
    rfl
  have starts : Step listLibrary
      ⟨false, some .closed, none, [.ok []]⟩ .daemonStarts
      ⟨true, some .closed, none, [.ok []]⟩ :=
    rfl
  exact (Run.single stops).snoc starts

/--
A client that listed the containers can do so again while its connection is
open, and not any more after the daemon restarted.
-/
theorem recoverable_iff_socket_ne_closed_list :
    ∃ listed restarted : World (List String),
      Run (Step listLibrary) (initial true)
          [.sendRequest listContainers, .connected, .responded 200,
            .bodyRead [91, 93]] listed ∧
        listed.results = [.ok []] ∧
        listed.Recoverable listLibrary ∧
        Run (Step listLibrary) listed [.daemonStops, .daemonStarts] restarted ∧
        ¬ restarted.Recoverable listLibrary := by
  obtain ⟨decides, -⟩ :=
    recoverable_iff_socket_ne_closed listLibrary canSucceed_listLibrary true
  refine ⟨_, _, run_listed, rfl, ?_, run_restarts, ?_⟩
  · exact (decides _ _ run_listed rfl rfl).mpr (by simp)
  · intro recoverable
    exact (decides _ _ (run_listed.append run_restarts) rfl rfl).mp recoverable
      rfl

/-- A daemon that restarts after it answered a request: the client is stuck. -/
theorem not_recoverable_after_restart :
    ¬ ∀ daemonUp events world,
      Run (Step listLibrary) (initial daemonUp) events world →
      world.call = none →
      world.daemonUp = true →
        world.Recoverable listLibrary := by
  intro recoverable
  exact not_recoverable_of_closed rfl rfl
    (recoverable true _ _ (run_listed.append run_restarts) rfl rfl)

end Sample

end Pingoo.Docker.World
