import Pingoo.Library.Fallible
import Pingoo.Library.Transition

namespace Pingoo.Docker

open Transition

/-!
# The Docker client

`Client` keeps one connection to the Docker daemon.  A request opens it if there
is none, and then uses the one that is held.  The daemon may close the
connection, stop and start at any time between the steps of a request.

The requests of the service discovery are made one at a time.
-/

/-- `docker::Error`. -/
inductive Error where
  | connecting (err : String)
  | unspecified (message : String)
  deriving Repr, DecidableEq

/-- hyper's `SendRequest`, by what became of its connection. -/
inductive SendRequest where
  | established
  | closed
  deriving Repr, DecidableEq

/-- What `send_request` is called with; the query and the body come encoded. -/
structure RequestArgs where
  path : String
  query : Option (Except String String)
  body : Option (Except String (List UInt8))

/-- A request as it is handed to hyper. -/
structure HyperRequest where
  method : String
  uri : String
  host : String
  contentType : String
  body : List UInt8
  deriving Repr, DecidableEq

/--
The builder of URIs, the reason phrases of status codes, and the parser of
responses.
-/
structure ClientLibrary (α : Type) where
  buildUri : String → String → String → Except String String
  buildRequest : HyperRequest → Except String HyperRequest
  canonicalReason : Nat → Option String
  parseResponse : List UInt8 → Except String α

/-- Where a call of `send_request` is. -/
inductive Call where
  | connecting (args : RequestArgs)
  | sending (request : HyperRequest)
  | reading

/-- The daemon, the client with its call, and what the calls have returned. -/
structure World (α : Type) where
  daemonUp : Bool
  socket : Option SendRequest
  call : Option Call
  results : List (Except Error α)

/-- What the daemon does and how a call goes on. -/
inductive Event where
  | daemonStarts
  | daemonStops
  | connectionCloses
  | sendRequest (args : RequestArgs)
  | connected
  | connectFailed (err : String)
  | responded (status : Nat)
  | sendFailed (err : String)
  | bodyRead (body : List UInt8)
  | bodyFailed (err : String)

variable {α : Type} (library : ClientLibrary α)

/-- The path of a request with its query. -/
def pathAndQuery (args : RequestArgs) : Except Error String :=
  match args.query with
  | some query =>
      (query.mapError fun err =>
        Error.unspecified s!"encoding request's query parameters: {err}") >>=
          fun queryString => .ok s!"{args.path}?{queryString}"
  | none =>
      .ok args.path

/-- The request of a call, or the error that it returns before it is sent. -/
def prepareRequest (args : RequestArgs) : Except Error HyperRequest := do
  let pathAndQuery ← pathAndQuery args
  let uri ←
    (library.buildUri "unix" "docker" pathAndQuery).mapError fun err =>
      Error.unspecified s!"building request's URL: {err}"
  let body ←
    (args.body.getD (.ok [])).mapError fun err =>
      Error.unspecified s!"encoding body to JSON: {err}"
  (library.buildRequest ⟨"GET", uri, "docker", "application/json", body⟩).mapError
    fun err => Error.unspecified s!"building request: {err}"

/-- The text that `http::StatusCode` is displayed as. -/
def statusText (status : Nat) : String :=
  let reason := (library.canonicalReason status).getD "<unknown status code>"
  s!"{status} {reason}"

namespace World

/-- A client that was just created. -/
def initial (daemonUp : Bool) : World α where
  daemonUp :=
    daemonUp
  socket :=
    none
  call :=
    none
  results :=
    []

/-- A call returns. -/
def returned (world : World α) (result : Except Error α) : World α :=
  { world with
    call := none
    results := world.results ++ [result] }

/-- A call that has a connection prepares its request. -/
def prepared (world : World α) (args : RequestArgs) : World α :=
  match prepareRequest library args with
  | .ok request =>
      { world with call := some (.sending request) }
  | .error err =>
      world.returned (.error err)

/-- One step of the daemon or of a call. -/
def step (world : World α) : Event → Option (World α)
  | .daemonStarts =>
      some { world with daemonUp := true }
  | .daemonStops =>
      some { world with
        daemonUp := false
        socket := world.socket.map fun _ => .closed }
  | .connectionCloses =>
      match world.socket with
      | some .established =>
          some { world with socket := some .closed }
      | _ =>
          none
  | .sendRequest args =>
      match world.call, world.socket with
      | none, none =>
          some { world with call := some (.connecting args) }
      | none, some _ =>
          some (world.prepared library args)
      | some _, _ =>
          none
  | .connected =>
      match world.call, world.daemonUp with
      | some (.connecting args), true =>
          some ({ world with socket := some .established }.prepared library args)
      | _, _ =>
          none
  -- connecting succeeds whenever the daemon is up
  | .connectFailed err =>
      match world.call, world.daemonUp with
      | some (.connecting _), false =>
          some (world.returned (.error (.connecting err)))
      | _, _ =>
          none
  -- a request on a closed connection always fails
  | .responded status =>
      match world.call, world.socket with
      | some (.sending _), some .established =>
          if status ≠ 200 then
            some (world.returned (.error (.unspecified
              s!"received not OK status code: {statusText library status}")))
          else
            some { world with call := some .reading }
      | _, _ =>
          none
  | .sendFailed err =>
      match world.call with
      | some (.sending _) =>
          some (world.returned (.error (.unspecified
            s!"sending request: {err}")))
      | _ =>
          none
  | .bodyRead body =>
      match world.call with
      | some .reading =>
          some (world.returned
            ((library.parseResponse body).mapError fun err =>
              .unspecified s!"parsing response: {err}"))
      | _ =>
          none
  | .bodyFailed err =>
      match world.call with
      | some .reading =>
          some (world.returned (.error (.unspecified
            s!"reading response: {err}")))
      | _ =>
          none

/-- The steps of a client and its daemon. -/
def Step (before : World α) (event : Event) (after : World α) : Prop :=
  before.step library event = some after

end World

end Pingoo.Docker
