import Mathlib.Data.List.Nodup
import Mathlib.Logic.Function.Basic
import Pingoo.Library.StepRun
import Pingoo.Library.Transition

namespace RequestReply

/-!
# A server behind a channel

Callers send requests through one bounded channel to a server that takes them
one at a time.  A request carries the sending half of a reply channel of its
own, which holds one answer.  A caller may be dropped wherever it waits, and the
server may stop wherever it waits; a request that is still in the channel then
is discarded with its reply channel.

Whatever the order of these events, the answers are those of the server run
alone on the requests it took, in the order in which it took them.
-/

/-- A caller, by its number; it makes one call. -/
abbrev Caller := Nat

section Types

variable (σ ρ κ α : Type*)

/-- What a call learns of its request. -/
inductive Reply where
  | notSent
  | notReceived
  | received (answer : α)
  deriving Repr, DecidableEq

/-- Where a call stands. -/
inductive Call where
  | idle
  | sending (request : ρ)
  | waiting
  | returned (reply : Reply α)
  | dropped
  deriving Repr, DecidableEq

/-- The reply channel of a call; it is closed when its sending half is gone. -/
inductive Slot where
  | empty
  | filled (answer : α)
  | closed
  deriving Repr, DecidableEq

/-- Where the server stands. -/
inductive Worker where
  | receiving
  | answering (caller : Caller) (request : ρ)
  | stopped
  deriving Repr, DecidableEq

/-- The server, the requests in the channel, the reply channels, the calls. -/
structure State where
  server : σ
  worker : Worker ρ
  queue : List (Caller × ρ)
  slots : Caller → Slot α
  calls : Caller → Call ρ α

/-- What may happen; the server reads something of its own as it answers. -/
inductive Event where
  | start (caller : Caller) (request : ρ)
  | send (caller : Caller)
  | refuse (caller : Caller)
  | receive (caller : Caller) (request : ρ)
  | answer (caller : Caller) (request : ρ) (reading : κ)
  | reply (caller : Caller)
  | drop (caller : Caller)
  | stop
  | discard (caller : Caller)
  deriving Repr, DecidableEq

end Types

variable {σ ρ κ α : Type*}

/-- The request that the server works on. -/
def Worker.held : Worker ρ → List (Caller × ρ)
  | .receiving =>
      []
  | .answering caller request =>
      [(caller, request)]
  | .stopped =>
      []

/-- Nothing was sent to the server yet. -/
def initial (server : σ) : State σ ρ α where
  server :=
    server
  worker :=
    .receiving
  queue :=
    []
  slots :=
    fun _ => .empty
  calls :=
    fun _ => .idle

/-- A call is where it may be dropped: it waits. -/
def Call.isWaiting : Call ρ α → Bool
  | .sending _ =>
      true
  | .waiting =>
      true
  | _ =>
      false

/-- What a reply channel gives to a call that waits for it. -/
def Slot.reply : Slot α → Option (Reply α)
  | .empty =>
      none
  | .filled answer =>
      some (.received answer)
  | .closed =>
      some .notReceived

/-- One step of a server with a channel that holds so many requests. -/
inductive Step (serve : σ → ρ → κ → α × σ) (buffer : Nat) :
    State σ ρ α → Event ρ κ → State σ ρ α → Prop
  | start
      {state : State σ ρ α} {caller : Caller} {request : ρ}
      (isIdle : state.calls caller = .idle) :
      Step serve buffer state (.start caller request)
        { state with
          calls := Function.update state.calls caller (.sending request) }
  -- the channel takes a request while the server has its receiving half
  | send
      {state : State σ ρ α} {caller : Caller} {request : ρ}
      (isSending : state.calls caller = .sending request)
      (isOpen : state.worker ≠ .stopped)
      (hasRoom : state.queue.length < buffer) :
      Step serve buffer state (.send caller)
        { state with
          queue := state.queue ++ [(caller, request)]
          calls := Function.update state.calls caller .waiting }
  | refuse
      {state : State σ ρ α} {caller : Caller} {request : ρ}
      (isSending : state.calls caller = .sending request)
      (isStopped : state.worker = .stopped) :
      Step serve buffer state (.refuse caller)
        { state with
          calls :=
            Function.update state.calls caller (.returned .notSent) }
  | receive
      {state : State σ ρ α} {caller : Caller} {request : ρ}
      {rest : List (Caller × ρ)}
      (isReceiving : state.worker = .receiving)
      (isFirst : state.queue = (caller, request) :: rest) :
      Step serve buffer state (.receive caller request)
        { state with
          worker := .answering caller request
          queue := rest }
  -- the answer is sent whether or not the caller is still there
  | answer
      {state : State σ ρ α} {caller : Caller} {request : ρ} {reading : κ}
      (isAnswering : state.worker = .answering caller request) :
      Step serve buffer state (.answer caller request reading)
        { state with
          server := (serve state.server request reading).2
          worker := .receiving
          slots :=
            Function.update state.slots caller
              (.filled (serve state.server request reading).1) }
  | reply
      {state : State σ ρ α} {caller : Caller} {reply : Reply α}
      (isWaiting : state.calls caller = .waiting)
      (hasReply : (state.slots caller).reply = some reply) :
      Step serve buffer state (.reply caller)
        { state with
          calls := Function.update state.calls caller (.returned reply) }
  | drop
      {state : State σ ρ α} {caller : Caller}
      (waits : (state.calls caller).isWaiting = true) :
      Step serve buffer state (.drop caller)
        { state with
          calls := Function.update state.calls caller .dropped }
  | stop
      {state : State σ ρ α}
      (isReceiving : state.worker = .receiving) :
      Step serve buffer state .stop
        { state with worker := .stopped }
  | discard
      {state : State σ ρ α} {caller : Caller} {request : ρ}
      {rest : List (Caller × ρ)}
      (isStopped : state.worker = .stopped)
      (isFirst : state.queue = (caller, request) :: rest) :
      Step serve buffer state (.discard caller)
        { state with
          queue := rest
          slots := Function.update state.slots caller .closed }

section History

/-- The request that an event takes from the channel. -/
def Event.received : Event ρ κ → Option (Caller × ρ)
  | .receive caller request =>
      some (caller, request)
  | _ =>
      none

/-- The request that an event answers, with what the server reads for it. -/
def Event.answered : Event ρ κ → Option (Caller × ρ × κ)
  | .answer caller request reading =>
      some (caller, request, reading)
  | _ =>
      none

/-- The requests that the server took, in order. -/
def received (events : List (Event ρ κ)) : List (Caller × ρ) :=
  events.filterMap Event.received

/-- The requests that the server answered, in order. -/
def answered (events : List (Event ρ κ)) : List (Caller × ρ × κ) :=
  events.filterMap Event.answered

/-- The server on its own, with each answer next to its caller. -/
def serveCaller
    (serve : σ → ρ → κ → α × σ)
    (server : σ)
    (entry : Caller × ρ × κ) : (Caller × α) × σ :=
  ((entry.1, (serve server entry.2.1 entry.2.2).1),
    (serve server entry.2.1 entry.2.2).2)

/-- The answers of the server run alone on the requests that it answered. -/
def answers
    (serve : σ → ρ → κ → α × σ)
    (server : σ)
    (events : List (Event ρ κ)) : List (Caller × α) :=
  StepRun.outputs (serveCaller serve) server (answered events)

section Inputs

variable {ι : Type*} (run : σ → ι → α × σ) (input : ρ → κ → ι)

/-- The server run alone ends as its step function does on the inputs. -/
theorem final_serveCaller (server : σ) (entries : List (Caller × ρ × κ)) :
    StepRun.final
        (serveCaller fun state request reading =>
          run state (input request reading))
        server entries =
      StepRun.final run server
        (entries.map fun entry => input entry.2.1 entry.2.2) := by
  induction entries generalizing server with
  | nil =>
      rfl
  | cons entry rest inductionHypothesis =>
      exact inductionHypothesis _

theorem outputs_serveCaller (server : σ) (entries : List (Caller × ρ × κ)) :
    StepRun.outputs
        (serveCaller fun state request reading =>
          run state (input request reading))
        server entries =
      (entries.map Prod.fst).zip
        (StepRun.outputs run server
          (entries.map fun entry => input entry.2.1 entry.2.2)) := by
  induction entries generalizing server with
  | nil =>
      rfl
  | cons entry rest inductionHypothesis =>
      exact congrArg _ (inductionHypothesis _)

end Inputs

@[simp] theorem received_concat
    (events : List (Event ρ κ))
    (event : Event ρ κ) :
    received (events ++ [event]) =
      received events ++ event.received.toList := by
  cases event <;> simp [received, Event.received]

@[simp] theorem answered_concat
    (events : List (Event ρ κ))
    (event : Event ρ κ) :
    answered (events ++ [event]) =
      answered events ++ event.answered.toList := by
  cases event <;> simp [answered, Event.answered]

end History

variable {serve : σ → ρ → κ → α × σ} {buffer : Nat} {server : σ}
variable {events : List (Event ρ κ)} {event : Event ρ κ}
variable {before after state : State σ ρ α}

section Server

/-- What the server took is what it answered and what it works on. -/
structure Counted
    (serve : σ → ρ → κ → α × σ)
    (server : σ)
    (events : List (Event ρ κ))
    (state : State σ ρ α) : Prop where
  taken :
    received events =
      (answered events).map (fun entry => (entry.1, entry.2.1)) ++
        state.worker.held
  state :
    state.server =
      StepRun.final (serveCaller serve) server (answered events)

theorem Counted.step
    (counted : Counted serve server events before)
    (taken : Step serve buffer before event after) :
    Counted serve server (events ++ [event]) after := by
  obtain ⟨sameTaken, sameState⟩ := counted
  cases taken with
  | receive isReceiving isFirst =>
      refine ⟨?_, ?_⟩
      · simp [Event.received, Event.answered, sameTaken, isReceiving,
          Worker.held]
      · simpa [Event.answered] using sameState
  | answer isAnswering =>
      refine ⟨?_, ?_⟩
      · simp [Event.received, Event.answered, sameTaken, isAnswering,
          Worker.held]
      · simp [Event.answered, StepRun.final_append, sameState,
          StepRun.final, serveCaller]
  | stop isReceiving =>
      refine ⟨?_, ?_⟩
      · simp [Event.received, Event.answered, sameTaken, isReceiving,
          Worker.held]
      · simpa [Event.answered] using sameState
  | _ =>
      refine ⟨?_, ?_⟩
      · simpa [Event.received, Event.answered] using sameTaken
      · simpa [Event.answered] using sameState

end Server

section Places

/-- The callers of the requests that reached the channel and are not lost. -/
def placed
    (events : List (Event ρ κ))
    (state : State σ ρ α) : List Caller :=
  (received events ++ state.queue).map Prod.fst

/-- A call whose request is not in the channel, and was not. -/
def Call.isUnsent : Call ρ α → Bool
  | .idle =>
      true
  | .sending _ =>
      true
  | .returned .notSent =>
      true
  | _ =>
      false

/-- No request is in two places, and a lost one is in none. -/
structure Placed
    (events : List (Event ρ κ))
    (state : State σ ρ α) : Prop where
  once : (placed events state).Nodup
  unsent :
    ∀ caller, (state.calls caller).isUnsent = true →
      caller ∉ placed events state ∧ state.slots caller = .empty
  closed :
    ∀ caller, state.slots caller = .closed →
      caller ∉ placed events state
  lost :
    ∀ caller, state.calls caller = .returned .notReceived →
      state.slots caller = .closed

/-- A step that leaves requests and reply channels where they are. -/
theorem Placed.of_calls
    {caller : Caller}
    {call : Call ρ α}
    (isPlaced : Placed events before)
    (samePlaces : placed (events ++ [event]) after = placed events before)
    (sameSlots : after.slots = before.slots)
    (calls : after.calls = Function.update before.calls caller call)
    (unsent :
      call.isUnsent = true → (before.calls caller).isUnsent = true)
    (lost :
      call = .returned .notReceived → before.slots caller = .closed) :
    Placed (events ++ [event]) after := by
  constructor
  · rw [samePlaces]
    exact isPlaced.once
  · intro other isUnsent
    rw [samePlaces, sameSlots]
    rw [calls] at isUnsent
    obtain rfl | differs := eq_or_ne other caller
    · rw [Function.update_self] at isUnsent
      exact isPlaced.unsent other (unsent isUnsent)
    · rw [Function.update_of_ne differs] at isUnsent
      exact isPlaced.unsent other isUnsent
  · intro other isClosed
    rw [samePlaces]
    rw [sameSlots] at isClosed
    exact isPlaced.closed other isClosed
  · intro other isLost
    rw [sameSlots]
    rw [calls] at isLost
    obtain rfl | differs := eq_or_ne other caller
    · rw [Function.update_self] at isLost
      exact lost isLost
    · rw [Function.update_of_ne differs] at isLost
      exact isPlaced.lost other isLost

/-- The server takes the first request from the channel. -/
theorem placed_receive
    (events : List (Event ρ κ))
    {caller : Caller}
    {request : ρ}
    {rest : List (Caller × ρ)}
    (isFirst : before.queue = (caller, request) :: rest) :
    placed (events ++ [.receive caller request])
        { before with
          worker := .answering caller request
          queue := rest } =
      placed events before := by
  simp [placed, Event.received, isFirst]

/-- The request that the server works on was placed. -/
theorem mem_placed_of_answering
    {caller : Caller}
    {request : ρ}
    (counted : Counted serve server events before)
    (isAnswering : before.worker = .answering caller request) :
    caller ∈ placed events before := by
  simp [placed, counted.taken, isAnswering, Worker.held]

/-- An answer fills the reply channel of a caller that was placed. -/
theorem Placed.answer
    {caller : Caller}
    {answer : α}
    (isPlaced : Placed events before)
    (member : caller ∈ placed events before)
    (samePlaces : placed (events ++ [event]) after = placed events before)
    (sameCalls : after.calls = before.calls)
    (slots :
      after.slots = Function.update before.slots caller (.filled answer)) :
    Placed (events ++ [event]) after := by
  have ofOther {other : Caller} (absent : other ∉ placed events before) :
      after.slots other = before.slots other := by
    rw [slots]
    refine Function.update_of_ne ?_ _ _
    rintro rfl
    exact absent member
  constructor
  · rw [samePlaces]
    exact isPlaced.once
  · intro other isUnsent
    rw [sameCalls] at isUnsent
    obtain ⟨absent, isEmpty⟩ := isPlaced.unsent other isUnsent
    rw [samePlaces, ofOther absent]
    exact ⟨absent, isEmpty⟩
  · intro other isClosed
    rw [samePlaces]
    obtain rfl | differs := eq_or_ne other caller
    · simp [slots] at isClosed
    · rw [slots, Function.update_of_ne differs] at isClosed
      exact isPlaced.closed other isClosed
  · intro other isLost
    rw [sameCalls] at isLost
    have isClosed := isPlaced.lost other isLost
    rw [ofOther (isPlaced.closed other isClosed)]
    exact isClosed

/-- A request enters the channel. -/
theorem Placed.send
    {caller : Caller}
    {request : ρ}
    (isPlaced : Placed events before)
    (isSending : before.calls caller = .sending request) :
    Placed (events ++ [.send caller])
      { before with
        queue := before.queue ++ [(caller, request)]
        calls := Function.update before.calls caller .waiting } := by
  have grown :
      placed (events ++ [.send caller])
          { before with
            queue := before.queue ++ [(caller, request)]
            calls := Function.update before.calls caller .waiting } =
        placed events before ++ [caller] := by
    simp [placed, Event.received]
  obtain ⟨absent, isEmpty⟩ := isPlaced.unsent caller (by rw [isSending]; rfl)
  have stillAbsent {other : Caller}
      (differs : other ≠ caller)
      (otherAbsent : other ∉ placed events before) :
      other ∉ placed events before ++ [caller] := by
    simp [otherAbsent, differs]
  constructor
  · rw [grown]
    exact List.nodup_append_comm.mp
      (List.nodup_cons.mpr ⟨absent, isPlaced.once⟩)
  · intro other isUnsent
    rw [grown]
    obtain rfl | differs := eq_or_ne other caller
    · simp [Call.isUnsent] at isUnsent
    · simp only [Function.update_of_ne differs] at isUnsent
      obtain ⟨otherAbsent, otherEmpty⟩ := isPlaced.unsent other isUnsent
      exact ⟨stillAbsent differs otherAbsent, otherEmpty⟩
  · intro other isClosed
    rw [grown]
    obtain rfl | differs := eq_or_ne other caller
    · rw [isEmpty] at isClosed
      cases isClosed
    · exact stillAbsent differs (isPlaced.closed other isClosed)
  · intro other isLost
    obtain rfl | differs := eq_or_ne other caller
    · simp at isLost
    · simp only [Function.update_of_ne differs] at isLost
      exact isPlaced.lost other isLost

/-- A request that nobody will take is discarded. -/
theorem Placed.discard
    {caller : Caller}
    {request : ρ}
    {rest : List (Caller × ρ)}
    (isPlaced : Placed events before)
    (isFirst : before.queue = (caller, request) :: rest) :
    Placed (events ++ [.discard caller])
      { before with
        queue := rest
        slots := Function.update before.slots caller .closed } := by
  have places :
      placed events before =
        (received events).map Prod.fst ++ caller :: rest.map Prod.fst := by
    simp [placed, isFirst]
  have shrunk :
      placed (events ++ [.discard caller])
          { before with
            queue := rest
            slots := Function.update before.slots caller .closed } =
        (received events).map Prod.fst ++ rest.map Prod.fst := by
    simp [placed, Event.received]
  have stillAbsent {other : Caller}
      (absent : other ∉ placed events before) :
      other ≠ caller ∧
        other ∉ (received events).map Prod.fst ++ rest.map Prod.fst := by
    rw [places] at absent
    simp only [List.mem_append, List.mem_cons, not_or] at absent ⊢
    exact ⟨absent.2.1, absent.1, absent.2.2⟩
  have once := isPlaced.once
  rw [places] at once
  constructor
  · rw [shrunk]
    exact (List.nodup_middle.mp once).of_cons
  · intro other isUnsent
    rw [shrunk]
    obtain ⟨absent, isEmpty⟩ := isPlaced.unsent other isUnsent
    obtain ⟨differs, otherAbsent⟩ := stillAbsent absent
    refine ⟨otherAbsent, ?_⟩
    simp only [Function.update_of_ne differs]
    exact isEmpty
  · intro other isClosed
    rw [shrunk]
    obtain rfl | differs := eq_or_ne other caller
    · exact (List.nodup_cons.mp (List.nodup_middle.mp once)).1
    · simp only [Function.update_of_ne differs] at isClosed
      exact (stillAbsent (isPlaced.closed other isClosed)).2
  · intro other isLost
    have isClosed := isPlaced.lost other isLost
    obtain ⟨differs, -⟩ := stillAbsent (isPlaced.closed other isClosed)
    simp only [Function.update_of_ne differs]
    exact isClosed

theorem Placed.step
    (counted : Counted serve server events before)
    (isPlaced : Placed events before)
    (taken : Step serve buffer before event after) :
    Placed (events ++ [event]) after := by
  cases taken with
  | start isIdle =>
      refine isPlaced.of_calls ?_ rfl rfl ?_ nofun
      · simp [placed, Event.received]
      · intro _
        rw [isIdle]
        rfl
  | send isSending =>
      exact isPlaced.send isSending
  | refuse isSending =>
      refine isPlaced.of_calls ?_ rfl rfl ?_ nofun
      · simp [placed, Event.received]
      · intro _
        rw [isSending]
        rfl
  | receive isReceiving isFirst =>
      have samePlaces := placed_receive events isFirst
      constructor
      · rw [samePlaces]
        exact isPlaced.once
      · rw [samePlaces]
        exact isPlaced.unsent
      · rw [samePlaces]
        exact isPlaced.closed
      · exact isPlaced.lost
  | answer isAnswering =>
      refine isPlaced.answer (mem_placed_of_answering counted isAnswering)
        ?_ rfl rfl
      simp [placed, Event.received]
  | @reply caller reply isWaiting hasReply =>
      refine isPlaced.of_calls ?_ rfl rfl ?_ ?_
      · simp [placed, Event.received]
      · rintro isUnsent
        cases reply with
        | notSent =>
            cases slot : before.slots caller <;>
              simp [slot, Slot.reply] at hasReply
        | _ =>
            cases isUnsent
      · intro isLost
        cases slot : before.slots caller <;>
          simp_all [Slot.reply]
  | drop =>
      refine isPlaced.of_calls ?_ rfl rfl nofun nofun
      simp [placed, Event.received]
  | stop =>
      have samePlaces :
          placed (events ++ [.stop]) { before with worker := .stopped } =
            placed events before := by
        simp [placed, Event.received]
      constructor
      · rw [samePlaces]
        exact isPlaced.once
      · rw [samePlaces]
        exact isPlaced.unsent
      · rw [samePlaces]
        exact isPlaced.closed
      · exact isPlaced.lost
  | discard _ isFirst =>
      exact isPlaced.discard isFirst

end Places

section Requests

/-- Every request in the channel is the one that its caller started with. -/
structure Own
    (events : List (Event ρ κ))
    (state : State σ ρ α) : Prop where
  sending :
    ∀ caller request, state.calls caller = .sending request →
      .start caller request ∈ events
  placed :
    ∀ caller request, (caller, request) ∈ received events ++ state.queue →
      .start caller request ∈ events
  begun :
    ∀ caller request, .start caller request ∈ events →
      state.calls caller ≠ .idle
  unique :
    ∀ caller first second,
      .start caller first ∈ events →
      .start caller second ∈ events →
      first = second

/-- A step other than the start of a call, which makes no call idle. -/
theorem Own.of_later
    (own : Own events before)
    (isLater : ∀ caller request, event ≠ .start caller request)
    (sending :
      ∀ caller request, after.calls caller = .sending request →
        before.calls caller = .sending request)
    (placed :
      ∀ caller request,
        (caller, request) ∈ received (events ++ [event]) ++ after.queue →
          (caller, request) ∈ received events ++ before.queue ∨
            before.calls caller = .sending request)
    (begun :
      ∀ caller, after.calls caller = .idle → before.calls caller = .idle) :
    Own (events ++ [event]) after := by
  have start_mem {caller : Caller} {request : ρ} :
      .start caller request ∈ events ++ [event] ↔
        .start caller request ∈ events := by
    simp [Ne.symm (isLater caller request)]
  constructor
  · intro caller request isSending
    exact start_mem.mpr
      (own.sending caller request (sending caller request isSending))
  · intro caller request member
    rw [start_mem]
    rcases placed caller request member with wasPlaced | wasSending
    · exact own.placed caller request wasPlaced
    · exact own.sending caller request wasSending
  · intro caller request started isIdle
    exact own.begun caller request (start_mem.mp started)
      (begun caller isIdle)
  · intro caller first second firstStart secondStart
    exact own.unique caller first second (start_mem.mp firstStart)
      (start_mem.mp secondStart)

/-- A call starts with one request. -/
theorem Own.start
    {caller : Caller}
    {request : ρ}
    (own : Own events before)
    (isIdle : before.calls caller = .idle) :
    Own (events ++ [.start caller request])
      { before with
        calls := Function.update before.calls caller (.sending request) } := by
  have notStarted (other : ρ) : .start caller other ∉ events :=
    fun started => own.begun caller other started isIdle
  constructor
  · intro other started isSending
    obtain rfl | differs := eq_or_ne other caller
    · simp only [Function.update_self, Call.sending.injEq] at isSending
      simp [isSending]
    · simp only [Function.update_of_ne differs] at isSending
      exact List.mem_append_left _ (own.sending other started isSending)
  · intro other started member
    rw [received_concat] at member
    exact List.mem_append_left _
      (own.placed other started (by simpa [Event.received] using member))
  · intro other started member
    obtain rfl | differs := eq_or_ne other caller
    · simp
    · simp only [Function.update_of_ne differs]
      refine own.begun other started ?_
      simpa [differs] using member
  · intro other first second firstStart secondStart
    simp only [List.mem_append, List.mem_singleton, Event.start.injEq]
      at firstStart secondStart
    obtain rfl | differs := eq_or_ne other caller
    · simp only [notStarted, false_or, true_and] at firstStart secondStart
      rw [firstStart, secondStart]
    · simp only [differs, false_and, or_false] at firstStart secondStart
      exact own.unique other first second firstStart secondStart

/-- A call that moves on to something else than its start. -/
theorem of_update_calls
    {caller other : Caller}
    {call target : Call ρ α}
    (differs : call ≠ target)
    (is : Function.update before.calls caller call other = target) :
    before.calls other = target := by
  obtain rfl | elsewhere := eq_or_ne other caller
  · rw [Function.update_self] at is
    exact absurd is differs
  · rw [Function.update_of_ne elsewhere] at is
    exact is

theorem Own.step
    (own : Own events before)
    (taken : Step serve buffer before event after) :
    Own (events ++ [event]) after := by
  cases taken with
  | start isIdle =>
      exact own.start isIdle
  | @send caller request isSending =>
      refine own.of_later nofun (fun _ _ => of_update_calls nofun) ?_
        (fun _ => of_update_calls nofun)
      intro other started member
      simp only [received_concat, Event.received, Option.toList_none,
        List.append_nil, List.mem_append, List.mem_singleton,
        Prod.mk.injEq] at member ⊢
      rcases member with wasReceived | wasQueued | ⟨rfl, rfl⟩
      · exact Or.inl (Or.inl wasReceived)
      · exact Or.inl (Or.inr wasQueued)
      · exact Or.inr isSending
  | receive isReceiving isFirst =>
      refine own.of_later nofun (fun _ _ same => same) ?_ (fun _ same => same)
      intro other started member
      refine Or.inl ?_
      simpa [Event.received, isFirst] using member
  | discard isStopped isFirst =>
      refine own.of_later nofun (fun _ _ same => same) ?_ (fun _ same => same)
      intro other started member
      refine Or.inl ?_
      simp only [received_concat, Event.received, Option.toList_none,
        List.append_nil, List.mem_append] at member
      rw [isFirst, List.mem_append, List.mem_cons]
      exact member.imp_right Or.inr
  | answer =>
      exact own.of_later nofun (fun _ _ same => same)
        (fun _ _ member => Or.inl (by simpa [Event.received] using member))
        (fun _ same => same)
  | stop =>
      exact own.of_later nofun (fun _ _ same => same)
        (fun _ _ member => Or.inl (by simpa [Event.received] using member))
        (fun _ same => same)
  | _ =>
      exact own.of_later nofun (fun _ _ => of_update_calls nofun)
        (fun _ _ member => Or.inl (by simpa [Event.received] using member))
        (fun _ => of_update_calls nofun)

end Requests

section Answers

/-- The answers of a longer run. -/
theorem answers_concat :
    answers serve server (events ++ [event]) =
      answers serve server events ++
        StepRun.outputs (serveCaller serve)
          (StepRun.final (serveCaller serve) server (answered events))
          event.answered.toList := by
  rw [answers, answered_concat, StepRun.outputs_append]
  rfl

/-- What the reply channels and the calls hold are answers of the server. -/
structure Answered
    (serve : σ → ρ → κ → α × σ)
    (server : σ)
    (events : List (Event ρ κ))
    (state : State σ ρ α) : Prop where
  filled :
    ∀ caller answer, state.slots caller = .filled answer →
      (caller, answer) ∈ answers serve server events
  returned :
    ∀ caller answer, state.calls caller = .returned (.received answer) →
      (caller, answer) ∈ answers serve server events

theorem Answered.step
    (counted : Counted serve server events before)
    (isAnswered : Answered serve server events before)
    (taken : Step serve buffer before event after) :
    Answered serve server (events ++ [event]) after := by
  have earlier {entry : Caller × α}
      (member : entry ∈ answers serve server events) :
      entry ∈ answers serve server (events ++ [event]) := by
    rw [answers_concat]
    exact List.mem_append_left _ member
  have sameSlots
      (same : after.slots = before.slots)
      (caller : Caller)
      (answer : α)
      (isFilled : after.slots caller = .filled answer) :
      (caller, answer) ∈ answers serve server (events ++ [event]) :=
    earlier (isAnswered.filled caller answer (same ▸ isFilled))
  have sameCalls
      (same : after.calls = before.calls)
      (caller : Caller)
      (answer : α)
      (hasReturned : after.calls caller = .returned (.received answer)) :
      (caller, answer) ∈ answers serve server (events ++ [event]) :=
    earlier (isAnswered.returned caller answer (same ▸ hasReturned))
  have otherCalls
      {moved : Caller}
      {call : Call ρ α}
      (calls : after.calls = Function.update before.calls moved call)
      (differs : ∀ answer, call ≠ .returned (.received answer))
      (caller : Caller)
      (answer : α)
      (hasReturned : after.calls caller = .returned (.received answer)) :
      (caller, answer) ∈ answers serve server (events ++ [event]) :=
    earlier (isAnswered.returned caller answer
      (of_update_calls (differs answer) (calls ▸ hasReturned)))
  cases taken with
  | @answer caller request reading isAnswering =>
      refine ⟨?_, sameCalls rfl⟩
      intro other answer isFilled
      obtain rfl | differs := eq_or_ne other caller
      · simp only [Function.update_self, Slot.filled.injEq] at isFilled
        rw [answers_concat, ← isFilled, counted.state]
        exact List.mem_append_right _ List.mem_cons_self
      · simp only [Function.update_of_ne differs] at isFilled
        exact earlier (isAnswered.filled other answer isFilled)
  | @reply caller reply isWaiting hasReply =>
      refine ⟨sameSlots rfl, ?_⟩
      intro other answer hasReturned
      obtain rfl | differs := eq_or_ne other caller
      · simp only [Function.update_self, Call.returned.injEq] at hasReturned
        subst hasReturned
        cases slot : before.slots other with
        | filled held =>
            simp only [slot, Slot.reply, Option.some.injEq,
              Reply.received.injEq] at hasReply
            exact earlier
              (isAnswered.filled other answer (hasReply ▸ slot))
        | _ =>
            simp [slot, Slot.reply] at hasReply
      · simp only [Function.update_of_ne differs] at hasReturned
        exact earlier (isAnswered.returned other answer hasReturned)
  | @discard caller _ _ _ _ =>
      refine ⟨?_, sameCalls rfl⟩
      intro other answer isFilled
      obtain rfl | differs := eq_or_ne other caller
      · simp at isFilled
      · simp only [Function.update_of_ne differs] at isFilled
        exact earlier (isAnswered.filled other answer isFilled)
  | receive =>
      exact ⟨sameSlots rfl, sameCalls rfl⟩
  | stop =>
      exact ⟨sameSlots rfl, sameCalls rfl⟩
  | _ =>
      exact ⟨sameSlots rfl, otherCalls rfl nofun⟩

end Answers

section Run

/-- What holds of every state of a run. -/
structure Consistent
    (serve : σ → ρ → κ → α × σ)
    (server : σ)
    (events : List (Event ρ κ))
    (state : State σ ρ α) : Prop where
  counted : Counted serve server events state
  isPlaced : Placed events state
  own : Own events state
  isAnswered : Answered serve server events state

theorem Consistent.of_run
    (run : Transition.Run (Step serve buffer) (initial server) events state) :
    Consistent serve server events state := by
  induction run with
  | nil =>
      refine ⟨⟨rfl, rfl⟩, ⟨List.nodup_nil, ?_, ?_, ?_⟩, ⟨?_, ?_, ?_, ?_⟩,
        ⟨?_, ?_⟩⟩
      · exact fun _ _ => ⟨List.not_mem_nil, rfl⟩
      all_goals simp [initial, received]
  | snoc _ last consistent =>
      exact ⟨consistent.counted.step last,
        consistent.isPlaced.step consistent.counted last,
        consistent.own.step last,
        consistent.isAnswered.step consistent.counted last⟩

/-- The channel never holds more requests than it has room for. -/
theorem length_queue_le
    (run : Transition.Run (Step serve buffer) (initial server) events state) :
    state.queue.length ≤ buffer := by
  induction run with
  | nil =>
      exact Nat.zero_le _
  | snoc _ last bounded =>
      cases last with
      | send isSending isOpen hasRoom =>
          rw [List.length_append]
          exact hasRoom
      | receive isReceiving isFirst =>
          rw [isFirst, List.length_cons] at bounded
          exact Nat.le_of_succ_le bounded
      | discard isStopped isFirst =>
          rw [isFirst, List.length_cons] at bounded
          exact Nat.le_of_succ_le bounded
      | _ =>
          exact bounded

/--
The answers are those of the server on its own: each request that it took is
answered once, in order, and a call that returns has the answer to its own
request, unless its request was not taken.
-/
structure Linearized
    (serve : σ → ρ → κ → α × σ)
    (server : σ)
    (events : List (Event ρ κ))
    (state : State σ ρ α) : Prop where
  taken :
    received events =
      (answered events).map (fun entry => (entry.1, entry.2.1)) ++
        state.worker.held
  once : ((received events).map Prod.fst).Nodup
  serves :
    state.server =
      StepRun.final (serveCaller serve) server (answered events)
  own :
    ∀ caller request taken,
      .start caller request ∈ events →
      (caller, taken) ∈ received events →
      taken = request
  returned :
    ∀ caller answer,
      state.calls caller = .returned (.received answer) →
      (caller, answer) ∈ answers serve server events
  lost :
    ∀ caller,
      state.calls caller = .returned .notSent ∨
          state.calls caller = .returned .notReceived →
        caller ∉ (received events).map Prod.fst

theorem linearized_of_run
    (run : Transition.Run (Step serve buffer) (initial server) events state) :
    Linearized serve server events state := by
  obtain ⟨counted, isPlaced, own, isAnswered⟩ := Consistent.of_run run
  have reached {caller : Caller}
      (absent : caller ∉ placed events state) :
      caller ∉ (received events).map Prod.fst := by
    rw [placed, List.map_append, List.mem_append, not_or] at absent
    exact absent.1
  refine ⟨counted.taken, ?_, counted.state, ?_, isAnswered.returned, ?_⟩
  · have once := isPlaced.once
    rw [placed, List.map_append] at once
    exact once.of_append_left
  · intro caller request taken started member
    exact own.unique caller taken request
      (own.placed caller taken (List.mem_append_left _ member)) started
  · rintro caller (notSent | notReceived)
    · exact reached (isPlaced.unsent caller (by rw [notSent]; rfl)).1
    · exact reached
        (isPlaced.closed caller (isPlaced.lost caller notReceived))

end Run

end RequestReply
