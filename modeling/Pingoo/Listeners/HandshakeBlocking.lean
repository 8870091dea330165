import Pingoo.Listeners.AcceptLoop

namespace Pingoo

open Transition

/-!
# Handshakes that block a listener

A listener should be able to accept a client and to observe the shutdown signal
whatever the handshakes of its other clients do.  The accept loop of a TCP and
TLS listener always can.  That of an HTTPS listener can exactly when no
handshake is pending, and what it can do in which order is what the other one
does when it leaves the loop alone until every handshake is over.
-/

/-- A client that connects can be accepted, and the signal can be observed. -/
structure Responsive
    {σ : Type}
    (step : σ → TlsListenEvent → σ → Prop)
    (listen : σ) : Prop where
  accepts :
    ∀ client connected, step listen (.connects client) connected →
      ∃ first accepted, step connected (.accept first) accepted
  observes :
    ∀ signalled, step listen .signal signalled →
      ∃ observed, step signalled .shutdownObserved observed

/-- The loop acts only while no handshake is pending. -/
def LoopIsFree (listen : TlsListen) : TlsListenEvent → Prop
  | .accept _ =>
      ¬ listen.HasPending
  | .acceptFailed =>
      ¬ listen.HasPending
  | .shutdownObserved =>
      ¬ listen.HasPending
  | _ =>
      True

/-- There is a first client to accept once one has connected. -/
private theorem exists_acceptFirst
    (listen : TlsListen)
    (client : Client) :
    ∃ first accepted,
      TlsListen.acceptFirst
        { listen with backlog := listen.backlog ++ [client] } first =
          some accepted := by
  obtain ⟨first, rest, isFirst⟩ :=
    List.exists_cons_of_ne_nil
      (List.append_ne_nil_of_right_ne_nil listen.backlog
        (List.cons_ne_nil client []))
  exact ⟨first, _, by rw [TlsListen.acceptFirst, isFirst]; exact if_pos rfl⟩

/-- The loop of a TCP and TLS listener is never blocked before shutdown. -/
theorem TcpAndTlsListener.responsive
    {listen : TlsListen}
    (running : listen.observed = false) :
    Responsive TcpAndTlsListener.Step listen where
  accepts := by
    rintro client connected ⟨⟩
    obtain ⟨first, accepted, isFirst⟩ := exists_acceptFirst listen client
    exact ⟨first, accepted, by simpa [Step, step, running] using isFirst⟩
  observes := by
    rintro signalled ⟨⟩
    exact ⟨_, by simp [Step, step, running]; rfl⟩

namespace HttpsListener

/-- The handshake that the loop waits for is the one that is pending. -/
def AwaitsPending (https : HttpsListen) : Prop :=
  ∀ index, https.awaited = some index ↔
    https.listen.handshakes[index]?.any (·.isPending) = true

/-- A loop that waits for nothing has no pending handshake. -/
theorem AwaitsPending.hasPending_iff
    {https : HttpsListen}
    (awaits : AwaitsPending https) :
    https.listen.HasPending ↔ https.awaited.isSome = true := by
  simp only [Option.isSome_iff_exists, awaits _, Option.any_eq_true]
  constructor
  · rintro ⟨handshake, member, isPending⟩
    obtain ⟨index, isIndex⟩ := List.mem_iff_getElem?.mp member
    exact ⟨index, handshake, isIndex, isPending⟩
  · rintro ⟨index, handshake, isIndex, isPending⟩
    exact ⟨handshake, List.mem_of_getElem? isIndex, isPending⟩

/-- Before shutdown the loop is blocked exactly by a pending handshake. -/
theorem responsive_iff
    {https : HttpsListen}
    (awaits : AwaitsPending https)
    (running : https.listen.observed = false) :
    Responsive Step https ↔ ¬ https.listen.HasPending := by
  rw [awaits.hasPending_iff]
  constructor
  · intro responsive waits
    obtain ⟨observed, isObserved⟩ := responsive.observes _ rfl
    rw [Step, step] at isObserved
    simp [Option.isSome_iff_ne_none.mp waits] at isObserved
  · intro free
    rw [Option.not_isSome_iff_eq_none] at free
    constructor
    · rintro client connected ⟨⟩
      obtain ⟨first, accepted, isFirst⟩ :=
        exists_acceptFirst https.listen client
      refine ⟨first, ⟨accepted, some https.listen.handshakes.length⟩, ?_⟩
      rw [Step, step, if_neg (by simp [running, free]), isFirst]
      rfl
    · rintro signalled ⟨⟩
      exact ⟨_, by simp [Step, step, running, free]; rfl⟩

/-- A loop starts with no handshake at all. -/
theorem awaitsPending_initial : AwaitsPending .initial := by
  intro index
  simp [HttpsListen.initial, TlsListen.initial]

/-- The loop waits for the handshake of the client that it accepts. -/
private theorem awaitsPending_of_accept
    {before : HttpsListen}
    {accepted : TlsListen}
    {client : Client}
    (awaits : AwaitsPending before)
    (free : before.awaited = none)
    (accepts : before.listen.acceptFirst client = some accepted) :
    AwaitsPending ⟨accepted, some before.listen.handshakes.length⟩ := by
  have handshakesEq :
      accepted.handshakes =
        before.listen.handshakes ++ [.pending .clientHello] := by
    unfold TlsListen.acceptFirst at accepts
    split at accepts
    · cases accepts
    · split at accepts
      · cases accepts
        rfl
      · cases accepts
  intro index
  have noneBefore :
      before.listen.handshakes[index]?.any (·.isPending) = false := by
    rw [← Bool.not_eq_true, ← awaits index, free]
    simp
  rw [handshakesEq]
  rcases Nat.lt_trichotomy index before.listen.handshakes.length
    with isBefore | isNew | isAfter
  · rw [List.getElem?_append_left isBefore, noneBefore]
    simp
    omega
  · subst index
    simp [Handshaking.isPending]
  · rw [List.getElem?_eq_none (by simp; omega)]
    simp
    omega

/-- Only the handshake that the loop waits for goes on. -/
theorem AwaitsPending.awaited_of_progress
    {before : HttpsListen}
    {progressed : TlsListen}
    {index : Nat}
    {event : TlsHandshakeEvent}
    (awaits : AwaitsPending before)
    (progresses : before.listen.progress index event = some progressed) :
    before.awaited = some index := by
  obtain ⟨changed, changes, -⟩ := Option.map_eq_some_iff.mp progresses
  obtain ⟨handshake, isHandshake, steps⟩ := Option.bind_eq_some_iff.mp changes
  rw [awaits, isHandshake, Option.any_some]
  cases handshake with
  | pending _ =>
      rfl
  | ended _ =>
      cases steps

/-- The loop waits for a handshake as long as it is pending. -/
private theorem awaitsPending_of_progress
    {before : HttpsListen}
    {progressed : TlsListen}
    {index : Nat}
    {event : TlsHandshakeEvent}
    (awaits : AwaitsPending before)
    (isAwaited : before.awaited = some index)
    (progresses : before.listen.progress index event = some progressed) :
    AwaitsPending ⟨progressed,
      if progressed.handshakes[index]?.any (·.isPending) then
        some index
      else
        none⟩ := by
  obtain ⟨handshake, _, rfl⟩ := Option.map_eq_some_iff.mp progresses
  intro other
  by_cases same : other = index
  · subst other
    split
    · next isPending =>
        exact iff_of_true rfl isPending
    · next notPending =>
        exact iff_of_false nofun notPending
  · have noneBefore :
        before.listen.handshakes[other]?.any (·.isPending) = false := by
      rw [← Bool.not_eq_true, ← awaits other, isAwaited, Option.some.injEq]
      exact Ne.symm same
    simp only [List.getElem?_set_ne (Ne.symm same), noneBefore]
    split
    · simp [Ne.symm same]
    · simp

theorem awaitsPending_of_step
    {before after : HttpsListen}
    {event : TlsListenEvent}
    (awaits : AwaitsPending before)
    (taken : Step before event after) : AwaitsPending after := by
  cases event with
  | connects client =>
      cases taken
      exact awaits
  | signal =>
      cases taken
      exact awaits
  | accept client =>
      rw [Step, step] at taken
      split at taken
      · cases taken
      · next free =>
          obtain ⟨accepted, accepts, rfl⟩ := Option.map_eq_some_iff.mp taken
          simp only [Bool.or_eq_true, not_or,
            Option.not_isSome_iff_eq_none] at free
          exact awaitsPending_of_accept awaits free.2 accepts
  | acceptFailed =>
      rw [Step, step] at taken
      split at taken
      · cases taken
      · cases taken
        exact awaits
  | handshake index handshakeEvent =>
      rw [Step, step] at taken
      split at taken
      · next isAwaited =>
          obtain ⟨progressed, progresses, rfl⟩ :=
            Option.map_eq_some_iff.mp taken
          exact awaitsPending_of_progress awaits isAwaited progresses
      · cases taken
  | shutdownObserved =>
      rw [Step, step] at taken
      split at taken
      · cases taken
        exact awaits
      · cases taken

/-- A step of the loop is one of the other listener, taken while it is free. -/
theorem project_step
    {before after : HttpsListen}
    {event : TlsListenEvent}
    (awaits : AwaitsPending before)
    (taken : Step before event after) :
    Guarded LoopIsFree TcpAndTlsListener.Step before.listen event
      after.listen := by
  cases event with
  | connects client =>
      cases taken
      exact ⟨trivial, rfl⟩
  | signal =>
      cases taken
      exact ⟨trivial, rfl⟩
  | accept client =>
      rw [Step, step] at taken
      split at taken
      · cases taken
      · next free =>
          obtain ⟨accepted, accepts, rfl⟩ := Option.map_eq_some_iff.mp taken
          rw [Bool.or_eq_true, not_or] at free
          refine ⟨mt awaits.hasPending_iff.mp free.2, ?_⟩
          rw [TcpAndTlsListener.Step, TcpAndTlsListener.step, if_neg free.1]
          exact accepts
  | acceptFailed =>
      rw [Step, step] at taken
      split at taken
      · cases taken
      · next free =>
          cases taken
          rw [Bool.or_eq_true, not_or] at free
          refine ⟨mt awaits.hasPending_iff.mp free.2, ?_⟩
          rw [TcpAndTlsListener.Step, TcpAndTlsListener.step, if_neg free.1]
  | handshake index handshakeEvent =>
      rw [Step, step] at taken
      split at taken
      · obtain ⟨progressed, progresses, rfl⟩ :=
          Option.map_eq_some_iff.mp taken
        exact ⟨trivial, progresses⟩
      · cases taken
  | shutdownObserved =>
      rw [Step, step] at taken
      split at taken
      · next free =>
          cases taken
          rw [Bool.and_eq_true, Option.isNone_iff_eq_none] at free
          refine ⟨mt awaits.hasPending_iff.mp (by simp [free.2]), ?_⟩
          rw [TcpAndTlsListener.Step, TcpAndTlsListener.step, if_pos free.1]
      · cases taken

/-- A step of the other listener, taken while the loop is free, is one of it. -/
theorem lift_step
    {before : HttpsListen}
    {after : TlsListen}
    {event : TlsListenEvent}
    (awaits : AwaitsPending before)
    (taken :
      Guarded LoopIsFree TcpAndTlsListener.Step before.listen event after) :
    ∃ lifted, Step before event lifted ∧ lifted.listen = after := by
  obtain ⟨isFree, taken⟩ := taken
  cases event with
  | connects client =>
      cases taken
      exact ⟨_, rfl, rfl⟩
  | signal =>
      cases taken
      exact ⟨_, rfl, rfl⟩
  | accept client =>
      have free : ¬ before.awaited.isSome = true :=
        mt awaits.hasPending_iff.mpr isFree
      rw [TcpAndTlsListener.Step, TcpAndTlsListener.step] at taken
      split at taken
      · cases taken
      · next running =>
          refine ⟨⟨after, some before.listen.handshakes.length⟩, ?_, rfl⟩
          rw [Step, step, if_neg (by simp [running, free]), taken]
          rfl
  | acceptFailed =>
      have free : ¬ before.awaited.isSome = true :=
        mt awaits.hasPending_iff.mpr isFree
      rw [TcpAndTlsListener.Step, TcpAndTlsListener.step] at taken
      split at taken
      · cases taken
      · next running =>
          cases taken
          exact ⟨before, by rw [Step, step, if_neg (by simp [running, free])],
            rfl⟩
  | handshake index handshakeEvent =>
      have progresses :
          before.listen.progress index handshakeEvent = some after :=
        taken
      have isAwaited := awaits.awaited_of_progress progresses
      have lifts : Step before (.handshake index handshakeEvent)
          ⟨after,
            if after.handshakes[index]?.any (·.isPending) then
              some index
            else
              none⟩ := by
        rw [Step, step, if_pos isAwaited, progresses]
        rfl
      exact ⟨_, lifts, rfl⟩
  | shutdownObserved =>
      have free : ¬ before.awaited.isSome = true :=
        mt awaits.hasPending_iff.mpr isFree
      rw [Option.not_isSome_iff_eq_none] at free
      rw [TcpAndTlsListener.Step, TcpAndTlsListener.step] at taken
      split at taken
      · next signalled =>
          cases taken
          refine ⟨⟨{ before.listen with observed := true }, before.awaited⟩,
            ?_, rfl⟩
          rw [Step, step, if_pos (by simp only [signalled, free]; rfl)]
      · cases taken

end HttpsListener

/--
The loop of a TCP and TLS listener is never blocked before shutdown.  That of an
HTTPS listener is blocked in every reachable state in which a handshake is
pending and in no other; its runs are those of the other loop that leave it
alone while a handshake is pending.
-/
theorem responsive_iff_not_hasPending
    (events : List TlsListenEvent)
    (listen : TlsListen)
    (https : HttpsListen) :
    (Run TcpAndTlsListener.Step .initial events listen →
      listen.observed = false →
        Responsive TcpAndTlsListener.Step listen) ∧
    (Run HttpsListener.Step .initial events https →
      https.listen.observed = false →
        (Responsive HttpsListener.Step https ↔
          ¬ https.listen.HasPending)) ∧
    ((∃ reached, Run HttpsListener.Step .initial events reached) ↔
      ∃ reached,
        Run (Guarded LoopIsFree TcpAndTlsListener.Step) .initial events
          reached) := by
  refine ⟨?_, ?_, ?_⟩
  · intro _ running
    exact TcpAndTlsListener.responsive running
  · intro run running
    exact HttpsListener.responsive_iff
      (run.invariant HttpsListener.awaitsPending_of_step
        HttpsListener.awaitsPending_initial) running
  · constructor
    · rintro ⟨reached, run⟩
      exact ⟨_, Run.project HttpsListen.listen run
        HttpsListener.awaitsPending_initial
        HttpsListener.awaitsPending_of_step HttpsListener.project_step⟩
    · rintro ⟨reached, run⟩
      obtain ⟨lifted, liftedRun, -⟩ :=
        Run.lift HttpsListen.listen run
          HttpsListener.awaitsPending_initial
          HttpsListener.awaitsPending_of_step HttpsListener.lift_step
      exact ⟨lifted, liftedRun⟩

/-- A silent client: the listener accepts nobody else. -/
theorem not_responsive_silent_client :
    ¬ ∀ events https,
      Run HttpsListener.Step .initial events https →
      https.listen.observed = false →
        Responsive HttpsListener.Step https := by
  intro responsive
  have connects : HttpsListener.Step .initial (.connects 0)
      ⟨⟨[0], [], false, false⟩, none⟩ :=
    rfl
  have accepts : HttpsListener.Step ⟨⟨[0], [], false, false⟩, none⟩ (.accept 0)
      ⟨⟨[], [.pending .clientHello], false, false⟩, some 0⟩ :=
    rfl
  have run := (Run.single connects).snoc accepts
  obtain ⟨observed, isObserved⟩ := (responsive _ _ run rfl).observes _ rfl
  cases isObserved

end Pingoo
