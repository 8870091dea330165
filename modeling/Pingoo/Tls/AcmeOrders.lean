import Pingoo.Library.Publication
import Pingoo.Tls.Certificate

namespace Pingoo.Tls

/-!
# ACME orders

A certificate is ordered in a sequence of remote steps, each of which may fail.
In the middle of it the challenge of the domain is put into a store that TLS
handshakes read, and it is taken out again when the order succeeds.
-/

open Fallible Interaction

/-- `instant_acme::AuthorizationStatus`. -/
inductive AuthorizationStatus where
  | pending
  | valid
  | invalid
  | revoked
  | expired
  | deactivated
  deriving Repr, DecidableEq

/-- `instant_acme::OrderStatus`. -/
inductive OrderStatus where
  | pending
  | ready
  | processing
  | valid
  | invalid
  deriving Repr, DecidableEq

/-- How a status is shown, `{:?}`. -/
def AuthorizationStatus.debug : AuthorizationStatus → String
  | .pending => "Pending"
  | .valid => "Valid"
  | .invalid => "Invalid"
  | .revoked => "Revoked"
  | .expired => "Expired"
  | .deactivated => "Deactivated"

/-- How a status is shown, `{:?}`. -/
def OrderStatus.debug : OrderStatus → String
  | .pending => "Pending"
  | .ready => "Ready"
  | .processing => "Processing"
  | .valid => "Valid"
  | .invalid => "Invalid"

/-- `instant_acme::KeyAuthorization`. -/
abbrev KeyAuthorization := Str

/-- A challenge that is to be answered. -/
structure AcmeChallenge where
  keyAuthorization : KeyAuthorization
  deriving Repr, DecidableEq

/-- The challenges that are answered now, by their domains. -/
abbrev ChallengesStore := Str → Option AcmeChallenge

/-- An authorization, with its tls-alpn-01 challenge if it has one. -/
structure Authorization where
  status : AuthorizationStatus
  tlsAlpn01 : Option KeyAuthorization
  deriving Repr, DecidableEq

/-- What comes of the remote steps of an order. -/
structure OrderOutcomes where
  newOrder : Except String Unit
  authorization : Option (Except String Authorization)
  setReady : Except String Unit
  pollReady : Except String OrderStatus
  finalize : Except String Str
  pollCertificate : Except String Str

/-- A remote step; other tasks may run while one is awaited. -/
inductive RemoteStep where
  | newOrder
  | authorization
  | setReady
  | pollReady
  | finalize
  | pollCertificate
  deriving Repr, DecidableEq

/-- What an order does one after the other. -/
inductive OrderQuery where
  | await (step : RemoteStep)
  | insert (domain : Str) (challenge : AcmeChallenge)
  | remove (domain : Str)
  deriving Repr, DecidableEq

/-- What is written to the store. -/
def OrderQuery.writes : OrderQuery → Option (Str × Option AcmeChallenge)
  | .await _ =>
      none
  | .insert domain challenge =>
      some (domain, some challenge)
  | .remove domain =>
      some (domain, none)

@[simp] theorem OrderQuery.writes_await (step : RemoteStep) :
    (OrderQuery.await step).writes = none :=
  rfl

/-- An asynchronous function that orders a certificate. -/
abbrev OrderTask := FailingProgram OrderQuery (fun _ => Unit) Error

open FailingProgram

section Order

variable (outcomes : OrderOutcomes) (domain : Str)

/--
The rest of `order_certificate`, from where the challenge is in the store.
-/
def completeOrder : OrderTask (Str × Str) := do
  let name := String.ofList domain
  ask (.await .setReady)
  settle (outcomes.setReady.mapError fun err => .unspecified
    s!"error setting ACME challenge as ready for {name}: {err}")
  ask (.await .pollReady)
  let status ← settle (outcomes.pollReady.mapError fun err => .unspecified
    s!"error polling ACME challenge for {name}: {err}")
  settle (rejectUnless (status = .ready) (.unspecified
    s!"unexpected ACME order status for {name} (status: {status.debug})"))
  ask (.await .finalize)
  let privateKeyPem ← settle (outcomes.finalize.mapError fun err =>
    .unspecified
      s!"error getting private key for ACME order for {name}: {err}")
  ask (.await .pollCertificate)
  let certChainPem ← settle (outcomes.pollCertificate.mapError fun err =>
    .unspecified
      s!"error getting certificate chain for ACME order for {name}: {err}")
  ask (.remove domain)
  pure (privateKeyPem, certChainPem)

/-- `order_certificate`. -/
def orderCertificate : OrderTask (Str × Str) := do
  let name := String.ofList domain
  ask (.await .newOrder)
  settle (outcomes.newOrder.mapError fun err => .unspecified
    s!"error placing ACME order for {name}: {err}")
  ask (.await .authorization)
  let found ← settle (orError (.unspecified
    s!"ACME authorizations is empty for {name}") outcomes.authorization)
  let authorization ← settle (found.mapError fun err => .unspecified
    s!"error getting ACME authorization for {name}: {err}")
  settle (rejectUnless
    (authorization.status ∈
      [AuthorizationStatus.pending, AuthorizationStatus.valid])
    (.unspecified (
      s!"unexpected ACME order status for {name} " ++
      s!"(status: {authorization.status.debug})")))
  let keyAuthorization ← settle (orError (.unspecified
    "tls-alpn-01 challenge not found") authorization.tlsAlpn01)
  ask (.insert domain ⟨keyAuthorization⟩)
  completeOrder outcomes domain

end Order

/-- What a self-signed certificate is made with. -/
structure CertificateParams where
  subjectAltNames : List Str
  acmeIdentifiers : List Bytes
  deriving Repr, DecidableEq

/-- The libraries that the certificate of a challenge is made with. -/
structure AlpnLibrary where
  digest : KeyAuthorization → Bytes
  certificateParams : List Str → Except String CertificateParams
  generateKeyPair : Except String Bytes
  selfSigned : CertificateParams → Bytes → Except String Bytes
  anyEcdsaType : Bytes → Except String Bytes

/-- `get_tls_alpn_01_cert`. -/
def getTlsAlpn01Cert
    (library : AlpnLibrary)
    (challengesStore : ChallengesStore)
    (serverName : Option Str) : Except Error CertifiedKey := do
  let domain := serverName.getD []
  let name := String.ofList domain
  let challenge ← orError (.unspecified
    s!"ACME challenge not found for {name}") (challengesStore domain)
  let certParams ← (library.certificateParams [domain]).mapError fun err =>
    .unspecified s!"error creating certificate for {name}: {err}"
  let certParams :=
    { certParams with
      acmeIdentifiers := [library.digest challenge.keyAuthorization] }
  let keyPair ← library.generateKeyPair.mapError fun err =>
    .unspecified s!"error generating keypair for {name}: {err}"
  let cert ← (library.selfSigned certParams keyPair).mapError fun err =>
    .unspecified s!"error generating self-signed certificate for {name}: {err}"
  let signingKey ← (library.anyEcdsaType keyPair).mapError fun err =>
    .unspecified s!"error creating SigningKey for {name}: {err}"
  .ok ⟨[cert], signingKey⟩

/-- An order that is placed: its domain, and what its remote steps come to. -/
structure Order where
  domain : Str
  outcomes : OrderOutcomes

/-- The task of an order. -/
def Order.task (order : Order) :
    Program OrderQuery (fun _ => Unit) (Except Error (Str × Str)) :=
  (orderCertificate order.outcomes order.domain).run

/-- What an order returns, and the store after it, when no other task runs. -/
def Order.call
    (order : Order)
    (store : ChallengesStore) : Except Error (Str × Str) × ChallengesStore :=
  order.task.alone OrderQuery.writes (fun _ => ()) store

/-- Orders side by side, and the store that they share. -/
abbrev OrderStep :=
  Pool.Step (publications OrderQuery.writes) Order.task

/-- The order comes as far as to put this challenge into the store. -/
structure OrderOutcomes.Publishes
    (outcomes : OrderOutcomes)
    (challenge : AcmeChallenge) : Prop where
  newOrder : outcomes.newOrder = .ok ()
  authorization :
    ∃ authorization,
      outcomes.authorization = some (.ok authorization) ∧
        authorization.status ∈
            [AuthorizationStatus.pending, AuthorizationStatus.valid] ∧
          authorization.tlsAlpn01 = some challenge.keyAuthorization

/-- The steps after the challenge was put into the store succeed. -/
structure OrderOutcomes.Completes (outcomes : OrderOutcomes) : Prop where
  setReady : outcomes.setReady = .ok ()
  pollReady : outcomes.pollReady = .ok .ready
  finalize : ∃ privateKeyPem, outcomes.finalize = .ok privateKeyPem
  pollCertificate : ∃ certChainPem, outcomes.pollCertificate = .ok certChainPem

/-- Once its challenge is in the store, an order succeeds. -/
def OrderOutcomes.Keeps (outcomes : OrderOutcomes) : Prop :=
  ∀ challenge, outcomes.Publishes challenge → outcomes.Completes

/--
An order leaves no challenge of its domain if there was none, and no other
challenge changes.
-/
def Order.Withdraws (order : Order) : Prop :=
  ∀ store : ChallengesStore, store order.domain = none →
    (order.call store).2 order.domain = none ∧
      ∀ other, other ≠ order.domain → (order.call store).2 other = store other

/--
However orders of a kind are interleaved, a challenge is answered only while an
order for its domain is in progress.
-/
def AnsweredOnlyInProgress (may : Order → Prop) : Prop :=
  ∀ events pool,
    Transition.Run (Transition.Guarded (Pool.StartsOnly may) OrderStep)
      (Pool.initial fun _ => none) events pool →
    ∀ library serverName certifiedKey,
      getTlsAlpn01Cert library pool.shared serverName = .ok certifiedKey →
      ∃ order : Order,
        order.domain = serverName.getD [] ∧ InProgress events pool order

section Proofs

variable {outcomes : OrderOutcomes} {domain : Str}

/-- Once the challenge is in the store, it is at most taken out again. -/
theorem asks_completeOrder :
    (completeOrder outcomes domain).run.Asks
      (Program.OnlyRemoves OrderQuery.writes domain) := by
  unfold completeOrder
  refine asks_ask_bind_iff.mpr ⟨.inl rfl, fun _ => asks_settle_bind
    fun _ _ => ?_⟩
  refine asks_ask_bind_iff.mpr ⟨.inl rfl, fun _ => asks_settle_bind
    fun _ _ => asks_settle_bind fun _ _ => ?_⟩
  refine asks_ask_bind_iff.mpr ⟨.inl rfl, fun _ => asks_settle_bind
    fun _ _ => ?_⟩
  refine asks_ask_bind_iff.mpr ⟨.inl rfl, fun _ => asks_settle_bind
    fun _ _ => ?_⟩
  exact asks_ask_bind_iff.mpr ⟨.inr rfl, fun _ => trivial⟩

/-- An order writes no challenge but that of its domain. -/
theorem asks_orderCertificate :
    (orderCertificate outcomes domain).run.Asks
      (Program.WritesOnly OrderQuery.writes domain) := by
  unfold orderCertificate
  refine asks_ask_bind_iff.mpr ⟨nofun, fun _ => asks_settle_bind
    fun _ _ => ?_⟩
  refine asks_ask_bind_iff.mpr ⟨nofun, fun _ => asks_settle_bind
    fun _ _ => asks_settle_bind fun _ _ => ?_⟩
  refine asks_settle_bind fun _ _ => asks_settle_bind fun _ _ => ?_
  refine asks_ask_bind_iff.mpr ⟨?_, fun _ => ?_⟩
  · rintro other value ⟨⟩
    rfl
  · exact asks_completeOrder.mono fun _ removes => removes.writesOnly

/-- The removal is reached when every step before it succeeds. -/
theorem withdraws_completeOrder_iff :
    (completeOrder outcomes domain).run.Withdraws OrderQuery.writes domain ↔
      outcomes.Completes := by
  simp only [completeOrder,
    withdraws_ask_bind_iff_of_none (OrderQuery.writes_await _),
    withdraws_settle_bind_iff, mapError_eq_ok_iff, forall_const,
    rejectUnless_eq_ok_iff]
  constructor
  · rintro ⟨⟨⟩, setReady, status, pollReady, ⟨⟩, rfl, privateKeyPem, finalize,
      certChainPem, pollCertificate, -⟩
    exact ⟨setReady, pollReady, ⟨_, finalize⟩, ⟨_, pollCertificate⟩⟩
  · rintro ⟨setReady, pollReady, ⟨privateKeyPem, finalize⟩, certChainPem,
      pollCertificate⟩
    exact ⟨(), setReady, .ready, pollReady, (), rfl, privateKeyPem, finalize,
      certChainPem, pollCertificate, .inl rfl⟩

/-- An order that can withdraw its challenge is tidy. -/
theorem tidy_completeOrder :
    (completeOrder outcomes domain).run.Tidy OrderQuery.writes := by
  unfold completeOrder
  refine tidy_ask_bind_of_none rfl fun _ => tidy_settle_bind fun _ _ => ?_
  refine tidy_ask_bind_of_none rfl fun _ => tidy_settle_bind fun _ _ => ?_
  refine tidy_settle_bind fun _ _ => ?_
  refine tidy_ask_bind_of_none rfl fun _ => tidy_settle_bind fun _ _ => ?_
  refine tidy_ask_bind_of_none rfl fun _ => tidy_settle_bind fun _ _ => ?_
  exact fun _ => ⟨trivial, nofun⟩

/-- A kept order withdraws the challenge it puts into the store. -/
theorem tidy_orderCertificate (keeps : outcomes.Keeps) :
    (orderCertificate outcomes domain).run.Tidy OrderQuery.writes := by
  unfold orderCertificate
  refine tidy_ask_bind_of_none rfl fun _ =>
    tidy_settle_bind fun _ newOrder => ?_
  refine tidy_ask_bind_of_none rfl fun _ => tidy_settle_bind fun found some =>
    tidy_settle_bind fun authorization isFound => ?_
  refine tidy_settle_bind fun _ isOpen =>
    tidy_settle_bind fun keyAuthorization isThere => ?_
  refine tidy_ask_bind_of_some rfl fun _ =>
    ⟨tidy_completeOrder, withdraws_completeOrder_iff.mpr
      (keeps ⟨keyAuthorization⟩ ?_)⟩
  rw [mapError_eq_ok_iff] at newOrder isFound
  rw [orError_eq_ok_iff] at some isThere
  rw [rejectUnless_eq_ok_iff] at isOpen
  subst isFound
  exact ⟨newOrder, authorization, some, isOpen, isThere⟩

/-- An order that publishes a challenge goes on to its second half. -/
theorem run_orderCertificate_of_publishes
    {challenge : AcmeChallenge}
    (publishes : outcomes.Publishes challenge) :
    (orderCertificate outcomes domain).run =
      .ask (.await .newOrder) fun _ =>
        .ask (.await .authorization) fun _ =>
          .ask (.insert domain challenge) fun _ =>
            (completeOrder outcomes domain).run := by
  obtain ⟨newOrder, authorization, isFound, isOpen, isThere⟩ := publishes
  simp only [orderCertificate, newOrder, isFound, isThere, orError,
    Except.mapError, rejectUnless, if_pos isOpen, run_ask_bind,
    run_settle_ok_bind]

/-- An order that is not kept leaves the challenge it publishes. -/
theorem call_of_publishes
    {challenge : AcmeChallenge}
    (publishes : outcomes.Publishes challenge)
    (fails : ¬ outcomes.Completes)
    (store : ChallengesStore) :
    (Order.call ⟨domain, outcomes⟩ store).2 =
      Function.update store domain (some challenge) := by
  rw [Order.call, Order.task, run_orderCertificate_of_publishes publishes]
  exact Program.alone_eq_of_not_withdraws _ asks_completeOrder
    (mt withdraws_completeOrder_iff.mp fails) _

/-- What an order returns whose challenge cannot be set ready. -/
theorem call_of_setReady_error
    {challenge : AcmeChallenge}
    {err : String}
    (publishes : outcomes.Publishes challenge)
    (fails : outcomes.setReady = .error err)
    (store : ChallengesStore) :
    Order.call ⟨domain, outcomes⟩ store =
      (.error (.unspecified (
        "error setting ACME challenge as ready for " ++
        s!"{String.ofList domain}: {err}")),
      Function.update store domain (some challenge)) := by
  rw [Order.call, Order.task, run_orderCertificate_of_publishes publishes,
    completeOrder, fails]
  simp only [Except.mapError, run_ask_bind, run_settle_error_bind,
    Program.alone]
  rfl

/-- A challenge that is answered is one of the store. -/
theorem exists_challenge_of_getTlsAlpn01Cert
    {library : AlpnLibrary}
    {store : ChallengesStore}
    {serverName : Option Str}
    {certifiedKey : CertifiedKey}
    (answers : getTlsAlpn01Cert library store serverName = .ok certifiedKey) :
    ∃ challenge, store (serverName.getD []) = some challenge := by
  obtain ⟨challenge, isFound, -⟩ := bind_eq_ok_iff.mp answers
  exact ⟨challenge, orError_eq_ok_iff.mp isFound⟩

end Proofs

/-- An order withdraws its challenge when it is kept. -/
theorem Order.withdraws_iff (order : Order) :
    order.Withdraws ↔ order.outcomes.Keeps := by
  obtain ⟨domain, outcomes⟩ := order
  constructor
  · intro withdraws challenge publishes
    by_contra fails
    have left := (withdraws (fun _ => none) rfl).1
    rw [call_of_publishes publishes fails, Function.update_self] at left
    cases left
  · intro keeps store begins
    exact ⟨(tidy_orderCertificate keeps).alone_apply _ asks_orderCertificate
        (.inl begins),
      fun other differs =>
        Program.alone_apply_of_ne _ asks_orderCertificate differs store⟩

section Sample

/-- A library that makes every certificate. -/
def sampleAlpnLibrary : AlpnLibrary where
  digest := Str.asBytes
  certificateParams names := .ok ⟨names, []⟩
  generateKeyPair := .ok []
  selfSigned params _ := .ok params.acmeIdentifiers.flatten
  anyEcdsaType keyPair := .ok keyPair

/-- Nothing but a missing challenge keeps it from an answer. -/
theorem getTlsAlpn01Cert_sampleAlpnLibrary
    {store : ChallengesStore}
    {domain : Str}
    {challenge : AcmeChallenge}
    (isThere : store domain = some challenge) :
    getTlsAlpn01Cert sampleAlpnLibrary store (some domain) =
      .ok ⟨[Str.asBytes challenge.keyAuthorization], []⟩ := by
  simp [getTlsAlpn01Cert, isThere, orError, sampleAlpnLibrary,
    Except.mapError, ok_bind]

end Sample

/-- Orders of a kind answer in time when all of them are kept. -/
theorem answeredOnlyInProgress_iff (may : Order → Prop) :
    AnsweredOnlyInProgress may ↔
      ∀ order, may order → order.outcomes.Keeps := by
  constructor
  · rintro inProgress ⟨domain, outcomes⟩ mayStart challenge publishes
    by_contra fails
    obtain ⟨events, pool, run, shared, isOver⟩ :=
      exists_run_single OrderQuery.writes Order.task may (fun _ => ()) mayStart
    have isThere : pool.shared domain = some challenge := by
      rw [shared]
      change (Order.call ⟨domain, outcomes⟩ _).2 domain = _
      rw [call_of_publishes publishes fails, Function.update_self]
    obtain ⟨order, -, isRunning⟩ := inProgress events pool run _ (some domain)
      _ (getTlsAlpn01Cert_sampleAlpnLibrary isThere)
    exact isOver order isRunning
  · intro keeps events pool run library serverName certifiedKey answers
    obtain ⟨challenge, isThere⟩ := exists_challenge_of_getTlsAlpn01Cert answers
    exact exists_inProgress_of_run
      (fun order mayStart => tidy_orderCertificate (keeps order mayStart))
      (fun _ => asks_orderCertificate) run isThere

/--
An order leaves no challenge behind exactly when it succeeds from where its
challenge is in the store; and where all orders do so, in every run a challenge
is answered only while an order for its domain is in progress.
-/
theorem challengesWithdrawn_iff (may : Order → Prop) :
    (∀ order : Order, order.Withdraws ↔ order.outcomes.Keeps) ∧
      (AnsweredOnlyInProgress may ↔
        ∀ order, may order → order.outcomes.Keeps) :=
  ⟨Order.withdraws_iff, answeredOnlyInProgress_iff may⟩

/-- An order whose challenge is published, and cannot be set ready then. -/
def notReadyOrder : Order where
  domain := "example.com".toList
  outcomes :=
    { newOrder := .ok ()
      authorization := some (.ok ⟨.pending, some "token.print".toList⟩)
      setReady := .error "connection reset"
      pollReady := .ok .ready
      finalize := .ok []
      pollCertificate := .ok [] }

theorem publishes_notReadyOrder :
    notReadyOrder.outcomes.Publishes ⟨"token.print".toList⟩ :=
  ⟨rfl, _, rfl, List.mem_cons_self, rfl⟩

theorem not_keeps_notReadyOrder : ¬ notReadyOrder.outcomes.Keeps := by
  intro keeps
  cases (keeps _ publishes_notReadyOrder).setReady

/-- This order fails, and its challenge is answered from then on. -/
theorem not_challengesWithdrawn_notReady :
    (notReadyOrder.call fun _ => none) =
        (.error (.unspecified (
          "error setting ACME challenge as ready for " ++
          s!"{String.ofList notReadyOrder.domain}: connection reset")),
        Function.update (fun _ => none) notReadyOrder.domain
          (some ⟨"token.print".toList⟩)) ∧
      ¬ (∀ order : Order, order.Withdraws) ∧
        ¬ AnsweredOnlyInProgress fun order => order = notReadyOrder := by
  refine ⟨call_of_setReady_error publishes_notReadyOrder rfl _, ?_, ?_⟩
  · intro withdraws
    exact not_keeps_notReadyOrder
      ((Order.withdraws_iff _).mp (withdraws notReadyOrder))
  · intro inProgress
    exact not_keeps_notReadyOrder
      ((answeredOnlyInProgress_iff _).mp inProgress _ rfl)

end Pingoo.Tls
