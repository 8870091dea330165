import Pingoo.ConfigLoad
import Pingoo.Tls.AcmeManager
import Pingoo.Tls.SaveInterrupted

namespace Pingoo.Tls

/-!
# How certificates are renewed

However the tasks of the ACME manager are scheduled, and whatever comes of their
orders, the certificates that handshakes are answered with change for the domains
of the configuration only, and only to certificates that were issued to an order
for that domain, which was started because its certificate was missing or about
to expire.  No domain is ordered more often than there were rounds.  The names
of the domains have no slash, so that each has its own files.
-/

open Fallible Interaction FailingProgram
open Transition (Run)

/-- An order returns the parts of a certificate. -/
structure Issued
    (library : CertificateLibrary)
    (domain : Domain)
    (outcomes : OrderOutcomes)
    (certificate : Certificate) : Prop where
  validated : outcomes.pollReady = .ok .ready
  parsed :
    ∃ privateKeyPem certChainPem,
      outcomes.finalize = .ok privateKeyPem ∧
        outcomes.pollCertificate = .ok certChainPem ∧
          parseCertificateAndPrivateKey library (domain.file "pem".toList)
            certChainPem.asBytes privateKeyPem.asBytes = .ok certificate

/-- A round begins with a reading of the clock. -/
def beginsRound (made : AcmeExchange) : Bool :=
  match made.asked with
  | .now => true
  | _ => false

/--
The round that is under way has found that a domain has no certificate, or one
that expires within 30 days of the time at which the round began.
-/
def FoundDue (log : List AcmeExchange) (domain : Domain) : Prop :=
  ∃ earlier now in30Days round found,
    log = earlier ++ ⟨.now, now⟩ :: round ∧
      (∀ made ∈ round, beginsRound made = false) ∧
        Utc.add now.nanos renewedBefore = some in30Days ∧
          ⟨.get domain.name, found⟩ ∈ round ∧ isDue in30Days found = true

/-- A round stays the one under way until the clock is read again. -/
theorem FoundDue.append_singleton
    {log : List AcmeExchange}
    {domain : Domain}
    (due : FoundDue log domain)
    {made : AcmeExchange}
    (sameRound : beginsRound made = false) :
    FoundDue (log ++ [made]) domain := by
  obtain ⟨earlier, now, in30Days, round, found, rfl, quiet, isSum, isGet,
    isFound⟩ := due
  refine ⟨earlier, now, in30Days, round ++ [made], found, by simp, ?_, isSum,
    List.mem_append_left _ isGet, isFound⟩
  intro other member
  rcases List.mem_append.mp member with inRound | isLast
  · exact quiet other inRound
  · exact List.mem_singleton.mp isLast ▸ sameRound

/-- A task was spawned for a domain by a round that had found it due. -/
def SpawnedWhenDue
    (log : List AcmeExchange)
    (domain : Domain)
    (index : Nat) : Prop :=
  ∃ earlier later,
    log = earlier ++ ⟨.spawn domain, index⟩ :: later ∧
      FoundDue earlier domain

/-- A task is spawned for a domain. -/
def spawns (name : Str) (made : AcmeExchange) : Bool :=
  match made.asked with
  | .spawn domain => domain.name = name
  | _ => false

theorem spawns_iff {name : Str} {made : AcmeExchange} :
    spawns name made = true ↔
      ∃ domain, made.asked = .spawn domain ∧ domain.name = name := by
  obtain ⟨asked, reply⟩ := made
  cases asked <;> simp [spawns]

/-- No domain was spawned more often than there were rounds. -/
def AtMostOnceARound (log : List AcmeExchange) : Prop :=
  ∀ name, log.countP (spawns name) ≤ log.countP beginsRound

section Order

variable {outcomes : OrderOutcomes}
variable {library : CertificateLibrary}
variable {debugPath : OsStr → String}

/-- What failed returns its error. -/
private theorem returns_settle_bind
    {α β ε : Type}
    {outcome : Except ε β}
    {following : β → FailingProgram OrderQuery (fun _ => Unit) ε α}
    {returned : α → Prop}
    (rest :
      ∀ value, outcome = .ok value →
        (following value).run.Returns fun result =>
          ∀ value, result = .ok value → returned value) :
    (settle outcome >>= following).run.Returns fun result =>
      ∀ value, result = .ok value → returned value := by
  cases outcome with
  | error failure =>
      exact nofun
  | ok value =>
      exact rest value rfl

/-- What an order that succeeds returns. -/
theorem returns_orderCertificate (domain : Str) :
    (orderCertificate outcomes domain).run.Returns fun result =>
      ∀ pems, result = .ok pems →
        outcomes.pollReady = .ok .ready ∧ outcomes.finalize = .ok pems.1 ∧
          outcomes.pollCertificate = .ok pems.2 := by
  unfold orderCertificate completeOrder
  refine fun _ => returns_settle_bind fun _ _ => fun _ => ?_
  refine returns_settle_bind fun _ _ => returns_settle_bind fun _ _ => ?_
  refine returns_settle_bind fun _ _ => returns_settle_bind fun _ _ => ?_
  refine fun _ _ => returns_settle_bind fun _ _ => fun _ => ?_
  refine returns_settle_bind fun status isStatus =>
    returns_settle_bind fun _ isReady => fun _ => ?_
  refine returns_settle_bind fun _ isKey => fun _ =>
    returns_settle_bind fun _ isChain => fun _ => ?_
  rintro pems ⟨⟩
  rw [mapError_eq_ok_iff] at isStatus isKey isChain
  rw [rejectUnless_eq_ok_iff] at isReady
  exact ⟨isReady ▸ isStatus, isKey, isChain⟩

/-- What an order asks of the manager: to insert what it was issued. -/
def OrderAsks
    (library : CertificateLibrary)
    (domain : Domain)
    (outcomes : OrderOutcomes) : AcmeQuery → Prop
  | .order _ =>
      True
  | .write _ =>
      True
  | .insert name certificate =>
      name = domain.name ∧ Issued library domain outcomes certificate
  | _ =>
      False

/-- The task of a domain inserts nothing but what was issued for it. -/
theorem asksAfter_acmeOrder (domain : Domain) :
    AsksAfter (fun _ => OrderAsks library domain outcomes) []
      (acmeOrder library debugPath domain outcomes) := by
  refine (AsksAfter.embed_of_forall (fun _ _ => trivial) _).bind
    fun more ordered ends => ?_
  cases ordered with
  | error err =>
      trivial
  | ok pems =>
      obtain ⟨own, _, -, rfl, endsOrder⟩ := ends_embed_iff.mp ends
      obtain ⟨validated, isKey, isChain⟩ :=
        endsOrder.returns (returns_orderCertificate domain.name) pems rfl
      dsimp only
      split
      · trivial
      · next certificate isParsed =>
          refine AsksAfter.request_bind
            ⟨rfl, validated, pems.1, pems.2, isKey, isChain, isParsed⟩
            fun _ => ?_
          exact (AsksAfter.embed_of_forall (fun _ _ => trivial) _).bind
            fun _ _ _ => trivial

end Order

section Background

variable {domains : List Domain}
variable {log : List AcmeExchange}

/-- What the background task asks, after a log. -/
def BackgroundAsks
    (domains : List Domain)
    (log : List AcmeExchange) : AcmeQuery → Prop
  | .now =>
      True
  | .get _ =>
      True
  | .spawn domain =>
      domain ∈ domains ∧ FoundDue log domain ∧
        ((domains.map Domain.name).Nodup →
          log.countP (spawns domain.name) < log.countP beginsRound)
  | _ =>
      False

/-- A round looks at its domains, and keeps those that are due. -/
theorem ends_domainsToOrder
    {in30Days : Int}
    {toOrder : List Domain}
    (ends : Ends (domainsToOrder in30Days domains) log toOrder) :
    toOrder.Sublist domains ∧
      (∀ made ∈ log, beginsRound made = false ∧
        ∀ name, spawns name made = false) ∧
        ∀ domain ∈ toOrder, ∃ found,
          ⟨.get domain.name, found⟩ ∈ log ∧ isDue in30Days found = true := by
  induction domains generalizing log toOrder with
  | nil =>
      obtain ⟨rfl, rfl⟩ := ends
      exact ⟨.slnil, fun _ member => absurd member List.not_mem_nil,
        fun _ member => absurd member List.not_mem_nil⟩
  | cons domain rest inductionHypothesis =>
      rw [domainsToOrder, ends_request_bind_iff] at ends
      obtain ⟨found, _, rfl, ends⟩ := ends
      obtain ⟨more, last, others, rfl, endsRest, rfl, rfl⟩ :=
        ends_bind_iff.mp ends
      obtain ⟨sublist, quiet, due⟩ := inductionHypothesis endsRest
      rw [List.append_nil]
      refine ⟨?_, List.forall_mem_cons.mpr ⟨⟨rfl, fun _ => rfl⟩, quiet⟩, ?_⟩
      · split
        · exact sublist.cons_cons domain
        · exact sublist.cons domain
      · intro kept member
        have fromRest (inOthers : kept ∈ others) :
            ∃ other, ⟨.get kept.name, other⟩ ∈
                (⟨.get domain.name, found⟩ :: more : List AcmeExchange) ∧
              isDue in30Days other = true := by
          obtain ⟨other, inMore, isDue⟩ := due kept inOthers
          exact ⟨other, List.mem_cons_of_mem _ inMore, isDue⟩
        split at member
        · next isFound =>
            rcases List.mem_cons.mp member with rfl | inOthers
            · exact ⟨found, List.mem_cons_self, isFound⟩
            · exact fromRest inOthers
        · exact fromRest member

/-- The tasks that are started are those of the domains. -/
theorem ends_spawnOrders
    {toOrder : List Domain}
    {result : Unit}
    (ends : Ends (spawnOrders toOrder) log result) :
    log.countP beginsRound = 0 ∧
      ∀ name, log.countP (spawns name) =
        (toOrder.map Domain.name).count name := by
  induction toOrder generalizing log with
  | nil =>
      obtain ⟨rfl, -⟩ := ends
      exact ⟨rfl, fun _ => rfl⟩
  | cons domain rest inductionHypothesis =>
      obtain ⟨index, more, rfl, endsRest⟩ := ends
      obtain ⟨noRound, counts⟩ := inductionHypothesis endsRest
      refine ⟨noRound, fun name => ?_⟩
      rw [List.countP_cons, counts, List.map_cons, List.count_cons]
      simp [spawns]

/-- Tasks are started for domains that are due, once for each. -/
theorem asksAfter_spawnOrders
    {toOrder : List Domain}
    (known : ∀ domain ∈ toOrder, domain ∈ domains ∧ FoundDue log domain)
    (once :
      (domains.map Domain.name).Nodup →
        (toOrder.map Domain.name).Nodup ∧
          ∀ domain ∈ toOrder,
            log.countP (spawns domain.name) < log.countP beginsRound) :
    AsksAfter (BackgroundAsks domains) log (spawnOrders toOrder) := by
  induction toOrder generalizing log with
  | nil =>
      trivial
  | cons domain rest inductionHypothesis =>
      obtain ⟨⟨isDomain, isDue⟩, knownRest⟩ := List.forall_mem_cons.mp known
      refine AsksAfter.request_bind
        ⟨isDomain, isDue, fun distinct =>
          (once distinct).2 domain List.mem_cons_self⟩ fun index => ?_
      refine inductionHypothesis ?_ fun distinct => ?_
      · intro other member
        obtain ⟨isOther, otherDue⟩ := knownRest other member
        exact ⟨isOther, otherDue.append_singleton rfl⟩
      · obtain ⟨nodup, few⟩ := once distinct
        rw [List.map_cons, List.nodup_cons] at nodup
        refine ⟨nodup.2, fun other member => ?_⟩
        have differs : domain.name ≠ other.name := fun same =>
          nodup.1 (same ▸ List.mem_map_of_mem member)
        have isFew := few other (List.mem_cons_of_mem domain member)
        simpa [List.countP_append, spawns, beginsRound, differs] using isFew

/-- A round begins once, and starts a task for a domain at most once. -/
theorem ends_acmeRound
    {result : Option Unit}
    (ends : Ends (acmeRound domains) log result)
    (distinct : (domains.map Domain.name).Nodup) :
    log.countP beginsRound = 1 ∧ ∀ name, log.countP (spawns name) ≤ 1 := by
  rw [acmeRound, ends_request_bind_iff] at ends
  obtain ⟨now, rest, rfl, ends⟩ := ends
  rw [List.countP_cons_of_pos rfl]
  simp only [List.countP_cons_of_neg (show ¬ spawns _ ⟨.now, now⟩ = true from
    Bool.false_ne_true)]
  cases isSum : Utc.add now.nanos renewedBefore with
  | none =>
      rw [isSum] at ends
      obtain ⟨rfl, -⟩ := ends
      exact ⟨rfl, fun _ => Nat.zero_le 1⟩
  | some in30Days =>
      rw [isSum] at ends
      obtain ⟨looked, _, toOrder, rfl, endsLook, ends⟩ := ends_bind_iff.mp ends
      obtain ⟨spawned, _, _, rfl, endsSpawn, rfl, -⟩ := ends_bind_iff.mp ends
      obtain ⟨sublist, quiet, -⟩ := ends_domainsToOrder endsLook
      obtain ⟨noRound, counts⟩ := ends_spawnOrders endsSpawn
      have lookRounds : looked.countP beginsRound = 0 :=
        List.countP_eq_zero.mpr fun made member => by
          simp [(quiet made member).1]
      have lookSpawns (name : Str) : looked.countP (spawns name) = 0 :=
        List.countP_eq_zero.mpr fun made member => by
          simp [(quiet made member).2 name]
      simp only [List.append_nil, List.countP_append, lookRounds, noRound,
        lookSpawns, counts, Nat.zero_add, true_and]
      exact fun name =>
        List.nodup_iff_count_le_one.mp
          ((sublist.map Domain.name).nodup distinct) name

/-- Looking at domains starts nothing. -/
theorem asksAfter_domainsToOrder
    (in30Days : Int)
    (looked : List Domain) :
    AsksAfter (BackgroundAsks domains) log
      (domainsToOrder in30Days looked) := by
  induction looked generalizing log with
  | nil =>
      trivial
  | cons domain rest inductionHypothesis =>
      exact AsksAfter.request_bind trivial fun found =>
        inductionHypothesis.bind fun _ _ _ => trivial

/-- A round starts tasks for domains that are due, and once for each. -/
theorem asksAfter_acmeRound
    (once : (domains.map Domain.name).Nodup → AtMostOnceARound log) :
    AsksAfter (BackgroundAsks domains) log (acmeRound domains) := by
  refine AsksAfter.request_bind trivial fun now => ?_
  cases isSum : Utc.add now.nanos renewedBefore with
  | none =>
      trivial
  | some in30Days =>
      refine (asksAfter_domainsToOrder in30Days domains).bind
        fun looked toOrder ends => ?_
      obtain ⟨sublist, quiet, due⟩ := ends_domainsToOrder ends
      refine (asksAfter_spawnOrders ?_ ?_).bind fun _ _ _ => trivial
      · intro domain member
        obtain ⟨found, inLooked, isDue⟩ := due domain member
        exact ⟨sublist.subset member, log, now, in30Days, looked, found,
          by simp, fun made inRound => (quiet made inRound).1, isSum, inLooked,
          isDue⟩
      · intro distinct
        refine ⟨(sublist.map Domain.name).nodup distinct, fun domain _ => ?_⟩
        have few := once distinct domain.name
        have lookSpawns : looked.countP (spawns domain.name) = 0 :=
          List.countP_eq_zero.mpr fun made member => by
            simp [(quiet made member).2]
        simp only [List.countP_append, lookSpawns, List.countP_singleton]
        have isRound : beginsRound ⟨.now, now⟩ = true := rfl
        have noSpawn : spawns domain.name ⟨.now, now⟩ = false := rfl
        rw [isRound, noSpawn]
        simp only [Bool.false_eq_true, if_false, if_true]
        omega

/-- The loop starts tasks for domains that are due, once a round for each. -/
theorem asksAfter_acmeLoop
    (rounds : Nat)
    (once : (domains.map Domain.name).Nodup → AtMostOnceARound log) :
    AsksAfter (BackgroundAsks domains) log (acmeLoop domains rounds) := by
  induction rounds generalizing log with
  | zero =>
      trivial
  | succ rounds inductionHypothesis =>
      refine (asksAfter_acmeRound once).bind fun more result ends => ?_
      cases result with
      | none =>
          trivial
      | some _ =>
          refine inductionHypothesis fun distinct name => ?_
          obtain ⟨isRound, few⟩ := ends_acmeRound ends distinct
          rw [List.countP_append, List.countP_append, isRound]
          exact Nat.add_le_add (once distinct name) (few name)

/-- What the background task asks in all. -/
theorem asksAfter_startAcmeInBackground
    (acme : Option (List Domain))
    (rounds : Nat) :
    AsksAfter (BackgroundAsks (acme.getD [])) []
      (startAcmeInBackground acme rounds) := by
  cases acme with
  | none =>
      trivial
  | some domains =>
      rw [startAcmeInBackground]
      split
      · trivial
      · exact asksAfter_acmeLoop rounds fun _ _ => Nat.le_refl 0

/-- Each task that is started has its round, if every start finds one left. -/
theorem atMostOnceARound_of_spawns
    (few :
      ∀ earlier made later domain,
        log = earlier ++ made :: later → made.asked = .spawn domain →
          earlier.countP (spawns domain.name) < earlier.countP beginsRound) :
    AtMostOnceARound log := by
  induction log using List.reverseRecOn with
  | nil =>
      exact fun _ => Nat.le_refl 0
  | append_singleton earlier made inductionHypothesis =>
      intro name
      have before : earlier.countP (spawns name) ≤ earlier.countP beginsRound :=
        inductionHypothesis
          (fun first other later domain split =>
            few first other (later ++ [made]) domain (by simp [split])) name
      have fewSpawned (domain : Domain) (isSpawn : made.asked = .spawn domain) :=
        few earlier made [] domain rfl isSpawn
      rw [List.countP_append, List.countP_append, List.countP_singleton,
        List.countP_singleton]
      cases isSpawned : spawns name made with
      | false =>
          rw [if_neg Bool.false_ne_true]
          omega
      | true =>
          obtain ⟨domain, isSpawn, rfl⟩ := spawns_iff.mp isSpawned
          have := fewSpawned domain isSpawn
          rw [if_pos rfl]
          omega

/-- The tasks of different numbers were started apart. -/
theorem card_le_countP_spawns
    {name : Str}
    (indices : Finset Nat)
    (each :
      ∀ index ∈ indices, ∃ domain : Domain,
        domain.name = name ∧ ⟨.spawn domain, index⟩ ∈ log) :
    indices.card ≤ log.countP (spawns name) := by
  let indexOf (made : AcmeExchange) : Option Nat :=
    match made with
    | ⟨.spawn domain, index⟩ => if domain.name = name then some index else none
    | _ => none
  have allIn : indices ⊆ (log.filterMap indexOf).toFinset := by
    intro index member
    obtain ⟨domain, isName, inLog⟩ := each index member
    rw [List.mem_toFinset, List.mem_filterMap]
    exact ⟨_, inLog, if_pos isName⟩
  calc indices.card
      ≤ (log.filterMap indexOf).toFinset.card := Finset.card_le_card allIn
    _ ≤ (log.filterMap indexOf).length := List.toFinset_card_le _
    _ = log.countP (spawns name) := by
        rw [List.length_filterMap_eq_countP]
        congr 1
        funext made
        obtain ⟨asked, reply⟩ := made
        cases asked <;> simp [indexOf, spawns, apply_ite Option.isSome]

end Background

/-! ## Runs -/

/-- The manager before any of its tasks was started. -/
def AcmeState.begin
    (now : Utc.DateTime)
    (manager : TlsManager)
    (folder : Folder) : AcmeState where
  now :=
    now
  manager :=
    manager
  challenges _ :=
    none
  folder :=
    folder
  spawned _ :=
    none

/-- What the certificates and the tasks of a run come from. -/
structure Accounted
    (manager : TlsManager)
    (events : List AcmeEvent)
    (pool : AcmePool) : Prop where
  default :
    pool.shared.manager.defaultCertificate = manager.defaultCertificate
  wildcards :
    pool.shared.manager.wildcardCertificates = manager.wildcardCertificates
  inserted :
    ∀ name certificate,
      pool.shared.manager.certificates.lookup name = some certificate →
        manager.certificates.lookup name = some certificate ∨
          ∃ index, .exchange index ⟨.insert name certificate, ()⟩ ∈ events
  kept :
    ∀ name,
      (∀ index certificate,
        .exchange index ⟨.insert name certificate, ()⟩ ∉ events) →
        pool.shared.manager.certificates.lookup name =
          manager.certificates.lookup name
  spawned :
    ∀ index domain, pool.shared.spawned index = some domain →
      ∃ spawner, .exchange spawner ⟨.spawn domain, index⟩ ∈ events
  orders :
    ∀ index domain outcomes, .start index (.order domain outcomes) ∈ events →
      ∃ spawner, .exchange spawner ⟨.spawn domain, index⟩ ∈ events
  background :
    ∀ index rounds, .start index (.background rounds) ∈ events →
      index = backgroundIndex

section Run

variable {library : CertificateLibrary}
variable {debugPath : OsStr → String}
variable {acme : Option (List Domain)}
variable {now : Utc.DateTime} {manager : TlsManager} {folder : Folder}
variable {events : List AcmeEvent} {finish : AcmePool}

/-- What a step does to the certificates and to the tasks. -/
structure StepEffect
    (before : AcmeState)
    (event : AcmeEvent)
    (after : AcmeState) : Prop where
  default :
    after.manager.defaultCertificate = before.manager.defaultCertificate
  wildcards :
    after.manager.wildcardCertificates = before.manager.wildcardCertificates
  certificates :
    ∀ name,
      after.manager.certificates.lookup name =
          before.manager.certificates.lookup name ∨
        ∃ index certificate,
          event = .exchange index ⟨.insert name certificate, ()⟩ ∧
            after.manager.certificates.lookup name = some certificate
  spawned :
    ∀ index domain, after.spawned index = some domain →
      before.spawned index = some domain ∨
        ∃ spawner, event = .exchange spawner ⟨.spawn domain, index⟩
  orders :
    ∀ index domain outcomes, event = .start index (.order domain outcomes) →
      before.spawned index = some domain
  background :
    ∀ index rounds, event = .start index (.background rounds) →
      index = backgroundIndex

/-- Nothing but its insertions and its tasks matters of a step. -/
theorem stepEffect_of_step
    {before after : AcmePool}
    {event : AcmeEvent}
    (taken : AcmeStep library debugPath acme before event after) :
    StepEffect before.shared event after.shared := by
  obtain ⟨mayStart, step⟩ := taken
  cases step with
  | change changes =>
      obtain ⟨now, rfl⟩ := changes
      exact ⟨rfl, rfl, fun _ => .inl rfl, fun _ _ => .inl, by simp, by simp⟩
  | @start index task isFree =>
      refine ⟨rfl, rfl, fun _ => .inl rfl, fun _ _ => .inl, ?_, ?_⟩
      · rintro other domain outcomes ⟨⟩
        exact mayStart.2
      · rintro other rounds ⟨⟩
        exact mayStart
  | @exchange index log asked next reply state isAsking answers =>
      cases answers with
      | now =>
          exact ⟨rfl, rfl, fun _ => .inl rfl, fun _ _ => .inl, by simp, by simp⟩
      | get =>
          exact ⟨rfl, rfl, fun _ => .inl rfl, fun _ _ => .inl, by simp, by simp⟩
      | order =>
          exact ⟨rfl, rfl, fun _ => .inl rfl, fun _ _ => .inl, by simp, by simp⟩
      | write =>
          exact ⟨rfl, rfl, fun _ => .inl rfl, fun _ _ => .inl, by simp, by simp⟩
      | @spawn domain spawnedIndex isFresh =>
          refine ⟨rfl, rfl, fun _ => .inl rfl, ?_, by simp, by simp⟩
          intro other otherDomain isSpawned
          obtain rfl | differs := eq_or_ne other spawnedIndex
          · dsimp only at isSpawned
            rw [Function.update_self, Option.some.injEq] at isSpawned
            subst isSpawned
            exact .inr ⟨index, rfl⟩
          · dsimp only at isSpawned
            rw [Function.update_of_ne differs] at isSpawned
            exact .inl isSpawned
      | insert domain certificate =>
          refine ⟨rfl, rfl, fun name => ?_, fun _ _ => .inl, by simp, by simp⟩
          obtain rfl | differs := eq_or_ne name domain
          · exact .inr ⟨index, certificate, rfl, AList.lookup_insert _⟩
          · exact .inl (AList.lookup_insert_ne differs)

/-- Every step accounts for what it does. -/
theorem Accounted.step
    {before after : AcmePool}
    {event : AcmeEvent}
    (accounted : Accounted manager events before)
    (taken : AcmeStep library debugPath acme before event after) :
    Accounted manager (events ++ [event]) after := by
  have effect := stepEffect_of_step taken
  have isLast : event ∈ events ++ [event] :=
    List.mem_append_right _ (List.mem_singleton_self _)
  constructor
  · rw [effect.default]
    exact accounted.default
  · rw [effect.wildcards]
    exact accounted.wildcards
  · intro name certificate found
    rcases effect.certificates name with same |
      ⟨index, issued, isInsert, isIssued⟩
    · rw [same] at found
      exact (accounted.inserted name certificate found).imp id
        fun ⟨index, member⟩ => ⟨index, List.mem_append_left _ member⟩
    · rw [isIssued, Option.some.injEq] at found
      subst found
      exact .inr ⟨index, isInsert ▸ isLast⟩
  · intro name never
    rcases effect.certificates name with same | ⟨index, issued, isInsert, -⟩
    · rw [same]
      exact accounted.kept name fun index certificate member =>
        never index certificate (List.mem_append_left _ member)
    · exact absurd (isInsert ▸ isLast) (never index issued)
  · intro index domain isSpawned
    rcases effect.spawned index domain isSpawned with old | ⟨spawner, isSpawn⟩
    · obtain ⟨spawner, member⟩ := accounted.spawned index domain old
      exact ⟨spawner, List.mem_append_left _ member⟩
    · exact ⟨spawner, isSpawn ▸ isLast⟩
  · intro index domain outcomes member
    have isSpawned :
        ∃ spawner, .exchange spawner ⟨.spawn domain, index⟩ ∈ events := by
      rcases List.mem_append.mp member with inEvents | isStart
      · exact accounted.orders index domain outcomes inEvents
      · exact accounted.spawned index domain
          (effect.orders index domain outcomes
            (List.mem_singleton.mp isStart).symm)
    obtain ⟨spawner, isSpawn⟩ := isSpawned
    exact ⟨spawner, List.mem_append_left _ isSpawn⟩
  · intro index rounds member
    rcases List.mem_append.mp member with inEvents | isStart
    · exact accounted.background index rounds inEvents
    · exact effect.background index rounds (List.mem_singleton.mp isStart).symm

theorem accounted_of_run
    (run :
      Run (AcmeStep library debugPath acme) (.initial (.begin now manager folder))
        events finish) : Accounted manager events finish := by
  refine run.invariant_of_events Accounted.step ?_
  exact ⟨rfl, rfl, fun _ _ => .inl, fun _ _ => rfl, nofun, by simp, by simp⟩

/-- What a task asks in a run is what its program may ask. -/
theorem task_of_exchange
    {index : Nat}
    {earlier later : List AcmeExchange}
    {made : AcmeExchange}
    (run :
      Run (AcmeStep library debugPath acme) (.initial (.begin now manager folder))
        events finish)
    (split : exchangesOf index events = earlier ++ made :: later) :
    (∃ domain outcomes, .start index (.order domain outcomes) ∈ events ∧
      OrderAsks library domain outcomes made.asked) ∨
      index = backgroundIndex ∧
        BackgroundAsks (acme.getD []) earlier made.asked := by
  have steps := run.mono And.right
  have inLog : made ∈ exchangesOf index events := by
    rw [split]
    exact List.mem_append_right _ List.mem_cons_self
  obtain ⟨task, started⟩ := Pool.started_of_run steps inLog
  cases task with
  | order domain outcomes =>
      exact .inl ⟨domain, outcomes, started,
        Pool.asked_of_run steps started (asksAfter_acmeOrder domain) split⟩
  | background rounds =>
      obtain rfl := (accounted_of_run run).background index rounds started
      exact .inr ⟨rfl,
        Pool.asked_of_run steps started
          (asksAfter_startAcmeInBackground acme rounds) split⟩

/-- A task of a domain was spawned by a round that found the domain due. -/
theorem spawnedWhenDue_of_started
    {index : Nat}
    {domain : Domain}
    {outcomes : OrderOutcomes}
    (run :
      Run (AcmeStep library debugPath acme) (.initial (.begin now manager folder))
        events finish)
    (started : .start index (.order domain outcomes) ∈ events) :
    domain ∈ acme.getD [] ∧
      SpawnedWhenDue (exchangesOf backgroundIndex events) domain index := by
  obtain ⟨spawner, isSpawn⟩ :=
    (accounted_of_run run).orders index domain outcomes started
  obtain ⟨earlier, later, split⟩ :=
    List.append_of_mem (mem_exchangesOf.mpr isSpawn)
  rcases task_of_exchange run split with ⟨_, _, _, asks⟩ |
    ⟨rfl, isDomain, due, -⟩
  · exact absurd asks id
  · exact ⟨isDomain, earlier, later, split, due⟩

/--
In every run, handshakes for other names than the domains are answered as before,
and a certificate of a domain was there before, or was inserted by an order for
this domain that it was issued to, and which was spawned by a round that had
found the certificate of the domain missing or about to expire.
-/
theorem certificates_of_run
    (run :
      Run (AcmeStep library debugPath acme) (.initial (.begin now manager folder))
        events finish) :
    (∀ serverName : Option Str,
      (∀ domain ∈ acme.getD [], domain.name ≠ serverName.getD []) →
        finish.shared.manager.resolve library serverName =
          manager.resolve library serverName) ∧
      ∀ name certificate,
        finish.shared.manager.certificates.lookup name = some certificate →
          manager.certificates.lookup name = some certificate ∨
            ∃ index domain outcomes,
              .start index (.order domain outcomes) ∈ events ∧
                .exchange index ⟨.insert name certificate, ()⟩ ∈ events ∧
                  domain.name = name ∧ domain ∈ acme.getD [] ∧
                    Issued library domain outcomes certificate ∧
                      SpawnedWhenDue (exchangesOf backgroundIndex events)
                        domain index := by
  have accounted := accounted_of_run run
  have issued (index : Nat) (name : Str) (certificate : Certificate)
      (member : .exchange index ⟨.insert name certificate, ()⟩ ∈ events) :
      ∃ domain outcomes, .start index (.order domain outcomes) ∈ events ∧
        name = domain.name ∧ Issued library domain outcomes certificate := by
    obtain ⟨_, _, split⟩ := List.append_of_mem (mem_exchangesOf.mpr member)
    rcases task_of_exchange run split with ⟨domain, outcomes, started, asks⟩ |
      ⟨_, asks⟩
    · exact ⟨domain, outcomes, started, asks⟩
    · exact absurd asks id
  constructor
  · intro serverName other
    have sameEntry := accounted.kept (serverName.getD [])
      fun index certificate member => by
        obtain ⟨domain, outcomes, started, isName, -⟩ :=
          issued index _ certificate member
        exact other domain (spawnedWhenDue_of_started run started).1 isName.symm
    simp only [TlsManager.resolve, sameEntry, accounted.default,
      accounted.wildcards]
  · intro name certificate found
    refine (accounted.inserted name certificate found).imp id ?_
    rintro ⟨index, member⟩
    obtain ⟨domain, outcomes, started, rfl, isIssued⟩ :=
      issued index name certificate member
    obtain ⟨isDomain, due⟩ := spawnedWhenDue_of_started run started
    exact ⟨index, domain, outcomes, started, member, rfl, isDomain, isIssued,
      due⟩

/-- The background task began a round for each task that it started for a name. -/
theorem atMostOnceARound_of_run
    (run :
      Run (AcmeStep library debugPath acme) (.initial (.begin now manager folder))
        events finish)
    (distinct : ((acme.getD []).map Domain.name).Nodup) :
    AtMostOnceARound (exchangesOf backgroundIndex events) := by
  refine atMostOnceARound_of_spawns fun earlier made later domain split isSpawn =>
    ?_
  rcases task_of_exchange run split with ⟨_, _, _, asks⟩ | ⟨_, asks⟩
  · rw [isSpawn] at asks
    exact absurd asks id
  · rw [isSpawn] at asks
    exact asks.2.2 distinct

/--
In every run with an accepted configuration, the tasks that were started for a
name are no more than the rounds that were begun.
-/
theorem orders_le_rounds
    {tls : TlsConfig}
    {account : TlsAcmeConfig}
    {domains : List Domain}
    {name : Str}
    (accepted : validateTls tls = .ok ⟨some account⟩)
    (areDomains : domains.map Domain.name = account.domains)
    (run :
      Run (AcmeStep library debugPath (some domains))
        (.initial (.begin now manager folder)) events finish)
    (indices : Finset Nat)
    (ordered :
      ∀ index ∈ indices, ∃ domain outcomes,
        domain.name = name ∧ .start index (.order domain outcomes) ∈ events) :
    indices.card ≤
      (exchangesOf backgroundIndex events).countP beginsRound := by
  have distinct : (domains.map Domain.name).Nodup :=
    areDomains ▸ nodup_of_validateTls accepted
  calc indices.card
      ≤ (exchangesOf backgroundIndex events).countP (spawns name) := by
        refine card_le_countP_spawns indices fun index member => ?_
        obtain ⟨domain, outcomes, isName, started⟩ := ordered index member
        obtain ⟨spawner, isSpawn⟩ :=
          (accounted_of_run run).orders index domain outcomes started
        obtain ⟨_, _, split⟩ := List.append_of_mem (mem_exchangesOf.mpr isSpawn)
        rcases task_of_exchange run split with ⟨_, _, _, asks⟩ | ⟨rfl, _⟩
        · exact absurd asks id
        · exact ⟨domain, isName, mem_exchangesOf.mpr isSpawn⟩
    _ ≤ (exchangesOf backgroundIndex events).countP beginsRound :=
        atMostOnceARound_of_run run distinct name

end Run

section Sample

/-- A task that may be started can be run to its end. -/
private theorem run_task
    {library : CertificateLibrary}
    {debugPath : OsStr → String}
    {acme : Option (List Domain)}
    {pool : AcmePool}
    {index : Nat}
    {task : AcmeTask}
    {log : List AcmeExchange}
    {after : AcmeState}
    (isFree : pool.processes index = none)
    (mayStart : MayStart pool (.start index task))
    (ends : Ends (task.code library debugPath acme) log ())
    (replies : acmeManager.Replies pool.shared log after) :
    ∃ finish,
      Run (AcmeStep library debugPath acme) pool
          (.start index task :: log.map (.exchange index)) finish ∧
        finish.shared = after ∧
        ∀ other, other ≠ index →
          finish.processes other = pool.processes other := by
  obtain ⟨finish, run, isShared, -, same⟩ :=
    @Pool.run_of_ends _ _ _ _ _ acmeManager
      (AcmeTask.code library debugPath acme) pool index task log () after
      isFree ends replies
  refine ⟨finish, run.guarded fun {earlier event later before} split isRun => ?_,
    isShared, same⟩
  cases earlier with
  | nil =>
      obtain ⟨rfl, -⟩ := List.cons.inj split
      exact isRun.eq_start ▸ mayStart
  | cons first others =>
      have inLog : event ∈ log.map (.exchange index) := by
        rw [(List.cons.inj split).2]
        exact List.mem_append_right _ List.mem_cons_self
      obtain ⟨made, -, rfl⟩ := List.mem_map.mp inLog
      trivial

/-- An order that succeeds, with the name of the domain for its chain. -/
private def sampleOutcomes : OrderOutcomes where
  newOrder :=
    .ok ()
  authorization :=
    some (.ok ⟨.pending, some []⟩)
  setReady :=
    .ok ()
  pollReady :=
    .ok .ready
  finalize :=
    .ok "key".toList
  pollCertificate :=
    .ok sampleDomain.name

/-- A round that finds no certificate. -/
private def roundLog (now : Utc.DateTime) : List AcmeExchange :=
  [⟨.now, now⟩, ⟨.get sampleDomain.name, none⟩, ⟨.spawn sampleDomain, 1⟩]

/-- What an order of the domain does until its certificate is inserted. -/
private def orderLog (certificate : Certificate) : List AcmeExchange :=
  [⟨.order (.await .newOrder), ()⟩, ⟨.order (.await .authorization), ()⟩,
    ⟨.order (.insert sampleDomain.name ⟨[]⟩), ()⟩,
    ⟨.order (.await .setReady), ()⟩, ⟨.order (.await .pollReady), ()⟩,
    ⟨.order (.await .finalize), ()⟩, ⟨.order (.await .pollCertificate), ()⟩,
    ⟨.order (.remove sampleDomain.name), ()⟩,
    ⟨.insert sampleDomain.name certificate, ()⟩,
    ⟨.write ⟨sampleDomain.file "key".toList, Str.asBytes "key".toList⟩,
      .ok ()⟩,
    ⟨.write ⟨sampleDomain.file "pem".toList, sampleDomain.name.asBytes⟩,
      .ok ()⟩]

private theorem epoch_inRange : Utc.minUtc ≤ 0 ∧ 0 ≤ Utc.maxUtc := by
  decide

private def epoch : Utc.DateTime where
  nanos :=
    0
  inRange :=
    epoch_inRange

/-- A certificate that the sample is issued. -/
private theorem exists_parsed :
    ∃ certificate,
      parseCertificateAndPrivateKey textLibrary
          (sampleDomain.file "pem".toList) sampleDomain.name.asBytes
          (Str.asBytes "key".toList) = .ok certificate :=
  ⟨_, rfl⟩

private theorem ends_roundLog :
    Ends
      (AcmeTask.code textLibrary (fun _ => "") (some [sampleDomain])
        (.background 1))
      (roundLog epoch) () := by
  have inRange :
      epoch.nanos + (renewedBefore : Nat) ≤ Utc.maxUtc := by
    decide
  have isRound :
      Ends (acmeRound [sampleDomain]) (roundLog epoch) (some ()) := by
    rw [acmeRound, ends_request_bind_iff]
    refine ⟨epoch, _, rfl, ?_⟩
    rw [Utc.add, if_pos inRange]
    exact ⟨none, _, rfl, 1, [], rfl, rfl, rfl⟩
  exact ends_bind_iff.mpr ⟨roundLog epoch, [], some (), rfl, isRound, rfl, rfl⟩

private theorem ends_orderLog
    {certificate : Certificate}
    (isParsed :
      parseCertificateAndPrivateKey textLibrary
          (sampleDomain.file "pem".toList) sampleDomain.name.asBytes
          (Str.asBytes "key".toList) = .ok certificate) :
    Ends
      (AcmeTask.code textLibrary (fun _ => "") (some [sampleDomain])
        (.order sampleDomain sampleOutcomes))
      (orderLog certificate) () := by
  refine ends_bind_iff.mpr ⟨(orderLog certificate).take 8,
    (orderLog certificate).drop 8, _, rfl,
    ends_embed_iff.mpr ⟨_, _, rfl, rfl,
      ⟨(), _, rfl, (), _, rfl, (), _, rfl, (), _, rfl, (), _, rfl, (), _, rfl,
        (), _, rfl, (), _, rfl, rfl, rfl⟩⟩, ?_⟩
  simp only [id_eq, isParsed]
  have isSaved :
      Ends
        (retry (writeAcmeCertificate (fun _ => "") sampleDomain
          (Str.asBytes "key".toList) sampleDomain.name.asBytes) 5)
        [⟨⟨sampleDomain.file "key".toList, Str.asBytes "key".toList⟩, .ok ()⟩,
          ⟨⟨sampleDomain.file "pem".toList, sampleDomain.name.asBytes⟩, .ok ()⟩]
        (.ok ()) :=
    ⟨.ok (), _, rfl, .ok (), _, rfl, rfl, rfl⟩
  exact ends_request_bind_iff.mpr ⟨(), _, rfl,
    ends_bind_iff.mpr ⟨(orderLog certificate).drop 9, [], _, rfl,
      ends_embed_iff.mpr ⟨_, _, rfl, rfl, isSaved⟩, rfl, rfl⟩⟩

private def sampleManager : TlsManager where
  defaultCertificate := {
    key := ⟨[], ⟨[], []⟩⟩
    metadata := ⟨.replicate 32 0, .replicate 32 0, [], [], 0, 0⟩
  }
  certificates :=
    ∅
  wildcardCertificates :=
    []

private def sampleEvents (certificate : Certificate) : List AcmeEvent :=
  .start backgroundIndex (.background 1) ::
      (roundLog epoch).map (.exchange backgroundIndex) ++
    .start 1 (.order sampleDomain sampleOutcomes) ::
      (orderLog certificate).map (.exchange 1)

/-- A round finds that the domain has no certificate, and one is ordered. -/
private theorem run_sampleEvents :
    ∃ certificate finish,
      Run (AcmeStep textLibrary (fun _ => "") (some [sampleDomain]))
          (.initial (.begin epoch sampleManager ∅))
          (sampleEvents certificate) finish ∧
        finish.shared.manager.certificates.lookup sampleDomain.name =
          some certificate := by
  obtain ⟨certificate, isParsed⟩ := exists_parsed
  obtain ⟨middle, round, isShared, same⟩ :=
    @run_task textLibrary (fun _ => "") (some [sampleDomain])
      (.initial (.begin epoch sampleManager ∅)) backgroundIndex (.background 1)
      _ _ rfl rfl
      ends_roundLog
      (.cons .now (.cons (.get _) (.cons (.spawn rfl) .nil)))
  have mayStart :
      MayStart middle (.start 1 (.order sampleDomain sampleOutcomes)) := by
    refine ⟨by decide, ?_⟩
    rw [isShared]
    exact @Function.update_self Nat (fun _ => Option Domain) _ 1 _ fun _ => none
  obtain ⟨finish, order, isInserted, -⟩ :=
    @run_task textLibrary (fun _ => "") (some [sampleDomain]) middle 1 _ _ _
      (same 1 (by decide)) mayStart (ends_orderLog isParsed)
      (.cons (.order _) (.cons (.order _) (.cons (.order _) (.cons (.order _)
        (.cons (.order _) (.cons (.order _) (.cons (.order _)
          (.cons (.order _) (.cons (.insert _ _) (.cons (.write .written)
            (.cons (.write .written) .nil)))))))))))
  refine ⟨certificate, finish, round.append order, ?_⟩
  rw [isInserted]
  exact AList.lookup_insert _

/-- The certificate that the domain gets is the one that was ordered for it. -/
theorem certificates_of_run_sample :
    ∃ certificate finish index domain outcomes,
      Run (AcmeStep textLibrary (fun _ => "") (some [sampleDomain]))
          (.initial (.begin epoch sampleManager ∅))
          (sampleEvents certificate) finish ∧
        finish.shared.manager.certificates.lookup sampleDomain.name =
          some certificate ∧
        .exchange index ⟨.insert sampleDomain.name certificate, ()⟩ ∈
          sampleEvents certificate ∧
        domain.name = sampleDomain.name ∧
          Issued textLibrary domain outcomes certificate ∧
            SpawnedWhenDue
              (exchangesOf backgroundIndex (sampleEvents certificate)) domain
              index := by
  obtain ⟨certificate, finish, run, isFound⟩ := run_sampleEvents
  rcases (certificates_of_run run).2 _ certificate isFound with
    isOld | ⟨index, domain, outcomes, _, inserted, isName, _, isIssued, due⟩
  · cases isOld
  · exact ⟨certificate, finish, index, domain, outcomes, run, isFound, inserted,
      isName, isIssued, due⟩

/-- The configuration that names the domain. -/
private def sampleTls : TlsConfig where
  acme := some {
    domains := [sampleDomain.name]
    directoryUrl := []
  }

/-- One round and one task of the domain. -/
theorem orders_le_rounds_sample :
    ∃ certificate finish,
      Run (AcmeStep textLibrary (fun _ => "") (some [sampleDomain]))
          (.initial (.begin epoch sampleManager ∅))
          (sampleEvents certificate) finish ∧
        ({1} : Finset Nat).card ≤
          (exchangesOf backgroundIndex (sampleEvents certificate)).countP
            beginsRound := by
  obtain ⟨certificate, finish, run, -⟩ := run_sampleEvents
  refine ⟨certificate, finish, run, ?_⟩
  refine @orders_le_rounds _ _ _ _ _ _ _ sampleTls _ [sampleDomain]
    sampleDomain.name rfl rfl run {1} fun index member => ?_
  obtain rfl := Finset.mem_singleton.mp member
  exact ⟨sampleDomain, sampleOutcomes, rfl,
    List.mem_append_right _ List.mem_cons_self⟩

end Sample

end Pingoo.Tls
