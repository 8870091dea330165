import Pingoo.Library.ProgramLogs
import Pingoo.Tls.AcmeOrders
import Pingoo.Tls.Saving

namespace Pingoo.Tls

/-!
# The ACME manager

A task of the TLS manager looks, in rounds, for the domains whose certificate is
missing or is about to expire, and starts a task of its own for each of them.
Such a task orders a certificate, puts it into the certificates that handshakes
are answered with, and saves it.  All of these tasks run beside each other and
beside the handshakes.
-/

open Interaction

/-- `30 * 24 * 3600` seconds. -/
def renewedBefore : Nat :=
  Duration.fromSecs (30 * 24 * 3600)

/-- What the tasks of the manager ask. -/
inductive AcmeQuery where
  | now
  | get (domain : Str)
  | spawn (domain : Domain)
  | order (asked : OrderQuery)
  | insert (domain : Str) (certificate : Certificate)
  | write (asked : FileWrite)

/-- The answers; a task that is spawned is given a number. -/
@[reducible] def AcmeQuery.Answer : AcmeQuery → Type
  | .now =>
      Utc.DateTime
  | .get _ =>
      Option Certificate
  | .spawn _ =>
      Nat
  | .order _ =>
      Unit
  | .insert _ _ =>
      Unit
  | .write _ =>
      Except String Unit

abbrev AcmeProgram := Program AcmeQuery AcmeQuery.Answer

/-- What a task of the manager asked, with the answer. -/
abbrev AcmeExchange := AnsweredQuery AcmeQuery AcmeQuery.Answer

/-- A certificate is ordered: there is none, or it expires before a time. -/
def isDue (in30Days : Int) : Option Certificate → Bool
  | some cert =>
      cert.metadata.notAfter < in30Days
  | none =>
      true

/-- The domains of a round that a certificate is ordered for. -/
def domainsToOrder (in30Days : Int) :
    List Domain → AcmeProgram (List Domain)
  | [] =>
      pure []
  | domain :: rest => do
      let cert ←
        (Program.request (AcmeQuery.get domain.name) :
          AcmeProgram (Option Certificate))
      let others ← domainsToOrder in30Days rest
      pure (if isDue in30Days cert then domain :: others else others)

/-- Start a task for each domain. -/
def spawnOrders : List Domain → AcmeProgram Unit
  | [] =>
      pure ()
  | domain :: rest => do
      let _ ← (Program.request (AcmeQuery.spawn domain) : AcmeProgram Nat)
      spawnOrders rest

/-- One round; `none` when it panics, as the date is out of range. -/
def acmeRound (domains : List Domain) : AcmeProgram (Option Unit) := do
  let now ← (Program.request AcmeQuery.now : AcmeProgram Utc.DateTime)
  match Utc.add now.nanos renewedBefore with
  | none => pure none
  | some in30Days => do
      let toOrder ← domainsToOrder in30Days domains
      spawnOrders toOrder
      pure (some ())

/-- The loop of the background task, for some rounds. -/
def acmeLoop (domains : List Domain) : Nat → AcmeProgram Unit
  | 0 =>
      pure ()
  | rounds + 1 => do
      match ← acmeRound domains with
      | none => pure ()
      | some () => acmeLoop domains rounds

/-- `TlsManager::start_acme_in_background`, with the domains of its config. -/
def startAcmeInBackground
    (acme : Option (List Domain))
    (rounds : Nat) : AcmeProgram Unit :=
  match acme with
  | none => pure ()
  | some domains =>
      if domains = [] then pure () else acmeLoop domains rounds

section Tasks

variable
  (library : CertificateLibrary)
  (debugPath : OsStr → String)

/-- The task of a domain: order, parse, insert, save. -/
def acmeOrder
    (domain : Domain)
    (outcomes : OrderOutcomes) : AcmeProgram Unit := do
  let ordered ←
    ((orderCertificate outcomes domain.name).run.embed AcmeQuery.order id :
      AcmeProgram (Except Error (Str × Str)))
  match ordered with
  | .error _ => pure ()
  | .ok (privateKeyPem, certChainPem) =>
      match parseCertificateAndPrivateKey library (domain.file "pem".toList)
          certChainPem.asBytes privateKeyPem.asBytes with
      | .error _ => pure ()
      | .ok certificate => do
          (Program.request (AcmeQuery.insert domain.name certificate) :
            AcmeProgram Unit)
          let _ ←
            ((retry (writeAcmeCertificate debugPath domain
              privateKeyPem.asBytes certChainPem.asBytes) 5).embed
              AcmeQuery.write id : AcmeProgram (Except Error Unit))
          pure ()

/-- A task of the manager. -/
inductive AcmeTask where
  | background (rounds : Nat)
  | order (domain : Domain) (outcomes : OrderOutcomes)

/-- The program of a task. -/
def AcmeTask.code (acme : Option (List Domain)) : AcmeTask → AcmeProgram Unit
  | .background rounds =>
      startAcmeInBackground acme rounds
  | .order domain outcomes =>
      acmeOrder library debugPath domain outcomes

end Tasks

/-- What the tasks share, and the domains of the tasks that were spawned. -/
structure AcmeState where
  now : Utc.DateTime
  manager : TlsManager
  challenges : ChallengesStore
  folder : Folder
  spawned : Nat → Option Domain

namespace AcmeState

/-- Put a certificate into the certificates of the manager. -/
def insert
    (state : AcmeState)
    (domain : Str)
    (certificate : Certificate) : AcmeState :=
  { state with
    manager :=
      { state.manager with
        certificates :=
          state.manager.certificates.insert domain certificate } }

/-- The answers to the tasks, and what they do to what is shared. -/
inductive Answers (before : AcmeState) :
    (asked : AcmeQuery) → asked.Answer → AcmeState → Prop
  | now :
      Answers before .now before.now before
  | get (domain : Str) :
      Answers before (.get domain) (before.manager.certificates.lookup domain)
        before
  | spawn
      {domain : Domain}
      {index : Nat}
      (isFresh : before.spawned index = none) :
      Answers before (.spawn domain) index
        { before with
          spawned := Function.update before.spawned index (some domain) }
  | order (asked : OrderQuery) :
      Answers before (.order asked) ()
        { before with
          challenges := written OrderQuery.writes before.challenges asked }
  | insert (domain : Str) (certificate : Certificate) :
      Answers before (.insert domain certificate) ()
        (before.insert domain certificate)
  | write
      {asked : FileWrite}
      {reply : Except String Unit}
      {folder : Folder}
      (writes : Writes before.folder asked reply folder) :
      Answers before (.write asked) reply { before with folder := folder }

/-- The clock may be read, and set, at any time. -/
def Changes (before after : AcmeState) : Prop :=
  ∃ now, after = { before with now := now }

end AcmeState

/-- The TLS manager as the object that its tasks share. -/
def acmeManager : SharedObject AcmeState AcmeQuery AcmeQuery.Answer where
  changes :=
    AcmeState.Changes
  answers :=
    AcmeState.Answers

abbrev AcmeEvent := PoolEvent AcmeQuery AcmeQuery.Answer AcmeTask

abbrev AcmePool := Pool AcmeState AcmeQuery AcmeQuery.Answer Unit

/-- The number of the background task. -/
def backgroundIndex : Nat :=
  0

/-- The background task is started once, and tasks of domains are spawned. -/
def MayStart (pool : AcmePool) : AcmeEvent → Prop
  | .start index (.background _) =>
      index = backgroundIndex
  | .start index (.order domain _) =>
      index ≠ backgroundIndex ∧ pool.shared.spawned index = some domain
  | _ =>
      True

/-- One step of the tasks of the manager. -/
def AcmeStep
    (library : CertificateLibrary)
    (debugPath : OsStr → String)
    (acme : Option (List Domain)) :
    AcmePool → AcmeEvent → AcmePool → Prop :=
  Transition.Guarded MayStart
    (Pool.Step acmeManager (AcmeTask.code library debugPath acme))

end Pingoo.Tls
