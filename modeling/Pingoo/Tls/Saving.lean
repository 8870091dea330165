import Pingoo.Retry
import Pingoo.Tls.Restart

namespace Pingoo.Tls

/-!
# Saving certificates

A certificate is saved in two files, its chain and its private key, one after
the other.  A certificate that was ordered is saved key first, and the two
writes are tried again until both succeed; the default certificate is saved
chain first.
-/

open Interaction Program

/-- A call of `fs::write`. -/
structure FileWrite where
  file : OsStr
  contents : Bytes
  deriving Repr, DecidableEq

/-- Programs that write files. -/
abbrev Saving := Program FileWrite fun _ => Except String Unit

/-- The entry of a file that was written, after the one that was there. -/
def FolderEntry.written
    (contents : Bytes) : Option FolderEntry → FolderEntry
  | some (.other _ _) =>
      .other (.ok ()) (.ok contents)
  | _ =>
      .file (.ok contents)

/-- The folder after a file was written. -/
def Folder.write (folder : Folder) (asked : FileWrite) : Folder :=
  folder.insert asked.file
    (.written asked.contents (folder.lookup asked.file))

/-- A write takes full effect, or it fails and takes none. -/
inductive Writes
    (folder : Folder)
    (asked : FileWrite) : Except String Unit → Folder → Prop where
  | written :
      Writes folder asked (.ok ()) (folder.write asked)
  | failed (err : String) :
      Writes folder asked (.error err) folder

/--
A domain that a certificate was issued for.  Its name has no `/`, so its files
are files of the folder.
-/
structure Domain where
  name : Str
  noSlash : '/' ∉ name

/-- The file of a domain, `format!("{domain}.{extension}")`. -/
def Domain.file (domain : Domain) (extension : Str) : OsStr :=
  Str.asBytes (domain.name ++ '.' :: extension)

section Programs

variable
  (library : CertificateLibrary)
  (debugPath : OsStr → String)

/-- Write the private key and the chain of a domain. -/
def writeAcmeCertificate
    (domain : Domain)
    (privateKeyPem certChainPem : Bytes) : Saving (Except Error Unit) := do
  let privateKeyPath := domain.file "key".toList
  match ← request ⟨privateKeyPath, privateKeyPem⟩ with
  | .error err =>
      pure (.error (.unspecified
        s!"error writing private key to {debugPath privateKeyPath}: {err}"))
  | .ok () =>
      let certChainPath := domain.file "pem".toList
      match ← request ⟨certChainPath, certChainPem⟩ with
      | .error err =>
          pure (.error (.unspecified (
            "tls: error writing ACME certificate to " ++
            s!"{debugPath certChainPath}: {err}")))
      | .ok () =>
          pure (.ok ())

/-- The save at the end of an ACME order, of a certificate that is parsed. -/
def saveAcmeCertificate
    (domain : Domain)
    (privateKeyPem certChainPem : Bytes) : Saving (Except Error Unit) :=
  match parseCertificateAndPrivateKey library (domain.file "pem".toList)
      certChainPem privateKeyPem with
  | .error err =>
      pure (.error err)
  | .ok _ =>
      retry
        (writeAcmeCertificate debugPath domain privateKeyPem certChainPem) 5

/-- Write the two files of the default certificate. -/
def writeDefaultCertificate
    (certPem keyPem : Bytes) : Saving (Except Error Unit) := do
  match ← request ⟨defaultPem, certPem⟩ with
  | .error err =>
      pure (.error (.tls (
        "error writing default TLS certificate to " ++
        s!"{debugPath defaultPem}: {err}")))
  | .ok () =>
      match ← request ⟨keyFile defaultPem, keyPem⟩ with
      | .error err =>
          pure (.error (.tls (
            "error writing private key for default TLS certificate to " ++
            s!"{debugPath (keyFile defaultPem)}: {err}")))
      | .ok () =>
          pure (.ok ())

/-- A start makes the default certificate of this folder. -/
def Folder.lacksDefault (folder : Folder) : Bool :=
  match folder.metadata defaultPem with
  | .ok () => false
  | .error err => err.notFound

/--
The save of `load_or_create_default_certificate`, of a pair that was generated
and is parsed.  Where the certificate is there, or may be, nothing is written.
-/
def saveDefaultCertificate
    (folder : Folder)
    (certPem keyPem : Bytes) : Saving (Except Error Unit) :=
  if folder.lacksDefault then
    match parseCertificateAndPrivateKey library defaultPem certPem keyPem with
    | .error err =>
        pure (.error err)
    | .ok _ =>
        writeDefaultCertificate debugPath certPem keyPem
  else
    pure (.ok ())

/-- A certificate that is saved, with the key it belongs to. -/
inductive Save where
  | acme (domain : Domain) (privateKeyPem certChainPem : Bytes)
  | defaultCertificate (certPem keyPem : Bytes)

/-- What is written when a certificate is saved in a folder. -/
def Save.program (folder : Folder) : Save → Saving (Except Error Unit)
  | .acme domain privateKeyPem certChainPem =>
      saveAcmeCertificate library debugPath domain privateKeyPem certChainPem
  | .defaultCertificate certPem keyPem =>
      saveDefaultCertificate library debugPath folder certPem keyPem

end Programs

/-- A system whose writes take full effect or none. -/
def System.WritesWhole (system : System) : Prop :=
  ∀ name contents folder,
    Writes folder ⟨name, contents⟩ (system.write name contents folder).1
      (system.write name contents folder).2

theorem leaves_createDefaultCertificate
    {library : CertificateLibrary}
    {system : System}
    (writesWhole : system.WritesWhole)
    {certPem keyPem : Bytes}
    (generated : library.selfSigned [['*']] = .ok (certPem, keyPem))
    (folder : Folder) :
    Leaves Writes
      (match parseCertificateAndPrivateKey library defaultPem certPem
          keyPem with
        | .error err => pure (.error err)
        | .ok _ => writeDefaultCertificate system.debugPath certPem keyPem)
      folder (createDefaultCertificate library system folder).2 := by
  have generatedEq :
      generateSelfSignedCertificates library defaultPem [['*']] =
        (parseCertificateAndPrivateKey library defaultPem certPem keyPem >>=
          fun certificate => .ok (certificate, certPem, keyPem)) := by
    rw [generateSelfSignedCertificates, generated]
    rfl
  cases isParsed :
      parseCertificateAndPrivateKey library defaultPem certPem keyPem with
  | error err =>
      have isFailed :
          generateSelfSignedCertificates library defaultPem [['*']] =
            .error err := by
        rw [generatedEq, isParsed]
        rfl
      rw [createDefaultCertificate, isFailed]
      exact .stopped _ _
  | ok certificate =>
      have isMade :
          generateSelfSignedCertificates library defaultPem [['*']] =
            .ok (certificate, certPem, keyPem) := by
        rw [generatedEq, isParsed]
        rfl
      rw [createDefaultCertificate, isMade]
      simp only
      have certWrites := writesWhole defaultPem certPem folder
      cases certWritten : system.write defaultPem certPem folder with
      | mk certResult between =>
          rw [certWritten] at certWrites
          refine .answered certWrites ?_
          cases certResult with
          | error err =>
              exact .stopped _ _
          | ok =>
              have keyWrites :=
                writesWhole (keyFile defaultPem) keyPem between
              rw [keyFile] at keyWrites
              simp only
              cases keyWritten : system.write
                  (OsStr.setExtension defaultPem (Str.asBytes "key".toList))
                  keyPem between with
              | mk keyResult later =>
                  rw [keyWritten] at keyWrites
                  refine .answered keyWrites ?_
                  cases keyResult with
                  | error err =>
                      exact .stopped _ _
                  | ok =>
                      exact .stopped _ _

/--
A start that makes the default certificate leaves a folder behind that its save
leaves behind.
-/
theorem leaves_loadOrCreateDefaultCertificate
    {library : CertificateLibrary}
    {system : System}
    (writesWhole : system.WritesWhole)
    {certPem keyPem : Bytes}
    (generated : library.selfSigned [['*']] = .ok (certPem, keyPem))
    (folder : Folder) :
    Leaves Writes
      ((Save.defaultCertificate certPem keyPem).program library
        system.debugPath folder)
      folder
      (loadOrCreateDefaultCertificate library system folder).2 := by
  rw [loadOrCreateDefaultCertificate, Save.program, saveDefaultCertificate,
    Folder.lacksDefault]
  cases folder.metadata defaultPem with
  | ok =>
      exact .stopped _ _
  | error err =>
      cases notFound : err.notFound with
      | false =>
          simp only [notFound, Bool.false_eq_true, ite_false]
          exact .stopped _ _
      | true =>
          simp only [notFound, ite_true]
          exact leaves_createDefaultCertificate writesWhole generated folder

end Pingoo.Tls
