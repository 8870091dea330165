import Pingoo.Tls.DefaultCertificate

namespace Pingoo.Tls

/-!
# Folders that a start succeeds on

Where the operating system does nothing wrong, the folder alone decides whether
a start succeeds: each certificate that is loaded must have its key, and the
default certificate must be there or be made.
-/

open Fallible

/-- A start during which the operating system reports no error. -/
structure System.Faultless (system : System) (folder : Folder) : Prop where
  prepare : system.prepare = .ok ()
  lists : ∃ names, system.Lists folder names
  write :
    ∀ name contents folder, (system.write name contents folder).1 = .ok ()
  acme : ∀ folder, (system.acme folder).1 = .ok ()

/-- `TlsManager::new` succeeds, as far as that is up to the folder. -/
def Starts (library : CertificateLibrary) (folder : Folder) : Prop :=
  ∀ system : System, system.Faultless folder →
    ∃ manager later,
      TlsManager.new library system folder = (.ok manager, later)

/-- The key file of a certificate file. -/
def keyFile (certFile : OsStr) : OsStr :=
  OsStr.setExtension certFile (Str.asBytes "key".toList)

/-- A start loads the certificate of this file. -/
def Folder.IsLoaded (folder : Folder) (certFile : OsStr) : Prop :=
  folder.hasCertificate certFile = true ∨
    certFile = defaultPem ∧ folder.metadata defaultPem = .ok ()

/--
A chain and a key are accepted as those of a file: they are parsed, they fit
together, and the default certificate is one for `*`.
-/
def IsAccepted
    (library : CertificateLibrary)
    (certFile : OsStr)
    (certPem keyPem : Bytes) : Prop :=
  ∃ cert,
    parseCertificateAndPrivateKey library certFile certPem keyPem =
        .ok cert ∧
      (certFile = defaultPem → checkDefaultCertificate cert = .ok cert)

/-- A certificate file and its key file are there, and are accepted. -/
def Folder.HasPair
    (library : CertificateLibrary)
    (folder : Folder)
    (certFile : OsStr) : Prop :=
  ∃ certPem keyPem,
    folder.read certFile = .ok certPem ∧
      folder.read (keyFile certFile) = .ok keyPem ∧
        IsAccepted library certFile certPem keyPem

/-- A default certificate is made when one is asked for. -/
def Generates (library : CertificateLibrary) : Prop :=
  ∃ certPem keyPem,
    library.selfSigned [['*']] = .ok (certPem, keyPem) ∧
      IsAccepted library defaultPem certPem keyPem

/-- The default certificate is not there, and can be made. -/
def Folder.MakesDefault
    (library : CertificateLibrary)
    (folder : Folder) : Prop :=
  (∃ err, folder.metadata defaultPem = .error err ∧ err.notFound = true) ∧
    Generates library

/--
A folder that a start can load: each certificate file has its key, and the
default certificate is among them or can be made.
-/
structure Loadable
    (library : CertificateLibrary)
    (folder : Folder) : Prop where
  pairs : ∀ certFile, folder.IsLoaded certFile → folder.HasPair library certFile
  defaultCertificate :
    folder.metadata defaultPem = .ok () ∨ folder.MakesDefault library

section Starting

variable
  {library : CertificateLibrary}
  {system : System}
  {folder : Folder}

theorem loadCertificate_eq_ok_iff
    {certFile : OsStr}
    {cert : Certificate} :
    loadCertificate library system folder certFile = .ok cert ↔
      ∃ certPem keyPem,
        folder.read certFile = .ok certPem ∧
          folder.read (keyFile certFile) = .ok keyPem ∧
            parseCertificateAndPrivateKey library certFile certPem keyPem =
              .ok cert := by
  simp only [loadCertificate, bind_eq_ok_iff, mapError_eq_ok_iff, keyFile]
  constructor
  · rintro ⟨certPem, isRead, keyPem, keyRead, isParsed⟩
    exact ⟨certPem, keyPem, isRead, keyRead, isParsed⟩
  · rintro ⟨certPem, keyPem, isRead, keyRead, isParsed⟩
    exact ⟨certPem, isRead, keyPem, keyRead, isParsed⟩

/-- A pair is one that is loaded, and checked if it is the default one. -/
theorem hasPair_iff (system : System) {certFile : OsStr} :
    folder.HasPair library certFile ↔
      ∃ cert,
        loadCertificate library system folder certFile = .ok cert ∧
          (certFile = defaultPem →
            checkDefaultCertificate cert = .ok cert) := by
  simp only [loadCertificate_eq_ok_iff]
  constructor
  · rintro ⟨certPem, keyPem, isRead, keyRead, cert, isParsed, checked⟩
    exact ⟨cert, ⟨certPem, keyPem, isRead, keyRead, isParsed⟩, checked⟩
  · rintro ⟨cert, ⟨certPem, keyPem, isRead, keyRead, isParsed⟩, checked⟩
    exact ⟨certPem, keyPem, isRead, keyRead, cert, isParsed, checked⟩

theorem exists_loadsAs_iff {files : List OsStr} :
    (∃ certs, LoadsAs library system folder files certs) ↔
      ∀ file ∈ files,
        ∃ cert, loadCertificate library system folder file = .ok cert := by
  induction files with
  | nil =>
      simp
  | cons file rest inductionHypothesis =>
      rw [List.forall_mem_cons, ← inductionHypothesis]
      constructor
      · rintro ⟨certs, loads⟩
        cases loads with
        | cons isLoaded restLoads =>
            exact ⟨⟨_, isLoaded⟩, _, restLoads⟩
      · rintro ⟨⟨cert, isLoaded⟩, certs, restLoads⟩
        exact ⟨cert :: certs, .cons isLoaded restLoads⟩

/-- The certificates are loaded when each file that is listed can be. -/
theorem exists_loadCertificates_iff
    (faultless : system.Faultless folder) :
    (∃ loaded, loadCertificates library system folder = .ok loaded) ↔
      ∀ certFile, folder.hasCertificate certFile = true →
        ∃ cert, loadCertificate library system folder certFile = .ok cert := by
  obtain ⟨names, lists⟩ := faultless.lists
  have isListed (certFile : OsStr) :
      certFile ∈ names.filter folder.hasCertificate ↔
        folder.hasCertificate certFile = true := by
    rw [List.mem_filter, lists.complete.mem_iff, and_iff_right_iff_imp]
    exact mem_of_hasCertificate
  simp only [loadCertificates, bind_eq_ok_iff, mapError_eq_ok_iff,
    lists.readDir, Except.ok.injEq, exists_eq_left',
    certificateFiles_map_dirEntry, loadFiles_eq_ok_iff]
  simp only [← isListed, ← exists_loadsAs_iff]
  constructor
  · rintro ⟨loaded, certs, loads, -⟩
    exact ⟨certs, loads⟩
  · rintro ⟨certs, loads⟩
    exact ⟨_, certs, loads, rfl⟩

theorem generates_iff :
    Generates library ↔
      ∃ cert certPem keyPem,
        generateSelfSignedCertificates library defaultPem [['*']] =
            .ok (cert, certPem, keyPem) ∧
          checkDefaultCertificate cert = .ok cert := by
  simp only [generateSelfSignedCertificates, bind_eq_ok_iff]
  constructor
  · rintro ⟨certPem, keyPem, isSigned, cert, isParsed, checked⟩
    exact ⟨cert, certPem, keyPem, ⟨_, isSigned, cert, isParsed, rfl⟩,
      checked rfl⟩
  · rintro ⟨cert, certPem, keyPem, ⟨_, isSigned, parsed, isParsed, same⟩,
      checked⟩
    cases same
    exact ⟨_, _, isSigned, cert, isParsed, fun _ => checked⟩

/-- A write that does not fail leaves some folder behind. -/
theorem System.Faultless.write_eq
    (faultless : system.Faultless folder)
    (name : OsStr)
    (contents : Bytes)
    (before : Folder) :
    ∃ later, system.write name contents before = (.ok (), later) :=
  ⟨_, Prod.ext (faultless.write name contents before) rfl⟩

/-- A default certificate is made where writing does not fail. -/
theorem exists_createDefaultCertificate_iff
    (faultless : system.Faultless folder) :
    (∃ cert,
      (createDefaultCertificate library system folder).1 = .ok cert ∧
        checkDefaultCertificate cert = .ok cert) ↔ Generates library := by
  rw [generates_iff, createDefaultCertificate]
  cases generateSelfSignedCertificates library defaultPem [['*']] with
  | error err =>
      simp
  | ok generated =>
      obtain ⟨cert, certPem, keyPem⟩ := generated
      obtain ⟨between, certWritten⟩ :=
        faultless.write_eq defaultPem certPem folder
      obtain ⟨later, keyWritten⟩ :=
        faultless.write_eq (keyFile defaultPem) keyPem between
      rw [keyFile] at keyWritten
      simp only [certWritten, keyWritten]
      simp

/-- The default certificate is loaded or made. -/
theorem exists_loadOrCreate_iff
    (faultless : system.Faultless folder) :
    (∃ cert,
      (loadOrCreateDefaultCertificate library system folder).1 = .ok cert) ↔
      folder.metadata defaultPem = .ok () ∧
          folder.HasPair library defaultPem ∨
        folder.MakesDefault library := by
  have isChecked (found : Except Error Certificate) :
      (∃ cert, (found >>= checkDefaultCertificate) = .ok cert) ↔
        ∃ cert, found = .ok cert ∧
          checkDefaultCertificate cert = .ok cert := by
    simp only [bind_eq_ok_iff]
    constructor
    · rintro ⟨checked, cert, isFound, isOk⟩
      obtain ⟨rfl, -⟩ := checkDefaultCertificate_eq_ok isOk
      exact ⟨checked, isFound, isOk⟩
    · rintro ⟨cert, isFound, isOk⟩
      exact ⟨cert, cert, isFound, isOk⟩
  rw [Folder.MakesDefault, loadOrCreateDefaultCertificate]
  simp only [isChecked]
  cases metadata : folder.metadata defaultPem with
  | ok =>
      simp [hasPair_iff system]
  | error err =>
      cases notFound : err.notFound with
      | false =>
          simp [notFound]
      | true =>
          simp [notFound, ← exists_createDefaultCertificate_iff faultless]

/-- A start succeeds when both of its parts do. -/
theorem exists_new_iff
    (faultless : system.Faultless folder) :
    (∃ manager later,
      TlsManager.new library system folder = (.ok manager, later)) ↔
      (∃ loaded, loadCertificates library system folder = .ok loaded) ∧
        ∃ cert,
          (loadOrCreateDefaultCertificate library system folder).1 =
            .ok cert := by
  have prepared :
      (system.prepare >>= fun () =>
        loadCertificates library system folder) =
          loadCertificates library system folder := by
    rw [faultless.prepare]
    rfl
  rw [TlsManager.new, prepared]
  cases loadCertificates library system folder with
  | error err =>
      simp
  | ok loaded =>
      cases loadOrCreateDefaultCertificate library system folder with
      | mk result between =>
          cases result with
          | error err =>
              simp
          | ok cert =>
              obtain ⟨later, acme⟩ : ∃ later,
                  system.acme between = (.ok (), later) :=
                ⟨_, Prod.ext (faultless.acme between) rfl⟩
              simp [acme]

/-- A regular file has metadata. -/
theorem metadata_of_hasCertificate
    {certFile : OsStr}
    (isListed : folder.hasCertificate certFile = true) :
    folder.metadata certFile = .ok () := by
  rw [Folder.hasCertificate, Bool.and_eq_true,
    Option.any_eq_true] at isListed
  obtain ⟨⟨entry, isEntry, isFile⟩, -⟩ := isListed
  rw [Folder.metadata, isEntry]
  cases entry with
  | file contents =>
      rfl
  | other metadata contents =>
      cases isFile

/-- A start succeeds exactly on a folder that is loadable. -/
theorem exists_new_iff_loadable
    (faultless : system.Faultless folder) :
    (∃ manager later,
      TlsManager.new library system folder = (.ok manager, later)) ↔
      Loadable library folder := by
  rw [exists_new_iff faultless, exists_loadCertificates_iff faultless,
    exists_loadOrCreate_iff faultless]
  constructor
  · rintro ⟨loads, isDefault⟩
    have defaultPair
        (isThere : folder.metadata defaultPem = .ok ()) :
        folder.HasPair library defaultPem := by
      rcases isDefault with ⟨-, hasPair⟩ | ⟨⟨err, isMissing, -⟩, -⟩
      · exact hasPair
      · rw [isThere] at isMissing
        cases isMissing
    refine ⟨?_, isDefault.imp_left And.left⟩
    rintro certFile (isListed | ⟨rfl, isThere⟩)
    · by_cases isDefaultPem : certFile = defaultPem
      · subst isDefaultPem
        exact defaultPair (metadata_of_hasCertificate isListed)
      · obtain ⟨cert, isLoaded⟩ := loads certFile isListed
        exact (hasPair_iff system).mpr
          ⟨cert, isLoaded, fun same => absurd same isDefaultPem⟩
    · exact defaultPair isThere
  · rintro ⟨pairs, isDefault⟩
    refine ⟨fun certFile isListed => ?_, ?_⟩
    · obtain ⟨cert, isLoaded, -⟩ :=
        (hasPair_iff system).mp (pairs certFile (.inl isListed))
      exact ⟨cert, isLoaded⟩
    · rcases isDefault with isThere | isMade
      · exact .inl ⟨isThere, pairs defaultPem (.inr ⟨rfl, isThere⟩)⟩
      · exact .inr isMade

/-- The operating system of the samples does nothing wrong. -/
theorem faultless_sampleSystem (folder : Folder) :
    (sampleSystem folder.keys).Faultless folder where
  prepare :=
    rfl
  lists :=
    ⟨folder.keys, .refl _, rfl⟩
  write _ _ _ :=
    rfl
  acme _ :=
    rfl

/-- The folder decides whether a start succeeds. -/
theorem starts_iff_loadable :
    Starts library folder ↔ Loadable library folder := by
  constructor
  · intro starts
    have faultless := faultless_sampleSystem folder
    exact (exists_new_iff_loadable faultless).mp (starts _ faultless)
  · intro loadable system faultless
    exact (exists_new_iff_loadable faultless).mpr loadable

end Starting

end Pingoo.Tls
