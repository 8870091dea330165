import Pingoo.Library.FirstMatch
import Pingoo.Tls.Selection

namespace Pingoo.Tls

/-!
# The default certificate after a restart

The first start writes the default certificate to `default.pem`.  The next start
finds that file among the others and loads it like them, with its wildcard `*`.
It then takes the place of the certificates that are listed after it.
-/

open Fallible FirstMatch

/-- What listing a folder gives for one of its names. -/
def Folder.dirEntry (folder : Folder) (name : OsStr) : DirEntry where
  fileName :=
    name
  isFile :=
    .ok ((folder.lookup name).any FolderEntry.isFile)

/-- The folder is listed completely, its names in this order. -/
structure System.Lists
    (system : System)
    (folder : Folder)
    (names : List OsStr) : Prop where
  complete : names.Perm folder.keys
  readDir :
    system.readDir folder =
      .ok (names.map fun name => .ok (folder.dirEntry name))

/-- A regular file that is taken for a certificate. -/
def Folder.hasCertificate (folder : Folder) (name : OsStr) : Bool :=
  (folder.lookup name).any FolderEntry.isFile && isCertificateFile name

/-- A certificate of the folder other than the one of `default.pem`. -/
structure IsReal
    (library : CertificateLibrary)
    (system : System)
    (folder : Folder)
    (name : OsStr)
    (cert : Certificate) : Prop where
  notDefault : name ≠ defaultPem
  listed : folder.hasCertificate name = true
  loads : loadCertificate library system folder name = .ok cert

/-- A certificate has a name equal to the SNI or a wildcard that matches it. -/
def Certificate.Answers
    (library : CertificateLibrary)
    (cert : Certificate)
    (sni : Str) : Prop :=
  sni ∈ cert.metadata.hostnames ∨ cert.anyMatch library sni = true

/--
The default certificate is served for a server name only if no certificate of
another file answers it.
-/
def DefaultNeverShadows
    (library : CertificateLibrary)
    (system : System)
    (folder : Folder)
    (manager : TlsManager)
    (serverName : Option Str) : Prop :=
  (∃ key, manager.resolve library serverName = some key ∧
      key.file = defaultPem) →
    ∀ name cert, IsReal library system folder name cert →
      ¬ cert.Answers library (serverName.getD [])

/--
When the default certificate takes nobody's place: `default.pem` is not among
the files that are loaded, or a certificate lists the name literally, or no
wildcard of another certificate matches it, or one that does is listed before
`default.pem`.
-/
def DefaultComesLast
    (library : CertificateLibrary)
    (system : System)
    (folder : Folder)
    (names : List OsStr)
    (sni : Str) : Prop :=
  folder.hasCertificate defaultPem = false ∨
    (∃ name cert, IsReal library system folder name cert ∧
      sni ∈ cert.metadata.hostnames) ∨
    (∀ name cert, IsReal library system folder name cert →
      cert.anyMatch library sni = false) ∨
    ∃ name cert, IsReal library system folder name cert ∧
      cert.anyMatch library sni = true ∧ Before name defaultPem names

variable
  {library : CertificateLibrary}
  {system : System}
  {folder : Folder}

/-- A complete listing gives the certificates in its order. -/
theorem certificateFiles_map_dirEntry (names : List OsStr) :
    certificateFiles system (names.map fun name => .ok (folder.dirEntry name)) =
      .ok (names.filter folder.hasCertificate) := by
  induction names with
  | nil =>
      rfl
  | cons name rest inductionHypothesis =>
      rw [List.map_cons, certificateFiles, inductionHypothesis,
        List.filter_cons]
      by_cases taken : folder.hasCertificate name = true
      · rw [if_pos taken]
        exact if_pos taken
      · rw [if_neg taken]
        exact if_neg taken

theorem isParsed_of_loadCertificate
    {name : OsStr}
    {cert : Certificate}
    (isLoaded : loadCertificate library system folder name = .ok cert) :
    cert.IsParsed library := by
  simp only [loadCertificate, bind_eq_ok_iff] at isLoaded
  obtain ⟨certPem, -, keyPem, -, isParsed⟩ := isLoaded
  exact ⟨name, certPem, keyPem, isParsed⟩

/-- What the default certificate of a start is. -/
structure IsDefault
    (library : CertificateLibrary)
    (system : System)
    (folder : Folder)
    (cert : Certificate) : Prop where
  file_eq : cert.key.file = defaultPem
  isParsed : cert.IsParsed library
  hostnames_eq : cert.metadata.hostnames = []
  exists_matcher :
    ∃ matcher,
      cert.metadata.wildcardMatchers = [matcher] ∧
        matcher.pattern = Str.asBytes ['*']
  loads :
    folder.hasCertificate defaultPem = true →
      loadCertificate library system folder defaultPem = .ok cert

/-- A certificate that is created is read back from its own PEM files. -/
theorem createDefaultCertificate_eq_ok
    {cert : Certificate}
    {later : Folder}
    (created :
      createDefaultCertificate library system folder = (.ok cert, later)) :
    cert.key.file = defaultPem ∧ cert.IsParsed library := by
  rw [createDefaultCertificate] at created
  split at created
  · cases created
  · next certificate certPem keyPem generated =>
      split at created
      · cases created
      · simp only at created
        split at created
        · cases created
        · simp only [Prod.mk.injEq, Except.ok.injEq] at created
          obtain ⟨rfl, -⟩ := created
          obtain ⟨pems, -, isParsed⟩ := bind_eq_ok_iff.mp generated
          obtain ⟨parsed, parsedOk, same⟩ := bind_eq_ok_iff.mp isParsed
          cases same
          exact ⟨file_parseCertificateAndPrivateKey parsedOk,
            _, _, _, parsedOk⟩

/-- The default certificate is loaded from `default.pem`, or made for it. -/
theorem isDefault_of_loadOrCreate
    {cert : Certificate}
    {later : Folder}
    (isOk :
      loadOrCreateDefaultCertificate library system folder =
        (.ok cert, later)) :
    IsDefault library system folder cert := by
  simp only [loadOrCreateDefaultCertificate, Prod.mk.injEq] at isOk
  obtain ⟨checked, -⟩ := isOk
  obtain ⟨found, isFound, checked⟩ := bind_eq_ok_iff.mp checked
  obtain ⟨rfl, noHostname, oneMatcher⟩ := checkDefaultCertificate_eq_ok checked
  split at isFound
  · exact {
      file_eq := file_loadCertificate isFound
      isParsed := isParsed_of_loadCertificate isFound
      hostnames_eq := noHostname
      exists_matcher := oneMatcher
      loads := fun _ => isFound
    }
  · next err noMetadata =>
      have notListed : folder.hasCertificate defaultPem ≠ true := by
        intro listed
        rw [Folder.hasCertificate, Bool.and_eq_true] at listed
        cases found : folder.lookup defaultPem with
        | none =>
            simp [found] at listed
        | some entry =>
            cases entry with
            | file contents =>
                simp [Folder.metadata, found, FolderEntry.metadata]
                  at noMetadata
            | other metadata contents =>
                simp [found, FolderEntry.isFile] at listed
      split at isFound
      · obtain ⟨fileEq, isParsed⟩ :=
          createDefaultCertificate_eq_ok (Prod.ext isFound rfl)
        exact {
          file_eq := fileEq
          isParsed := isParsed
          hostnames_eq := noHostname
          exists_matcher := oneMatcher
          loads := fun listed => (notListed listed).elim
        }
      · cases isFound

/-- The default certificate matches every name. -/
theorem IsDefault.anyMatch
    (star : StarMatchesAll library)
    {cert : Certificate}
    (isDefault : IsDefault library system folder cert)
    (sni : Str) :
    cert.anyMatch library sni = true := by
  obtain ⟨first, chain, leaf, -, -, -, matchersEq⟩ := isDefault.isParsed.names
  obtain ⟨matcher, oneMatcher, patternEq⟩ := isDefault.exists_matcher
  have isWildcard : matcher ∈
      (leaf.subjectAlternativeNames.filter fun san =>
        san.contains ['*']).map wildcardOf := by
    rw [← matchersEq, oneMatcher]
    exact List.mem_singleton_self matcher
  obtain ⟨hostname, -, rfl⟩ := List.mem_map.mp isWildcard
  have isStar : hostname = ['*'] := Str.asBytes_injective patternEq
  rw [Certificate.anyMatch, oneMatcher, isStar, List.any_cons, star,
    Bool.true_or]

/-- What a start reads: the certificates of the folder and the default one. -/
structure Built
    (library : CertificateLibrary)
    (system : System)
    (folder : Folder)
    (names : List OsStr)
    (certs : List Certificate)
    (defaultCert : Certificate) : Prop where
  distinct : names.Nodup
  mem_names : ∀ name, name ∈ names ↔ name ∈ folder
  loads :
    LoadsAs library system folder (names.filter folder.hasCertificate) certs
  isDefault : IsDefault library system folder defaultCert

/-- A start that succeeds has read the certificates that the folder lists. -/
theorem built_of_new
    {names : List OsStr}
    (lists : system.Lists folder names)
    {manager : TlsManager}
    {later : Folder}
    (isNew : TlsManager.new library system folder = (.ok manager, later)) :
    ∃ certs,
      Built library system folder names certs manager.defaultCertificate ∧
        manager = .ofCertificates manager.defaultCertificate
          (certs.foldl Certificates.index .empty) := by
  rw [TlsManager.new] at isNew
  split at isNew
  · cases isNew
  · next loaded isLoaded =>
      obtain ⟨-, -, isLoaded⟩ := bind_eq_ok_iff.mp isLoaded
      simp only [loadCertificates, bind_eq_ok_iff, mapError_eq_ok_iff,
        lists.readDir, Except.ok.injEq, exists_eq_left',
        certificateFiles_map_dirEntry, loadFiles_eq_ok_iff] at isLoaded
      split at isNew
      · cases isNew
      · next defaultCertificate afterDefault isOk =>
          split at isNew
          · cases isNew
          · obtain ⟨certs, loads, rfl⟩ := isLoaded
            simp only [Prod.mk.injEq, Except.ok.injEq] at isNew
            obtain ⟨rfl, -⟩ := isNew
            refine ⟨certs, ?_, rfl⟩
            exact {
              distinct := lists.complete.nodup_iff.mpr folder.nodupKeys
              mem_names := fun name => lists.complete.mem_iff
              loads := loads
              isDefault := isDefault_of_loadOrCreate isOk
            }

/-- A file with a certificate is in the folder. -/
theorem mem_of_hasCertificate
    {name : OsStr}
    (listed : folder.hasCertificate name = true) :
    name ∈ folder := by
  rw [← AList.lookup_isSome]
  rw [Folder.hasCertificate, Bool.and_eq_true] at listed
  cases found : folder.lookup name with
  | none =>
      simp [found] at listed
  | some entry =>
      rfl

namespace Built

variable
  {names : List OsStr}
  {certs : List Certificate}
  {defaultCert : Certificate}

/-- The certificates are those of the listed files. -/
theorem mem_certs_iff
    (built : Built library system folder names certs defaultCert)
    {cert : Certificate} :
    cert ∈ certs ↔
      folder.hasCertificate cert.key.file = true ∧
        loadCertificate library system folder cert.key.file = .ok cert := by
  rw [built.loads.mem_iff]
  constructor
  · rintro ⟨file, isListed, isLoaded⟩
    rw [file_loadCertificate isLoaded]
    exact ⟨(List.mem_filter.mp isListed).2, isLoaded⟩
  · rintro ⟨listed, isLoaded⟩
    have isListed :=
      (built.mem_names cert.key.file).mpr (mem_of_hasCertificate listed)
    exact ⟨cert.key.file, List.mem_filter.mpr ⟨isListed, listed⟩, isLoaded⟩

/-- The real certificates are those that were loaded from other files. -/
theorem isReal_iff
    (built : Built library system folder names certs defaultCert)
    {name : OsStr}
    {cert : Certificate} :
    IsReal library system folder name cert ↔
      cert ∈ certs ∧ cert.key.file = name ∧ name ≠ defaultPem := by
  rw [built.mem_certs_iff]
  constructor
  · intro isReal
    have fileEq := file_loadCertificate isReal.loads
    subst fileEq
    exact ⟨⟨isReal.listed, isReal.loads⟩, rfl, isReal.notDefault⟩
  · rintro ⟨⟨listed, loads⟩, rfl, notDefault⟩
    exact ⟨notDefault, listed, loads⟩

/-- The default certificate is loaded with the others if it is listed. -/
theorem default_mem
    (built : Built library system folder names certs defaultCert)
    (listed : folder.hasCertificate defaultPem = true) :
    defaultCert ∈ certs := by
  rw [built.mem_certs_iff, built.isDefault.file_eq]
  exact ⟨listed, built.isDefault.loads listed⟩

/-- A certificate that was loaded from `default.pem` is the default one. -/
theorem eq_default_of_mem
    (built : Built library system folder names certs defaultCert)
    {cert : Certificate}
    (member : cert ∈ certs)
    (fileEq : cert.key.file = defaultPem) :
    cert = defaultCert := by
  obtain ⟨listed, isLoaded⟩ := built.mem_certs_iff.mp member
  rw [fileEq] at listed isLoaded
  have loadsDefault := built.isDefault.loads listed
  rw [isLoaded, Except.ok.injEq] at loadsDefault
  exact loadsDefault

/-- The order of two listed files is that of their certificates. -/
theorem before_iff
    (built : Built library system folder names certs defaultCert)
    {first second : Certificate}
    (firstMember : first ∈ certs)
    (secondMember : second ∈ certs) :
    Before first.key.file second.key.file names ↔
      Before first.key.file second.key.file
        (certs.map fun cert => cert.key.file) := by
  rw [built.loads.map_file]
  constructor
  · intro before
    exact before.filter (built.mem_certs_iff.mp firstMember).1
      (built.mem_certs_iff.mp secondMember).1
  · intro before
    exact before.trans List.filter_sublist

/-- A name that a certificate lists is not left to the default certificate. -/
theorem file_ne_of_named
    (built : Built library system folder names certs defaultCert)
    {sni : Str}
    (named : ∃ cert ∈ certs, sni ∈ cert.metadata.hostnames) :
    ((selected library certs sni).getD defaultCert).key.file ≠ defaultPem := by
  obtain ⟨cert, isSelected, lists⟩ := selected_of_named named
  rw [isSelected, Option.getD_some]
  intro fileEq
  rw [built.eq_default_of_mem (mem_of_selected isSelected) fileEq,
    built.isDefault.hostnames_eq] at lists
  exact List.not_mem_nil lists

/-- Only real certificates list names. -/
theorem not_named
    (built : Built library system folder names certs defaultCert)
    {sni : Str}
    (noneNamed :
      ¬ ∃ name cert, IsReal library system folder name cert ∧
        sni ∈ cert.metadata.hostnames)
    (cert : Certificate)
    (member : cert ∈ certs) :
    sni ∉ cert.metadata.hostnames := by
  intro lists
  by_cases fileEq : cert.key.file = defaultPem
  · rw [built.eq_default_of_mem member fileEq,
      built.isDefault.hostnames_eq] at lists
    exact List.not_mem_nil lists
  · exact noneNamed ⟨_, cert,
      built.isReal_iff.mpr ⟨member, rfl, fileEq⟩, lists⟩

/-- The default certificate is served only where it comes last. -/
theorem defaultComesLast
    (star : StarMatchesAll library)
    (built : Built library system folder names certs defaultCert)
    {sni : Str}
    (neverShadows :
      ((selected library certs sni).getD defaultCert).key.file = defaultPem →
        ∀ name cert, IsReal library system folder name cert →
          ¬ cert.Answers library sni) :
    DefaultComesLast library system folder names sni := by
  cases listed : folder.hasCertificate defaultPem with
  | false =>
      exact Or.inl listed
  | true =>
      refine Or.inr (or_iff_not_imp_left.mpr fun noneNamed =>
        or_iff_not_imp_left.mpr fun someMatches => ?_)
      push Not at someMatches
      obtain ⟨name, cert, isReal, matched⟩ := someMatches
      have defaultMember := built.default_mem listed
      have defaultMatches := built.isDefault.anyMatch star sni
      have shadows :
          ((selected library certs sni).getD defaultCert).key.file ≠
            defaultPem :=
        fun served => neverShadows served name cert isReal
          (Or.inr (by simpa using matched))
      rw [selected_of_not_named (built.not_named noneNamed)] at shadows
      obtain ⟨first, found⟩ :=
        exists_find?_eq_some (fun current => current.anyMatch library sni)
          defaultMember defaultMatches
      rw [found, Option.getD_some] at shadows
      have firstMember := List.mem_of_find?_eq_some found
      refine ⟨_, first, built.isReal_iff.mpr ⟨firstMember, rfl, shadows⟩,
        List.find?_some
          (p := fun current : Certificate => current.anyMatch library sni)
          found, ?_⟩
      rcases eq_or_before_of_find? found defaultMember defaultMatches with
        rfl | before
      · exact (shadows built.isDefault.file_eq).elim
      · rw [← built.isDefault.file_eq,
          built.before_iff firstMember defaultMember]
        exact before.map fun current => current.key.file

/-- Where the default certificate comes last, it takes nobody's place. -/
theorem not_answers
    (built : Built library system folder names certs defaultCert)
    {sni : Str}
    (comesLast : DefaultComesLast library system folder names sni)
    (served :
      ((selected library certs sni).getD defaultCert).key.file = defaultPem)
    {name : OsStr}
    {cert : Certificate}
    (isReal : IsReal library system folder name cert) :
    ¬ cert.Answers library sni := by
  have noneNamed :
      ¬ ∃ name cert, IsReal library system folder name cert ∧
        sni ∈ cert.metadata.hostnames := by
    rintro ⟨other, otherCert, otherReal, lists⟩
    exact built.file_ne_of_named
      ⟨otherCert, (built.isReal_iff.mp otherReal).1, lists⟩ served
  rw [selected_of_not_named (built.not_named noneNamed)] at served
  rintro (lists | matched)
  · exact noneNamed ⟨name, cert, isReal, lists⟩
  have member := (built.isReal_iff.mp isReal).1
  -- some wildcard matches, so the one that is found is of `default.pem`
  obtain ⟨first, found⟩ :=
    exists_find?_eq_some (fun current => current.anyMatch library sni)
      member matched
  rw [found, Option.getD_some] at served
  have firstMember := List.mem_of_find?_eq_some found
  rcases comesLast with notListed | named | noneMatches | someBefore
  · have listed := (built.mem_certs_iff.mp firstMember).1
    rw [served, notListed] at listed
    cases listed
  · exact noneNamed named
  · simp [noneMatches name cert isReal] at matched
  · obtain ⟨otherName, other, otherReal, otherMatched, before⟩ := someBefore
    obtain ⟨otherMember, rfl, notDefault⟩ := built.isReal_iff.mp otherReal
    rcases eq_or_before_of_find? found otherMember otherMatched with
      rfl | after
    · exact notDefault served
    · rw [← served, built.before_iff otherMember firstMember] at before
      have filesDistinct :
          (certs.map fun current => current.key.file).Nodup := by
        rw [built.loads.map_file]
        exact built.distinct.filter _
      exact before.asymm filesDistinct
        (after.map fun current => current.key.file)

end Built

/--
The default certificate takes the place of no other certificate exactly when it
comes last for the name.
-/
theorem defaultNeverShadows_iff
    (star : StarMatchesAll library)
    {names : List OsStr}
    (lists : system.Lists folder names)
    {manager : TlsManager}
    {later : Folder}
    (isNew : TlsManager.new library system folder = (.ok manager, later))
    (serverName : Option Str) :
    DefaultNeverShadows library system folder manager serverName ↔
      DefaultComesLast library system folder names (serverName.getD []) := by
  obtain ⟨certs, built, managerEq⟩ := built_of_new lists isNew
  have served :
      (∃ key, manager.resolve library serverName = some key ∧
          key.file = defaultPem) ↔
        ((selected library certs (serverName.getD [])).getD
          manager.defaultCertificate).key.file = defaultPem := by
    rw [managerEq, resolve_eq_selected]
    simp [TlsManager.ofCertificates]
  rw [DefaultNeverShadows, served]
  constructor
  · exact built.defaultComesLast star
  · intro comesLast isServed name cert isReal
    exact built.not_answers comesLast isServed isReal

section Sample

/-- A system that lists the names of the folder in some order. -/
def sampleSystem (names : List OsStr) : System where
  prepare :=
    .ok ()
  readDir folder :=
    .ok (names.map fun name => .ok (folder.dirEntry name))
  write name contents folder :=
    (.ok (), folder.insert name (.file (.ok contents)))
  acme folder :=
    (.ok (), folder)
  debugPath _ :=
    ""

/-- The files of a certificate. -/
def samplePem : OsStr :=
  Str.asBytes "www.pem".toList

def sampleKey : OsStr :=
  Str.asBytes "www.key".toList

/-- The folder before the first start. -/
def sampleFolder : Folder :=
  ((∅ : Folder).insert samplePem
    (.file (.ok (Str.asBytes "*.example.com".toList)))).insert sampleKey
      (.file (.ok []))

/-- The folder that the first start leaves behind. -/
def sampleRestartFolder : Folder :=
  (TlsManager.new textLibrary (sampleSystem [samplePem, sampleKey])
    sampleFolder).2

/-- The folder as the next start lists it. -/
def sampleRestartNames : List OsStr :=
  [defaultPem, Str.asBytes "default.key".toList, samplePem, sampleKey]

theorem lists_sampleRestart :
    (sampleSystem sampleRestartNames).Lists sampleRestartFolder
      sampleRestartNames where
  complete := by
    decide
  readDir :=
    rfl

/-- A restart, and the server name that the default certificate takes. -/
theorem not_defaultNeverShadows_after_restart :
    ∃ manager later,
      TlsManager.new textLibrary (sampleSystem sampleRestartNames)
          sampleRestartFolder = (.ok manager, later) ∧
        StarMatchesAll textLibrary ∧
          (sampleSystem sampleRestartNames).Lists sampleRestartFolder
              sampleRestartNames ∧
            ¬ DefaultNeverShadows textLibrary
              (sampleSystem sampleRestartNames) sampleRestartFolder manager
              (some "www.example.com".toList) := by
  refine ⟨_, _, rfl, textLibrary_starMatchesAll, lists_sampleRestart, ?_⟩
  intro neverShadows
  refine neverShadows ⟨_, rfl, ?_⟩ samplePem _ ⟨by decide, by decide, rfl⟩
    (Or.inr ?_)
  · decide
  · decide

/-- The condition at the restart of the sample. -/
theorem defaultNeverShadows_iff_at_restart :
    ∃ manager later,
      TlsManager.new textLibrary (sampleSystem sampleRestartNames)
          sampleRestartFolder = (.ok manager, later) ∧
        (DefaultNeverShadows textLibrary (sampleSystem sampleRestartNames)
            sampleRestartFolder manager (some "www.example.com".toList) ↔
          DefaultComesLast textLibrary (sampleSystem sampleRestartNames)
            sampleRestartFolder sampleRestartNames
            "www.example.com".toList) :=
  ⟨_, _, rfl, defaultNeverShadows_iff textLibrary_starMatchesAll
    lists_sampleRestart rfl _⟩

end Sample

end Pingoo.Tls
