import Pingoo.Tls.Manager

namespace Pingoo.Tls

/-!
# Which certificate is selected

What `resolve` answers depends only on the list of certificates, in the order in
which they were loaded: the last one that lists the name literally, else the
first one with a wildcard that matches it, else the default certificate.
-/

open Fallible KeyedFold

variable {library : CertificateLibrary}

/-- The certificate that is selected for a name, unless it is the default. -/
def selected
    (library : CertificateLibrary)
    (certs : List Certificate)
    (sni : Str) : Option Certificate :=
  (certs.reverse.find? fun cert => decide (sni ∈ cert.metadata.hostnames)).or
    (certs.find? fun cert => cert.anyMatch library sni)

/-- A certificate without a matcher matches nothing. -/
theorem Certificate.anyMatch_eq_false
    {certificate : Certificate}
    (noMatcher : certificate.metadata.wildcardMatchers = [])
    (sni : Str) :
    certificate.anyMatch library sni = false := by
  simp [Certificate.anyMatch, noMatcher]

namespace Certificates

/-- The host names are indexed whatever else a certificate has. -/
private theorem certificates_foldl_index
    (certs : List Certificate)
    (loaded : Certificates) :
    (certs.foldl index loaded).certificates =
      certs.foldl (enter fun current => current.metadata.hostnames)
        loaded.certificates := by
  induction certs generalizing loaded with
  | nil =>
      rfl
  | cons cert rest inductionHypothesis =>
      exact inductionHypothesis (loaded.index cert)

/-- The index finds the last certificate that lists a name. -/
theorem lookup_certificates
    (certs : List Certificate)
    (sni : Str) :
    (certs.foldl index empty).certificates.lookup sni =
      certs.reverse.find? fun cert =>
        decide (sni ∈ cert.metadata.hostnames) := by
  rw [certificates_foldl_index]
  convert lookup_foldl_enter (fun current => current.metadata.hostnames)
    certs sni
  rfl

/-- The wildcard certificates keep the loading order. -/
theorem wildcardCertificates_foldl_index
    (certs : List Certificate)
    (loaded : Certificates) :
    (certs.foldl index loaded).wildcardCertificates =
      loaded.wildcardCertificates ++
        certs.filter fun cert =>
          decide (cert.metadata.wildcardMatchers ≠ []) := by
  induction certs generalizing loaded with
  | nil =>
      simp
  | cons cert rest inductionHypothesis =>
      rw [List.foldl_cons, inductionHypothesis]
      by_cases noMatcher : cert.metadata.wildcardMatchers = []
      · simp [index, noMatcher]
      · simp [index, noMatcher]

/-- Looking only at the wildcard certificates loses no match. -/
theorem find?_wildcardCertificates
    (certs : List Certificate)
    (sni : Str) :
    (certs.foldl index empty).wildcardCertificates.find?
        (fun cert => cert.anyMatch library sni) =
      certs.find? fun cert => cert.anyMatch library sni := by
  rw [wildcardCertificates_foldl_index, List.find?_append]
  simp only [empty, List.find?_nil, Option.none_or, List.find?_filter]
  congr 1
  funext cert
  by_cases noMatcher : cert.metadata.wildcardMatchers = []
  · simp [Certificate.anyMatch_eq_false noMatcher]
  · simp [noMatcher]

end Certificates

/-- `resolve` answers with the selected certificate, else with the default. -/
theorem resolve_eq_selected
    (defaultCertificate : Certificate)
    (certs : List Certificate)
    (serverName : Option Str) :
    (TlsManager.ofCertificates defaultCertificate
        (certs.foldl Certificates.index .empty)).resolve library serverName =
      some ((selected library certs (serverName.getD [])).getD
        defaultCertificate).key := by
  simp only [TlsManager.resolve, TlsManager.ofCertificates,
    Certificates.find?_wildcardCertificates,
    Certificates.lookup_certificates, selected]
  cases certs.reverse.find? fun cert =>
      decide (serverName.getD [] ∈ cert.metadata.hostnames) with
  | some cert =>
      simp
  | none =>
      cases certs.find? fun cert =>
          cert.anyMatch library (serverName.getD []) with
      | some cert =>
          simp
      | none =>
          simp

/-- A selected certificate is one that was loaded. -/
theorem mem_of_selected
    {certs : List Certificate}
    {sni : Str}
    {cert : Certificate}
    (isSelected : selected library certs sni = some cert) :
    cert ∈ certs := by
  rcases Option.or_eq_some_iff.mp isSelected with found | ⟨-, found⟩
  · exact List.mem_reverse.mp (List.mem_of_find?_eq_some found)
  · exact List.mem_of_find?_eq_some found

/-- A listed name is answered by a certificate that lists it. -/
theorem selected_of_named
    {certs : List Certificate}
    {sni : Str}
    (named : ∃ cert ∈ certs, sni ∈ cert.metadata.hostnames) :
    ∃ cert, selected library certs sni = some cert ∧
      sni ∈ cert.metadata.hostnames := by
  obtain ⟨cert, member, lists⟩ := named
  have isFound :
      (certs.reverse.find? fun cert =>
        decide (sni ∈ cert.metadata.hostnames)).isSome := by
    rw [List.find?_isSome]
    exact ⟨cert, List.mem_reverse.mpr member, by simpa using lists⟩
  obtain ⟨found, foundEq⟩ := Option.isSome_iff_exists.mp isFound
  refine ⟨found, ?_, by simpa using List.find?_some foundEq⟩
  rw [selected, foundEq, Option.some_or]

/-- A name that is not listed is left to the first wildcard that matches. -/
theorem selected_of_not_named
    {certs : List Certificate}
    {sni : Str}
    (notNamed : ∀ cert ∈ certs, sni ∉ cert.metadata.hostnames) :
    selected library certs sni =
      certs.find? fun cert => cert.anyMatch library sni := by
  have notFound :
      (certs.reverse.find? fun cert =>
        decide (sni ∈ cert.metadata.hostnames)) = none := by
    rw [List.find?_eq_none]
    intro cert member
    simpa using notNamed cert (List.mem_reverse.mp member)
  rw [selected, notFound, Option.none_or]

section Loading

variable {system : System} {folder : Folder}

/-- The files load as the certificates, one by one. -/
abbrev LoadsAs
    (library : CertificateLibrary)
    (system : System)
    (folder : Folder)
    (files : List OsStr)
    (certs : List Certificate) : Prop :=
  List.Forall₂
    (fun file cert => loadCertificate library system folder file = .ok cert)
    files certs

/-- Loading files is loading each of them and indexing what is loaded. -/
theorem loadFiles_eq_ok_iff
    {files : List OsStr}
    {loaded result : Certificates} :
    loadFiles library system folder loaded files = .ok result ↔
      ∃ certs, LoadsAs library system folder files certs ∧
        result = certs.foldl Certificates.index loaded := by
  induction files generalizing loaded with
  | nil =>
      simp [loadFiles, eq_comm]
  | cons file rest inductionHypothesis =>
      rw [loadFiles, bind_eq_ok_iff]
      simp only [inductionHypothesis]
      constructor
      · rintro ⟨cert, isLoaded, certs, restLoads, rfl⟩
        exact ⟨cert :: certs, .cons isLoaded restLoads, rfl⟩
      · rintro ⟨certs, loads, rfl⟩
        cases loads with
        | cons isLoaded restLoads =>
            exact ⟨_, isLoaded, _, restLoads, rfl⟩

/-- The key of a certificate belongs to the file it was loaded from. -/
theorem file_parseCertificateAndPrivateKey
    {file : OsStr}
    {certsPem privateKeyPem : Bytes}
    {cert : Certificate}
    (isParsed :
      parseCertificateAndPrivateKey library file certsPem privateKeyPem =
        .ok cert) :
    cert.key.file = file := by
  obtain ⟨first, chain, privateKey, isKey, -⟩ :=
    parseCertificateAndPrivateKey_eq_ok isParsed
  rw [isKey]

theorem file_loadCertificate
    {file : OsStr}
    {cert : Certificate}
    (isLoaded : loadCertificate library system folder file = .ok cert) :
    cert.key.file = file := by
  simp only [loadCertificate, bind_eq_ok_iff] at isLoaded
  obtain ⟨certPem, -, keyPem, -, isParsed⟩ := isLoaded
  exact file_parseCertificateAndPrivateKey isParsed

theorem LoadsAs.mem_iff
    {files : List OsStr}
    {certs : List Certificate}
    (loads : LoadsAs library system folder files certs)
    {cert : Certificate} :
    cert ∈ certs ↔
      ∃ file ∈ files,
        loadCertificate library system folder file = .ok cert := by
  induction loads with
  | nil =>
      simp
  | cons isLoaded restLoads inductionHypothesis =>
      simp [isLoaded, inductionHypothesis, eq_comm]

theorem LoadsAs.map_file
    {files : List OsStr}
    {certs : List Certificate}
    (loads : LoadsAs library system folder files certs) :
    certs.map (fun cert => cert.key.file) = files := by
  induction loads with
  | nil =>
      rfl
  | cons isLoaded restLoads inductionHypothesis =>
      rw [List.map_cons, inductionHypothesis, file_loadCertificate isLoaded]

end Loading

/-- The default certificate has the name `*` alone. -/
theorem checkDefaultCertificate_eq_ok
    {cert checked : Certificate}
    (isOk : checkDefaultCertificate cert = .ok checked) :
    checked = cert ∧ cert.metadata.hostnames = [] ∧
      ∃ matcher, cert.metadata.wildcardMatchers = [matcher] ∧
        matcher.pattern = Str.asBytes ['*'] := by
  rw [checkDefaultCertificate] at isOk
  split at isOk
  · next matcher noHostname oneMatcher =>
      split at isOk
      · cases isOk
      · next isStar =>
          cases isOk
          exact ⟨rfl, noHostname, matcher, oneMatcher, not_not.mp isStar⟩
  · cases isOk

end Pingoo.Tls
