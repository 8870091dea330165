import Pingoo.Clock
import Pingoo.Config
import Pingoo.Library.Fallible
import Pingoo.Library.Glob

namespace Pingoo.Tls

/-!
# TLS certificates

A certificate is read from two PEM files, its chain and its private key.  The
Subject Alternative Names of the first certificate of the chain are the names it
is served for: those with a `*` become wildcard matchers.
-/

open Fallible

/-- A general name of a Subject Alternative Name extension. -/
inductive GeneralName where
  | dnsName (name : Str)
  | ipAddress (bytes : Bytes)
  | other
  deriving Repr, DecidableEq

/-- A parsed extension of a certificate. -/
inductive ParsedExtension where
  | subjectAlternativeName (generalNames : List GeneralName)
  | other
  deriving Repr, DecidableEq

/-- What is read of an `X509Certificate`. -/
structure X509Certificate where
  notBefore : Int
  notAfter : Int
  extensions : List ParsedExtension
  deriving Repr, DecidableEq

/-- A wildcard as the builder is asked for it. -/
structure Wildcard where
  pattern : Bytes
  caseInsensitive : Bool
  metasymbolOne : Option UInt8
  deriving Repr, DecidableEq

/-- `rustls::sign::CertifiedKey`: a chain of certificates and its key. -/
structure CertifiedKey where
  cert : List Bytes
  key : Bytes
  deriving Repr, DecidableEq

/--
The libraries certificates are read and made with: the PEM reader, the X.509
parser, the wildcards, the check that a key fits a chain, the digest, and the
self-signed certificates with their PEM files.
-/
structure CertificateLibrary where
  privateKey : Bytes → Except String (Option Bytes)
  certs : Bytes → Except String (List Bytes)
  fromDer : Bytes → Except String X509Certificate
  buildError : Wildcard → Option String
  isMatch : Wildcard → Bytes → Bool
  certifiedKeyError : CertifiedKey → Option String
  sha256 : Sha256
  selfSigned : List Str → Except Error (Bytes × Bytes)

/-- `CertificateMetadata`. -/
structure CertificateMetadata where
  hash : Vector UInt8 32
  privateKeyHash : Vector UInt8 32
  hostnames : List Str
  wildcardMatchers : List Wildcard
  notAfter : Int
  notBefore : Int
  deriving DecidableEq

/-- The name of a file, an `OsStr`. -/
abbrev OsStr := Bytes

/--
An `Arc<CertifiedKey>`.  Every certificate that is read gets a key of its own;
the file of the certificate tells these apart.
-/
structure KeyArc where
  file : OsStr
  value : CertifiedKey
  deriving Repr, DecidableEq

/-- `Certificate`. -/
structure Certificate where
  key : KeyArc
  metadata : CertificateMetadata
  deriving DecidableEq

/-- `Utc.timestamp_opt(secs, 0).single()`. -/
def timestampOpt (secs : Int) : Option Int :=
  let nanos := secs * nanosPerSec
  if Utc.minUtc ≤ nanos ∧ nanos ≤ Utc.maxUtc then some nanos else none

/-- The 16-bit segments of some bytes, high byte first. -/
def toSegments : Bytes → List UInt16
  | high :: low :: rest =>
      (256 * high.toUInt16 + low.toUInt16) :: toSegments rest
  | _ =>
      []

theorem length_toSegments
    {bytes : Bytes}
    {count : Nat}
    (length : bytes.length = 2 * count) :
    (toSegments bytes).length = count := by
  induction count generalizing bytes with
  | zero =>
      rw [List.length_eq_zero_iff.mp length]
      rfl
  | succ count inductionHypothesis =>
      obtain ⟨high, low, rest, rfl⟩ : ∃ high low rest,
          bytes = high :: low :: rest := by
        match bytes, length with
        | high :: low :: rest, _ => exact ⟨high, low, rest, rfl⟩
      have restLength : rest.length = 2 * count := by
        simp only [List.length_cons] at length
        omega
      simp [toSegments, inductionHypothesis restLength]

/-- An address that is given as bytes, if there are 4 or 16 of them. -/
def ipAddrFrom (bytes : Bytes) : Option IpAddr :=
  if length : bytes.length = 4 then
    some (.v4 ⟨bytes.toArray, by simpa using length⟩)
  else if length : bytes.length = 16 then
    some (.v6 ⟨(toSegments bytes).toArray,
      by simp [length_toSegments (show bytes.length = 2 * 8 from length)]⟩)
  else
    none

/-- The text that a general name adds to the Subject Alternative Names. -/
def GeneralName.toStr : GeneralName → Option Str
  | .dnsName name =>
      some name
  | .ipAddress bytes =>
      (ipAddrFrom bytes).map IpAddr.toStr
  | .other =>
      none

/-- The general names of the Subject Alternative Name extensions. -/
def X509Certificate.generalNames (cert : X509Certificate) : List GeneralName :=
  cert.extensions.flatMap fun
    | .subjectAlternativeName names => names
    | .other => []

/-- The texts of the Subject Alternative Names. -/
def X509Certificate.subjectAlternativeNames
    (cert : X509Certificate) : List Str :=
  cert.generalNames.filterMap GeneralName.toStr

/-- The DNS names among the Subject Alternative Names. -/
def X509Certificate.dnsNames (cert : X509Certificate) : List Str :=
  cert.generalNames.filterMap fun
    | .dnsName name => some name
    | _ => none

/-- The wildcard a host name is matched with. -/
def wildcardOf (hostname : Str) : Wildcard where
  pattern :=
    hostname.asBytes
  caseInsensitive :=
    false
  metasymbolOne :=
    none

/-- Build the matchers of the host names that contain a `*`. -/
def buildMatchers
    (library : CertificateLibrary) : List Str → Except Error (List Wildcard)
  | [] =>
      .ok []
  | hostname :: rest => do
      if hostname.contains ['*'] then
        match library.buildError (wildcardOf hostname) with
        | some err =>
            .error (.tls
              s!"TLS hostname {String.ofList hostname} is not valid: {err}")
        | none =>
            let matchers ← buildMatchers library rest
            .ok (wildcardOf hostname :: matchers)
      else
        buildMatchers library rest

/-- `get_certificate_metdata`. -/
def getCertificateMetdata
    (library : CertificateLibrary)
    (certDer privateKeyDer : Bytes) : Except Error CertificateMetadata := do
  let cert ←
    (library.fromDer certDer).mapError fun err =>
      .tls s!"error parsing TLS certificate: {err}"
  let notBefore ←
    orError
      (.tls <| "TLS certificate not_before timestamp " ++
        s!"({cert.notBefore}) is not valid")
      (timestampOpt cert.notBefore)
  let notAfter ←
    orError
      (.tls <| "TLS certificate not_after timestamp " ++
        s!"({cert.notAfter}) is not valid")
      (timestampOpt cert.notAfter)
  let subjectAlternativeNames := cert.subjectAlternativeNames
  let wildcardMatchers ← buildMatchers library subjectAlternativeNames
  .ok {
    hash := library.sha256 certDer
    privateKeyHash := library.sha256 privateKeyDer
    hostnames :=
      subjectAlternativeNames.filter fun san => !san.contains ['*']
    wildcardMatchers
    notAfter
    notBefore
  }

/-- `parse_certificate_and_private_key`, for the certificate of a file. -/
def parseCertificateAndPrivateKey
    (library : CertificateLibrary)
    (file : OsStr)
    (certsPem privateKeyPem : Bytes) : Except Error Certificate := do
  let privateKey? ←
    (library.privateKey privateKeyPem).mapError fun err =>
      .config s!"error parsing TLS private key: {err}"
  let privateKey ← orError (.tls "private key file is not valid") privateKey?
  let certificates ←
    (library.certs certsPem).mapError fun err =>
      .config s!"error parsing TLS certificates: {err}"
  match certificates with
  | [] =>
      .error (.tls "TLS cert chain is empty")
  | first :: chain =>
      let metadata ← getCertificateMetdata library first privateKey
      if metadata.hostnames.isEmpty && metadata.wildcardMatchers.isEmpty then
        .error (.tls ("TLS certificate is not valid: hostnames list " ++
          "(SAN, Subject Alternative Name) is empty"))
      else
        let certifiedKey : CertifiedKey := ⟨first :: chain, privateKey⟩
        match library.certifiedKeyError certifiedKey with
        | some err =>
            .error (.tls s!"error verifying TLS certificates: {err}")
        | none =>
            .ok ⟨⟨file, certifiedKey⟩, metadata⟩

/--
`generate_self_signed_certificates`: a certificate for some host names, made for
a file, with the PEM files of its chain and its key.
-/
def generateSelfSignedCertificates
    (library : CertificateLibrary)
    (file : OsStr)
    (hostnames : List Str) : Except Error (Certificate × Bytes × Bytes) := do
  let (certPem, privateKeyPem) ← library.selfSigned hostnames
  let certificate ←
    parseCertificateAndPrivateKey library file certPem privateKeyPem
  .ok (certificate, certPem, privateKeyPem)

/-- The matchers that are built are the wildcards of the names with a `*`. -/
theorem eq_map_of_buildMatchers
    {library : CertificateLibrary}
    {names : List Str}
    {matchers : List Wildcard}
    (built : buildMatchers library names = .ok matchers) :
    matchers =
      (names.filter fun san => san.contains ['*']).map wildcardOf := by
  induction names generalizing matchers with
  | nil =>
      cases built
      rfl
  | cons hostname rest inductionHypothesis =>
      rw [buildMatchers] at built
      by_cases hasStar : Str.contains hostname ['*'] = true
      · rw [if_pos hasStar] at built
        split at built
        · cases built
        · obtain ⟨others, restBuilt, rest⟩ := bind_eq_ok_iff.mp built
          cases rest
          simp [hasStar, inductionHypothesis restBuilt]
      · rw [if_neg hasStar] at built
        simp [hasStar, inductionHypothesis built]

/--
The key of a certificate belongs to the file it is made for, and its metadata is
that of the first certificate of the chain.
-/
theorem parseCertificateAndPrivateKey_eq_ok
    {library : CertificateLibrary}
    {file : OsStr}
    {certsPem privateKeyPem : Bytes}
    {certificate : Certificate}
    (isParsed :
      parseCertificateAndPrivateKey library file certsPem privateKeyPem =
        .ok certificate) :
    ∃ first chain privateKey,
      certificate.key = ⟨file, ⟨first :: chain, privateKey⟩⟩ ∧
        getCertificateMetdata library first privateKey =
          .ok certificate.metadata := by
  simp only [parseCertificateAndPrivateKey, bind_eq_ok_iff] at isParsed
  obtain ⟨-, -, privateKey, -, certificates, -, isParsed⟩ := isParsed
  cases certificates with
  | nil =>
      cases isParsed
  | cons first chain =>
      obtain ⟨metadata, isMetadata, isParsed⟩ := bind_eq_ok_iff.mp isParsed
      split at isParsed
      · cases isParsed
      · split at isParsed
        · cases isParsed
        · cases isParsed
          exact ⟨first, chain, privateKey, rfl, isMetadata⟩

/-- A certificate that was read from its PEM files. -/
def Certificate.IsParsed
    (library : CertificateLibrary)
    (certificate : Certificate) : Prop :=
  ∃ file certsPem privateKeyPem,
    parseCertificateAndPrivateKey library file certsPem privateKeyPem =
      .ok certificate

/-- The names of a certificate are those of the first one of its chain. -/
theorem Certificate.IsParsed.names
    {library : CertificateLibrary}
    {certificate : Certificate}
    (isParsed : certificate.IsParsed library) :
    ∃ first chain cert,
      certificate.key.value.cert = first :: chain ∧
        library.fromDer first = .ok cert ∧
          certificate.metadata.hostnames =
              (cert.subjectAlternativeNames.filter fun san =>
                !san.contains ['*']) ∧
            certificate.metadata.wildcardMatchers =
              (cert.subjectAlternativeNames.filter fun san =>
                san.contains ['*']).map wildcardOf := by
  obtain ⟨file, certsPem, privateKeyPem, isParsed⟩ := isParsed
  obtain ⟨first, chain, privateKey, isKey, isMetadata⟩ :=
    parseCertificateAndPrivateKey_eq_ok isParsed
  simp only [getCertificateMetdata, bind_eq_ok_iff,
    mapError_eq_ok_iff] at isMetadata
  obtain ⟨cert, isDer, notBefore, -, notAfter, -, matchers, built, same⟩ :=
    isMetadata
  rw [isKey, ← Except.ok.inj same]
  exact ⟨first, chain, cert, rfl, isDer, rfl, eq_map_of_buildMatchers built⟩

/-- A wildcard matcher of a certificate matches a name. -/
def Certificate.anyMatch
    (library : CertificateLibrary)
    (certificate : Certificate)
    (name : Str) : Bool :=
  certificate.metadata.wildcardMatchers.any fun matcher =>
    library.isMatch matcher name.asBytes

/-- The documented meaning of a lone `*`: it matches any sequence of bytes. -/
def StarMatchesAll (library : CertificateLibrary) : Prop :=
  ∀ text, library.isMatch (wildcardOf ['*']) text = true

/--
A library in which a certificate is the text of its only name, and a PEM file
holds what it stands for.
-/
def textLibrary : CertificateLibrary where
  privateKey pem :=
    .ok (some pem)
  certs pem :=
    .ok [pem]
  fromDer der :=
    .ok {
      notBefore := 0
      notAfter := 0
      extensions :=
        [.subjectAlternativeName
          [.dnsName (der.map fun byte => Char.ofNat byte.toNat)]]
    }
  buildError _ :=
    none
  isMatch wildcard text :=
    Glob.isMatch 42 wildcard.pattern text
  certifiedKeyError _ :=
    none
  sha256 _ :=
    .replicate 32 0
  selfSigned hostnames :=
    .ok (Str.asBytes hostnames.flatten, [])

theorem textLibrary_starMatchesAll : StarMatchesAll textLibrary := by
  intro text
  have patternEq : (wildcardOf ['*']).pattern = [42] := by
    decide
  change Glob.isMatch 42 (wildcardOf ['*']).pattern text = true
  rw [patternEq]
  exact Glob.isMatch_star text

end Pingoo.Tls
