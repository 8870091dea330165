import Pingoo.Library.KeyedFold
import Pingoo.Tls.Certificate

namespace Pingoo.Tls

/-!
# The TLS manager

A start of the server reads the certificates of the TLS folder, creates the
default certificate when its file is not there, and indexes the certificates by
the names they are served for.
-/

open Fallible KeyedFold

namespace OsStr

/-- The byte of a dot. -/
def dot : UInt8 :=
  46

/-- The name up to its last dot, with the dot. -/
def throughLastDot (name : OsStr) : OsStr :=
  name.rdropWhile (· != dot)

/-- `Path::file_stem` and `Path::extension` of a path to the file. -/
def splitAtDot (name : OsStr) : OsStr × Option OsStr :=
  let stem := (throughLastDot name).dropLast
  if name = [dot, dot] ∨ stem = [] then
    (name, none)
  else
    (stem, some (name.drop (throughLastDot name).length))

/-- `Path::set_extension`. -/
def setExtension (name newExtension : OsStr) : OsStr :=
  (splitAtDot name).1 ++ dot :: newExtension

/--
`to_str().unwrap_or_default() == text` for a text that is not empty: the name is
the encoding of the text.
-/
def isStr (name : OsStr) (text : Str) : Bool :=
  decide (name = text.asBytes)

end OsStr

/-- An error of the file system. -/
structure IoError where
  notFound : Bool
  message : String
  deriving Repr, DecidableEq

/--
What a name of the folder leads to: a regular file, or something else, such as a
link, with what `metadata` says of it.
-/
inductive FolderEntry where
  | file (contents : Except IoError Bytes)
  | other (metadata : Except IoError Unit) (contents : Except IoError Bytes)

namespace FolderEntry

/-- `FileType::is_file`. -/
def isFile : FolderEntry → Bool
  | .file _ =>
      true
  | .other _ _ =>
      false

/-- What `metadata` says of the entry. -/
def metadata : FolderEntry → Except IoError Unit
  | .file _ =>
      .ok ()
  | .other metadata _ =>
      metadata

/-- What reading the entry gives. -/
def contents : FolderEntry → Except IoError Bytes
  | .file contents =>
      contents
  | .other _ contents =>
      contents

end FolderEntry

/-- The TLS folder. -/
abbrev Folder := AList fun _ : OsStr => FolderEntry

/-- `DirEntry`: a name that was listed, and the outcome of `file_type`. -/
structure DirEntry where
  fileName : OsStr
  isFile : Except String Bool

/--
The operating system during one start: creating the folder and setting its
permissions, listing the folder, writing a file, loading the ACME account, and
the text of a path in an error.
-/
structure System where
  prepare : Except Error Unit
  readDir : Folder → Except String (List (Except String DirEntry))
  write : OsStr → Bytes → Folder → Except String Unit × Folder
  acme : Folder → Except Error Unit × Folder
  debugPath : OsStr → String

/-- `DEFAULT_TLS_FOLDER`. -/
def defaultTlsFolder : String :=
  "/etc/pingoo/tls"

/-- The file of the default certificate. -/
def defaultPem : OsStr :=
  Str.asBytes "default.pem".toList

/-- `fs::read` of a file of the folder. -/
def Folder.read (folder : Folder) (file : OsStr) : Except IoError Bytes :=
  match folder.lookup file with
  | some entry => entry.contents
  | none => .error ⟨true, "No such file or directory (os error 2)"⟩

/-- `fs::metadata` of a file of the folder. -/
def Folder.metadata (folder : Folder) (file : OsStr) : Except IoError Unit :=
  match folder.lookup file with
  | some entry => entry.metadata
  | none => .error ⟨true, "No such file or directory (os error 2)"⟩

section Loading

variable
  (library : CertificateLibrary)
  (system : System)

/-- `load_certificate`. -/
def loadCertificate
    (folder : Folder)
    (certFile : OsStr) : Except Error Certificate := do
  let certFileContent ←
    (folder.read certFile).mapError fun err =>
      .config (s!"error reading certificate {system.debugPath certFile}: " ++
        err.message)
  let privateKeyFile := OsStr.setExtension certFile (Str.asBytes "key".toList)
  let privateKeyFileContent ←
    (folder.read privateKeyFile).mapError fun err =>
      .config (
        s!"error reading private key {system.debugPath privateKeyFile}: " ++
        err.message)
  parseCertificateAndPrivateKey library certFile certFileContent
    privateKeyFileContent

/-- Whether `load_certificates` takes a file for a certificate. -/
def isCertificateFile (fileName : OsStr) : Bool :=
  OsStr.isStr ((OsStr.splitAtDot fileName).2.getD []) "pem".toList &&
    !OsStr.isStr fileName "default".toList

/-- The certificates that a directory lists, until it cannot be read on. -/
def certificateFiles :
    List (Except String DirEntry) → Except Error (List OsStr)
  | [] =>
      .ok []
  | .error _ :: _ =>
      .ok []
  | .ok entry :: rest => do
      let isFile ←
        entry.isFile.mapError fun err =>
          .config (
            s!"error getting file type for {system.debugPath entry.fileName}" ++
            s!": {err}")
      let files ← certificateFiles rest
      if isFile && isCertificateFile entry.fileName then
        .ok (entry.fileName :: files)
      else
        .ok files

/-- The certificates of a folder, as they are indexed. -/
structure Certificates where
  certificates : AList fun _ : Str => Certificate
  wildcardCertificates : List Certificate

namespace Certificates

/-- No certificate. -/
def empty : Certificates where
  certificates :=
    ∅
  wildcardCertificates :=
    []

/-- Index one more certificate. -/
def index (loaded : Certificates) (certificate : Certificate) :
    Certificates where
  certificates :=
    enter (fun current => current.metadata.hostnames) loaded.certificates
      certificate
  wildcardCertificates :=
    if certificate.metadata.wildcardMatchers.length ≠ 0 then
      loaded.wildcardCertificates ++ [certificate]
    else
      loaded.wildcardCertificates

end Certificates

/-- Load and index the certificates of some files. -/
def loadFiles
    (folder : Folder)
    (loaded : Certificates) : List OsStr → Except Error Certificates
  | [] =>
      .ok loaded
  | file :: rest => do
      let certificate ← loadCertificate library system folder file
      loadFiles folder (loaded.index certificate) rest

/-- `load_certificates`. -/
def loadCertificates (folder : Folder) : Except Error Certificates := do
  let directory ←
    (system.readDir folder).mapError fun err =>
      .config s!"error reading certificates folder ({defaultTlsFolder}): {err}"
  let files ← certificateFiles system directory
  loadFiles library system folder .empty files

/-- What the default certificate must be: a certificate for `*` alone. -/
def checkDefaultCertificate
    (certificate : Certificate) : Except Error Certificate :=
  match certificate.metadata.hostnames,
      certificate.metadata.wildcardMatchers with
  | [], [matcher] =>
      if matcher.pattern ≠ Str.asBytes ['*'] then
        .error (.tls "default TLS certificate is not valid")
      else
        .ok certificate
  | _, _ =>
      .error (.tls "default TLS certificate is not valid")

/-- Make the default certificate and save its two files. -/
def createDefaultCertificate
    (folder : Folder) : Except Error Certificate × Folder :=
  match generateSelfSignedCertificates library defaultPem [['*']] with
  | .error err => (.error err, folder)
  | .ok (certificate, certPem, keyPem) =>
      match system.write defaultPem certPem folder with
      | (.error err, folder) =>
          (.error (.tls (
            "error writing default TLS certificate to " ++
            s!"{system.debugPath defaultPem}: {err}")), folder)
      | (.ok (), folder) =>
          let keyFile :=
            OsStr.setExtension defaultPem (Str.asBytes "key".toList)
          match system.write keyFile keyPem folder with
          | (.error err, folder) =>
              (.error (.tls (
                "error writing private key for default TLS certificate to " ++
                s!"{system.debugPath keyFile}: {err}")), folder)
          | (.ok (), folder) => (.ok certificate, folder)

/-- `load_or_create_default_certificate`. -/
def loadOrCreateDefaultCertificate
    (folder : Folder) : Except Error Certificate × Folder :=
  let (defaultCert, folder) :=
    match folder.metadata defaultPem with
    | .ok () => (loadCertificate library system folder defaultPem, folder)
    | .error err =>
        if err.notFound then
          createDefaultCertificate library system folder
        else
          (.error (.tls (
            "error loading default certificate " ++
            s!"{system.debugPath defaultPem}: {err.message}")), folder)
  (defaultCert >>= checkDefaultCertificate, folder)

end Loading

/-- `TlsManager`. -/
structure TlsManager where
  defaultCertificate : Certificate
  certificates : AList fun _ : Str => Certificate
  wildcardCertificates : List Certificate

namespace TlsManager

variable (library : CertificateLibrary)

/-- The manager of some certificates. -/
def ofCertificates
    (defaultCertificate : Certificate)
    (loaded : Certificates) : TlsManager where
  defaultCertificate :=
    defaultCertificate
  certificates :=
    loaded.certificates
  wildcardCertificates :=
    loaded.wildcardCertificates

/-- `TlsManager::new`, with the folder as it leaves it. -/
def new (system : System) (folder : Folder) :
    Except Error TlsManager × Folder :=
  match system.prepare >>= fun () =>
      loadCertificates library system folder with
  | .error err => (.error err, folder)
  | .ok loaded =>
      match loadOrCreateDefaultCertificate library system folder with
      | (.error err, folder) => (.error err, folder)
      | (.ok defaultCertificate, folder) =>
          match system.acme folder with
          | (.error err, folder) => (.error err, folder)
          | (.ok (), folder) =>
              (.ok (ofCertificates defaultCertificate loaded), folder)

/-- `ResolvesServerCert::resolve`. -/
def resolve
    (manager : TlsManager)
    (serverName : Option Str) : Option KeyArc :=
  let sni := serverName.getD []
  let key :=
    match manager.certificates.lookup sni with
    | some cert => cert.key
    | none =>
        ((manager.wildcardCertificates.find? fun cert =>
          cert.anyMatch library sni).map Certificate.key).getD
          manager.defaultCertificate.key
  some key

end TlsManager

end Pingoo.Tls
