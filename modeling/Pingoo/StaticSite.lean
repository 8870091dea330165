import Pingoo.Config
import Pingoo.HttpUtils
import Pingoo.Library.Interaction
import Pingoo.Library.UnixPath

namespace Pingoo

/-!
# Static sites

A static site answers a request from the files under its root.  The handler is a
program whose queries are the accesses to the file system and to the in-memory
cache; their answers may change from one access to the next.
-/

open Interaction UnixPath

/-- `CACHING_FILE_SIZE_LIMIT`: 500 KB. -/
def cachingFileSizeLimit : UInt64 :=
  500000

/-- `std::io::ErrorKind`, as far as the handler tells the kinds apart. -/
inductive IoErrorKind where
  | notFound
  | other
  deriving Repr, DecidableEq

/--
`std::fs::Metadata`.  The modification time is in nanoseconds from the Unix
epoch, where the file system has one.
-/
structure Metadata where
  isDir : Bool
  size : UInt64
  modified : Option Int
  deriving Repr, DecidableEq

/-- A file that is kept in memory. -/
structure CachedFile where
  modifiedAt : Nat
  size : UInt64
  data : Bytes
  deriving Repr, DecidableEq

/-- One access to the file system or to the cache. -/
inductive FileAccess where
  | metadata (path : Path)
  | cacheGet (path : Path)
  | cacheRemove (path : Path)
  | read (path : Path)
  | cacheInsert (path : Path) (file : CachedFile)
  | openFile (path : Path)
  deriving Repr, DecidableEq

namespace FileAccess

/-- The path that is accessed. -/
def path : FileAccess → Path
  | .metadata path =>
      path
  | .cacheGet path =>
      path
  | .cacheRemove path =>
      path
  | .read path =>
      path
  | .cacheInsert path _ =>
      path
  | .openFile path =>
      path

/-- What an access is answered with. -/
@[reducible] def Answer : FileAccess → Type
  | .metadata _ =>
      Except IoErrorKind Metadata
  | .cacheGet _ =>
      Option CachedFile
  | .cacheRemove _ =>
      Unit
  | .read _ =>
      Except IoErrorKind Bytes
  | .cacheInsert _ _ =>
      Unit
  | .openFile _ =>
      Except IoErrorKind Unit

end FileAccess

/-- A program that accesses files. -/
abbrev FileProgram := Program FileAccess FileAccess.Answer

/-- `fs::metadata`. -/
def fsMetadata (path : Path) : FileProgram (Except IoErrorKind Metadata) :=
  Program.request (FileAccess.metadata path)

/-- `fs::read`. -/
def fsRead (path : Path) : FileProgram (Except IoErrorKind Bytes) :=
  Program.request (FileAccess.read path)

/-- `File::open`. -/
def fileOpen (path : Path) : FileProgram (Except IoErrorKind Unit) :=
  Program.request (FileAccess.openFile path)

/-- `Cache::get`. -/
def cacheGet (path : Path) : FileProgram (Option CachedFile) :=
  Program.request (FileAccess.cacheGet path)

/-- `Cache::remove`. -/
def cacheRemove (path : Path) : FileProgram Unit :=
  Program.request (FileAccess.cacheRemove path)

/-- `Cache::insert`. -/
def cacheInsert (path : Path) (file : CachedFile) : FileProgram Unit :=
  Program.request (FileAccess.cacheInsert path file)

/-- The metadata of a path that has to be a file. -/
def tryMetadata (path : Path) : FileProgram (Except Response Metadata) := do
  match ← fsMetadata path with
  | .ok metadata =>
      if metadata.isDir then
        pure (.error newNotFoundError)
      else
        pure (.ok metadata)
  | .error .notFound =>
      pure (.error newNotFoundError)
  | .error .other =>
      pure (.error newInternalErrorResponse500)

/-- The path of a request, as it is looked up under the root. -/
def urlPath (req : Request) : Str :=
  ((req.uri.path.trimStartMatches '/').trimEndMatches '/').trim

/-- The paths the handler refuses to look up. -/
def isPathRefused (urlPath : Str) : Bool :=
  urlPath.contains "/..".toList || urlPath.contains "../".toList ||
    urlPath.contains "//".toList

/-- The path the handler looks up first. -/
def joined (root urlPath : Str) : Path :=
  push root urlPath

/-- Find the file a request is for: the path itself, its index or its page. -/
def locate (root urlPath : Str) :
    FileProgram (Except Response (Path × Metadata)) := do
  let filePath := joined root urlPath
  match ← fsMetadata filePath with
  | .ok metadata =>
      if metadata.isDir then
        -- a directory is answered with its index
        let filePath := push filePath "index.html".toList
        match ← tryMetadata filePath with
        | .ok metadata => pure (.ok (filePath, metadata))
        | .error res => pure (.error res)
      else
        pure (.ok (filePath, metadata))
  | .error .notFound =>
      if (extension filePath).isSome then
        pure (.error newNotFoundError)
      else
        -- a path without an extension may be spelled without `.html`
        let filePath := setExtension filePath "html".toList
        match ← tryMetadata filePath with
        | .ok metadata => pure (.ok (filePath, metadata))
        | .error res => pure (.error res)
  | .error .other =>
      pure (.error newInternalErrorResponse500)

/-- The modification time, unless it is missing or before the Unix epoch. -/
def Metadata.modifiedAt (metadata : Metadata) : Option Nat :=
  metadata.modified.bind fun modified =>
    if 0 ≤ modified then some modified.toNat else none

/-- The value of the `If-None-Match` header without its quotes. -/
def ifNoneMatch (req : Request) : Option Str :=
  (req.headers.get .ifNoneMatch).map fun header =>
    (((header.toStr.getD []).trim).trimStartMatchesStr
      "W/".toList).trimMatches '"'

/-- A finished response, or an internal error when it could not be built. -/
def orInternalError (built : Option Response) : Response :=
  built.getD newInternalErrorResponse500

structure StaticSiteService where
  config : StaticSiteServiceConfig
  deriving Repr, DecidableEq

namespace StaticSiteService

section

-- `digest(SHA256)`, and the content type `mime_guess` has for an extension
variable (sha256 : Sha256) (mimeFromExt : Str → Str)

/-- The entity tag of a file. -/
def etag (path : Path) (size : UInt64) (modifiedAt : Nat) : Str :=
  let hash := sha256 (Str.asBytes path ++ toLeBytes 8 size.toNat ++
    toLeBytes 16 modifiedAt)
  '"' :: Str.hexEncode hash.toList ++ ['"']

/-- The headers every answer with a file starts with. -/
def fileResponse (path : Path) (size : UInt64) : ResponseBuilder :=
  ((Response.builder.header .contentLength
    (HeaderValue.fromStr (Str.decimal size.toNat))).header .contentType
    (HeaderValue.fromStr (mimeFromExt ((extension path).getD [])))).header
    .cacheControl (some cacheControlDynamic)

/-- Send a file back as a stream. -/
def streamFile (path : Path) (res : ResponseBuilder) :
    FileProgram Response := do
  match ← fileOpen path with
  | .error _ => pure newInternalErrorResponse500
  | .ok () => pure (orInternalError ((res.status .ok).body (.stream path)))

/-- Read a file, keep it in the cache and send it back. -/
def readAndCache
    (path : Path)
    (size : UInt64)
    (modifiedAt : Nat)
    (res : ResponseBuilder) : FileProgram Response := do
  match ← fsRead path with
  | .error _ => pure newInternalErrorResponse500
  | .ok content =>
      cacheInsert path ⟨modifiedAt, size, content⟩
      pure (orInternalError ((res.status .ok).body (.full content)))

/-- Send a small file back, from the cache while the entry is current. -/
def serveCached
    (path : Path)
    (size : UInt64)
    (modifiedAt : Nat)
    (res : ResponseBuilder) : FileProgram Response := do
  match ← cacheGet path with
  | some cachedFile =>
      if cachedFile.modifiedAt = modifiedAt ∧ cachedFile.size = size then
        pure (orInternalError ((res.status .ok).body (.full cachedFile.data)))
      else
        cacheRemove path
        readAndCache path size modifiedAt res
  | none =>
      readAndCache path size modifiedAt res

/-- Answer with the file that was found. -/
def serveFile
    (req : Request)
    (path : Path)
    (metadata : Metadata) : FileProgram Response :=
  let size := metadata.size
  let res := fileResponse mimeFromExt path size
  match metadata.modifiedAt with
  | none =>
      streamFile path res
  | some modifiedAt =>
      let etag := etag sha256 path size modifiedAt
      let res := res.header .etag (HeaderValue.fromStr etag)
      if ifNoneMatch req = some (etag.trimMatches '"') ∧
          (req.method = .get ∨ req.method = .head) then
        pure (orInternalError ((res.status .notModified).body (.full [])))
      else if size ≤ cachingFileSizeLimit then
        serveCached path size modifiedAt res
      else
        streamFile path res

/-- `StaticSiteService::handle_http_request`. -/
def handleHttpRequest
    (site : StaticSiteService)
    (req : Request) : FileProgram Response :=
  if req.method ≠ .get ∧ req.method ≠ .head then
    pure newMethodNotAllowedError
  else if isPathRefused (urlPath req) then
    pure newNotFoundError
  else do
    match ← locate site.config.root (urlPath req) with
    | .error res => pure res
    | .ok (path, metadata) => serveFile sha256 mimeFromExt req path metadata

end

end StaticSiteService

end Pingoo
