import Pingoo.StaticSiteSharing

namespace Pingoo

open Interaction UnixPath

/-!
# Which version of a file is served

A request finds the metadata of a file first and its content later, in the cache
or on disk.  What a cache entry is worth is said by a relation between its
label, a modification time and a size, and the version its data are from: the
relation is kept by every interleaving when each read finds a version that fits
the metadata found before.
-/

section

variable {File : Type}

variable
  (sha256 : Sha256) (mimeFromExt : Str → Str)
  (site : StaticSiteService) (target : Identity → File)
  (fits : Nat → UInt64 → FileVersion → Prop)
  (allowed : SharedFiles File → FileLog → FileAccess → Prop)

/-- Each cache entry holds the content of a version that fits its label. -/
def CacheFits (files : SharedFiles File) : Prop :=
  ∀ key entry, files.cache key = some entry →
    ∃ version ∈ (files.histories (target key)).versions,
      version.content = entry.data ∧ fits entry.modifiedAt entry.size version

/-- The version that is read fits the metadata found before. -/
def ReadsFit : Prop :=
  ∀ files log path version,
    allowed files log (.read path) →
    metadataRead log = some (path, version.metadata) →
    version ∈ (files.historyAt target path).versions →
    fits version.modified version.size (files.historyAt target path).current

/--
A response is about one version of a file, which the request found, and holds
the content of another one.
-/
structure Serves
    (files : SharedFiles File)
    (log : FileLog)
    (res : Response)
    (path : Path)
    (found served : FileVersion) : Prop where
  read : metadataRead log = some (path, found.metadata)
  foundMem : found ∈ (files.historyAt target path).versions
  servedMem : served ∈ (files.historyAt target path).versions
  etag :
    ∃ value,
      HeaderValue.fromStr
          (StaticSiteService.etag sha256 path found.size found.modified) =
        some value ∧
      res.headers.get .etag = some value
  contentLength :
    ∃ value,
      HeaderValue.fromStr (Str.decimal found.content.length) = some value ∧
      res.headers.get .contentLength = some value
  body : res.body = .full served.content

/-- A response with a file serves a version that fits what was found. -/
def ServesFitting
    (files : SharedFiles File)
    (log : FileLog)
    (res : Response) : Prop :=
  res.status = .ok →
    ∃ path found served,
      Serves sha256 target files log res path found served ∧
        fits found.modified found.size served

section Builder

/-- The headers of a response about a version of a file. -/
def Describes
    (path : Path)
    (found : FileVersion)
    (res : ResponseBuilder) : Prop :=
  ∀ parts, res.parts = some parts →
    (∃ value,
      HeaderValue.fromStr
          (StaticSiteService.etag sha256 path found.size found.modified) =
        some value ∧
      parts.2.get .etag = some value) ∧
    ∃ value,
      HeaderValue.fromStr (Str.decimal found.content.length) = some value ∧
      parts.2.get .contentLength = some value

/-- A header is written when nothing went wrong before and its value is one. -/
theorem parts_header_eq_some
    {builder : ResponseBuilder}
    {name : HeaderName}
    {value : Option HeaderValue}
    {parts : StatusCode × HeaderMap}
    (built : (builder.header name value).parts = some parts) :
    ∃ earlier written,
      builder.parts = some earlier ∧
      value = some written ∧
      parts.2 = earlier.2.append name written := by
  unfold ResponseBuilder.header at built
  dsimp only at built
  split at built
  · next code headers written isBuilt =>
      cases built
      exact ⟨(code, headers), written, isBuilt, rfl, rfl⟩
  · cases built

/-- The headers that are written describe the version. -/
theorem describes_fileResponse (path : Path) (found : FileVersion) :
    Describes sha256 path found
      ((StaticSiteService.fileResponse mimeFromExt path found.size).header .etag
        (HeaderValue.fromStr
          (StaticSiteService.etag sha256 path found.size found.modified))) := by
  intro parts built
  obtain ⟨withCache, etag, built, isEtag, writes⟩ := parts_header_eq_some built
  obtain ⟨withType, cacheControl, built, -, writesCache⟩ :=
    parts_header_eq_some built
  obtain ⟨withLength, contentType, built, -, writesType⟩ :=
    parts_header_eq_some built
  obtain ⟨⟨code, empty⟩, contentLength, built, isLength, writesLength⟩ :=
    parts_header_eq_some built
  cases built
  rw [FileVersion.toNat_size] at isLength
  have differ :
      HeaderName.etag ≠ .contentLength ∧
        HeaderName.etag ≠ .contentType ∧
        HeaderName.etag ≠ .cacheControl ∧
        HeaderName.contentLength ≠ .contentType ∧
        HeaderName.contentLength ≠ .cacheControl := by
    decide
  refine ⟨⟨etag, isEtag, ?_⟩, contentLength, isLength, ?_⟩ <;>
    rw [writes, writesCache, writesType, writesLength] <;>
    simp [FieldMap.get, differ, Ne.symm]

/-- What is built has the headers of its builder, or is an internal error. -/
theorem of_orInternalError
    {res : ResponseBuilder}
    {code : StatusCode}
    {content : Body}
    (isOk :
      (orInternalError ((res.status code).body content)).status = .ok) :
    ∃ parts, res.parts = some parts ∧ code = .ok ∧
      (orInternalError ((res.status code).body content)).headers = parts.2 ∧
      (orInternalError ((res.status code).body content)).body = content := by
  cases built : res.parts with
  | none =>
      simp [ResponseBuilder.status, ResponseBuilder.body, built,
        orInternalError, newInternalErrorResponse500, errorResponse] at isOk
      cases isOk
  | some parts =>
      simp only [ResponseBuilder.status, ResponseBuilder.body, built,
        orInternalError, Option.map_some, Option.getD_some] at isOk ⊢
      exact ⟨parts, rfl, isOk, rfl, trivial⟩

end Builder

section Log

variable {log : FileLog} {made : AnsweredQuery FileAccess FileAccess.Answer}

theorem metadataRead_concat_of_none (isNone : metadataOf made = none) :
    metadataRead (log ++ [made]) = metadataRead log := by
  simp [metadataRead, List.filterMap_append, isNone]

theorem metadataRead_concat_of_some
    {found : Path × Metadata}
    (isSome : metadataOf made = some found) :
    metadataRead (log ++ [made]) = some found := by
  simp [metadataRead, List.filterMap_append, isSome]

end Log

section Safety

variable {sha256 mimeFromExt site target fits allowed}
variable {now : SharedFiles File} {log : FileLog}

/-- Entries fit their labels whatever else the files become. -/
theorem CacheFits.of_le
    {files after : SharedFiles File}
    (cacheFits : CacheFits target fits files)
    (grows : files ≤ after)
    (kept :
      ∀ key entry, after.cache key = some entry →
        files.cache key = some entry) :
    CacheFits target fits after := by
  intro key entry isEntry
  obtain ⟨version, member, data, isFitting⟩ :=
    cacheFits key entry (kept key entry isEntry)
  exact ⟨version, FileHistory.mem_of_le (grows _) member, data, isFitting⟩

/-- An entry leaves the cache. -/
theorem of_update_none
    {cache : Identity → Option CachedFile}
    {removed key : Identity}
    {entry : CachedFile}
    (isEntry : Function.update cache removed none key = some entry) :
    cache key = some entry := by
  obtain rfl | differs := eq_or_ne key removed
  · simp at isEntry
  · rwa [Function.update_of_ne differs] at isEntry

/-- An entry that fits is written. -/
theorem CacheFits.setCache
    {files : SharedFiles File}
    {path : Path}
    {version : FileVersion}
    {entry : CachedFile}
    (cacheFits : CacheFits target fits files)
    (member : version ∈ (files.historyAt target path).versions)
    (data : version.content = entry.data)
    (isFitting : fits entry.modifiedAt entry.size version) :
    CacheFits target fits (files.setCache path (some entry)) := by
  intro key other isEntry
  obtain rfl | differs := eq_or_ne key (identity path)
  · simp only [SharedFiles.setCache, Function.update_self,
      Option.some.injEq] at isEntry
    subst isEntry
    exact ⟨version, member, data, isFitting⟩
  · simp only [SharedFiles.setCache, Function.update_of_ne differs] at isEntry
    exact cacheFits key other isEntry

/-- A request that has found a version of a file. -/
structure Found
    (target : Identity → File)
    (files : SharedFiles File)
    (log : FileLog)
    (path : Path)
    (found : FileVersion) : Prop where
  read : metadataRead log = some (path, found.metadata)
  foundMem : found ∈ (files.historyAt target path).versions

theorem Found.mono
    {later : SharedFiles File}
    {path : Path}
    {found : FileVersion}
    (isFound : Found target now log path found)
    (grows : now ≤ later) : Found target later log path found :=
  ⟨isFound.read, SharedFiles.mem_versions_of_le grows isFound.foundMem⟩

/-- Accesses to anything but metadata leave it at that. -/
theorem Found.concat
    {made : AnsweredQuery FileAccess FileAccess.Answer}
    {path : Path}
    {found : FileVersion}
    (isFound : Found target now log path found)
    (isNone : metadataOf made = none) :
    Found target now (log ++ [made]) path found :=
  ⟨(metadataRead_concat_of_none isNone).trans isFound.read, isFound.foundMem⟩

section Requests

variable [DecidableEq File]

/-- What is modified or evicted leaves the entries as they fit. -/
theorem CacheFits.changes
    {files after : SharedFiles File}
    (cacheFits : CacheFits target fits files)
    (changes : SharedFiles.Changes files after) :
    CacheFits target fits after ∧ files ≤ after := by
  refine ⟨cacheFits.of_le changes.le ?_, changes.le⟩
  intro key entry isEntry
  cases changes with
  | modify =>
      exact isEntry
  | evict =>
      exact of_update_none isEntry

/-- Requests that are safe when every read is allowed. -/
abbrev SafeRequest
    (sha256 : Sha256)
    (target : Identity → File)
    (fits : Nat → UInt64 → FileVersion → Prop)
    (allowed : SharedFiles File → FileLog → FileAccess → Prop) :
    SharedFiles File → FileLog → FileProgram Response → Prop :=
  Safe (sharedFiles target) allowed (CacheFits target fits)
    (ServesFitting sha256 target fits)

/-- A response without a file. -/
theorem SafeRequest.of_status_ne
    {res : Response}
    (isOther : res.status ≠ .ok) :
    SafeRequest sha256 target fits allowed now log (pure res) :=
  fun _ _ _ isOk => absurd isOk isOther

/-- A response with the content of a version that fits. -/
theorem Found.safe_response
    {path : Path}
    {found served : FileVersion}
    {res : ResponseBuilder}
    {content : Bytes}
    (isFound : Found target now log path found)
    (describes : Describes sha256 path found res)
    (servedMem : served ∈ (now.historyAt target path).versions)
    (isContent : served.content = content)
    (isFitting : fits found.modified found.size served) :
    SafeRequest sha256 target fits allowed now log
      (pure (orInternalError ((res.status .ok).body (.full content)))) := by
  intro later grows _ isOk
  obtain ⟨parts, built, -, headers, body⟩ := of_orInternalError isOk
  obtain ⟨etag, contentLength⟩ := describes parts built
  have isFoundLater := isFound.mono grows
  refine ⟨path, found, served, ?_, isFitting⟩
  constructor
  · exact isFoundLater.read
  · exact isFoundLater.foundMem
  · exact SharedFiles.mem_versions_of_le grows servedMem
  · rw [headers]
    exact etag
  · rw [headers]
    exact contentLength
  · rw [body, isContent]

/-- Reading the file, keeping it and sending it back. -/
theorem Found.safe_readAndCache
    {path : Path}
    {found : FileVersion}
    {res : ResponseBuilder}
    (readsFit : ReadsFit target fits allowed)
    (isFound : Found target now log path found)
    (describes : Describes sha256 path found res) :
    SafeRequest sha256 target fits allowed now log
      (StaticSiteService.readAndCache path found.size found.modified res) := by
  refine Safe.request_bind ?_
  intro files grows keeps isAllowed reply after answers
  have foundHere := isFound.mono grows
  cases answers with
  | notRead kind =>
      exact ⟨⟨keeps, le_rfl⟩, SafeRequest.of_status_ne (by decide)⟩
  | read =>
      have isFitting :=
        readsFit files log path found isAllowed foundHere.read
          foundHere.foundMem
      refine ⟨⟨keeps, le_rfl⟩, Safe.request_bind ?_⟩
      intro before later keepsStill _ stored after answers
      have servedMem :
          (files.historyAt target path).current ∈
            (before.historyAt target path).versions :=
        SharedFiles.mem_versions_of_le later FileHistory.current_mem
      have grown := answers.le
      have foundStill := foundHere.mono (le_trans later grown)
      cases answers
      refine ⟨⟨keepsStill.setCache servedMem rfl isFitting, grown⟩, ?_⟩
      refine Found.safe_response ?_ describes servedMem rfl isFitting
      exact Found.concat (Found.concat foundStill rfl) rfl

/-- A file from the cache, or read anew. -/
theorem Found.safe_serveCached
    {path : Path}
    {found : FileVersion}
    {res : ResponseBuilder}
    (readsFit : ReadsFit target fits allowed)
    (isFound : Found target now log path found)
    (describes : Describes sha256 path found res) :
    SafeRequest sha256 target fits allowed now log
      (StaticSiteService.serveCached path found.size found.modified res) := by
  refine Safe.request_bind ?_
  intro files grows keeps _ reply after answers
  have foundHere := isFound.mono grows
  cases answers
  refine ⟨⟨keeps, le_rfl⟩, ?_⟩
  cases cached : files.cache (identity path) with
  | none =>
      exact Found.safe_readAndCache readsFit (Found.concat foundHere rfl)
        describes
  | some cachedFile =>
      dsimp only
      split
      · next isCurrent =>
          obtain ⟨served, servedMem, data, isFitting⟩ :=
            keeps (identity path) cachedFile cached
          rw [isCurrent.1, isCurrent.2] at isFitting
          exact Found.safe_response (Found.concat foundHere rfl) describes
            servedMem data isFitting
      · refine Safe.request_bind ?_
        intro before later keepsStill _ removed after answers
        have grown := answers.le
        have foundStill := foundHere.mono (le_trans later grown)
        cases answers
        refine ⟨⟨keepsStill.of_le grown fun _ _ => of_update_none, grown⟩, ?_⟩
        exact Found.safe_readAndCache readsFit
          (Found.concat (Found.concat foundStill rfl) rfl) describes

/-- A file that was found is small and has a modification time. -/
theorem Found.safe_serveFile
    {path : Path}
    {found : FileVersion}
    (readsFit : ReadsFit target fits allowed)
    (isFound : Found target now log path found)
    (req : Request) :
    SafeRequest sha256 target fits allowed now log
      (StaticSiteService.serveFile sha256 mimeFromExt req path
        found.metadata) := by
  have describes := describes_fileResponse sha256 mimeFromExt path found
  unfold StaticSiteService.serveFile
  simp only [FileVersion.modifiedAt_metadata]
  split
  · intro later _ _ isOk
    obtain ⟨_, _, isOther, _⟩ := of_orInternalError isOk
    cases isOther
  · have isSmall : found.metadata.size ≤ cachingFileSizeLimit :=
      found.size_le
    rw [if_pos isSmall]
    exact isFound.safe_serveCached readsFit describes

/-- What looking up a file comes to: a refusal, or a version that was found. -/
def FindsFile
    (target : Identity → File)
    (files : SharedFiles File)
    (log : FileLog) : Except Response (Path × Metadata) → Prop
  | .error res =>
      res.status ≠ .ok
  | .ok (path, metadata) =>
      ∃ found, metadata = found.metadata ∧ Found target files log path found

/-- A program whose value says what looking up a file comes to. -/
abbrev SafeLookup
    (target : Identity → File)
    (fits : Nat → UInt64 → FileVersion → Prop)
    (allowed : SharedFiles File → FileLog → FileAccess → Prop) :
    SharedFiles File → FileLog →
      FileProgram (Except Response (Path × Metadata)) → Prop :=
  Safe (sharedFiles target) allowed (CacheFits target fits) (FindsFile target)

/-- A lookup that is refused. -/
theorem SafeLookup.of_status_ne
    {res : Response}
    (isOther : res.status ≠ .ok) :
    SafeLookup target fits allowed now log (pure (.error res)) :=
  fun _ _ _ => isOther

/-- A lookup that finds a file. -/
theorem Found.safeLookup
    {path : Path}
    {found : FileVersion}
    (isFound : Found target now log path found) :
    SafeLookup target fits allowed now log
      (pure (.ok (path, found.metadata))) :=
  fun _ grows _ => ⟨found, rfl, isFound.mono grows⟩

/-- One access to metadata, which finds a file or leads to something else. -/
theorem safe_fsMetadata_bind
    {path : Path}
    {following :
      Except IoErrorKind Metadata →
        FileProgram (Except Response (Path × Metadata))}
    (onFile :
      ∀ found : FileVersion,
        following (.ok found.metadata) = pure (.ok (path, found.metadata)))
    (onOther :
      ∀ later log reply,
        (∀ metadata, reply = .ok metadata → metadata.isDir = true) →
        SafeLookup target fits allowed later log (following reply)) :
    SafeLookup target fits allowed now log
      (fsMetadata path >>= following) := by
  refine Safe.request_bind ?_
  intro files grows keeps _ reply after answers
  cases answers with
  | metadata =>
      refine ⟨⟨keeps, le_rfl⟩, ?_⟩
      rw [onFile]
      exact Found.safeLookup
        ⟨metadataRead_concat_of_some rfl, FileHistory.current_mem⟩
  | directory _ metadata isDir =>
      refine ⟨⟨keeps, le_rfl⟩, onOther files _ _ ?_⟩
      rintro _ ⟨⟩
      exact isDir
  | noMetadata =>
      exact ⟨⟨keeps, le_rfl⟩, onOther files _ _ nofun⟩

/-- A second path that has to be a file. -/
theorem safe_tryMetadata_bind (path : Path) :
    SafeLookup target fits allowed now log (do
      match ← tryMetadata path with
      | .ok metadata => pure (.ok (path, metadata))
      | .error res => pure (.error res)) := by
  unfold tryMetadata
  rw [Program.bind_assoc]
  refine safe_fsMetadata_bind ?_ ?_
  · intro found
    rfl
  · intro later log reply isOther
    cases reply with
    | ok metadata =>
        simp only [isOther metadata rfl, if_true]
        exact SafeLookup.of_status_ne (by decide)
    | error kind =>
        cases kind <;> exact SafeLookup.of_status_ne (by decide)

theorem safe_locate (root urlPath : Str) :
    SafeLookup target fits allowed now log (locate root urlPath) := by
  unfold locate
  refine safe_fsMetadata_bind ?_ ?_
  · intro found
    rfl
  · intro later log reply isOther
    cases reply with
    | ok metadata =>
        simp only [isOther metadata rfl, if_true]
        exact safe_tryMetadata_bind _
    | error kind =>
        cases kind with
        | other =>
            exact SafeLookup.of_status_ne (by decide)
        | notFound =>
            dsimp only
            split
            · exact SafeLookup.of_status_ne (by decide)
            · exact safe_tryMetadata_bind _

/-- A request is safe when each read finds a version that fits. -/
theorem safe_handleHttpRequest
    (readsFit : ReadsFit target fits allowed)
    (req : Request)
    (keeps : CacheFits target fits now) :
    SafeRequest sha256 target fits allowed now log
      (site.handleHttpRequest sha256 mimeFromExt req) := by
  unfold StaticSiteService.handleHttpRequest
  split
  · exact SafeRequest.of_status_ne (by decide)
  · split
    · exact SafeRequest.of_status_ne (by decide)
    · refine (safe_locate site.config.root (urlPath req)).bind keeps ?_
      intro value later laterLog grows keepsStill finds
      match value with
      | .error res =>
          exact SafeRequest.of_status_ne finds
      | .ok (path, metadata) =>
          obtain ⟨found, rfl, isFound⟩ := finds
          exact isFound.safe_serveFile readsFit req

/-- In every run the cache and the responses that were served fit. -/
theorem cacheFits_and_servesFitting_of_run
    {histories : File → FileHistory}
    {events : List SiteEvent}
    {pool : SitePool File}
    (readsFit : ReadsFit target fits allowed)
    (run :
      Transition.Run
        (Transition.Guarded (Pool.Allows allowed)
          (SiteStep sha256 mimeFromExt site target))
        (startedSite histories) events pool) :
    CacheFits target fits pool.shared ∧
      ∀ index log res,
        pool.processes index = some ⟨log, .done res⟩ →
        ServesFitting sha256 target fits pool.shared log res := by
  have allSafe :
      pool.AllSafe (sharedFiles target) allowed (CacheFits target fits)
        (ServesFitting sha256 target fits) :=
    Pool.allSafe_of_run (fun keeps changes => keeps.changes changes)
      (fun req _ keeps => safe_handleHttpRequest readsFit req keeps) run
      ⟨nofun, nofun⟩
  exact ⟨allSafe.1, fun index log res isDone => allSafe.done isDone⟩

end Requests

end Safety

end

end Pingoo
