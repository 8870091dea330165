import Pingoo.StaticSiteContainment

namespace Pingoo

/-!
# Conditional requests for files

The entity tag of a file is a digest of its path, its size and its modification
time.  A request that names the tag of the current version is answered without a
body; one that names the tag of another version is answered as if it named none.
-/

open Interaction UnixPath

/--
What an entity tag is made of: the path of a file, its size, and its
modification time in nanoseconds, a `u128`.
-/
@[ext]
structure TaggedVersion where
  path : Path
  size : UInt64
  modifiedAt : Nat
  inRange : modifiedAt < 2 ^ 128

/-- Two inputs differ and have the same digest. -/
def Collide (sha256 : Sha256) (first second : Bytes) : Prop :=
  first ≠ second ∧ sha256 first = sha256 second

namespace TaggedVersion

/-- What is hashed. -/
def input (version : TaggedVersion) : Bytes :=
  Str.asBytes version.path ++ toLeBytes 8 version.size.toNat ++
    toLeBytes 16 version.modifiedAt

/-- The entity tag. -/
def etag (sha256 : Sha256) (version : TaggedVersion) : Str :=
  StaticSiteService.etag sha256 version.path version.size version.modifiedAt

/-- The fields of fixed width are read from the end, and the rest is the path. -/
theorem input_injective : Function.Injective input := by
  intro first second same
  obtain ⟨sameFront, sameTime⟩ := List.append_inj' same (by simp)
  obtain ⟨samePath, sameSize⟩ := List.append_inj' sameFront (by simp)
  have small (size : UInt64) : size.toNat < 2 ^ (8 * 8) :=
    size.toNat_lt
  exact TaggedVersion.ext (Str.asBytes_injective samePath)
    (UInt64.toNat_inj.mp (eq_of_toLeBytes_eq (small _) (small _) sameSize))
    (eq_of_toLeBytes_eq first.inRange second.inRange sameTime)

end TaggedVersion

/-- A tag without its quotes is the digest in hexadecimal. -/
theorem trimMatches_etag
    (sha256 : Sha256)
    (path : Path)
    (size : UInt64)
    (modifiedAt : Nat) :
    (StaticSiteService.etag sha256 path size modifiedAt).trimMatches '"' =
      Str.hexEncode (sha256 (Str.asBytes path ++ toLeBytes 8 size.toNat ++
        toLeBytes 16 modifiedAt)).toList := by
  refine Str.trimMatches_of_surrounded fun inDigest => ?_
  have isPlain := isAlphanum_of_mem_hexEncode inDigest
  exact absurd isPlain (by decide)

/-- Versions with one tag, with or without its quotes, have one digest. -/
theorem TaggedVersion.eq_of_trimMatches_etag_eq
    {sha256 : Sha256}
    {first second : TaggedVersion}
    (noCollision : ¬ Collide sha256 first.input second.input)
    (same :
      (first.etag sha256).trimMatches '"' =
        (second.etag sha256).trimMatches '"') : first = second := by
  rw [etag, etag, trimMatches_etag, trimMatches_etag] at same
  have sameDigest : sha256 first.input = sha256 second.input :=
    Vector.toList_inj.mp (hexEncode_injective same)
  by_contra differ
  exact noCollision ⟨fun sameInput => differ (input_injective sameInput),
    sameDigest⟩

section

variable
  (sha256 : Sha256) (mimeFromExt : Str → Str)
  (oracle : FileOracle) (site : StaticSiteService)

/-- The answer to a request. -/
def StaticSiteService.answer (req : Request) : Response :=
  ((site.handleHttpRequest sha256 mimeFromExt req).run oracle []).1

/-- The request is for a file that is found, at a path and with metadata. -/
structure StaticSiteService.Finds
    (req : Request)
    (path : Path)
    (metadata : Metadata) : Prop where
  method : req.method = .get ∨ req.method = .head
  pathAllowed : isPathRefused (urlPath req) = false
  located :
    ((locate site.config.root (urlPath req)).run oracle []).1 =
      .ok (path, metadata)

/-- The request is for a file whose current version is found. -/
def StaticSiteService.FindsVersion
    (req : Request)
    (current : TaggedVersion) : Prop :=
  ∃ metadata,
    site.Finds oracle req current.path metadata ∧
      metadata.size = current.size ∧
        metadata.modifiedAt = some current.modifiedAt

/-- The file can be read and streamed whenever it is tried. -/
structure CanBeRead (path : Path) : Prop where
  read : ∀ log, ∃ content, oracle log (.read path) = .ok content
  openFile : ∀ log, oracle log (.openFile path) = .ok ()

/--
A body with the file: an entry of the cache with its modification time and its
size, what was read, or what is streamed.
-/
inductive CarriesFile (current : TaggedVersion) : Body → Prop where
  | cached
      {log : List FileAccess} {entry : CachedFile}
      (isCached : oracle log (.cacheGet current.path) = some entry)
      (sameTime : entry.modifiedAt = current.modifiedAt)
      (sameSize : entry.size = current.size) :
      CarriesFile current (.full entry.data)
  | read
      {log : List FileAccess} {content : Bytes}
      (isRead : oracle log (.read current.path) = .ok content) :
      CarriesFile current (.full content)
  | streamed
      {log : List FileAccess}
      (isOpened : oracle log (.openFile current.path) = .ok ()) :
      CarriesFile current (.stream current.path)

/-- A response that succeeds, with the file. -/
def SendsFile (current : TaggedVersion) (res : Response) : Prop :=
  res.status = .ok ∧ CarriesFile oracle current res.body

/-- The content type of a file is a header value. -/
def HasContentType (path : Path) : Prop :=
  (HeaderValue.fromStr (mimeFromExt ((extension path).getD []))).isSome = true

/-- The content of a file that has an entity tag. -/
def StaticSiteService.serveContent
    (path : Path)
    (size : UInt64)
    (modifiedAt : Nat) : FileProgram Response :=
  let res :=
    (fileResponse mimeFromExt path size).header .etag
      (HeaderValue.fromStr (StaticSiteService.etag sha256 path size modifiedAt))
  if size ≤ cachingFileSizeLimit then
    serveCached path size modifiedAt res
  else
    streamFile path res

end

section NotModified

/-- What is built as a success is one, or an internal error. -/
theorem status_orInternalError_ne (res : ResponseBuilder) (content : Body) :
    (orInternalError ((res.status .ok).body content)).status ≠
      .notModified := by
  cases built : res.parts with
  | none =>
      simp only [orInternalError, ResponseBuilder.body, ResponseBuilder.status,
        built]
      exact (by decide : newInternalErrorResponse500.status ≠ .notModified)
  | some parts =>
      simp only [orInternalError, ResponseBuilder.body, ResponseBuilder.status,
        built]
      exact (by decide : StatusCode.ok ≠ .notModified)

theorem returns_streamFile (path : Path) (res : ResponseBuilder) :
    (StaticSiteService.streamFile path res).Returns
      (·.status ≠ .notModified) := by
  refine Program.Returns.request_bind fun opened => ?_
  cases opened with
  | error =>
      exact (by decide : newInternalErrorResponse500.status ≠ .notModified)
  | ok =>
      exact status_orInternalError_ne _ _

theorem returns_readAndCache
    (path : Path)
    (size : UInt64)
    (modifiedAt : Nat)
    (res : ResponseBuilder) :
    (StaticSiteService.readAndCache path size modifiedAt res).Returns
      (·.status ≠ .notModified) := by
  refine Program.Returns.request_bind fun content => ?_
  cases content with
  | error =>
      exact (by decide : newInternalErrorResponse500.status ≠ .notModified)
  | ok =>
      exact Program.Returns.request_bind fun _ => status_orInternalError_ne _ _

theorem returns_serveCached
    (path : Path)
    (size : UInt64)
    (modifiedAt : Nat)
    (res : ResponseBuilder) :
    (StaticSiteService.serveCached path size modifiedAt res).Returns
      (·.status ≠ .notModified) := by
  refine Program.Returns.request_bind fun cached => ?_
  have fresh := returns_readAndCache path size modifiedAt res
  cases cached with
  | none =>
      exact fresh
  | some cachedFile =>
      dsimp only
      split
      · exact status_orInternalError_ne _ _
      · exact Program.Returns.request_bind fun _ => fresh

/-- Content is not sent as a file that was not modified. -/
theorem returns_serveContent
    (sha256 : Sha256)
    (mimeFromExt : Str → Str)
    (path : Path)
    (size : UInt64)
    (modifiedAt : Nat) :
    (StaticSiteService.serveContent sha256 mimeFromExt path size
      modifiedAt).Returns (·.status ≠ .notModified) := by
  unfold StaticSiteService.serveContent
  dsimp only
  split
  · exact returns_serveCached _ _ _ _
  · exact returns_streamFile _ _

/-- A file that is not found is no file that was not modified. -/
theorem returns_tryMetadata (path : Path) :
    (tryMetadata path).Returns
      fun found => ∀ res, found = .error res → res.status ≠ .notModified := by
  refine Program.Returns.request_bind fun answer => ?_
  cases answer with
  | ok metadata =>
      dsimp only
      split
      · rintro res ⟨⟩
        decide
      · exact nofun
  | error kind =>
      cases kind <;>
        · rintro res ⟨⟩
          decide

theorem returns_locate (root urlPath : Str) :
    (locate root urlPath).Returns
      fun found => ∀ res, found = .error res → res.status ≠ .notModified := by
  -- the second look at the file system, and what is made of its answer
  have completed
      (path : Path)
      {next : Except Response Metadata →
        FileProgram (Except Response (Path × Metadata))}
      (onOk : ∀ metadata, next (.ok metadata) = pure (.ok (path, metadata)))
      (onError : ∀ res, next (.error res) = pure (.error res)) :
      (tryMetadata path >>= next).Returns
        fun found => ∀ res, found = .error res → res.status ≠ .notModified := by
    refine (returns_tryMetadata path).bind fun found isOther => ?_
    cases found with
    | ok metadata =>
        rw [onOk]
        rintro other ⟨⟩
    | error res =>
        rw [onError]
        rintro other ⟨⟩
        exact isOther res rfl
  refine Program.Returns.request_bind fun answer => ?_
  cases answer with
  | ok metadata =>
      dsimp only
      split
      · exact completed _ (fun _ => rfl) (fun _ => rfl)
      · rintro res ⟨⟩
  | error kind =>
      cases kind with
      | notFound =>
          dsimp only
          split
          · rintro res ⟨⟩
            decide
          · exact completed _ (fun _ => rfl) (fun _ => rfl)
      | other =>
          rintro res ⟨⟩
          decide

end NotModified

section Answers

variable
  {sha256 : Sha256} {mimeFromExt : Str → Str}
  {oracle : FileOracle} {site : StaticSiteService}
  {req : Request} {path : Path} {metadata : Metadata}

variable (sha256 mimeFromExt) in
/-- A file that is found is served. -/
theorem answer_of_finds (finds : site.Finds oracle req path metadata) :
    ∃ log,
      site.answer sha256 mimeFromExt oracle req =
        ((StaticSiteService.serveFile sha256 mimeFromExt req path
          metadata).run oracle log).1 := by
  have allowed : ¬ (req.method ≠ .get ∧ req.method ≠ .head) := by
    rcases finds.method with isGet | isHead <;> simp [*]
  refine ⟨((locate site.config.root (urlPath req)).run oracle []).2, ?_⟩
  rw [StaticSiteService.answer, StaticSiteService.handleHttpRequest,
    if_neg allowed, if_neg (by simp [finds.pathAllowed]), Program.run_bind,
    finds.located]

/-- Where no file is found the answer is an error. -/
theorem finds_of_notModified
    (isNotModified :
      (site.answer sha256 mimeFromExt oracle req).status = .notModified) :
    ∃ path metadata, site.Finds oracle req path metadata := by
  rw [StaticSiteService.answer, StaticSiteService.handleHttpRequest]
    at isNotModified
  split at isNotModified
  · exact absurd isNotModified
      (by decide : newMethodNotAllowedError.status ≠ .notModified)
  next allowed =>
  split at isNotModified
  · exact absurd isNotModified
      (by decide : newNotFoundError.status ≠ .notModified)
  next pathAllowed =>
  have isOther :=
    (returns_locate site.config.root (urlPath req)).run oracle []
  rw [Program.run_bind] at isNotModified
  cases located :
      ((locate site.config.root (urlPath req)).run oracle []).1 with
  | error res =>
      rw [located] at isNotModified
      exact absurd isNotModified (isOther res located)
  | ok found =>
      refine ⟨found.1, found.2, ?_, by simpa using pathAllowed, located⟩
      by_contra neither
      exact allowed (not_or.mp neither)

/-- Without its tag a file with a modification time is sent. -/
theorem serveFile_of_ne
    {modifiedAt : Nat}
    (isModified : metadata.modifiedAt = some modifiedAt)
    (differs :
      ifNoneMatch req ≠
        some ((StaticSiteService.etag sha256 path metadata.size
          modifiedAt).trimMatches '"')) :
    StaticSiteService.serveFile sha256 mimeFromExt req path metadata =
      StaticSiteService.serveContent sha256 mimeFromExt path metadata.size
        modifiedAt := by
  rw [StaticSiteService.serveFile, isModified]
  exact if_neg fun named => differs named.1

/-- A file is called unmodified only if the request has its current tag. -/
theorem ifNoneMatch_of_notModified
    (isNotModified :
      (site.answer sha256 mimeFromExt oracle req).status = .notModified) :
    ∃ path metadata modifiedAt,
      site.Finds oracle req path metadata ∧
        metadata.modifiedAt = some modifiedAt ∧
          ifNoneMatch req =
            some ((StaticSiteService.etag sha256 path metadata.size
              modifiedAt).trimMatches '"') := by
  obtain ⟨path, metadata, finds⟩ := finds_of_notModified isNotModified
  obtain ⟨log, isAnswer⟩ := answer_of_finds sha256 mimeFromExt finds
  rw [isAnswer] at isNotModified
  cases isModified : metadata.modifiedAt with
  | none =>
      rw [StaticSiteService.serveFile, isModified] at isNotModified
      exact absurd isNotModified ((returns_streamFile _ _).run oracle log)
  | some modifiedAt =>
      refine ⟨path, metadata, modifiedAt, finds, isModified, ?_⟩
      by_contra differs
      rw [serveFile_of_ne isModified differs] at isNotModified
      exact absurd isNotModified
        ((returns_serveContent _ _ _ _ _).run oracle log)

/-- A header is written where nothing went wrong and its value is one. -/
theorem isSome_parts_header
    {builder : ResponseBuilder}
    {value : Option HeaderValue}
    (builds : builder.parts.isSome = true)
    (isValue : value.isSome = true)
    (name : HeaderName) : (builder.header name value).parts.isSome = true := by
  obtain ⟨parts, isBuilt⟩ := Option.isSome_iff_exists.mp builds
  obtain ⟨written, rfl⟩ := Option.isSome_iff_exists.mp isValue
  simp [ResponseBuilder.header, isBuilt]

/-- A visible text is a header value. -/
theorem isSome_fromStr
    {text : Str}
    (visible : ∀ character ∈ text, isVisibleAscii character = true) :
    (HeaderValue.fromStr text).isSome = true := by
  obtain ⟨value, isValue, -⟩ := HeaderValue.fromStr_of_isVisibleAscii visible
  rw [isValue]
  rfl

theorem isVisibleAscii_of_mem_etag
    {size : UInt64}
    {modifiedAt : Nat} :
    ∀ character ∈ StaticSiteService.etag sha256 path size modifiedAt,
      isVisibleAscii character = true := by
  intro character member
  rcases List.mem_append.mp member with inFront | isQuote
  · rcases List.mem_cons.mp inFront with rfl | inDigest
    · decide
    · exact isVisibleAscii_of_isAlphanum (isAlphanum_of_mem_hexEncode inDigest)
  · obtain rfl := List.mem_singleton.mp isQuote
    decide

variable (sha256) in
/-- The headers of a file are header values. -/
theorem isSome_parts_fileResponse
    (hasContentType : HasContentType mimeFromExt path)
    (size : UInt64)
    (modifiedAt : Nat) :
    ((StaticSiteService.fileResponse mimeFromExt path size).header .etag
      (HeaderValue.fromStr (StaticSiteService.etag sha256 path size
        modifiedAt))).parts.isSome = true := by
  have contentLength : (HeaderValue.fromStr (Str.decimal size.toNat)).isSome =
      true :=
    isSome_fromStr fun _ member =>
      isVisibleAscii_of_isAlphanum (isAlphanum_of_mem_decimal member)
  exact isSome_parts_header
    (isSome_parts_header
      (isSome_parts_header (isSome_parts_header rfl contentLength _)
        hasContentType _) rfl _)
    (isSome_fromStr isVisibleAscii_of_mem_etag) _

/-- What is built with headers that are header values is a success. -/
theorem orInternalError_of_isSome
    {res : ResponseBuilder}
    (builds : res.parts.isSome = true)
    (content : Body) :
    (orInternalError ((res.status .ok).body content)).status = .ok ∧
      (orInternalError ((res.status .ok).body content)).body = content := by
  obtain ⟨parts, isBuilt⟩ := Option.isSome_iff_exists.mp builds
  simp [orInternalError, ResponseBuilder.body, ResponseBuilder.status, isBuilt]

variable {res : ResponseBuilder} {current : TaggedVersion}

theorem sendsFile_of_isSome
    (builds : res.parts.isSome = true)
    {content : Body}
    (carries : CarriesFile oracle current content) :
    SendsFile oracle current
      (orInternalError ((res.status .ok).body content)) := by
  obtain ⟨isOk, isContent⟩ := orInternalError_of_isSome builds content
  exact ⟨isOk, isContent.symm ▸ carries⟩

theorem sendsFile_streamFile
    (canBeRead : CanBeRead oracle current.path)
    (builds : res.parts.isSome = true)
    (log : List FileAccess) :
    SendsFile oracle current
      ((StaticSiteService.streamFile current.path res).run oracle log).1 := by
  have isOpened := canBeRead.openFile log
  rw [StaticSiteService.streamFile, fileOpen, Program.run_request_bind,
    isOpened]
  exact sendsFile_of_isSome builds (.streamed isOpened)

theorem sendsFile_readAndCache
    (canBeRead : CanBeRead oracle current.path)
    (builds : res.parts.isSome = true)
    (log : List FileAccess) :
    SendsFile oracle current
      ((StaticSiteService.readAndCache current.path current.size
        current.modifiedAt res).run oracle log).1 := by
  obtain ⟨content, isRead⟩ := canBeRead.read log
  rw [StaticSiteService.readAndCache, fsRead, Program.run_request_bind, isRead]
  exact sendsFile_of_isSome builds (.read isRead)

theorem sendsFile_serveCached
    (canBeRead : CanBeRead oracle current.path)
    (builds : res.parts.isSome = true)
    (log : List FileAccess) :
    SendsFile oracle current
      ((StaticSiteService.serveCached current.path current.size
        current.modifiedAt res).run oracle log).1 := by
  rw [StaticSiteService.serveCached, cacheGet, Program.run_request_bind]
  cases isCached : oracle log (.cacheGet current.path) with
  | none =>
      exact sendsFile_readAndCache canBeRead builds _
  | some cachedFile =>
      dsimp only
      split
      · next isCurrent =>
          exact sendsFile_of_isSome builds
            (.cached isCached isCurrent.1 isCurrent.2)
      · exact sendsFile_readAndCache canBeRead builds _

/-- A file that can be read is sent. -/
theorem sendsFile_serveContent
    (canBeRead : CanBeRead oracle current.path)
    (hasContentType : HasContentType mimeFromExt current.path)
    (log : List FileAccess) :
    SendsFile oracle current
      ((StaticSiteService.serveContent sha256 mimeFromExt current.path
        current.size current.modifiedAt).run oracle log).1 := by
  have builds := isSome_parts_fileResponse sha256 hasContentType
    current.size current.modifiedAt
  unfold StaticSiteService.serveContent
  dsimp only
  split
  · exact sendsFile_serveCached canBeRead builds log
  · exact sendsFile_streamFile canBeRead builds log

/-- A request that names another version is answered with the file. -/
theorem answer_of_otherVersion
    {held : TaggedVersion}
    (finds : site.FindsVersion oracle req current)
    (differs : held ≠ current)
    (noCollision : ¬ Collide sha256 held.input current.input)
    (names : ifNoneMatch req = some ((held.etag sha256).trimMatches '"')) :
    ∃ log,
      site.answer sha256 mimeFromExt oracle req =
        ((StaticSiteService.serveContent sha256 mimeFromExt current.path
          current.size current.modifiedAt).run oracle log).1 := by
  obtain ⟨metadata, findsFile, sameSize, isModified⟩ := finds
  obtain ⟨log, isAnswer⟩ := answer_of_finds sha256 mimeFromExt findsFile
  refine ⟨log, ?_⟩
  have isOther :
      ifNoneMatch req ≠
        some ((StaticSiteService.etag sha256 current.path metadata.size
          current.modifiedAt).trimMatches '"') := by
    rw [names, sameSize]
    intro same
    exact differs (TaggedVersion.eq_of_trimMatches_etag_eq noCollision
      (Option.some.inj same))
  rw [isAnswer, serveFile_of_ne isModified isOther, sameSize]

end Answers

/--
Tags tell versions apart where the digest does not collide.  A file is called
unmodified only if the request names the tag of its path, size and modification
time; and a request that names the tag of another version is not answered so,
but with the file when it can be read.
-/
theorem conditionalRequests_sound
    (sha256 : Sha256)
    (mimeFromExt : Str → Str) :
    (∀ first second : TaggedVersion,
      ¬ Collide sha256 first.input second.input →
        first.etag sha256 = second.etag sha256 → first = second) ∧
    ∀ (oracle : FileOracle) (site : StaticSiteService) (req : Request),
      ((site.answer sha256 mimeFromExt oracle req).status = .notModified →
        ∃ path metadata modifiedAt,
          site.Finds oracle req path metadata ∧
            metadata.modifiedAt = some modifiedAt ∧
              ifNoneMatch req =
                some ((StaticSiteService.etag sha256 path metadata.size
                  modifiedAt).trimMatches '"')) ∧
      ∀ current held : TaggedVersion,
        site.FindsVersion oracle req current →
        held ≠ current →
        ¬ Collide sha256 held.input current.input →
        ifNoneMatch req = some ((held.etag sha256).trimMatches '"') →
          (site.answer sha256 mimeFromExt oracle req).status ≠ .notModified ∧
            (CanBeRead oracle current.path →
              HasContentType mimeFromExt current.path →
                SendsFile oracle current
                  (site.answer sha256 mimeFromExt oracle req)) := by
  refine ⟨?_, fun oracle site req => ⟨ifNoneMatch_of_notModified, ?_⟩⟩
  · intro first second noCollision same
    exact TaggedVersion.eq_of_trimMatches_etag_eq noCollision
      (congrArg (Str.trimMatches · '"') same)
  · intro current held finds differs noCollision names
    obtain ⟨log, isAnswer⟩ :=
      answer_of_otherVersion finds differs noCollision names
    rw [isAnswer]
    exact ⟨(returns_serveContent _ _ _ _ _).run oracle log,
      fun canBeRead hasContentType =>
        sendsFile_serveContent canBeRead hasContentType log⟩

section Sample

/-- The first bytes of what is hashed, which tell the sample's inputs apart. -/
private def firstBytes : Sha256 :=
  fun input => Vector.ofFn fun position => input.getD position 0

private def samplePath : Path :=
  "/srv/a.txt".toList

private theorem sampleInRange : 0 < 2 ^ 128 := by
  decide

/-- A version of the file, modified at the epoch. -/
private def versionOfSize (size : UInt64) : TaggedVersion where
  path :=
    samplePath
  size :=
    size
  modifiedAt :=
    0
  inRange :=
    sampleInRange

/-- A request that names the tag of the version with two bytes. -/
private def heldRequest : Request :=
  { Request.ofPath .get "/a.txt".toList with
    headers := FieldMap.append ∅ .ifNoneMatch
      (.ofVisible ((versionOfSize 2).etag firstBytes)
        isVisibleAscii_of_mem_etag) }

/-- A client that holds two bytes is sent the file, which has one. -/
theorem conditionalRequests_sound_sample :
    (StaticSiteService.answer firstBytes id (.onlyFile samplePath)
        ⟨⟨"/srv".toList⟩⟩ heldRequest).status = .ok ∧
      CarriesFile (.onlyFile samplePath) (versionOfSize 1)
        (StaticSiteService.answer firstBytes id (.onlyFile samplePath)
          ⟨⟨"/srv".toList⟩⟩ heldRequest).body := by
  have finds :
      StaticSiteService.FindsVersion (.onlyFile samplePath)
        ⟨⟨"/srv".toList⟩⟩ heldRequest (versionOfSize 1) :=
    ⟨{ isDir := false, size := 1, modified := some 0 },
      ⟨Or.inl rfl, by decide, by decide⟩, rfl, rfl⟩
  have differs : versionOfSize 2 ≠ versionOfSize 1 := by
    intro same
    cases congrArg TaggedVersion.size same
  have noCollision :
      ¬ Collide firstBytes (versionOfSize 2).input (versionOfSize 1).input := by
    rintro ⟨-, sameDigest⟩
    revert sameDigest
    decide +kernel
  have names :
      ifNoneMatch heldRequest =
        some (((versionOfSize 2).etag firstBytes).trimMatches '"') := by
    decide +kernel
  have canBeRead : CanBeRead (.onlyFile samplePath) samplePath :=
    ⟨fun _ => ⟨[0], rfl⟩, fun _ => rfl⟩
  have hasContentType : HasContentType id samplePath :=
    isSome_fromStr (by decide)
  exact (((conditionalRequests_sound firstBytes id).2 _ _ _).2 _ _ finds differs
    noCollision names).2 canBeRead hasContentType

end Sample

end Pingoo
