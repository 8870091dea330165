import Mathlib.Order.Basic
import Pingoo.Library.ProgramPool
import Pingoo.StaticSite

namespace Pingoo

open Interaction UnixPath

/-!
# A static site among modifications

The requests to a static site share its cache and the file system.  Between two
accesses of a request other requests make theirs, files are modified, and
entries leave the cache.  Paths that are equal as path buffers lead to one file;
which paths are directories, and which accesses fail, is left open.
-/

/-- A version of a file that is not too large to be cached. -/
structure FileVersion where
  modified : Nat
  content : Bytes
  isSmall : content.length ≤ cachingFileSizeLimit.toNat
  deriving DecidableEq

namespace FileVersion

def size (version : FileVersion) : UInt64 :=
  .ofNat version.content.length

/-- What `fs::metadata` says of a file. -/
def metadata (version : FileVersion) : Metadata where
  isDir :=
    false
  size :=
    version.size
  modified :=
    some version.modified

@[simp] theorem toNat_size (version : FileVersion) :
    version.size.toNat = version.content.length := by
  have isSmall := version.isSmall
  have limit : cachingFileSizeLimit.toNat = 500000 := by
    decide
  rw [size, UInt64.toNat_ofNat']
  omega

theorem size_le (version : FileVersion) :
    version.size ≤ cachingFileSizeLimit := by
  rw [UInt64.le_iff_toNat_le, toNat_size]
  exact version.isSmall

@[simp] theorem modifiedAt_metadata (version : FileVersion) :
    version.metadata.modifiedAt = some version.modified := by
  simp [metadata, Metadata.modifiedAt]

/-- The metadata of a version tell its modification time and its size. -/
theorem eq_of_metadata_eq
    {first second : FileVersion}
    (same : first.metadata = second.metadata) :
    first.modified = second.modified ∧ first.size = second.size := by
  simpa [metadata, and_comm, Int.natCast_inj] using same

end FileVersion

/-- The versions of a file, each of them modified after the earlier ones. -/
structure FileHistory where
  current : FileVersion
  earlier : List FileVersion
  ordered :
    (current :: earlier).Pairwise fun newer older =>
      older.modified < newer.modified

namespace FileHistory

/-- A file that was not modified yet. -/
def ofVersion (version : FileVersion) : FileHistory where
  current :=
    version
  earlier :=
    []
  ordered :=
    List.pairwise_singleton _ _

/-- The versions of a file, the current one first. -/
def versions (history : FileHistory) : List FileVersion :=
  history.current :: history.earlier

variable {history later : FileHistory} {version first second : FileVersion}

theorem current_mem : history.current ∈ history.versions :=
  List.mem_cons_self

theorem modified_le_current (member : version ∈ history.versions) :
    version.modified ≤ history.current.modified := by
  rcases List.mem_cons.mp member with rfl | isEarlier
  · exact le_rfl
  · exact ((List.pairwise_cons.mp history.ordered).1 version isEarlier).le

/-- A version is told by its modification time. -/
theorem eq_of_modified_eq
    (isFirst : first ∈ history.versions)
    (isSecond : second ∈ history.versions)
    (same : first.modified = second.modified) : first = second := by
  have distinct :
      (history.versions.map FileVersion.modified).Nodup :=
    List.pairwise_map.mpr (history.ordered.imp fun isLater => isLater.ne')
  exact List.inj_on_of_nodup_map distinct isFirst isSecond same

/-- The file gets a new version. -/
def modify
    (history : FileHistory)
    (version : FileVersion)
    (isLater : history.current.modified < version.modified) :
    FileHistory where
  current :=
    version
  earlier :=
    history.versions
  ordered :=
    List.pairwise_cons.mpr
      ⟨fun _ member => (modified_le_current member).trans_lt isLater,
        history.ordered⟩

/-- A file grows by versions. -/
instance : Preorder FileHistory where
  le first second :=
    first.versions <:+ second.versions
  le_refl _ :=
    List.suffix_refl _
  le_trans _ _ _ :=
    List.IsSuffix.trans

theorem le_modify (isLater : history.current.modified < version.modified) :
    history ≤ history.modify version isLater :=
  List.suffix_cons _ _

theorem mem_of_le
    (grows : history ≤ later)
    (member : version ∈ history.versions) : version ∈ later.versions :=
  List.IsSuffix.subset grows member

end FileHistory

/-- The versions of the files, and the cache. -/
structure SharedFiles (File : Type) where
  histories : File → FileHistory
  cache : Identity → Option CachedFile

namespace SharedFiles

variable {File : Type}

instance : Preorder (SharedFiles File) :=
  Preorder.lift SharedFiles.histories

section Accesses

variable (target : Identity → File)

/-- The file a path leads to. -/
def historyAt (files : SharedFiles File) (path : Path) : FileHistory :=
  files.histories (target (identity path))

/-- Write or remove the entry of a path. -/
def setCache
    (files : SharedFiles File)
    (path : Path)
    (entry : Option CachedFile) : SharedFiles File :=
  { files with
    cache := Function.update files.cache (identity path) entry }

/-- How an access is answered, and what it changes. -/
inductive Answers (files : SharedFiles File) :
    (access : FileAccess) → access.Answer → SharedFiles File → Prop
  | metadata (path : Path) :
      Answers files (.metadata path)
        (.ok (files.historyAt target path).current.metadata) files
  | directory (path : Path) (metadata : Metadata)
      (isDir : metadata.isDir = true) :
      Answers files (.metadata path) (.ok metadata) files
  | noMetadata (path : Path) (kind : IoErrorKind) :
      Answers files (.metadata path) (.error kind) files
  | cacheGet (path : Path) :
      Answers files (.cacheGet path) (files.cache (identity path)) files
  | cacheRemove (path : Path) :
      Answers files (.cacheRemove path) () (files.setCache path none)
  | read (path : Path) :
      Answers files (.read path)
        (.ok (files.historyAt target path).current.content) files
  | notRead (path : Path) (kind : IoErrorKind) :
      Answers files (.read path) (.error kind) files
  | cacheInsert (path : Path) (file : CachedFile) :
      Answers files (.cacheInsert path file) ()
        (files.setCache path (some file))
  | openFile (path : Path) (opened : Except IoErrorKind Unit) :
      Answers files (.openFile path) opened files

/-- A file is modified, or an entry leaves the cache. -/
inductive Changes [DecidableEq File] (files : SharedFiles File) :
    SharedFiles File → Prop
  | modify (file : File) (version : FileVersion)
      (isLater : (files.histories file).current.modified < version.modified) :
      Changes files
        { files with
          histories :=
            Function.update files.histories file
              ((files.histories file).modify version isLater) }
  | evict (entry : Identity) :
      Changes files
        { files with cache := Function.update files.cache entry none }

variable {target} {files after : SharedFiles File}

/-- Accesses change no file. -/
theorem Answers.histories_eq
    {access : FileAccess}
    {reply : access.Answer}
    (answers : Answers target files access reply after) :
    after.histories = files.histories := by
  cases answers <;> rfl

/-- Accesses let the files grow. -/
theorem Answers.le
    {access : FileAccess}
    {reply : access.Answer}
    (answers : Answers target files access reply after) : files ≤ after := by
  show files.histories ≤ after.histories
  rw [answers.histories_eq]

theorem Changes.le
    [DecidableEq File]
    (changes : Changes files after) : files ≤ after := by
  cases changes with
  | modify file version isLater =>
      intro other
      obtain rfl | differs := eq_or_ne other file
      · simpa using FileHistory.le_modify isLater
      · simp [Function.update_of_ne differs]
  | evict entry =>
      exact le_refl files.histories

/-- A version that a file had stays one of its versions. -/
theorem mem_versions_of_le
    {path : Path}
    {version : FileVersion}
    (grows : files ≤ after)
    (member : version ∈ (files.historyAt target path).versions) :
    version ∈ (after.historyAt target path).versions :=
  FileHistory.mem_of_le (grows _) member

end Accesses

end SharedFiles

section Site

variable {File : Type} [DecidableEq File]

variable
  (sha256 : Sha256) (mimeFromExt : Str → Str)
  (site : StaticSiteService) (target : Identity → File)

/-- The requests to a site, and what they share. -/
abbrev SitePool (File : Type) :=
  Pool (SharedFiles File) FileAccess FileAccess.Answer Response

abbrev SiteEvent :=
  PoolEvent FileAccess FileAccess.Answer Request

/-- What a request has accessed. -/
abbrev FileLog :=
  List (AnsweredQuery FileAccess FileAccess.Answer)

/-- The files and the cache, as requests access them. -/
def sharedFiles :
    SharedObject (SharedFiles File) FileAccess FileAccess.Answer where
  changes :=
    SharedFiles.Changes
  answers :=
    SharedFiles.Answers target

/-- A step of a request, a modification or an eviction. -/
def SiteStep : SitePool File → SiteEvent → SitePool File → Prop :=
  Pool.Step (sharedFiles target) (site.handleHttpRequest sha256 mimeFromExt)

/-- A site that was just started: its cache is empty. -/
def startedSite (histories : File → FileHistory) : SitePool File :=
  Pool.initial ⟨histories, fun _ => none⟩

/-- The metadata that an access found. -/
def metadataOf :
    AnsweredQuery FileAccess FileAccess.Answer → Option (Path × Metadata)
  | ⟨.metadata path, .ok metadata⟩ =>
      some (path, metadata)
  | _ =>
      none

/-- The metadata that a request found last. -/
def metadataRead (log : FileLog) : Option (Path × Metadata) :=
  (log.filterMap metadataOf).getLast?

end Site

end Pingoo
