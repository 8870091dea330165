import Pingoo.StaticSiteVersions

namespace Pingoo

open Interaction UnixPath

/-!
# Fresh and torn responses

A cache entry may hold newer data than its label says, but never older: so it is
never stale.  Newer data make a response that mixes two versions, with the
length and the tag of one and the content of the other.  No request gets one in
a run in which no file is modified between a request's access to its metadata
and its reading of it.
-/

variable {File : Type} {sha256 : Sha256} {target : Identity → File}

/-- A version that is no older than a label. -/
def NoOlder
    (modifiedAt : Nat)
    (_size : UInt64)
    (version : FileVersion) : Prop :=
  modifiedAt ≤ version.modified

/-- Entries whose label is that of the current version hold its content. -/
def EntriesCurrent
    (target : Identity → File)
    (files : SharedFiles File) : Prop :=
  ∀ key entry, files.cache key = some entry →
    (files.histories (target key)).current.modified = entry.modifiedAt →
    (files.histories (target key)).current.size = entry.size →
    entry.data = (files.histories (target key)).current.content

/--
A response with a file holds the content of a version no older than the metadata
that its request read, and of that very version while it is the current one.
-/
def NeverStale
    (sha256 : Sha256)
    (target : Identity → File)
    (files : SharedFiles File)
    (log : FileLog)
    (res : Response) : Prop :=
  res.status = .ok →
    ∃ path found served,
      Serves sha256 target files log res path found served ∧
        found.modified ≤ served.modified ∧
        ((files.historyAt target path).current.metadata = found.metadata →
          res.body =
            .full (files.historyAt target path).current.content)

/-- A version no older than the current one is the current one. -/
theorem FileHistory.eq_current_of_le
    {history : FileHistory}
    {version : FileVersion}
    (member : version ∈ history.versions)
    (noOlder : history.current.modified ≤ version.modified) :
    version = history.current :=
  FileHistory.eq_of_modified_eq member FileHistory.current_mem
    (Nat.le_antisymm (FileHistory.modified_le_current member) noOlder)

/-- What is read later is no older. -/
theorem readsFit_noOlder :
    ReadsFit target NoOlder (fun _ _ _ => True) :=
  fun _ _ _ _ _ _ member => FileHistory.modified_le_current member

theorem entriesCurrent_of_cacheFits
    {files : SharedFiles File}
    (cacheFits : CacheFits target NoOlder files) :
    EntriesCurrent target files := by
  intro key entry isEntry sameTime _
  obtain ⟨version, member, data, noOlder⟩ := cacheFits key entry isEntry
  rw [← sameTime] at noOlder
  rw [← data, FileHistory.eq_current_of_le member noOlder]

theorem neverStale_of_servesFitting
    {files : SharedFiles File}
    {log : FileLog}
    {res : Response}
    (serves : ServesFitting sha256 target NoOlder files log res) :
    NeverStale sha256 target files log res := by
  intro isOk
  obtain ⟨path, found, served, isServed, noOlder⟩ := serves isOk
  refine ⟨path, found, served, isServed, noOlder, ?_⟩
  intro isCurrent
  have sameTime := (FileVersion.eq_of_metadata_eq isCurrent).1
  rw [isServed.body,
    FileHistory.eq_current_of_le isServed.servedMem (sameTime.trans_le noOlder)]

section OneVersion

/-- A version with a label of its own. -/
def IsLabelled
    (modifiedAt : Nat)
    (size : UInt64)
    (version : FileVersion) : Prop :=
  version.modified = modifiedAt ∧ version.size = size

/-- A read finds the file as its request found the metadata. -/
def FindsSameVersion
    (target : Identity → File)
    (files : SharedFiles File)
    (log : FileLog) : FileAccess → Prop
  | .read path =>
      ∀ metadata, metadataRead log = some (path, metadata) →
        (files.historyAt target path).current.metadata = metadata
  | _ =>
      True

/--
A response with a file is about one version: its tag and its length are computed
from the version whose content it holds.
-/
def DescribesOneVersion
    (sha256 : Sha256)
    (target : Identity → File)
    (files : SharedFiles File)
    (log : FileLog)
    (res : Response) : Prop :=
  res.status = .ok →
    ∃ path version,
      Serves sha256 target files log res path version version

theorem readsFit_isLabelled :
    ReadsFit target IsLabelled (FindsSameVersion target) := by
  intro files log path version isSame isRead _
  exact FileVersion.eq_of_metadata_eq (isSame version.metadata isRead)

end OneVersion

section Run

variable [DecidableEq File]

variable
  {mimeFromExt : Str → Str} {site : StaticSiteService}
  {histories : File → FileHistory} {events : List SiteEvent}
  {pool : SitePool File}

/--
In every run of requests, modifications and evictions the cache never holds old
data under the label of the current version, and no response is stale.
-/
theorem entriesCurrent_and_neverStale
    (run :
      Transition.Run (SiteStep sha256 mimeFromExt site target)
        (startedSite histories) events pool) :
    EntriesCurrent target pool.shared ∧
      ∀ index log res,
        pool.processes index = some ⟨log, .done res⟩ →
        NeverStale sha256 target pool.shared log res := by
  have guarded :
      Transition.Run
        (Transition.Guarded (Pool.Allows fun _ _ _ => True)
          (SiteStep sha256 mimeFromExt site target))
        (startedSite histories) events pool := by
    refine run.mono ?_
    intro before event after taken
    exact ⟨by cases event <;> simp [Pool.Allows], taken⟩
  obtain ⟨cacheFits, serves⟩ :=
    cacheFits_and_servesFitting_of_run readsFit_noOlder guarded
  exact ⟨entriesCurrent_of_cacheFits cacheFits, fun index log res isDone =>
    neverStale_of_servesFitting (serves index log res isDone)⟩

/--
When no file is modified between a request's access to its metadata and its
reading of it, every response with a file describes one version.
-/
theorem describesOneVersion_of_run
    (run :
      Transition.Run
        (Transition.Guarded (Pool.Allows (FindsSameVersion target))
          (SiteStep sha256 mimeFromExt site target))
        (startedSite histories) events pool)
    {index : Nat}
    {log : FileLog}
    {res : Response}
    (isDone : pool.processes index = some ⟨log, .done res⟩) :
    DescribesOneVersion sha256 target pool.shared log res := by
  intro isOk
  obtain ⟨path, found, served, isServed, sameTime, -⟩ :=
    (cacheFits_and_servesFitting_of_run readsFit_isLabelled run).2 index log
      res isDone isOk
  have isSame : served = found :=
    FileHistory.eq_of_modified_eq isServed.servedMem isServed.foundMem sameTime
  exact ⟨path, found, isSame ▸ isServed⟩

end Run

section Sample

/-- A site that serves the files under `www`. -/
def wwwSite : StaticSiteService where
  config := {
    root := "www".toList
  }

/-- A request for the file `www/a`. -/
def requestForA : Request :=
  .ofPath .get "/a".toList

def pathOfA : Path :=
  "www/a".toList

/-- The file with one byte, and with two bytes after a modification. -/
def oneByte : FileVersion :=
  ⟨1, [97], by decide⟩

def twoBytes : FileVersion :=
  ⟨2, [97, 98], by decide⟩

def zeroSha256 : Sha256 :=
  fun _ => Vector.replicate 32 0

def startedWww : SitePool Unit :=
  startedSite fun _ => .ofVersion oneByte

/-- The site with one file behind all paths. -/
abbrev WwwStep : SitePool Unit → SiteEvent → SitePool Unit → Prop :=
  SiteStep zeroSha256 id wwwSite fun _ => ()

/-- The steps in which a read finds the file as its metadata were. -/
abbrev WwwStepUnmodified :
    SitePool Unit → SiteEvent → SitePool Unit → Prop :=
  Transition.Guarded (Pool.Allows (FindsSameVersion fun _ => ())) WwwStep

/-- The file is modified before it is read. -/
theorem run_modifiedBetween :
    ∃ events pool log res,
      Transition.Run WwwStep startedWww events pool ∧
        pool.processes 0 = some ⟨log, .done res⟩ ∧
        res.status = .ok ∧
        metadataRead log = some (pathOfA, oneByte.metadata) ∧
        res.body = .full twoBytes.content := by
  have started :
      Transition.Run WwwStep startedWww ([] ++ [.start 0 requestForA]) _ :=
    .snoc .nil (.start rfl)
  have found :
      Transition.Run WwwStep startedWww
        (_ ++ [.exchange 0 ⟨.metadata pathOfA, .ok oneByte.metadata⟩]) _ :=
    started.snoc (.exchange rfl (.metadata pathOfA))
  have missed :
      Transition.Run WwwStep startedWww
        (_ ++ [.exchange 0 ⟨.cacheGet pathOfA, none⟩]) _ :=
    found.snoc (.exchange rfl (.cacheGet pathOfA))
  have modified :
      Transition.Run WwwStep startedWww (_ ++ [.change]) _ :=
    missed.snoc (.change (.modify () twoBytes (by decide)))
  have readBytes :
      Transition.Run WwwStep startedWww
        (_ ++ [.exchange 0 ⟨.read pathOfA, .ok twoBytes.content⟩]) _ :=
    modified.snoc (.exchange rfl (.read pathOfA))
  have kept :
      Transition.Run WwwStep startedWww
        (_ ++ [.exchange 0
          ⟨.cacheInsert pathOfA ⟨1, 1, twoBytes.content⟩, ()⟩]) _ :=
    readBytes.snoc (.exchange rfl (.cacheInsert pathOfA _))
  exact ⟨_, _, _, _, kept, rfl, rfl, rfl, rfl⟩

/-- The cache of a run in which a file is modified before it is read. -/
theorem entriesCurrent_and_neverStale_sample :
    ∃ events pool log res,
      Transition.Run WwwStep startedWww events pool ∧
        pool.processes 0 = some ⟨log, .done res⟩ ∧
        EntriesCurrent (fun _ => ()) pool.shared ∧
        NeverStale zeroSha256 (fun _ => ()) pool.shared log res := by
  obtain ⟨events, pool, log, res, run, isDone, -⟩ := run_modifiedBetween
  obtain ⟨entries, responses⟩ := entriesCurrent_and_neverStale run
  exact ⟨events, pool, log, res, run, isDone, entries,
    responses 0 log res isDone⟩

/-- The response has the length of the first version and two bytes. -/
theorem not_describesOneVersion_modifiedBetween :
    ∃ events pool log res,
      Transition.Run WwwStep startedWww events pool ∧
        pool.processes 0 = some ⟨log, .done res⟩ ∧
        ¬ DescribesOneVersion zeroSha256 (fun _ => ()) pool.shared log
          res := by
  obtain ⟨events, pool, log, res, run, isDone, isOk, isRead, body⟩ :=
    run_modifiedBetween
  refine ⟨events, pool, log, res, run, isDone, ?_⟩
  intro describes
  obtain ⟨path, version, serves⟩ := describes isOk
  have sameContent : twoBytes.content = version.content :=
    Body.full.inj (body.symm.trans serves.body)
  have sameMetadata : oneByte.metadata = version.metadata :=
    congrArg Prod.snd (Option.some.inj (isRead.symm.trans serves.read))
  have sameSize := (FileVersion.eq_of_metadata_eq sameMetadata).2
  rw [FileVersion.size, FileVersion.size, ← sameContent] at sameSize
  exact absurd sameSize (by decide)

/-- The file is not modified before it is read. -/
theorem run_unmodified :
    ∃ events pool log res,
      Transition.Run WwwStepUnmodified startedWww events pool ∧
        pool.processes 0 = some ⟨log, .done res⟩ ∧
        res.status = .ok := by
  have started :
      Transition.Run WwwStepUnmodified startedWww
        ([] ++ [.start 0 requestForA]) _ :=
    .snoc .nil ⟨trivial, .start rfl⟩
  have found :
      Transition.Run WwwStepUnmodified startedWww
        (_ ++ [.exchange 0 ⟨.metadata pathOfA, .ok oneByte.metadata⟩]) _ :=
    started.snoc ⟨fun _ _ => trivial, .exchange rfl (.metadata pathOfA)⟩
  have missed :
      Transition.Run WwwStepUnmodified startedWww
        (_ ++ [.exchange 0 ⟨.cacheGet pathOfA, none⟩]) _ :=
    found.snoc ⟨fun _ _ => trivial, .exchange rfl (.cacheGet pathOfA)⟩
  have readByte :
      Transition.Run WwwStepUnmodified startedWww
        (_ ++ [.exchange 0 ⟨.read pathOfA, .ok oneByte.content⟩]) _ :=
    missed.snoc ⟨by rintro _ ⟨⟩ _ ⟨⟩; rfl, .exchange rfl (.read pathOfA)⟩
  have kept :
      Transition.Run WwwStepUnmodified startedWww
        (_ ++ [.exchange 0
          ⟨.cacheInsert pathOfA ⟨1, 1, oneByte.content⟩, ()⟩]) _ :=
    readByte.snoc
      ⟨fun _ _ => trivial, .exchange rfl (.cacheInsert pathOfA _)⟩
  exact ⟨_, _, _, _, kept, rfl, rfl⟩

/-- The response of a run in which no file is modified. -/
theorem describesOneVersion_of_run_sample :
    ∃ (pool : SitePool Unit) (log : FileLog) (res : Response),
      pool.processes 0 = some ⟨log, .done res⟩ ∧
        res.status = .ok ∧
        DescribesOneVersion zeroSha256 (fun _ => ()) pool.shared log res := by
  obtain ⟨events, pool, log, res, run, isDone, isOk⟩ := run_unmodified
  exact ⟨pool, log, res, isDone, isOk, describesOneVersion_of_run run isDone⟩

end Sample

end Pingoo
