import Pingoo.Geoip
import Pingoo.Library.Fallible
import Pingoo.Library.ProgramPool

namespace Pingoo

/-!
# The geoip database

The database is read from the first of its default paths that exists.  A look-up
asks the cache first, which all requests share, and then the database; records
that are found are put into the cache, and failures are not.
-/

open Fallible Interaction

/-- `maxminddb::MaxMindDBError`: an address is not found, or anything else. -/
inductive MaxMindDbError where
  | addressNotFoundError (message : String)
  | other (message : String)
  deriving Repr, DecidableEq

/-- `MaxMindDBError`'s `Display`. -/
def MaxMindDbError.toString : MaxMindDbError → String
  | .addressNotFoundError message =>
      message
  | .other message =>
      message

/-- `geoip::Error`, without that of a country code. -/
inductive GeoipError where
  | addressNotFound (ip : IpAddr)
  | unspecified (message : String)
  | invalidMmdbFile (err : MaxMindDbError)
  deriving Repr, DecidableEq

/-- `maxminddb::Reader`: what it says of an address. -/
abbrev MmdbReader := IpAddr → Except MaxMindDbError GeoipRecord

/-- `config::GEOIP_DATABASE_PATHS`. -/
def geoipDatabasePaths : List String :=
  ["/etc/pingoo/geoip.mmdb", "/etc/pingoo/geoip.mmdb.zst",
    "/usr/share/pingoo/geoip.mmdb", "/usr/share/pingoo/geoip.mmdb.zst"]

/--
What the database is loaded with: the file system, the decompression, and the
reader of a database file.
-/
structure GeoipFiles where
  tryExists : String → Except String Bool
  read : String → Except String Bytes
  decodeAll : Bytes → Except String Bytes
  fromSource : Bytes → Except MaxMindDbError MmdbReader

section Loading

variable (files : GeoipFiles)

/-- The loop of `read_geoip_db` over some paths. -/
def readFirst : List String → Except GeoipError (Option (String × Bytes))
  | [] =>
      .ok none
  | path :: rest => do
      let found ← (files.tryExists path).mapError fun err =>
        .unspecified s!"error reading geoip database ({path}): {err}"
      if found then
        let content ← (files.read path).mapError fun err =>
          .unspecified s!"error reading geoip database ({path}): {err}"
        .ok (some (path, content))
      else
        readFirst rest

/-- `read_geoip_db`. -/
def readGeoipDb : Except GeoipError (Option (String × Bytes)) :=
  readFirst files geoipDatabasePaths

/-- `GeoipDB::load`, without the cache, which is empty at first. -/
def loadGeoip : Except GeoipError (Option MmdbReader) := do
  match ← readGeoipDb files with
  | none => .ok none
  | some (geoipDbPath, mmdbContent) =>
      let mmdbContent ←
        if geoipDbPath.endsWith ".zst" then
          (files.decodeAll mmdbContent).mapError fun err =>
            .unspecified
              s!"error decompressing geoip database ({geoipDbPath}): {err}"
        else
          .ok mmdbContent
      let mmdbReader ←
        (files.fromSource mmdbContent).mapError .invalidMmdbFile
      .ok (some mmdbReader)

variable {files}

/-- The file that is read is the first of the paths that exists. -/
theorem readFirst_eq_some_iff
    {paths : List String}
    {path : String}
    {content : Bytes} :
    readFirst files paths = .ok (some (path, content)) ↔
      ∃ before after,
        paths = before ++ path :: after ∧
          (∀ other ∈ before, files.tryExists other = .ok false) ∧
          files.tryExists path = .ok true ∧ files.read path = .ok content := by
  induction paths with
  | nil =>
      simp [readFirst]
  | cons first rest inductionHypothesis =>
      rw [readFirst]
      constructor
      · intro isRead
        obtain ⟨found, isFound, isRead⟩ := bind_eq_ok_iff.mp isRead
        rw [mapError_eq_ok_iff] at isFound
        cases found with
        | true =>
            rw [if_pos rfl] at isRead
            obtain ⟨_, isContent, isOk⟩ := bind_eq_ok_iff.mp isRead
            rw [mapError_eq_ok_iff] at isContent
            cases isOk
            exact ⟨[], rest, rfl, by simp, isFound, isContent⟩
        | false =>
            rw [if_neg Bool.false_ne_true] at isRead
            obtain ⟨before, after, rfl, absent, exists_, isContent⟩ :=
              inductionHypothesis.mp isRead
            exact ⟨first :: before, after, rfl,
              List.forall_mem_cons.mpr ⟨isFound, absent⟩, exists_, isContent⟩
      · rintro ⟨before, after, split, absent, isThere, isContent⟩
        cases before with
        | nil =>
            obtain ⟨rfl, rfl⟩ := List.cons.inj split
            rw [isThere, isContent]
            rfl
        | cons _ before =>
            obtain ⟨rfl, rfl⟩ := List.cons.inj split
            obtain ⟨notFirst, absent⟩ := List.forall_mem_cons.mp absent
            rw [notFirst]
            exact inductionHypothesis.mpr
              ⟨before, after, rfl, absent, isThere, isContent⟩

end Loading

/-! ## Look-ups -/

/-- What a look-up asks of the cache. -/
inductive GeoipCacheQuery where
  | get (ip : IpAddr)
  | insert (ip : IpAddr) (record : GeoipRecord)

@[reducible] def GeoipCacheQuery.Answer : GeoipCacheQuery → Type
  | .get _ =>
      Option GeoipRecord
  | .insert _ _ =>
      Unit

/-- `moka`'s cache: the records that are in it now. -/
abbrev GeoipCache := IpAddr → Option GeoipRecord

namespace GeoipCache

/-- The accesses of the cache. -/
inductive Answers (before : GeoipCache) :
    (asked : GeoipCacheQuery) → asked.Answer → GeoipCache → Prop
  | get (ip : IpAddr) :
      Answers before (.get ip) (before ip) before
  | insert (ip : IpAddr) (record : GeoipRecord) :
      Answers before (.insert ip record) ()
        (Function.update before ip (some record))

/-- Records leave the cache: there are too many, or they are too old. -/
def Evicts (before after : GeoipCache) : Prop :=
  ∀ ip, after ip = none ∨ after ip = before ip

end GeoipCache

namespace IpAddr

/-- `IpAddr::is_loopback`. -/
def isLoopback : IpAddr → Bool
  | .v4 octets =>
      octets.toList.headD 0 = 127
  | .v6 segments =>
      segments.toList = [0, 0, 0, 0, 0, 0, 0, 1]

/-- `IpAddr::is_multicast`. -/
def isMulticast : IpAddr → Bool
  | .v4 octets =>
      (224 : UInt8) ≤ octets.toList.headD 0 && octets.toList.headD 0 ≤ 239
  | .v6 segments =>
      segments.toList.headD 0 &&& 0xff00 = 0xff00

end IpAddr

/-- `GeoipDB`; its cache is shared by the requests. -/
structure GeoipDB where
  mmdb : MmdbReader

namespace GeoipDB

variable (geoipDb : GeoipDB)

/-- `GeoipDB::lookup`. -/
def lookup (ip : IpAddr) :
    Program GeoipCacheQuery GeoipCacheQuery.Answer
      (Except GeoipError GeoipRecord) :=
  if ip.isLoopback || ip.isMulticast then
    pure (.error (.addressNotFound ip))
  else do
    match ←
        (Program.request (GeoipCacheQuery.get ip) :
          Program GeoipCacheQuery GeoipCacheQuery.Answer (Option GeoipRecord))
      with
    | some record => pure (.ok record)
    | none =>
        match geoipDb.mmdb ip with
        | .ok record => do
            (Program.request (GeoipCacheQuery.insert ip record) :
              Program GeoipCacheQuery GeoipCacheQuery.Answer Unit)
            pure (.ok record)
        | .error (.addressNotFoundError _) =>
            pure (.error (.addressNotFound ip))
        | .error err =>
            pure (.error (.unspecified (
              s!"geoip: error looking up GeoIP for {String.ofList ip.toStr}: " ++
              err.toString)))

/-- A look-up as if there were no cache. -/
def plainLookup (ip : IpAddr) : Except GeoipError GeoipRecord :=
  if ip.isLoopback || ip.isMulticast then
    .error (.addressNotFound ip)
  else
    (geoipDb.mmdb ip).mapError fun
      | .addressNotFoundError _ => .addressNotFound ip
      | err => .unspecified (
          s!"geoip: error looking up GeoIP for {String.ofList ip.toStr}: " ++
          err.toString)

/-- The cache holds nothing but records of the database. -/
def Caches (cache : GeoipCache) : Prop :=
  ∀ ip record, cache ip = some record → geoipDb.mmdb ip = .ok record

variable {geoipDb}

theorem Caches.evicts
    {before after : GeoipCache}
    (caches : geoipDb.Caches before)
    (evicts : before.Evicts after) : geoipDb.Caches after := by
  intro ip record found
  rcases evicts ip with isGone | same
  · rw [isGone] at found
    cases found
  · exact caches ip record (same ▸ found)

theorem Caches.insert
    {cache : GeoipCache}
    {ip : IpAddr}
    {record : GeoipRecord}
    (caches : geoipDb.Caches cache)
    (isRecord : geoipDb.mmdb ip = .ok record) :
    geoipDb.Caches (Function.update cache ip (some record)) := by
  intro other found isFound
  obtain rfl | differs := eq_or_ne other ip
  · rw [Function.update_self, Option.some.injEq] at isFound
    exact isFound ▸ isRecord
  · rw [Function.update_of_ne differs] at isFound
    exact caches other found isFound

end GeoipDB

end Pingoo
