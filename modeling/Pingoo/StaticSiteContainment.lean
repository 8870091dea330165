import Pingoo.StaticSite

namespace Pingoo

/-!
# What a static site accesses

A request that is not refused accesses the joined path, and its index when that
is a directory, or its page when nothing is there.  From this follows exactly
when a site stays under its root.  It does not always: `..` alone passes the
checks, trimming white space can uncover a slash that replaces the root, and a
root that does not exist is completed next to itself.
-/

open Interaction UnixPath

/-- The environment of a request: an answer to each access, in its turn. -/
abbrev FileOracle :=
  List FileAccess → (access : FileAccess) → access.Answer

/-- Some access of a log is to a path. -/
def Accessed (log : List FileAccess) (path : Path) : Prop :=
  ∃ access ∈ log, access.path = path

@[simp] theorem accessed_nil (path : Path) : ¬ Accessed [] path := by
  simp [Accessed]

@[simp] theorem accessed_cons
    (access : FileAccess)
    (log : List FileAccess)
    (path : Path) :
    Accessed (access :: log) path ↔
      path = access.path ∨ Accessed log path := by
  simp [Accessed, eq_comm]

section

variable (sha256 : Sha256) (mimeFromExt : Str → Str)

/-- The accesses a request causes. -/
def StaticSiteService.accesses
    (oracle : FileOracle)
    (site : StaticSiteService)
    (req : Request) : List FileAccess :=
  (site.handleHttpRequest sha256 mimeFromExt req).queries oracle

/-- The joined path is a directory. -/
def IsDirectory (oracle : FileOracle) (path : Path) : Prop :=
  ∃ metadata,
    oracle [] (.metadata path) = .ok metadata ∧ metadata.isDir = true

/-- There is nothing at the path, and its page is looked up in its place. -/
def IsCompleted (oracle : FileOracle) (path : Path) : Prop :=
  oracle [] (.metadata path) = .error .notFound ∧ extension path = none

/-- Accesses to a path that was accessed before access nothing new. -/
theorem accessed_run_iff
    {α : Type}
    {oracle : FileOracle}
    {log : List FileAccess}
    {program : FileProgram α}
    {path : Path}
    (present : Accessed log path)
    (asks : program.Asks fun access => access.path = path)
    (other : Path) :
    Accessed (program.run oracle log).2 other ↔ Accessed log other := by
  obtain ⟨added, whole, samePath⟩ := asks.run_eq_append oracle log
  rw [whole]
  constructor
  · rintro ⟨access, member, rfl⟩
    rcases List.mem_append.mp member with inLog | inAdded
    · exact ⟨access, inLog, rfl⟩
    · rw [samePath access inAdded]
      exact present
  · rintro ⟨access, member, same⟩
    exact ⟨access, List.mem_append_left added member, same⟩

theorem asks_streamFile (path : Path) (res : ResponseBuilder) :
    (StaticSiteService.streamFile path res).Asks
      fun access => access.path = path := by
  refine Program.Asks.request_bind rfl fun opened => ?_
  cases opened <;> trivial

theorem asks_readAndCache
    (path : Path)
    (size : UInt64)
    (modifiedAt : Nat)
    (res : ResponseBuilder) :
    (StaticSiteService.readAndCache path size modifiedAt res).Asks
      fun access => access.path = path := by
  refine Program.Asks.request_bind rfl fun content => ?_
  cases content with
  | error =>
      trivial
  | ok =>
      exact Program.Asks.request_bind rfl fun _ => trivial

theorem asks_serveCached
    (path : Path)
    (size : UInt64)
    (modifiedAt : Nat)
    (res : ResponseBuilder) :
    (StaticSiteService.serveCached path size modifiedAt res).Asks
      fun access => access.path = path := by
  refine Program.Asks.request_bind rfl fun cached => ?_
  have fresh := asks_readAndCache path size modifiedAt res
  cases cached with
  | none =>
      exact fresh
  | some cachedFile =>
      dsimp only
      split
      · trivial
      · exact Program.Asks.request_bind rfl fun _ => fresh

/-- A file that was found is the only one that is accessed from then on. -/
theorem asks_serveFile (req : Request) (path : Path) (metadata : Metadata) :
    (StaticSiteService.serveFile sha256 mimeFromExt req path metadata).Asks
      fun access => access.path = path := by
  unfold StaticSiteService.serveFile
  dsimp only
  split
  · exact asks_streamFile path _
  · split
    · trivial
    · split
      · exact asks_serveCached path _ _ _
      · exact asks_streamFile path _

/-- Looking up a file's metadata is one access, and finds that file. -/
theorem run_tryMetadata
    (oracle : FileOracle)
    (log : List FileAccess)
    (path : Path) :
    ((tryMetadata path).run oracle log).2 = log ++ [.metadata path] := by
  unfold tryMetadata fsMetadata
  rw [Program.run_request_bind]
  cases answer : oracle log (.metadata path) with
  | ok metadata =>
      dsimp only
      split <;> rfl
  | error kind =>
      cases kind <;> rfl

/--
What looking for a file accesses: the joined path, and at most one completion of
it.  A file that is found was accessed.
-/
theorem run_locate (oracle : FileOracle) (root urlPath : Str) :
    (∀ path,
      Accessed ((locate root urlPath).run oracle []).2 path ↔
        path = joined root urlPath ∨
        (IsDirectory oracle (joined root urlPath) ∧
          path = push (joined root urlPath) "index.html".toList) ∨
        (IsCompleted oracle (joined root urlPath) ∧
          path = setExtension (joined root urlPath) "html".toList)) ∧
    (∀ path metadata,
      ((locate root urlPath).run oracle []).1 = .ok (path, metadata) →
        Accessed ((locate root urlPath).run oracle []).2 path) := by
  unfold locate fsMetadata
  dsimp only
  rw [Program.run_request_bind]
  cases answer : oracle [] (.metadata (joined root urlPath)) with
  | ok metadata =>
      dsimp only
      by_cases isDir : metadata.isDir = true
      · rw [if_pos isDir, Program.run_bind, run_tryMetadata]
        cases ((tryMetadata _).run oracle _).1 <;>
          simp +contextual [IsDirectory, IsCompleted, answer, isDir,
            FileAccess.path]
      · rw [if_neg isDir]
        simp +contextual [IsDirectory, IsCompleted, answer, isDir,
          FileAccess.path]
  | error kind =>
      cases kind with
      | notFound =>
          dsimp only
          cases hasExtension : extension (joined root urlPath) with
          | some suffix =>
              simp [IsDirectory, IsCompleted, answer, hasExtension,
                FileAccess.path]
          | none =>
              rw [if_neg (by simp), Program.run_bind, run_tryMetadata]
              cases ((tryMetadata _).run oracle _).1 <;>
                simp +contextual [IsDirectory, IsCompleted, answer,
                  hasExtension, FileAccess.path]
      | other =>
          simp [IsDirectory, IsCompleted, answer, FileAccess.path]

/-- What a request that is not refused accesses. -/
theorem accessed_accesses_iff
    (oracle : FileOracle)
    (site : StaticSiteService)
    {req : Request}
    (methodAllowed : req.method = .get ∨ req.method = .head)
    (pathAllowed : isPathRefused (urlPath req) = false)
    (path : Path) :
    Accessed (site.accesses sha256 mimeFromExt oracle req) path ↔
      path = joined site.config.root (urlPath req) ∨
      (IsDirectory oracle (joined site.config.root (urlPath req)) ∧
        path =
          push (joined site.config.root (urlPath req))
            "index.html".toList) ∨
      (IsCompleted oracle (joined site.config.root (urlPath req)) ∧
        path =
          setExtension (joined site.config.root (urlPath req))
            "html".toList) := by
  have methodKept : ¬ (req.method ≠ .get ∧ req.method ≠ .head) := by
    rcases methodAllowed with isGet | isHead <;> simp [*]
  obtain ⟨located, found⟩ := run_locate oracle site.config.root (urlPath req)
  rw [← located path, StaticSiteService.accesses, Program.queries,
    StaticSiteService.handleHttpRequest, if_neg methodKept,
    if_neg (by simp [pathAllowed]), Program.run_bind]
  generalize (locate site.config.root (urlPath req)).run oracle [] = outcome
    at found
  obtain ⟨result, log⟩ := outcome
  cases result with
  | error res =>
      rfl
  | ok file =>
      exact accessed_run_iff (found file.1 file.2 rfl)
        (asks_serveFile sha256 mimeFromExt req file.1 file.2) path

end

section Confinement

/-- Nothing that passes the checks goes up, except `..` alone. -/
theorem eq_parentDir_of_mem_components
    {urlPath : Str}
    (pathAllowed : isPathRefused urlPath = false)
    (member : parentDir ∈ components urlPath) :
    urlPath = parentDir := by
  simp only [isPathRefused, Str.contains, Bool.or_eq_false_iff,
    decide_eq_false_iff_not] at pathAllowed
  rcases eq_parentDir_or_infix_of_mem_components member with
    alone | afterSlash | beforeSlash
  · exact alone
  · exact absurd afterSlash pathAllowed.1.1
  · exact absurd beforeSlash pathAllowed.1.2

/--
When a site that looks up `urlPath` stays under its root.  A relative path stays
there, unless it is `..`, or names nothing while the root itself is missing.  An
absolute path, which trimming white space can uncover, has to lead there by
itself.
-/
def StaysUnderRoot (oracle : FileOracle) (root urlPath : Str) : Prop :=
  if isAbsolute urlPath then
    Under root urlPath ∧
      (IsCompleted oracle urlPath → (fileName urlPath).isSome →
        resolve urlPath ≠ resolve root)
  else
    (urlPath = parentDir → (resolve root).isFileSystemRoot) ∧
      (IsCompleted oracle (joined root urlPath) →
        (fileName (joined root urlPath)).isSome →
        components urlPath ≠ [])

/-- The page that is looked up in place of a path below the root. -/
theorem under_page_iff
    {root path : Path}
    (under : Under root path)
    (noExtension : extension path = none) :
    Under root (setExtension path "html".toList) ↔
      ((fileName path).isSome → resolve path ≠ resolve root) := by
  cases named : fileName path with
  | none =>
      rw [setExtension_of_fileName_eq_none named]
      simp [under]
  | some name =>
      rw [under_setExtension_iff named noExtension (by decide) under]
      simp

/-- The index of a directory below the root is below the root. -/
theorem under_index
    {root path : Path}
    (under : Under root path) :
    Under root (push path "index.html".toList) :=
  under.push_of_forall_ne (by decide) (by decide)

/-- The joined path and its completions stay under the root. -/
theorem completions_under_root_iff
    (oracle : FileOracle)
    {root urlPath : Str}
    (pathAllowed : isPathRefused urlPath = false) :
    (Under root (joined root urlPath) ∧
      (IsCompleted oracle (joined root urlPath) →
        Under root (setExtension (joined root urlPath) "html".toList))) ↔
      StaysUnderRoot oracle root urlPath := by
  have pageUnder : ∀ {path}, Under root path →
      ((IsCompleted oracle path →
        Under root (setExtension path "html".toList)) ↔
      (IsCompleted oracle path → (fileName path).isSome →
        resolve path ≠ resolve root)) := fun under =>
    imp_congr_right fun completed => under_page_iff under completed.2
  unfold StaysUnderRoot
  cases absolute : isAbsolute urlPath with
  | true =>
      rw [if_pos rfl, joined, push_of_absolute absolute]
      exact and_congr_right pageUnder
  | false =>
      rw [if_neg (by simp)]
      by_cases isParent : urlPath = parentDir
      · subst isParent
        have leads : Under root (joined root parentDir) ↔
            (resolve root).isFileSystemRoot := by
          rw [Under, joined, resolve_push_of_relative absolute]
          exact Location.under_enter_parentDir_iff (resolve root)
        have unnamed : fileName (joined root parentDir) = none := by
          rw [fileName, joined, components_push_of_relative absolute]
          have lastUp : components parentDir = [parentDir] := by decide
          simp [lastUp]
        rw [setExtension_of_fileName_eq_none unnamed, leads]
        simp +contextual [unnamed]
      · have down : ∀ part ∈ components urlPath, part ≠ parentDir := by
          rintro part member rfl
          exact isParent
            (eq_parentDir_of_mem_components pathAllowed member)
        have under : Under root (joined root urlPath) :=
          Under.push_of_forall_ne (Location.Under.refl _) absolute down
        rw [pageUnder under, joined, ne_eq,
          resolve_push_eq_iff absolute down]
        simp only [isParent, false_imp_iff, true_and, and_iff_right_iff_imp]
        exact fun _ => under

end Confinement

section

variable (sha256 : Sha256) (mimeFromExt : Str → Str)

/--
A site stays under its root exactly when it refuses the request or the path it
looks up stays there.
-/
theorem accesses_under_root_iff
    (oracle : FileOracle)
    (site : StaticSiteService)
    (req : Request) :
    (∀ access ∈ site.accesses sha256 mimeFromExt oracle req,
      Under site.config.root access.path) ↔
      (req.method ≠ .get ∧ req.method ≠ .head) ∨
      isPathRefused (urlPath req) = true ∨
      StaysUnderRoot oracle site.config.root (urlPath req) := by
  by_cases methodRefused : req.method ≠ .get ∧ req.method ≠ .head
  · refine iff_of_true ?_ (Or.inl methodRefused)
    simp [StaticSiteService.accesses, Program.queries,
      StaticSiteService.handleHttpRequest, methodRefused]
  cases pathAllowed : isPathRefused (urlPath req) with
  | true =>
      refine iff_of_true ?_ (Or.inr (Or.inl rfl))
      simp [StaticSiteService.accesses, Program.queries,
        StaticSiteService.handleHttpRequest, methodRefused, pathAllowed]
  | false =>
      have methodAllowed : req.method = .get ∨ req.method = .head := by
        by_contra neither
        exact methodRefused (not_or.mp neither)
      have everyAccess :
          (∀ access ∈ site.accesses sha256 mimeFromExt oracle req,
            Under site.config.root access.path) ↔
          ∀ path,
            Accessed (site.accesses sha256 mimeFromExt oracle req) path →
              Under site.config.root path := by
        simp [Accessed]
      rw [everyAccess, ← completions_under_root_iff oracle pathAllowed]
      simp only [accessed_accesses_iff sha256 mimeFromExt oracle site
        methodAllowed pathAllowed, methodRefused, false_or,
        Bool.false_eq_true]
      constructor
      · intro allUnder
        exact ⟨allUnder _ (Or.inl rfl),
          fun completed => allUnder _ (Or.inr (Or.inr ⟨completed, rfl⟩))⟩
      · rintro ⟨joinedUnder, pageUnder⟩ path
          (rfl | ⟨-, rfl⟩ | ⟨completed, rfl⟩)
        · exact joinedUnder
        · exact under_index joinedUnder
        · exact pageUnder completed

/-- An environment in which no file exists. -/
def FileOracle.noFiles : FileOracle
  | _, .metadata _ =>
      .error .notFound
  | _, .cacheGet _ =>
      none
  | _, .cacheRemove _ =>
      ()
  | _, .read _ =>
      .error .notFound
  | _, .cacheInsert _ _ =>
      ()
  | _, .openFile _ =>
      .error .notFound

/-- An environment in which one file exists, which is not in the cache. -/
def FileOracle.onlyFile (file : Path) : FileOracle
  | _, .metadata path =>
      if path = file then
        .ok { isDir := false, size := 1, modified := some 0 }
      else
        .error .notFound
  | _, .cacheGet _ =>
      none
  | _, .cacheRemove _ =>
      ()
  | _, .read path =>
      if path = file then .ok [0] else .error .notFound
  | _, .cacheInsert _ _ =>
      ()
  | _, .openFile path =>
      if path = file then .ok () else .error .notFound

/-- A request for `/..` looks up the parent of the root. -/
theorem accesses_parent_of_root :
    ¬ ∀ (sha256 : Sha256) (mimeFromExt : Str → Str)
        (oracle : FileOracle) (site : StaticSiteService) (req : Request),
        ∀ access ∈ site.accesses sha256 mimeFromExt oracle req,
          Under site.config.root access.path := by
  intro allUnder
  have looksUpParent :
      ¬ ∀ access ∈ StaticSiteService.accesses
          (fun _ => Vector.replicate 32 0) id .noFiles
          ⟨⟨"/var/www".toList⟩⟩ (.ofPath .get "/..".toList),
        Under "/var/www".toList access.path := by
    decide
  exact looksUpParent (allUnder _ id .noFiles _ _)

end

end Pingoo
