import Pingoo.StaticSiteContainment

namespace Pingoo

/-!
# The path of the rules and the path of a static site

Rules and routes see the request path without the slashes at its end.  A static
site looks up the path without the slashes and the white space at either end,
and reads `.` components as nothing; and it completes what it finds to be a
directory, or does not find, by a name the request does not have.  The two agree
exactly when the path is spelled the way a rule would spell it and nothing
completes it.
-/

open UnixPath

/-- The request is answered with an error before any file is looked up. -/
def IsRejected (req : Request) : Prop :=
  (req.method ≠ .get ∧ req.method ≠ .head) ∨
    isPathRefused (urlPath req) = true

instance (req : Request) : Decidable (IsRejected req) :=
  inferInstanceAs (Decidable (_ ∨ _))

/-- A path without the slash it starts with. -/
def withoutLeadingSlash : Str → Str
  | '/' :: rest =>
      rest
  | text =>
      text

/--
A path lies below a directory `X` of the root, or is its file `X`, and the path
of the rules does not start with `/X`.
-/
def HiddenFromRules (root : Path) (rulesPath : Str) (path : Path) : Prop :=
  ∃ parts, parts ≠ [] ∧ (∀ part ∈ parts, IsName part) ∧
    rulesPath.startsWith ('/' :: join parts) = false ∧
    Under (push root (join parts)) path

/--
The site looks up what the rules saw: the same path, and no access, of the
joined path or of what completes it, is hidden from the rules.
-/
def LooksUpWhatRulesSee
    (sha256 : Sha256)
    (mimeFromExt : Str → Str)
    (oracle : FileOracle)
    (site : StaticSiteService)
    (req : Request) : Prop :=
  urlPath req = withoutLeadingSlash (getPath req) ∧
    ∀ access ∈ site.accesses sha256 mimeFromExt oracle req,
      ¬ HiddenFromRules site.config.root (getPath req) access.path

/-- The part of a request path between the slashes at its ends. -/
def innerPath (path : Str) : Str :=
  (path.trimStartMatches '/').trimEndMatches '/'

/-- The components of a path stand one after the other at its start. -/
def isSpelledOut (path : Path) : Bool :=
  (join (components path)).isPrefixOf path

/--
How a request path has to be spelled: nothing between its outer slashes, or no
white space at the ends of what stands there, one slash before it, and no `.`
before another component.
-/
def IsPlainlySpelled (path : Str) : Prop :=
  innerPath path = [] ∨
    (innerPath path).trim = innerPath path ∧
      match path.takeWhile (· == '/') with
      | [] =>
          components (innerPath path) = [] ∨ innerPath path = parentDir
      | [_] =>
          isSpelledOut (innerPath path) = true
      | _ =>
          False

/--
No completion leads elsewhere: the joined path is no directory whose index is
looked up, unless it lies outside of the root, and it is not missing so that a
page is looked up in its place, unless it names nothing below the root.
-/
def CompletesNothing (oracle : FileOracle) (root urlPath : Str) : Prop :=
  (IsDirectory oracle (joined root urlPath) →
      urlPath = parentDir ∧ (resolve root).isFileSystemRoot = false) ∧
    (IsCompleted oracle (joined root urlPath) →
      urlPath = parentDir ∨ components urlPath = [])

section Trimming

/-- Trimming the end of a text whose second part is not trimmed away. -/
theorem rdropWhile_append_of_ne_nil
    {α : Type}
    {matching : α → Bool}
    {first second : List α}
    (kept : second.rdropWhile matching ≠ []) :
    (first ++ second).rdropWhile matching =
      first ++ second.rdropWhile matching := by
  induction second using List.reverseRecOn with
  | nil =>
      exact absurd rfl kept
  | append_singleton front last inductionHypothesis =>
      rw [← List.append_assoc]
      by_cases dropped : matching last
      · rw [List.rdropWhile_concat_pos _ _ _ dropped] at kept
        rw [List.rdropWhile_concat_pos _ _ _ dropped,
          List.rdropWhile_concat_pos _ _ _ dropped,
          inductionHypothesis kept]
      · rw [List.rdropWhile_concat_neg _ _ _ dropped,
          List.rdropWhile_concat_neg _ _ _ dropped, List.append_assoc]

/-- What stands between the outer slashes does not start with one. -/
theorem isAbsolute_innerPath (path : Str) :
    isAbsolute (innerPath path) = false := by
  have isPrefix : innerPath path <+: path.trimStartMatches '/' :=
    List.rdropWhile_prefix _ _
  cases shape : innerPath path with
  | nil =>
      rfl
  | cons first rest =>
      rw [shape] at isPrefix
      obtain ⟨tail, whole⟩ := isPrefix
      have nonempty : path.dropWhile (· == '/') ≠ [] := by
        intro empty
        simp [Str.trimStartMatches, empty] at whole
      have firstKept := List.head_dropWhile_not (· == '/') nonempty
      have isFirst : (path.dropWhile (· == '/')).head nonempty = first := by
        simp only [Str.trimStartMatches, List.cons_append] at whole
        simp [← whole]
      rw [isFirst] at firstKept
      simpa [isAbsolute] using firstKept

/-- The path of the rules: the slashes at the start, then the inner path. -/
theorem getPath_of_innerPath_ne_nil
    {req : Request}
    (nonempty : innerPath req.uri.path ≠ []) :
    getPath req =
      req.uri.path.takeWhile (· == '/') ++ innerPath req.uri.path := by
  have split : req.uri.path =
      req.uri.path.takeWhile (· == '/') ++ req.uri.path.dropWhile (· == '/') :=
    List.takeWhile_append_dropWhile.symm
  rw [getPath, Str.trimEndMatches]
  conv_lhs => rw [split]
  exact rdropWhile_append_of_ne_nil nonempty

/-- A path of slashes only is the empty path for rules and for the site. -/
theorem paths_of_innerPath_eq_nil
    {req : Request}
    (empty : innerPath req.uri.path = []) :
    getPath req = [] ∧ urlPath req = [] := by
  have trimmed : urlPath req = [] := by
    have whole : urlPath req = (innerPath req.uri.path).trim :=
      rfl
    rw [whole, empty]
    rfl
  refine ⟨?_, trimmed⟩
  have allSlashes : ∀ character ∈ req.uri.path, character == '/' := by
    intro character member
    rw [← List.takeWhile_append_dropWhile (p := (· == '/'))
      (l := req.uri.path)] at member
    rcases List.mem_append.mp member with inFront | inBack
    · exact List.mem_takeWhile_imp (p := (· == '/')) inFront
    · exact List.rdropWhile_eq_nil_iff.mp empty character inBack
  exact List.rdropWhile_eq_nil_iff.mpr allSlashes

section Relative

variable {path : Str} (relative : isAbsolute path = false)

include relative

theorem withoutLeadingSlash_of_relative : withoutLeadingSlash path = path := by
  cases path with
  | nil =>
      rfl
  | cons head tail =>
      have notSlash : head ≠ '/' := by
        simpa [isAbsolute] using relative
      unfold withoutLeadingSlash
      split
      · next isSlash =>
          exact absurd (List.cons.inj isSlash).1 notSlash
      · rfl

theorem startsWith_slash_of_relative (text : Str) :
    Str.startsWith path ('/' :: text) = false := by
  cases path with
  | nil =>
      rfl
  | cons head tail =>
      have notSlash : head ≠ '/' := by
        simpa [isAbsolute] using relative
      simp [Str.startsWith, List.isPrefixOf, Ne.symm notSlash]

end Relative

end Trimming

section Agreement

/-- What a path that is not refused leads to below a directory of the root. -/
theorem under_push_iff_of_allowed
    {root path : Path}
    {parts : List Segment}
    (relative : isAbsolute path = false)
    (pathAllowed : isPathRefused path = false)
    (nonempty : parts ≠ [])
    (named : ∀ part ∈ parts, IsName part) :
    Under (push root (join parts)) (joined root path) ↔
      path ≠ parentDir ∧ parts <+: components path := by
  rw [joined]
  by_cases isParent : path = parentDir
  · rw [isParent]
    exact iff_of_false (not_under_push_parentDir nonempty named)
      fun both => both.1 rfl
  · have down : ∀ part ∈ components path, part ≠ parentDir := by
      rintro part member rfl
      exact isParent (eq_parentDir_of_mem_components pathAllowed member)
    rw [under_push_join_iff nonempty named relative down]
    simp [isParent]

/-- All components of an allowed path other than `..` are names. -/
theorem isName_of_allowed
    {path : Path}
    (pathAllowed : isPathRefused path = false)
    (notParent : path ≠ parentDir) :
    ∀ part ∈ components path, IsName part := by
  intro part member
  apply isName_of_mem_components member
  rintro rfl
  exact notParent (eq_parentDir_of_mem_components pathAllowed member)

/-- An allowed path that leads below no directory of the root. -/
theorem forall_not_under_iff
    {root path : Path}
    (relative : isAbsolute path = false)
    (pathAllowed : isPathRefused path = false) :
    (∀ parts, parts ≠ [] → (∀ part ∈ parts, IsName part) →
      ¬ Under (push root (join parts)) (joined root path)) ↔
      components path = [] ∨ path = parentDir := by
  constructor
  · intro nothingBelow
    by_contra neither
    obtain ⟨nonempty, notParent⟩ := not_or.mp neither
    have named := isName_of_allowed pathAllowed notParent
    refine nothingBelow _ nonempty named ?_
    rw [under_push_iff_of_allowed relative pathAllowed nonempty named]
    exact ⟨notParent, List.prefix_refl _⟩
  · intro either parts nonempty named below
    rw [under_push_iff_of_allowed relative pathAllowed nonempty named] at below
    rcases either with empty | isParent
    · rw [empty, List.prefix_nil] at below
      exact nonempty below.2
    · exact below.1 isParent

/-- An allowed path that leads only below what it is spelled with. -/
theorem forall_not_under_of_not_prefix_iff
    {root path : Path}
    (relative : isAbsolute path = false)
    (pathAllowed : isPathRefused path = false) :
    (∀ parts, parts ≠ [] → (∀ part ∈ parts, IsName part) →
      (join parts).isPrefixOf path = false →
      ¬ Under (push root (join parts)) (joined root path)) ↔
      isSpelledOut path = true := by
  rw [isSpelledOut, List.isPrefixOf_iff_prefix]
  constructor
  · intro onlyPrefixes
    by_cases isParent : path = parentDir
    · rw [isParent]
      decide
    by_cases nonempty : components path = []
    · rw [nonempty]
      exact List.nil_prefix
    by_contra notPrefix
    have named := isName_of_allowed pathAllowed isParent
    refine onlyPrefixes _ nonempty named ?_ ?_
    · rw [Bool.eq_false_iff, ne_eq, List.isPrefixOf_iff_prefix]
      exact notPrefix
    · rw [under_push_iff_of_allowed relative pathAllowed nonempty named]
      exact ⟨isParent, List.prefix_refl _⟩
  · intro spelled parts nonempty named notPrefix below
    rw [under_push_iff_of_allowed relative pathAllowed nonempty named] at below
    have isPrefix := (join_mono below.2).trans spelled
    rw [← List.isPrefixOf_iff_prefix, notPrefix] at isPrefix
    cases isPrefix

/--
For a path that is allowed, the joined path is what the rules saw exactly when
the path is spelled plainly.
-/
theorem joined_not_hidden_iff_of_allowed
    (root : Path)
    {req : Request}
    (pathAllowed : isPathRefused (urlPath req) = false) :
    (urlPath req = withoutLeadingSlash (getPath req) ∧
      ¬ HiddenFromRules root (getPath req) (joined root (urlPath req))) ↔
        IsPlainlySpelled req.uri.path := by
  unfold IsPlainlySpelled
  simp only [HiddenFromRules, not_exists, not_and]
  by_cases empty : innerPath req.uri.path = []
  · obtain ⟨ruled, lookedUp⟩ := paths_of_innerPath_eq_nil empty
    have emptyAllowed : isPathRefused [] = false := by
      decide
    have nothingBelow :=
      (@forall_not_under_iff root [] rfl emptyAllowed).mpr
        (Or.inl components_nil)
    rw [ruled, lookedUp]
    refine iff_of_true ⟨rfl, ?_⟩ (Or.inl empty)
    exact fun parts nonempty named _ => nothingBelow parts nonempty named
  have relative := isAbsolute_innerPath req.uri.path
  have trimmed : urlPath req = (innerPath req.uri.path).trim :=
    rfl
  have slashes : ∀ character ∈ req.uri.path.takeWhile (· == '/'),
      character = '/' := fun character member => by
    simpa using List.mem_takeWhile_imp (p := (· == '/')) member
  rw [getPath_of_innerPath_ne_nil empty]
  rw [trimmed] at pathAllowed ⊢
  generalize req.uri.path.takeWhile (· == '/') = front at slashes ⊢
  generalize innerPath req.uri.path = inner at *
  simp only [empty, false_or]
  rcases front with _ | ⟨first, _ | ⟨second, rest⟩⟩
  · -- no slash before the path: no rule can name what is looked up
    simp only [List.nil_append, withoutLeadingSlash_of_relative relative,
      startsWith_slash_of_relative relative, forall_const]
    refine and_congr_right fun same => ?_
    rw [same] at pathAllowed ⊢
    exact forall_not_under_iff relative pathAllowed
  · -- one slash
    obtain rfl : first = '/' := slashes first List.mem_cons_self
    have oneSlash : ∀ text, Str.startsWith ('/' :: inner) ('/' :: text) =
        text.isPrefixOf inner := fun text => by
      simp [Str.startsWith, List.isPrefixOf]
    simp only [List.singleton_append, withoutLeadingSlash, oneSlash]
    refine and_congr_right fun same => ?_
    rw [same] at pathAllowed ⊢
    exact forall_not_under_of_not_prefix_iff relative pathAllowed
  · -- more slashes: the site drops them all, the rules keep all but one
    obtain rfl : first = '/' := slashes first List.mem_cons_self
    refine iff_of_false ?_ (fun both => both.2)
    rintro ⟨same, -⟩
    have shorter : inner.trim.length ≤ inner.length :=
      ((List.rdropWhile_prefix _ _).length_le).trans
        (List.dropWhile_suffix _).length_le
    rw [same] at shorter
    simp only [List.cons_append, withoutLeadingSlash, List.length_cons,
      List.length_append] at shorter
    omega

end Agreement

section Completions

theorem isAbsolute_index : isAbsolute "index.html".toList = false := by
  decide

theorem components_index :
    components "index.html".toList = ["index.html".toList] := by
  decide

theorem isName_index : IsName "index.html".toList :=
  ⟨by decide, by decide, by decide⟩

variable {root : Path} {req : Request}
variable (same : urlPath req = withoutLeadingSlash (getPath req))
variable (relative : isAbsolute (urlPath req) = false)
variable (pathAllowed : isPathRefused (urlPath req) = false)

/-- A path that is spelled plainly is looked up below the root. -/
theorem isAbsolute_urlPath_of_isPlainlySpelled
    (plain : IsPlainlySpelled req.uri.path) :
    isAbsolute (urlPath req) = false := by
  rcases plain with empty | ⟨kept, -⟩
  · rw [(paths_of_innerPath_eq_nil empty).2]
    rfl
  · have trimmed : urlPath req = (innerPath req.uri.path).trim :=
      rfl
    rw [trimmed, kept]
    exact isAbsolute_innerPath req.uri.path

include same

/-- Names that the rules can tell from a path are its first components. -/
theorem prefix_components_of_startsWith
    {front : List Segment}
    {last : Segment}
    (named : ∀ part ∈ front ++ [last], IsName part)
    (starts :
      (getPath req).startsWith ('/' :: join (front ++ [last])) = true) :
    ∃ suffix, front ++ [last ++ suffix] <+: components (urlPath req) := by
  obtain ⟨tail, whole⟩ := List.isPrefixOf_iff_prefix.mp starts
  rw [same, ← whole]
  exact prefix_components_of_join_prefix named (List.prefix_append _ tail)

/-- Names that go further than a path are hidden from the rules. -/
theorem hiddenFromRules_of_resolve
    {path : Path}
    {front : List Segment}
    {last : Segment}
    (named : ∀ part ∈ front ++ [last], IsName part)
    (leads :
      resolve path =
        { resolve root with
          names := (resolve root).names ++ (front ++ [last]) })
    (further :
      ∀ suffix, ¬ front ++ [last ++ suffix] <+: components (urlPath req)) :
    HiddenFromRules root (getPath req) path := by
  have nonempty : front ++ [last] ≠ [] := by
    simp
  refine ⟨front ++ [last], nonempty, named, ?_, ?_⟩
  · rw [Bool.eq_false_iff]
    intro starts
    obtain ⟨suffix, isPrefix⟩ :=
      prefix_components_of_startsWith same named starts
    exact further suffix isPrefix
  · exact (under_push_join_iff_of_resolve nonempty named leads).mpr
      (List.prefix_refl _)

/-- The index of the parent is hidden only where the root is its own parent. -/
theorem hiddenFromRules_index_parent_iff (isParent : urlPath req = parentDir) :
    HiddenFromRules root (getPath req)
        (push (joined root parentDir) "index.html".toList) ↔
      (resolve root).isFileSystemRoot = true := by
  have leads :
      resolve (push (joined root parentDir) "index.html".toList) =
        ((resolve root).enter parentDir).enter "index.html".toList := by
    have parentRelative : isAbsolute parentDir = false := by
      decide
    rw [joined, resolve_push_of_relative isAbsolute_index, components_index,
      resolve_push_of_relative parentRelative]
    rfl
  constructor
  · rintro ⟨parts, nonempty, named, -, under⟩
    obtain ⟨inTree, deeper⟩ :=
      below_of_under_push_join nonempty named under
    rw [Under, leads] at inTree
    rw [leads] at deeper
    exact Location.isFileSystemRoot_of_under_sibling isName_index.2.1 inTree
      deeper
  · intro isTop
    rw [Location.enter_parentDir_of_isFileSystemRoot isTop] at leads
    refine @hiddenFromRules_of_resolve _ _ same _ [] "index.html".toList
      (by simpa using isName_index) (leads.trans (if_neg isName_index.2.1)) ?_
    have lastUp : components parentDir = [parentDir] := by
      decide
    intro suffix isPrefix
    rw [isParent, lastUp] at isPrefix
    simp [parentDir] at isPrefix

include relative

/-- The index of any other directory is hidden. -/
theorem hiddenFromRules_index_of_named
    (named : ∀ part ∈ components (urlPath req), IsName part) :
    HiddenFromRules root (getPath req)
      (push (joined root (urlPath req)) "index.html".toList) := by
  have allNamed :
      ∀ part ∈ components (urlPath req) ++ ["index.html".toList],
        IsName part := by
    intro part member
    rcases List.mem_append.mp member with inPath | isIndex
    · exact named part inPath
    · exact (List.mem_singleton.mp isIndex) ▸ isName_index
  refine @hiddenFromRules_of_resolve _ _ same _ (components (urlPath req))
    "index.html".toList allNamed ?_ ?_
  · rw [joined, resolve_push_of_relative isAbsolute_index, components_index,
      resolve_push_of_relative relative, Location.walk, Location.walk,
      ← List.foldl_append]
    exact Location.walk_of_forall_ne fun part member =>
      (allNamed part member).2.1
  · intro suffix isPrefix
    have longer := isPrefix.length_le
    rw [List.length_append, List.length_singleton] at longer
    exact Nat.not_succ_le_self _ longer

/-- The page of a path that ends in a name is hidden. -/
theorem hiddenFromRules_page_of_named
    {front : List Segment}
    {name : Segment}
    (shape : components (urlPath req) = front ++ [name])
    (named : ∀ part ∈ front ++ [name], IsName part)
    (noExtension : extension (joined root (urlPath req)) = none) :
    HiddenFromRules root (getPath req)
      (setExtension (joined root (urlPath req)) "html".toList) := by
  obtain ⟨nontrivial, notParent, clean⟩ := named name (by simp)
  have isFile : fileName (joined root (urlPath req)) = some name := by
    rw [fileName, joined, components_push_of_relative relative, shape,
      ← List.append_assoc, List.getLast?_concat]
    exact if_neg notParent
  obtain ⟨location, leads, pageLeads⟩ :=
    resolve_setExtension isFile noExtension (by decide : '/' ∉ "html".toList)
  rw [joined, resolve_push_of_relative relative,
    Location.walk_of_forall_ne fun part member =>
      (named part (shape ▸ member)).2.1, shape, Location.mk.injEq] at leads
  obtain ⟨sameStart, sameUps, sameNames⟩ := leads
  refine @hiddenFromRules_of_resolve _ _ same _ front (name ++ ".html".toList)
    ?_ ?_ ?_
  · intro part member
    rcases List.mem_append.mp member with inFront | isPage
    · exact named part (List.mem_append_left _ inFront)
    · rw [List.mem_singleton.mp isPage]
      refine ⟨isTrivial_append nontrivial _, ?_, ?_⟩
      · intro becomesParent
        have sameLength := congrArg List.length becomesParent
        simp [parentDir] at sameLength
      · simp [clean]
  · rw [pageLeads, Location.mk.injEq]
    refine ⟨sameStart.symm, sameUps.symm, ?_⟩
    rw [← List.append_assoc] at sameNames ⊢
    rw [(List.append_inj' sameNames rfl).1]
    rfl
  · intro suffix isPrefix
    rw [shape] at isPrefix
    have isSame := isPrefix.eq_of_length (by simp)
    have sameLast := List.singleton_inj.mp (List.append_inj' isSame rfl).2
    have sameLength := congrArg List.length sameLast
    simp at sameLength

include pathAllowed

/-- The index of a directory is hidden, unless that is outside of the root. -/
theorem hiddenFromRules_index_iff :
    HiddenFromRules root (getPath req)
        (push (joined root (urlPath req)) "index.html".toList) ↔
      (urlPath req = parentDir → (resolve root).isFileSystemRoot = true) := by
  by_cases isParent : urlPath req = parentDir
  · have parent := @hiddenFromRules_index_parent_iff root _ same isParent
    rw [← isParent] at parent
    rw [parent]
    exact ⟨fun isTop _ => isTop, fun isTop => isTop isParent⟩
  · exact iff_of_true
      (hiddenFromRules_index_of_named same relative
        (isName_of_allowed pathAllowed isParent))
      (absurd · isParent)

/-- A page is hidden, unless it is the root or its parent that is completed. -/
theorem hiddenFromRules_page_iff
    (noExtension : extension (joined root (urlPath req)) = none) :
    HiddenFromRules root (getPath req)
        (setExtension (joined root (urlPath req)) "html".toList) ↔
      urlPath req ≠ parentDir ∧ components (urlPath req) ≠ [] := by
  have shorter :=
    length_names_resolve_setExtension noExtension
      (by decide : '/' ∉ "html".toList)
  -- neither the root nor its parent has a name below the root
  have shallow
      (short :
        (resolve (joined root (urlPath req))).names.length ≤
          (resolve root).names.length) :
      ¬ HiddenFromRules root (getPath req)
        (setExtension (joined root (urlPath req)) "html".toList) := by
    rintro ⟨parts, nonempty, named, -, under⟩
    have deeper := (below_of_under_push_join nonempty named under).2
    omega
  by_cases isParent : urlPath req = parentDir
  · refine iff_of_false (shallow ?_) fun both => both.1 isParent
    rw [joined, isParent, resolve_push_of_relative (by decide)]
    exact Location.length_names_enter_parentDir (resolve root)
  have named := isName_of_allowed pathAllowed isParent
  rcases List.eq_nil_or_concat' (components (urlPath req)) with
    empty | ⟨front, name, shape⟩
  · refine iff_of_false (shallow ?_) fun both => both.2 empty
    rw [joined, resolve_push_of_relative relative, empty]
    exact Nat.le_refl _
  · refine iff_of_true ?_ ⟨isParent, by simp [shape]⟩
    exact hiddenFromRules_page_of_named same relative shape
      (fun part member => named part (shape ▸ member)) noExtension

end Completions

section Accesses

variable
  (sha256 : Sha256) (mimeFromExt : Str → Str)
  (oracle : FileOracle) (site : StaticSiteService)

/--
A request that is not rejected is looked up as the rules saw it exactly when its
path is spelled plainly and nothing completes it.
-/
theorem looksUpWhatRulesSee_iff_of_allowed
    {req : Request}
    (methodAllowed : req.method = .get ∨ req.method = .head)
    (pathAllowed : isPathRefused (urlPath req) = false) :
    LooksUpWhatRulesSee sha256 mimeFromExt oracle site req ↔
      IsPlainlySpelled req.uri.path ∧
        CompletesNothing oracle site.config.root (urlPath req) := by
  have everyAccess :
      (∀ access ∈ site.accesses sha256 mimeFromExt oracle req,
        ¬ HiddenFromRules site.config.root (getPath req) access.path) ↔
      ∀ path, Accessed (site.accesses sha256 mimeFromExt oracle req) path →
        ¬ HiddenFromRules site.config.root (getPath req) path := by
    simp [Accessed]
  rw [LooksUpWhatRulesSee, everyAccess, CompletesNothing]
  simp only [accessed_accesses_iff sha256 mimeFromExt oracle site methodAllowed
    pathAllowed]
  have joinedIff :=
    joined_not_hidden_iff_of_allowed site.config.root pathAllowed
  constructor
  · rintro ⟨same, seen⟩
    have plain := joinedIff.mp ⟨same, seen _ (Or.inl rfl)⟩
    have relative := isAbsolute_urlPath_of_isPlainlySpelled plain
    refine ⟨plain, fun isDirectory => ?_, fun completed => ?_⟩
    · have seenIndex := seen _ (Or.inr (Or.inl ⟨isDirectory, rfl⟩))
      rw [hiddenFromRules_index_iff same relative pathAllowed] at seenIndex
      simpa using seenIndex
    · have seenPage := seen _ (Or.inr (Or.inr ⟨completed, rfl⟩))
      rw [hiddenFromRules_page_iff same relative pathAllowed completed.2]
        at seenPage
      by_contra neither
      exact seenPage (not_or.mp neither)
  · rintro ⟨plain, noIndex, noPage⟩
    obtain ⟨same, seenJoined⟩ := joinedIff.mpr plain
    have relative := isAbsolute_urlPath_of_isPlainlySpelled plain
    refine ⟨same, ?_⟩
    rintro path (rfl | ⟨isDirectory, rfl⟩ | ⟨completed, rfl⟩)
    · exact seenJoined
    · rw [hiddenFromRules_index_iff same relative pathAllowed]
      obtain ⟨isParent, notTop⟩ := noIndex isDirectory
      simp [isParent, notTop]
    · rw [hiddenFromRules_page_iff same relative pathAllowed completed.2]
      exact fun named => (noPage completed).elim named.1 named.2

/--
For every site, request and answers of the file system: what is looked up
without rejecting the request is what the rules saw exactly when the path is
spelled plainly and neither an index nor a page completes it.
-/
theorem looksUpWhatRulesSee_iff (req : Request) :
    (¬ IsRejected req →
      LooksUpWhatRulesSee sha256 mimeFromExt oracle site req) ↔
      IsRejected req ∨
        (IsPlainlySpelled req.uri.path ∧
          CompletesNothing oracle site.config.root (urlPath req)) := by
  by_cases rejected : IsRejected req
  · simp [rejected]
  · obtain ⟨methodKept, pathKept⟩ := not_or.mp rejected
    have methodAllowed : req.method = .get ∨ req.method = .head := by
      by_contra neither
      exact methodKept (not_or.mp neither)
    have pathAllowed : isPathRefused (urlPath req) = false := by
      simpa using pathKept
    simp only [rejected, not_false_eq_true, forall_const, false_or]
    exact looksUpWhatRulesSee_iff_of_allowed sha256 mimeFromExt oracle site
      methodAllowed pathAllowed

/-- A second slash hides `.env` from a rule on `/.env`, not from the site. -/
theorem not_looksUpWhatRulesSee_double_slash :
    ¬ ∀ (sha256 : Sha256) (mimeFromExt : Str → Str)
        (oracle : FileOracle) (site : StaticSiteService) (req : Request),
        ¬ IsRejected req →
          LooksUpWhatRulesSee sha256 mimeFromExt oracle site req := by
  intro agree
  have seen :=
    (agree (fun _ => Vector.replicate 32 0) id
      (.onlyFile "/var/www/.env".toList) ⟨⟨"/var/www".toList⟩⟩
      (.ofPath .get "//.env".toList) (by decide)).2
  refine seen (.read "/var/www/.env".toList) (by decide)
    ⟨[".env".toList], by decide, ?_, by decide, by decide⟩
  intro part member
  rw [List.mem_singleton.mp member]
  exact ⟨by decide, by decide, by decide⟩

/-- `/admin` is answered with `admin.html`, which is hidden from the rules. -/
example :
    ¬ LooksUpWhatRulesSee (fun _ => Vector.replicate 32 0) id
      (.onlyFile "/var/www/admin.html".toList) ⟨⟨"/var/www".toList⟩⟩
      (.ofPath .get "/admin".toList) := by
  rintro ⟨-, seen⟩
  refine seen (.read "/var/www/admin.html".toList) (by decide)
    ⟨["admin.html".toList], by decide, ?_, by decide, by decide⟩
  intro part member
  rw [List.mem_singleton.mp member]
  exact ⟨by decide, by decide, by decide⟩

end Accesses

end Pingoo
