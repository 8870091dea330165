import Mathlib.Data.List.DropRight
import Mathlib.Data.List.Infix

namespace UnixPath

/-!
# Unix paths and where they lead

A path is a text.  Its components are what stands between slashes, without the
empty segments and without `.`; read from left to right they lead to a location.
`..` is resolved lexically: it leaves the last directory that was entered.  The
operations are those of a path buffer: pushing a path, the file name and its
extension, and replacing the extension.
-/

/-- A path, as its text. -/
abbrev Path := List Char

/-- What stands between two slashes. -/
abbrev Segment := List Char

/-- The component that leads to the parent directory. -/
def parentDir : Segment :=
  ['.', '.']

/-- A path that starts at the root of the file system. -/
def isAbsolute (path : Path) : Bool :=
  path.head? == some '/'

/-- The text between the slashes of a path. -/
def segments (path : Path) : List Segment :=
  path.splitOn '/'

/-- Put segments together again. -/
def join (parts : List Segment) : Path :=
  ['/'].intercalate parts

/-- An empty segment or `.`: it leads nowhere. -/
def isTrivial (segment : Segment) : Bool :=
  segment == [] || segment == ['.']

/-- The segments that lead somewhere. -/
def components (path : Path) : List Segment :=
  (segments path).filter fun segment => !isTrivial segment

/-- What two path buffers are compared by: a first `.` counts, others do not. -/
structure Identity where
  absolute : Bool
  fromHere : Bool
  components : List Segment
  deriving Repr, DecidableEq

def identity (path : Path) : Identity where
  absolute :=
    isAbsolute path
  fromHere :=
    (segments path).head? == some ['.']
  components :=
    components path

/--
Where a path leads: from the root or from the working directory, some levels up
and then into some directories.
-/
structure Location where
  absolute : Bool
  ups : Nat
  names : List Segment
  deriving Repr, DecidableEq

namespace Location

/-- Follow one component. -/
def enter (location : Location) (component : Segment) : Location :=
  if component = parentDir then
    if location.names ≠ [] then
      { location with names := location.names.dropLast }
    else if location.absolute then
      location
    else
      { location with ups := location.ups + 1 }
  else
    { location with names := location.names ++ [component] }

/-- Follow some components. -/
def walk (location : Location) (parts : List Segment) : Location :=
  parts.foldl enter location

/-- A location is `root` itself or lies in the tree below it. -/
def Under (root location : Location) : Prop :=
  location.absolute = root.absolute ∧
    location.ups = root.ups ∧
    root.names <+: location.names

instance (root location : Location) : Decidable (Under root location) :=
  inferInstanceAs (Decidable (_ ∧ _ ∧ _))

/-- The root of the file system. -/
def isFileSystemRoot (location : Location) : Bool :=
  location.absolute && location.names == []

theorem Under.refl (root : Location) : Under root root :=
  ⟨rfl, rfl, List.prefix_refl root.names⟩

/-- Components that never go up only add names. -/
theorem walk_of_forall_ne
    {location : Location}
    {parts : List Segment}
    (down : ∀ part ∈ parts, part ≠ parentDir) :
    location.walk parts =
      { location with names := location.names ++ parts } := by
  induction parts generalizing location with
  | nil =>
      simp [walk]
  | cons part rest inductionHypothesis =>
      have entered : location.enter part =
          { location with names := location.names ++ [part] } :=
        if_neg (down part List.mem_cons_self)
      have tailDown : ∀ other ∈ rest, other ≠ parentDir :=
        fun other member => down other (List.mem_cons_of_mem part member)
      have walked :
          location.walk (part :: rest) = (location.enter part).walk rest :=
        rfl
      rw [walked, entered, inductionHypothesis tailDown]
      simp

/-- Going up leads to no longer list of names. -/
theorem length_names_enter_parentDir (location : Location) :
    (location.enter parentDir).names.length ≤ location.names.length := by
  unfold enter
  rw [if_pos rfl]
  split
  · simp
  · split <;> exact Nat.le_refl _

/-- The parent of a root is under it only at the top of the file system. -/
theorem under_enter_parentDir_iff (root : Location) :
    Under root (root.enter parentDir) ↔ root.isFileSystemRoot := by
  unfold enter
  rw [if_pos rfl]
  by_cases empty : root.names = []
  · rw [if_neg (not_not_intro empty)]
    cases anchored : root.absolute with
    | true =>
        simp [isFileSystemRoot, anchored, empty, Under.refl]
    | false =>
        simp [isFileSystemRoot, anchored, Under]
  · rw [if_pos empty]
    have shorter :
        root.names.dropLast.length < root.names.length := by
      have positive := List.length_pos_iff.mpr empty
      rw [List.length_dropLast]
      omega
    simp only [Under, isFileSystemRoot, true_and, beq_eq_false_iff_ne.mpr empty,
      Bool.and_false, Bool.false_eq_true, iff_false]
    intro isPrefix
    have := isPrefix.length_le
    omega

/-- The root of the file system is its own parent. -/
theorem enter_parentDir_of_isFileSystemRoot
    {root : Location}
    (isTop : root.isFileSystemRoot = true) :
    root.enter parentDir = root := by
  simp only [isFileSystemRoot, Bool.and_eq_true, beq_iff_eq] at isTop
  simp [enter, isTop]

/-- Only the root of the file system has what is next to it below it. -/
theorem isFileSystemRoot_of_under_sibling
    {root : Location}
    {name : Segment}
    (notParent : name ≠ parentDir)
    (under : Under root ((root.enter parentDir).enter name))
    (deeper :
      root.names.length < ((root.enter parentDir).enter name).names.length) :
    root.isFileSystemRoot = true := by
  obtain ⟨absolute, ups, names⟩ := root
  rcases List.eq_nil_or_concat' names with rfl | ⟨front, last, rfl⟩
  · cases absolute with
    | true =>
        rfl
    | false =>
        simp [enter, notParent, Under] at under
  · simp [enter, notParent] at deeper

end Location

/-- Where a path leads. -/
def resolve (path : Path) : Location :=
  Location.walk ⟨isAbsolute path, 0, []⟩ (components path)

/-- A path leads to `root` or below it. -/
def Under (root path : Path) : Prop :=
  Location.Under (resolve root) (resolve path)

instance (root path : Path) : Decidable (Under root path) :=
  inferInstanceAs (Decidable (Location.Under _ _))

section Push

/-- Append a path to another; an absolute path replaces it. -/
def push (base path : Path) : Path :=
  if isAbsolute path then
    path
  else
    match base.getLast? with
    | none => path
    | some last =>
        if last = '/' then base ++ path else base ++ '/' :: path

/-- Components lead somewhere. -/
theorem isTrivial_of_mem_components
    {path : Path}
    {part : Segment}
    (member : part ∈ components path) :
    isTrivial part = false := by
  simpa using (List.mem_filter.mp member).2

/-- What starts with a segment that leads somewhere leads somewhere. -/
theorem isTrivial_append
    {segment : Segment}
    (nontrivial : isTrivial segment = false)
    (suffix : Segment) :
    isTrivial (segment ++ suffix) = false := by
  rcases segment with _ | ⟨first, _ | ⟨second, rest⟩⟩
  · simp [isTrivial] at nontrivial
  · have notDot : first ≠ '.' := by
      simpa [isTrivial] using nontrivial
    simp [isTrivial, notDot]
  · simp [isTrivial]

/-- The components on both sides of a slash. -/
theorem components_append_slash (first second : Path) :
    components (first ++ '/' :: second) =
      components first ++ components second := by
  simp [components, segments, List.splitOn_append_cons_self]

@[simp] theorem components_nil : components [] = [] := by
  simp [components, segments, isTrivial]

/-- Pushing a relative path appends its components. -/
theorem components_push_of_relative
    {base path : Path}
    (relative : isAbsolute path = false) :
    components (push base path) = components base ++ components path := by
  rw [push, relative]
  rcases List.eq_nil_or_concat' base with rfl | ⟨front, last, rfl⟩
  · simp
  · simp only [Bool.false_eq_true, if_false, List.getLast?_concat]
    split
    · next isSlash =>
        subst isSlash
        rw [List.append_assoc, List.singleton_append,
          components_append_slash, components_append_slash]
        simp
    · exact components_append_slash _ _

/-- Pushing a relative path starts where the base starts. -/
theorem isAbsolute_push_of_relative
    {base path : Path}
    (relative : isAbsolute path = false) :
    isAbsolute (push base path) = isAbsolute base := by
  rw [push, relative]
  rcases List.eq_nil_or_concat' base with rfl | ⟨front, last, rfl⟩
  · simpa [isAbsolute] using relative
  · simp only [Bool.false_eq_true, if_false, List.getLast?_concat]
    split <;> cases front <;> simp [isAbsolute]

/-- A relative path is followed from where the base leads. -/
theorem resolve_push_of_relative
    {base path : Path}
    (relative : isAbsolute path = false) :
    resolve (push base path) = (resolve base).walk (components path) := by
  rw [resolve, components_push_of_relative relative,
    isAbsolute_push_of_relative relative, Location.walk, List.foldl_append]
  rfl

/-- An absolute path replaces the base. -/
theorem push_of_absolute
    {base path : Path}
    (absolute : isAbsolute path = true) :
    push base path = path := by
  rw [push, absolute, if_pos rfl]

/-- Pushing a relative path that never goes up stays below the base. -/
theorem Under.push_of_forall_ne
    {root base path : Path}
    (under : Under root base)
    (relative : isAbsolute path = false)
    (down : ∀ part ∈ components path, part ≠ parentDir) :
    Under root (push base path) := by
  obtain ⟨sameStart, sameUps, isPrefix⟩ := under
  rw [Under, resolve_push_of_relative relative,
    Location.walk_of_forall_ne down]
  exact ⟨sameStart, sameUps, isPrefix.trans (List.prefix_append _ _)⟩

/-- A path that is pushed leads back to the base when it has no component. -/
theorem resolve_push_eq_iff
    {base path : Path}
    (relative : isAbsolute path = false)
    (down : ∀ part ∈ components path, part ≠ parentDir) :
    resolve (push base path) = resolve base ↔ components path = [] := by
  rw [resolve_push_of_relative relative, Location.walk_of_forall_ne down]
  constructor
  · intro same
    have sameNames := congrArg Location.names same
    simpa using sameNames
  · intro empty
    simp [empty]

end Push

section Segments

/-- Segments have no slash in them. -/
theorem slash_notMem_of_mem_segments
    {path : Path}
    {segment : Segment}
    (member : segment ∈ segments path) :
    '/' ∉ segment := by
  induction path generalizing segment with
  | nil =>
      simp only [segments, List.splitOn_nil, List.mem_singleton] at member
      simp [member]
  | cons character rest inductionHypothesis =>
      rw [segments, List.splitOn_cons_eq_if_modifyHead] at member
      by_cases isSlash : character = '/'
      · simp only [isSlash, BEq.rfl, if_true, List.mem_cons] at member
        rcases member with isEmpty | inRest
        · simp [isEmpty]
        · exact inductionHypothesis inRest
      · obtain ⟨first, others, shape⟩ :=
          List.exists_cons_of_ne_nil (List.splitOn_ne_nil '/' rest)
        rw [if_neg (by simpa using isSlash), shape,
          List.modifyHead_cons, List.mem_cons] at member
        rcases member with isFirst | inOthers
        · have firstClean : '/' ∉ first :=
            inductionHypothesis (by simp [segments, shape])
          simp [isFirst, firstClean, Ne.symm isSlash]
        · exact inductionHypothesis (by simp [segments, shape, inOthers])

/-- A path is absolute when its text starts with an empty segment. -/
theorem isAbsolute_iff_segments (path : Path) :
    isAbsolute path = true ↔
      ∃ rest, rest ≠ [] ∧ segments path = [] :: rest := by
  cases path with
  | nil =>
      simp [isAbsolute, segments]
  | cons character rest =>
      rw [segments, List.splitOn_cons_eq_if_modifyHead]
      by_cases isSlash : character = '/'
      · simp [isAbsolute, isSlash, List.splitOn_ne_nil]
      · obtain ⟨first, others, shape⟩ :=
          List.exists_cons_of_ne_nil (List.splitOn_ne_nil '/' rest)
        simp [isAbsolute, isSlash, shape]

/-- Splitting what was joined gives the segments back. -/
theorem segments_join
    {parts : List Segment}
    (clean : ∀ part ∈ parts, '/' ∉ part)
    (nonempty : parts ≠ []) :
    segments (join parts) = parts :=
  List.splitOn_intercalate '/' clean nonempty

/-- A text that goes on after a text without a slash goes on in its segment. -/
theorem segments_append_of_notMem
    {front : Path}
    (clean : '/' ∉ front)
    (tail : Path) :
    segments (front ++ tail) = (segments tail).modifyHead (front ++ ·) := by
  induction front with
  | nil =>
      exact List.modifyHead_id.symm ▸ rfl
  | cons character rest inductionHypothesis =>
      obtain ⟨notSlash, restClean⟩ := not_or.mp (List.mem_cons.not.mp clean)
      have isOther : (character == '/') = false := by
        simpa using Ne.symm notSlash
      rw [segments, List.cons_append, List.splitOn_cons_eq_if_modifyHead,
        isOther, if_neg Bool.false_ne_true, ← segments,
        inductionHypothesis restClean, List.modifyHead_modifyHead]
      rfl

/-- One segment is its own text. -/
@[simp] theorem join_singleton (part : Segment) : join [part] = part := by
  simp [join, List.intercalate]

/-- Joining a segment and at least one more. -/
theorem join_cons_cons (first second : Segment) (rest : List Segment) :
    join (first :: second :: rest) =
      first ++ '/' :: join (second :: rest) := by
  simp [join, List.intercalate, List.intersperse]

/-- Joining two lists of segments that are not empty. -/
theorem join_append
    {first second : List Segment}
    (firstNonempty : first ≠ [])
    (secondNonempty : second ≠ []) :
    join (first ++ second) = join first ++ '/' :: join second := by
  induction first with
  | nil =>
      exact absurd rfl firstNonempty
  | cons part rest inductionHypothesis =>
      cases rest with
      | nil =>
          obtain ⟨head, tail, rfl⟩ :=
            List.exists_cons_of_ne_nil secondNonempty
          rw [List.singleton_append, join_cons_cons]
          simp [join, List.intercalate]
      | cons other others =>
          rw [List.cons_append, List.cons_append, join_cons_cons,
            ← List.cons_append, inductionHypothesis (by simp),
            join_cons_cons, List.append_assoc, List.cons_append]

/-- The join of the first segments stands at the start of the join. -/
theorem join_mono
    {first second : List Segment}
    (isPrefix : first <+: second) :
    join first <+: join second := by
  obtain ⟨rest, rfl⟩ := isPrefix
  rcases eq_or_ne first [] with rfl | firstNonempty
  · exact List.nil_prefix
  · rcases eq_or_ne rest [] with rfl | restNonempty
    · simp
    · rw [join_append firstNonempty restNonempty]
      exact List.prefix_append _ _

/-- A segment stands in the text at an end or next to a slash. -/
theorem join_of_mem
    {parts : List Segment}
    {part : Segment}
    (member : part ∈ parts) :
    ∃ before after,
      join parts = before ++ part ++ after ∧
      (before = [] ∨ ∃ front, before = front ++ ['/']) ∧
      (after = [] ∨ ∃ tail, after = '/' :: tail) := by
  induction parts with
  | nil =>
      cases member
  | cons first rest inductionHypothesis =>
      cases rest with
      | nil =>
          refine ⟨[], [], ?_, Or.inl rfl, Or.inl rfl⟩
          rw [List.mem_singleton.mp member]
          simp [join, List.intercalate]
      | cons second others =>
          rw [join_cons_cons]
          rcases List.mem_cons.mp member with isFirst | inRest
          · exact ⟨[], '/' :: join (second :: others), by simp [isFirst],
              Or.inl rfl, Or.inr ⟨_, rfl⟩⟩
          · obtain ⟨before, after, whole, atStart, atEnd⟩ :=
              inductionHypothesis inRest
            refine ⟨first ++ '/' :: before, after, by simp [whole],
              Or.inr ?_, atEnd⟩
            rcases atStart with rfl | ⟨front, rfl⟩
            · exact ⟨first, rfl⟩
            · exact ⟨first ++ '/' :: front, by simp⟩

/-- A path is the join of its segments. -/
@[simp] theorem join_segments (path : Path) : join (segments path) = path :=
  List.intercalate_splitOn '/'

/--
A path with a `..` component is `..` alone, or has it next to a slash in its
text.
-/
theorem eq_parentDir_or_infix_of_mem_components
    {path : Path}
    (member : parentDir ∈ components path) :
    path = parentDir ∨
      '/' :: parentDir <:+: path ∨
      parentDir ++ ['/'] <:+: path := by
  obtain ⟨before, after, whole, atStart, atEnd⟩ :=
    join_of_mem (List.mem_of_mem_filter member)
  rw [join_segments] at whole
  rcases atStart with rfl | ⟨front, rfl⟩
  · rcases atEnd with rfl | ⟨tail, rfl⟩
    · exact Or.inl (by simpa using whole)
    · exact Or.inr (Or.inr ⟨[], tail, by simp [whole]⟩)
  · exact Or.inr (Or.inl ⟨front, after, by simp [whole]⟩)

end Segments

section Name

/-- A segment that names a file or a directory. -/
def IsName (part : Segment) : Prop :=
  isTrivial part = false ∧ part ≠ parentDir ∧ '/' ∉ part

/-- Joined names are a relative path whose components they are. -/
theorem components_join_of_isName
    {parts : List Segment}
    (nonempty : parts ≠ [])
    (named : ∀ part ∈ parts, IsName part) :
    isAbsolute (join parts) = false ∧ components (join parts) = parts := by
  have split := segments_join (fun part member => (named part member).2.2)
    nonempty
  constructor
  · rw [Bool.eq_false_iff, ne_eq, isAbsolute_iff_segments, split]
    rintro ⟨rest, -, rfl⟩
    have emptyNamed := (named [] List.mem_cons_self).1
    simp [isTrivial] at emptyNamed
  · rw [components, split, List.filter_eq_self]
    intro part member
    simp [(named part member).1]

/-- A component that is not `..` is a name. -/
theorem isName_of_mem_components
    {path : Path}
    {part : Segment}
    (member : part ∈ components path)
    (down : part ≠ parentDir) :
    IsName part :=
  ⟨isTrivial_of_mem_components member, down,
    slash_notMem_of_mem_segments (List.mem_of_mem_filter member)⟩

/--
A path that is spelled with some names at its start has all of them as its first
components, but that the last of them may go on.
-/
theorem prefix_components_of_join_prefix
    {path : Path}
    {front : List Segment}
    {last : Segment}
    (named : ∀ part ∈ front ++ [last], IsName part)
    (isPrefix : join (front ++ [last]) <+: path) :
    ∃ suffix, front ++ [last ++ suffix] <+: components path := by
  induction front generalizing path with
  | nil =>
      obtain ⟨tail, rfl⟩ := isPrefix
      obtain ⟨nontrivial, -, clean⟩ := named last List.mem_cons_self
      obtain ⟨first, others, shape⟩ :=
        List.exists_cons_of_ne_nil (List.splitOn_ne_nil '/' tail)
      refine ⟨first, ?_⟩
      rw [List.nil_append, List.nil_append, join_singleton, components,
        segments_append_of_notMem clean, segments, shape, List.modifyHead_cons]
      simp [isTrivial_append nontrivial]
  | cons part rest inductionHypothesis =>
      obtain ⟨isName, restNamed⟩ := List.forall_mem_cons.mp named
      have own : components part = [part] := by
        simpa using (@components_join_of_isName [part] (by simp) (by simpa)).2
      have split : join (part :: rest ++ [last]) =
          part ++ '/' :: join (rest ++ [last]) := by
        simpa using @join_append [part] (rest ++ [last]) (by simp) (by simp)
      obtain ⟨tail, rfl⟩ := isPrefix
      obtain ⟨suffix, isRest⟩ :=
        inductionHypothesis restNamed (List.prefix_append _ tail)
      refine ⟨suffix, ?_⟩
      rw [split, List.append_assoc, List.cons_append (a := '/'),
        components_append_slash, own]
      exact (List.prefix_append_right_inj [part]).mpr isRest

/-- A path lies below a directory of the root when it starts with its names. -/
theorem under_push_join_iff_of_resolve
    {root path : Path}
    {parts below : List Segment}
    (nonempty : parts ≠ [])
    (named : ∀ part ∈ parts, IsName part)
    (leads :
      resolve path =
        { resolve root with names := (resolve root).names ++ below }) :
    Under (push root (join parts)) path ↔ parts <+: below := by
  obtain ⟨partsRelative, partsComponents⟩ :=
    components_join_of_isName nonempty named
  have partsDown : ∀ part ∈ components (join parts), part ≠ parentDir := by
    rw [partsComponents]
    exact fun part member => (named part member).2.1
  rw [Under, resolve_push_of_relative partsRelative, leads,
    Location.walk_of_forall_ne partsDown, partsComponents]
  simp [Location.Under, List.prefix_append_right_inj]

/-- What lies below a directory of the root is spelled with its names. -/
theorem under_push_join_iff
    {root path : Path}
    {parts : List Segment}
    (nonempty : parts ≠ [])
    (named : ∀ part ∈ parts, IsName part)
    (relative : isAbsolute path = false)
    (down : ∀ part ∈ components path, part ≠ parentDir) :
    Under (push root (join parts)) (push root path) ↔
      parts <+: components path := by
  apply under_push_join_iff_of_resolve nonempty named
  rw [resolve_push_of_relative relative, Location.walk_of_forall_ne down]

/-- What lies below a directory of the root is in its tree, and deeper. -/
theorem below_of_under_push_join
    {root path : Path}
    {parts : List Segment}
    (nonempty : parts ≠ [])
    (named : ∀ part ∈ parts, IsName part)
    (under : Under (push root (join parts)) path) :
    Under root path ∧
      (resolve root).names.length < (resolve path).names.length := by
  obtain ⟨partsRelative, partsComponents⟩ :=
    components_join_of_isName nonempty named
  have partsDown : ∀ part ∈ components (join parts), part ≠ parentDir := by
    rw [partsComponents]
    exact fun part member => (named part member).2.1
  rw [Under, resolve_push_of_relative partsRelative,
    Location.walk_of_forall_ne partsDown, partsComponents] at under
  obtain ⟨sameStart, sameUps, isPrefix⟩ := under
  refine ⟨⟨sameStart, sameUps, (List.prefix_append _ _).trans isPrefix⟩, ?_⟩
  have longer := isPrefix.length_le
  have positive := List.length_pos_iff.mpr nonempty
  simp only [List.length_append] at longer
  omega

/-- The parent of the root lies below no directory of the root. -/
theorem not_under_push_parentDir
    {root : Path}
    {parts : List Segment}
    (nonempty : parts ≠ [])
    (named : ∀ part ∈ parts, IsName part) :
    ¬ Under (push root (join parts)) (push root parentDir) := by
  intro under
  have deeper := (below_of_under_push_join nonempty named under).2
  have parentRelative : isAbsolute parentDir = false := by
    decide
  rw [resolve_push_of_relative parentRelative] at deeper
  exact absurd (Location.length_names_enter_parentDir (resolve root))
    (Nat.not_le.mpr deeper)

end Name

section FileName

/-- The last component, unless it is `..`. -/
def fileName (path : Path) : Option Segment :=
  match (components path).getLast? with
  | none => none
  | some name => if name = parentDir then none else some name

/-- A file name up to its last dot, with the dot. -/
def throughLastDot (name : Segment) : Segment :=
  name.rdropWhile (· != '.')

/-- A name has an extension when a dot stands in it after something else. -/
def hasExtension (name : Segment) : Bool :=
  (throughLastDot name).dropLast != []

/-- The name without its extension. -/
def fileStem (name : Segment) : Segment :=
  if hasExtension name then (throughLastDot name).dropLast else name

/-- The extension of the file a path leads to. -/
def extension (path : Path) : Option Segment :=
  match fileName path with
  | none => none
  | some name =>
      if hasExtension name then
        some (name.drop (throughLastDot name).length)
      else
        none

/-- Replace the extension of the file a path leads to. -/
def setExtension (path : Path) (newExtension : Segment) : Path :=
  let parts := (segments path).rdropWhile isTrivial
  match parts.getLast? with
  | none => path
  | some name =>
      if name = parentDir then
        path
      else
        join (parts.dropLast ++ [fileStem name ++ '.' :: newExtension])

/-- A file without an extension keeps its whole name as its stem. -/
theorem fileStem_of_extension_eq_none
    {path : Path}
    {name : Segment}
    (named : fileName path = some name)
    (noExtension : extension path = none) :
    fileStem name = name := by
  have bare : hasExtension name = false := by
    simpa [extension, named] using noExtension
  simp [fileStem, bare]

/-- Replacing the last segment does not move the start of a path. -/
private theorem isAbsolute_join_concat
    {path : Path}
    {front tail : List Segment}
    {last replacement : Segment}
    (shape : segments path = front ++ last :: tail)
    (lastNonempty : last ≠ [])
    (replacementNonempty : replacement ≠ [])
    (clean : ∀ part ∈ front ++ [replacement], '/' ∉ part) :
    isAbsolute (join (front ++ [replacement])) = isAbsolute path := by
  rw [Bool.eq_iff_iff, isAbsolute_iff_segments, isAbsolute_iff_segments,
    segments_join clean (by simp), shape]
  cases front <;> simp [lastNonempty, replacementNonempty]

/-- Dropping trivial segments at the end drops no component. -/
theorem filter_rdropWhile_isTrivial (parts : List Segment) :
    (parts.rdropWhile isTrivial).filter (fun part => !isTrivial part) =
      parts.filter fun part => !isTrivial part := by
  induction parts using List.reverseRecOn with
  | nil =>
      rfl
  | append_singleton front last inductionHypothesis =>
      by_cases trivial : isTrivial last
      · rw [List.rdropWhile_concat_pos _ _ _ trivial, inductionHypothesis]
        simp [trivial]
      · rw [List.rdropWhile_concat_neg _ _ _ trivial]

/-- The stem of a name that is not empty is not empty. -/
private theorem fileStem_ne_nil
    {name : Segment}
    (nonempty : name ≠ []) :
    fileStem name ≠ [] := by
  unfold fileStem
  split
  · next dotted =>
      simpa [hasExtension] using dotted
  · exact nonempty

/-- The stem of a name has no character the name does not have. -/
private theorem fileStem_subset (name : Segment) : fileStem name ⊆ name := by
  unfold fileStem
  split
  · exact List.Subset.trans (List.dropLast_subset _)
      (List.rdropWhile_prefix _ name).subset
  · exact List.Subset.refl name

/--
Where replacing an extension leads: the same directories, and the same file
under its new name.
-/
theorem setExtension_spec
    {path : Path}
    {name newExtension : Segment}
    (named : fileName path = some name)
    (clean : '/' ∉ newExtension) :
    name ≠ parentDir ∧
    ∃ front,
      components path = front ++ [name] ∧
      components (setExtension path newExtension) =
        front ++ [fileStem name ++ '.' :: newExtension] ∧
      isAbsolute (setExtension path newExtension) = isAbsolute path := by
  have lastComponent :
      (components path).getLast? = some name ∧ name ≠ parentDir := by
    unfold fileName at named
    cases found : (components path).getLast? with
    | none =>
        simp [found] at named
    | some last =>
        simp only [found] at named
        split at named
        · cases named
        · next notParent =>
            cases named
            exact ⟨rfl, notParent⟩
  obtain ⟨found, notParent⟩ := lastComponent
  refine ⟨notParent, ?_⟩
  rw [components, ← filter_rdropWhile_isTrivial] at found ⊢
  -- the segments that are kept end in the file name
  rcases List.eq_nil_or_concat' ((segments path).rdropWhile isTrivial) with
    allTrivial | ⟨front, last, kept⟩
  · simp [allTrivial] at found
  have lastNontrivial : isTrivial last = false := by
    have := List.rdropWhile_last_not isTrivial (segments path)
      (by simp [kept])
    simpa [kept] using this
  have isName : last = name := by
    simpa [kept, lastNontrivial] using found
  subst last
  have lastNonempty : name ≠ [] := by
    rintro rfl
    simp [isTrivial] at lastNontrivial
  have stemNonempty := fileStem_ne_nil lastNonempty
  have newNontrivial :
      isTrivial (fileStem name ++ '.' :: newExtension) = false := by
    cases shape : fileStem name with
    | nil =>
        exact absurd shape stemNonempty
    | cons first rest =>
        simp [isTrivial]
  obtain ⟨tail, whole⟩ : ∃ tail,
      segments path = front ++ name :: tail := by
    obtain ⟨tail, whole⟩ :=
      List.rdropWhile_prefix isTrivial (segments path)
    exact ⟨tail, by simpa [kept] using whole.symm⟩
  have keptClean :
      ∀ part ∈ front ++ [fileStem name ++ '.' :: newExtension],
        '/' ∉ part := by
    intro part member
    rcases List.mem_append.mp member with inFront | isNew
    · have isSegment : part ∈ segments path := by
        simp [whole, inFront]
      exact slash_notMem_of_mem_segments isSegment
    · rw [List.mem_singleton.mp isNew]
      have isSegment : name ∈ segments path := by
        simp [whole]
      have nameClean : '/' ∉ name :=
        slash_notMem_of_mem_segments isSegment
      simp only [List.mem_append, List.mem_cons, not_or]
      exact ⟨fun inStem => nameClean (fileStem_subset name inStem),
        by decide, clean⟩
  have replaced :
      setExtension path newExtension =
        join (front ++ [fileStem name ++ '.' :: newExtension]) := by
    simp [setExtension, kept, notParent]
  refine ⟨front.filter fun part => !isTrivial part, ?_, ?_, ?_⟩
  · simp [kept, lastNontrivial]
  · rw [replaced, components, segments_join keptClean (by simp)]
    simp [newNontrivial]
  · rw [replaced]
    exact isAbsolute_join_concat whole lastNonempty (by simp) keptClean

/-- A path without a file name keeps its text. -/
theorem setExtension_of_fileName_eq_none
    {path : Path}
    (unnamed : fileName path = none)
    (newExtension : Segment) :
    setExtension path newExtension = path := by
  rcases List.eq_nil_or_concat' ((segments path).rdropWhile isTrivial) with
    allTrivial | ⟨front, last, kept⟩
  · simp [setExtension, allTrivial]
  have lastNontrivial : isTrivial last = false := by
    have := List.rdropWhile_last_not isTrivial (segments path)
      (by simp [kept])
    simpa [kept] using this
  have isParent : last = parentDir := by
    by_contra notParent
    rw [fileName, components, ← filter_rdropWhile_isTrivial, kept] at unnamed
    simp [lastNontrivial, notParent] at unnamed
  simp [setExtension, kept, isParent]

/-- Adding an extension to a file name only changes the last name. -/
theorem resolve_setExtension
    {path : Path}
    {name newExtension : Segment}
    (named : fileName path = some name)
    (noExtension : extension path = none)
    (clean : '/' ∉ newExtension) :
    ∃ location : Location,
      resolve path = { location with names := location.names ++ [name] } ∧
        resolve (setExtension path newExtension) =
          { location with
            names := location.names ++ [name ++ '.' :: newExtension] } := by
  obtain ⟨notParent, front, shape, newShape, sameStart⟩ :=
    setExtension_spec named clean
  rw [fileStem_of_extension_eq_none named noExtension] at newShape
  have isComponent : name ∈ components path := by
    simp [shape]
  have nontrivial : isTrivial name = false :=
    isTrivial_of_mem_components isComponent
  have newNotParent : name ++ '.' :: newExtension ≠ parentDir := by
    intro isParent
    rcases name with _ | ⟨first, _ | ⟨second, rest⟩⟩
    · simp [isTrivial] at nontrivial
    · simp only [parentDir, List.singleton_append, List.cons.injEq] at isParent
      simp [isTrivial, isParent.1] at nontrivial
    · simp [parentDir] at isParent
  refine ⟨Location.walk ⟨isAbsolute path, 0, []⟩ front, ?_, ?_⟩
  · simp [resolve, shape, Location.walk, Location.enter, notParent]
  · simp [resolve, newShape, sameStart, Location.walk, Location.enter,
      newNotParent]

/--
Adding an extension to a file name keeps a path under a root, unless it is the
root itself that is renamed.
-/
theorem under_setExtension_iff
    {root path : Path}
    {name newExtension : Segment}
    (named : fileName path = some name)
    (noExtension : extension path = none)
    (clean : '/' ∉ newExtension)
    (under : Under root path) :
    Under root (setExtension path newExtension) ↔
      resolve path ≠ resolve root := by
  obtain ⟨location, leads, newLeads⟩ :=
    resolve_setExtension named noExtension clean
  obtain ⟨sameAnchor, sameUps, isPrefix⟩ := under
  rw [leads] at sameAnchor sameUps isPrefix ⊢
  rw [Under, newLeads]
  simp only at sameAnchor sameUps isPrefix
  rcases List.prefix_concat_iff.mp isPrefix with isWhole | isShorter
  · have isRoot : ({ location with names := location.names ++ [name] } :
        Location) = resolve root := by
      rw [Location.mk.injEq]
      exact ⟨sameAnchor, sameUps, isWhole.symm⟩
    refine iff_of_false ?_ (not_not_intro isRoot)
    rintro ⟨-, -, newPrefix⟩
    have sameLength := newPrefix.eq_of_length (by simp [isWhole])
    simp [isWhole] at sameLength
  · refine iff_of_true
      ⟨sameAnchor, sameUps, isShorter.trans (List.prefix_append _ _)⟩ ?_
    intro isRoot
    have longer := isShorter.length_le
    simp only [← isRoot, List.length_append, List.length_singleton] at longer
    omega

/-- Adding an extension leads to as many names as before. -/
theorem length_names_resolve_setExtension
    {path : Path}
    {newExtension : Segment}
    (noExtension : extension path = none)
    (clean : '/' ∉ newExtension) :
    (resolve (setExtension path newExtension)).names.length =
      (resolve path).names.length := by
  cases named : fileName path with
  | none =>
      rw [setExtension_of_fileName_eq_none named]
  | some name =>
      obtain ⟨location, leads, newLeads⟩ :=
        resolve_setExtension named noExtension clean
      simp [leads, newLeads]

end FileName

end UnixPath
