import Pingoo.Library.UriText

/-!
# A URI put together

A URI is put together from a scheme, user information, a host, a port and what
follows its authority; all but the host may be missing.  When no part holds the
character that separates it from the next one, the parts are found again in the
text, so that a text is put together in one way.
-/

namespace UriText

open Separated

/-- A part with the character that separates it from what is before it. -/
def following (separator : Char) : Option (List Char) → List Char
  | none =>
      []
  | some part =>
      separator :: part

/-- A text up to a separator, and the part that follows it. -/
def splitFirst
    (separator : Char)
    (text : List Char) : List Char × Option (List Char) :=
  (text.takeWhile (· ≠ separator),
    match text.dropWhile (· ≠ separator) with
    | [] => none
    | _ :: part => some part)

/-- The part before the last separator of a text, and what follows it. -/
def splitLast
    (separator : Char)
    (text : List Char) : Option (List Char) × List Char :=
  let (last, before) := splitFirst separator text.reverse
  (before.map List.reverse, last.reverse)

/-- The parts that a URI is put together from. -/
structure Reference where
  scheme : Option (List Char)
  userInfo : Option (List Char)
  host : List Char
  port : Option (List Char)
  rest : List Char
  deriving Repr, DecidableEq

namespace Reference

/-- The scheme with what separates it from the authority. -/
def schemeText (reference : Reference) : List Char :=
  match reference.scheme with
  | none => []
  | some scheme => scheme ++ "://".toList

/-- The authority: user information, host and port. -/
def authority (reference : Reference) : List Char :=
  match reference.userInfo with
  | none => reference.host ++ following ':' reference.port
  | some userInfo =>
      userInfo ++ '@' :: (reference.host ++ following ':' reference.port)

/-- The text of a URI. -/
def text (reference : Reference) : List Char :=
  reference.schemeText ++ reference.authority ++ reference.rest

/--
No part holds the character that separates it from the next one.  Without a
scheme at most one slash follows the authority.
-/
structure IsSeparated (reference : Reference) : Prop where
  scheme : ∀ scheme ∈ reference.scheme, ':' ∉ scheme
  userInfo :
    ∀ userInfo ∈ reference.userInfo,
      ∀ character ∈ userInfo, isInAuthority character = true
  host :
    ∀ character ∈ reference.host,
      isInAuthority character = true ∧ character ≠ ':' ∧ character ≠ '@'
  port :
    ∀ port ∈ reference.port,
      ∀ character ∈ port, isInAuthority character = true ∧ character ≠ '@'
  rest : ∀ character ∈ reference.rest.head?, isInAuthority character = false
  bare :
    reference.scheme = none → reference.rest = [] ∨ reference.rest = ['/']

/-- Check that the parts are separated. -/
def isSeparated (reference : Reference) : Bool :=
  reference.scheme.all (fun scheme => !scheme.contains ':') &&
  reference.userInfo.all (fun userInfo => userInfo.all isInAuthority) &&
  reference.host.all (fun character =>
    isInAuthority character && character != ':' && character != '@') &&
  reference.port.all (fun port =>
    port.all fun character => isInAuthority character && character != '@') &&
  reference.rest.head?.all (fun character => !isInAuthority character) &&
  (reference.scheme.isSome || reference.rest == [] || reference.rest == ['/'])

theorem isSeparated_eq_true_iff (reference : Reference) :
    reference.isSeparated = true ↔ reference.IsSeparated := by
  simp only [isSeparated, Bool.and_eq_true, Bool.or_eq_true, Bool.not_eq_true',
    Option.all_eq_true, List.all_eq_true, bne_iff_ne, beq_iff_eq,
    List.contains_eq_mem, decide_eq_false_iff_not]
  have isBare :
      (reference.scheme = none →
        reference.rest = [] ∨ reference.rest = ['/']) ↔
        (reference.scheme.isSome = true ∨ reference.rest = []) ∨
          reference.rest = ['/'] := by
    cases reference.scheme <;> simp
  rw [← isBare]
  constructor
  · rintro ⟨⟨⟨⟨⟨scheme, userInfo⟩, host⟩, port⟩, rest⟩, bare⟩
    exact ⟨scheme, userInfo, fun character member =>
      and_assoc.mp (host character member), port, rest, bare⟩
  · rintro ⟨scheme, userInfo, host, port, rest, bare⟩
    exact ⟨⟨⟨⟨⟨scheme, userInfo⟩, fun character member =>
      and_assoc.mpr (host character member)⟩, port⟩, rest⟩, bare⟩

instance (reference : Reference) : Decidable reference.IsSeparated :=
  decidable_of_iff _ reference.isSeparated_eq_true_iff

end Reference

/-- A text up to its scheme's end, and the rest of it. -/
def readScheme (text : List Char) : Option (List Char) × List Char :=
  match text.dropWhile (· ≠ ':') with
  | ':' :: '/' :: '/' :: rest => (some (text.takeWhile (· ≠ ':')), rest)
  | _ => (none, text)

/-- The parts of a text. -/
def readReference (text : List Char) : Reference :=
  let (scheme, hierarchy) := readScheme text
  let (userInfo, hostPort) :=
    splitLast '@' (hierarchy.takeWhile isInAuthority)
  let (host, port) := splitFirst ':' hostPort
  {
    scheme := scheme
    userInfo := userInfo
    host := host
    port := port
    rest := hierarchy.dropWhile isInAuthority
  }

section Split

variable {separator : Char}

/-- A text without the separator is split where the separator stands. -/
theorem splitFirst_following
    {before : List Char}
    (noSeparator : separator ∉ before)
    (part : Option (List Char)) :
    splitFirst separator (before ++ following separator part) =
      (before, part) := by
  have passes :
      ∀ character ∈ before, decide (character ≠ separator) = true := by
    intro character member
    exact decide_eq_true fun same => noSeparator (same ▸ member)
  have stops :
      ∀ character ∈ (following separator part).head?,
        decide (character ≠ separator) = false := by
    intro character isHead
    cases part with
    | none =>
        cases isHead
    | some part =>
        cases isHead
        simp
  rw [splitFirst, takeWhile_append_stop passes stops,
    dropWhile_append_stop passes stops]
  cases part with
  | none =>
      rfl
  | some part =>
      rfl

/-- Without a separator the whole text is last. -/
theorem splitLast_of_notMem
    {last : List Char}
    (noSeparator : separator ∉ last) :
    splitLast separator last = (none, last) := by
  have split :=
    splitFirst_following (mt List.mem_reverse.mp noSeparator) none
  rw [following, List.append_nil] at split
  rw [splitLast, split]
  simp

/-- A text is split where the separator stands last. -/
theorem splitLast_append
    {last : List Char}
    (noSeparator : separator ∉ last)
    (before : List Char) :
    splitLast separator (before ++ separator :: last) =
      (some before, last) := by
  have split :=
    splitFirst_following (mt List.mem_reverse.mp noSeparator)
      (some before.reverse)
  have reversed :
      (before ++ separator :: last).reverse =
        last.reverse ++ following separator (some before.reverse) := by
    simp [following]
  rw [splitLast, reversed, split]
  simp

end Split

namespace Reference.IsSeparated

variable {reference : Reference}

/-- Nothing in the authority ends it. -/
theorem inAuthority
    (separated : reference.IsSeparated) :
    ∀ character ∈ reference.authority, isInAuthority character = true := by
  have inHostPort :
      ∀ character ∈ reference.host ++ following ':' reference.port,
        isInAuthority character = true := by
    intro character member
    rcases List.mem_append.mp member with inHost | inPort
    · exact (separated.host character inHost).1
    · cases isPort : reference.port with
      | none =>
          rw [isPort] at inPort
          cases inPort
      | some port =>
          rw [isPort] at inPort
          rcases List.mem_cons.mp inPort with rfl | inPort
          · decide
          · exact (separated.port port isPort character inPort).1
  intro character member
  unfold authority at member
  split at member
  · exact inHostPort character member
  · next userInfo isUserInfo =>
      rcases List.mem_append.mp member with inUserInfo | after
      · exact separated.userInfo userInfo isUserInfo character inUserInfo
      · rcases List.mem_cons.mp after with rfl | inRest
        · decide
        · exact inHostPort character inRest

/-- The authority is read back. -/
theorem splitLast_authority
    (separated : reference.IsSeparated) :
    splitLast '@' reference.authority =
      (reference.userInfo, reference.host ++ following ':' reference.port) := by
  have noMark : '@' ∉ reference.host ++ following ':' reference.port := by
    intro member
    rcases List.mem_append.mp member with inHost | inPort
    · exact (separated.host '@' inHost).2.2 rfl
    · cases isPort : reference.port with
      | none =>
          rw [isPort] at inPort
          cases inPort
      | some port =>
          rw [isPort] at inPort
          rcases List.mem_cons.mp inPort with isColon | inPort
          · cases isColon
          · exact (separated.port port isPort '@' inPort).2 rfl
  unfold authority
  split
  · next noUserInfo =>
      rw [splitLast_of_notMem noMark, noUserInfo]
  · next userInfo isUserInfo =>
      rw [splitLast_append noMark, isUserInfo]

/-- The scheme is read back. -/
theorem readScheme_text
    (separated : reference.IsSeparated) :
    readScheme reference.text =
      (reference.scheme, reference.authority ++ reference.rest) := by
  cases isScheme : reference.scheme with
  | none =>
      have same : reference.text = reference.authority ++ reference.rest := by
        simp [text, schemeText, isScheme]
      have noSlash : reference.authority.count '/' = 0 := by
        refine List.count_eq_zero.mpr fun member => ?_
        have inside := separated.inAuthority '/' member
        revert inside
        decide
      have fewSlashes : reference.rest.count '/' ≤ 1 := by
        rcases separated.bare isScheme with isEmpty | isSlash
        · simp [isEmpty]
        · simp [isSlash]
      rw [same, readScheme]
      split
      · next others found =>
          have left :=
            List.dropWhile_suffix (l := reference.authority ++ reference.rest)
              fun character => decide (character ≠ ':')
          have fewer := left.sublist.count_le '/'
          rw [found, List.count_append] at fewer
          simp only [List.count_cons_self, List.count_cons] at fewer
          omega
      · rfl
  | some scheme =>
      have passes :
          ∀ character ∈ scheme, decide (character ≠ ':') = true := by
        intro character member
        refine decide_eq_true fun isColon => ?_
        exact separated.scheme scheme isScheme (isColon ▸ member)
      have stops :
          ∀ character ∈
              ("://".toList ++ (reference.authority ++ reference.rest)).head?,
            decide (character ≠ ':') = false := by
        rintro character ⟨⟩
        decide
      have same :
          reference.text =
            scheme ++
              ("://".toList ++ (reference.authority ++ reference.rest)) := by
        simp [text, schemeText, isScheme]
      rw [readScheme, same, dropWhile_append_stop passes stops,
        takeWhile_append_stop passes stops]
      rfl

/-- The parts of a text that is put together are read back. -/
theorem readReference_text
    (separated : reference.IsSeparated) :
    readReference reference.text = reference := by
  have authorityRead :
      (reference.authority ++ reference.rest).takeWhile isInAuthority =
        reference.authority :=
    takeWhile_append_stop separated.inAuthority separated.rest
  have restRead :
      (reference.authority ++ reference.rest).dropWhile isInAuthority =
        reference.rest :=
    dropWhile_append_stop separated.inAuthority separated.rest
  have noColon : ':' ∉ reference.host :=
    fun member => (separated.host ':' member).2.1 rfl
  simp only [readReference, separated.readScheme_text, authorityRead, restRead,
    separated.splitLast_authority, splitFirst_following noColon]

/-- A text is put together in one way. -/
theorem text_injective
    {other : Reference}
    (separated : reference.IsSeparated)
    (otherSeparated : other.IsSeparated)
    (same : reference.text = other.text) : reference = other := by
  rw [← separated.readReference_text, same, otherSeparated.readReference_text]

end Reference.IsSeparated

end UriText
