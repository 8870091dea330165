import Pingoo.Library.Separated

/-!
# The text of a URI

The parts of a URI with an authority, as its text separates them, and the port
that it designates: the one that is written, or the one of its scheme.  An
authority has no user information here.
-/

namespace UriText

open Separated

/-- The parts of a URI; the target is its path with what follows. -/
structure Parts where
  scheme : List Char
  authority : List Char
  target : List Char
  deriving Repr, DecidableEq

/-- An authority goes on up to one of these characters. -/
def isInAuthority (character : Char) : Bool :=
  character != '/' && character != '?' && character != '#'

/-- The parts of the text of a URI. -/
def parts (text : List Char) : Option Parts :=
  match text.dropWhile (· ≠ ':') with
  | ':' :: '/' :: '/' :: rest =>
      some {
        scheme := text.takeWhile (· ≠ ':')
        authority := rest.takeWhile isInAuthority
        target := rest.dropWhile isInAuthority
      }
  | _ => none

/-- What follows the host in an authority. -/
def afterHost : List Char → List Char
  | '[' :: rest =>
      (rest.dropWhile (· ≠ ']')).drop 1
  | authority =>
      authority.dropWhile (· ≠ ':')

/-- The port that is written in an authority. -/
def writtenPort (authority : List Char) : Option Nat :=
  match afterHost authority with
  | ':' :: digits =>
      if digits ≠ [] ∧ digits.all Char.isDigit then
        some (Nat.ofDigitChars 10 digits 0)
      else
        none
  | _ => none

/-- The port of a scheme. -/
def defaultPort (scheme : List Char) : Option Nat :=
  if scheme = "http".toList then
    some 80
  else if scheme = "https".toList then
    some 443
  else
    none

/-- The port that a URI designates. -/
def Parts.port (parts : Parts) : Option Nat :=
  (writtenPort parts.authority).or (defaultPort parts.scheme)

/-- What may stand for a host: a name, or a literal in brackets. -/
inductive HostForm : List Char → Prop where
  | name
      {host : List Char}
      (noColon : ':' ∉ host)
      (noBracket : '[' ∉ host) : HostForm host
  | literal
      {address : List Char}
      (noBracket : ']' ∉ address) : HostForm ('[' :: (address ++ [']']))

/-- A host: it has the form of one, and does not end the authority. -/
structure IsHost (host : List Char) : Prop where
  form : HostForm host
  inAuthority : ∀ character ∈ host, isInAuthority character = true

/-- A digit separates nothing. -/
theorem isInAuthority_of_isDigit
    {character : Char}
    (isDigit : character.isDigit = true) :
    isInAuthority character = true ∧ character ≠ ':' ∧ character ≠ '@' := by
  have differs :
      ∀ other : Char, other.isDigit = false → character ≠ other := by
    rintro other noDigit rfl
    rw [noDigit] at isDigit
    cases isDigit
  refine ⟨?_, differs ':' rfl, differs '@' rfl⟩
  simp [isInAuthority, differs '/' rfl, differs '?' rfl, differs '#' rfl]

/--
A text that is put together is taken apart again; the authority goes on in what
follows it, up to a character that ends it.
-/
theorem parts_append_rest
    {scheme authority : List Char}
    (noColon : ':' ∉ scheme)
    (inAuthority : ∀ character ∈ authority, isInAuthority character = true)
    (rest : List Char) :
    parts (scheme ++ "://".toList ++ authority ++ rest) =
      some ⟨scheme, authority ++ rest.takeWhile isInAuthority,
        rest.dropWhile isInAuthority⟩ := by
  rw [List.append_assoc, List.append_assoc, parts]
  have marks :
      "://".toList ++ (authority ++ rest) =
        ':' :: '/' :: '/' :: (authority ++ rest) :=
    rfl
  rw [marks, dropWhile_ne_append_cons noColon,
    takeWhile_ne_append_cons noColon]
  simp only [List.takeWhile_append_of_pos inAuthority,
    List.dropWhile_append_of_pos inAuthority]

/-- A port does not end the authority either. -/
theorem IsHost.isInAuthority_append_port
    {host : List Char}
    (isHost : IsHost host)
    (port : Nat) :
    ∀ character ∈ host ++ ':' :: Nat.toDigits 10 port,
      isInAuthority character = true := by
  intro character member
  rw [List.mem_append, List.mem_cons] at member
  rcases member with inHost | rfl | inPort
  · exact isHost.inAuthority character inHost
  · decide
  · exact (isInAuthority_of_isDigit
      (Nat.isDigit_of_mem_toDigits (by decide) (by decide) inPort)).1

/-- A target that begins with a slash ends the authority. -/
theorem parts_append
    {scheme authority target : List Char}
    (noColon : ':' ∉ scheme)
    (inAuthority : ∀ character ∈ authority, isInAuthority character = true)
    (isPath : target.head? = some '/') :
    parts (scheme ++ "://".toList ++ authority ++ target) =
      some ⟨scheme, authority, target⟩ := by
  cases target with
  | nil =>
      cases isPath
  | cons character rest =>
      cases isPath
      have ends : ¬ isInAuthority '/' = true := by
        decide
      rw [parts_append_rest noColon inAuthority,
        List.takeWhile_cons_of_neg ends, List.dropWhile_cons_of_neg ends,
        List.append_nil]

/-- What follows a host is what was put after it, if that is a port. -/
theorem afterHost_append
    {host following : List Char}
    (isHost : HostForm host)
    (isPort : ∀ character ∈ following.head?, character = ':') :
    afterHost (host ++ following) = following := by
  have colonStops :
      ∀ character ∈ following.head?, decide (character ≠ ':') = false := by
    intro character member
    simp [isPort character member]
  cases isHost with
  | name noColon noBracket =>
      have passes :
          ∀ character ∈ host, decide (character ≠ ':') = true := by
        intro character member
        exact decide_eq_true fun isColon => noColon (isColon ▸ member)
      cases host with
      | nil =>
          cases following with
          | nil =>
              rfl
          | cons character rest =>
              rw [isPort character rfl]
              rfl
      | cons character rest =>
          have notBracket : character ≠ '[' := by
            rintro rfl
            exact noBracket List.mem_cons_self
          rw [List.cons_append, afterHost, ← List.cons_append,
            dropWhile_append_stop passes colonStops]
          rintro others same
          exact notBracket (List.cons.inj same).1
  | @literal address noBracket =>
      have passes :
          ∀ character ∈ address, decide (character ≠ ']') = true := by
        intro character member
        exact decide_eq_true fun isBracket => noBracket (isBracket ▸ member)
      have bracketStops :
          ∀ character ∈ (']' :: following).head?,
            decide (character ≠ ']') = false := by
        rintro character ⟨⟩
        decide
      rw [List.cons_append, List.append_assoc, List.singleton_append,
        afterHost, dropWhile_append_stop passes bracketStops]
      rfl

/-- No port is written after a host that stands alone. -/
theorem writtenPort_host
    {host : List Char}
    (isHost : HostForm host) : writtenPort host = none := by
  have nothing : afterHost (host ++ []) = [] :=
    afterHost_append isHost nofun
  rw [List.append_nil] at nothing
  rw [writtenPort, nothing]

/-- A port that is written in decimal after a host is read back. -/
theorem writtenPort_append
    {host : List Char}
    (isHost : HostForm host)
    (port : Nat) :
    writtenPort (host ++ ':' :: Nat.toDigits 10 port) = some port := by
  have isPort :
      ∀ character ∈ (':' :: Nat.toDigits 10 port).head?, character = ':' := by
    rintro character ⟨⟩
    rfl
  have digits : (Nat.toDigits 10 port).all Char.isDigit = true := by
    rw [List.all_eq_true]
    intro character member
    exact Nat.isDigit_of_mem_toDigits (by decide) (by decide) member
  have nonempty : Nat.toDigits 10 port ≠ [] :=
    Nat.toDigits_ne_nil
  rw [writtenPort, afterHost_append isHost isPort]
  simp only [if_pos (And.intro nonempty digits),
    Nat.ofDigitChars_ten_toDigits]

end UriText
