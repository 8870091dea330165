import Pingoo.Library.FirstMatch
import Pingoo.Tls.Selection

namespace Pingoo.Tls

/-!
# Certificates that are valid for the server name

A certificate covers a host name as clients check it: ignoring case, and with a
wildcard for exactly one label.  The wildcard matchers look at case, and their
`*` goes over dots.  So the first certificate that matches a server name need
not be one that covers it.
-/

open Fallible FirstMatch

/-- A DNS name of a certificate covers a host name. -/
def NameCovers (name host : Str) : Prop :=
  name.toAsciiLowercase = host.toAsciiLowercase ∨
    ∃ suffix label,
      name.toAsciiLowercase = '*' :: '.' :: suffix ∧
        host.toAsciiLowercase = label ++ '.' :: suffix ∧
          label ≠ [] ∧ '.' ∉ label

/-- The DNS names of the first certificate of a chain. -/
def CertifiedKey.dnsNames
    (library : CertificateLibrary)
    (certifiedKey : CertifiedKey) : List Str :=
  match certifiedKey.cert with
  | [] => []
  | first :: _ =>
      match library.fromDer first with
      | .error _ => []
      | .ok cert => cert.dnsNames

/-- A certificate covers a host name by one of its DNS names. -/
def CertifiedKey.Covers
    (library : CertificateLibrary)
    (certifiedKey : CertifiedKey)
    (host : Str) : Prop :=
  ∃ name ∈ certifiedKey.dnsNames library, NameCovers name host

/-- `resolve` answers with a certificate that covers the server name. -/
def ResolvesCovering
    (library : CertificateLibrary)
    (manager : TlsManager)
    (sni : Str) : Prop :=
  ∃ key, manager.resolve library (some sni) = some key ∧
    key.value.Covers library sni

/--
A certificate lists the name literally and covers it, and so do all that list it
and are loaded later.
-/
def LiteralCovers
    (library : CertificateLibrary)
    (certs : List Certificate)
    (sni : Str) : Prop :=
  ∃ earlier cert later,
    certs = earlier ++ cert :: later ∧
      sni ∈ cert.metadata.hostnames ∧ cert.key.value.Covers library sni ∧
        ∀ other ∈ later, sni ∈ other.metadata.hostnames →
          other.key.value.Covers library sni

/--
No certificate lists the name literally, and one with a wildcard that matches
covers it, as do all with such a wildcard that are loaded earlier.
-/
def WildcardCovers
    (library : CertificateLibrary)
    (certs : List Certificate)
    (sni : Str) : Prop :=
  (∀ cert ∈ certs, sni ∉ cert.metadata.hostnames) ∧
    ∃ earlier cert later,
      certs = earlier ++ cert :: later ∧
        cert.anyMatch library sni = true ∧
          cert.key.value.Covers library sni ∧
            ∀ other ∈ earlier, other.anyMatch library sni = true →
              other.key.value.Covers library sni

variable {library : CertificateLibrary}

/-- Only `*` is `*` in lower case. -/
theorem eq_star_of_toLower
    {character : Char}
    (isStar : character.toLower = '*') :
    character = '*' := by
  unfold Char.toLower at isStar
  split at isStar
  · next upper =>
      have low : 65 ≤ character.toNat := upper.1
      have high : character.toNat ≤ 90 := upper.2
      have value := congrArg (fun shifted => shifted.val.toNat) isStar
      simp at value
      omega
  · exact isStar

theorem eq_star_of_toAsciiLowercase
    {name : Str}
    (isStar : name.toAsciiLowercase = ['*']) :
    name = ['*'] := by
  obtain ⟨character, rfl, lowered⟩ := List.map_eq_singleton_iff.mp isStar
  rw [eq_star_of_toLower lowered]

/-- The name `*` is covered by itself alone. -/
theorem nameCovers_star_iff {name : Str} :
    NameCovers name ['*'] ↔ name = ['*'] := by
  have lowered : Str.toAsciiLowercase ['*'] = ['*'] :=
    rfl
  constructor
  · rintro (same | ⟨suffix, label, -, shape, nonempty, -⟩)
    · exact eq_star_of_toAsciiLowercase same
    · have short := congrArg List.length shape
      have long := List.length_pos_iff.mpr nonempty
      simp [lowered] at short
      omega
  · rintro rfl
    exact Or.inl rfl

/-- The DNS names are among the names that a certificate is indexed by. -/
theorem dnsName_mem
    {cert : Certificate}
    (isParsed : cert.IsParsed library)
    {name : Str}
    (member : name ∈ cert.key.value.dnsNames library) :
    if name.contains ['*'] then
      wildcardOf name ∈ cert.metadata.wildcardMatchers
    else
      name ∈ cert.metadata.hostnames := by
  obtain ⟨first, chain, leaf, chainEq, isDer, hostnamesEq, matchersEq⟩ :=
    isParsed.names
  simp only [CertifiedKey.dnsNames, chainEq, isDer,
    X509Certificate.dnsNames, List.mem_filterMap] at member
  obtain ⟨general, isName, isDns⟩ := member
  have isAlternative : name ∈ leaf.subjectAlternativeNames := by
    refine List.mem_filterMap.mpr ⟨general, isName, ?_⟩
    split at isDns
    · exact isDns
    · cases isDns
  split
  · next hasStar =>
      rw [matchersEq]
      exact List.mem_map_of_mem (List.mem_filter.mpr ⟨isAlternative, hasStar⟩)
  · next noStar =>
      rw [hostnamesEq]
      exact List.mem_filter.mpr ⟨isAlternative, by simpa using noStar⟩

/-- The default certificate covers no host name but `*`. -/
theorem eq_star_of_default_covers
    {defaultCert : Certificate}
    (isParsed : defaultCert.IsParsed library)
    (isChecked : checkDefaultCertificate defaultCert = .ok defaultCert)
    {sni : Str}
    (covers : defaultCert.key.value.Covers library sni) :
    sni = ['*'] := by
  obtain ⟨-, noHostname, matcher, oneMatcher, patternEq⟩ :=
    checkDefaultCertificate_eq_ok isChecked
  obtain ⟨name, member, nameCovers⟩ := covers
  have indexed := dnsName_mem isParsed member
  rw [noHostname, oneMatcher] at indexed
  have isStar : name = ['*'] := by
    split at indexed
    · rw [List.mem_singleton] at indexed
      rw [← indexed] at patternEq
      exact Str.asBytes_injective patternEq
    · cases indexed
  subst isStar
  rcases nameCovers with same | ⟨suffix, label, shape, -⟩
  · exact eq_star_of_toAsciiLowercase same.symm
  · cases shape

/-- A certificate for the host name `*` matches it. -/
theorem anyMatch_of_covers_star
    (star : StarMatchesAll library)
    {cert : Certificate}
    (isParsed : cert.IsParsed library)
    (covers : cert.key.value.Covers library ['*']) :
    cert.anyMatch library ['*'] = true := by
  obtain ⟨name, member, nameCovers⟩ := covers
  rw [nameCovers_star_iff] at nameCovers
  subst nameCovers
  have indexed := dnsName_mem isParsed member
  rw [if_pos (by decide)] at indexed
  exact List.any_eq_true.mpr ⟨_, indexed, star _⟩

section Resolve

variable
  {certs : List Certificate}
  {defaultCert : Certificate}
  {sni : Str}

theorem resolvesCovering_iff_selected :
    ResolvesCovering library
        (.ofCertificates defaultCert
          (certs.foldl Certificates.index .empty)) sni ↔
      ((selected library certs sni).getD defaultCert).key.value.Covers
        library sni := by
  rw [ResolvesCovering, resolve_eq_selected]
  simp

/-- Where the name is listed, the last certificate that lists it decides. -/
theorem resolvesCovering_iff_of_named
    (named : ∃ cert ∈ certs, sni ∈ cert.metadata.hostnames) :
    ResolvesCovering library
        (.ofCertificates defaultCert
          (certs.foldl Certificates.index .empty)) sni ↔
      LiteralCovers library certs sni := by
  obtain ⟨cert, member, lists⟩ := named
  obtain ⟨last, found⟩ :=
    exists_find?_eq_some
      (fun current : Certificate => decide (sni ∈ current.metadata.hostnames))
      (List.mem_reverse.mpr member) (by simpa using lists)
  have decides :=
    exists_find?_and_iff certs.reverse
      (fun current => decide (sni ∈ current.metadata.hostnames))
      (fun current => current.key.value.Covers library sni)
  rw [resolvesCovering_iff_selected, selected, found, Option.some_or,
    Option.getD_some]
  simp only [found, Option.some.injEq, exists_eq_left',
    decide_eq_true_eq] at decides
  rw [decides]
  constructor
  · rintro ⟨earlier, other, later, shape, otherLists, covers, allCover⟩
    refine ⟨later.reverse, other, earlier.reverse, ?_, otherLists, covers, ?_⟩
    · rw [← List.reverse_reverse certs, shape]
      simp
    · intro another isLater
      exact allCover another (List.mem_reverse.mp isLater)
  · rintro ⟨earlier, other, later, rfl, otherLists, covers, allCover⟩
    refine ⟨later.reverse, other, earlier.reverse, by simp, otherLists, covers,
      ?_⟩
    intro another isLater
    exact allCover another (List.mem_reverse.mp isLater)

/-- Where it is not listed, the first wildcard that matches decides. -/
theorem resolvesCovering_iff_of_not_named
    (star : StarMatchesAll library)
    (areParsed : ∀ cert ∈ certs, cert.IsParsed library)
    (isParsed : defaultCert.IsParsed library)
    (isChecked : checkDefaultCertificate defaultCert = .ok defaultCert)
    (notNamed : ∀ cert ∈ certs, sni ∉ cert.metadata.hostnames)
    (covered : ∃ cert ∈ certs, cert.key.value.Covers library sni) :
    ResolvesCovering library
        (.ofCertificates defaultCert
          (certs.foldl Certificates.index .empty)) sni ↔
      WildcardCovers library certs sni := by
  have decides :=
    exists_find?_and_iff certs
      (fun current => current.anyMatch library sni)
      (fun current => current.key.value.Covers library sni)
  rw [WildcardCovers, ← decides, resolvesCovering_iff_selected,
    selected_of_not_named notNamed, and_iff_right notNamed]
  cases found : certs.find? fun cert => cert.anyMatch library sni with
  | some first =>
      simp
  | none =>
      simp only [Option.getD_none, reduceCtorEq, false_and, exists_false,
        iff_false]
      intro covers
      have isStar := eq_star_of_default_covers isParsed isChecked covers
      subst isStar
      obtain ⟨cert, member, certCovers⟩ := covered
      have matched :=
        anyMatch_of_covers_star star (areParsed cert member) certCovers
      exact List.find?_eq_none.mp found cert member matched

end Resolve

/--
A name that is covered is answered by a certificate that covers it exactly when
the certificates that are looked at first cover it.
-/
theorem resolvesCovering_of_covered_iff
    (star : StarMatchesAll library)
    {certs : List Certificate}
    (areParsed : ∀ cert ∈ certs, cert.IsParsed library)
    {defaultCert : Certificate}
    (isParsed : defaultCert.IsParsed library)
    (isChecked : checkDefaultCertificate defaultCert = .ok defaultCert)
    (sni : Str) :
    ((∃ cert ∈ certs, cert.key.value.Covers library sni) →
        ResolvesCovering library
          (.ofCertificates defaultCert
            (certs.foldl Certificates.index .empty)) sni) ↔
      (∀ cert ∈ certs, ¬ cert.key.value.Covers library sni) ∨
        LiteralCovers library certs sni ∨
          WildcardCovers library certs sni := by
  by_cases covered : ∃ cert ∈ certs, cert.key.value.Covers library sni
  · have notAll : ¬ ∀ cert ∈ certs, ¬ cert.key.value.Covers library sni := by
      push Not
      exact covered
    rw [imp_iff_right covered, or_iff_right notAll]
    by_cases named : ∃ cert ∈ certs, sni ∈ cert.metadata.hostnames
    · rw [resolvesCovering_iff_of_named named]
      refine (or_iff_left ?_).symm
      rintro ⟨notNamed, -⟩
      obtain ⟨cert, member, lists⟩ := named
      exact notNamed cert member lists
    · have notNamed : ∀ cert ∈ certs, sni ∉ cert.metadata.hostnames := by
        intro cert member lists
        exact named ⟨cert, member, lists⟩
      rw [resolvesCovering_iff_of_not_named star areParsed isParsed isChecked
        notNamed covered]
      refine (or_iff_right ?_).symm
      rintro ⟨earlier, cert, later, rfl, lists, -⟩
      exact notNamed cert (by simp) lists
  · have none : ∀ cert ∈ certs, ¬ cert.key.value.Covers library sni := by
      intro cert member covers
      exact covered ⟨cert, member, covers⟩
    exact iff_of_true (fun isCovered => (covered isCovered).elim)
      (Or.inl none)

section Sample

/-- The certificate that `textLibrary` reads for a name. -/
def textCertificate (name : Str) : Certificate where
  key :=
    ⟨name.asBytes, ⟨[name.asBytes], []⟩⟩
  metadata := {
    hash := .replicate 32 0
    privateKeyHash := .replicate 32 0
    hostnames :=
      [name].filter fun san => !san.contains ['*']
    wildcardMatchers :=
      ([name].filter fun san => san.contains ['*']).map wildcardOf
    notAfter := 0
    notBefore := 0
  }

/-- A wildcard for one label, loaded before one for the labels below it. -/
def overlapping : List Certificate :=
  [textCertificate "*.example.com".toList,
    textCertificate "*.b.example.com".toList]

/-- The name of a server that only the second wildcard is valid for. -/
def deepName : Str :=
  "a.b.example.com".toList

theorem isParsed_overlapping :
    ∀ cert ∈ overlapping, cert.IsParsed textLibrary := by
  intro cert member
  simp only [overlapping, List.mem_cons, List.not_mem_nil,
    or_false] at member
  rcases member with rfl | rfl
  · exact ⟨_, Str.asBytes "*.example.com".toList, [], rfl⟩
  · exact ⟨_, Str.asBytes "*.b.example.com".toList, [], rfl⟩

theorem isParsed_textCertificate_star :
    (textCertificate ['*']).IsParsed textLibrary :=
  ⟨_, Str.asBytes ['*'], [], rfl⟩

/-- The second certificate covers the name, and the first is answered. -/
theorem not_resolvesCovering_overlapping :
    StarMatchesAll textLibrary ∧
      (∀ cert ∈ overlapping, cert.IsParsed textLibrary) ∧
        deepName.toAsciiLowercase = deepName ∧
          (∃ cert ∈ overlapping,
            cert.key.value.Covers textLibrary deepName) ∧
            ¬ ResolvesCovering textLibrary
              (.ofCertificates (textCertificate ['*'])
                (overlapping.foldl Certificates.index .empty)) deepName := by
  refine ⟨textLibrary_starMatchesAll, isParsed_overlapping, by decide,
    ⟨_, List.mem_cons_of_mem _ List.mem_cons_self,
      "*.b.example.com".toList, by decide,
      Or.inr ⟨"b.example.com".toList, ['a'], by decide, by decide, by decide,
        by decide⟩⟩, ?_⟩
  rw [resolvesCovering_iff_selected]
  have isFirst : selected textLibrary overlapping deepName =
      some (textCertificate "*.example.com".toList) := by
    decide
  rw [isFirst, Option.getD_some]
  rintro ⟨name, member, covers⟩
  have isName : name = "*.example.com".toList := by
    simpa using (show name ∈ ["*.example.com".toList] from member)
  subst isName
  rcases covers with same | ⟨suffix, label, nameShape, hostShape, -, oneLabel⟩
  · revert same
    decide
  · have suffixEq : suffix = "example.com".toList := by
      have lowered :
          Str.toAsciiLowercase "*.example.com".toList =
            '*' :: '.' :: "example.com".toList := by
        decide
      rw [lowered] at nameShape
      simpa using nameShape.symm
    subst suffixEq
    have labelEq : label = "a.b".toList := by
      have split :
          deepName.toAsciiLowercase =
            "a.b".toList ++ '.' :: "example.com".toList := by
        decide
      rw [split] at hostShape
      exact (List.append_cancel_right hostShape).symm
    rw [labelEq] at oneLabel
    exact oneLabel (by decide)

/-- The condition for the two wildcards. -/
theorem resolvesCovering_of_covered_iff_overlapping :
    ((∃ cert ∈ overlapping, cert.key.value.Covers textLibrary deepName) →
        ResolvesCovering textLibrary
          (.ofCertificates (textCertificate ['*'])
            (overlapping.foldl Certificates.index .empty)) deepName) ↔
      (∀ cert ∈ overlapping, ¬ cert.key.value.Covers textLibrary deepName) ∨
        LiteralCovers textLibrary overlapping deepName ∨
          WildcardCovers textLibrary overlapping deepName :=
  resolvesCovering_of_covered_iff textLibrary_starMatchesAll
    isParsed_overlapping isParsed_textCertificate_star (by rfl) deepName

end Sample

end Pingoo.Tls
