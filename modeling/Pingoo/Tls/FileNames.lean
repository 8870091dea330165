import Pingoo.Tls.Restart

namespace Pingoo.Tls

/-!
# The file names of a pair

The certificate files of the folder are named by a stem and the extension
`.pem`, and their key files by the same stem and `.key`.
-/

/-- The extensions of the two files of a pair. -/
def pemExtension : OsStr :=
  Str.asBytes "pem".toList

def keyExtension : OsStr :=
  Str.asBytes "key".toList

namespace OsStr

/-- A name with a stem and an extension. -/
def withExtension (stem newExtension : OsStr) : OsStr :=
  stem ++ dot :: newExtension

theorem throughLastDot_withExtension
    {stem newExtension : OsStr}
    (noDot : dot ∉ newExtension) :
    throughLastDot (withExtension stem newExtension) = stem ++ [dot] := by
  have allOther :
      ∀ byte ∈ newExtension.reverse, (byte != dot) = true := by
    intro byte member
    rw [bne_iff_ne]
    rintro rfl
    exact noDot (List.mem_reverse.mp member)
  rw [throughLastDot, withExtension, List.rdropWhile, List.reverse_append,
    List.reverse_cons, List.append_assoc,
    List.dropWhile_append_of_pos allOther]
  simp

theorem splitAtDot_withExtension
    {stem newExtension : OsStr}
    (notEmpty : stem ≠ [])
    (noDot : dot ∉ newExtension)
    (isLong : newExtension ≠ []) :
    splitAtDot (withExtension stem newExtension) =
      (stem, some newExtension) := by
  have notDots : withExtension stem newExtension ≠ [dot, dot] := by
    intro isDots
    have lengths := congrArg List.length isDots
    have stemLength := List.length_pos_of_ne_nil notEmpty
    have extensionLength := List.length_pos_of_ne_nil isLong
    simp only [withExtension, List.length_append, List.length_cons,
      List.length_nil] at lengths
    omega
  simp only [splitAtDot, throughLastDot_withExtension noDot,
    List.dropLast_concat]
  rw [if_neg (not_or.mpr ⟨notDots, notEmpty⟩)]
  simp [withExtension]

/-- A name with an extension is put together of its parts. -/
theorem eq_withExtension_of_splitAtDot
    {name stem newExtension : OsStr}
    (isSplit : splitAtDot name = (stem, some newExtension)) :
    stem ≠ [] ∧ name = withExtension stem newExtension := by
  simp only [splitAtDot] at isSplit
  split at isSplit
  · cases isSplit
  · next isOther =>
      obtain ⟨-, notEmpty⟩ := not_or.mp isOther
      cases isSplit
      refine ⟨notEmpty, ?_⟩
      have someThrough : throughLastDot name ≠ [] := by
        intro isEmpty
        rw [isEmpty] at notEmpty
        exact notEmpty rfl
      have lastIsDot : (throughLastDot name).getLast someThrough = dot := by
        refine not_not.mp fun isOther => ?_
        exact List.rdropWhile_last_not (· != dot) name someThrough
          (bne_iff_ne.mpr isOther)
      have through :
          (throughLastDot name).dropLast ++ [dot] = throughLastDot name := by
        rw [← lastIsDot]
        exact List.dropLast_append_getLast someThrough
      have isPrefix : throughLastDot name <+: name :=
        List.rdropWhile_prefix (· != dot) name
      rw [withExtension, ← List.singleton_append, ← List.append_assoc, through]
      exact (List.prefix_iff_eq_append.mp isPrefix).symm

/-- A name tells its stem and its extension. -/
theorem withExtension_inj
    {first second firstExtension secondExtension : OsStr}
    (firstNoDot : dot ∉ firstExtension)
    (secondNoDot : dot ∉ secondExtension) :
    withExtension first firstExtension =
        withExtension second secondExtension ↔
      first = second ∧ firstExtension = secondExtension := by
  constructor
  · intro same
    have through := congrArg throughLastDot same
    rw [throughLastDot_withExtension firstNoDot,
      throughLastDot_withExtension secondNoDot] at through
    have sameStem : first = second := List.append_cancel_right through
    subst sameStem
    exact ⟨rfl, (List.cons.inj (List.append_cancel_left same)).2⟩
  · rintro ⟨rfl, rfl⟩
    rfl

end OsStr

open OsStr

theorem dot_notMem_pemExtension : dot ∉ pemExtension := by
  decide

theorem dot_notMem_keyExtension : dot ∉ keyExtension := by
  decide

/-- The certificate file of a stem. -/
def pemOf (stem : OsStr) : OsStr :=
  withExtension stem pemExtension

/-- The key file of a stem. -/
def keyOf (stem : OsStr) : OsStr :=
  withExtension stem keyExtension

theorem pemOf_injective : Function.Injective pemOf := by
  intro first second same
  exact ((withExtension_inj dot_notMem_pemExtension
    dot_notMem_pemExtension).mp same).1

theorem keyOf_injective : Function.Injective keyOf := by
  intro first second same
  exact ((withExtension_inj dot_notMem_keyExtension
    dot_notMem_keyExtension).mp same).1

/-- No certificate file is a key file. -/
theorem pemOf_ne_keyOf (first second : OsStr) : pemOf first ≠ keyOf second := by
  intro same
  have sameExtension :=
    ((withExtension_inj dot_notMem_pemExtension
      dot_notMem_keyExtension).mp same).2
  exact absurd sameExtension (by decide)

/-- The stem of the default certificate. -/
def defaultStem : OsStr :=
  Str.asBytes "default".toList

theorem pemOf_defaultStem : pemOf defaultStem = defaultPem := by
  decide

theorem keyFile_pemOf
    {stem : OsStr}
    (notEmpty : stem ≠ []) :
    keyFile (pemOf stem) = keyOf stem := by
  rw [keyFile, setExtension, pemOf,
    splitAtDot_withExtension notEmpty dot_notMem_pemExtension (by decide)]
  rfl

/-- The files that are taken for certificates have a stem and `.pem`. -/
theorem exists_stem_of_isCertificateFile
    {certFile : OsStr}
    (isCertificate : isCertificateFile certFile = true) :
    ∃ stem, stem ≠ [] ∧ certFile = pemOf stem := by
  rw [isCertificateFile, Bool.and_eq_true, isStr, decide_eq_true_eq]
    at isCertificate
  obtain ⟨isPem, -⟩ := isCertificate
  cases isSplit : splitAtDot certFile with
  | mk stem newExtension? =>
      rw [isSplit] at isPem
      cases newExtension? with
      | none =>
          change [] = pemExtension at isPem
          exact absurd isPem (by decide)
      | some newExtension =>
          have isExtension : newExtension = pemExtension := isPem
          subst isExtension
          exact ⟨stem, eq_withExtension_of_splitAtDot isSplit⟩

/-- A start loads certificate files of some stem. -/
theorem Folder.IsLoaded.exists_stem
    {folder : Folder}
    {certFile : OsStr}
    (isLoaded : folder.IsLoaded certFile) :
    ∃ stem, stem ≠ [] ∧ certFile = pemOf stem := by
  rcases isLoaded with isListed | ⟨rfl, -⟩
  · rw [Folder.hasCertificate, Bool.and_eq_true] at isListed
    exact exists_stem_of_isCertificateFile isListed.2
  · exact ⟨defaultStem, by decide, pemOf_defaultStem.symm⟩

end Pingoo.Tls
