import Pingoo.Tls.FileNames
import Pingoo.Tls.Saving

namespace Pingoo.Tls

/-!
# Saves that are interrupted

A save may be interrupted between its two writes, or fail there for good.  The
folder then holds one file of the new pair, next to the other file of the old
one or to none.
-/

open Interaction Program

section Frames

variable {folder : Folder} {asked : FileWrite} {name : OsStr}

@[simp] theorem FolderEntry.contents_written
    (contents : Bytes)
    (before : Option FolderEntry) :
    (FolderEntry.written contents before).contents = .ok contents := by
  rcases before with _ | _ | _ <;> rfl

@[simp] theorem FolderEntry.metadata_written
    (contents : Bytes)
    (before : Option FolderEntry) :
    (FolderEntry.written contents before).metadata = .ok () := by
  rcases before with _ | _ | _ <;> rfl

/-- Writing the same again changes nothing. -/
theorem FolderEntry.written_written
    (contents : Bytes)
    (before : Option FolderEntry) :
    written contents (some (written contents before)) =
      written contents before := by
  rcases before with _ | _ | _ <;> rfl

theorem lookup_write_self :
    (folder.write asked).lookup asked.file =
      some (.written asked.contents (folder.lookup asked.file)) :=
  AList.lookup_insert folder

theorem lookup_write_of_ne (isOther : name ≠ asked.file) :
    (folder.write asked).lookup name = folder.lookup name :=
  AList.lookup_insert_ne isOther

theorem write_write :
    (folder.write asked).write asked = folder.write asked := by
  rw [Folder.write, lookup_write_self, FolderEntry.written_written]
  exact AList.insert_insert folder

theorem read_write_self :
    (folder.write asked).read asked.file = .ok asked.contents := by
  rw [Folder.read, lookup_write_self]
  exact FolderEntry.contents_written _ _

theorem metadata_write_self :
    (folder.write asked).metadata asked.file = .ok () := by
  rw [Folder.metadata, lookup_write_self]
  exact FolderEntry.metadata_written _ _

theorem read_write_of_ne (isOther : name ≠ asked.file) :
    (folder.write asked).read name = folder.read name := by
  rw [Folder.read, lookup_write_of_ne isOther]
  rfl

theorem metadata_write_of_ne (isOther : name ≠ asked.file) :
    (folder.write asked).metadata name = folder.metadata name := by
  rw [Folder.metadata, lookup_write_of_ne isOther]
  rfl

end Frames

/-- Two folders differ in the pair of a stem at most. -/
def DifferInPair (stem : OsStr) (first second : Folder) : Prop :=
  ∀ name, name ≠ pemOf stem → name ≠ keyOf stem →
    first.lookup name = second.lookup name

section Stages

variable
  {library : CertificateLibrary}
  {stem certFile : OsStr}
  {first second folder : Folder}

theorem DifferInPair.symm
    (differ : DifferInPair stem first second) :
    DifferInPair stem second first :=
  fun name notPem notKey => (differ name notPem notKey).symm

/-- Certificates of other stems are loaded from both folders. -/
theorem DifferInPair.isLoaded
    (differ : DifferInPair stem first second)
    (notPem : certFile ≠ pemOf stem)
    (isLoaded : first.IsLoaded certFile) :
    second.IsLoaded certFile := by
  obtain ⟨other, -, rfl⟩ := isLoaded.exists_stem
  have same := differ _ notPem (pemOf_ne_keyOf other stem)
  rcases isLoaded with isListed | ⟨isDefault, isThere⟩
  · rw [Folder.hasCertificate, same] at isListed
    exact .inl isListed
  · rw [← isDefault, Folder.metadata, same] at isThere
    refine .inr ⟨isDefault, ?_⟩
    rw [← isDefault]
    exact isThere

/-- The pairs of other stems are the same. -/
theorem DifferInPair.hasPair
    (differ : DifferInPair stem first second)
    {other : OsStr}
    (notEmpty : other ≠ [])
    (isOther : other ≠ stem)
    (hasPair : first.HasPair library (pemOf other)) :
    second.HasPair library (pemOf other) := by
  obtain ⟨certPem, keyPem, isRead, keyRead, isAccepted⟩ := hasPair
  have samePem := differ (pemOf other) (pemOf_injective.ne isOther)
    (pemOf_ne_keyOf other stem)
  have sameKey := differ (keyOf other) (pemOf_ne_keyOf stem other).symm
    (keyOf_injective.ne isOther)
  rw [keyFile_pemOf notEmpty] at keyRead
  rw [Folder.read, samePem] at isRead
  rw [Folder.read, sameKey] at keyRead
  refine ⟨certPem, keyPem, isRead, ?_, isAccepted⟩
  rw [keyFile_pemOf notEmpty]
  exact keyRead

/--
A folder that differs from a loadable one in one pair is loadable when this pair
is accepted, and the default certificate is there or can be made.
-/
theorem Loadable.iff_of_differ
    (loadable : Loadable library first)
    (differ : DifferInPair stem first second) :
    Loadable library second ↔
      (second.IsLoaded (pemOf stem) → second.HasPair library (pemOf stem)) ∧
        (second.metadata defaultPem = .ok () ∨
          second.MakesDefault library) := by
  constructor
  · intro other
    exact ⟨other.pairs _, other.defaultCertificate⟩
  · rintro ⟨ofPair, ofDefault⟩
    refine ⟨fun certFile isLoaded => ?_, ofDefault⟩
    by_cases isPem : certFile = pemOf stem
    · subst isPem
      exact ofPair isLoaded
    · obtain ⟨other, notEmpty, rfl⟩ := isLoaded.exists_stem
      have wasLoaded := differ.symm.isLoaded isPem isLoaded
      exact differ.hasPair notEmpty (fun same => isPem (same ▸ rfl))
        (loadable.pairs _ wasLoaded)

theorem DifferInPair.metadata_default
    (differ : DifferInPair stem first second)
    (isOther : defaultPem ≠ pemOf stem) :
    second.metadata defaultPem = first.metadata defaultPem := by
  have notKey : defaultPem ≠ keyOf stem := by
    rw [← pemOf_defaultStem]
    exact pemOf_ne_keyOf defaultStem stem
  rw [Folder.metadata, Folder.metadata, differ defaultPem isOther notKey]

theorem ne_nil_of_isLoaded
    (isLoaded : folder.IsLoaded (pemOf stem)) :
    stem ≠ [] := by
  obtain ⟨other, notEmpty, same⟩ := isLoaded.exists_stem
  rw [pemOf_injective same]
  exact notEmpty

/-- The files of one pair are all that writing them changes. -/
theorem differInPair_write
    {asked : FileWrite}
    (differ : DifferInPair stem first second)
    (inPair : asked.file = pemOf stem ∨ asked.file = keyOf stem) :
    DifferInPair stem first (second.write asked) := by
  intro name notPem notKey
  rw [differ name notPem notKey]
  refine (lookup_write_of_ne ?_).symm
  rcases inPair with isPem | isKey
  · rw [isPem]
    exact notPem
  · rw [isKey]
    exact notKey

theorem differInPair_refl (folder : Folder) : DifferInPair stem folder folder :=
  fun _ _ _ => rfl

/-- After a new key is written, it must fit the chain that is there. -/
theorem loadable_write_key_iff
    {keyPem : Bytes}
    (loadable : Loadable library folder) :
    Loadable library (folder.write ⟨keyOf stem, keyPem⟩) ↔
      (folder.IsLoaded (pemOf stem) →
        ∃ certPem,
          folder.read (pemOf stem) = .ok certPem ∧
            IsAccepted library (pemOf stem) certPem keyPem) := by
  have notKey (other : OsStr) : pemOf other ≠ keyOf stem :=
    pemOf_ne_keyOf other stem
  have sameMetadata :
      (folder.write ⟨keyOf stem, keyPem⟩).metadata defaultPem =
        folder.metadata defaultPem := by
    rw [← pemOf_defaultStem]
    exact metadata_write_of_ne (notKey defaultStem)
  have sameLoaded :
      (folder.write ⟨keyOf stem, keyPem⟩).IsLoaded (pemOf stem) ↔
        folder.IsLoaded (pemOf stem) := by
    rw [Folder.IsLoaded, sameMetadata, Folder.hasCertificate,
      lookup_write_of_ne (notKey stem)]
    rfl
  rw [loadable.iff_of_differ
      (differInPair_write (differInPair_refl folder) (.inr rfl)),
    and_iff_left, sameLoaded]
  · refine imp_congr_right fun isLoaded => ?_
    rw [Folder.HasPair, keyFile_pemOf (ne_nil_of_isLoaded isLoaded),
      read_write_of_ne (notKey stem)]
    have keyRead :
        (folder.write ⟨keyOf stem, keyPem⟩).read (keyOf stem) =
          .ok keyPem :=
      read_write_self
    simp [keyRead]
  · rw [Folder.MakesDefault, sameMetadata]
    exact loadable.defaultCertificate

/-- Once both files are written, they must be accepted. -/
theorem loadable_of_pair_iff
    {later : Folder}
    {certPem keyPem : Bytes}
    (loadable : Loadable library folder)
    (differ : DifferInPair stem folder later)
    (pemRead : later.read (pemOf stem) = .ok certPem)
    (pemThere : later.metadata (pemOf stem) = .ok ())
    (keyRead : later.read (keyOf stem) = .ok keyPem)
    {cert : Certificate}
    (isParsed :
      parseCertificateAndPrivateKey library (pemOf stem) certPem keyPem =
        .ok cert) :
    Loadable library later ↔
      IsAccepted library (pemOf stem) certPem keyPem := by
  have hasPair_iff (notEmpty : stem ≠ []) :
      later.HasPair library (pemOf stem) ↔
        IsAccepted library (pemOf stem) certPem keyPem := by
    rw [Folder.HasPair, keyFile_pemOf notEmpty]
    simp [pemRead, keyRead]
  by_cases isDefault : defaultPem = pemOf stem
  · have isLoaded : later.IsLoaded (pemOf stem) := by
      refine .inr ⟨isDefault.symm, ?_⟩
      rw [isDefault]
      exact pemThere
    rw [loadable.iff_of_differ differ,
      hasPair_iff (ne_nil_of_isLoaded isLoaded), isDefault]
    exact ⟨fun both => both.1 isLoaded,
      fun isAccepted => ⟨fun _ => isAccepted, .inl pemThere⟩⟩
  · have isAccepted : IsAccepted library (pemOf stem) certPem keyPem :=
      ⟨cert, isParsed, fun same => absurd same.symm isDefault⟩
    rw [loadable.iff_of_differ differ, Folder.MakesDefault,
      differ.metadata_default isDefault]
    refine iff_of_true ⟨fun isLoaded => ?_, loadable.defaultCertificate⟩
      isAccepted
    exact (hasPair_iff (ne_nil_of_isLoaded isLoaded)).mpr isAccepted

/-- After the default chain is written, it must fit the key that is there. -/
theorem loadable_write_default_iff
    {certPem : Bytes}
    (loadable : Loadable library folder) :
    Loadable library (folder.write ⟨defaultPem, certPem⟩) ↔
      ∃ keyPem,
        folder.read (keyFile defaultPem) = .ok keyPem ∧
          IsAccepted library defaultPem certPem keyPem := by
  have isThere :
      (folder.write ⟨defaultPem, certPem⟩).metadata defaultPem = .ok () :=
    metadata_write_self
  have pemRead :
      (folder.write ⟨defaultPem, certPem⟩).read defaultPem = .ok certPem :=
    read_write_self
  have isLoaded :
      (folder.write ⟨defaultPem, certPem⟩).IsLoaded (pemOf defaultStem) :=
    .inr ⟨pemOf_defaultStem, isThere⟩
  have differ :
      DifferInPair defaultStem folder
        (folder.write ⟨defaultPem, certPem⟩) :=
    differInPair_write (differInPair_refl folder)
      (.inl pemOf_defaultStem.symm)
  have notPem : keyFile defaultPem ≠ defaultPem := by
    decide
  have keyRead :
      (folder.write ⟨defaultPem, certPem⟩).read (keyFile defaultPem) =
        folder.read (keyFile defaultPem) :=
    read_write_of_ne notPem
  rw [loadable.iff_of_differ differ, and_iff_left (.inl isThere),
    pemOf_defaultStem, Folder.HasPair, keyRead]
  rw [pemOf_defaultStem] at isLoaded
  simp [isLoaded, pemRead]

end Stages

section Interrupted

variable
  {library : CertificateLibrary}
  {debugPath : OsStr → String}
  {folder later : Folder}

/-- The folders on the way of a save of two files. -/
def Stages (first second : FileWrite) (folder later : Folder) : Prop :=
  later = folder ∨ later = folder.write first ∨
    later = (folder.write first).write second

/-- Before the second file is written. -/
def Unfinished (first : FileWrite) (folder later : Folder) : Prop :=
  later = folder ∨ later = folder.write first

theorem Unfinished.stages
    {first : FileWrite}
    (second : FileWrite)
    (unfinished : Unfinished first folder later) :
    Stages first second folder later :=
  unfinished.imp_right .inl

theorem Domain.file_key (domain : Domain) :
    domain.file "key".toList = keyOf domain.name.asBytes := by
  rw [Domain.file, Str.asBytes, List.flatMap_append]
  rfl

theorem Domain.file_pem (domain : Domain) :
    domain.file "pem".toList = pemOf domain.name.asBytes := by
  rw [Domain.file, Str.asBytes, List.flatMap_append]
  rfl

/-- One attempt to write the pair of a domain. -/
theorem guards_writeAcmeCertificate
    (domain : Domain)
    (privateKeyPem certChainPem : Bytes)
    {state : Folder}
    (begins :
      Unfinished ⟨domain.file "key".toList, privateKeyPem⟩ folder state) :
    Guards Writes
      (Stages ⟨domain.file "key".toList, privateKeyPem⟩
        ⟨domain.file "pem".toList, certChainPem⟩ folder)
      (fun result later => ∀ err, result = .error err →
        Unfinished ⟨domain.file "key".toList, privateKeyPem⟩ folder later)
      (writeAcmeCertificate debugPath domain privateKeyPem certChainPem)
      state := by
  refine .request_bind (begins.stages _) fun reply between keyWrites => ?_
  cases keyWrites with
  | failed err =>
      exact .pure (begins.stages _) fun _ _ => begins
  | written =>
      have isWritten :
          state.write ⟨domain.file "key".toList, privateKeyPem⟩ =
            folder.write ⟨domain.file "key".toList, privateKeyPem⟩ := by
        rcases begins with rfl | rfl
        · rfl
        · exact write_write
      rw [isWritten]
      refine .request_bind (.inr (.inl rfl)) fun reply later pemWrites => ?_
      cases pemWrites with
      | failed err =>
          exact .pure (.inr (.inl rfl)) fun _ _ => .inr rfl
      | written =>
          refine .pure (.inr (.inr rfl)) fun err isError => ?_
          cases isError

/-- What the attempts to save a certificate that is parsed leave behind. -/
theorem leaves_saveAcmeCertificate_iff
    {domain : Domain}
    {privateKeyPem certChainPem : Bytes}
    {cert : Certificate}
    (isParsed :
      parseCertificateAndPrivateKey library (domain.file "pem".toList)
        certChainPem privateKeyPem = .ok cert) :
    Leaves Writes
        (saveAcmeCertificate library debugPath domain privateKeyPem
          certChainPem) folder later ↔
      Stages ⟨domain.file "key".toList, privateKeyPem⟩
        ⟨domain.file "pem".toList, certChainPem⟩ folder later := by
  rw [saveAcmeCertificate, isParsed]
  constructor
  · intro leaves
    refine Guards.guarded_of_leaves (guards_retry
      (fun state begins =>
        guards_writeAcmeCertificate domain privateKeyPem certChainPem begins)
      (fun err state unfinished => unfinished err rfl) 5 (.inl rfl)) leaves
  · rintro (rfl | rfl | rfl)
    · exact .stopped _ _
    · exact .answered .written (.stopped _ _)
    · exact .answered .written (.answered .written (.stopped _ _))

/-- What saving a default certificate that is parsed leaves behind. -/
theorem leaves_writeDefaultCertificate_iff
    {certPem keyPem : Bytes} :
    Leaves Writes (writeDefaultCertificate debugPath certPem keyPem) folder
        later ↔
      Stages ⟨defaultPem, certPem⟩ ⟨keyFile defaultPem, keyPem⟩ folder
        later := by
  constructor
  · intro leaves
    have guards :
        Guards Writes
          (Stages ⟨defaultPem, certPem⟩ ⟨keyFile defaultPem, keyPem⟩ folder)
          (fun _ _ => True)
          (writeDefaultCertificate debugPath certPem keyPem) folder := ?_
    · exact guards.guarded_of_leaves leaves
    refine .request_bind (.inl rfl) fun reply between certWrites => ?_
    cases certWrites with
    | failed err =>
        exact .pure (.inl rfl) trivial
    | written =>
        refine .request_bind (.inr (.inl rfl)) fun reply later keyWrites => ?_
        cases keyWrites with
        | failed err =>
            exact .pure (.inr (.inl rfl)) trivial
        | written =>
            exact .pure (.inr (.inr rfl)) trivial
  · rintro (rfl | rfl | rfl)
    · exact .stopped _ _
    · exact .answered .written (.stopped _ _)
    · exact .answered .written (.answered .written (.stopped _ _))

theorem forall_stages_iff
    {first second : FileWrite}
    (loadable : Loadable library folder) :
    (∀ later, Stages first second folder later → Starts library later) ↔
      Loadable library (folder.write first) ∧
        Loadable library ((folder.write first).write second) := by
  simp only [starts_iff_loadable]
  constructor
  · intro allLoadable
    exact ⟨allLoadable _ (.inr (.inl rfl)), allLoadable _ (.inr (.inr rfl))⟩
  · rintro ⟨afterFirst, afterBoth⟩ later (rfl | rfl | rfl)
    · exact loadable
    · exact afterFirst
    · exact afterBoth

/--
No file of a pair that is saved stands next to one it is not accepted with.

The pair of a domain must be accepted, and where a start loads the chain that is
already there, that chain must be accepted with the new key.  A default pair
that is saved must be accepted, and its chain must be accepted with a key that
is already there.
-/
def Save.MixesNoPairs
    (library : CertificateLibrary)
    (folder : Folder) : Save → Prop
  | .acme domain privateKeyPem certChainPem =>
      let certFile := domain.file "pem".toList
      ∀ cert,
        parseCertificateAndPrivateKey library certFile certChainPem
            privateKeyPem = .ok cert →
          (folder.IsLoaded certFile →
            ∃ oldChainPem,
              folder.read certFile = .ok oldChainPem ∧
                IsAccepted library certFile oldChainPem privateKeyPem) ∧
            IsAccepted library certFile certChainPem privateKeyPem
  | .defaultCertificate certPem keyPem =>
      folder.lacksDefault = true →
        ∀ cert,
          parseCertificateAndPrivateKey library defaultPem certPem keyPem =
              .ok cert →
            (∃ oldKeyPem,
              folder.read (keyFile defaultPem) = .ok oldKeyPem ∧
                IsAccepted library defaultPem certPem oldKeyPem) ∧
              IsAccepted library defaultPem certPem keyPem

/-- Both stages of the save of a domain are loadable, or not. -/
theorem loadable_acme_stages_iff
    (loadable : Loadable library folder)
    {domain : Domain}
    {privateKeyPem certChainPem : Bytes}
    {cert : Certificate}
    (isParsed :
      parseCertificateAndPrivateKey library (domain.file "pem".toList)
        certChainPem privateKeyPem = .ok cert) :
    Loadable library
        ((folder.write ⟨domain.file "key".toList, privateKeyPem⟩).write
          ⟨domain.file "pem".toList, certChainPem⟩) ↔
      IsAccepted library (domain.file "pem".toList) certChainPem
        privateKeyPem := by
  rw [domain.file_pem] at isParsed ⊢
  rw [domain.file_key]
  refine loadable_of_pair_iff loadable ?_ read_write_self metadata_write_self
    ?_ isParsed
  · exact differInPair_write
      (differInPair_write (differInPair_refl folder) (.inr rfl)) (.inl rfl)
  · rw [read_write_of_ne (pemOf_ne_keyOf _ _).symm]
    exact read_write_self

theorem loadable_default_stages_iff
    (loadable : Loadable library folder)
    {certPem keyPem : Bytes}
    {cert : Certificate}
    (isParsed :
      parseCertificateAndPrivateKey library defaultPem certPem keyPem =
        .ok cert) :
    Loadable library
        ((folder.write ⟨defaultPem, certPem⟩).write
          ⟨keyFile defaultPem, keyPem⟩) ↔
      IsAccepted library defaultPem certPem keyPem := by
  rw [← pemOf_defaultStem, keyFile_pemOf (by decide)]
  rw [← pemOf_defaultStem] at isParsed
  refine loadable_of_pair_iff loadable ?_ ?_ ?_ read_write_self isParsed
  · exact differInPair_write
      (differInPair_write (differInPair_refl folder) (.inl rfl)) (.inr rfl)
  · rw [read_write_of_ne (pemOf_ne_keyOf _ _)]
    exact read_write_self
  · rw [metadata_write_of_ne (pemOf_ne_keyOf _ _)]
    exact metadata_write_self

/-- An empty folder is loadable when a default certificate can be made. -/
theorem loadable_empty (generates : Generates library) :
    Loadable library ∅ where
  pairs certFile isLoaded := by
    rcases isLoaded with isListed | ⟨rfl, isThere⟩
    · cases isListed
    · cases isThere
  defaultCertificate :=
    .inr ⟨⟨_, rfl, rfl⟩, generates⟩

theorem forall_leaves_acme_iff
    (loadable : Loadable library folder)
    (domain : Domain)
    (privateKeyPem certChainPem : Bytes) :
    (∀ later,
      Leaves Writes
        (saveAcmeCertificate library debugPath domain privateKeyPem
          certChainPem) folder later → Starts library later) ↔
      (Save.acme domain privateKeyPem certChainPem).MixesNoPairs library
        folder := by
  rw [Save.MixesNoPairs]
  cases isParsed : parseCertificateAndPrivateKey library
      (domain.file "pem".toList) certChainPem privateKeyPem with
  | error err =>
      refine iff_of_true (fun later leaves => ?_) (fun cert isOk => ?_)
      · rw [saveAcmeCertificate, isParsed] at leaves
        cases leaves
        exact starts_iff_loadable.mpr loadable
      · cases isOk
  | ok cert =>
      simp only [leaves_saveAcmeCertificate_iff isParsed]
      rw [forall_stages_iff loadable,
        loadable_acme_stages_iff loadable isParsed, domain.file_key,
        domain.file_pem, loadable_write_key_iff loadable]
      exact ⟨fun both _ _ => both, fun both => both cert rfl⟩

theorem forall_leaves_default_iff
    (loadable : Loadable library folder)
    (certPem keyPem : Bytes) :
    (∀ later,
      Leaves Writes
        (saveDefaultCertificate library debugPath folder certPem keyPem)
        folder later → Starts library later) ↔
      (Save.defaultCertificate certPem keyPem).MixesNoPairs library
        folder := by
  have unchanged (later : Folder)
      {result : Except Error Unit}
      (leaves : Leaves Writes (.done result) folder later) :
      Starts library later := by
    cases leaves
    exact starts_iff_loadable.mpr loadable
  rw [Save.MixesNoPairs, saveDefaultCertificate]
  cases folder.lacksDefault with
  | false =>
      refine iff_of_true (fun later leaves => unchanged later leaves)
        (fun lacks => ?_)
      cases lacks
  | true =>
      rw [if_pos rfl]
      cases isParsed : parseCertificateAndPrivateKey library defaultPem
          certPem keyPem with
      | error err =>
          refine iff_of_true (fun later leaves => unchanged later leaves)
            (fun _ cert isOk => ?_)
          cases isOk
      | ok cert =>
          simp only [leaves_writeDefaultCertificate_iff]
          rw [forall_stages_iff loadable,
            loadable_default_stages_iff loadable isParsed,
            loadable_write_default_iff loadable]
          exact ⟨fun both _ _ _ => both, fun both => both trivial cert rfl⟩

/--
A folder that a start succeeds on, or an empty one, stays such a folder wherever
a save is interrupted, exactly when the save mixes no pairs.
-/
theorem startsAfter_iff_mixesNoPairs
    (starts : Starts library folder ∨ folder = ∅ ∧ Generates library)
    (save : Save) :
    (∀ later,
      Leaves Writes (save.program library debugPath folder) folder later →
        Starts library later) ↔
      save.MixesNoPairs library folder := by
  have loadable : Loadable library folder := by
    rcases starts with starts | ⟨rfl, generates⟩
    · exact starts_iff_loadable.mp starts
    · exact loadable_empty generates
  cases save with
  | acme domain privateKeyPem certChainPem =>
      exact forall_leaves_acme_iff loadable domain privateKeyPem certChainPem
  | defaultCertificate certPem keyPem =>
      exact forall_leaves_default_iff loadable certPem keyPem

/-- The first certificate of a domain is saved safely. -/
theorem startsAfter_firstIssue
    (starts : Starts library folder)
    {domain : Domain}
    (notDefault : domain.file "pem".toList ≠ defaultPem)
    (isNew : folder.lookup (domain.file "pem".toList) = none)
    (privateKeyPem certChainPem : Bytes)
    (leaves :
      Leaves Writes
        (saveAcmeCertificate library debugPath domain privateKeyPem
          certChainPem) folder later) :
    Starts library later := by
  have loadable := starts_iff_loadable.mp starts
  refine (forall_leaves_acme_iff loadable domain privateKeyPem
    certChainPem).mpr (fun cert isParsed => ⟨fun isLoaded => ?_, ?_⟩)
    later leaves
  · rcases isLoaded with isListed | ⟨isDefault, -⟩
    · rw [Folder.hasCertificate, isNew] at isListed
      cases isListed
    · exact absurd isDefault notDefault
  · exact ⟨cert, isParsed, fun isDefault => absurd isDefault notDefault⟩

end Interrupted

section Sample

/--
A library in which a certificate is a serial number and the text of its only
name, and a key is the serial number of the certificate that it fits.
-/
def serialLibrary : CertificateLibrary where
  privateKey pem :=
    .ok (some pem)
  certs pem :=
    .ok [pem]
  fromDer der :=
    textLibrary.fromDer der.tail
  buildError _ :=
    none
  isMatch :=
    textLibrary.isMatch
  certifiedKeyError certified :=
    if certified.cert.map (List.take 1) = [certified.key] then
      none
    else
      some "keys don't match"
  sha256 _ :=
    .replicate 32 0
  selfSigned hostnames :=
    .ok (0 :: Str.asBytes hostnames.flatten, [0])

theorem generates_serialLibrary : Generates serialLibrary :=
  ⟨_, _, rfl, _, rfl, fun _ => rfl⟩

theorem noSlash_sampleDomain : '/' ∉ "example.com".toList := by
  decide

/-- A domain that certificates are ordered for. -/
def sampleDomain : Domain where
  name :=
    "example.com".toList
  noSlash :=
    noSlash_sampleDomain

/-- The chain of the domain with some serial number. -/
def sampleChain (serial : UInt8) : Bytes :=
  serial :: Str.asBytes "example.com".toList

/-- The folder with the first certificate of the domain. -/
def issuedFolder : Folder :=
  ((∅ : Folder).write ⟨sampleDomain.file "key".toList, [1]⟩).write
    ⟨sampleDomain.file "pem".toList, sampleChain 1⟩

theorem starts_issuedFolder : Starts serialLibrary issuedFolder := by
  have startsEmpty : Starts serialLibrary ∅ :=
    starts_iff_loadable.mpr (loadable_empty generates_serialLibrary)
  have leaves :
      Leaves Writes
        (saveAcmeCertificate serialLibrary (fun _ => "") sampleDomain [1]
          (sampleChain 1)) ∅ issuedFolder :=
    (leaves_saveAcmeCertificate_iff rfl).mpr (.inr (.inr rfl))
  exact startsAfter_firstIssue startsEmpty (by decide) rfl [1] (sampleChain 1)
    leaves

/-- A renewal of the certificate with another key. -/
def renewal : Save :=
  .acme sampleDomain [2] (sampleChain 2)

/--
Two saves after which a start fails: the first default certificate, and the
renewal of a certificate, each interrupted between its writes.
-/
theorem not_startsAfter_samples :
    (Generates serialLibrary ∧
      ∃ later,
        Leaves Writes
            ((Save.defaultCertificate [0, 42] [0]).program serialLibrary
              (fun _ => "") ∅) ∅ later ∧
          ¬ Starts serialLibrary later) ∧
      Starts serialLibrary issuedFolder ∧
        ∃ later,
          Leaves Writes
              (renewal.program serialLibrary (fun _ => "") issuedFolder)
              issuedFolder later ∧
            ¬ Starts serialLibrary later := by
  refine ⟨⟨generates_serialLibrary, _, .answered .written (.stopped _ _), ?_⟩,
    starts_issuedFolder, _, .answered .written (.stopped _ _), ?_⟩
  · intro starts
    obtain ⟨_, _, -, keyRead, -⟩ :=
      (starts_iff_loadable.mp starts).pairs defaultPem (.inr ⟨rfl, rfl⟩)
    cases keyRead
  · intro starts
    obtain ⟨_, _, pemRead, keyRead, _, isParsed, -⟩ :=
      (starts_iff_loadable.mp starts).pairs (sampleDomain.file "pem".toList)
        (.inl (by decide))
    cases pemRead
    cases keyRead
    cases isParsed

/-- The condition for the renewal. -/
theorem startsAfter_iff_mixesNoPairs_renewal :
    (∀ later,
      Leaves Writes
          (renewal.program serialLibrary (fun _ => "") issuedFolder)
          issuedFolder later →
        Starts serialLibrary later) ↔
      renewal.MixesNoPairs serialLibrary issuedFolder :=
  startsAfter_iff_mixesNoPairs (.inl starts_issuedFolder) renewal

end Sample

end Pingoo.Tls
