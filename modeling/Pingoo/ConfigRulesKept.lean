import Pingoo.ConfigRules
import Pingoo.Library.RelatedLists

namespace Pingoo

/-!
# Rules that are lost on the way

A configuration is loaded without an error although a rule of it is not there,
or does nothing: when a name is written twice in one mapping, when reading the
rules folder ends early, and when a rule limits without saying how much.  These
are all the ways in which that happens.
-/

open Fallible

section Definitions

variable (fromSlice : Bytes → Except String (List RuleDefinition))

/-- The rules that a file defines. -/
def RulesFile.definitions (file : RulesFile) : List RuleDefinition :=
  match file.read >>= fromSlice with
  | .ok definitions => definitions
  | .error _ => []

/-- The rules that some files define. -/
def definitionsOf (files : List RulesFile) : List RuleDefinition :=
  (files.filter RulesFile.isYml).flatMap (RulesFile.definitions fromSlice)

variable {Expression : Type} (library : ConfigLibrary Expression)

/-- A rule is the one that was written. -/
structure Rule.IsOf
    (definition : RuleDefinition)
    (rule : Rule Expression) : Prop where
  name : rule.name = definition.1
  expression :
    compileOptional library definition.2.expression = .ok rule.expression
  actions : rule.actions = definition.2.actions
  limiterTx : rule.limiterTx.isSome = definition.2.limit.isSome

/--
Each rule that is written is loaded once, those of the configuration file first,
and each rule that limits has a limiter.
-/
structure HasEveryRule
    (written : WrittenConfigFile)
    (folder : RulesFolder)
    (config : Config Expression) : Prop where
  rules :
    ∃ inFolder,
      inFolder.Perm (definitionsOf fromSlice folder.files) ∧
        List.Forall₂ (Rule.IsOf library) (written.rules ++ inFolder)
          config.rules
  limited :
    ∀ rule ∈ config.rules, .limit ∈ rule.actions → rule.limiterTx.isSome

/--
No rule is lost: the names of each mapping are distinct, no rules file is
missed, and each rule that limits says how much.
-/
structure LosesNoRule
    (written : WrittenConfigFile)
    (folder : RulesFolder) : Prop where
  distinct : (written.rules.map Prod.fst).Nodup
  distinctInFiles :
    ∀ file ∈ folder.listed, file.isYml = true →
      ((file.definitions fromSlice).map Prod.fst).Nodup
  noneMissed :
    ∀ file ∈ folder.missed, file.isYml = true →
      file.definitions fromSlice = []
  limited :
    ∀ definition ∈ written.rules ++ definitionsOf fromSlice folder.listed,
      .limit ∈ definition.2.actions → definition.2.limit.isSome

end Definitions

section Loading

variable
  {fromSlice : Bytes → Except String (List RuleDefinition)}
  {debugPath : UnixPath.Path → String}

/-- The entries that are made of the rules of a file. -/
def RulesFile.entries
    (fromSlice : Bytes → Except String (List RuleDefinition))
    (file : RulesFile) : List RuleDefinition :=
  (IndexMap.ofEntries (file.definitions fromSlice)).entries

theorem loadRulesFile_eq_ok
    {file : RulesFile}
    {rules : IndexMap String RuleConfigFile}
    (isOk : loadRulesFile fromSlice debugPath file = .ok rules) :
    rules = .ofEntries (file.definitions fromSlice) := by
  obtain ⟨content, isRead, parsed⟩ := bind_eq_ok_iff.mp isOk
  obtain ⟨definitions, isParsed, same⟩ := bind_eq_ok_iff.mp parsed
  rw [mapError_eq_ok_iff] at isRead isParsed
  cases same
  have isBoth : (file.read >>= fromSlice) = .ok definitions :=
    bind_eq_ok_iff.mpr ⟨content, isRead, isParsed⟩
  rw [RulesFile.definitions, isBoth]

/-- Rules without a common name have distinct names together. -/
theorem nodup_of_findDuplicate2
    {first second : IndexMap String RuleConfigFile}
    (noDuplicate : findDuplicate2 first.keys second.keys = none) :
    (second.keys ++ first.keys).Nodup := by
  refine List.Nodup.append second.distinct first.distinct ?_
  intro name isSecond isFirst
  have absent := List.find?_eq_none.mp noDuplicate name isSecond
  exact absent (decide_eq_true isFirst)

/-- The loop appends the rules of each file that it comes to see. -/
theorem entries_of_loadListed
    {ret rules : IndexMap String RuleConfigFile}
    {steps : List (Except Unit RulesFile)}
    (isOk : loadListed fromSlice debugPath ret steps = .ok rules) :
    rules.entries =
      ret.entries ++
        ((listedFiles steps).filter RulesFile.isYml).flatMap
          (RulesFile.entries fromSlice) := by
  induction steps generalizing ret with
  | nil =>
      cases isOk
      exact (List.append_nil _).symm
  | cons step rest inductionHypothesis =>
      cases step with
      | error =>
          cases isOk
          exact (List.append_nil _).symm
      | ok file =>
          rw [loadListed] at isOk
          split at isOk
          · next notYml =>
              have isOther : file.isYml = false := by
                simpa using notYml
              rw [inductionHypothesis isOk, listedFiles,
                List.filter_cons_of_neg (by simp [isOther])]
          · next isYml =>
              have isYml : file.isYml = true := by
                simpa using isYml
              obtain ⟨loaded, isLoaded, checked⟩ := bind_eq_ok_iff.mp isOk
              obtain ⟨_, noError, isOk⟩ := bind_eq_ok_iff.mp checked
              have noDuplicate :=
                Option.map_eq_none_iff.mp (reject_eq_ok_iff.mp noError)
              have appended :=
                IndexMap.entries_extend (nodup_of_findDuplicate2 noDuplicate)
              rw [inductionHypothesis isOk, appended, listedFiles,
                List.filter_cons_of_pos isYml, List.flatMap_cons,
                loadRulesFile_eq_ok isLoaded, List.append_assoc]
              rfl

/-- The rules of the folder are those of its files, as far as they are seen. -/
theorem entries_of_loadRules
    {folder : RulesFolder}
    {rules : IndexMap String RuleConfigFile}
    (isOk : loadRules fromSlice debugPath folder.readDir = .ok rules) :
    rules.entries =
      (folder.listed.filter RulesFile.isYml).flatMap
        (RulesFile.entries fromSlice) := by
  unfold loadRules at isOk
  unfold RulesFolder.listed
  split at isOk
  · next steps isDir =>
      exact entries_of_loadListed isOk
  · next err isDir =>
      split at isOk
      · cases isOk
        rfl
      · cases isOk

variable {Expression : Type} {library : ConfigLibrary Expression}

/-- Each entry is compiled to its rule. -/
theorem forall₂_of_compileRules
    {entries : List RuleDefinition}
    {workers laterWorkers : List RateLimit}
    {rules : List (Rule Expression)}
    (compiled :
      compileRules library entries workers = .ok (rules, laterWorkers)) :
    List.Forall₂ (Rule.IsOf library) entries rules := by
  induction entries generalizing workers rules with
  | nil =>
      cases compiled
      exact .nil
  | cons entry rest inductionHypothesis =>
      obtain ⟨name, body⟩ := entry
      obtain ⟨expression, isCompiled, compiled⟩ := bind_eq_ok_iff.mp compiled
      obtain ⟨⟨others, last⟩, restCompiled, same⟩ :=
        bind_eq_ok_iff.mp compiled
      cases same
      refine .cons ⟨rfl, isCompiled, rfl, ?_⟩
        (inductionHypothesis restCompiled)
      exact Option.isSome_map

/-- A configuration that was loaded has a rule for each entry of the maps. -/
theorem forall₂_of_loadAndValidate
    {written : WrittenConfigFile}
    {folder : RulesFolder}
    {config : Config Expression}
    (isOk :
      loadAndValidate library (.ok written.configFile)
        (loadRules fromSlice debugPath folder.readDir) = .ok config) :
    List.Forall₂ (Rule.IsOf library)
      ((IndexMap.ofEntries written.rules).entries ++
        (folder.listed.filter RulesFile.isYml).flatMap
          (RulesFile.entries fromSlice))
      config.rules := by
  obtain ⟨file, isRead, rest⟩ := bind_eq_ok_iff.mp isOk
  cases isRead
  obtain ⟨inFolder, rulesOk, rest⟩ := bind_eq_ok_iff.mp rest
  obtain ⟨_, _, rest⟩ := bind_eq_ok_iff.mp rest
  obtain ⟨services, _, rest⟩ := bind_eq_ok_iff.mp rest
  obtain ⟨_, _, rest⟩ := bind_eq_ok_iff.mp rest
  obtain ⟨⟨rules, workers⟩, compiled, rest⟩ := bind_eq_ok_iff.mp rest
  obtain ⟨tls, _, same⟩ := bind_eq_ok_iff.mp rest
  cases same
  rw [mapError_eq_ok_iff, entries_of_loadRules rulesOk] at compiled
  exact forall₂_of_compileRules compiled

end Loading

section Lengths

variable {α β : Type}

theorem length_flatMap_le
    {parts : List α}
    {short long : α → List β}
    (atMost : ∀ part ∈ parts, (short part).length ≤ (long part).length) :
    (parts.flatMap short).length ≤ (parts.flatMap long).length := by
  induction parts with
  | nil =>
      exact Nat.le_refl _
  | cons part rest inductionHypothesis =>
      obtain ⟨first, others⟩ := List.forall_mem_cons.mp atMost
      rw [List.flatMap_cons, List.flatMap_cons, List.length_append,
        List.length_append]
      exact Nat.add_le_add first (inductionHypothesis others)

/-- Where nothing is lost in sum, no part loses anything. -/
theorem length_eq_of_length_flatMap
    {parts : List α}
    {short long : α → List β}
    (atMost : ∀ part ∈ parts, (short part).length ≤ (long part).length)
    (all : (parts.flatMap long).length ≤ (parts.flatMap short).length) :
    ∀ part ∈ parts, (short part).length = (long part).length := by
  induction parts with
  | nil =>
      simp
  | cons part rest inductionHypothesis =>
      obtain ⟨first, others⟩ := List.forall_mem_cons.mp atMost
      have restAtMost := length_flatMap_le others
      rw [List.flatMap_cons, List.flatMap_cons, List.length_append,
        List.length_append] at all
      exact List.forall_mem_cons.mpr
        ⟨by omega, inductionHypothesis others (by omega)⟩

end Lengths

section Exact

variable
  {fromSlice : Bytes → Except String (List RuleDefinition)}
  {debugPath : UnixPath.Path → String}
  {Expression : Type} {library : ConfigLibrary Expression}
  {written : WrittenConfigFile} {folder : RulesFolder}
  {config : Config Expression}

theorem definitionsOf_append (first second : List RulesFile) :
    definitionsOf fromSlice (first ++ second) =
      definitionsOf fromSlice first ++ definitionsOf fromSlice second := by
  rw [definitionsOf, List.filter_append, List.flatMap_append]
  rfl

/-- Mappings with distinct names are kept whole. -/
theorem entries_of_distinct
    {files : List RulesFile}
    (distinct :
      ∀ file ∈ files, file.isYml = true →
        ((file.definitions fromSlice).map Prod.fst).Nodup) :
    (files.filter RulesFile.isYml).flatMap (RulesFile.entries fromSlice) =
      definitionsOf fromSlice files := by
  refine List.flatMap_congr fun file member => ?_
  obtain ⟨isListed, isYml⟩ := List.mem_filter.mp member
  exact IndexMap.entries_ofEntries (distinct file isListed isYml)

/-- Files without rules define none. -/
theorem definitionsOf_eq_nil
    {files : List RulesFile} :
    definitionsOf fromSlice files = [] ↔
      ∀ file ∈ files, file.isYml = true →
        file.definitions fromSlice = [] := by
  rw [definitionsOf, List.flatMap_eq_nil_iff]
  simp only [List.mem_filter, and_imp]

theorem LosesNoRule.hasEveryRule
    (losesNone : LosesNoRule fromSlice written folder)
    (loaded :
      List.Forall₂ (Rule.IsOf library)
        ((IndexMap.ofEntries written.rules).entries ++
          (folder.listed.filter RulesFile.isYml).flatMap
            (RulesFile.entries fromSlice))
        config.rules) :
    HasEveryRule fromSlice library written folder config := by
  rw [IndexMap.entries_ofEntries losesNone.distinct,
    entries_of_distinct losesNone.distinctInFiles] at loaded
  refine ⟨⟨_, ?_, loaded⟩, ?_⟩
  · rw [RulesFolder.files, definitionsOf_append,
      definitionsOf_eq_nil.mpr losesNone.noneMissed, List.append_nil]
  · intro rule member limits
    obtain ⟨definition, isWritten, isOf⟩ :=
      RelatedLists.exists_of_mem_right loaded member
    rw [isOf.limiterTx]
    exact losesNone.limited definition isWritten (isOf.actions ▸ limits)

/-- Where every rule is there, none was lost. -/
theorem HasEveryRule.losesNoRule
    (hasEvery : HasEveryRule fromSlice library written folder config)
    (loaded :
      List.Forall₂ (Rule.IsOf library)
        ((IndexMap.ofEntries written.rules).entries ++
          (folder.listed.filter RulesFile.isYml).flatMap
            (RulesFile.entries fromSlice))
        config.rules) :
    LosesNoRule fromSlice written folder := by
  obtain ⟨⟨inFolder, isPerm, everyRule⟩, limited⟩ := hasEvery
  have inMap := IndexMap.length_ofEntries_le written.rules
  have inFiles (file : RulesFile) :
      (file.entries fromSlice).length ≤
        (file.definitions fromSlice).length :=
    IndexMap.length_ofEntries_le _
  have inListed :
      ((folder.listed.filter RulesFile.isYml).flatMap
          (RulesFile.entries fromSlice)).length ≤
        (definitionsOf fromSlice folder.listed).length :=
    length_flatMap_le fun file _ => inFiles file
  -- both lists have one entry for each rule that was loaded
  have sameLength := loaded.length_eq.trans everyRule.length_eq.symm
  rw [List.length_append, List.length_append, isPerm.length_eq,
    RulesFolder.files, definitionsOf_append, List.length_append] at sameLength
  have distinct : (written.rules.map Prod.fst).Nodup :=
    IndexMap.nodup_of_length_ofEntries (by omega)
  have distinctInFiles :
      ∀ file ∈ folder.listed, file.isYml = true →
        ((file.definitions fromSlice).map Prod.fst).Nodup := by
    intro file isListed isYml
    refine IndexMap.nodup_of_length_ofEntries ?_
    exact length_eq_of_length_flatMap (fun file _ => inFiles file)
      (by rw [← definitionsOf]; omega) file
      (List.mem_filter.mpr ⟨isListed, isYml⟩)
  refine ⟨distinct, distinctInFiles, ?_, ?_⟩
  · exact definitionsOf_eq_nil.mp
      (List.eq_nil_of_length_eq_zero (by omega))
  · intro definition isWritten limits
    rw [IndexMap.entries_ofEntries distinct,
      entries_of_distinct distinctInFiles] at loaded
    obtain ⟨rule, isLoaded, isOf⟩ :=
      RelatedLists.exists_of_mem_left loaded isWritten
    rw [← isOf.limiterTx]
    exact limited rule isLoaded (isOf.actions ▸ limits)

/--
A configuration that is loaded has every rule, with its limiter, exactly when no
rule is lost on the way.
-/
theorem hasEveryRule_iff_losesNoRule
    (isOk :
      loadAndValidate library (.ok written.configFile)
        (loadRules fromSlice debugPath folder.readDir) = .ok config) :
    HasEveryRule fromSlice library written folder config ↔
      LosesNoRule fromSlice written folder := by
  have loaded := forall₂_of_loadAndValidate isOk
  constructor
  · intro hasEvery
    exact hasEvery.losesNoRule loaded
  · intro losesNone
    exact losesNone.hasEveryRule loaded

end Exact

section Sample

/-- A library for configurations without URLs and expressions. -/
def plainLibrary : ConfigLibrary Unit where
  parseUrl :=
    fun _ => .error "relative URL without a base"
  compileExpression :=
    fun _ => .error "not compiled"

/-- A rule that blocks every request. -/
def denyRule : RuleDefinition :=
  ("deny", ⟨none, [.block], none⟩)

/-- A rule of the same name that asks for a captcha. -/
def askRule : RuleDefinition :=
  ("deny", ⟨none, [.captcha], none⟩)

/-- A rule that limits without saying how much. -/
def limitRule : RuleDefinition :=
  ("slow", ⟨none, [.limit], none⟩)

/-- A configuration file with rules and nothing else. -/
def writtenRules (rules : List RuleDefinition) : WrittenConfigFile where
  listeners :=
    .empty
  services :=
    .empty
  rules :=
    rules
  tls :=
    none
  childProcess :=
    none

/-- There is no rules folder. -/
def noFolder : RulesFolder where
  readDir :=
    .error ⟨true, "No such file or directory (os error 2)"⟩
  missed :=
    []
  complete :=
    fun _ => rfl

/-- A rules folder that cannot be read to its end. -/
def unreadFolder : RulesFolder where
  readDir :=
    .ok [.error ()]
  missed :=
    [⟨"/etc/pingoo/rules/deny.yml".toList, .ok []⟩]
  complete :=
    nofun

/-- Load a configuration; the rules files all hold the rule that blocks. -/
def loadSample (rules : List RuleDefinition) (folder : RulesFolder) :
    Except Error (Config Unit) :=
  loadAndValidate plainLibrary (.ok (writtenRules rules).configFile)
    (loadRules (fun _ => .ok [denyRule]) (fun _ => "") folder.readDir)

/-- Every rule of a sample is there. -/
def HasEverySample
    (rules : List RuleDefinition)
    (folder : RulesFolder)
    (config : Config Unit) : Prop :=
  HasEveryRule (fun _ => .ok [denyRule]) plainLibrary (writtenRules rules)
    folder config

/-- A rule that limits, and says how much. -/
def slowRule : RuleDefinition :=
  ("slow", ⟨none, [.limit], some ⟨100, 60, 1024⟩⟩)

/-- A rules folder with one rules file, and a file of another kind. -/
def slowFolder : RulesFolder where
  readDir :=
    .ok [.ok ⟨"/etc/pingoo/rules/README".toList, .ok []⟩,
      .ok ⟨"/etc/pingoo/rules/slow.yml".toList, .ok []⟩]
  missed :=
    []
  complete :=
    fun _ => rfl

/-- The rules of the file and of the folder are loaded, with the limiter. -/
theorem hasEveryRule_iff_losesNoRule_deny :
    ∃ config,
      loadAndValidate plainLibrary (.ok (writtenRules [denyRule]).configFile)
          (loadRules (fun _ => .ok [slowRule]) (fun _ => "")
            slowFolder.readDir) = .ok config ∧
        config.rules.map Rule.name = ["deny", "slow"] ∧
        HasEveryRule (fun _ => .ok [slowRule]) plainLibrary
          (writtenRules [denyRule]) slowFolder config := by
  have losesNone :
      LosesNoRule (fun _ => .ok [slowRule]) (writtenRules [denyRule])
        slowFolder := by
    refine ⟨by decide, ?_, nofun, ?_⟩
    · intro file _ _
      cases isRead : file.read <;>
        simp [RulesFile.definitions, isRead, bind, Except.bind]
    · decide
  exact ⟨_, rfl, rfl,
    (@hasEveryRule_iff_losesNoRule _ (fun _ => "") _ _ _ _ _ rfl).mpr losesNone⟩

/--
Configurations that are loaded without an error: one with a name that is written
twice, one whose rules folder is not read to its end, and one with a limit that
nothing is said of.
-/
theorem not_hasEveryRule_samples :
    (∃ config,
        loadSample [denyRule, askRule] noFolder = .ok config ∧
          ¬ HasEverySample [denyRule, askRule] noFolder config) ∧
      (∃ config,
        loadSample [] unreadFolder = .ok config ∧
          ¬ HasEverySample [] unreadFolder config) ∧
        ∃ config,
          loadSample [limitRule] noFolder = .ok config ∧
            ¬ HasEverySample [limitRule] noFolder config := by
  refine ⟨⟨_, rfl, ?_⟩, ⟨_, rfl, ?_⟩, ⟨_, rfl, ?_⟩⟩
  · rintro ⟨⟨inFolder, isPerm, everyRule⟩, -⟩
    have tooMany : 2 + inFolder.length = 1 := by
      have := everyRule.length_eq
      rwa [List.length_append] at this
    omega
  · rintro ⟨⟨inFolder, isPerm, everyRule⟩, -⟩
    have tooMany := everyRule.length_eq
    rw [List.length_append, isPerm.length_eq] at tooMany
    exact absurd tooMany (by decide)
  · rintro ⟨-, limited⟩
    exact absurd (limited _ List.mem_cons_self (by decide)) (by decide)

end Sample

end Pingoo
