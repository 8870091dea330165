import Pingoo.ConfigLoad
import Pingoo.Library.UnixPath
import Pingoo.Tls.Manager

namespace Pingoo

/-!
# Loading the rules

Rules are written in the configuration file and in the `.yml` files of the rules
folder.  Each of these is a mapping from names to rules, which is read into an
index map; the maps are put together file by file.
-/

open Fallible UnixPath

/-- A rule as it is written: its name and its body. -/
abbrev RuleDefinition := String × RuleConfigFile

/-- A file of the rules folder, and what reading it gives. -/
structure RulesFile where
  path : Path
  read : Except String Bytes

/-- The folder that the rules are read from. -/
def rulesFolderPath : Path :=
  "/etc/pingoo/rules".toList

/-- A file is a rules file by its extension. -/
def RulesFile.isYml (file : RulesFile) : Bool :=
  (extension file.path).getD [] == "yml".toList

section

-- `serde_yaml::from_slice`, up to the map, and the debug text of a path
variable
  (fromSlice : Bytes → Except String (List RuleDefinition))
  (debugPath : Path → String)

/-- The rules of one file. -/
def loadRulesFile (file : RulesFile) :
    Except Error (IndexMap String RuleConfigFile) := do
  let content ←
    file.read.mapError fun err =>
      .config s!"error reading rules file {debugPath file.path}: {err}"
  let definitions ←
    (fromSlice content).mapError fun err =>
      .config s!"error parsing rules file {debugPath file.path}: {err}"
  .ok (.ofEntries definitions)

/-- The loop over the entries of the folder; a step that fails ends it. -/
def loadListed
    (ret : IndexMap String RuleConfigFile) :
    List (Except Unit RulesFile) →
      Except Error (IndexMap String RuleConfigFile)
  | [] =>
      .ok ret
  | .error () :: _ =>
      .ok ret
  | .ok file :: rest =>
      if !file.isYml then
        loadListed ret rest
      else do
        let rules ← loadRulesFile fromSlice debugPath file
        reject ((findDuplicate2 rules.keys ret.keys).map fun name =>
          .config s!"duplicate rule name: {name}")
        loadListed (ret.extend rules.entries) rest

/-- `load_rules`, from the steps of reading the folder. -/
def loadRules
    (readDir : Except Tls.IoError (List (Except Unit RulesFile))) :
    Except Error (IndexMap String RuleConfigFile) :=
  match readDir with
  | .ok steps => loadListed fromSlice debugPath .empty steps
  | .error err =>
      if err.notFound then
        .ok .empty
      else
        .error (.config (
          s!"error reading rules folder {debugPath rulesFolderPath}: " ++
          err.message))

end

/-- The configuration file, with its rules as they are written. -/
structure WrittenConfigFile where
  listeners : IndexMap String ListenerConfigFile
  services : IndexMap String ServiceConfigFile
  rules : List RuleDefinition
  tls : Option TlsConfig
  childProcess : Option ChildProcess

/-- The configuration file as it is deserialized. -/
def WrittenConfigFile.configFile (written : WrittenConfigFile) :
    ConfigFile where
  listeners :=
    written.listeners
  services :=
    written.services
  rules :=
    .ofEntries written.rules
  tls :=
    written.tls
  childProcess :=
    written.childProcess

/-- The files that the loop comes to see. -/
def listedFiles : List (Except Unit RulesFile) → List RulesFile
  | [] =>
      []
  | .error () :: _ =>
      []
  | .ok file :: rest =>
      file :: listedFiles rest

/-- No step of reading the folder failed. -/
def listsAll :
    Except Tls.IoError (List (Except Unit RulesFile)) → Bool
  | .ok steps =>
      steps.all Except.isOk
  | .error err =>
      err.notFound

/--
The rules folder: the steps of reading it, and the files that are in it although
no step before the first one that failed gave them.
-/
structure RulesFolder where
  readDir : Except Tls.IoError (List (Except Unit RulesFile))
  missed : List RulesFile
  complete : listsAll readDir = true → missed = []

namespace RulesFolder

/-- The files that the loop comes to see. -/
def listed (folder : RulesFolder) : List RulesFile :=
  match folder.readDir with
  | .ok steps => listedFiles steps
  | .error _ => []

/-- The files that are in the folder. -/
def files (folder : RulesFolder) : List RulesFile :=
  folder.listed ++ folder.missed

end RulesFolder

end Pingoo
