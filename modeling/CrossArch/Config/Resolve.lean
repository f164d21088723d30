import CrossArch.Architecture
import CrossArch.Config.File
import CrossArch.Files.Exclude
import CrossArch.Files.Tree
import CrossArch.Report.Render

/-!
# The settings of a run

A setting on the command line wins over the configuration file, and that over the default. The file
is looked for from the place of the scan upwards; the search ends at the first directory that holds
one or is the top of a git repository. Paths in the file are meant from its own directory.
-/

namespace CrossArch

/-- Why a run has no settings. -/
inductive ConfigProblem where
  | unknownArch (name : String)
  | unknownOutput (name : String)
  | sameArch (arch : Arch)
  | invalidFile (path : Path) (detail : String)
  deriving DecidableEq, Repr

/-- The wording of a problem. -/
def ConfigProblem.message : ConfigProblem → String
  | unknownArch name =>
    s!"unsupported architecture '{name}' (expected one of: " ++
      ", ".intercalate (Arch.all.map Arch.id) ++ ")"
  | unknownOutput name => s!"invalid output mode '{name}' (expected human, json or csv)"
  | sameArch arch => s!"source and destination architecture are both '{arch.id}'"
  | invalidFile path detail => s!"cannot load {path.text}: {detail}"

namespace ConfigFile

/-- The names of configuration files, in the order in which they are tried. -/
def names : List String :=
  ["archport.toml", "archport.yaml", "archport.yml"]

/-- What is wrong with a file that can be read but not understood. -/
def malformedDetail : String :=
  "not a valid configuration"

/-- The settings in the text of a file, in the language that the name of the file says. -/
def parse? (name : String) (text : List Char) : Option ConfigFile :=
  if name.endsWith ".toml" then (Toml.read? text).bind ofToml? else (Yaml.read? text).bind ofYaml?

/-- Load a configuration file. -/
def loadFile (tree : FileTree) (path : Path) (name : String) : Except ConfigProblem ConfigFile :=
  match tree.read path with
  | .error error => .error (.invalidFile path error.message)
  | .ok content =>
    match parse? name content.toList with
    | some config => .ok config
    | none => .error (.invalidFile path malformedDetail)

/-- Load the configuration file of a directory, if there is one. -/
def load (tree : FileTree) (directory : Path) : Except ConfigProblem (Option ConfigFile) :=
  match names.find? fun name => tree.exists? (directory.join ⟨name⟩) with
  | none => .ok none
  | some name => (loadFile tree (directory.join ⟨name⟩) name).map some

/-- Whether the search for a configuration file ends at a directory. -/
def endsSearch (tree : FileTree) (directory : Path) : Bool :=
  (names ++ [".git"]).any fun name => tree.exists? (directory.join ⟨name⟩)

/-- The directory where the search upwards from a place ends; without an end, the place itself. -/
def projectRoot (tree : FileTree) (start : Path) : Path :=
  (start.ancestors.find? (endsSearch tree)).getD start

end ConfigFile

/-- What the command line asks for. -/
structure ScanRequest where
  root : Option String
  srcArch : Option String
  destArch : Option String
  rules : Option String
  output : Option String
  reportDirectory : Option String
  taskId : Option String
  exclude : List String
  deriving DecidableEq, Repr

/-- The settings of a run. -/
structure ScanSettings where
  root : Path
  configRoot : Path
  configFound : Bool
  srcArch : Arch
  destArch : Arch
  rules : Path
  output : OutputMode
  reportDirectory : Option Path
  taskId : Option String
  exclude : List String
  deriving DecidableEq, Repr

namespace ScanSettings

/-- The architecture of a name. -/
def archNamed (name : String) : Except ConfigProblem Arch :=
  match Arch.ofName? name with
  | some arch => .ok arch
  | none => .error (.unknownArch name)

/-- The output mode of a name. -/
def outputNamed (name : String) : Except ConfigProblem OutputMode :=
  match OutputMode.ofName? name with
  | some mode => .ok mode
  | none => .error (.unknownOutput name)

/-- Where the search for a configuration file starts: at the directory to scan, or at that of the
file to scan. -/
def searchStart (tree : FileTree) (root : Path) : Path :=
  match root.parent? with
  | some parent =>
    if tree.isFile root then if parent.text = "" then ⟨"."⟩ else parent
    else root
  | none => root

/-- The settings of a run that is asked for. -/
def resolve (tree : FileTree) (request : ScanRequest) : Except ConfigProblem ScanSettings := do
  let root : Path := ⟨request.root.getD "."⟩
  let configRoot := ConfigFile.projectRoot tree (searchStart tree root)
  let loaded ← ConfigFile.load tree configRoot
  let config := loaded.getD .empty
  let srcArch ← archNamed ((request.srcArch <|> config.srcArch).getD Arch.x86_64.id)
  let destArch ← archNamed ((request.destArch <|> config.destArch).getD Arch.arm64.id)
  if srcArch = destArch then throw (.sameArch srcArch)
  let output ← outputNamed ((request.output <|> config.output).getD OutputMode.human.name)
  let rules : Path := match request.rules with
    | some rules => ⟨rules⟩
    | none => if loaded.isSome then configRoot.join ⟨config.rules.getD "rules"⟩ else ⟨"rules"⟩
  let reportDirectory := match request.reportDirectory with
    | some directory => some ⟨directory⟩
    | none => config.reportDirectory.map fun directory => configRoot.join ⟨directory⟩
  let exclude :=
    if request.exclude.isEmpty then config.exclude.getD Exclude.defaultPatterns
    else request.exclude
  return ⟨root, configRoot, loaded.isSome, srcArch, destArch, rules, output, reportDirectory,
    request.taskId, exclude⟩

end ScanSettings

end CrossArch
