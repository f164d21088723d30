import CrossArch.Catalog
import CrossArch.Files.Walk
import CrossArch.Rule.File
import CrossArch.Text.Front

/-!
# Loading rules

The rules of a run stand in a directory of rule files:

* `<source>/c/*.json`: tables for source files,
* `<source>/make/*.json`: tables for Makefiles,
* `asm/<destination>.json`: the instructions of the destination.

The tables of a directory are merged in path order, and the first file that cannot be used spoils
the whole directory. A part that cannot be loaded is left out of the catalog and reported as a
warning.
-/

namespace CrossArch

/-- Why a part of the rules cannot be loaded. -/
inductive RulesProblem where
  /-- There is no rule file for the part. -/
  | missing (part : String) (arch : Arch) (place : Path)
  /-- A rule file cannot be read. -/
  | unreadable (path : Path) (error : FileError)
  /-- A rule file does not hold rules. -/
  | malformed (path : Path)
  deriving DecidableEq, Repr

/-- What is wrong with the content of a rule file. -/
def malformedRulesDetail : String :=
  "it does not hold rules of the expected form"

/-- The wording of a problem. -/
def RulesProblem.message : RulesProblem → String
  | missing part arch place => s!"no {part} rules for '{arch.id}' under {place.text}"
  | unreadable path error => s!"cannot read rule file {path.text}: {error.message}"
  | malformed path => s!"rule file {path.text} is not valid: {malformedRulesDetail}"

/-- The content of a rule file. -/
def readRules {α : Type} (tree : FileTree) (decode : List Char → Option α) (path : Path) :
    Except RulesProblem α :=
  match tree.read path with
  | .error error => .error (.unreadable path error)
  | .ok content =>
    match decode content.toList with
    | some rules => .ok rules
    | none => .error (.malformed path)

/-- Merge the tables of files, in the given order, into a table. -/
def mergeFiles (tree : FileTree) (part : String) (table : RuleTable) :
    List Path → Logged (Except RulesProblem RuleTable)
  | [] => pure (.ok table)
  | path :: later => do
    Logged.write .debug .catalog s!"loading {part} rules from {path.text}"
    match readRules tree RuleFile.readTable? path with
    | .error problem => return .error problem
    | .ok next => do
      let merged ← table.merge next
      mergeFiles tree part merged later

/-- The merged table of the rule files of a directory, in whatever order they are listed. -/
def loadTables (tree : FileTree) (part : String) (arch : Arch) (directory : Path)
    (files : List Path) : Logged (Except RulesProblem RuleTable) :=
  if files.isEmpty then pure (.error (.missing part arch directory))
  else mergeFiles tree part .empty (files.mergeSort Path.precedes)

/-- The rule files of a directory. -/
def ruleFilesIn (tree : FileTree) (directory : Path) : List Path :=
  (tree.filesIn directory).filter fun path =>
    path.fileName?.any fun name => Text.endsWith name.toList ['.', 'j', 's', 'o', 'n']

/-- The merged table of a directory. -/
def loadTableDirectory (tree : FileTree) (part : String) (arch : Arch) (directory : Path) :
    Logged (Except RulesProblem RuleTable) :=
  loadTables tree part arch directory (ruleFilesIn tree directory)

/-- The file with the instructions of a destination. -/
def whitelistPath (rules : Path) (dest : Arch) : Path :=
  (rules.join ⟨"asm"⟩).join ⟨dest.id ++ ".json"⟩

/-- The instructions of a destination. -/
def loadWhitelist (tree : FileTree) (path : Path) (dest : Arch) :
    Except RulesProblem Assembly.Whitelist :=
  if tree.isFile path then readRules tree RuleFile.readWhitelist? path
  else .error (.missing "instruction whitelist" dest path)

/-- The name of the tables for source files. -/
def sourcePart : String :=
  "intrinsic"

/-- The name of the tables for Makefiles. -/
def makefilePart : String :=
  "makefile"

/-- The problem of a part that could not be loaded. -/
def problemOf {α : Type} : Except RulesProblem α → List RulesProblem
  | .error problem => [problem]
  | .ok _ => []

/-- Load all rules for a run from one architecture to another. -/
def Catalog.load (tree : FileTree) (rules : Path) (src dest : Arch) : Logged Catalog := do
  let tables := rules.join ⟨src.id⟩
  let source ← loadTableDirectory tree sourcePart src (tables.join ⟨"c"⟩)
  let makefile ← loadTableDirectory tree makefilePart src (tables.join ⟨"make"⟩)
  let whitelist := loadWhitelist tree (whitelistPath rules dest) dest
  let problems := problemOf source ++ problemOf makefile ++ problemOf whitelist
  Catalog.build src dest (source.toOption.getD .empty) (makefile.toOption.getD .empty)
    whitelist.toOption (problems.map RulesProblem.message)

end CrossArch
