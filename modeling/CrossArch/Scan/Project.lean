import CrossArch.Aggregate
import CrossArch.Files.Classify
import CrossArch.Scan.Makefile

/-!
# Scanning a project

The files of a project are scanned one by one and their contributions put together in the order of
the files: sources, headers, Makefiles, shared objects. A file that cannot be read as text is
skipped. A run may be cancelled: a file whose turn comes after that contributes nothing and counts
nowhere.
-/

namespace CrossArch

/-- A file that cannot be scanned. -/
structure ScanProblem where
  path : Path
  error : FileError
  deriving DecidableEq, Repr

/-- The wording of a problem. -/
def ScanProblem.message (problem : ScanProblem) : String :=
  match problem.error with
  | .notText => s!"{problem.path.text} is not valid UTF-8; only utf-8 sources are supported"
  | error => s!"cannot read {problem.path.text}: {error.message}"

/-- The text of a file to scan. -/
def readSource (tree : FileTree) (path : Path) : Except ScanProblem String :=
  match tree.read path with
  | .ok content => .ok content
  | .error error => .error ⟨path, error⟩

/-- For each file, by its position in its list, whether its turn comes after the run is
cancelled. -/
structure Cancellation where
  cpp : Nat → Bool
  headers : Nat → Bool
  makefiles : Nat → Bool
  sharedObjects : Nat → Bool
  /-- Whether the run is cancelled by its end. -/
  byEnd : Bool

namespace Cancellation

/-- The run is never cancelled. -/
def never : Cancellation :=
  ⟨fun _ => false, fun _ => false, fun _ => false, fun _ => false, false⟩

/-- The run is cancelled before it starts. -/
def always : Cancellation :=
  ⟨fun _ => true, fun _ => true, fun _ => true, fun _ => true, true⟩

end Cancellation

/-- What comes of the turn of a file. -/
inductive Outcome (α : Type) where
  | cancelled
  | skipped
  | done (result : α)

/-- The turn of a file. -/
def takeTurn {α : Type} (tree : FileTree) (path : Path) (cancelled : Bool)
    (scan : List Char → Logged α) : Logged (Outcome α) :=
  if cancelled then pure .cancelled
  else do
    Logged.write .debug .scan s!"scanning {path.text}"
    match readSource tree path with
    | .ok content => return .done (← scan content.toList)
    | .error problem => do
      Logged.write .error .scan problem.message
      return .skipped

/-- Add the outcome of a source file. -/
def Aggregate.addSource (aggregate : Aggregate) : Outcome (List Finding) → Aggregate
  | .cancelled => aggregate
  | .skipped => aggregate.skip
  | .done findings => aggregate.extend findings

/-- Add the outcome of a Makefile, called by the name under which it is shown. -/
def Aggregate.addMakefile (aggregate : Aggregate) (shown : String) :
    Outcome MakefileScan → Aggregate
  | .cancelled => aggregate
  | .skipped => aggregate.skip
  | .done scan => (aggregate.addLibraries scan.libraries shown .makefile).2.extend scan.findings

/-- Scan source files of one category, from position `index` on. -/
def scanSources (tree : FileTree) (catalog : Catalog) (base : Path) (category : FileCategory)
    (cancelled : Nat → Bool) (index : Nat) (aggregate : Aggregate) : List Path → Logged Aggregate
  | [] => pure aggregate
  | path :: later => do
    let outcome ← takeTurn tree path (cancelled index) fun text =>
      scanSource catalog text (path.shownFrom base) category
    scanSources tree catalog base category cancelled (index + 1) (aggregate.addSource outcome) later

/-- Scan Makefiles, from position `index` on. -/
def scanMakefiles (tree : FileTree) (catalog : Catalog) (base : Path) (cancelled : Nat → Bool)
    (index : Nat) (aggregate : Aggregate) : List Path → Logged Aggregate
  | [] => pure aggregate
  | path :: later => do
    let shown := path.shownFrom base
    let outcome ← takeTurn tree path (cancelled index) fun text => scanMakefile catalog text shown
    scanMakefiles tree catalog base cancelled (index + 1)
      (aggregate.addMakefile shown outcome) later

/-- Add shared objects, from position `index` on, until the run is cancelled. -/
def addSharedObjects (base : Path) (cancelled : Nat → Bool) (index : Nat) (aggregate : Aggregate) :
    List Path → Aggregate
  | [] => aggregate
  | path :: later =>
    if cancelled index then aggregate
    else
      let next := match path.fileName? with
        | none => aggregate
        | some name => (aggregate.addLibrary name (path.shownFrom base) .sharedObject).2.extend []
      addSharedObjects base cancelled (index + 1) next later

/-- The directory from which the files of a run are shown. -/
def baseOf (tree : FileTree) (root : Path) : Path :=
  if tree.isFile root then root.parent?.getD root else root

/-- Scan classified files. -/
def scanFiles (tree : FileTree) (root : Path) (taskId : String) (files : ClassifiedFiles)
    (catalog : Catalog) (cancel : Cancellation) : Logged Report := do
  let base := baseOf tree root
  Logged.write .info .scan
    s!"task {taskId}: scanning {root.text} ({catalog.src.id} -> {catalog.dest.id})"
  let aggregate := Aggregate.start taskId root.text
  let aggregate ← scanSources tree catalog base .cpp cancel.cpp 0 aggregate files.cpp
  let aggregate ← scanSources tree catalog base .header cancel.headers 0 aggregate files.headers
  let aggregate ← scanMakefiles tree catalog base cancel.makefiles 0 aggregate files.makefiles
  let aggregate := addSharedObjects base cancel.sharedObjects 0 aggregate files.sharedObjects
  if cancel.byEnd then Logged.write .warn .scan "scan cancelled; the report is partial"
  aggregate.finish catalog

/-- Scan the files below a root. -/
def scanProject (tree : FileTree) (root : Path) (taskId : String) (excludes : List Exclude)
    (catalog : Catalog) (cancel : Cancellation) : Logged Report := do
  let files ← classifyTree tree root excludes
  scanFiles tree root taskId files catalog cancel

end CrossArch
