import CrossArch.Catalog
import CrossArch.Finding

/-!
# Aggregates

An aggregate collects what the files of a run contribute. Findings stay in the order in which files
are added; a library counts once, for the first file that refers to it, and is reported at the end.
-/

namespace CrossArch

/-- The first reference to a library. -/
structure LibraryReference where
  name : String
  file : String
  category : FileCategory
  deriving DecidableEq, Repr

/-- The libraries of a run: the first reference to each of them, in order, and the names seen. -/
structure LibraryRegister where
  references : List LibraryReference
  seen : List String
  /-- The names seen are those of the references. -/
  mem_seen_iff : ∀ name, name ∈ seen ↔ name ∈ references.map LibraryReference.name
  deriving DecidableEq, Repr

namespace LibraryRegister

/-- A register without libraries. -/
def empty : LibraryRegister :=
  ⟨[], [], by simp⟩

/-- Whether a library has been referred to. -/
def knows (register : LibraryRegister) (name : String) : Bool :=
  register.seen.contains name

/-- Take a reference unless its library is known; the result says whether the library is new. -/
def add (register : LibraryRegister) (reference : LibraryReference) : Bool × LibraryRegister :=
  if register.knows reference.name then (false, register)
  else
    (true,
      { references := register.references ++ [reference]
        seen := reference.name :: register.seen
        mem_seen_iff := by
          intro name
          simp [register.mem_seen_iff, or_comm] })

end LibraryRegister

/-- What a run has collected so far. -/
structure Aggregate where
  taskId : String
  root : String
  findings : List Finding
  libraries : LibraryRegister
  scanned : Nat
  skipped : Nat
  deriving DecidableEq, Repr

namespace Aggregate

/-- A run that has collected nothing. -/
def start (taskId root : String) : Aggregate :=
  ⟨taskId, root, [], .empty, 0, 0⟩

/-- Add the findings of a scanned file. -/
def extend (aggregate : Aggregate) (findings : List Finding) : Aggregate :=
  { aggregate with
    findings := aggregate.findings ++ findings
    scanned := aggregate.scanned + 1 }

/-- Count a file that could not be scanned. -/
def skip (aggregate : Aggregate) : Aggregate :=
  { aggregate with skipped := aggregate.skipped + 1 }

/-- Add a reference to a library; the result says whether the library is new. -/
def addLibrary (aggregate : Aggregate) (name file : String) (category : FileCategory) :
    Bool × Aggregate :=
  let (new, libraries) := aggregate.libraries.add ⟨name, file, category⟩
  (new, { aggregate with libraries := libraries })

/-- Add several references from one file; the result says for each whether it is new. -/
def addLibraries (aggregate : Aggregate) (names : List String) (file : String)
    (category : FileCategory) : List Bool × Aggregate :=
  names.foldl
    (fun (known, current) name =>
      let (new, next) := current.addLibrary name file category
      (known ++ [new], next))
    ([], aggregate)

/-- The finding about a library. -/
def libraryFinding (catalog : Catalog) (library : LibraryReference) : Finding :=
  ⟨library.file, none, library.name, catalog.librarySuggestion library.name, library.category⟩

/-- The report of a run that collects nothing more. -/
def report (aggregate : Aggregate) (catalog : Catalog) : Report :=
  let findings := aggregate.findings ++ aggregate.libraries.references.map (libraryFinding catalog)
  { taskId := aggregate.taskId
    root := aggregate.root
    srcArch := catalog.src.id
    destArch := catalog.dest.id
    findings := findings
    summary := ⟨aggregate.scanned, aggregate.skipped, findings.length⟩
    warnings := catalog.warnings }

/-- The report of a run, with a message about its counts. -/
def finish (aggregate : Aggregate) (catalog : Catalog) : Logged Report := do
  let report := aggregate.report catalog
  Logged.write .info .aggregate
    (s!"task {report.taskId}: {report.summary.findings} findings in " ++
      s!"{report.summary.scanned} files ({report.summary.skipped} skipped)")
  return report

end Aggregate

end CrossArch
