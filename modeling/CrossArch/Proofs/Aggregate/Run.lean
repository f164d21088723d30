import CrossArch.Proofs.Aggregate

/-!
# Runs of an aggregate

A run extends an aggregate by the findings of files, counts files that are skipped and adds
references to libraries, in any order. What it leaves is told by its operations alone: the findings
in order, the first reference to each library, and how many operations of each kind there were.
Libraries are reported behind all findings, so it makes no difference when their references were
added.
-/

namespace CrossArch.Aggregate

/-- What can be done with an aggregate. -/
inductive Operation where
  | extend (findings : List Finding)
  | skip
  | addLibrary (name file : String) (category : FileCategory)
  deriving DecidableEq, Repr

namespace Operation

/-- The findings that an operation adds. -/
def findings : Operation → List Finding
  | extend findings => findings
  | skip => []
  | addLibrary _ _ _ => []

/-- The reference to a library that an operation adds. -/
def reference? : Operation → Option LibraryReference
  | extend _ => none
  | skip => none
  | addLibrary name file category => some ⟨name, file, category⟩

def isExtend : Operation → Bool
  | extend _ => true
  | skip => false
  | addLibrary _ _ _ => false

def isSkip : Operation → Bool
  | extend _ => false
  | skip => true
  | addLibrary _ _ _ => false

def isAddLibrary : Operation → Bool
  | extend _ => false
  | skip => false
  | addLibrary _ _ _ => true

/-- The references that operations add, in order. -/
def references (operations : List Operation) : List LibraryReference :=
  operations.filterMap reference?

end Operation

open Operation

/-- Perform an operation. The answer of an added reference says whether the library is new. -/
def perform (aggregate : Aggregate) : Operation → Option Bool × Aggregate
  | .extend findings => (none, aggregate.extend findings)
  | .skip => (none, aggregate.skip)
  | .addLibrary name file category =>
    let (new, next) := aggregate.addLibrary name file category
    (some new, next)

/-- Perform operations one after the other; the answers are in the order of the operations. -/
def performAll (aggregate : Aggregate) : List Operation → List (Option Bool) × Aggregate
  | [] => ([], aggregate)
  | operation :: later =>
    let (answer, next) := aggregate.perform operation
    let (answers, last) := next.performAll later
    (answer :: answers, last)

/-- The report of a run that performs operations and collects nothing else. -/
def reportOf (taskId root : String) (catalog : Catalog) (operations : List Operation) : Report :=
  (((start taskId root).performAll operations).2.finish catalog).value

section Run

variable (aggregate : Aggregate)

theorem perform_snd (operation : Operation) :
    (aggregate.perform operation).2 =
      { aggregate with
        findings := aggregate.findings ++ operation.findings
        libraries := operation.reference?.toList.foldl LibraryRegister.take aggregate.libraries
        scanned := aggregate.scanned + [operation].countP isExtend
        skipped := aggregate.skipped + [operation].countP isSkip } := by
  cases operation with
  | extend findings => rfl
  | skip => simp [perform, Aggregate.skip, Operation.findings, reference?, isExtend, isSkip]
  | addLibrary name file category =>
      simp [perform, Aggregate.addLibrary, LibraryRegister.take, Operation.findings, reference?,
        isExtend, isSkip]

/-- What an aggregate holds after operations. -/
theorem performAll_snd (operations : List Operation) :
    (aggregate.performAll operations).2 =
      { aggregate with
        findings := aggregate.findings ++ operations.flatMap Operation.findings
        libraries := (references operations).foldl LibraryRegister.take aggregate.libraries
        scanned := aggregate.scanned + operations.countP isExtend
        skipped := aggregate.skipped + operations.countP isSkip } := by
  induction operations generalizing aggregate with
  | nil => simp [performAll, references]
  | cons operation later ih =>
      have split : references (operation :: later) =
          operation.reference?.toList ++ references later := by
        cases added : operation.reference? <;> simp [references, added]
      simp only [performAll, ih, perform_snd, split, List.flatMap_cons, List.append_assoc,
        List.foldl_append, List.countP_cons, List.countP_nil]
      congr 1 <;> omega

/-- The answer to a reference says whether the earlier operations have left its library unknown. -/
theorem performAll_fst (operations : List Operation) :
    (aggregate.performAll operations).1 =
      operations.mapIdx fun index operation => operation.reference?.map fun reference =>
        !(aggregate.performAll (operations.take index)).2.libraries.knows reference.name := by
  induction operations generalizing aggregate with
  | nil => rfl
  | cons operation later ih =>
      simp only [performAll, ih, List.mapIdx_cons, List.take_succ_cons, List.take_zero]
      congr 1
      cases operation with
      | extend findings => rfl
      | skip => rfl
      | addLibrary name file category =>
          cases known : aggregate.libraries.knows name <;>
            simp [perform, addLibrary, LibraryRegister.add, known, reference?]

end Run

section Report

variable (taskId root : String) (catalog : Catalog) (operations : List Operation)

theorem libraries_performAll_start :
    ((start taskId root).performAll operations).2.libraries.references =
      firstReferences (references operations) := by
  rw [performAll_snd]
  exact LibraryRegister.references_foldl_take (references operations)

theorem knows_performAll_start (name : String) :
    ((start taskId root).performAll operations).2.libraries.knows name =
      decide (name ∈ (references operations).map LibraryReference.name) := by
  rw [Bool.eq_iff_iff, LibraryRegister.knows_iff, libraries_performAll_start, decide_eq_true_iff]
  exact mem_names_firstReferences name

/-- The report of a run in terms of its operations. -/
theorem reportOf_eq :
    reportOf taskId root catalog operations =
      let findings := operations.flatMap Operation.findings ++
        (firstReferences (references operations)).map (libraryFinding catalog)
      ⟨taskId, root, catalog.src.id, catalog.dest.id, findings,
        ⟨operations.countP isExtend, operations.countP isSkip, findings.length⟩,
        catalog.warnings⟩ := by
  have libraries := libraries_performAll_start taskId root operations
  simp only [reportOf, finish, Logged.value_bind, Logged.value_pure, report, libraries]
  simp [performAll_snd, start]

end Report

section Interleaving

/-- The operations that add a reference to a library. -/
def libraryOperations (operations : List Operation) : List Operation :=
  operations.filter isAddLibrary

/-- The operations that add the findings of a file or skip one. -/
def fileOperations (operations : List Operation) : List Operation :=
  operations.filter fun operation => !operation.isAddLibrary

variable (operations : List Operation)

theorem references_libraryOperations :
    references (libraryOperations operations) = references operations := by
  rw [references, libraryOperations, List.filterMap_filter]
  apply List.filterMap_congr
  intro operation _
  cases operation <;> rfl

theorem flatMap_findings_fileOperations :
    (fileOperations operations).flatMap Operation.findings =
      operations.flatMap Operation.findings := by
  induction operations with
  | nil => rfl
  | cons operation later ih =>
      cases operation with
      | extend findings => exact congrArg (findings ++ ·) ih
      | skip => exact ih
      | addLibrary name file category => exact ih

theorem countP_fileOperations {kind : Operation → Bool}
    (ofFile : ∀ operation, kind operation = true → operation.isAddLibrary = false) :
    (fileOperations operations).countP kind = operations.countP kind := by
  rw [fileOperations, List.countP_filter]
  apply List.countP_congr
  intro operation _
  specialize ofFile operation
  cases isKind : kind operation <;> simp_all

theorem countP_isExtend_fileOperations :
    (fileOperations operations).countP isExtend = operations.countP isExtend := by
  apply countP_fileOperations
  intro operation
  cases operation <;> simp [isExtend, isAddLibrary]

theorem countP_isSkip_fileOperations :
    (fileOperations operations).countP isSkip = operations.countP isSkip := by
  apply countP_fileOperations
  intro operation
  cases operation <;> simp [isSkip, isAddLibrary]

end Interleaving

/--
The answers and the report of a run in terms of its operations. A library is new to the first
operation that refers to it. The findings of files come in order, and behind them one finding for
each library, in the order of the first references and with the file and the category of that
reference. Files are counted by the operations about them, and findings by the list itself. So the
report stays the same when references are added at other times between the operations about files.
-/
theorem run_of_operations (taskId root : String) (catalog : Catalog)
    (operations : List Operation) :
    ((start taskId root).performAll operations).1 =
        (operations.mapIdx fun index operation => operation.reference?.map fun reference =>
          decide (reference.name ∉
            (references (operations.take index)).map LibraryReference.name)) ∧
      (reportOf taskId root catalog operations).findings =
        operations.flatMap Operation.findings ++
          (firstReferences (references operations)).map (fun library =>
            ⟨library.file, none, library.name, catalog.librarySuggestion library.name,
              library.category⟩) ∧
      (reportOf taskId root catalog operations).summary =
        ⟨operations.countP isExtend, operations.countP isSkip,
          (reportOf taskId root catalog operations).findings.length⟩ ∧
      ∀ others, libraryOperations others = libraryOperations operations →
        fileOperations others = fileOperations operations →
          reportOf taskId root catalog others = reportOf taskId root catalog operations := by
  refine ⟨?_, ?_, ?_, ?_⟩
  · simp only [performAll_fst, knows_performAll_start, decide_not]
  · rw [reportOf_eq]
    rfl
  · rw [reportOf_eq]
  · intro others sameLibraries sameFiles
    rw [reportOf_eq, reportOf_eq, ← references_libraryOperations others,
      ← flatMap_findings_fileOperations others, ← countP_isExtend_fileOperations others,
      ← countP_isSkip_fileOperations others, sameLibraries, sameFiles,
      references_libraryOperations, flatMap_findings_fileOperations,
      countP_isExtend_fileOperations, countP_isSkip_fileOperations]

/-- A library of a Makefile that is found again as a shared object, with files in between. -/
def mixedOperations : List Operation :=
  [.addLibrary "libm.so" "Makefile" .makefile,
    .extend [⟨"a.c", some ⟨3, 3⟩, "_mm_pause", "Use yield.", .cpp⟩],
    .addLibrary "libm.so" "lib/libm.so" .sharedObject, .skip]

/-- The same operations, with the references behind the files. -/
def gatheredOperations : List Operation :=
  [.extend [⟨"a.c", some ⟨3, 3⟩, "_mm_pause", "Use yield.", .cpp⟩], .skip,
    .addLibrary "libm.so" "Makefile" .makefile,
    .addLibrary "libm.so" "lib/libm.so" .sharedObject]

theorem run_of_operations_mixed :
    libraryOperations gatheredOperations = libraryOperations mixedOperations ∧
      fileOperations gatheredOperations = fileOperations mixedOperations ∧
      reportOf "1" "." ⟨.x86_64, .arm64, .empty, .empty, none, []⟩ gatheredOperations =
        reportOf "1" "." ⟨.x86_64, .arm64, .empty, .empty, none, []⟩ mixedOperations := by
  have libraries : libraryOperations gatheredOperations = libraryOperations mixedOperations := by
    decide
  have files : fileOperations gatheredOperations = fileOperations mixedOperations := by
    decide
  have same := (run_of_operations "1" "." ⟨.x86_64, .arm64, .empty, .empty, none, []⟩
    mixedOperations).2.2.2
  exact ⟨libraries, files, same gatheredOperations libraries files⟩

end CrossArch.Aggregate
