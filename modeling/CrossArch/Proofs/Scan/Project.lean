import CrossArch.Proofs.Aggregate
import CrossArch.Scan.Project

/-!
# The report of a project scan

A scan goes through four lists of files and hands an aggregate on from file to file. Each file adds
what it has alone: its findings, its references to libraries, and one to a count. So the report of a
whole run can be read off the lists, and a run that is cancelled reports what a whole run over the
files that it reached would report.
-/

namespace CrossArch

section Contributions

variable (tree : FileTree) (catalog : Catalog) (base : Path)

end Contributions

section Turns

variable {tree : FileTree} {catalog : Catalog} {base : Path} {path : Path}

end Turns

section Runs

variable {tree : FileTree} {catalog : Catalog} {base : Path}

end Runs

/-- What a run has collected when it has been through all its files. -/
def collected (tree : FileTree) (root : Path) (taskId : String) (files : ClassifiedFiles)
    (catalog : Catalog) (cancel : Cancellation) : Aggregate :=
  let base := baseOf tree root
  let started := Aggregate.start taskId root.text
  let sources := (scanSources tree catalog base .cpp cancel.cpp 0 started files.cpp).value
  let headers :=
    (scanSources tree catalog base .header cancel.headers 0 sources files.headers).value
  let makefiles :=
    (scanMakefiles tree catalog base cancel.makefiles 0 headers files.makefiles).value
  addSharedObjects base cancel.sharedObjects 0 makefiles files.sharedObjects

/-- A run reports what it has collected; that it was cancelled shows in the log only. -/
theorem value_scanFiles (tree : FileTree) (root : Path) (taskId : String) (files : ClassifiedFiles)
    (catalog : Catalog) (cancel : Cancellation) :
    (scanFiles tree root taskId files catalog cancel).value =
      (collected tree root taskId files catalog cancel).report catalog := by
  simp only [scanFiles, Logged.value_bind]
  split <;> rfl

section Cancelled

/-- The files of a list, from position `index` on, whose turn comes before the run is cancelled. -/
def reachedBy (cancelled : Nat → Bool) (index : Nat) (paths : List Path) : List Path :=
  ((paths.zipIdx index).filter fun turn => !cancelled turn.2).map Prod.fst

/-- The files of a list, from position `index` on, up to the first whose turn comes too late. -/
def reachedUntil (cancelled : Nat → Bool) (index : Nat) (paths : List Path) : List Path :=
  ((paths.zipIdx index).takeWhile fun turn => !cancelled turn.2).map Prod.fst

/-- The files that a run reaches before it is cancelled. -/
def ClassifiedFiles.reached (files : ClassifiedFiles) (cancel : Cancellation) :
    ClassifiedFiles where
  cpp := reachedBy cancel.cpp 0 files.cpp
  headers := reachedBy cancel.headers 0 files.headers
  makefiles := reachedBy cancel.makefiles 0 files.makefiles
  sharedObjects := reachedUntil cancel.sharedObjects 0 files.sharedObjects

theorem reachedBy_cons (cancelled : Nat → Bool) (index : Nat) (path : Path) (later : List Path) :
    reachedBy cancelled index (path :: later) =
      if cancelled index then reachedBy cancelled (index + 1) later
      else path :: reachedBy cancelled (index + 1) later := by
  rw [reachedBy, List.zipIdx_cons, List.filter_cons]
  cases cancelled index <;> rfl

theorem reachedUntil_cons (cancelled : Nat → Bool) (index : Nat) (path : Path)
    (later : List Path) :
    reachedUntil cancelled index (path :: later) =
      if cancelled index then [] else path :: reachedUntil cancelled (index + 1) later := by
  rw [reachedUntil, List.zipIdx_cons, List.takeWhile_cons]
  cases cancelled index <;> rfl

theorem reachedBy_sublist (cancelled : Nat → Bool) (index : Nat) (paths : List Path) :
    (reachedBy cancelled index paths).Sublist paths := by
  have sublist := (List.filter_sublist (p := fun turn => !cancelled turn.2)
    (l := paths.zipIdx index)).map Prod.fst
  rwa [List.zipIdx_map_fst] at sublist

theorem reachedUntil_prefix (cancelled : Nat → Bool) (index : Nat) (paths : List Path) :
    reachedUntil cancelled index paths <+: paths := by
  have front := (List.takeWhile_prefix (fun turn => !cancelled turn.2)
    (l := paths.zipIdx index)).map Prod.fst
  rwa [List.zipIdx_map_fst] at front

variable {tree : FileTree} {catalog : Catalog} {base : Path}

/-- A file whose turn comes too late leaves the aggregate as it is. -/
theorem value_scanSources_cancelled (category : FileCategory) (cancelled : Nat → Bool)
    (index other : Nat) (aggregate : Aggregate) (paths : List Path) :
    (scanSources tree catalog base category cancelled index aggregate paths).value =
      (scanSources tree catalog base category (fun _ => false) other aggregate
        (reachedBy cancelled index paths)).value := by
  induction paths generalizing index other aggregate with
  | nil => rfl
  | cons path later ih =>
      rw [scanSources, Logged.value_bind, reachedBy_cons]
      cases cancelled index with
      | true => exact ih (index + 1) other aggregate
      | false => exact ih (index + 1) (other + 1) _

theorem value_scanMakefiles_cancelled (cancelled : Nat → Bool) (index other : Nat)
    (aggregate : Aggregate) (paths : List Path) :
    (scanMakefiles tree catalog base cancelled index aggregate paths).value =
      (scanMakefiles tree catalog base (fun _ => false) other aggregate
        (reachedBy cancelled index paths)).value := by
  induction paths generalizing index other aggregate with
  | nil => rfl
  | cons path later ih =>
      rw [scanMakefiles, Logged.value_bind, reachedBy_cons]
      cases cancelled index with
      | true => exact ih (index + 1) other aggregate
      | false => exact ih (index + 1) (other + 1) _

/-- Once a shared object comes too late, so do all behind it. -/
theorem addSharedObjects_cancelled (cancelled : Nat → Bool) (index other : Nat)
    (aggregate : Aggregate) (paths : List Path) :
    addSharedObjects base cancelled index aggregate paths =
      addSharedObjects base (fun _ => false) other aggregate
        (reachedUntil cancelled index paths) := by
  induction paths generalizing index other aggregate with
  | nil => rfl
  | cons path later ih =>
      rw [addSharedObjects, reachedUntil_cons]
      cases cancelled index with
      | true => rfl
      | false => exact ih (index + 1) (other + 1) _

end Cancelled

/--
A cancelled scan is an exact partial scan. Whichever files have their turn before the run is
cancelled, the report is that of a run over just these files which is never cancelled; of each list
of texts they are a part in order, and of the shared objects a front.
-/
theorem cancelled_scan_eq_partial_scan (tree : FileTree) (root : Path) (taskId : String)
    (files : ClassifiedFiles) (catalog : Catalog) (cancel : Cancellation) :
    (scanFiles tree root taskId files catalog cancel).value =
        (scanFiles tree root taskId (files.reached cancel) catalog .never).value ∧
      (files.reached cancel).cpp.Sublist files.cpp ∧
      (files.reached cancel).headers.Sublist files.headers ∧
      (files.reached cancel).makefiles.Sublist files.makefiles ∧
      (files.reached cancel).sharedObjects <+: files.sharedObjects := by
  refine ⟨?_, reachedBy_sublist _ _ _, reachedBy_sublist _ _ _, reachedBy_sublist _ _ _,
    reachedUntil_prefix _ _ _⟩
  rw [value_scanFiles, value_scanFiles]
  simp only [collected, ClassifiedFiles.reached, Cancellation.never]
  rw [value_scanSources_cancelled .cpp cancel.cpp 0 0,
    value_scanSources_cancelled .header cancel.headers 0 0,
    value_scanMakefiles_cancelled cancel.makefiles 0 0,
    addSharedObjects_cancelled cancel.sharedObjects 0 0]

end CrossArch
