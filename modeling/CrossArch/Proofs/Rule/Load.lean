import CrossArch.Proofs.Files.Subtree
import CrossArch.Rule.Load
import Mathlib.Data.String.Basic

/-!
# The table of a directory

The rule files of a directory are merged in the order of their names, so the table that they give
depends on the names and contents of the files alone. Two directories with the same subtree give the
same table or both give none, however the directories are called and wherever they stand. The paths
show only in messages.
-/

namespace CrossArch

open FileTree

section Sorting

/-- The order of names in a directory. -/
def nameBefore (name other : String) : Bool :=
  (compare name other).isLE

theorem nameBefore_trans {name other third : String} (first : nameBefore name other = true)
    (second : nameBefore other third = true) : nameBefore name third = true :=
  Std.TransCmp.isLE_trans first second

theorem nameBefore_total (name other : String) :
    (nameBefore name other || nameBefore other name) = true := by
  have swapped : compare other name = (compare name other).swap := Std.OrientedCmp.eq_swap
  rw [nameBefore, nameBefore, swapped]
  cases compare name other <;> rfl

theorem nameBefore_antisymm {name other : String} (first : nameBefore name other = true)
    (second : nameBefore other name = true) : name = other :=
  Std.LawfulEqCmp.eq_of_compare (Std.OrientedCmp.isLE_antisymm first second)

/-- Names that are listed in another order are sorted into the same list. -/
theorem mergeSort_of_perm {names names' : List String} (perm : names.Perm names') :
    names.mergeSort nameBefore = names'.mergeSort nameBefore := by
  have sorted (names : List String) :
      (names.mergeSort nameBefore).Pairwise fun name other => nameBefore name other = true := by
    apply List.pairwise_mergeSort
    · intro name other third
      exact nameBefore_trans
    · exact nameBefore_total
  refine List.Perm.eq_of_pairwise ?_ (sorted names) (sorted names') ?_
  · intro name other _ _
    exact nameBefore_antisymm
  · exact (List.mergeSort_perm names _).trans (perm.trans (List.mergeSort_perm names' _).symm)

end Sorting

section Merging

/-- Merge the table that a text holds into a table, if it holds one. -/
def mergeText? (table : RuleTable) (content : Except FileError String) : Option RuleTable := do
  let content ← content.toOption
  let next ← RuleFile.readTable? content.toList
  return (table.merge next).value

theorem toOption_mergeFiles (tree : FileTree) (part : String) (paths : List Path)
    (table : RuleTable) :
    (mergeFiles tree part table paths).value.toOption =
      (paths.map tree.read).foldlM mergeText? table := by
  induction paths generalizing table with
  | nil => rfl
  | cons path later ih =>
      rw [mergeFiles, List.map_cons, List.foldlM_cons, mergeText?, readRules]
      cases tree.read path with
      | error error => rfl
      | ok content =>
          cases decoded : RuleFile.readTable? content.toList with
          | none => simp [decoded, Except.toOption]
          | some next => simpa [decoded, Except.toOption] using ih (table.merge next).value

/-- The table of files that are merged in the order of their names; none if there are no files. -/
def mergedTable? (read : String → Except FileError String) (names : List String) :
    Option RuleTable :=
  if names.isEmpty then none
  else ((names.mergeSort nameBefore).map read).foldlM mergeText? .empty

theorem mergedTable?_of_perm {names names' : List String} (perm : names.Perm names')
    (read : String → Except FileError String) :
    mergedTable? read names = mergedTable? read names' := by
  rw [mergedTable?, mergedTable?, mergeSort_of_perm perm, perm.isEmpty_eq]

end Merging

section Directory

variable {tree tree' : FileTree} {directory directory' : Path} {place place' : Place}

/-- The names of the rule files that stand at a place itself. -/
def ruleNames (tree : FileTree) (place : Place) : List String :=
  (tree.fileNames place).filter fun name => Text.endsWith name.toList ['.', 'j', 's', 'o', 'n']

/-- The table of a directory, by what stands in it. -/
theorem toOption_loadTableDirectory (proper : tree.IsProper)
    (named : directory.emptyAfterDots = false) (leads : tree.resolve directory = .ok place)
    (isDirectory : tree.nodeAt? place = some .directory) (part : String) (arch : Arch) :
    (loadTableDirectory tree part arch directory).value.toOption =
      mergedTable? (fun name => readEntry name (tree.nodeAt? (place ++ [name])))
        (ruleNames tree place) := by
  rcases exists_enter? named leads isDirectory with ⟨entered, enters, enteredLeads⟩
  have nonempty := nonempty_of_resolve enteredLeads
  have isName : ∀ name ∈ ruleNames tree place, IsName name := by
    intro name mem
    exact isName_of_mem_fileNames proper (List.mem_of_mem_filter mem)
  have files : ruleFilesIn tree directory = (ruleNames tree place).map (entryPath entered) := by
    rw [ruleFilesIn, filesIn_eq enters enteredLeads, List.filter_map, ruleNames]
    apply congrArg
    apply List.filter_congr
    intro name mem
    have isName := isName_of_mem_fileNames proper mem
    simp [fileName?_entryPath nonempty isName]
  rw [loadTableDirectory, loadTables, files, mergedTable?, List.isEmpty_map]
  split
  · rfl
  · have sorted : ((ruleNames tree place).map (entryPath entered)).mergeSort Path.precedes =
        ((ruleNames tree place).mergeSort nameBefore).map (entryPath entered) := by
      symm
      apply List.map_mergeSort
      intro name mem other otherMem
      rw [precedes_entryPath nonempty (isName name mem) (isName other otherMem), nameBefore]
    have contents : (((ruleNames tree place).mergeSort nameBefore).map (entryPath entered)).map
          tree.read =
        ((ruleNames tree place).mergeSort nameBefore).map fun name =>
          readEntry name (tree.nodeAt? (place ++ [name])) := by
      rw [List.map_map]
      apply List.map_congr_left
      intro name mem
      exact read_entryPath (isName name (List.mem_mergeSort.1 mem)) enteredLeads isDirectory
    rw [toOption_mergeFiles, sorted, contents]

theorem toOption_loadTableDirectory_of_not_entered (notEntered : tree.enter? directory = none)
    (part : String) (arch : Arch) :
    (loadTableDirectory tree part arch directory).value.toOption = none := by
  simp [loadTableDirectory, ruleFilesIn, filesIn, notEntered, loadTables, Except.toOption]

/-- Directories with the same subtree give the same table, or none. -/
theorem toOption_loadTableDirectory_of_subtree (proper : tree.IsProper) (proper' : tree'.IsProper)
    (spelled : directory.emptyAfterDots = directory'.emptyAfterDots)
    (same : tree.subtree? directory = tree'.subtree? directory') (part : String) (arch : Arch) :
    (loadTableDirectory tree part arch directory).value.toOption =
      (loadTableDirectory tree' part arch directory').value.toOption := by
  have bothMissing (notEntered : tree.enter? directory = none)
      (notEntered' : tree'.enter? directory' = none) :
      (loadTableDirectory tree part arch directory).value.toOption =
        (loadTableDirectory tree' part arch directory').value.toOption := by
    rw [toOption_loadTableDirectory_of_not_entered notEntered,
      toOption_loadTableDirectory_of_not_entered notEntered']
  rcases resolve_of_subtree?_eq same with
    ⟨⟨error, fails⟩, error', fails'⟩ | ⟨place, place', leads, leads', view⟩
  · exact bothMissing (enter?_eq_none (by simp [fails])) (enter?_eq_none (by simp [fails']))
  · have here := view []
    rw [List.append_nil, List.append_nil] at here
    by_cases isDirectory : tree.nodeAt? place = some .directory
    · cases empty : directory.emptyAfterDots with
      | true =>
          exact bothMissing (enter?_of_emptyAfterDots empty)
            (enter?_of_emptyAfterDots (spelled.symm.trans empty))
      | false =>
          have names : (ruleNames tree place).Perm (ruleNames tree' place') :=
            (perm_fileNames proper proper' fun name => view [name]).filter _
          have contents (name : String) :
              readEntry name (tree.nodeAt? (place ++ [name])) =
                readEntry name (tree'.nodeAt? (place' ++ [name])) := by
            rw [view]
          rw [toOption_loadTableDirectory proper empty leads isDirectory,
            toOption_loadTableDirectory proper' (spelled.symm.trans empty) leads'
              (here.symm.trans isDirectory),
            mergedTable?_of_perm names, funext contents]
    · refine bothMissing (enter?_eq_none ?_) (enter?_eq_none ?_)
      · intro other otherLeads
        rwa [← Except.ok.inj (leads.symm.trans otherLeads)]
      · intro other otherLeads
        rwa [← Except.ok.inj (leads'.symm.trans otherLeads), ← here]

end Directory

end CrossArch
