import CrossArch.Proofs.Files.GitDirectory
import CrossArch.Proofs.Files.Listing

/-!
# Classifications and the order of a walk

A classification shares the files of a walk out among its four lists: each file that is not excluded
and has a category goes into the list of that category, and no file is lost or listed twice. Each
list is put into path order, and the files of a walk differ in their steps, so the order in which
the walk finds them does not show.
-/

namespace CrossArch

open CrossArch.Path

namespace ClassifiedFiles

/-- The list of a category. -/
def ofCategory (files : ClassifiedFiles) : FileCategory → List Path
  | .cpp => files.cpp
  | .header => files.headers
  | .makefile => files.makefiles
  | .sharedObject => files.sharedObjects

/-- The files of a classification are those that were found, and each stands where it belongs. -/
structure IsClassification (files : ClassifiedFiles) (tree : FileTree) (excludes : List Exclude)
    (found : List Path) : Prop where
  /-- No file is lost, and none is listed twice. -/
  perm : files.all.Perm (found.filter fun path =>
    tree.isFile path && !isExcluded excludes path && (categoryOf? path).isSome)
  mem_iff : ∀ category path, path ∈ files.ofCategory category ↔
    path ∈ found ∧ tree.isFile path = true ∧ isExcluded excludes path = false ∧
      categoryOf? path = some category
  sorted : ∀ category, (files.ofCategory category).Pairwise StandsBefore

variable {paths others : List Path}

theorem ofCategory_ofPaths (paths : List Path) (category : FileCategory) :
    (ofPaths paths).ofCategory category = pick paths category := by
  cases category <;> rfl

theorem count_pick (paths : List Path) (category : FileCategory) (path : Path) :
    (pick paths category).count path =
      if categoryOf? path = some category then paths.count path else 0 := by
  rw [pick, (List.mergeSort_perm _ _).count_eq]
  split
  · rename_i isCategory
    exact List.count_filter (by simp [isCategory])
  · rename_i isOther
    apply List.count_eq_zero.2
    simp [isOther]

/-- Each path with a category is in one list, as often as it was given. -/
theorem perm_all_ofPaths (paths : List Path) :
    (ofPaths paths).all.Perm (paths.filter fun path => (categoryOf? path).isSome) := by
  rw [List.perm_iff_count]
  intro path
  simp only [all, ofPaths, List.count_append, count_pick]
  cases category : categoryOf? path with
  | none =>
      have absent : path ∉ paths.filter fun path => (categoryOf? path).isSome := by simp [category]
      simp [List.count_eq_zero.2 absent]
  | some category' =>
      rw [List.count_filter (by simp [category])]
      cases category' <;> simp

theorem pick_of_perm (distinct : AreDistinct paths) (perm : paths.Perm others)
    (category : FileCategory) : pick paths category = pick others category := by
  rw [pick, pick]
  exact (distinct.filter _).mergeSort_eq (perm.filter _)

theorem ofPaths_of_perm (distinct : AreDistinct paths) (perm : paths.Perm others) :
    ofPaths paths = ofPaths others := by
  simp only [ofPaths, pick_of_perm distinct perm]

end ClassifiedFiles

section Found

open ClassifiedFiles

variable {tree : FileTree} {excludes : List Exclude} {found others : List Path}

theorem classifyPaths_of_perm (distinct : AreDistinct found) (perm : found.Perm others) :
    classifyPaths tree excludes found = classifyPaths tree excludes others := by
  rw [classifyPaths, classifyPaths]
  apply ofPaths_of_perm
  · exact (distinct.filter _).filter _
  · exact (perm.filter _).filter _

theorem isClassification_classifyPaths (distinct : AreDistinct found) :
    (classifyPaths tree excludes found).IsClassification tree excludes found where
  perm := by
    rw [classifyPaths]
    apply (perm_all_ofPaths _).trans
    rw [List.filter_filter, List.filter_filter]
    apply List.Perm.of_eq
    apply List.filter_congr
    intro path _
    cases tree.isFile path <;> simp [Bool.and_comm]
  mem_iff := by
    intro category path
    rw [classifyPaths, ofCategory_ofPaths, mem_pick]
    simp only [List.mem_filter, Bool.not_eq_true', and_assoc]
  sorted := by
    intro category
    rw [classifyPaths, ofCategory_ofPaths, pick]
    apply AreDistinct.pairwise_standsBefore
    exact ((distinct.filter _).filter _).filter _

end Found

/--
Whatever a walk finds, the four lists hold each file that is not excluded and has a category once,
in the list of its category and in path order. Files that are found in another order, and a tree
that is listed in another order, give the same lists.
-/
theorem classification_independent_of_walk {tree : FileTree} (proper : tree.IsProper) (root : Path)
    (excludes : List Exclude) :
    (∀ found, AreDistinct found →
      (classifyPaths tree excludes found).IsClassification tree excludes found ∧
      ∀ others, found.Perm others →
        classifyPaths tree excludes found = classifyPaths tree excludes others) ∧
    (AreDistinct (candidates tree root) ∧
      (classifyTree tree root excludes).value =
        classifyPaths tree excludes (candidates tree root)) ∧
    ∀ other, tree.ListsSame other →
      (classifyTree tree root excludes).value = (classifyTree other root excludes).value := by
  have value (tree : FileTree) : (classifyTree tree root excludes).value =
      classifyPaths tree excludes (candidates tree root) := rfl
  have distinct := FileTree.areDistinct_candidates proper root
  refine ⟨?_, ⟨distinct, value tree⟩, ?_⟩
  · intro found differ
    refine ⟨isClassification_classifyPaths differ, ?_⟩
    intro others perm
    exact classifyPaths_of_perm differ perm
  · intro other same
    rw [value, value, classifyPaths_of_perm distinct (same.perm_candidates proper root),
      classifyPaths, classifyPaths, same.isFile_eq proper]

/-- Files of several categories, some of them hidden in a git directory or without a category. -/
def mixedTree : FileTree where
  nodes := [(["w", "p", "z.c"], .text ""), (["w", "p", "a", "b.C"], .binary),
    (["w", "p", ".git", "x.c"], .text ""), (["w", "p", "Makefile"], .text ""),
    (["w", "p", "notes.txt"], .text ""), (["w", "p", "a.h"], .text "")]
  working := ["w"]

theorem classification_independent_of_walk_mixedTree :
    mixedTree.IsProper ∧
      [⟨"p/a"⟩, ⟨"p/a.h"⟩, ⟨"p/.git/x.c"⟩, ⟨"p/z.c"⟩, ⟨"p/Makefile"⟩, ⟨"p/a/b.C"⟩,
          ⟨"p/notes.txt"⟩].Perm (⟨"p/a"⟩ :: candidates mixedTree ⟨"p"⟩) ∧
      classifyPaths mixedTree Exclude.defaults [⟨"p/a"⟩, ⟨"p/a.h"⟩, ⟨"p/.git/x.c"⟩, ⟨"p/z.c"⟩,
          ⟨"p/Makefile"⟩, ⟨"p/a/b.C"⟩, ⟨"p/notes.txt"⟩] =
        classifyPaths mixedTree Exclude.defaults (⟨"p/a"⟩ :: candidates mixedTree ⟨"p"⟩) ∧
      (⟨"p/a/b.C"⟩ ∈ (classifyTree mixedTree ⟨"p"⟩ Exclude.defaults).value.cpp ∧
        ⟨"p/.git/x.c"⟩ ∉ (classifyTree mixedTree ⟨"p"⟩ Exclude.defaults).value.cpp) := by
  have proper : mixedTree.IsProper := by decide
  have perm : [⟨"p/a"⟩, ⟨"p/a.h"⟩, ⟨"p/.git/x.c"⟩, ⟨"p/z.c"⟩, ⟨"p/Makefile"⟩, ⟨"p/a/b.C"⟩,
      ⟨"p/notes.txt"⟩].Perm (⟨"p/a"⟩ :: candidates mixedTree ⟨"p"⟩) := by
    decide +kernel
  have independent := classification_independent_of_walk proper ⟨"p"⟩ Exclude.defaults
  have shared := (independent.1 _ independent.2.1.1).1.mem_iff .cpp
  refine ⟨proper, perm, (independent.1 _ (by decide +kernel)).2 _ perm, ?_⟩
  rw [independent.2.1.2]
  constructor
  · apply (shared ⟨"p/a/b.C"⟩).2
    decide +kernel
  · intro listed
    have isShown := ((shared ⟨"p/.git/x.c"⟩).1 listed).2.2.1
    revert isShown
    decide +kernel

end CrossArch
