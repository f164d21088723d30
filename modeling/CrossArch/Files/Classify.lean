import CrossArch.Files.Category
import CrossArch.Files.Exclude
import CrossArch.Files.Walk

/-!
# Classifying the files of a project

The files below a root are sorted into four lists, one for each category, each in path order. The
result does not depend on the order in which the files are found.
-/

namespace CrossArch

/-- Files by category. -/
structure ClassifiedFiles where
  cpp : List Path
  headers : List Path
  makefiles : List Path
  sharedObjects : List Path
  deriving DecidableEq, Repr

namespace ClassifiedFiles

/-- The number of files. -/
def size (files : ClassifiedFiles) : Nat :=
  files.cpp.length + files.headers.length + files.makefiles.length + files.sharedObjects.length

/-- The files of one category among paths, in path order. -/
def pick (paths : List Path) (category : FileCategory) : List Path :=
  (paths.filter fun path => categoryOf? path == some category).mergeSort Path.precedes

/-- Files sorted by category. -/
def ofPaths (paths : List Path) : ClassifiedFiles :=
  ⟨pick paths .cpp, pick paths .header, pick paths .makefile, pick paths .sharedObject⟩

end ClassifiedFiles

/-- Whether a path is left out by one of several excludes. -/
def isExcluded (excludes : List Exclude) (path : Path) : Bool :=
  excludes.any fun rule => rule.hides path

/-- Classify the files that a walk has found. -/
def classifyPaths (tree : FileTree) (excludes : List Exclude) (found : List Path) :
    ClassifiedFiles :=
  .ofPaths ((found.filter tree.isFile).filter fun path => !isExcluded excludes path)

/-- The messages about files that are left out. -/
def excludedEntries (tree : FileTree) (excludes : List Exclude) (found : List Path) :
    List LogEntry :=
  ((found.filter tree.isFile).filter (isExcluded excludes)).map fun path =>
    ⟨.trace, .classify, s!"excluded {path.text}"⟩

/-- The paths to classify: the root itself if it is a file, else all files below it. -/
def candidates (tree : FileTree) (root : Path) : List Path :=
  if tree.isFile root then [root] else tree.walk root

/-- Classify the files below a root. -/
def classifyTree (tree : FileTree) (root : Path) (excludes : List Exclude) :
    Logged ClassifiedFiles := do
  let found := candidates tree root
  let files := classifyPaths tree excludes found
  Logged.writeAll (excludedEntries tree excludes found)
  Logged.write .info .classify
    (s!"classified {files.size} files under {root.text}: {files.cpp.length} cpp, " ++
      s!"{files.headers.length} headers, {files.makefiles.length} makefiles, " ++
      s!"{files.sharedObjects.length} shared objects")
  return files

end CrossArch
