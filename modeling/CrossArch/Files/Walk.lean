import CrossArch.Files.Tree

/-!
# Walking a file tree

A walk lists the files of a directory, called by paths that start with the text of the directory. A
leading `.` is left out of that text, and the directory has to be reachable piece by piece.
-/

namespace CrossArch.FileTree

/-- Whether a path means the working directory by a single dot. -/
def isDot (path : Path) : Bool :=
  path.components == [.current]

/-- The path of an entry of a directory. -/
def entryPath (directory : Path) (name : String) : Path :=
  if isDot directory then ⟨name⟩ else directory.join ⟨name⟩

/-- Follow one piece of the text of a directory, from the directory reached so far. -/
def enterPart (tree : FileTree) (directory : Path) (part : String) : Option Path :=
  let next := entryPath directory part
  if !tree.isDirectory directory then none
  else if part = "." ∨ part = ".." then some next
  else if tree.exists? next then some next
  else none

/-- The path by which the entries of a directory are called. -/
def enter? (tree : FileTree) (directory : Path) : Option Path :=
  let (start, parts) :=
    if directory.isAbsolute then ((⟨"/"⟩ : Path), directory.parts.drop 1)
    else (⟨"."⟩, directory.parts)
  (parts.foldlM tree.enterPart start).bind fun entered =>
    if tree.isDirectory entered then some entered else none

/-- The names on the way from a place to the files below it. -/
def filesBelow (tree : FileTree) (place : Place) : List (List String) :=
  tree.nodes.filterMap fun (other, node) =>
    if node ≠ .directory ∧ place.isPrefixOf other ∧ other ≠ place then
      some (other.drop place.length)
    else none

/-- The paths of all files below a directory, however deep. -/
def walk (tree : FileTree) (directory : Path) : List Path :=
  match tree.enter? directory with
  | none => []
  | some entered =>
    match tree.resolve entered with
    | .error _ => []
    | .ok place =>
      (tree.filesBelow place).map fun names => names.foldl entryPath entered

/-- The paths of the files that stand in a directory itself. -/
def filesIn (tree : FileTree) (directory : Path) : List Path :=
  match tree.enter? directory with
  | none => []
  | some entered =>
    match tree.resolve entered with
    | .error _ => []
    | .ok place =>
      (tree.filesBelow place).filterMap fun names =>
        match names with
        | [name] => some (entryPath entered name)
        | _ => none

end CrossArch.FileTree
