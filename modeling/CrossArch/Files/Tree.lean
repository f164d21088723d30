import CrossArch.Files.Path

/-!
# File trees

A file tree is a snapshot of files and directories. Operations that ask for a file or change the
tree take a path and follow it piece by piece, the way an operating system does: every piece but the
last has to lead to a directory.
-/

namespace CrossArch

/-- Why an operation on a file tree fails. -/
inductive FileError where
  | notFound
  | alreadyExists
  | notDirectory
  | isDirectory
  | nameTooLong
  /-- The file does not hold text in UTF-8. -/
  | notText
  deriving DecidableEq, Repr

/-- The usual wording of an error. -/
def FileError.message : FileError → String
  | notFound => "No such file or directory (os error 2)"
  | alreadyExists => "File exists (os error 17)"
  | notDirectory => "Not a directory (os error 20)"
  | isDirectory => "Is a directory (os error 21)"
  | nameTooLong => "File name too long (os error 36)"
  | notText => "stream did not contain valid UTF-8"

/-- What stands at a place of a file tree. -/
inductive FileNode where
  /-- A file that holds text. -/
  | text (content : String)
  /-- A file whose bytes are no text. -/
  | binary
  | directory
  deriving DecidableEq, Repr

/-- A place of a file tree: the names on the way from the root. -/
abbrev Place := List String

/-- Files and directories with their places. A directory on the way to a place need not be
listed. -/
structure FileTree where
  nodes : List (Place × FileNode)
  /-- The directory from which relative paths start. -/
  working : Place
  deriving DecidableEq, Repr

namespace FileTree

/-- What stands at a place. -/
def nodeAt? (tree : FileTree) (place : Place) : Option FileNode :=
  match tree.nodes.lookup place with
  | some node => some node
  | none =>
    if place.isPrefixOf tree.working || tree.nodes.any (fun node => place.isPrefixOf node.1) then
      some .directory
    else none

/-- Follow one piece of a path from a place. -/
def follow (tree : FileTree) (place : Place) (part : String) : Except FileError Place :=
  if tree.nodeAt? place ≠ some .directory then .error .notDirectory
  else if part = "" ∨ part = "." then .ok place
  else if part = ".." then .ok place.dropLast
  else if 255 < part.utf8ByteSize then .error .nameTooLong
  else if (tree.nodeAt? (place ++ [part])).isNone then .error .notFound
  else .ok (place ++ [part])

/-- The place from which a path starts. -/
def startOf (tree : FileTree) (path : Path) : Place :=
  if path.isAbsolute then [] else tree.working

/-- The place that a path leads to. -/
def resolve (tree : FileTree) (path : Path) : Except FileError Place :=
  if path.text.isEmpty then .error .notFound
  else path.parts.foldlM tree.follow (tree.startOf path)

/-- What a path leads to. -/
def node? (tree : FileTree) (path : Path) : Option FileNode :=
  match tree.resolve path with
  | .ok place => tree.nodeAt? place
  | .error _ => none

/-- Whether a path leads anywhere. -/
def exists? (tree : FileTree) (path : Path) : Bool :=
  (tree.node? path).isSome

/-- Whether a path leads to a directory. -/
def isDirectory (tree : FileTree) (path : Path) : Bool :=
  tree.node? path == some .directory

/-- Whether a path leads to a file. -/
def isFile (tree : FileTree) (path : Path) : Bool :=
  match tree.node? path with
  | some .directory => false
  | some _ => true
  | none => false

/-- The text of the file that a path leads to. -/
def read (tree : FileTree) (path : Path) : Except FileError String := do
  let place ← tree.resolve path
  match tree.nodeAt? place with
  | some (.text content) => .ok content
  | some .binary => .error .notText
  | some .directory => .error .isDirectory
  | none => .error .notFound

/-- Put a node at a place. -/
def put (tree : FileTree) (place : Place) (node : FileNode) : FileTree :=
  { tree with nodes := (place, node) :: tree.nodes.filter fun other => other.1 != place }

/-- The directory that a path names its last piece in, and that piece; slashes at the end do not
count. -/
def split (tree : FileTree) (path : Path) : Except FileError (Place × String) := do
  match path.parts.reverse.dropWhile (· == "") with
  | [] => if path.isAbsolute then .ok ([], ".") else .error .notFound
  | last :: outer =>
    let place ← outer.reverse.foldlM tree.follow (tree.startOf path)
    if tree.nodeAt? place = some .directory then .ok (place, last) else .error .notDirectory

/-- Make the directory that a path names. -/
def makeDirectory (tree : FileTree) (path : Path) : Except FileError FileTree := do
  let (place, name) ← tree.split path
  if name = "." ∨ name = ".." then .error .alreadyExists
  else if 255 < name.utf8ByteSize then .error .nameTooLong
  else if (tree.nodeAt? (place ++ [name])).isSome then .error .alreadyExists
  else .ok (tree.put (place ++ [name]) .directory)

/-- Make the first of several directories, after making the later ones if they are missing. -/
def makeOutermostFirst (tree : FileTree) : List Path → Except FileError FileTree
  | [] => .error .notFound
  | path :: outer =>
    if path.text.isEmpty then .ok tree
    else match tree.makeDirectory path with
      | .ok made => .ok made
      | .error .notFound => do
        let prepared ← makeOutermostFirst tree outer
        match prepared.makeDirectory path with
        | .ok made => .ok made
        | .error problem => if prepared.isDirectory path then .ok prepared else .error problem
      | .error problem => if tree.isDirectory path then .ok tree else .error problem

/-- Make the directory that a path names, and all that are missing on the way. -/
def makeDirectories (tree : FileTree) (path : Path) : Except FileError FileTree :=
  tree.makeOutermostFirst path.ancestors

/-- Write a text into the file that a path names. -/
def write (tree : FileTree) (path : Path) (content : String) : Except FileError FileTree := do
  let (place, name) ← tree.split path
  if name = "." ∨ name = ".." then .error .isDirectory
  else if 255 < name.utf8ByteSize then .error .nameTooLong
  else if tree.nodeAt? (place ++ [name]) = some .directory then .error .isDirectory
  else .ok (tree.put (place ++ [name]) (.text content))

end FileTree

end CrossArch
