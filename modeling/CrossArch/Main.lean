import CrossArch.CommandLine.Run
import CrossArch.CommandLine.Usage
import Std.Time

/-!
# The program

The files that a command can ask about are read into a file tree, the command is carried out on it,
and what comes of it is written. Nothing is decided here.
-/

namespace CrossArch

/-- The place of a path that starts at a working directory. -/
def Path.placeFrom (path : Path) (working : Place) : Place :=
  path.parts.foldl
    (fun place part =>
      if part = "" ∨ part = "." then place
      else if part = ".." then place.dropLast
      else place ++ [part])
    (if path.isAbsolute then [] else working)

/-- Directories are followed to this depth, so that links cannot lead in circles. -/
def depthLimit : Nat :=
  64

/-- Where a place lies in the file system. -/
def locate (place : Place) :=
  (fun here => here / ("/" ++ "/".intercalate place)) <$> IO.currentDir

/-- What a file holds. -/
def readNode (place : Place) : IO FileNode := do
  let bytes ← IO.FS.readBinFile (← locate place)
  match String.fromUTF8? bytes with
  | some content => return .text content
  | none => return .binary

/-- What lies at a place and below it, to a depth. -/
def snapshot : Nat → Place → IO (List (Place × FileNode))
  | depth, place => do
    let location ← locate place
    if ← location.isDir then
      match depth with
      | 0 => return [(place, .directory)]
      | depth + 1 =>
        let entries ← location.readDir
        let below ← entries.toList.mapM fun entry => snapshot depth (place ++ [entry.fileName])
        return (place, .directory) :: below.flatten
    else if ← location.pathExists then return [(place, ← readNode place)]
    else return []

/-- What decides the settings of a scan: its root, and what may end the search for a
configuration. -/
def readSettingsFiles (working : Place) (root : Path) : IO (List (Place × FileNode)) := do
  let marks := root.ancestors.flatMap fun directory =>
    (ConfigFile.names ++ [".git"]).map fun name => directory.join ⟨name⟩
  let nodes ← (root :: marks).mapM fun path => snapshot 0 (path.placeFrom working)
  return nodes.flatten

/-- The files that a scan can ask about. -/
def readScanFiles (working : Place) (request : ScanRequest) : IO FileTree := do
  let root : Path := ⟨request.root.getD "."⟩
  let tree : FileTree := ⟨← readSettingsFiles working root, working⟩
  match ScanSettings.resolve tree request with
  | .error _ => return tree
  | .ok settings =>
    let reports := (settings.reportDirectory.map Path.ancestors).getD []
    let shallow ← reports.mapM fun path => snapshot 1 (path.placeFrom working)
    let deep ← [settings.root, settings.rules].mapM fun path =>
      snapshot depthLimit (path.placeFrom working)
    return ⟨(deep ++ shallow).flatten ++ tree.nodes, working⟩

/-- Make the directories that a command has made. -/
def makeNewDirectories (nodes : List (Place × FileNode)) : IO Unit :=
  nodes.forM fun (place, node) => do
    if node = .directory then IO.FS.createDirAll (← locate place)

/-- Write the files that a command has made or changed. -/
def writeNewFiles (nodes : List (Place × FileNode)) : IO Unit :=
  nodes.forM fun (place, node) => do
    if let .text content := node then IO.FS.writeFile (← locate place) content

/-- What a command has made or changed. -/
def changes (before after : FileTree) : List (Place × FileNode) :=
  after.nodes.filter fun node => before.nodes.lookup node.1 != some node.2

/-- Write something. -/
def Written.write (written : Written) : IO Unit := do
  IO.print written.outputText
  IO.eprint written.errorText

/-- Carry out a command on the files of the system. -/
def Invocation.execute (invocation : Invocation) : IO UInt32 := do
  let working := ((← IO.currentDir).toString.splitOn "/").filter (· != "")
  let files ← match invocation.command with
    | .scan request => readScanFiles working request
    | _ => pure ⟨[], working⟩
  let now ← Std.Time.PlainDateTime.now
  let surroundings : Surroundings :=
    ⟨files, (← IO.getEnv "NO_COLOR").isNone, ← IO.getEnv "RUST_LOG", now.format "uuuuMMddHHmmss"⟩
  let result := surroundings.run invocation
  let changed := changes files result.files
  makeNewDirectories changed
  writeNewFiles changed
  result.written.forM Written.write
  return result.exitCode.toUInt32

end CrossArch

/-- Run the program on its arguments. -/
def main (arguments : List String) : IO UInt32 := do
  match CrossArch.Invocation.parse arguments with
  | .ok invocation => invocation.execute
  | .error notice =>
    let text := notice.text CrossArch.programVersion
    if notice.exitCode = 0 then IO.print text else IO.eprint text
    return notice.exitCode.toUInt32
