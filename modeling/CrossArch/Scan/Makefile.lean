import CrossArch.Comment
import CrossArch.Hit.Makefile
import CrossArch.Library
import CrossArch.Scan.Source

/-!
# Scanning a Makefile

A Makefile is scanned without its comments. Options are reported where they stand; libraries are
only collected, since each of them is reported once per run.
-/

namespace CrossArch

/-- What a Makefile contributes to a run. -/
structure MakefileScan where
  findings : List Finding
  /-- The canonical names of the libraries, each once, in order of their first appearance. -/
  libraries : List String
  deriving DecidableEq, Repr

/-- The libraries that hits refer to. -/
def librariesOf (hits : List Hit) : List String :=
  let references := hits.filter fun hit => hit.kind == .library
  (references.map fun hit => String.ofList (canonicalLibrary hit.key)).eraseDups

/-- The findings and libraries of a Makefile. -/
def scanMakefile (catalog : Catalog) (text : List Char) (file : String) : Logged MakefileScan := do
  let hits := makefileHits catalog.makefile (Comment.strip Comment.makeStyle text)
  let rules := ruleHits hits
  Logged.writeAll (droppedEntries .makefileScan catalog.makefile catalog.dest file rules)
  return ⟨rules.filterMap (ruleFinding? catalog.makefile catalog.dest file .makefile),
    librariesOf hits⟩

end CrossArch
