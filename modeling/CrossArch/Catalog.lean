import CrossArch.Assembly.Whitelist
import CrossArch.Hit.Key
import CrossArch.Rule.Table

/-!
# Catalogs

A catalog holds the rules of one run: the tables for source files and for Makefiles, and the
instructions that the destination knows. Each part may be missing; what was wrong with it is kept as
a warning, and only the analysis that needs the part is off.
-/

namespace CrossArch

/-- The rules of a run from one architecture to another. -/
structure Catalog where
  src : Arch
  dest : Arch
  source : RuleTable
  makefile : RuleTable
  whitelist : Option Assembly.Whitelist
  /-- What went wrong when the rules were loaded. -/
  warnings : List String

namespace Catalog

/-- A catalog from its parts, with a message for each warning and one about the sizes of the
parts. -/
def build (src dest : Arch) (source makefile : RuleTable) (whitelist : Option Assembly.Whitelist)
    (warnings : List String) : Logged Catalog := do
  Logged.writeAll (warnings.map fun warning => ⟨.warn, .catalog, warning⟩)
  let known := (whitelist.map Assembly.Whitelist.size).getD 0
  Logged.write .info .catalog
    (s!"rules loaded for {src.id} -> {dest.id}: {source.size} intrinsic, {makefile.size} " ++
      s!"makefile, {known} whitelisted instructions")
  return ⟨src, dest, source, makefile, whitelist, warnings⟩

/-- The suggestion for a segment that leaves the destination out. -/
def conditionalSuggestion (catalog : Catalog) : String :=
  (catalog.source.suggestion? conditionalKey catalog.dest).getD
    (s!"Suggestion: this conditional block only handles other architectures; add a " ++
      s!"{catalog.dest.label} branch or make the code portable.")

/-- The suggestion for inline assembly that the destination cannot run. -/
def assemblySuggestion (catalog : Catalog) : String :=
  (catalog.source.suggestion? assemblyKey catalog.dest).getD
    (s!"Suggestion: rewrite this inline assembly with {catalog.dest.label} instructions or " ++
      "replace it with portable code.")

/-- The suggestion for a library that is referred to. -/
def librarySuggestion (catalog : Catalog) (library : String) : String :=
  (catalog.makefile.suggestion? library catalog.dest).getD
    (s!"Suggestion: check that {library} is available and compatible on the " ++
      s!"{catalog.dest.label} platform.")

end Catalog

end CrossArch
