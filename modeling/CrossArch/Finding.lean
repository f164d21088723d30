import CrossArch.Text.Line

/-!
# Findings and reports

A finding is a construct of a file that depends on the architecture, with a suggestion. A report is
everything that one run over a project has found.
-/

namespace CrossArch

/-- The kinds of files that are scanned. -/
inductive FileCategory where
  | cpp
  | header
  | makefile
  | sharedObject
  deriving DecidableEq, Repr

/-- The name of a category in reports. -/
def FileCategory.name : FileCategory → String
  | cpp => "cpp"
  | header => "header"
  | makefile => "makefile"
  | sharedObject => "shared_object"

/-- A construct that depends on the architecture. Libraries are reported without lines. -/
structure Finding where
  file : String
  range : Option LineRange
  key : String
  suggestion : String
  category : FileCategory
  deriving DecidableEq, Repr

/-- The counts of a run. -/
structure Summary where
  scanned : Nat
  skipped : Nat
  findings : Nat
  deriving DecidableEq, Repr

/-- Everything that a run has found. -/
structure Report where
  taskId : String
  root : String
  srcArch : String
  destArch : String
  findings : List Finding
  summary : Summary
  warnings : List String
  deriving DecidableEq, Repr

end CrossArch
