import CrossArch.Files.Path
import CrossArch.Log
import CrossArch.Regex.Match
import CrossArch.Regex.Parser
import CrossArch.Regex.Weight

/-!
# Excluding files

Files whose path matches an exclude pattern are not scanned. Patterns are regular expressions,
searched for anywhere in the path, without regard to case.
-/

namespace CrossArch

/-- A pattern of paths to leave out. -/
structure Exclude where
  pattern : String
  regex : Regex
  deriving DecidableEq, Repr

namespace Exclude

/-- The patterns that hold when no others are given: the files of git directories. -/
def defaultPatterns : List String :=
  ["[/\\\\]\\.git[/\\\\]"]

/-- Why a pattern is ignored. -/
inductive Problem where
  /-- The pattern is no regular expression. -/
  | invalid
  /-- The pattern is too large to search with. -/
  | tooLarge
  deriving DecidableEq, Repr

/-- What is wrong with a pattern that is no regular expression. -/
def invalidPatternDetail : String :=
  "not a valid regular expression"

/-- The wording of a problem. -/
def Problem.message : Problem → String
  | invalid => invalidPatternDetail
  | tooLarge => s!"Compiled regex exceeds size limit of {Regex.weightLimit} bytes."

/-- The exclude of a pattern. -/
def ofPattern (pattern : String) : Except Problem Exclude :=
  match Regex.parse? Regex.caseless pattern.toList with
  | none => .error .invalid
  | some regex => if regex.isTooLarge then .error .tooLarge else .ok ⟨pattern, regex⟩

/-- The exclude of one more pattern, or a message that the pattern is ignored. -/
def compileOne (pattern : String) : Logged (Option Exclude) :=
  match ofPattern pattern with
  | .ok exclude => pure (some exclude)
  | .error problem => do
    Logged.write .warn .classify s!"ignoring exclude pattern '{pattern}': {problem.message}"
    return none

/-- The excludes of several patterns; those with a problem are ignored. -/
def compile : List String → Logged (List Exclude)
  | [] => pure []
  | pattern :: later => do
    let exclude ← compileOne pattern
    let excludes ← compile later
    return exclude.toList ++ excludes

/-- Whether a path is left out by an exclude. -/
def hides (rule : Exclude) (path : Path) : Bool :=
  rule.regex.occursIn path.text.toList

end Exclude

end CrossArch
