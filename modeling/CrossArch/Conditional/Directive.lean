import CrossArch.Architecture
import CrossArch.Regex.Parser
import CrossArch.Regex.Search
import CrossArch.Text.Line

/-!
# Conditional directives

A conditional directive starts a line: indentation, `#`, blanks, and one of the words `if`, `ifdef`,
`ifndef`, `elif`, `elifdef`, `elifndef`, `else` and `endif`, up to a word boundary. Directives that
state a positive condition carry the architecture that the condition mentions.

The directives of a text are found by one search through all of it. Lines are counted on the way,
from one match to the next, and the line of a match is looked up by its number.
-/

namespace CrossArch

/-- What a conditional directive does. -/
inductive DirectiveKind where
  /-- `#if` -/
  | ifExpression
  /-- `#ifdef` -/
  | ifDefined
  /-- `#ifndef` -/
  | ifUndefined
  /-- `#elif` with a condition, `#elifdef` or `#elifndef` -/
  | elseIf
  /-- `#elif` without a condition -/
  | elseIfBare
  /-- `#else` -/
  | otherwise
  /-- `#endif` -/
  | endIf
  deriving DecidableEq, Repr

namespace DirectiveKind

/-- Whether the directive starts a segment. -/
def opens : DirectiveKind → Bool
  | ifExpression | ifDefined | ifUndefined => true
  | _ => false

/-- Whether the directive states a positive condition, which may name an architecture. -/
def statesCondition : DirectiveKind → Bool
  | ifExpression | ifDefined | elseIf => true
  | _ => false

/-- The kind of directive that a word makes together with the text after it. -/
def ofWord (word after : List Char) : DirectiveKind :=
  if word = ['i', 'f'] then ifExpression
  else if word = ['i', 'f', 'd', 'e', 'f'] then ifDefined
  else if word = ['i', 'f', 'n', 'd', 'e', 'f'] then ifUndefined
  else if word = ['e', 'l', 's', 'e'] then otherwise
  else if word = ['e', 'n', 'd', 'i', 'f'] then endIf
  else if word = ['e', 'l', 'i', 'f'] ∧ after.all Unicode.isBlank then elseIfBare
  else elseIf

end DirectiveKind

/-- A conditional directive at its place in a file. -/
structure Directive where
  kind : DirectiveKind
  line : Nat
  /-- The line without outer blanks. -/
  text : String
  /-- The architecture that the condition names, or none when it holds for all of them. -/
  tag : Option Arch
  deriving DecidableEq, Repr

namespace Directive

/-- The name of a tag in a message. -/
def tagName (tag : Option Arch) : String :=
  match tag with
  | none => "all"
  | some arch => arch.id

/-- The architecture that a condition is tied to: the first by priority that the line mentions. -/
def tagOf (kind : DirectiveKind) (line : List Char) : Option Arch :=
  if kind.statesCondition then Arch.byPriority.find? fun arch => arch.mentionedIn line else none

/-- The regular expression of a directive; its group holds the word. -/
def pattern : String :=
  "(?m)^[ \\t\\r\\x0B\\x0C]*#[ \\t]*" ++
    "(ifdef|ifndef|if|elifdef|elifndef|elif|else|endif)\\b"

/-- The expression that the pattern denotes. -/
def regex? : Option Regex :=
  Regex.parse? Regex.caseful pattern.toList

/-- The directive that a match makes on the line with a number. What stands behind the match is cut
from the line, as the match starts where the line does. -/
def ofFound? (lines : List (List Char)) (number : Nat) (found : Regex.Found) :
    Option Directive := do
  let word ← found.group? none
  let line := Text.dropReturns (lines[number - 1]?.getD [])
  let after := (Text.dropBytes? (Text.byteLength found.read) line).getD []
  let kind := DirectiveKind.ofWord word.text after
  return ⟨kind, number, String.ofList (Unicode.trim line), tagOf kind line⟩

/-- The directives of matches. The match before them is at an offset on the line with a number. -/
def ofMatches? (text : List Char) (number offset : Nat) :
    List Regex.Found → Option (List Directive)
  | [] => some []
  | found :: later => do
    let passed ← Text.slice? offset found.offset text
    let number := number + Text.newlines passed
    let directive ← ofFound? (Text.lines text) number found
    let directives ← ofMatches? text number found.offset later
    return directive :: directives

/-- The directives of a text, in order; none if the text could not be cut at a match. -/
def all? (text : List Char) : Option (List Directive) :=
  regex?.bind fun regex => ofMatches? text 1 0 (regex.search text)

/-- The directives of a text, in order. -/
def all (text : List Char) : List Directive :=
  (all? text).getD []

end Directive

end CrossArch
