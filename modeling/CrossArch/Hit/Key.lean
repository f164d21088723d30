import CrossArch.Rule.Table
import CrossArch.Text.Front
import CrossArch.Unicode.Blank
import CrossArch.Unicode.Word

/-!
# Keys to search for

The keys of a rule table that are searched for in files, longest first, so that a longer key wins
over its own beginning. Blank keys are left out, and so are the two reserved keys, which only
override a built-in suggestion.

In source files a key whose edge is a letter, a digit or an underscore has to end at a word boundary
on that side.
-/

namespace CrossArch

/-- The key under which conditional segments are reported. -/
def conditionalKey : String :=
  "#if"

/-- The key under which inline assembly is reported. -/
def assemblyKey : String :=
  "__assembles__"

/-- Keys that are never searched for. -/
def reservedKeys : List String :=
  [conditionalKey, assemblyKey]

namespace SearchKey

/-- Whether a key of a table is searched for. -/
def isSearched (key : String) : Bool :=
  !key.toList.all Unicode.isBlank && !reservedKeys.contains key

/-- Whether a key comes no later than another: longer keys first, by bytes, then in ascending
order. -/
def precedes (key other : String) : Bool :=
  other.utf8ByteSize < key.utf8ByteSize ||
    (other.utf8ByteSize == key.utf8ByteSize && key ≤ other)

/-- The keys of a table that are searched for, in the order in which they are tried. -/
def ofTable (table : RuleTable) : List String :=
  (table.keys.filter isSearched).mergeSort precedes

/-- Whether a regular expression gives a character a meaning of its own. -/
def isMeta (c : Char) : Bool :=
  ['\\', '.', '+', '*', '?', '(', ')', '|', '[', ']', '\x7b', '\x7d', '^', '$', '#', '&', '-',
    '~'].contains c

/-- The regular expression of a literal text. -/
def escape (text : List Char) : List Char :=
  text.flatMap fun c => if isMeta c then ['\\', c] else [c]

/-- Whether a key has to end at a word boundary next to this edge. -/
def isWordEdge (c : Char) : Bool :=
  Unicode.isAlphanumeric c || c == '_'

/-- The mark for a word boundary next to an edge. -/
def boundaryMark (edge : Option Char) : List Char :=
  if edge.any isWordEdge then ['\\', 'b'] else []

/-- The regular expression of a key with word boundaries on the sides that need them. -/
def boundedPattern (key : List Char) : List Char :=
  boundaryMark key.head? ++ escape key ++ boundaryMark key.getLast?

/-- Whether the neighbours of a key respect the word boundaries that it needs. -/
def isBounded (key : List Char) (before after : Option Char) : Bool :=
  (!key.head?.any isWordEdge || Unicode.atWordBoundary before key.head?) &&
    (!key.getLast?.any isWordEdge || Unicode.atWordBoundary key.getLast? after)

/-- The first key that stands at the front of a text, bounded, and the text after it. -/
def boundedAt? (keys : List (List Char)) (before : Option Char) (text : List Char) :
    Option (List Char × List Char) :=
  keys.findSome? fun key => do
    let rest ← Text.after? key text
    if isBounded key before rest.head? then return (key, rest) else none

/-- The first key that stands at the front of a text, and the text after it. -/
def plainAt? (keys : List (List Char)) (text : List Char) : Option (List Char × List Char) :=
  keys.findSome? fun key => (Text.after? key text).map (key, ·)

end SearchKey

end CrossArch
