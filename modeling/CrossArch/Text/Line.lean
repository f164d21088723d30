/-!
# Lines of a text

A text is a list of characters. Its lines are the pieces between newlines, so a text with `n`
newlines has `n + 1` lines, the last of which may be empty. Lines are counted from one.
-/

namespace CrossArch.Text

/-- The pieces of a text between occurrences of a separator, at least one. -/
def splitAt (separator : Char) : List Char → List (List Char)
  | [] => [[]]
  | c :: rest =>
    if c = separator then [] :: splitAt separator rest
    else match splitAt separator rest with
      | [] => [[c]]
      | piece :: later => (c :: piece) :: later

/-- The pieces of a text between its newlines. -/
def lines (text : List Char) : List (List Char) :=
  splitAt '\n' text

/-- The number of newlines of a text. -/
def newlines (text : List Char) : Nat :=
  text.count '\n'

/-- A line without the carriage returns at its end. -/
def dropReturns (line : List Char) : List Char :=
  (line.reverse.dropWhile (· == '\r')).reverse

/-- The lines of a text with their numbers, from one. -/
def numberedLines (text : List Char) : List (List Char × Nat) :=
  (lines text).zipIdx 1

end CrossArch.Text

namespace CrossArch

/-- A span of lines, both ends included. -/
structure LineRange where
  first : Nat
  last : Nat
  deriving DecidableEq, Repr

namespace LineRange

/-- Whether the span covers another one. -/
def contains (range other : LineRange) : Bool :=
  range.first ≤ other.first && other.last ≤ range.last

/-- Spans are ordered by their first line, then by their last. -/
def order (range other : LineRange) : Ordering :=
  (compare range.first other.first).then (compare range.last other.last)

/-- Whether the span does not come after another one. -/
def precedes (range other : LineRange) : Bool :=
  (range.order other).isLE

/-- The written form of a span, for instance `(3,7)`. -/
def render (range : LineRange) : String :=
  s!"({range.first},{range.last})"

end LineRange

end CrossArch
