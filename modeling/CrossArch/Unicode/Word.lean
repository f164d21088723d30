import CrossArch.Unicode.Alphabetic
import CrossArch.Unicode.Mark
import CrossArch.Unicode.Number

/-!
# Word characters

A word character may stand in a name of some script: letters, combining marks, decimal digits,
connector punctuation such as the underscore, and the two join controls. A word boundary is a place
where word characters begin or end.

Alphanumeric characters are a different set: they include numerals such as superscripts, which are
no word characters, and exclude marks and connectors, which are.
-/

namespace CrossArch.Unicode

/-- Connector punctuation and join controls beyond ASCII. -/
def connectors : CodeRanges :=
  ⟨[(0x200C, 0x200D), (0x203F, 0x2040), (0x2054, 0x2054), (0xFE33, 0xFE34), (0xFE4D, 0xFE4F),
    (0xFF3F, 0xFF3F)]⟩

/-- Whether a character is an ASCII letter, an ASCII digit or the underscore. -/
def isAsciiWord (c : Char) : Bool :=
  c.isAlphanum || c == '_'

/-- Whether a character may stand inside a word. -/
def isWord (c : Char) : Bool :=
  if c.toNat < 128 then isAsciiWord c
  else isAlphabeticBeyondAscii c || combiningMarks.contains c || decimalDigits.contains c ||
    connectors.contains c

/-- Whether a character is alphabetic or numeric. -/
def isAlphanumeric (c : Char) : Bool :=
  if c.toNat < 128 then c.isAlphanum
  else isAlphabeticBeyondAscii c || decimalDigits.contains c || otherNumbers.contains c

/-- Whether the neighbour on one side of a place is a word character; the ends of a text are not. -/
def touchesWord (neighbour : Option Char) : Bool :=
  neighbour.any isWord

/-- Whether exactly one of the two neighbours of a place is a word character. -/
def atWordBoundary (before after : Option Char) : Bool :=
  touchesWord before != touchesWord after

end CrossArch.Unicode
