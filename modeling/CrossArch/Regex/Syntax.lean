import CrossArch.Unicode.Blank
import CrossArch.Unicode.CaseFold
import CrossArch.Unicode.Category
import CrossArch.Unicode.Word

/-!
# Regular expressions

The abstract form of regular expressions. Which repetitions prefer few rounds, and which groups keep
what they read, makes no difference to whether a text has a match; it decides which of several
matches a search takes, and what the match says.
-/

namespace CrossArch

/-- A set of characters. -/
inductive CharSet where
  /-- The characters from one to another, both included. -/
  | range (first last : Char)
  /-- Decimal digits of all scripts. -/
  | digit
  /-- Blanks. -/
  | blank
  /-- Word characters. -/
  | word
  /-- Alphabetic characters of all scripts. -/
  | alphabetic
  /-- The characters of a table. -/
  | listed (table : Unicode.CategoryRanges)
  | none
  | complement (set : CharSet)
  | union (a b : CharSet)
  | intersection (a b : CharSet)
  /-- The set with all case variants of its members. -/
  | anyCase (set : CharSet)
  /-- The set with the other case of its ASCII letters. -/
  | anyAsciiCase (set : CharSet)
  deriving DecidableEq, Repr

namespace CharSet

/-- The other case of an ASCII letter. -/
def swapAsciiCase (c : Char) : Char :=
  if c.isUpper then c.toLower else c.toUpper

/-- Whether a character is in a set. -/
def contains : CharSet → Char → Bool
  | range first last, c => first ≤ c && c ≤ last
  | digit, c => Unicode.isDecimalDigit c
  | blank, c => Unicode.isBlank c
  | word, c => Unicode.isWord c
  | alphabetic, c =>
    if c.toNat < 128 then c.isAlpha else Unicode.isAlphabeticBeyondAscii c
  | listed table, c => table.contains c
  | none, _ => false
  | complement set, c => !set.contains c
  | union a b, c => a.contains c || b.contains c
  | intersection a b, c => a.contains c && b.contains c
  | anyCase set, c => (Unicode.caseVariants c).any set.contains
  | anyAsciiCase set, c => set.contains c || set.contains (swapAsciiCase c)

/-- The set of a single character. -/
def single (c : Char) : CharSet :=
  range c c

/-- The set of all characters. -/
def all : CharSet :=
  complement none

/-- The union of several sets. -/
def unionAll (sets : List CharSet) : CharSet :=
  sets.foldr union none

/-- The ASCII characters of a set. -/
def asciiOnly (set : CharSet) : CharSet :=
  intersection (range '\x00' '\x7F') set

/-- The members of one set that are not in another. -/
def difference (a b : CharSet) : CharSet :=
  intersection a (complement b)

/-- The members of exactly one of two sets. -/
def symmetricDifference (a b : CharSet) : CharSet :=
  union (difference a b) (difference b a)

end CharSet

/-- A condition on a place of a text. -/
inductive Assertion where
  | textStart
  | textEnd
  | lineStart
  | lineEnd
  /-- The start of a line, where `\r\n`, `\r` and `\n` end lines. -/
  | lineStartAnyEnding
  /-- The end of a line, where `\r\n`, `\r` and `\n` end lines. -/
  | lineEndAnyEnding
  /-- A place where words, made of the characters of the set, begin or end. -/
  | wordBoundary (letters : CharSet)
  | notWordBoundary (letters : CharSet)
  | wordStart (letters : CharSet)
  | wordEnd (letters : CharSet)
  /-- A place that no word character precedes. -/
  | wordStartHalf (letters : CharSet)
  /-- A place that no word character follows. -/
  | wordEndHalf (letters : CharSet)
  deriving DecidableEq, Repr

/-- A regular expression. -/
inductive Regex where
  | empty
  | char (set : CharSet)
  | assert (assertion : Assertion)
  | seq (first second : Regex)
  | alt (first second : Regex)
  /-- At least `least` repetitions, and at most `most` if it is given; `greedy` if many are
  preferred. -/
  | repeat (body : Regex) (least : Nat) (most : Option Nat) (greedy : Bool)
  /-- A group that keeps what it reads, under a name if it has one. -/
  | group (name : Option (List Char)) (body : Regex)
  deriving DecidableEq, Repr

end CrossArch
