/-!
# Characters with their places

The structure of a YAML text depends on where its characters stand. A text is therefore read as a
list of characters that know their line, their column and their position. Every line break is one
character: the ways to write it are told apart only where the text keeps them.
-/

namespace CrossArch.Yaml

/-- A character and where it stands. -/
structure Placed where
  char : Char
  line : Nat
  column : Nat
  index : Nat
  deriving DecidableEq, Repr

/-- What is left of a text. -/
abbrev Rest := List Placed

/-- The separator characters that end a line and are kept as they are. -/
def isSeparator (c : Char) : Bool :=
  c.toNat == 0x2028 || c.toNat == 0x2029

/-- Whether a character ends a line. -/
def isBreak (c : Char) : Bool :=
  c == '\n' || isSeparator c

/-- Whether a character is blank inside a line. -/
def isSpace (c : Char) : Bool :=
  c == ' ' || c == '\t'

/-- Whether a character may stand in a text at all. -/
def isAllowed (c : Char) : Bool :=
  let code := c.toNat
  c == '\t' || c == '\n' || c == '\r' || (0x20 ≤ code && code ≤ 0x7E) || code == 0x85 ||
    (0xA0 ≤ code && code ≤ 0xFFFD) || 0x10000 ≤ code

/-- Write every line break that is not a separator as a newline. -/
def plainBreaks : List Char → List Char
  | [] => []
  | '\r' :: '\n' :: rest => '\n' :: plainBreaks rest
  | c :: rest => (if c == '\r' || c.toNat == 0x85 then '\n' else c) :: plainBreaks rest

/-- Give characters their places, starting at a place. -/
def placeFrom (line column index : Nat) : List Char → Rest
  | [] => []
  | c :: rest =>
    ⟨c, line, column, index⟩ ::
      if isBreak c then placeFrom (line + 1) 0 (index + 1) rest
      else placeFrom line (column + 1) (index + 1) rest

/-- A text as characters with their places, if all of them are allowed. A byte order mark at the
start does not count. -/
def place? (text : List Char) : Option Rest :=
  let body := match text with
    | '﻿' :: rest => rest
    | _ => text
  if body.all isAllowed then some (placeFrom 0 0 0 (plainBreaks body)) else none

namespace Rest

/-- The character at a distance. -/
def charAt? (rest : Rest) (distance : Nat) : Option Char :=
  (rest.drop distance).head?.map Placed.char

/-- Whether the character at a distance is a blank, a line break or the end of the text. -/
def endsWordAt (rest : Rest) (distance : Nat) : Bool :=
  match rest.charAt? distance with
  | none => true
  | some c => isSpace c || isBreak c

/-- Drop what is left of a line. -/
def dropLine (rest : Rest) : Rest :=
  rest.dropWhile fun placed => !isBreak placed.char

/-- Drop blanks. -/
def dropSpace (rest : Rest) : Rest :=
  rest.dropWhile fun placed => isSpace placed.char

/-- The text after blanks, a comment and a line break, with nothing else on the line. -/
def endLine? (rest : Rest) : Option Rest :=
  let after := match rest.dropSpace with
    | placed :: more => if placed.char = '#' then dropLine more else placed :: more
    | [] => []
  match after with
  | [] => some []
  | placed :: more => if isBreak placed.char then some more else none

/-- Whether a line starts here with the mark that starts or ends a document. -/
def atMark (rest : Rest) (mark : Char) : Bool :=
  rest.head?.any (fun placed => placed.column == 0) &&
    (rest.take 3).map Placed.char == [mark, mark, mark] && rest.endsWordAt 3

/-- Whether a document starts or ends here. -/
def atDocumentMark (rest : Rest) : Bool :=
  rest.atMark '-' || rest.atMark '.'

end Rest

end CrossArch.Yaml
