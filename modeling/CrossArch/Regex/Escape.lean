import CrossArch.Json.Reader
import CrossArch.Regex.Property

/-!
# Flags and escapes

What a backslash and the characters after it stand for, under the flags in force at their place.
-/

namespace CrossArch.Regex

/-- The flags in force at a place of an expression. -/
structure Flags where
  ignoreCase : Bool
  multiLine : Bool
  dotMatchesNewline : Bool
  unicode : Bool
  verbose : Bool
  anyLineEnding : Bool
  /-- Whether repetitions prefer few rounds, and many rounds if a question mark follows. -/
  swapGreed : Bool

/-- The letters of flags. -/
def Flags.set? (flags : Flags) (letter : Char) (value : Bool) : Option Flags :=
  match letter with
  | 'i' => some { flags with ignoreCase := value }
  | 'm' => some { flags with multiLine := value }
  | 's' => some { flags with dotMatchesNewline := value }
  | 'u' => some { flags with unicode := value }
  | 'x' => some { flags with verbose := value }
  | 'R' => some { flags with anyLineEnding := value }
  | 'U' => some { flags with swapGreed := value }
  | _ => none

/-- Drop the rest of a line. -/
def dropLine (text : List Char) : List Char :=
  text.dropWhile (· != '\n')

/-- Drop blanks and comments; a comment runs from `#` to the end of its line. -/
def dropVerbose : Nat → List Char → List Char
  | 0, text => text
  | bound + 1, text =>
    match text.dropWhile Unicode.isBlank with
    | '#' :: rest => dropVerbose bound (dropLine rest)
    | other => other

/-- Drop what does not count in verbose mode. -/
def Flags.skip (flags : Flags) (text : List Char) : List Char :=
  if flags.verbose then dropVerbose (text.length + 1) text else text

/-! ## Sets -/

/-- The set of a character under the flags. -/
def Flags.caseSet (flags : Flags) (set : CharSet) : CharSet :=
  if !flags.ignoreCase then set
  else if flags.unicode then .anyCase set
  else .anyAsciiCase set

/-- Word characters under the flags. -/
def Flags.wordSet (flags : Flags) : CharSet :=
  if flags.unicode then .word else .asciiOnly .word

/-- A set that may stand in an expression: without Unicode only ASCII characters can be told
apart. -/
def Flags.admit? (flags : Flags) (set : CharSet) : Option CharSet :=
  if flags.unicode then some set
  else if (List.range 128).any fun code => set.contains (Char.ofNat (128 + code)) then none
  else some (.asciiOnly set)

/-- The set that a letter after a backslash stands for. -/
def classLetter? (flags : Flags) (letter : Char) : Option CharSet :=
  let plain (set : CharSet) : CharSet := if flags.unicode then set else .asciiOnly set
  match letter with
  | 'd' => some (plain .digit)
  | 's' => some (plain .blank)
  | 'w' => some (plain .word)
  | 'D' => some (.complement (plain .digit))
  | 'S' => some (.complement (plain .blank))
  | 'W' => some (.complement (plain .word))
  | _ => none

/-- The sets with a name of their own inside brackets. -/
def namedSet? (name : List Char) : Option CharSet :=
  match String.ofList name with
  | "alnum" => some (.unionAll [.range '0' '9', .range 'A' 'Z', .range 'a' 'z'])
  | "alpha" => some (.unionAll [.range 'A' 'Z', .range 'a' 'z'])
  | "ascii" => some (.range '\x00' '\x7F')
  | "blank" => some (.unionAll [.single '\t', .single ' '])
  | "cntrl" => some (.unionAll [.range '\x00' '\x1F', .single '\x7F'])
  | "digit" => some (.range '0' '9')
  | "graph" => some (.range '!' '~')
  | "lower" => some (.range 'a' 'z')
  | "print" => some (.range ' ' '~')
  | "punct" =>
    some (.unionAll [.range '!' '/', .range ':' '@', .range '[' '\x60', .range '\x7b' '~'])
  | "space" => some (.unionAll [.range '\t' '\r', .single ' '])
  | "upper" => some (.range 'A' 'Z')
  | "word" => some (.unionAll [.range '0' '9', .range 'A' 'Z', .single '_', .range 'a' 'z'])
  | "xdigit" => some (.unionAll [.range '0' '9', .range 'A' 'F', .range 'a' 'f'])
  | _ => none

/-! ## Escapes -/

/-- What an escape stands for. -/
inductive Escape where
  | literal (c : Char)
  | set (set : CharSet)
  | assertion (assertion : Assertion)

/-- Drop one character and, in verbose mode, what does not count after it. -/
def Flags.skipOne (flags : Flags) (text : List Char) : List Char :=
  flags.skip text.tail

/-- The value of hexadecimal digits. -/
def hexValue? (digits : List Char) : Option Nat :=
  digits.foldlM (fun value c => (Json.hexDigit? c).map (16 * value + ·)) 0

/-- The character with a code, if there is one. -/
def charOfCode? (code : Nat) : Option Char :=
  if code.isValidChar then some (Char.ofNat code) else none

/-- Exactly so many hexadecimal digits. -/
def hexDigits? (flags : Flags) : Nat → List Char → Option (List Char × List Char)
  | 0, text => some ([], text)
  | _ + 1, [] => none
  | count + 1, c :: rest => do
    let (digits, after) ← hexDigits? flags count (flags.skip rest)
    return (c :: digits, after)

/-- Characters up to a closing brace. -/
def bracedText? (flags : Flags) : Nat → List Char → Option (List Char × List Char)
  | 0, _ => none
  | bound + 1, text =>
    match flags.skip text with
    | [] => none
    | '\x7d' :: after => some ([], after)
    | c :: rest => do
      let (inner, after) ← bracedText? flags bound rest
      return (c :: inner, after)

/-- A character given by its code, after `\x`, `\u` or `\U`. -/
def hexEscape? (flags : Flags) (width : Nat) (text : List Char) : Option (Char × List Char) := do
  match flags.skip text with
  | '\x7b' :: rest =>
    let (digits, after) ← bracedText? flags (rest.length + 1) rest
    if digits.isEmpty then none
    else return (← charOfCode? (← hexValue? digits), flags.skip after)
  | start =>
    let (digits, after) ← hexDigits? flags width start
    return (← charOfCode? (← hexValue? digits), after)

/-- A Unicode property, after `\p` or `\P`. -/
def propertyEscape? (flags : Flags) (negated : Bool) (text : List Char) :
    Option (Escape × List Char) := do
  if !flags.unicode then none
  let (name, after) ← match flags.skip text with
    | '\x7b' :: rest => bracedText? flags (rest.length + 1) rest
    | '\\' :: _ => none
    | c :: rest => some ([c], flags.skip rest)
    | [] => none
  let set := flags.caseSet (← querySet? name)
  return (.set (if negated then .complement set else set), after)

/-- The kinds of word boundaries that may follow `\b` in braces. -/
def namedBoundary? (letters : CharSet) (name : List Char) : Option Assertion :=
  match String.ofList name with
  | "start" => some (.wordStart letters)
  | "end" => some (.wordEnd letters)
  | "start-half" => some (.wordStartHalf letters)
  | "end-half" => some (.wordEndHalf letters)
  | _ => none

/-- A word boundary, after `\b`. -/
def boundaryEscape? (flags : Flags) (text : List Char) : Option (Escape × List Char) :=
  let simple := some (Escape.assertion (.wordBoundary flags.wordSet), text)
  match text with
  | '\x7b' :: rest =>
    match flags.skip rest with
    | [] => none
    | c :: later =>
      if c.isAlpha || c == '-' then do
        let (name, after) ← bracedText? flags (later.length + 2) (c :: later)
        return (.assertion (← namedBoundary? flags.wordSet name), after)
      else simple
  | _ => simple

/-- Whether a character stands for itself after a backslash. -/
def isEscapable (c : Char) : Bool :=
  c.toNat < 128 && !c.isAlphanum && c != '<' && c != '>'

/-- An escape, after its backslash. -/
def escape? (flags : Flags) (text : List Char) : Option (Escape × List Char) :=
  match text with
  | [] => none
  | c :: rest =>
    match c with
    | 'x' => (hexEscape? flags 2 rest).map fun (c, after) => (.literal c, after)
    | 'u' => (hexEscape? flags 4 rest).map fun (c, after) => (.literal c, after)
    | 'U' => (hexEscape? flags 8 rest).map fun (c, after) => (.literal c, after)
    | 'p' => propertyEscape? flags false rest
    | 'P' => propertyEscape? flags true rest
    | 'a' => some (.literal '\x07', rest)
    | 'f' => some (.literal '\x0C', rest)
    | 't' => some (.literal '\t', rest)
    | 'n' => some (.literal '\n', rest)
    | 'r' => some (.literal '\r', rest)
    | 'v' => some (.literal '\x0B', rest)
    | 'A' => some (.assertion .textStart, rest)
    | 'z' => some (.assertion .textEnd, rest)
    | 'b' => boundaryEscape? flags rest
    | 'B' => some (.assertion (.notWordBoundary flags.wordSet), rest)
    | '<' => some (.assertion (.wordStart flags.wordSet), rest)
    | '>' => some (.assertion (.wordEnd flags.wordSet), rest)
    | _ =>
      match classLetter? flags c with
      | some set => some (.set set, rest)
      | none => if isEscapable c then some (.literal c, rest) else none

end CrossArch.Regex
