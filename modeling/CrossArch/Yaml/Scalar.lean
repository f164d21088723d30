import CrossArch.Json.Reader
import CrossArch.Yaml.Place

/-!
# Scalars of YAML

A scalar is written plain, in quotes, or as a block of lines. Where a plain or a quoted scalar goes
on over several lines, a single line break is read as a blank, and further ones are kept.
-/

namespace CrossArch.Yaml

/-- Blanks and line breaks between two words of a scalar. -/
structure Gap where
  /-- Blanks before the first line break. -/
  spaces : List Char
  /-- The first line break; an escaped one leaves nothing. -/
  first : Option (List Char)
  /-- Further line breaks. -/
  later : List Char

namespace Gap

/-- Nothing between two words. -/
def empty : Gap :=
  ⟨[], none, []⟩

/-- Whether there is anything at all. -/
def isEmpty (gap : Gap) : Bool :=
  gap.spaces.isEmpty && gap.first.isNone

/-- What a gap contributes to the scalar. -/
def folded (gap : Gap) : List Char :=
  match gap.first with
  | none => gap.spaces
  | some ['\n'] => if gap.later.isEmpty then [' '] else gap.later
  | some first => first ++ gap.later

/-- Read a gap. A tab that stands in the indentation before a column is refused. -/
def read? (indent : Nat) (gap : Gap) : Rest → Option (Gap × Rest)
  | [] => some (gap, [])
  | placed :: rest =>
    if isSpace placed.char then
      if gap.first.isNone then read? indent ⟨gap.spaces ++ [placed.char], none, gap.later⟩ rest
      else if placed.char = '\t' ∧ placed.column < indent then none
      else read? indent gap rest
    else if isBreak placed.char then
      if gap.first.isNone then read? indent ⟨[], some [placed.char], gap.later⟩ rest
      else read? indent ⟨gap.spaces, gap.first, gap.later ++ [placed.char]⟩ rest
    else some (gap, placed :: rest)

end Gap

/-! ## Quoted scalars -/

/-- The character that an escape of one letter stands for. -/
def letterEscape? (c : Char) : Option Char :=
  match c with
  | '0' => some '\x00'
  | 'a' => some '\x07'
  | 'b' => some '\x08'
  | 't' | '\t' => some '\t'
  | 'n' => some '\n'
  | 'v' => some '\x0B'
  | 'f' => some '\x0C'
  | 'r' => some '\r'
  | 'e' => some '\x1B'
  | ' ' => some ' '
  | '"' => some '"'
  | '/' => some '/'
  | '\\' => some '\\'
  | 'N' => some (Char.ofNat 0x85)
  | '_' => some (Char.ofNat 0xA0)
  | 'L' => some (Char.ofNat 0x2028)
  | 'P' => some (Char.ofNat 0x2029)
  | _ => none

/-- The number of hexadecimal digits after the letter of an escape. -/
def codeWidth? (c : Char) : Option Nat :=
  match c with
  | 'x' => some 2
  | 'u' => some 4
  | 'U' => some 8
  | _ => none

/-- The character with a code given by so many hexadecimal digits. -/
def codeEscape? (width : Nat) (rest : Rest) : Option (Char × Rest) := do
  let digits ← (rest.take width).mapM fun placed => Json.hexDigit? placed.char
  let code := digits.foldl (fun value digit => 16 * value + digit) 0
  if digits.length = width ∧ code.isValidChar then return (Char.ofNat code, rest.drop width)
  else none

/-- The character that an escape stands for, after its backslash. -/
def escape? (rest : Rest) : Option (Char × Rest) :=
  match rest with
  | [] => none
  | placed :: more =>
    match codeWidth? placed.char with
    | some width => codeEscape? width more
    | none => (letterEscape? placed.char).map (·, more)

/-- The rest of a scalar in double quotes, after the opening quote. -/
def doubleQuoted? : Nat → Rest → Option (List Char × Rest)
  | 0, _ => none
  | bound + 1, rest =>
    match rest with
    | [] => none
    | placed :: more =>
      if rest.atDocumentMark then none
      else if placed.char = '"' then some ([], more)
      else if isSpace placed.char || isBreak placed.char then do
        let (gap, after) ← Gap.empty.read? 0 rest
        let (content, ended) ← doubleQuoted? bound after
        return (gap.folded ++ content, ended)
      else if placed.char = '\\' then
        if (Rest.charAt? more 0).any isBreak then do
          let (gap, after) ← Gap.read? 0 ⟨[], some [], []⟩ (more.drop 1)
          let (content, ended) ← doubleQuoted? bound after
          return (gap.folded ++ content, ended)
        else do
          let (c, after) ← escape? more
          let (content, ended) ← doubleQuoted? bound after
          return (c :: content, ended)
      else do
        let (content, ended) ← doubleQuoted? bound more
        return (placed.char :: content, ended)

/-- The rest of a scalar in single quotes, after the opening quote. -/
def singleQuoted? : Nat → Rest → Option (List Char × Rest)
  | 0, _ => none
  | bound + 1, rest =>
    match rest with
    | [] => none
    | placed :: more =>
      if rest.atDocumentMark then none
      else if placed.char = '\'' then
        if Rest.charAt? more 0 = some '\'' then do
          let (content, ended) ← singleQuoted? bound (more.drop 1)
          return ('\'' :: content, ended)
        else some ([], more)
      else if isSpace placed.char || isBreak placed.char then do
        let (gap, after) ← Gap.empty.read? 0 rest
        let (content, ended) ← singleQuoted? bound after
        return (gap.folded ++ content, ended)
      else do
        let (content, ended) ← singleQuoted? bound more
        return (placed.char :: content, ended)

/-! ## Plain scalars -/

/-- Whether a character has a meaning of its own between brackets. -/
def isFlowMark (c : Char) : Bool :=
  c == ',' || c == '[' || c == ']' || c == '\x7b' || c == '\x7d'

/-- What is left of a plain scalar after a gap: its content, whether a line break follows it, and
the text after it. -/
def plain? (flow : Bool) (indent : Nat) : Nat → Gap → Rest → Option (List Char × Bool × Rest)
  | 0, _, _ => none
  | bound + 1, gap, rest =>
    match rest with
    | [] => some ([], gap.first.isSome, [])
    | placed :: more =>
      let stop := some ([], gap.first.isSome, rest)
      let c := placed.char
      if rest.atDocumentMark then stop
      else if c = '#' ∧ !gap.isEmpty then stop
      else if isSpace c || isBreak c then do
        let (later, after) ← Gap.empty.read? indent rest
        if !flow && after.head?.any fun next => next.column < indent then
          return ([], later.first.isSome, after)
        else plain? flow indent bound later after
      else if flow && c == ':' &&
          (Rest.charAt? more 0).any (fun next => isFlowMark next || next == '?') then
        none
      else if (c == ':' && Rest.endsWordAt more 0) || (flow && isFlowMark c) then stop
      else do
        let (content, broken, ended) ← plain? flow indent bound .empty more
        return (gap.folded ++ c :: content, broken, ended)

/-! ## Block scalars -/

/-- What happens to the line breaks at the end of a block scalar. -/
inductive Chomping where
  | strip
  | clip
  | keep
  deriving DecidableEq, Repr

/-- The sign for what happens to the last line breaks. -/
def chomping? (c : Char) : Option Chomping :=
  match c with
  | '+' => some .keep
  | '-' => some .strip
  | _ => none

/-- The digit that gives the indentation of a block scalar. -/
def indentDigit? (c : Char) : Option Nat :=
  if '0' ≤ c ∧ c ≤ '9' then some (c.toNat - 48) else none

/-- The signs after the mark of a block scalar: what happens to the last line breaks, the
indentation beyond the surrounding block if it is given, and the text after. -/
def blockHeader? (rest : Rest) : Option (Chomping × Option Nat × Rest) :=
  let first := rest.charAt? 0
  let second := rest.charAt? 1
  match first.bind chomping?, first.bind indentDigit? with
  | some chomping, _ =>
    match second.bind indentDigit? with
    | some 0 => none
    | some digit => some (chomping, some digit, rest.drop 2)
    | none => some (chomping, none, rest.drop 1)
  | none, some 0 => none
  | none, some digit =>
    match second.bind chomping? with
    | some chomping => some (chomping, some digit, rest.drop 2)
    | none => some (.clip, some digit, rest.drop 1)
  | none, none => some (.clip, none, rest)

/-- Empty lines before a line of a block scalar: their line breaks, the widest indentation, and the
text after. With an indentation, blanks are read only before it. -/
def emptyLines? (indent : Option Nat) (column widest : Nat) : Rest → Option (List Char × Nat × Rest)
  | [] => some ([], max widest column, [])
  | placed :: rest =>
    let before := indent.all fun indent => column < indent
    if before && placed.char == ' ' then emptyLines? indent (column + 1) widest rest
    else if before && placed.char == '\t' then none
    else if isBreak placed.char then do
      let (breaks, found, after) ← emptyLines? indent 0 (max widest column) rest
      return (placed.char :: breaks, found, after)
    else some ([], max widest column, placed :: rest)

/-- The line breaks that stay at the end: that of the last line, and those of empty lines after
it. -/
def Chomping.ending (chomping : Chomping) (lineBreak later : List Char) : List Char :=
  match chomping with
  | strip => []
  | clip => lineBreak
  | keep => lineBreak ++ later

/-- The lines of a block scalar after the break of the line before, given with whether that line
starts with a blank and with the breaks of the empty lines after it. -/
def blockLines? (literal : Bool) (chomping : Chomping) (indent : Nat) :
    Nat → List Char → Bool → List Char → Rest → Option (List Char × Rest)
  | 0, _, _, _, _ => none
  | bound + 1, lineBreak, startsBlank, later, rest =>
    if rest.head?.any fun placed => placed.column == indent then do
      let blank := (rest.charAt? 0).any isSpace
      let joint :=
        if !literal && lineBreak == ['\n'] && !startsBlank && !blank then
          if later.isEmpty then [' '] else []
        else lineBreak
      let line := (rest.takeWhile fun placed => !isBreak placed.char).map Placed.char
      let afterLine := rest.drop line.length
      let (breaks, _, after) ← emptyLines? (some indent) 0 0 (afterLine.drop 1)
      let nextBreak := (afterLine.take 1).map Placed.char
      let (content, ended) ← blockLines? literal chomping indent bound nextBreak blank breaks after
      return (joint ++ later ++ line ++ content, ended)
    else some (chomping.ending lineBreak later, rest)

/-- A block scalar after its mark, inside a block at a column. -/
def block? (literal : Bool) (outer : Option Nat) (rest : Rest) : Option (List Char × Rest) := do
  let (chomping, digit, afterHeader) ← blockHeader? rest
  let body ← afterHeader.endLine?
  let given := digit.map (outer.getD 0 + ·)
  let (breaks, widest, after) ← emptyLines? given 0 0 body
  let least := (outer.map (· + 1)).getD 1
  blockLines? literal chomping (given.getD (max widest (max least 1))) (rest.length + 1)
    [] false breaks
    after

end CrossArch.Yaml
