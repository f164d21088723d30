import CrossArch.Yaml.Scalar

/-!
# Tokens of YAML

The tokens of a text are its marks and scalars together with the places where blocks begin and end,
which follow from the indentation. That something is the key of a mapping is known only when the
colon after it is met: a place where a key may stand is remembered, and its token put in later.
-/

namespace CrossArch.Yaml

/-- A token. -/
inductive Token where
  | version (major minor : Nat)
  | tagHandle (handle meaning : String)
  | documentStart
  | documentEnd
  | blockSequence
  | blockMapping
  | blockEnd
  | flowSequence
  | flowSequenceEnd
  | flowMapping
  | flowMappingEnd
  | blockEntry
  | flowEntry
  | key
  | value
  | reference (name : String)
  | anchor (name : String)
  | tag (handle suffix : String)
  | scalar (plain : Bool) (content : String)
  deriving DecidableEq, Repr

/-- A place where a key may stand that is known as one only by the colon after it. -/
structure PossibleKey where
  /-- The number of tokens before it. -/
  position : Nat
  line : Nat
  column : Nat
  index : Nat
  /-- Whether nothing but a key can stand there. -/
  required : Bool

/-- What has been read of a text. -/
structure Scanner where
  rest : Rest
  tokens : Array Token
  /-- The columns of the open blocks, the innermost first. -/
  blocks : List Nat
  /-- Whether a key may stand here. -/
  keyAllowed : Bool
  /-- The possible key at this level of brackets. -/
  candidate : Option PossibleKey
  /-- The possible keys outside the open brackets, the innermost first. -/
  outer : List (Option PossibleKey)

namespace Scanner

/-- Whether a bracket is open. -/
def inFlow (scanner : Scanner) : Bool :=
  !scanner.outer.isEmpty

/-- Add a token. -/
def emit (scanner : Scanner) (token : Token) : Scanner :=
  { scanner with tokens := scanner.tokens.push token }

/-- Put a token in before others. -/
def insertAt (scanner : Scanner) (position : Nat) (token : Token) : Scanner :=
  let before := scanner.tokens.extract 0 position
  let after := scanner.tokens.extract position scanner.tokens.size
  { scanner with tokens := before.push token ++ after }

/-- Set what is left to read. -/
def continueAt (scanner : Scanner) (rest : Rest) : Scanner :=
  { scanner with rest := rest }

/-- Say whether a key may stand here. -/
def allowKey (scanner : Scanner) (allowed : Bool) : Scanner :=
  { scanner with keyAllowed := allowed }

/-- Whether a block at this column lies inside the innermost open one. -/
def isDeeper (scanner : Scanner) (column : Nat) : Bool :=
  scanner.blocks.head?.all (· < column)

/-- Open a block at a column if it lies inside the innermost open one. -/
def openBlock (scanner : Scanner) (column position : Nat) (start : Token) : Scanner :=
  if !scanner.inFlow && scanner.isDeeper column then
    insertAt { scanner with blocks := column :: scanner.blocks } position start
  else scanner

/-- Close the blocks that do not reach to a column; without a column, all. -/
def closeBlocks (scanner : Scanner) (column : Option Nat) : Scanner :=
  if scanner.inFlow then scanner
  else
    let closed := scanner.blocks.takeWhile fun block => column.all (· < block)
    { scanner with
      blocks := scanner.blocks.drop closed.length
      tokens := scanner.tokens ++ (closed.map fun _ => Token.blockEnd).toArray }

/-! ## Possible keys -/

/-- Forget the possible key, unless it had to be one. -/
def forgetKey? (scanner : Scanner) : Option Scanner :=
  if scanner.candidate.any PossibleKey.required then none
  else some { scanner with candidate := none }

/-- Remember that a key may stand at a place. -/
def rememberKey? (scanner : Scanner) (placed : Placed) : Option Scanner :=
  if scanner.keyAllowed then do
    let cleared ← scanner.forgetKey?
    let required := !scanner.inFlow && scanner.blocks.head? == some placed.column
    let key := ⟨scanner.tokens.size, placed.line, placed.column, placed.index, required⟩
    return { cleared with candidate := some key }
  else some scanner

/-- Whether a possible key is too far back: a key stands on one line and is not long. -/
def isStale (placed : Placed) (key : PossibleKey) : Bool :=
  key.line < placed.line || key.index + 1024 < placed.index

/-- Forget the possible keys that are too far back, unless one of them had to be a key. -/
def forgetStale? (scanner : Scanner) (placed : Placed) : Option Scanner :=
  let keys := scanner.candidate :: scanner.outer
  if keys.any fun key => key.any fun key => isStale placed key && key.required then none
  else
    let fresh (key : Option PossibleKey) : Option PossibleKey := key.filter (!isStale placed ·)
    some { scanner with candidate := fresh scanner.candidate, outer := scanner.outer.map fresh }

/-! ## Between tokens -/

/-- Drop blanks, comments and line breaks. A tab counts as a blank where no key may stand, and
outside brackets a key may stand after a line break. -/
def skip (flow : Bool) : Bool → Bool → Rest → Bool × Rest
  | allowed, _, [] => (allowed, [])
  | allowed, inComment, placed :: rest =>
    if isBreak placed.char then skip flow (allowed || !flow) false rest
    else if inComment || placed.char == '#' then skip flow allowed true rest
    else if placed.char == ' ' || (placed.char == '\t' && (flow || !allowed)) then
      skip flow allowed false rest
    else (allowed, placed :: rest)

/-! ## Names and tags -/

/-- Whether a character may stand in a name. -/
def isNameChar (c : Char) : Bool :=
  c.isAlphanum || c == '_' || c == '-'

/-- Take characters of a kind. -/
def spanChars (accept : Char → Bool) (rest : Rest) : List Char × Rest :=
  let taken := rest.takeWhile fun placed => accept placed.char
  (taken.map Placed.char, rest.drop taken.length)

/-- The name of an anchor. -/
def name? (rest : Rest) : Option (String × Rest) :=
  let (name, after) := spanChars isNameChar rest
  let ends := (after.charAt? 0).all fun c =>
    isSpace c || isBreak c || ['?', ':', ',', ']', '\x7d', '%', '@', '\x60'].contains c
  if name.isEmpty || !ends then none else some (String.ofList name, after)

/-- Whether a character may stand in a tag. -/
def isTagChar (c : Char) : Bool :=
  isNameChar c ||
    [';', '/', '?', ':', '@', '&', '=', '+', '$', '.', '!', '~', '*', '\'', '(', ')'].contains c

/-- Whether a character may stand in a tag between angle brackets. -/
def isFullTagChar (c : Char) : Bool :=
  isTagChar c || c == ',' || c == '[' || c == ']'

/-- The value of an escaped byte. -/
def byte? (rest : Rest) : Option UInt8 :=
  match (rest.take 3).map Placed.char with
  | ['%', first, second] => do
    return (16 * (← Json.hexDigit? first) + (← Json.hexDigit? second)).toUInt8
  | _ => none

/-- The bytes that the first byte of a character says it has. -/
def byteCount? (byte : UInt8) : Option Nat :=
  if byte < 0x80 then some 1
  else if byte < 0xC0 then none
  else if byte < 0xE0 then some 2
  else if byte < 0xF0 then some 3
  else if byte < 0xF8 then some 4
  else none

/-- A character in a tag that is given by its bytes. -/
def escapedChar? (rest : Rest) : Option (List Char × Rest) := do
  let count ← byteCount? (← byte? rest)
  let bytes ← (List.range count).mapM fun index => byte? (rest.drop (3 * index))
  let content ← String.fromUTF8? ⟨bytes.toArray⟩
  return (content.toList, rest.drop (3 * count))

/-- The characters of a tag. -/
def tagText? (accept : Char → Bool) : Nat → Rest → Option (List Char × Rest)
  | 0, _ => none
  | bound + 1, rest =>
    match rest with
    | [] => some ([], [])
    | placed :: more =>
      if accept placed.char then do
        let (content, after) ← tagText? accept bound more
        return (placed.char :: content, after)
      else if placed.char = '%' then do
        let (escaped, later) ← escapedChar? rest
        let (content, after) ← tagText? accept bound later
        return (escaped ++ content, after)
      else some ([], rest)

/-- A tag without the blank that has to follow it: its handle and the rest of it. -/
def bareTag? (rest : Rest) : Option (Token × Rest) :=
  if rest.charAt? 1 = some '<' then do
    let (content, after) ← tagText? isFullTagChar (rest.length + 1) (rest.drop 2)
    if content.isEmpty ∨ after.charAt? 0 ≠ some '>' then none
    else return (.tag "" (String.ofList content), after.drop 1)
  else
    let (name, afterName) := spanChars isNameChar (rest.drop 1)
    if afterName.charAt? 0 = some '!' then do
      let (content, after) ← tagText? isTagChar (rest.length + 1) (afterName.drop 1)
      if content.isEmpty then none
      else return (.tag (String.ofList ('!' :: name ++ ['!'])) (String.ofList content), after)
    else do
      let (content, after) ← tagText? isTagChar (rest.length + 1) (rest.drop 1)
      if content.isEmpty then return (.tag "" "!", after)
      else return (.tag "!" (String.ofList content), after)

/-- A tag. -/
def tag? (flow : Bool) (rest : Rest) : Option (Token × Rest) := do
  let (token, after) ← bareTag? rest
  if after.endsWordAt 0 || (flow && after.charAt? 0 == some ',') then return (token, after)
    else none

/-! ## Directives -/

/-- A number of a version. -/
def versionNumber? (rest : Rest) : Option (Nat × Rest) :=
  let (digits, after) := spanChars Char.isDigit rest
  if digits.isEmpty ∨ 9 < digits.length then none
  else some (digits.foldl (fun value c => 10 * value + (c.toNat - 48)) 0, after)

/-- The version after its directive. -/
def version? (rest : Rest) : Option (Token × Rest) := do
  let (major, afterMajor) ← versionNumber? rest.dropSpace
  if afterMajor.charAt? 0 ≠ some '.' then none
  let (minor, after) ← versionNumber? (afterMajor.drop 1)
  return (.version major minor, after)

/-- The handle of a tag with its meaning after its directive. -/
def tagHandle? (rest : Rest) : Option (Token × Rest) := do
  let start := rest.dropSpace
  if start.charAt? 0 ≠ some '!' then none
  let (name, afterName) := spanChars isNameChar (start.drop 1)
  let closed := afterName.charAt? 0 = some '!'
  if ¬closed ∧ ¬name.isEmpty then none
  let handle := if closed then '!' :: name ++ ['!'] else ['!']
  let afterHandle : Rest := if closed then afterName.drop 1 else afterName
  if ¬(afterHandle.charAt? 0).any isSpace then none
  let (meaning, after) ← tagText? isFullTagChar (rest.length + 1) afterHandle.dropSpace
  if meaning.isEmpty || !after.endsWordAt 0 then none
  return (.tagHandle (String.ofList handle) (String.ofList meaning), after)

/-- A directive after its mark. -/
def directive? (rest : Rest) : Option (Token × Rest) := do
  let (name, afterName) := spanChars isNameChar rest
  if !afterName.endsWordAt 0 then none
  let (token, after) ←
    if name = ['Y', 'A', 'M', 'L'] then version? afterName
    else if name = ['T', 'A', 'G'] then tagHandle? afterName
    else none
  return (token, ← after.endLine?)

/-! ## One token -/

/-- A mark that starts or ends a document, or a directive. -/
def topLevel? (scanner : Scanner) (token : Token) (rest : Rest) : Option Scanner := do
  let closed ← (scanner.closeBlocks none).forgetKey?
  return ((closed.allowKey false).emit token).continueAt rest

/-- An opening bracket. -/
def openFlow? (scanner : Scanner) (placed : Placed) (token : Token) : Option Scanner := do
  let marked ← scanner.rememberKey? placed
  let opened := { marked with candidate := none, outer := marked.candidate :: marked.outer }
  return ((opened.allowKey true).emit token).continueAt (scanner.rest.drop 1)

/-- A closing bracket. -/
def closeFlow? (scanner : Scanner) (token : Token) : Option Scanner := do
  let cleared ← scanner.forgetKey?
  let closed := match cleared.outer with
    | [] => cleared
    | key :: outer => { cleared with candidate := key, outer := outer }
  return ((closed.allowKey false).emit token).continueAt (scanner.rest.drop 1)

/-- The comma between brackets. -/
def flowEntry? (scanner : Scanner) : Option Scanner := do
  let cleared ← scanner.forgetKey?
  return ((cleared.allowKey true).emit .flowEntry).continueAt (scanner.rest.drop 1)

/-- The mark of an item or of a key, which may open a block. -/
def blockMark? (scanner : Scanner) (placed : Placed) (start token : Token) (allowed : Bool) :
    Option Scanner :=
  if !scanner.inFlow && !scanner.keyAllowed then none
  else do
    let cleared ← (scanner.openBlock placed.column scanner.tokens.size start).forgetKey?
    return ((cleared.allowKey allowed).emit token).continueAt (scanner.rest.drop 1)

/-- The colon after a key. -/
def value? (scanner : Scanner) (placed : Placed) : Option Scanner :=
  match scanner.candidate with
  | some key =>
    let keyed := { scanner with candidate := none }.insertAt key.position .key
    let opened := keyed.openBlock key.column key.position .blockMapping
    some (((opened.allowKey false).emit .value).continueAt (scanner.rest.drop 1))
  | none =>
    if !scanner.inFlow && !scanner.keyAllowed then none
    else
      let opened := scanner.openBlock placed.column scanner.tokens.size .blockMapping
      some (((opened.allowKey !scanner.inFlow).emit .value).continueAt (scanner.rest.drop 1))

/-- A token that may start a key. -/
def keyStart? (scanner : Scanner) (placed : Placed) (token : Token) (rest : Rest) :
    Option Scanner := do
  let marked ← scanner.rememberKey? placed
  return ((marked.allowKey false).emit token).continueAt rest

/-- A block scalar. -/
def blockScalar? (scanner : Scanner) (literal : Bool) : Option Scanner := do
  let cleared ← scanner.forgetKey?
  let (content, rest) ← block? literal scanner.blocks.head? (scanner.rest.drop 1)
  return ((cleared.allowKey true).emit (.scalar false (String.ofList content))).continueAt rest

/-- A plain scalar. -/
def plainScalar? (scanner : Scanner) (placed : Placed) : Option Scanner := do
  let indent := (scanner.blocks.head?.map (· + 1)).getD 0
  let (content, broken, rest) ←
    plain? scanner.inFlow indent (scanner.rest.length + 1) .empty scanner.rest
  let next ← scanner.keyStart? placed (.scalar true (String.ofList content)) rest
  return if broken then next.allowKey true else next

/-- Whether a plain scalar starts here. -/
def startsPlain (flow : Bool) (c : Char) (more : Rest) : Bool :=
  let marks :=
    ['-', '?', ':', ',', '[', ']', '\x7b', '\x7d', '#', '&', '*', '!', '|', '>', '\'', '"',
    '%', '@', '\x60']
  !(isSpace c || isBreak c || marks.contains c) || (c == '-' && !(more.charAt? 0).any isSpace) ||
    (!flow && (c == '?' || c == ':') && !more.endsWordAt 0)

/-- The token at a place. -/
def token? (scanner : Scanner) (placed : Placed) (more : Rest) : Option Scanner :=
  let flow := scanner.inFlow
  let rest := scanner.rest
  if placed.column = 0 ∧ placed.char = '%' then do
    let (token, after) ← directive? more
    scanner.topLevel? token after
  else if rest.atMark '-' then scanner.topLevel? .documentStart (rest.drop 3)
  else if rest.atMark '.' then scanner.topLevel? .documentEnd (rest.drop 3)
  else
    match placed.char with
    | '[' => scanner.openFlow? placed .flowSequence
    | '\x7b' => scanner.openFlow? placed .flowMapping
    | ']' => scanner.closeFlow? .flowSequenceEnd
    | '\x7d' => scanner.closeFlow? .flowMappingEnd
    | ',' => scanner.flowEntry?
    | '*' => do
      let (name, after) ← name? more
      scanner.keyStart? placed (.reference name) after
    | '&' => do
      let (name, after) ← name? more
      scanner.keyStart? placed (.anchor name) after
    | '!' => do
      let (token, after) ← tag? flow rest
      scanner.keyStart? placed token after
    | '\'' => do
      let (content, after) ← singleQuoted? (more.length + 1) more
      scanner.keyStart? placed (.scalar false (String.ofList content)) after
    | '"' => do
      let (content, after) ← doubleQuoted? (more.length + 1) more
      scanner.keyStart? placed (.scalar false (String.ofList content)) after
    | c =>
      if c = '-' ∧ more.endsWordAt 0 then scanner.blockMark? placed .blockSequence .blockEntry true
      else if c = '?' ∧ (flow ∨ more.endsWordAt 0) then
        scanner.blockMark? placed .blockMapping .key !flow
      else if c = ':' ∧ (flow ∨ more.endsWordAt 0) then scanner.value? placed
      else if c = '|' ∧ !flow then scanner.blockScalar? true
      else if c = '>' ∧ !flow then scanner.blockScalar? false
      else if startsPlain flow c more then scanner.plainScalar? placed
      else none

/-- The tokens from here to the end of the text. -/
def run? : Nat → Scanner → Option (List Token)
  | 0, _ => none
  | bound + 1, scanner =>
    let (allowed, rest) := skip scanner.inFlow scanner.keyAllowed false scanner.rest
    match rest with
    | [] => do
      let ended ← (scanner.closeBlocks none).forgetKey?
      return ended.tokens.toList
    | placed :: more => do
      let ready := (scanner.allowKey allowed).continueAt rest
      let fresh ← ready.forgetStale? placed
      run? bound (← (fresh.closeBlocks (some placed.column)).token? placed more)

end Scanner

/-- The tokens of a text. -/
def tokens? (text : List Char) : Option (List Token) := do
  let rest ← place? text
  Scanner.run? (rest.length + 1) ⟨rest, #[], [], true, none, []⟩

end CrossArch.Yaml
