import CrossArch.Regex.Bracket

/-!
# Reading regular expressions

The usual notation: alternatives, groups with flags or names, sets of characters with set
operations, counted repetitions, and escapes. Back references and look-around are not part of it. A
text in which the notation is not followed is refused as a whole.

Reading is bounded by a number of calls; a multiple of the length of the text is always enough.
-/

namespace CrossArch.Regex

/-! ## Groups and repetitions -/

/-- Whether a character may stand in the name of a group. -/
def isNameChar (first : Bool) (c : Char) : Bool :=
  c == '_' || if first then CharSet.alphabetic.contains c
    else c == '.' || c == '[' || c == ']' || Unicode.isAlphanumeric c

/-- The name of a group, up to `>`. -/
def groupName? (text : List Char) : Option (List Char × List Char) :=
  let name := text.takeWhile (· != '>')
  match name, text.dropWhile (· != '>') with
  | first :: later, '>' :: after =>
    if isNameChar true first && later.all (isNameChar false) then some (name, after) else none
  | _, _ => none

/-- The end of a list of flags. -/
inductive FlagsEnd where
  /-- `)`: the flags hold for the rest of the group around. -/
  | onward
  /-- `:`: the flags hold for the group that starts here. -/
  | group

/-- A list of flags. No letter may stand twice, and after a minus sign there has to be one. -/
def flagList? (flags : Flags) (seen : List Char) (negated dangling : Bool) :
    List Char → Option (Flags × List Char × FlagsEnd × List Char)
  | [] => none
  | ')' :: rest => if dangling then none else some (flags, seen, .onward, rest)
  | ':' :: rest => if dangling then none else some (flags, seen, .group, rest)
  | '-' :: rest => if negated then none else flagList? flags seen true true rest
  | letter :: rest => do
    if seen.contains letter then none
    flagList? (← flags.set? letter (!negated)) (letter :: seen) negated false rest

/-- What becomes of the text that a group reads. -/
inductive GroupKind where
  /-- Nothing; the group only holds its parts together. -/
  | plain
  /-- It is kept, under a name if the group has one. -/
  | capturing (name : Option (List Char))

/-- The name of a group. -/
def GroupKind.name? : GroupKind → Option (List Char)
  | plain => none
  | capturing name => name

/-- The expression of a group around an expression. -/
def GroupKind.wrap : GroupKind → Regex → Regex
  | plain, regex => regex
  | capturing name, regex => .group name regex

/-- How a group starts, after its opening parenthesis. -/
inductive GroupStart where
  /-- Flags for the rest of the group around. -/
  | flags (flags : Flags)
  /-- A group with its flags. -/
  | group (flags : Flags) (kind : GroupKind)

/-- The start of a group. -/
def groupStart? (flags : Flags) (text : List Char) : Option (GroupStart × List Char) :=
  match flags.skip text with
  | '?' :: 'P' :: '<' :: rest => do
    let (name, after) ← groupName? rest
    return (.group flags (.capturing (some name)), after)
  | '?' :: '=' :: _ | '?' :: '!' :: _ | '?' :: '<' :: '=' :: _ | '?' :: '<' :: '!' :: _ => none
  | '?' :: '<' :: rest => do
    let (name, after) ← groupName? rest
    return (.group flags (.capturing (some name)), after)
  | '?' :: rest => do
    match ← flagList? flags [] false false rest with
    | (updated, seen, .onward, after) =>
      if seen.isEmpty then none else return (.flags updated, after)
    | (updated, _, .group, after) => return (.group updated .plain, after)
  | other => some (.group flags (.capturing none), other)

/-- A number in a counted repetition, with blanks around it. -/
def count? (flags : Flags) (text : List Char) : Option (Nat × List Char) :=
  let digits : Nat → List Char → List Char × List Char := fun bound start =>
    (List.range bound).foldl
      (fun (found, rest) _ =>
        match rest with
        | c :: later => if c.isDigit then (found ++ [c], flags.skip later) else (found, rest)
        | [] => (found, []))
      ([], start)
  let (found, rest) := digits text.length (text.dropWhile Unicode.isBlank)
  let value := found.foldl (fun value c => 10 * value + (c.toNat - 48)) 0
  if found.isEmpty ∨ UInt32.size ≤ value then none
  else some (value, flags.skip (rest.dropWhile Unicode.isBlank))

/-- The bounds of a counted repetition, after its opening brace. -/
def bounds? (flags : Flags) (text : List Char) : Option (Nat × Option Nat × List Char) := do
  let (least, rest) ← count? flags (flags.skip text)
  match rest with
  | '\x7d' :: after => return (least, some least, after)
  | ',' :: later =>
    match flags.skip later with
    | '\x7d' :: after => return (least, none, after)
    | more =>
      let (most, ended) ← count? flags more
      match ended with
      | '\x7d' :: after => if least ≤ most then return (least, some most, after) else none
      | _ => none
  | _ => none

/-- Whether a repetition prefers many rounds, after its bounds; a question mark tells. -/
def greed (flags : Flags) (text : List Char) : Bool × List Char :=
  match text with
  | '?' :: rest => (flags.swapGreed, rest)
  | _ => (!flags.swapGreed, text)

/-- A part of an expression, and how deep groups, repetitions, sets in brackets, sequences and
alternatives are nested in it. -/
structure Part where
  regex : Regex
  depth : Nat

/-- How deep an expression may be nested. -/
def depthLimit : Nat :=
  250

/-- The depth of parts side by side: one more than the deepest, unless there is only one. -/
def depthOf (depths : List Nat) : Nat :=
  depths.foldl max 0 + if depths.length ≤ 1 then 0 else 1

/-- What has been read of an expression: the items of the current alternative, last first. -/
structure Progress where
  flags : Flags
  /-- The names of all groups so far. -/
  names : List (List Char)
  /-- The alternatives before the current one. -/
  alternatives : List Part
  /-- The items of the current alternative, last first; none for a change of flags. -/
  items : List (Option Part)

namespace Progress

/-- Add an item. -/
def push (progress : Progress) (item : Option Part) : Progress :=
  { progress with items := item :: progress.items }

/-- Put a repetition on the last item, if there is one that can be repeated. -/
def repeatLast? (progress : Progress) (least : Nat) (most : Option Nat) (greedy : Bool) :
    Option Progress :=
  match progress.items with
  | some body :: earlier =>
    let item : Part := ⟨.repeat body.regex least most greedy, body.depth + 1⟩
    some { progress with items := some item :: earlier }
  | _ => none

/-- The items of the current alternative as one part. -/
def sequence (progress : Progress) : Part :=
  let regex := progress.items.reverse.foldr
    (fun item rest => match item with
      | some part => .seq part.regex rest
      | none => rest)
    .empty
  ⟨regex, depthOf (progress.items.map fun item => (item.map Part.depth).getD 0)⟩

/-- Start another alternative. -/
def nextAlternative (progress : Progress) : Progress :=
  { progress with alternatives := progress.alternatives ++ [progress.sequence], items := [] }

/-- All alternatives as one part. -/
def whole (progress : Progress) : Part :=
  let last := progress.sequence
  ⟨(progress.alternatives.map Part.regex).foldr .alt last.regex,
    depthOf ((progress.alternatives ++ [last]).map Part.depth)⟩

end Progress

/-- The expression of a literal character. -/
def literal (flags : Flags) (c : Char) : Regex :=
  .char (flags.caseSet (.single c))

/-- The expression of a dot. -/
def dot? (flags : Flags) : Option Regex :=
  if !flags.unicode then none
  else if flags.dotMatchesNewline then some (.char .all)
  else if flags.anyLineEnding then
    some (.char (.complement (.union (.single '\r') (.single '\n'))))
  else some (.char (.complement (.single '\n')))

/-- The expression of `^`. -/
def lineStart (flags : Flags) : Regex :=
  .assert (if !flags.multiLine then .textStart
    else if flags.anyLineEnding then .lineStartAnyEnding else .lineStart)

/-- The expression of `$`. -/
def lineEnd (flags : Flags) : Regex :=
  .assert (if !flags.multiLine then .textEnd
    else if flags.anyLineEnding then .lineEndAnyEnding else .lineEnd)

/-- Whether an escape denotes a byte that is no character by itself. -/
def isForeignByte (flags : Flags) (text : List Char) (c : Char) : Bool :=
  !flags.unicode && text.head? == some 'x' && 128 ≤ c.toNat && c.toNat < 256

/-- The expression of an escape, after its backslash. -/
def escapeItem? (flags : Flags) (text : List Char) : Option (Regex × List Char) := do
  match ← escape? flags text with
  | (.literal c, after) =>
    if isForeignByte flags text c then none else return (literal flags c, after)
  | (.set set, after) => return (.char (← flags.admit? set), after)
  | (.assertion assertion, after) => return (.assert assertion, after)

/-- Read up to the end of the group that has been entered, or of the whole text when `nested` is
false. -/
def body? (nested : Bool) : Nat → Progress → List Char → Option (Progress × List Char)
  | 0, _, _ => none
  | bound + 1, progress, text =>
    let flags := progress.flags
    let continueWith (item : Regex) (rest : List Char) :=
      body? nested bound (progress.push (some ⟨item, 0⟩)) rest
    let repeated (least : Nat) (most : Option Nat) (rest : List Char) := do
      let (greedy, after) := greed flags rest
      body? nested bound (← progress.repeatLast? least most greedy) after
    match flags.skip text with
    | [] => if nested then none else some (progress, [])
    | ')' :: rest => if nested then some (progress, rest) else none
    | '(' :: rest => do
      match ← groupStart? flags rest with
      | (.flags updated, after) =>
        body? nested bound ({ progress with flags := updated }.push none) after
      | (.group inner kind, after) =>
        let names := kind.name?.toList ++ progress.names
        if kind.name?.any progress.names.contains then none
        let (closed, ended) ← body? true bound ⟨inner, names, [], []⟩ after
        let group : Part := ⟨kind.wrap closed.whole.regex, closed.whole.depth + 1⟩
        body? nested bound ({ progress with names := closed.names }.push (some group)) ended
    | '|' :: rest => body? nested bound progress.nextAlternative rest
    | '[' :: rest => do
      let (set, after) ← bracketSet? flags rest
      body? nested bound (progress.push (some ⟨.char set, 1⟩)) after
    | '?' :: rest => repeated 0 (some 1) rest
    | '*' :: rest => repeated 0 none rest
    | '+' :: rest => repeated 1 none rest
    | '\x7b' :: rest => do
      let (least, most, after) ← bounds? flags rest
      repeated least most (flags.skip after)
    | '.' :: rest => do continueWith (← dot? flags) rest
    | '^' :: rest => continueWith (lineStart flags) rest
    | '$' :: rest => continueWith (lineEnd flags) rest
    | '\\' :: rest => do
      let (item, after) ← escapeItem? flags rest
      continueWith item after
    | c :: rest => continueWith (literal flags c) rest

/-- The flags at the start of an expression that is to be matched without regard to case. -/
def caseless : Flags :=
  ⟨true, false, false, true, false, false, false⟩

/-- The flags of an expression that regards case. -/
def caseful : Flags :=
  ⟨false, false, false, true, false, false, false⟩

/-- The expression that a text denotes. -/
def parse? (flags : Flags) (text : List Char) : Option Regex := do
  let (progress, _) ← body? false (2 * text.length + 2) ⟨flags, [], [], []⟩ text
  if depthLimit < progress.whole.depth then none else return progress.whole.regex

end CrossArch.Regex
