import CrossArch.Architecture
import CrossArch.Assembly.Opener
import CrossArch.Assembly.Whitelist
import CrossArch.Log
import CrossArch.Text.Front
import CrossArch.Text.Line

/-!
# Inline assembly blocks

A block starts at an opener and ends where its brackets are balanced again. String literals are read
on the way: a bracket inside a literal does not count, and a literal ends with its line at the
latest. The literals before the first colon at depth one are the template; each contributes its
first token as a mnemonic. A keyword with no bracket on its own line or the next opens no block, and
that next line is searched again from its start.

The text is scanned once, into a list of events. Events do not depend on a whitelist: judging a
block is a separate step.
-/

namespace CrossArch.Assembly

/-- How the reader of a block stands to string literals. -/
inductive Literal where
  /-- Outside of string literals. -/
  | outside
  /-- Inside a literal with the given characters so far, last first; `escaped` after a backslash. -/
  | inside (escaped : Bool) (reversed : List Char)
  deriving DecidableEq, Repr

/-- A block that has been opened and not yet closed. -/
structure Pending where
  /-- The line of the keyword. -/
  start : Nat
  /-- The last line that was read. -/
  lastLine : Nat
  /-- The trimmed lines that were read. -/
  lines : List (List Char)
  /-- The number of open brackets, without an upper limit. It is zero only before the first
  bracket. -/
  depth : Nat
  literal : Literal
  /-- Whether no colon has ended the template. -/
  inTemplate : Bool
  /-- The template literals that were read. -/
  templates : List (List Char)

namespace Pending

/-- A block whose keyword stands on a line. -/
def ofLine (number : Nat) : Pending :=
  ⟨number, 0, [], 0, .outside, true, []⟩

/-- Whether a bracket has opened the block. -/
def started (pending : Pending) : Bool :=
  pending.depth != 0

/-- Record a line as part of the block, once. -/
def noteLine (pending : Pending) (number : Nat) (line : List Char) : Pending :=
  if pending.lastLine = number then pending
  else { pending with lastLine := number, lines := pending.lines ++ [Unicode.trim line] }

/-- End a literal. Its text is kept while the template lasts. -/
def finishLiteral (pending : Pending) (reversed : List Char) : Pending :=
  { pending with
    literal := .outside
    templates :=
      if pending.inTemplate then pending.templates ++ [reversed.reverse] else pending.templates }

/-- Literals do not continue on the next line. -/
def endLine (pending : Pending) : Pending :=
  match pending.literal with
  | .outside => pending
  | .inside _ reversed => pending.finishLiteral reversed

/-- Read one character inside a literal. -/
def readInside (pending : Pending) (escaped : Bool) (reversed : List Char) (c : Char) : Pending :=
  if escaped then { pending with literal := .inside false (c :: reversed) }
  else if c = '\\' then { pending with literal := .inside true (c :: reversed) }
  else if c = '"' then pending.finishLiteral reversed
  else { pending with literal := .inside false (c :: reversed) }

/-- Read one character outside of literals; none when it closes the block. -/
def readOutside? (pending : Pending) (c : Char) : Option Pending :=
  if c = '"' then some { pending with literal := .inside false [] }
  else if c = '(' ∨ c = '\x7b' then some { pending with depth := pending.depth + 1 }
  else if (c = ')' ∨ c = '\x7d') ∧ pending.started then
    if pending.depth = 1 then none else some { pending with depth := pending.depth - 1 }
  else if c = ':' ∧ pending.depth = 1 then some { pending with inTemplate := false }
  else some pending

/-- Read characters until the block closes: the block, and the text after it once it is closed. -/
def feed (pending : Pending) : List Char → Pending × Option (List Char)
  | [] => (pending, none)
  | c :: rest =>
    match pending.literal with
    | .inside escaped reversed => (pending.readInside escaped reversed c).feed rest
    | .outside =>
      match pending.readOutside? c with
      | some next => next.feed rest
      | none => (pending, some rest)

theorem length_feed {pending : Pending} {text rest : List Char}
    (closed : (pending.feed text).2 = some rest) : rest.length < text.length := by
  induction text generalizing pending with
  | nil => simp [feed] at closed
  | cons c text ih =>
    simp only [feed] at closed
    split at closed
    · have := ih closed
      simp only [List.length_cons]
      omega
    · split at closed
      · have := ih closed
        simp only [List.length_cons]
        omega
      · simp only [Option.some.injEq] at closed
        simp [closed]

end Pending

/-- What the scanner meets. -/
inductive Event where
  /-- An opener on a line. -/
  | opened (keyword : List Char) (line : Nat)
  /-- The keyword on a line opens no block. -/
  | abandoned (line : Nat)
  /-- A block, read up to the given line. -/
  | block (read : Pending) (last : Nat)

/-- The scanner between two lines. -/
structure Scan where
  /-- The events so far. -/
  events : List Event
  /-- The block that is open. -/
  pending : Option Pending

/-- What is left to do on a line; giving up a keyword reads nothing but leaves no block open. -/
def lineMeasure (pending : Option Pending) (rest : List Char) : Nat :=
  2 * rest.length + if pending.isSome then 1 else 0

/-- Scan the rest of a line: `rest` is the part of `line` that has not been read. -/
def scanLine (number : Nat) (line : List Char) (events : List Event) (pending : Option Pending)
    (rest : List Char) : Scan :=
  match pending with
  | some current =>
    let noted := current.noteLine number line
    match _closed : (noted.feed rest).2 with
    | some after =>
      scanLine number line (events ++ [.block (noted.feed rest).1 number]) none after
    | none =>
      let ended := (noted.feed rest).1.endLine
      if !ended.started && ended.start < number then
        scanLine number line (events ++ [.abandoned ended.start]) none rest
      else ⟨events, some ended⟩
  | none =>
    match _found : Opener.find? true rest with
    | none => ⟨events, none⟩
    | some opener =>
      scanLine number line (events ++ [.opened opener.keyword number])
        (some (Pending.ofLine number)) opener.afterKeyword
  termination_by lineMeasure pending rest
  decreasing_by
    · have := Pending.length_feed _closed
      simp only [lineMeasure, Option.isSome]
      simp only [Bool.false_eq_true, ↓reduceIte]
      omega
    · simp [lineMeasure]
    · have := Opener.length_find? _found
      simp only [lineMeasure, Option.isSome]
      simp only [↓reduceIte, Bool.false_eq_true]
      omega

/-- Scan one more line. -/
def Scan.next (scan : Scan) (line : List Char × Nat) : Scan :=
  scanLine line.2 line.1 scan.events scan.pending line.1

/-- The events when no line follows; a block that was opened by a bracket ends at the last line. -/
def Scan.finish (scan : Scan) : List Event :=
  match scan.pending with
  | some pending =>
    if pending.started then scan.events ++ [.block pending pending.lastLine] else scan.events
  | none => scan.events

/-- Everything that the scanner meets in a text. -/
def events (text : List Char) : List Event :=
  ((Text.numberedLines text).foldl Scan.next ⟨[], none⟩).finish

/-- Replace each occurrence of the two characters `\` and `letter` by a space. -/
def blankEscape (letter : Char) : List Char → List Char
  | [] => []
  | [c] => [c]
  | c :: d :: rest =>
    if c = '\\' ∧ d = letter then ' ' :: blankEscape letter rest
    else c :: blankEscape letter (d :: rest)

/-- The first token of a template literal in upper case; escaped newlines and tabs count as
blanks. -/
def mnemonic? (template : List Char) : Option (List Char) :=
  let blanked := blankEscape 't' (blankEscape 'n' template)
  match blanked.dropWhile Unicode.isBlank with
  | [] => none
  | c :: rest => some (upperCase ((c :: rest).takeWhile fun d => !Unicode.isBlank d))

/-- The mnemonics of template literals, in order. -/
def mnemonics (templates : List (List Char)) : List (List Char) :=
  templates.filterMap mnemonic?

/-- The first mnemonic of a template that a whitelist does not have. -/
def unknownMnemonic? (whitelist : Whitelist) (templates : List (List Char)) : Option (List Char) :=
  (mnemonics templates).find? fun mnemonic => !whitelist.contains mnemonic

/-- A judged block. -/
structure Block where
  range : LineRange
  /-- The lines of the block without outer blanks. -/
  lines : List (List Char)
  /-- Whether the destination knows every mnemonic of the block. -/
  native : Bool
  deriving DecidableEq, Repr

/-- The message about a block that the destination cannot run. -/
def unknownEntries (dest : Arch) (whitelist : Whitelist) (templates : List (List Char)) :
    List LogEntry :=
  match unknownMnemonic? whitelist templates with
  | none => []
  | some mnemonic =>
    [⟨.debug, .assembly, s!"instruction {String.ofList mnemonic} is unknown to {dest.id}"⟩]

/-- Whether the destination knows every mnemonic of a template. -/
def isNative (whitelist : Whitelist) (templates : List (List Char)) : Bool :=
  (unknownMnemonic? whitelist templates).isNone

/-- The block that an event completes, judged by a whitelist. -/
def Event.block? (whitelist : Whitelist) : Event → Option Block
  | .opened _ _ => none
  | .abandoned _ => none
  | .block read last =>
    some ⟨⟨read.start, last⟩, read.lines, isNative whitelist read.templates⟩

/-- What an event has to say in the log. -/
def Event.entries (dest : Arch) (whitelist : Whitelist) : Event → List LogEntry
  | .opened keyword line =>
    [⟨.trace, .assembly, s!"asm opener '{String.ofList keyword}' at line {line}"⟩]
  | .abandoned line => [⟨.debug, .assembly, s!"asm keyword at line {line} opens no block"⟩]
  | .block read _ => unknownEntries dest whitelist read.templates

/-- The inline assembly blocks of a text, judged by the whitelist of a destination. -/
def blocks (dest : Arch) (whitelist : Whitelist) (text : List Char) : Logged (List Block) :=
  let met := events text
  ⟨met.filterMap (Event.block? whitelist), met.flatMap (Event.entries dest whitelist)⟩

/-- The lines of the blocks that the destination cannot run. -/
def foreignBlocks (dest : Arch) (whitelist : Whitelist) (text : List Char) :
    Logged (List LineRange) := do
  let found ← blocks dest whitelist text
  return (found.filter fun block => !block.native).map Block.range

end CrossArch.Assembly
