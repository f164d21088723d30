import CrossArch.Text.Bytes
import CrossArch.Text.Line

/-!
# Line numbers of byte offsets

A line counter answers on which line a byte offset lies. It remembers the last offset, so that
offsets asked in ascending order cost one pass over the text. An offset past the end or inside a
character has no answer.
-/

namespace CrossArch

/-- The last offset asked for, and the newlines before it. -/
structure LineCounter where
  offset : Nat
  newlines : Nat
  deriving DecidableEq, Repr

namespace LineCounter

/-- A counter at the start of a text. -/
def start : LineCounter :=
  ⟨0, 0⟩

/-- The line of an offset, and the counter moved there. -/
def lineAt? (counter : LineCounter) (text : List Char) (offset : Nat) :
    Option (Nat × LineCounter) := do
  let origin := if offset < counter.offset then start else counter
  let passed ← Text.slice? origin.offset offset text
  let newlines := origin.newlines + Text.newlines passed
  return (newlines + 1, ⟨offset, newlines⟩)

/-- The lines of several offsets, asked of one counter in order. -/
def linesAt? (counter : LineCounter) (text : List Char) : List Nat → Option (List Nat)
  | [] => some []
  | offset :: later => do
    let (line, moved) ← counter.lineAt? text offset
    return line :: (← moved.linesAt? text later)

end LineCounter

end CrossArch
