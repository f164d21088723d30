import CrossArch.Conditional.Directive
import CrossArch.Log

/-!
# Conditional segments

A segment runs from an opening directive to its `#endif`. Its own directives are those two and the
alternatives between them that belong to no inner segment. A segment is flagged for a destination
when its own directives name some architecture but never the destination: such code silently leaves
the destination out.

Segments are grouped with a stack of open frames. A flagged segment is reported and covers what was
flagged inside it; a segment that is not flagged passes on what was flagged inside it.
-/

namespace CrossArch

namespace Segment

/-- Whether directives name an architecture, but not the destination. -/
def excludes (own : List Directive) (dest : Arch) : Bool :=
  own.any (fun directive => directive.tag.isSome) &&
    !own.any (fun directive => directive.tag == some dest)

/-- An open segment: its own directives so far, and what was flagged inside it. -/
structure Frame where
  opener : Directive
  later : List Directive
  nested : List LineRange

namespace Frame

/-- The own directives of a frame, in order. -/
def own (frame : Frame) : List Directive :=
  frame.opener :: frame.later

/-- The lines from the opener to the last own directive. -/
def range (frame : Frame) : LineRange :=
  ⟨frame.opener.line, (frame.own.getLast (by simp [own])).line⟩

/-- What a closed segment reports to the segment around it. -/
def reported (frame : Frame) (dest : Arch) : List LineRange :=
  if excludes frame.own dest then [frame.range] else frame.nested

/-- The message about a flagged segment. -/
def message (frame : Frame) (dest : Arch) : String :=
  let tags := frame.own.map fun directive => "\"" ++ Directive.tagName directive.tag ++ "\""
  s!"macro segment {frame.range.render} excludes {dest.id}: [" ++ ", ".intercalate tags ++ "]"

end Frame

/-- The state of the grouping: open frames, innermost first, and what is flagged outside all of
them. -/
structure State where
  stack : List Frame
  flagged : List LineRange
  log : List LogEntry

/-- Add a debug message. -/
def State.note (state : State) (message : String) : State :=
  { state with log := state.log ++ [⟨.debug, .conditionals, message⟩] }

/-- Hand what a closed segment reports to the innermost open frame, or outside. -/
def State.report (state : State) (ranges : List LineRange) : State :=
  match state.stack with
  | [] => { state with flagged := state.flagged ++ ranges }
  | parent :: outer =>
    { state with stack := { parent with nested := parent.nested ++ ranges } :: outer }

/-- Close a frame that has been taken from the stack. -/
def State.close (state : State) (dest : Arch) (frame : Frame) : State :=
  let noted := if excludes frame.own dest then state.note (frame.message dest) else state
  noted.report (frame.reported dest)

/-- Read one directive. -/
def State.read (dest : Arch) (state : State) (directive : Directive) : State :=
  if directive.kind.opens then
    { state with stack := ⟨directive, [], []⟩ :: state.stack }
  else
    match state.stack with
    | [] => state.note s!"ignoring unmatched directive at line {directive.line}: {directive.text}"
    | top :: outer =>
      let extended := { top with later := top.later ++ [directive] }
      if directive.kind = .endIf then State.close { state with stack := outer } dest extended
      else { state with stack := extended :: outer }

/-- The state after reading directives in order. -/
def State.readAll (dest : Arch) (directives : List Directive) : State :=
  directives.foldl (State.read dest) ⟨[], [], []⟩

/-- All flagged lines when no directive follows; open frames only pass on what is inside them. -/
def State.finish (state : State) : List LineRange :=
  (state.flagged ++ state.stack.reverse.flatMap Frame.nested).mergeSort LineRange.precedes

/-- The messages about segments that are still open. -/
def State.unclosed (state : State) : List LogEntry :=
  state.stack.reverse.map fun frame =>
    ⟨.debug, .conditionals, s!"segment opened at line {frame.opener.line} has no #endif"⟩

end Segment

/-- The lines of the flagged segments that directives form, sorted. -/
def flaggedSegments (dest : Arch) (directives : List Directive) : Logged (List LineRange) :=
  let state := Segment.State.readAll dest directives
  ⟨state.finish, state.log ++ state.unclosed⟩

/-- The lines of the flagged segments of a text, sorted. -/
def analyzeConditionals (dest : Arch) (text : List Char) : Logged (List LineRange) :=
  flaggedSegments dest (Directive.all text)

end CrossArch
