import CrossArch.Assembly.Block
import CrossArch.Proofs.Text.Line

/-!
# The lines of inline assembly blocks

The scanner reads a text line by line and has at most one block open. A block is opened on the line
that is being read, no earlier than the block before it was closed, and it is closed on a later line
or on the same one. So the blocks of a text lie on its lines, one after the other; two of them share
at most the line on which the first ends and the second begins.
-/

namespace CrossArch.Assembly

/-- The lines of the block that an event completes. -/
def Event.range? : Event → Option LineRange
  | .opened _ _ => none
  | .abandoned _ => none
  | .block read last => some ⟨read.start, last⟩

/-- The lines of the blocks that events complete, in order. -/
def ranges (events : List Event) : List LineRange :=
  events.filterMap Event.range?

/-- Ranges up to a line that follow each other. -/
structure InOrder (number : Nat) (ranges : List LineRange) : Prop where
  bounds : ∀ range ∈ ranges, 1 ≤ range.first ∧ range.first ≤ range.last ∧ range.last ≤ number
  pairwise : ranges.Pairwise fun range other => range.last ≤ other.first

namespace InOrder

variable {number later : Nat} {ranges : List LineRange}

theorem mono (inOrder : InOrder number ranges) (le : number ≤ later) : InOrder later ranges := by
  refine ⟨?_, inOrder.pairwise⟩
  intro range rangeMem
  have bounds := inOrder.bounds range rangeMem
  omega

theorem append_singleton {first : Nat} (inOrder : InOrder number ranges) (positive : 1 ≤ first)
    (le : first ≤ number) (after : ∀ range ∈ ranges, range.last ≤ first) :
    InOrder number (ranges ++ [⟨first, number⟩]) := by
  constructor
  · intro range rangeMem
    rcases List.mem_append.1 rangeMem with earlier | new
    · exact inOrder.bounds range earlier
    · rw [List.mem_singleton.1 new]
      exact ⟨positive, le, Nat.le_refl number⟩
  · rw [List.pairwise_append]
    refine ⟨inOrder.pairwise, List.pairwise_singleton _ _, ?_⟩
    intro range rangeMem other otherMem
    rw [List.mem_singleton.1 otherMem]
    exact after range rangeMem

end InOrder

namespace Pending

@[simp]
theorem start_noteLine (pending : Pending) (number : Nat) (line : List Char) :
    (pending.noteLine number line).start = pending.start := by
  unfold noteLine
  split <;> rfl

@[simp]
theorem lastLine_noteLine (pending : Pending) (number : Nat) (line : List Char) :
    (pending.noteLine number line).lastLine = number := by
  unfold noteLine
  split
  · assumption
  · rfl

theorem lines_readInside (pending : Pending) (escaped : Bool) (reversed : List Char) (c : Char) :
    (pending.readInside escaped reversed c).start = pending.start ∧
      (pending.readInside escaped reversed c).lastLine = pending.lastLine ∧
      (pending.readInside escaped reversed c).lines = pending.lines := by
  unfold readInside
  split_ifs <;> exact ⟨rfl, rfl, rfl⟩

theorem lines_readOutside? {pending next : Pending} {c : Char}
    (read : pending.readOutside? c = some next) :
    next.start = pending.start ∧ next.lastLine = pending.lastLine ∧ next.lines = pending.lines := by
  unfold readOutside? at read
  split_ifs at read <;> cases read <;> exact ⟨rfl, rfl, rfl⟩

/-- Reading characters changes neither the first line of a block nor the lines that were read. -/
theorem lines_feed (pending : Pending) (text : List Char) :
    (pending.feed text).1.start = pending.start ∧
      (pending.feed text).1.lastLine = pending.lastLine ∧
      (pending.feed text).1.lines = pending.lines := by
  fun_induction feed pending text with
  | case1 => exact ⟨rfl, rfl, rfl⟩
  | case2 pending c rest escaped reversed literal ih =>
      rw [ih.1, ih.2.1, ih.2.2]
      exact lines_readInside pending escaped reversed c
  | case3 pending c rest literal next read ih =>
      rw [ih.1, ih.2.1, ih.2.2]
      exact lines_readOutside? read
  | case4 => exact ⟨rfl, rfl, rfl⟩

theorem lines_endLine (pending : Pending) :
    pending.endLine.start = pending.start ∧ pending.endLine.lastLine = pending.lastLine ∧
      pending.endLine.lines = pending.lines := by
  unfold endLine
  split <;> exact ⟨rfl, rfl, rfl⟩

end Pending

/-- Blocks up to a line follow each other, and the block that is open follows them. -/
structure Follows (number : Nat) (events : List Event) (pending : Option Pending) : Prop where
  closed : InOrder number (ranges events)
  opened : ∀ current, pending = some current →
    1 ≤ current.start ∧ current.start ≤ number ∧
      ∀ range ∈ ranges events, range.last ≤ current.start

namespace Follows

variable {number : Nat} {events : List Event}

theorem of_none (closed : InOrder number (ranges events)) : Follows number events none :=
  ⟨closed, by simp⟩

/-- An event that completes no block changes nothing. -/
theorem append_none {pending : Option Pending} {event : Event}
    (follows : Follows number events pending) (noBlock : event.range? = none) :
    Follows number (events ++ [event]) pending := by
  have same : ranges (events ++ [event]) = ranges events := by
    simp [ranges, noBlock]
  rcases follows with ⟨closed, opened⟩
  rw [← same] at closed opened
  exact ⟨closed, opened⟩

/-- The block that is open is closed on the line that is being read. -/
theorem close {current read : Pending} (follows : Follows number events (some current))
    (start : read.start = current.start) :
    Follows number (events ++ [.block read number]) none := by
  rcases follows.opened current rfl with ⟨positive, le, after⟩
  rw [← start] at positive le after
  apply of_none
  simpa [ranges, Event.range?] using follows.closed.append_singleton positive le after

/-- A keyword on the line that is being read opens a block. -/
theorem open_line (follows : Follows number events none) (positive : 1 ≤ number) :
    Follows number events (some (Pending.ofLine number)) := by
  refine ⟨follows.closed, ?_⟩
  rintro current ⟨⟩
  refine ⟨positive, Nat.le_refl number, ?_⟩
  intro range rangeMem
  exact (follows.closed.bounds range rangeMem).2.2

end Follows

/-- After a line has been scanned, blocks follow each other, and an open block has read that
line. -/
structure Scan.ReadUpTo (number : Nat) (scan : Scan) : Prop where
  follows : Follows number scan.events scan.pending
  lastLine : ∀ current, scan.pending = some current → current.lastLine = number

/-- Without an opener in a line, nothing happens on it while no block is open. -/
theorem scanLine_of_find?_eq_none {number : Nat} {line rest : List Char} {events : List Event}
    (notFound : Opener.find? true rest = none) :
    scanLine number line events none rest = ⟨events, none⟩ := by
  rw [scanLine]
  split
  · rfl
  · rename_i opener found
    rw [notFound] at found
    simp at found

/-- Scanning the rest of a line keeps the blocks in order. -/
theorem readUpTo_scanLine {number : Nat} (positive : 1 ≤ number) (line : List Char)
    (events : List Event) (pending : Option Pending) (rest : List Char)
    (follows : Follows number events pending) :
    (scanLine number line events pending rest).ReadUpTo number := by
  fun_induction scanLine number line events pending rest with
  | case1 events rest current noted after closed ih =>
      apply ih
      apply follows.close
      rw [(noted.lines_feed rest).1]
      exact current.start_noteLine number line
  | case2 events rest current noted notClosed ended givesUp ih =>
      apply ih
      exact (Follows.of_none follows.closed).append_none rfl
  | case3 events rest current noted notClosed ended goesOn =>
      have start : ended.start = current.start := by
        rw [(noted.feed rest).1.lines_endLine.1, (noted.lines_feed rest).1]
        exact current.start_noteLine number line
      have lastLine : ended.lastLine = number := by
        rw [(noted.feed rest).1.lines_endLine.2.1, (noted.lines_feed rest).2.1]
        exact current.lastLine_noteLine number line
      refine ⟨⟨follows.closed, ?_⟩, ?_⟩
      · rintro _ ⟨⟩
        rw [start]
        exact follows.opened current rfl
      · rintro _ ⟨⟩
        exact lastLine
  | case4 events rest notFound => exact ⟨follows, by simp⟩
  | case5 events rest opener found ih =>
      apply ih
      exact (follows.open_line positive).append_none rfl

theorem Scan.ReadUpTo.next {number : Nat} {scan : Scan} (upTo : scan.ReadUpTo number)
    (line : List Char) : (scan.next (line, number + 1)).ReadUpTo (number + 1) := by
  apply readUpTo_scanLine (Nat.le_add_left 1 number)
  rcases upTo.follows with ⟨closed, opened⟩
  refine ⟨closed.mono (Nat.le_succ number), ?_⟩
  intro current pending
  rcases opened current pending with ⟨positive, le, after⟩
  exact ⟨positive, Nat.le_succ_of_le le, after⟩

/-- Scanning lines with ascending numbers keeps the blocks in order. -/
theorem readUpTo_foldl (lines : List (List Char)) (number : Nat) (scan : Scan)
    (upTo : scan.ReadUpTo number) :
    ((lines.zipIdx (number + 1)).foldl Scan.next scan).ReadUpTo (number + lines.length) := by
  induction lines generalizing number scan with
  | nil => exact upTo
  | cons line later ih =>
      rw [List.zipIdx_cons, List.foldl_cons, List.length_cons, Nat.add_comm later.length,
        ← Nat.add_assoc]
      exact ih (number + 1) _ (upTo.next line)

/-- At the end of the text, a block that is still open is closed on the last line. -/
theorem inOrder_finish {number : Nat} {scan : Scan} (upTo : scan.ReadUpTo number) :
    InOrder number (ranges scan.finish) := by
  unfold Scan.finish
  split
  · rename_i current pending
    split
    · rw [upTo.lastLine current pending]
      have follows := upTo.follows
      rw [pending] at follows
      exact (follows.close rfl).closed
    · exact upTo.follows.closed
  · exact upTo.follows.closed

theorem Scan.readUpTo_start : Scan.ReadUpTo 0 ⟨[], none⟩ :=
  ⟨Follows.of_none ⟨by simp [ranges], .nil⟩, by simp⟩

/-- The blocks of a text lie on its lines and follow each other. -/
theorem inOrder_events (text : List Char) :
    InOrder (Text.newlines text + 1) (ranges (events text)) := by
  have upTo := readUpTo_foldl (Text.lines text) 0 ⟨[], none⟩ Scan.readUpTo_start
  rw [Nat.zero_add, Text.length_lines] at upTo
  exact inOrder_finish upTo

/-- The ranges of judged blocks are those of the events that complete them. -/
theorem map_range_blocks (whitelist : Whitelist) (met : List Event) :
    (met.filterMap (Event.block? whitelist)).map Block.range = ranges met := by
  rw [List.map_filterMap, ranges]
  apply List.filterMap_congr
  intro event _
  cases event <;> rfl

/-- The ranges of the blocks that a destination cannot run are among those of all blocks, in
order. -/
theorem foreignBlocks_sublist (dest : Arch) (whitelist : Whitelist) (text : List Char) :
    (foreignBlocks dest whitelist text).value.Sublist (ranges (events text)) := by
  rw [← map_range_blocks whitelist (events text)]
  exact List.Sublist.map Block.range List.filter_sublist

end CrossArch.Assembly
