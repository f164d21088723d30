import CrossArch.Proofs.Assembly.Order
import CrossArch.Proofs.Assembly.Reading

/-!
# The lines that a block notes

A block notes a line when the scanner comes to it with the block open, and it notes no line twice,
however often the scanner starts anew on that line. So on every line the open block has noted, or is
about to note, exactly the lines from its keyword up to that line, and a block that is complete has
noted the lines that it covers.
-/

namespace CrossArch.Assembly

/-- The block that an event completes has noted the lines that it covers, without outer blanks. -/
def Event.NotesLines (lines : List (List Char)) (event : Event) : Prop :=
  ∀ read last, event = .block read last →
    read.lines = ((⟨read.start, last⟩ : LineRange).select lines).map Unicode.trim

/-- While a line is read, the open block has noted all lines up to it once it notes this one. -/
structure NotesOn (lines : List (List Char)) (number : Nat) (line : List Char)
    (events : List Event) (pending : Option Pending) : Prop where
  closed : ∀ event ∈ events, event.NotesLines lines
  opened : ∀ current, pending = some current →
    (current.noteLine number line).lines =
      ((⟨current.start, number⟩ : LineRange).select lines).map Unicode.trim

/-- After a line, the open block has noted the lines up to it. -/
structure Scan.NotedUpTo (lines : List (List Char)) (number : Nat) (scan : Scan) : Prop where
  closed : ∀ event ∈ scan.events, event.NotesLines lines
  opened : ∀ current, scan.pending = some current →
    current.lines = ((⟨current.start, number⟩ : LineRange).select lines).map Unicode.trim

section Step

variable {lines later : List (List Char)} {number : Nat} {line : List Char}

theorem notesLines_append {events : List Event} {event : Event}
    (closed : ∀ earlier ∈ events, earlier.NotesLines lines) (notes : event.NotesLines lines) :
    ∀ earlier ∈ events ++ [event], earlier.NotesLines lines := by
  simp only [List.forall_mem_append, List.forall_mem_singleton]
  exact ⟨closed, notes⟩

/-- Whatever happens on a line, the block that is open when it ends has noted it. -/
theorem notedUpTo_scanLine (lineAt : LineAt lines number line later) (events : List Event)
    (pending : Option Pending) (rest : List Char)
    (notes : NotesOn lines number line events pending) :
    (scanLine number line events pending rest).NotedUpTo lines number := by
  fun_induction scanLine number line events pending rest with
  | case1 events rest current noted after closed ih =>
      apply ih
      refine ⟨notesLines_append notes.closed ?_, by simp⟩
      rintro _ _ ⟨⟩
      rw [(noted.lines_feed rest).1, (noted.lines_feed rest).2.2, Pending.start_noteLine]
      exact notes.opened current rfl
  | case2 events rest current noted notClosed ended givesUp ih =>
      apply ih
      refine ⟨notesLines_append notes.closed ?_, by simp⟩
      rintro _ _ ⟨⟩
  | case3 events rest current noted notClosed ended goesOn =>
      refine ⟨notes.closed, ?_⟩
      rintro _ ⟨⟩
      rw [(noted.feed rest).1.lines_endLine.1, (noted.feed rest).1.lines_endLine.2.2,
        (noted.lines_feed rest).1, (noted.lines_feed rest).2.2, Pending.start_noteLine]
      exact notes.opened current rfl
  | case4 events rest notFound => exact ⟨notes.closed, by simp⟩
  | case5 events rest opener found ih =>
      apply ih
      refine ⟨notesLines_append notes.closed (by rintro _ _ ⟨⟩), ?_⟩
      rintro _ ⟨⟩
      rw [Pending.noteLine_ofLine lineAt]
      rfl

variable {scan : Scan}

/-- On the next line the open block has that line still to note. -/
theorem Scan.NotedUpTo.notesOn (noted : scan.NotedUpTo lines number) (upTo : scan.ReadUpTo number)
    (lineAt : LineAt lines (number + 1) line later) :
    NotesOn lines (number + 1) line scan.events scan.pending := by
  refine ⟨noted.closed, ?_⟩
  intro current pending
  rcases upTo.follows.opened current pending with ⟨positive, le, -⟩
  have unread : current.lastLine ≠ number + 1 := by
    rw [upTo.lastLine current pending]
    omega
  rw [Pending.noteLine, if_neg unread, lineAt.select positive (Nat.le_succ_of_le le),
    Nat.add_sub_cancel, List.map_append, ← noted.opened current pending]
  rfl

/-- After any number of lines, the open block has noted all lines up to the last. -/
theorem notedUpTo_foldl (behind : lines.drop number = later) (upTo : scan.ReadUpTo number)
    (noted : scan.NotedUpTo lines number) :
    ((later.zipIdx (number + 1)).foldl Scan.next scan).NotedUpTo lines (number + later.length) := by
  induction later generalizing number scan with
  | nil => exact noted
  | cons line later ih =>
      have lineAt : LineAt lines (number + 1) line later := ⟨Nat.le_add_left 1 number, behind⟩
      have behind' : lines.drop (number + 1) = later := by
        rw [← List.tail_drop, behind, List.tail_cons]
      have step := notedUpTo_scanLine lineAt _ _ line (noted.notesOn upTo lineAt)
      have run := ih behind' (upTo.next line) step
      rwa [Nat.add_assoc, Nat.add_comm 1] at run

theorem notesLines_finish (upTo : scan.ReadUpTo number) (noted : scan.NotedUpTo lines number) :
    ∀ event ∈ scan.finish, event.NotesLines lines := by
  unfold Scan.finish
  split
  · rename_i current pending
    split
    · apply notesLines_append noted.closed
      rintro _ _ ⟨⟩
      rw [upTo.lastLine current pending]
      exact noted.opened current pending
    · exact noted.closed
  · exact noted.closed

end Step

theorem notesLines_events (text : List Char) :
    ∀ event ∈ events text, event.NotesLines (Text.lines text) := by
  have upTo : Scan.ReadUpTo 0 ⟨[], none⟩ := Scan.readUpTo_start
  have noted : (⟨[], none⟩ : Scan).NotedUpTo (Text.lines text) 0 := ⟨by simp, by simp⟩
  have behind : (Text.lines text).drop 0 = Text.lines text := List.drop_zero
  have upToEnd := readUpTo_foldl (Text.lines text) 0 _ upTo
  exact notesLines_finish upToEnd (notedUpTo_foldl behind upTo noted)

/--
Every block lies on lines of the text and consists of exactly those lines without outer blanks, one
for each line from its first to its last. A block ends on the line on which the next one starts, or
before it.
-/
theorem blocks_cover_their_lines (dest : Arch) (whitelist : Whitelist) (text : List Char) :
    (∀ block ∈ (blocks dest whitelist text).value,
      (1 ≤ block.range.first ∧ block.range.first ≤ block.range.last ∧
        block.range.last ≤ (Text.lines text).length) ∧
      block.lines = (block.range.select (Text.lines text)).map Unicode.trim ∧
      block.lines.length = block.range.last + 1 - block.range.first) ∧
    (blocks dest whitelist text).value.Pairwise fun block later =>
      block.range.last ≤ later.range.first := by
  have inOrder := inOrder_events text
  rw [← map_range_blocks whitelist, ← Text.length_lines] at inOrder
  refine ⟨?_, List.pairwise_map.1 inOrder.pairwise⟩
  intro block mem
  have bounds := inOrder.bounds _ (List.mem_map_of_mem mem)
  have noted : block.lines = (block.range.select (Text.lines text)).map Unicode.trim := by
    rcases List.mem_filterMap.1 mem with ⟨event, eventMem, judged⟩
    cases event with
    | opened keyword line => simp [Event.block?] at judged
    | abandoned line => simp [Event.block?] at judged
    | block read last =>
        cases judged
        exact notesLines_events text _ eventMem read last rfl
  refine ⟨bounds, noted, ?_⟩
  rw [noted, List.length_map, LineRange.select, List.length_take, List.length_drop]
  omega

example : (blocks .arm64 (.ofEntries []) "asm\nx;\n asm(\"a\") asm(\n\"b\"".toList).value =
    [⟨⟨3, 3⟩, ["asm(\"a\") asm(".toList], false⟩,
      ⟨⟨3, 4⟩, ["asm(\"a\") asm(".toList, "\"b\"".toList], false⟩] := by
  decide +kernel

end CrossArch.Assembly
