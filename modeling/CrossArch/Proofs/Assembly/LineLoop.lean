import CrossArch.Proofs.Assembly.Awaiting
import CrossArch.Proofs.Assembly.OpenerWords
import CrossArch.Proofs.Text.Bytes

/-!
# The loop over a line

A line is scanned by a loop that keeps an offset into it. Each turn looks at the line from the
offset on, so the offset must not lie past the end of the line or inside a character. The turns are
written down here as they go from offset to offset; a turn at a bad offset has no outcome, and any
other turn has one. The loop never comes to a bad offset, since what a turn leaves to be read is
always an end of what was left before. It ends although giving up a keyword reads nothing: that turn
leaves no block open, and the next turn reads a keyword or is the last.

Over the lines of a text, each loop begins with the blocks and the open block that the loop before
has left. There is exactly one way through the lines, and it comes to the blocks of the text.
-/

namespace CrossArch.Assembly

/-- Read characters from an offset on until the block closes: the block, and the offset behind the
bracket that closes it. -/
def Pending.consume (pending : Pending) (offset : Nat) : List Char → Pending × Option Nat
  | [] => (pending, none)
  | c :: rest =>
    match pending.literal with
    | .inside escaped reversed =>
      (pending.readInside escaped reversed c).consume (offset + c.utf8Size) rest
    | .outside =>
      match pending.readOutside? c with
      | some next => next.consume (offset + c.utf8Size) rest
      | none => (pending, some (offset + c.utf8Size))

/-- The offset in `text` of the end of an opener's keyword. -/
def Opener.keywordEnd (opener : Opener) (text : List Char) : Nat :=
  Text.byteLength text - Text.byteLength opener.afterKeyword

/-- Where the loop stands: the blocks that are complete, the block that is open, and the offset. -/
structure LineCursor where
  found : List Block
  pending : Option Pending
  pos : Nat

/-- What a turn leads to: another turn, or the end of the loop. -/
inductive LineTurn where
  | again (next : LineCursor)
  | leave (last : LineCursor)

section Loop

variable (whitelist : Whitelist) (number : Nat) (line : List Char)

/-- A turn at a cursor when `rest` is what is left of the line there. -/
def LineCursor.turnAt (cursor : LineCursor) (rest : List Char) : LineTurn :=
  match cursor.pending with
  | some current =>
    match (current.noteLine number line).consume 0 rest with
    | (read, some consumed) =>
      .again ⟨cursor.found ++ (Event.block? whitelist (.block read number)).toList, none,
        cursor.pos + consumed⟩
    | (read, none) =>
      if !read.endLine.started && read.endLine.start < number then
        .again ⟨cursor.found, none, cursor.pos⟩
      else .leave ⟨cursor.found, some read.endLine, cursor.pos⟩
  | none =>
    match Opener.find? true rest with
    | some opener =>
      .again ⟨cursor.found, some (Pending.ofLine number), cursor.pos + opener.keywordEnd rest⟩
    | none => .leave cursor

/-- A turn, unless the line cannot be cut at the offset. -/
def LineCursor.turn? (cursor : LineCursor) : Option LineTurn :=
  (Text.dropBytes? cursor.pos line).map (cursor.turnAt whitelist number line)

/-- The loop goes from a cursor to its end; the cursors at which its turns are made are listed. -/
inductive Runs : LineCursor → List LineCursor → LineCursor → Prop where
  | leave {cursor last : LineCursor}
      (turn : cursor.turn? whitelist number line = some (.leave last)) : Runs cursor [cursor] last
  | again {cursor next last : LineCursor} {cursors : List LineCursor}
      (turn : cursor.turn? whitelist number line = some (.again next))
      (later : Runs next cursors last) : Runs cursor (cursor :: cursors) last

end Loop

section Offsets

variable {pending : Pending} {text after : List Char}

theorem Pending.consume_of_closed (closed : (pending.feed text).2 = some after) (offset : Nat) :
    ∃ passed, text = passed ++ after ∧
      pending.consume offset text =
        ((pending.feed text).1, some (offset + Text.byteLength passed)) := by
  fun_induction feed pending text generalizing offset with
  | case1 => simp at closed
  | case2 pending c rest escaped reversed literal ih =>
      rcases ih closed (offset + c.utf8Size) with ⟨passed, rfl, consumed⟩
      exact ⟨c :: passed, rfl, by simp [consume, literal, consumed, Nat.add_assoc]⟩
  | case3 pending c rest literal next read ih =>
      rcases ih closed (offset + c.utf8Size) with ⟨passed, rfl, consumed⟩
      exact ⟨c :: passed, rfl, by simp [consume, literal, read, consumed, Nat.add_assoc]⟩
  | case4 pending c rest literal read =>
      cases closed
      exact ⟨[c], rfl, by simp [consume, literal, read]⟩

theorem Pending.consume_of_open (notClosed : (pending.feed text).2 = none) (offset : Nat) :
    pending.consume offset text = ((pending.feed text).1, none) := by
  fun_induction feed pending text generalizing offset with
  | case1 => rfl
  | case2 pending c rest escaped reversed literal ih => simp [consume, literal, ih notClosed]
  | case3 pending c rest literal next read ih => simp [consume, literal, read, ih notClosed]
  | case4 => simp at notClosed

theorem Opener.keywordEnd_of_find? {opener : Opener}
    (found : Opener.find? true text = some opener) :
    ∃ passed, text = passed ++ opener.afterKeyword ∧
      opener.keywordEnd text = Text.byteLength passed := by
  rcases Opener.suffix_find? found with ⟨passed, rfl⟩
  exact ⟨passed, rfl, by simp [keywordEnd]⟩

end Offsets

/-- The offset of a cursor is that at which `rest` begins, an end of the line. -/
def LineCursor.StandsBefore (line rest : List Char) (cursor : LineCursor) : Prop :=
  ∃ front, line = front ++ rest ∧ cursor.pos = Text.byteLength front

namespace LineCursor

variable {line rest : List Char} {cursor : LineCursor}

theorem StandsBefore.isBoundary (stands : cursor.StandsBefore line rest) :
    Text.IsBoundary line cursor.pos := by
  rcases stands with ⟨front, rfl, pos⟩
  rw [pos]
  exact Text.isBoundary_iff.2 ⟨front, List.prefix_append front rest, rfl⟩

theorem StandsBefore.turn?_eq (stands : cursor.StandsBefore line rest) (whitelist : Whitelist)
    (number : Nat) :
    cursor.turn? whitelist number line = some (cursor.turnAt whitelist number line rest) := by
  rcases stands with ⟨front, rfl, pos⟩
  simp [turn?, pos, Text.dropBytes?_append]

theorem StandsBefore.move {passed after : List Char}
    (stands : cursor.StandsBefore line (passed ++ after)) (found : List Block)
    (pending : Option Pending) :
    StandsBefore line after ⟨found, pending, cursor.pos + Text.byteLength passed⟩ := by
  rcases stands with ⟨front, rfl, pos⟩
  exact ⟨front ++ passed, by simp, by simp [pos]⟩

end LineCursor

/-- A run of the loop to its end that stays on the boundaries of the line and never goes back. -/
structure SafeRun (whitelist : Whitelist) (number : Nat) (line : List Char) (cursor : LineCursor)
    (cursors : List LineCursor) (last : LineCursor) : Prop where
  runs : Runs whitelist number line cursor cursors last
  onward : ∀ later ∈ cursors, cursor.pos ≤ later.pos
  ascending : cursors.Pairwise fun earlier later => earlier.pos ≤ later.pos
  boundary : ∀ later ∈ cursors, Text.IsBoundary line later.pos

namespace SafeRun

variable {whitelist : Whitelist} {number : Nat} {line rest : List Char}
  {cursor next last : LineCursor} {cursors : List LineCursor}

theorem leave (stands : cursor.StandsBefore line rest)
    (turn : cursor.turnAt whitelist number line rest = .leave last) :
    SafeRun whitelist number line cursor [cursor] last := by
  refine ⟨.leave ?_, ?_, ?_, ?_⟩
  · rw [stands.turn?_eq, turn]
  · simp
  · simp
  · simpa using stands.isBoundary

theorem again (stands : cursor.StandsBefore line rest)
    (turn : cursor.turnAt whitelist number line rest = .again next) (le : cursor.pos ≤ next.pos)
    (run : SafeRun whitelist number line next cursors last) :
    SafeRun whitelist number line cursor (cursor :: cursors) last := by
  have onward : ∀ later ∈ cursors, cursor.pos ≤ later.pos := by
    intro later mem
    exact Nat.le_trans le (run.onward later mem)
  refine ⟨.again ?_ run.runs, ?_, ?_, ?_⟩
  · rw [stands.turn?_eq, turn]
  · simpa using onward
  · exact List.pairwise_cons.2 ⟨onward, run.ascending⟩
  · simpa using ⟨stands.isBoundary, run.boundary⟩

theorem exists_again {turns fewer : Nat} {result : LineCursor → Prop}
    (stands : cursor.StandsBefore line rest)
    (turn : cursor.turnAt whitelist number line rest = .again next) (le : cursor.pos ≤ next.pos)
    (less : fewer < turns)
    (later : ∃ cursors last, SafeRun whitelist number line next cursors last ∧
      cursors.length ≤ fewer + 1 ∧ result last) :
    ∃ cursors last, SafeRun whitelist number line cursor cursors last ∧
      cursors.length ≤ turns + 1 ∧ result last := by
  rcases later with ⟨cursors, last, run, few, comesTo⟩
  refine ⟨cursor :: cursors, last, run.again stands turn le, ?_, comesTo⟩
  simp only [List.length_cons]
  omega

end SafeRun

section TurnAt

variable {whitelist : Whitelist} {number : Nat} {line rest after : List Char} {cursor : LineCursor}
  {current : Pending}

theorem turnAt_of_closed (opened : cursor.pending = some current)
    (closed : ((current.noteLine number line).feed rest).2 = some after) :
    ∃ passed, rest = passed ++ after ∧ cursor.turnAt whitelist number line rest = .again
      ⟨cursor.found ++ (Event.block? whitelist
        (.block ((current.noteLine number line).feed rest).1 number)).toList, none,
        cursor.pos + Text.byteLength passed⟩ := by
  rcases Pending.consume_of_closed closed 0 with ⟨passed, split, consumed⟩
  refine ⟨passed, split, ?_⟩
  simp only [LineCursor.turnAt, opened]
  rw [consumed, Nat.zero_add]

theorem turnAt_of_open (opened : cursor.pending = some current)
    (notClosed : ((current.noteLine number line).feed rest).2 = none) {ended : Pending}
    (isEnded : ((current.noteLine number line).feed rest).1.endLine = ended) :
    cursor.turnAt whitelist number line rest =
      if !ended.started && ended.start < number then .again ⟨cursor.found, none, cursor.pos⟩
      else .leave ⟨cursor.found, some ended, cursor.pos⟩ := by
  simp only [LineCursor.turnAt, opened]
  rw [Pending.consume_of_open notClosed, ← isEnded]

theorem turnAt_of_opener (closed : cursor.pending = none) {opener : Opener}
    (found : Opener.find? true rest = some opener) :
    ∃ passed, rest = passed ++ opener.afterKeyword ∧
      cursor.turnAt whitelist number line rest = .again
        ⟨cursor.found, some (Pending.ofLine number), cursor.pos + Text.byteLength passed⟩ := by
  rcases Opener.keywordEnd_of_find? found with ⟨passed, split, size⟩
  exact ⟨passed, split, by simp only [LineCursor.turnAt, closed, found, size]⟩

theorem turnAt_of_no_opener (closed : cursor.pending = none)
    (notFound : Opener.find? true rest = none) :
    cursor.turnAt whitelist number line rest = .leave cursor := by
  simp only [LineCursor.turnAt, closed, notFound]

end TurnAt

theorem lineMeasure_lt_of_shorter {rest after : List Char} (shorter : after.length < rest.length)
    (pending pending' : Option Pending) :
    lineMeasure pending' after < lineMeasure pending rest := by
  unfold lineMeasure
  split <;> split <;> omega

/-- The loop comes to what the scanner makes of the line, and the measure of the scanner bounds its
turns. -/
theorem exists_safeRun (whitelist : Whitelist) (number : Nat) (line : List Char)
    (before : List Block) (events : List Event) (pending : Option Pending) (rest : List Char) :
    ∀ cursor : LineCursor, cursor.StandsBefore line rest → cursor.pending = pending →
      cursor.found = before ++ events.filterMap (Event.block? whitelist) →
      ∃ cursors last, SafeRun whitelist number line cursor cursors last ∧
        cursors.length ≤ lineMeasure pending rest + 1 ∧
        last.pending = (scanLine number line events pending rest).pending ∧
        last.found = before ++
          (scanLine number line events pending rest).events.filterMap (Event.block? whitelist) := by
  -- Each call of the scanner to itself is a turn, and the cursor stands before what is passed on.
  fun_induction scanLine number line events pending rest with
  | case1 events rest current noted after closed ih =>
      intro cursor stands opened found
      rcases turnAt_of_closed opened closed with ⟨passed, rfl, turn⟩
      have less := lineMeasure_lt_of_shorter (Pending.length_feed closed) (some current) none
      apply SafeRun.exists_again stands turn (Nat.le_add_right _ _) less
      apply ih _ (stands.move _ _) rfl
      rw [found, List.filterMap_append, List.append_assoc]
      rfl
  | case2 events rest current noted notClosed ended givesUp ih =>
      intro cursor stands opened found
      have turn : cursor.turnAt whitelist number line rest =
          .again ⟨cursor.found, none, cursor.pos⟩ :=
        (turnAt_of_open opened notClosed rfl).trans (if_pos givesUp)
      have less : lineMeasure none rest < lineMeasure (some current) rest := by simp [lineMeasure]
      apply SafeRun.exists_again stands turn (Nat.le_refl _) less
      apply ih ⟨cursor.found, none, cursor.pos⟩ stands rfl
      rw [found, List.filterMap_append]
      simp [Event.block?]
  | case3 events rest current noted notClosed ended goesOn =>
      intro cursor stands opened found
      have turn : cursor.turnAt whitelist number line rest =
          .leave ⟨cursor.found, some ended, cursor.pos⟩ :=
        (turnAt_of_open opened notClosed rfl).trans (if_neg goesOn)
      exact ⟨[cursor], _, .leave stands turn, by simp, rfl, found⟩
  | case4 events rest notFound =>
      intro cursor stands opened found
      exact ⟨[cursor], cursor, .leave stands (turnAt_of_no_opener opened notFound), by simp, opened,
        found⟩
  | case5 events rest opener opens ih =>
      intro cursor stands opened found
      rcases turnAt_of_opener opened opens with ⟨passed, split, turn⟩
      have less := lineMeasure_lt_of_shorter (Opener.length_find? opens) none
        (some (Pending.ofLine number))
      apply SafeRun.exists_again stands turn (Nat.le_add_right _ _) less
      rw [split] at stands
      apply ih _ (stands.move _ _) rfl
      rw [found, List.filterMap_append]
      simp [Event.block?]

/--
On every line, whatever block is open when the line begins and whatever the whitelist, the loop ends
with the blocks and the open block that the scanner of the line gives. It makes a bounded number of
turns, it never cuts the line outside of its boundaries, and its offset never goes back or past the
end of the line.
-/
theorem lineLoop_ends_in_line (whitelist : Whitelist) (number : Nat) (line : List Char)
    (found : List Block) (pending : Option Pending) :
    ∃ cursors last, Runs whitelist number line ⟨found, pending, 0⟩ cursors last ∧
      last.found = found ++
        (scanLine number line [] pending line).events.filterMap (Event.block? whitelist) ∧
      last.pending = (scanLine number line [] pending line).pending ∧
      cursors.length ≤ 2 * line.length + 2 ∧
      (cursors.Pairwise fun earlier later => earlier.pos ≤ later.pos) ∧
      ∀ cursor ∈ cursors, cursor.pos ≤ Text.byteLength line ∧ Text.IsBoundary line cursor.pos := by
  have stands : LineCursor.StandsBefore line line ⟨found, pending, 0⟩ := ⟨[], rfl, rfl⟩
  rcases exists_safeRun whitelist number line found [] pending line _ stands rfl (by simp) with
    ⟨cursors, last, run, few, pending_eq, found_eq⟩
  refine ⟨cursors, last, run.runs, found_eq, pending_eq, ?_, run.ascending, ?_⟩
  · unfold lineMeasure at few
    split at few <;> omega
  · intro cursor mem
    have boundary := run.boundary cursor mem
    exact ⟨boundary.le_byteLength, boundary⟩

/-! ## The lines of a text -/

/-- The loops over numbered lines, one after the other, from the blocks that are complete and the
block that is open to those behind the last line. -/
inductive TextRuns (whitelist : Whitelist) :
    List Block → Option Pending → List (List Char × Nat) → List Block → Option Pending → Prop where
  | done {found : List Block} {pending : Option Pending} :
      TextRuns whitelist found pending [] found pending
  | line {found found' : List Block} {pending pending' : Option Pending} {line : List Char}
      {number : Nat} {lines : List (List Char × Nat)} {cursors : List LineCursor}
      {last : LineCursor}
      (run : Runs whitelist number line ⟨found, pending, 0⟩ cursors last)
      (later : TextRuns whitelist last.found last.pending lines found' pending') :
      TextRuns whitelist found pending ((line, number) :: lines) found' pending'

section Text

variable {whitelist : Whitelist}

/-- The loop over a line can end in one way only. -/
theorem Runs.unique {number : Nat} {line : List Char} {cursor last last' : LineCursor}
    {cursors cursors' : List LineCursor} (run : Runs whitelist number line cursor cursors last)
    (run' : Runs whitelist number line cursor cursors' last') : last = last' := by
  induction run generalizing cursors' with
  | leave turn =>
      cases run' with
      | leave turn' => simpa [turn] using turn'
      | again turn' _ => simp [turn] at turn'
  | again turn _ ih =>
      cases run' with
      | leave turn' => simp [turn] at turn'
      | again turn' later' =>
          rw [turn] at turn'
          cases turn'
          exact ih later'

/-- A loop over a line does what the scanner does with the line. -/
theorem runs_next (scan : Scan) (line : List Char) (number : Nat) :
    ∃ cursors pos, Runs whitelist number line
      ⟨scan.events.filterMap (Event.block? whitelist), scan.pending, 0⟩ cursors
      ⟨(scan.next (line, number)).events.filterMap (Event.block? whitelist),
        (scan.next (line, number)).pending, pos⟩ := by
  have stands : LineCursor.StandsBefore line line
      ⟨scan.events.filterMap (Event.block? whitelist), scan.pending, 0⟩ := ⟨[], rfl, rfl⟩
  rcases exists_safeRun whitelist number line [] scan.events scan.pending line _ stands rfl rfl with
    ⟨cursors, ⟨found, pending, pos⟩, run, -, rfl, rfl⟩
  exact ⟨cursors, pos, run.runs⟩

/-- The loops over some lines do what the scanner does with the lines, and nothing else. -/
theorem textRuns_iff (scan : Scan) {lines : List (List Char × Nat)} {found : List Block}
    {pending : Option Pending} :
    TextRuns whitelist (scan.events.filterMap (Event.block? whitelist)) scan.pending lines found
        pending ↔
      found = (lines.foldl Scan.next scan).events.filterMap (Event.block? whitelist) ∧
        pending = (lines.foldl Scan.next scan).pending := by
  induction lines generalizing scan with
  | nil =>
      constructor
      · intro runs
        cases runs
        exact ⟨rfl, rfl⟩
      · rintro ⟨rfl, rfl⟩
        exact .done
  | cons numbered lines ih =>
      rcases numbered with ⟨line, number⟩
      rcases runs_next scan line number with ⟨cursors, pos, run⟩
      rw [List.foldl_cons, ← ih]
      constructor
      · rintro (_ | ⟨run', later⟩)
        rwa [← run.unique run'] at later
      · exact .line run

/-- The blocks of a text are those that the loops over its lines complete, and the block that is
still open behind the last line if a bracket has opened it. -/
theorem textLoop_ends_in_blocks (dest : Arch) (whitelist : Whitelist) (text : List Char) :
    ∃ found pending,
      (∀ found' pending', TextRuns whitelist [] none (Text.numberedLines text) found' pending' ↔
        found' = found ∧ pending' = pending) ∧
      (blocks dest whitelist text).value =
        found ++ ((pending.filter Pending.started).bind fun read =>
          Event.block? whitelist (.block read read.lastLine)).toList := by
  refine ⟨_, _, fun found' pending' => textRuns_iff ⟨[], none⟩, ?_⟩
  simp only [blocks, events, Scan.finish]
  generalize (Text.numberedLines text).foldl Scan.next ⟨[], none⟩ = scan
  cases opened : scan.pending with
  | none => simp
  | some read => cases started : read.started <;> simp [Option.filter_some, started, Event.block?]

end Text

end CrossArch.Assembly
