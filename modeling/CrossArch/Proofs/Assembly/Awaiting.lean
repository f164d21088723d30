import CrossArch.Proofs.Assembly.Extent

/-!
# Keywords that await their bracket

A block counts as started from its first bracket on. Whether it is started after a line can be told
without reading the line: it was started before, or a bracket opens in the line outside of its
literals. A started block is always completed, on the line of its last bracket or at the end of the
text, and with no block open all blocks that follow begin on the lines that follow.
-/

namespace CrossArch.Assembly

/-- Whether a bracket opens in a line, outside of its literals. -/
def opensBracket (text : List Char) : Bool :=
  (maskLine 1 [] text).any Mark.opens

theorem opensBracket_nil : opensBracket [] = false := by
  simp [opensBracket, maskLine]

theorem opensBracket_cons {c : Char} (notQuote : c ≠ '"') (rest : List Char) :
    opensBracket (c :: rest) = (decide (c = '(' ∨ c = '\x7b') || opensBracket rest) := by
  rw [opensBracket, maskLine, if_neg notQuote, List.any_cons, opensBracket]
  congr 1
  simp [Mark.opens]

namespace Pending

variable {pending next : Pending}

/-- A character outside of literals starts a block if it is a bracket that opens. -/
theorem started_readOutside? {c : Char} (notQuote : c ≠ '"')
    (read : pending.readOutside? c = some next) :
    next.literal = pending.literal ∧
      next.started = (pending.started || decide (c = '(' ∨ c = '\x7b')) := by
  rw [readOutside?, if_neg notQuote] at read
  split_ifs at read with opens closes one colon
  · cases read
    simp [started, opens]
  · cases read
    have positive := closes.2
    rw [started, bne_iff_ne] at positive
    have deeper : pending.depth - 1 ≠ 0 := by omega
    simp [started, opens, bne_iff_ne.2 positive, bne_iff_ne.2 deeper]
  · cases read
    simp [started, opens]
  · cases read
    simp [opens]

theorem started_of_readOutside?_eq_none {c : Char} (closes : pending.readOutside? c = none) :
    pending.started = true := by
  unfold readOutside? at closes
  split_ifs at closes with _ _ counted
  exact counted.2

/-- After a line a block is started if it was started before or a bracket opens in the line. -/
theorem started_readLine (outside : pending.literal = .outside) (text : List Char) :
    (pending.readLine text).1.started = (pending.started || opensBracket text) := by
  rw [opensBracket]
  fun_induction maskLine 1 [] text generalizing pending with
  | case1 => simp [readLine_nil pending outside]
  | case2 rest ih =>
      have opened : pending.readOutside? '"' =
          some { pending with literal := .inside false [] } := rfl
      have noBracket : Mark.opens ⟨.literal (splitLiteral rest).1, 1, [(splitLiteral rest).2]⟩ =
          false := by
        simp [Mark.opens]
      rw [readLine_of_some outside opened, readLine_literal, ih rfl, List.any_cons, noBracket,
        Bool.false_or]
      rfl
  | case3 c rest notQuote ih =>
      have opensIff : Mark.opens ⟨.code c, 1, [rest]⟩ = decide (c = '(' ∨ c = '\x7b') := by
        simp [Mark.opens]
      cases read : pending.readOutside? c with
      | none =>
          rw [readLine_of_none outside read, started_of_readOutside?_eq_none read, Bool.true_or]
      | some next =>
          rcases started_readOutside? notQuote read with ⟨literal, started⟩
          rw [readLine_of_some outside read, ih (literal.trans outside), started, List.any_cons,
            opensIff, Bool.or_assoc]

/-- Only a started block is closed. -/
theorem started_of_feed_some {text after : List Char}
    (closed : (pending.feed text).2 = some after) :
    (pending.feed text).1.started = true := by
  fun_induction feed pending text with
  | case1 => simp at closed
  | case2 pending c rest escaped reversed literal ih => exact ih closed
  | case3 pending c rest literal next read ih => exact ih closed
  | case4 pending c rest literal read => exact started_of_readOutside?_eq_none read

/-- A block is closed behind a bracket. -/
theorem exists_bracket_of_feed_some {text after : List Char}
    (closed : (pending.feed text).2 = some after) :
    ∃ front c, text = front ++ c :: after ∧ (c = ')' ∨ c = '\x7d') := by
  fun_induction feed pending text with
  | case1 => simp at closed
  | case2 pending c rest escaped reversed literal ih =>
      rcases ih closed with ⟨front, d, rfl, bracket⟩
      exact ⟨c :: front, d, rfl, bracket⟩
  | case3 pending c rest literal next read ih =>
      rcases ih closed with ⟨front, d, rfl, bracket⟩
      exact ⟨c :: front, d, rfl, bracket⟩
  | case4 pending c rest literal read =>
      refine ⟨[], c, by rw [Option.some.inj closed, List.nil_append], ?_⟩
      unfold readOutside? at read
      split_ifs at read with _ _ counted
      exact counted.1

theorem suffix_of_feed_some {text after : List Char} (closed : (pending.feed text).2 = some after) :
    after <:+ text := by
  rcases exists_bracket_of_feed_some closed with ⟨front, c, rfl, -⟩
  exact ⟨front ++ [c], by simp⟩

theorem started_of_readLine_some {text after : List Char}
    (closed : (pending.readLine text).2 = some after) :
    (pending.readLine text).1.started = true := by
  rw [readLine] at closed ⊢
  split at closed
  · rename_i found
    exact started_of_feed_some found
  · simp at closed

theorem start_readLine (pending : Pending) (text : List Char) :
    (pending.readLine text).1.start = pending.start := by
  rw [readLine]
  split
  · exact (pending.lines_feed text).1
  · exact (pending.feed text).1.lines_endLine.1.trans (pending.lines_feed text).1

theorem literal_endLine (pending : Pending) : pending.endLine.literal = .outside := by
  unfold endLine
  split
  · assumption
  · rfl

theorem literal_readLine {text : List Char} (goesOn : (pending.readLine text).2 = none) :
    (pending.readLine text).1.literal = .outside := by
  rw [readLine] at goesOn ⊢
  split at goesOn
  · simp at goesOn
  · exact literal_endLine _

@[simp]
theorem literal_noteLine (pending : Pending) (number : Nat) (line : List Char) :
    (pending.noteLine number line).literal = pending.literal := by
  unfold noteLine
  split <;> rfl

@[simp]
theorem started_noteLine (pending : Pending) (number : Nat) (line : List Char) :
    (pending.noteLine number line).started = pending.started := by
  unfold noteLine
  split <;> rfl

end Pending

/-- Whether the scanner has read a keyword and not yet its bracket. -/
def Scan.awaits (scan : Scan) : Bool :=
  scan.pending.any fun pending => !pending.started

/-- Without a bracket in the rest of a line, a keyword from an earlier line is given up, and one
from this line is still waiting. -/
theorem scanLine_of_awaiting (number : Nat) (line : List Char) (events : List Event)
    {current : Pending} {rest : List Char} (outside : current.literal = .outside)
    (unstarted : current.started = false) (noBracket : opensBracket rest = false) :
    ∃ read : Pending, read.literal = .outside ∧ read.started = false ∧ read.start = current.start ∧
      scanLine number line events (some current) rest =
        if current.start < number then
          scanLine number line (events ++ [.abandoned current.start]) none rest
        else ⟨events, some read⟩ := by
  have outside' : (current.noteLine number line).literal = .outside := by simpa using outside
  have started := Pending.started_readLine outside' rest
  rw [Pending.started_noteLine, unstarted, noBracket, Bool.false_or] at started
  have start := Pending.start_readLine (current.noteLine number line) rest
  rw [Pending.start_noteLine] at start
  have goesOn : ((current.noteLine number line).readLine rest).2 = none := by
    by_contra closed
    rcases Option.ne_none_iff_exists'.1 closed with ⟨after, closes⟩
    rw [Pending.started_of_readLine_some closes] at started
    contradiction
  refine ⟨_, Pending.literal_readLine goesOn, started, start, ?_⟩
  rw [scanLine_of_open (Prod.ext rfl goesOn), started, start]
  simp

/-- Scanning only adds events. -/
theorem prefix_scanLine (number : Nat) (line : List Char) (events : List Event)
    (pending : Option Pending) (rest : List Char) :
    events <+: (scanLine number line events pending rest).events := by
  fun_induction scanLine number line events pending rest with
  | case1 events rest current noted after closed ih => exact (List.prefix_append _ _).trans ih
  | case2 events rest current noted notClosed ended givesUp ih =>
      exact (List.prefix_append _ _).trans ih
  | case3 events rest current noted notClosed ended goesOn => exact List.prefix_rfl
  | case4 events rest notFound => exact List.prefix_rfl
  | case5 events rest opener found ih => exact (List.prefix_append _ _).trans ih

theorem prefix_finish (scan : Scan) : scan.events <+: scan.finish := by
  unfold Scan.finish
  split
  · split
    · exact List.prefix_append _ _
    · exact List.prefix_rfl
  · exact List.prefix_rfl

theorem ranges_append_block (events : List Event) (read : Pending) (last : Nat) :
    ranges (events ++ [.block read last]) = ranges events ++ [⟨read.start, last⟩] := by
  simp [ranges, Event.range?]

section Completed

variable {first : Nat} {before : List LineRange} {scan : Scan}

/-- Behind the blocks with the given ranges, the next block begins on the line `first`: it has been
completed, or it is open and started. -/
def Scan.Completes (first : Nat) (before : List LineRange) (scan : Scan) : Prop :=
  (∃ current, scan.pending = some current ∧ current.literal = .outside ∧ current.started = true ∧
      current.start = first ∧ ranges scan.events = before) ∨
    ∃ last more, ranges scan.events = before ++ ⟨first, last⟩ :: more

/-- A block that has been completed stays. -/
theorem completed_of_front {events events' : List Event} (front : events <+: events')
    (completed : ∃ last more, ranges events = before ++ ⟨first, last⟩ :: more) :
    ∃ last more, ranges events' = before ++ ⟨first, last⟩ :: more := by
  rcases front with ⟨added, rfl⟩
  rcases completed with ⟨last, more, same⟩
  refine ⟨last, more ++ ranges added, ?_⟩
  have split : ranges (events ++ added) = ranges events ++ ranges added := List.filterMap_append
  rw [split, same, List.append_assoc, List.cons_append]

/-- A block that is started on a line, or was started before, is completed. -/
theorem completes_scanLine {number : Nat} {line rest : List Char} {events : List Event}
    {current : Pending} (outside : current.literal = .outside)
    (starts : (current.started || opensBracket rest) = true) :
    (scanLine number line events (some current) rest).Completes current.start (ranges events) := by
  have outside' : (current.noteLine number line).literal = .outside := by simpa using outside
  have started := Pending.started_readLine outside' rest
  rw [Pending.started_noteLine, starts] at started
  have start := Pending.start_readLine (current.noteLine number line) rest
  rw [Pending.start_noteLine] at start
  cases read : (current.noteLine number line).readLine rest with
  | mk ended closed =>
      rw [read] at started start
      cases closed with
      | some after =>
          rw [scanLine_of_closed read]
          right
          apply completed_of_front (prefix_scanLine _ _ _ _ _)
          exact ⟨number, [], by rw [ranges_append_block, start]⟩
      | none =>
          have literal := Pending.literal_readLine (congrArg Prod.snd read)
          rw [read] at literal
          rw [scanLine_of_open read, started]
          exact Or.inl ⟨ended, rfl, literal, started, start, rfl⟩

theorem Scan.Completes.next (completes : scan.Completes first before) (line : List Char × Nat) :
    (scan.next line).Completes first before := by
  rcases completes with ⟨current, pending, outside, started, rfl, rfl⟩ | completed
  · rw [Scan.next, pending]
    exact completes_scanLine outside (by rw [started, Bool.true_or])
  · exact Or.inr (completed_of_front (prefix_scanLine _ _ _ _ _) completed)

/-- Whatever lines follow, the block is among the blocks in the end. -/
theorem Scan.Completes.run (completes : scan.Completes first before)
    (lines : List (List Char × Nat)) :
    ∃ last more, ranges (lines.foldl Scan.next scan).finish = before ++ ⟨first, last⟩ :: more := by
  induction lines generalizing scan with
  | nil =>
      rcases completes with ⟨current, pending, -, started, rfl, rfl⟩ | completed
      · refine ⟨current.lastLine, [], ?_⟩
        simp only [List.foldl_nil, Scan.finish, pending, started, if_true]
        exact ranges_append_block _ _ _
      · exact completed_of_front (prefix_finish scan) completed
  | cons line later ih => exact ih (completes.next line)

end Completed

section BeginsFrom

variable {low : Nat} {before : List LineRange} {scan : Scan}

/-- Behind the blocks with the given ranges, the completed blocks begin on the line `low` or
later. -/
def RangesFrom (low : Nat) (before : List LineRange) (events : List Event) : Prop :=
  ∃ more, ranges events = before ++ more ∧ ∀ range ∈ more, low ≤ range.first

theorem RangesFrom.append {events : List Event} {event : Event}
    (rangesFrom : RangesFrom low before events)
    (begins : ∀ range, event.range? = some range → low ≤ range.first) :
    RangesFrom low before (events ++ [event]) := by
  rcases rangesFrom with ⟨more, same, later⟩
  refine ⟨more ++ ranges [event], ?_, ?_⟩
  · have split : ranges (events ++ [event]) = ranges events ++ ranges [event] :=
      List.filterMap_append
    rw [split, same, List.append_assoc]
  · intro range mem
    rcases List.mem_append.1 mem with earlier | new
    · exact later range earlier
    · apply begins
      rcases List.mem_filterMap.1 new with ⟨event', eventMem, found⟩
      rwa [List.mem_singleton.1 eventMem] at found

/-- The same for all blocks, the one that is open included. -/
structure Scan.BeginsFrom (low : Nat) (before : List LineRange) (scan : Scan) : Prop where
  completed : RangesFrom low before scan.events
  opened : ∀ current, scan.pending = some current → low ≤ current.start

theorem beginsFrom_scanLine {number : Nat} (le : low ≤ number) (line : List Char)
    (events : List Event) (pending : Option Pending) (rest : List Char)
    (begins : (⟨events, pending⟩ : Scan).BeginsFrom low before) :
    (scanLine number line events pending rest).BeginsFrom low before := by
  fun_induction scanLine number line events pending rest with
  | case1 events rest current noted after closed ih =>
      refine ih ⟨begins.completed.append ?_, by simp⟩
      rintro _ ⟨⟩
      have start := begins.opened current rfl
      rwa [(noted.lines_feed rest).1, Pending.start_noteLine]
  | case2 events rest current noted notClosed ended givesUp ih =>
      exact ih ⟨begins.completed.append (by simp [Event.range?]), by simp⟩
  | case3 events rest current noted notClosed ended goesOn =>
      refine ⟨begins.completed, ?_⟩
      rintro _ ⟨⟩
      have start := begins.opened current rfl
      rwa [(noted.feed rest).1.lines_endLine.1, (noted.lines_feed rest).1, Pending.start_noteLine]
  | case4 events rest notFound => exact begins
  | case5 events rest opener found ih =>
      refine ih ⟨begins.completed.append (by simp [Event.range?]), ?_⟩
      rintro _ ⟨⟩
      exact le

/-- Whatever lines follow, all blocks begin on the line `low` or later. -/
theorem Scan.BeginsFrom.run (begins : scan.BeginsFrom low before) {number : Nat} (le : low ≤ number)
    (lines : List (List Char)) :
    RangesFrom low before ((lines.zipIdx number).foldl Scan.next scan).finish := by
  induction lines generalizing scan number with
  | nil =>
      rw [List.zipIdx_nil, List.foldl_nil, Scan.finish]
      split
      · rename_i current pending
        split
        · refine begins.completed.append ?_
          rintro _ ⟨⟩
          exact begins.opened current pending
        · exact begins.completed
      · exact begins.completed
  | cons line later ih =>
      rw [List.zipIdx_cons, List.foldl_cons]
      exact ih (beginsFrom_scanLine le line _ _ line begins) (Nat.le_succ_of_le le)

end BeginsFrom

end CrossArch.Assembly
