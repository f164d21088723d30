import CrossArch.Proofs.Assembly.OpenerReturn
import CrossArch.Proofs.Assembly.ReadingReturn
import CrossArch.Proofs.Assembly.SplitOpener

/-!
# Inline assembly and line endings

A text whose lines end in carriage return and newline is scanned like the text whose lines end in a
newline only, with one exception: a keyword that ends its line is not seen before a carriage return.
So the two scanners agree until a keyword ends a line. If the next line has no bracket, the keyword
is given up, and they agree again. If it has one, a block begins on the line of the keyword, and
only one of the scanners finds it. The blocks are therefore the same exactly if no keyword has its
bracket on the next line.
-/

namespace CrossArch

namespace Text

/-- Lines with a carriage return added to all but the last. -/
def addReturns : List (List Char) → List (List Char)
  | [] => []
  | [last] => [last]
  | line :: next :: later => (line ++ ['\r']) :: addReturns (next :: later)

/-- A character that begins the first line stays in front of it. -/
theorem addReturns_cons_cons (c : Char) (line : List Char) (later : List (List Char)) :
    ∃ line' later', addReturns (line :: later) = line' :: later' ∧
      addReturns ((c :: line) :: later) = (c :: line') :: later' := by
  cases later with
  | nil => exact ⟨line, [], rfl, rfl⟩
  | cons next later => exact ⟨line ++ ['\r'], addReturns (next :: later), rfl, rfl⟩

theorem lines_withReturns_eq (text : List Char) :
    lines (withReturns text) = addReturns (lines text) := by
  induction text with
  | nil => rfl
  | cons c rest ih =>
      rcases exists_lines_eq_cons rest with ⟨line, later, same⟩
      by_cases newline : c = '\n'
      · subst newline
        rw [withReturns_newline_cons, lines_newline_cons,
          lines_cons (by decide) (lines_newline_cons _), ih, same]
        rfl
      · rcases addReturns_cons_cons c line later with ⟨line', later', returned, returned'⟩
        rw [same, returned] at ih
        rw [withReturns_cons newline, lines_cons newline ih, lines_cons newline same, returned']

end Text

namespace Assembly

/-- What two scanners have open before a line: nothing, alike blocks, or a keyword from an earlier
line that only the first of them has seen. -/
inductive PendingAlike (number : Nat) : Option Pending → Option Pending → Prop where
  | closed : PendingAlike number none none
  | opened {pending other : Pending} (outside : pending.literal = .outside)
      (alike : pending.Alike other) : PendingAlike number (some pending) (some other)
  | awaiting {pending : Pending} (outside : pending.literal = .outside)
      (unstarted : pending.started = false) (before : pending.start < number) :
      PendingAlike number (some pending) none

/-- Two scanners have completed the same blocks and have alike blocks open before a line. -/
structure ScanAlike (whitelist : Whitelist) (number : Nat) (scan other : Scan) : Prop where
  blocks : other.events.filterMap (Event.block? whitelist) =
    scan.events.filterMap (Event.block? whitelist)
  pending : PendingAlike number scan.pending other.pending

/-- What two scanners have open inside a line that ends in `ending` for the second of them: nothing,
or alike blocks that are started before a carriage return. -/
inductive InLineAlike (ending rest : List Char) : Option Pending → Option Pending → Prop where
  | closed : InLineAlike ending rest none none
  | opened {pending other : Pending} (outside : pending.literal = .outside)
      (alike : pending.Alike other)
      (starts : ending = [] ∨ (pending.started || opensBracket rest) = true) :
      InLineAlike ending rest (some pending) (some other)

section Alike

variable {whitelist : Whitelist} {number : Nat}

/-- Alike scanners have found the same blocks in the end. -/
theorem ScanAlike.finish {scan other : Scan} (alike : ScanAlike whitelist number scan other) :
    other.finish.filterMap (Event.block? whitelist) =
      scan.finish.filterMap (Event.block? whitelist) := by
  rcases scan with ⟨events, pending⟩
  rcases other with ⟨events', pending'⟩
  have blocks : events'.filterMap (Event.block? whitelist) =
    events.filterMap (Event.block? whitelist) := alike.blocks
  cases alike.pending with
  | closed => exact blocks
  | awaiting outside unstarted before =>
      simp only [Scan.finish, unstarted]
      exact blocks
  | opened outside same =>
      simp only [Scan.finish, same.started]
      split
      · simp only [List.filterMap_append, List.filterMap_cons, List.filterMap_nil, blocks,
          same.block? whitelist, same.lastLine]
      · exact blocks

variable {line ending : List Char}

theorem trim_append_ending (isEnding : ending = [] ∨ ending = ['\r']) (line : List Char) :
    Unicode.trim (line ++ ending) = Unicode.trim line := by
  rcases isEnding with rfl | rfl
  · rw [List.append_nil]
  · exact Unicode.trim_append_return line

/-- Alike blocks read the rest of a line alike, with an ending added to it for one of them. -/
theorem Pending.Alike.readRest {pending other : Pending} (alike : pending.Alike other)
    (isEnding : ending = [] ∨ ending = ['\r']) (number : Nat) (line rest : List Char) :
    ((other.noteLine number (line ++ ending)).readLine (rest ++ ending)).2 =
        ((pending.noteLine number line).readLine rest).2.map (· ++ ending) ∧
      ((pending.noteLine number line).readLine rest).1.Alike
        ((other.noteLine number (line ++ ending)).readLine (rest ++ ending)).1 :=
  (alike.noteLine number (trim_append_ending isEnding line)).readLine rest isEnding

/-- An opener is still found with an ending behind it, unless a bracket is missing before a carriage
return. -/
theorem find?_append_ending {rest : List Char} {opener : Opener}
    (isEnding : ending = [] ∨ ending = ['\r']) (noNewline : '\n' ∉ rest)
    (found : Opener.find? true rest = some opener) :
    (∃ other, Opener.find? true (rest ++ ending) = some other ∧
        other.afterKeyword = opener.afterKeyword ++ ending ∧
        (ending = [] ∨ opensBracket opener.afterKeyword = true)) ∨
      Opener.find? true (rest ++ ending) = none ∧ opensBracket opener.afterKeyword = false := by
  rcases isEnding with rfl | rfl
  · left
    exact ⟨opener, by rwa [List.append_nil], (List.append_nil _).symm, Or.inl rfl⟩
  · rw [Opener.find?_append_return true noNewline, found, Option.bind_some, Opener.beforeReturn?]
    cases opens : opensBracket opener.afterKeyword with
    | true => exact Or.inl ⟨opener.addReturn, rfl, rfl, Or.inr rfl⟩
    | false => exact Or.inr ⟨rfl, rfl⟩

/-- Scanning the rest of a line, the second scanner with an ending added to it. -/
theorem scanLine_alike (isEnding : ending = [] ∨ ending = ['\r']) (events other : List Event)
    (pending pending' : Option Pending) (rest : List Char) (noNewline : '\n' ∉ rest)
    (blocks : other.filterMap (Event.block? whitelist) = events.filterMap (Event.block? whitelist))
    (related : InLineAlike ending rest pending pending') :
    ScanAlike whitelist (number + 1) (scanLine number line events pending rest)
        (scanLine number (line ++ ending) other pending' (rest ++ ending)) ∧
      (ending = ['\r'] →
        (scanLine number (line ++ ending) other pending' (rest ++ ending)).awaits = false) := by
  fun_induction scanLine number line events pending rest generalizing other pending' with
  | case1 events rest current noted after closed ih =>
      rcases related with _ | ⟨outside, alike, starts⟩
      have here : noted.readLine rest = ((noted.feed rest).1, some after) := by
        rw [Pending.readLine, closed]
      rcases alike.readRest isEnding number line rest with ⟨sameEnd, read⟩
      rw [here] at sameEnd read
      rw [scanLine_of_closed (Prod.ext rfl sameEnd)]
      have noNewline' : '\n' ∉ after :=
        fun mem => noNewline ((Pending.suffix_of_feed_some closed).mem mem)
      refine ih _ none noNewline' ?_ .closed
      simp only [List.filterMap_append, List.filterMap_cons, List.filterMap_nil, blocks,
        read.block? whitelist]
  | case2 events rest current noted notClosed ended givesUp ih =>
      rcases related with _ | ⟨outside, alike, starts⟩
      have here : noted.readLine rest = (ended, none) := by
        rw [Pending.readLine, notClosed]
      rcases alike.readRest isEnding number line rest with ⟨sameEnd, read⟩
      rw [here] at sameEnd read
      rw [scanLine_of_open (Prod.ext rfl sameEnd), read.started, read.start, if_pos givesUp]
      refine ih _ none noNewline ?_ .closed
      rw [filterMap_append_none whitelist other rfl, filterMap_append_none whitelist events rfl,
        blocks]
  | case3 events rest current noted notClosed ended goesOn =>
      rcases related with _ | ⟨outside, alike, starts⟩
      have here : noted.readLine rest = (ended, none) := by
        rw [Pending.readLine, notClosed]
      rcases alike.readRest isEnding number line rest with ⟨sameEnd, read⟩
      rw [here] at sameEnd read
      rw [scanLine_of_open (Prod.ext rfl sameEnd), read.started, read.start, if_neg goesOn]
      refine ⟨⟨blocks, .opened (Pending.literal_endLine _) read⟩, ?_⟩
      intro isReturn
      have outside' : noted.literal = .outside :=
        (current.literal_noteLine number line).trans outside
      have started := Pending.started_readLine outside' rest
      rw [here, current.started_noteLine number line] at started
      have starts' := starts.resolve_left (by simp [isReturn])
      simp [Scan.awaits, read.started, started, starts']
  | case4 events rest notFound =>
      cases related
      have notFound' : Opener.find? true (rest ++ ending) = none := by
        rcases isEnding with rfl | rfl
        · rwa [List.append_nil]
        · rw [Opener.find?_append_return true noNewline, notFound]
          rfl
      rw [scanLine_of_find?_eq_none notFound']
      exact ⟨⟨blocks, .closed⟩, fun _ => rfl⟩
  | case5 events rest opener found ih =>
      cases related
      have noNewline' : '\n' ∉ opener.afterKeyword :=
        fun mem => noNewline ((Opener.suffix_find? found).mem mem)
      rcases find?_append_ending isEnding noNewline found with
        ⟨other', found', sameRest, starts⟩ | ⟨lost, noBracket⟩
      · rw [scanLine_of_opener found', sameRest]
        refine ih _ _ noNewline' ?_ (.opened rfl (.refl _) ?_)
        · rw [filterMap_opened, filterMap_opened, blocks]
        · rcases starts with isEmpty | opens
          · exact Or.inl isEmpty
          · exact Or.inr (by rw [opens, Bool.or_true])
      · -- The keyword ends its line: one scanner waits for a bracket, the other has not seen it.
        have unstarted : (Pending.ofLine number).started = false := rfl
        rcases scanLine_of_awaiting number line (events ++ [.opened opener.keyword number]) rfl
          unstarted
          noBracket with ⟨read, outside, unstarted', start, waits⟩
        have ownLine : ¬(Pending.ofLine number).start < number := Nat.lt_irrefl number
        rw [waits, if_neg ownLine, scanLine_of_find?_eq_none lost]
        refine ⟨⟨?_, .awaiting outside unstarted' ?_⟩, fun _ => rfl⟩
        · rw [filterMap_opened, blocks]
        · rw [start]
          exact Nat.lt_succ_self number

variable {scan other : Scan}

/-- Alike scanners stay alike over a line, unless the line has the bracket that only the first of
them is waiting for. -/
theorem ScanAlike.next (alike : ScanAlike whitelist number scan other)
    (notAwaiting : other.awaits = false) (isEnding : ending = [] ∨ ending = ['\r'])
    (noNewline : '\n' ∉ line) (noSplit : (scan.awaits && opensBracket line) = false) :
    ScanAlike whitelist (number + 1) (scan.next (line, number))
      (other.next (line ++ ending, number)) ∧
      (ending = ['\r'] → (other.next (line ++ ending, number)).awaits = false) := by
  rcases scan with ⟨events, pending⟩
  rcases other with ⟨events', pending'⟩
  have blocks : events'.filterMap (Event.block? whitelist) =
    events.filterMap (Event.block? whitelist) := alike.blocks
  cases alike.pending with
  | closed => exact scanLine_alike isEnding events events' none none line noNewline blocks .closed
  | opened outside same =>
      rename_i current current'
      have started : current.started = true := by
        rw [← same.started]
        simpa [Scan.awaits] using notAwaiting
      exact scanLine_alike isEnding events events' _ _ line noNewline blocks
        (.opened outside same (Or.inr (by rw [started, Bool.true_or])))
  | awaiting outside unstarted before =>
      rename_i current
      have noBracket : opensBracket line = false := by
        simpa [Scan.awaits, unstarted] using noSplit
      rcases scanLine_of_awaiting number line events outside unstarted noBracket with
        ⟨read, -, -, -, givesUp⟩
      rw [if_pos before] at givesUp
      simp only [Scan.next, givesUp]
      refine scanLine_alike isEnding _ events' none none line noNewline ?_ .closed
      rw [filterMap_append_none whitelist events rfl, blocks]

/-- A keyword that awaits its bracket before a line has been seen by one of the scanners only. -/
theorem ScanAlike.pending_of_awaits (alike : ScanAlike whitelist number scan other)
    (notAwaiting : other.awaits = false) (awaits : scan.awaits = true) :
    other.pending = none ∧ ∃ current, scan.pending = some current ∧
      current.literal = .outside ∧ current.start < number := by
  rcases scan with ⟨events, pending⟩
  rcases other with ⟨events', pending'⟩
  cases alike.pending with
  | closed => simp [Scan.awaits] at awaits
  | opened outside same =>
      simp only [Scan.awaits, Option.any_some, same.started] at awaits notAwaiting
      rw [awaits] at notAwaiting
      contradiction
  | awaiting outside unstarted before => exact ⟨rfl, _, rfl, outside, before⟩

/-- Where the next line has the bracket, a block begins on the line of the keyword, and the scanner
that has not seen the keyword finds only blocks that begin later. -/
theorem ScanAlike.blocks_ne (alike : ScanAlike whitelist number scan other)
    (notAwaiting : other.awaits = false) (split : (scan.awaits && opensBracket line) = true)
    (later lines : List (List Char)) :
    ((lines.zipIdx number).foldl Scan.next other).finish.filterMap (Event.block? whitelist) ≠
      (((line :: later).zipIdx number).foldl Scan.next scan).finish.filterMap
        (Event.block? whitelist) := by
  rw [Bool.and_eq_true] at split
  rcases alike.pending_of_awaits notAwaiting split.1 with ⟨closed, current, opened, outside, before⟩
  have sameRanges := congrArg (List.map Block.range) alike.blocks
  rw [map_range_blocks, map_range_blocks] at sameRanges
  have completes : (scan.next (line, number)).Completes current.start (ranges scan.events) := by
    rw [Scan.next, opened]
    exact completes_scanLine outside (by rw [split.2, Bool.or_true])
  have begins : other.BeginsFrom number (ranges scan.events) :=
    ⟨⟨[], by rw [sameRanges, List.append_nil], by simp⟩, by simp [closed]⟩
  rcases completes.run (later.zipIdx (number + 1)) with ⟨last, more, found⟩
  rcases begins.run (Nat.le_refl number) lines with ⟨more', found', atLeast⟩
  intro same
  have sameRanges' := congrArg (List.map Block.range) same
  rw [map_range_blocks, map_range_blocks, found', List.zipIdx_cons, List.foldl_cons, found]
    at sameRanges'
  rw [List.append_cancel_left sameRanges'] at atLeast
  have late := atLeast _ List.mem_cons_self
  exact Nat.not_le_of_lt before late

end Alike

/-- Over any number of lines, alike scanners find the same blocks exactly if no opener is split. -/
theorem blocks_addReturns_iff {whitelist : Whitelist} {number : Nat} {scan other : Scan}
    (alike : ScanAlike whitelist number scan other) (notAwaiting : other.awaits = false)
    (lines : List (List Char)) (noNewline : ∀ line ∈ lines, '\n' ∉ line) :
    (((Text.addReturns lines).zipIdx number).foldl Scan.next other).finish.filterMap
        (Event.block? whitelist) =
      ((lines.zipIdx number).foldl Scan.next scan).finish.filterMap (Event.block? whitelist) ↔
      scan.splits (lines.zipIdx number) = false := by
  induction lines generalizing number scan other with
  | nil => exact iff_of_true alike.finish rfl
  | cons line later ih =>
      rw [List.forall_mem_cons] at noNewline
      by_cases split : (scan.awaits && opensBracket line) = true
      · refine iff_of_false (alike.blocks_ne notAwaiting split later _) ?_
        simp [List.zipIdx_cons, Scan.splits, split]
      · rw [Bool.not_eq_true] at split
        cases later with
        | nil =>
            have next := (alike.next notAwaiting (Or.inl rfl) noNewline.1 split).1
            rw [List.append_nil] at next
            refine iff_of_true next.finish ?_
            simp [List.zipIdx_cons, Scan.splits, split]
        | cons line' later =>
            rcases alike.next notAwaiting (Or.inr rfl) noNewline.1 split with ⟨next, notAwaiting'⟩
            have rest := ih next (notAwaiting' rfl) noNewline.2
            rw [List.zipIdx_cons, Scan.splits, split, Bool.false_or, ← rest]
            rfl

/--
Inline assembly in a text with carriage returns added before its newlines is the same as in the text
itself, exactly if no opener is split over two lines. A text that splits one has a line that ends in
an opener, and a bracket opens on the line behind it.
-/
theorem blocks_withReturns_iff (dest : Arch) (whitelist : Whitelist) (text : List Char) :
    ((blocks dest whitelist (Text.withReturns text)).value = (blocks dest whitelist text).value ↔
        ¬SplitsOpener text) ∧
      (SplitsOpener text → ∃ earlier line next later,
        Text.lines text = earlier ++ line :: next :: later ∧ EndsInOpener line ∧
          opensBracket next = true) := by
  refine ⟨?_, exists_lines_of_splitsOpener⟩
  have start : ScanAlike whitelist 1 ⟨[], none⟩ ⟨[], none⟩ := ⟨rfl, .closed⟩
  have related := blocks_addReturns_iff start rfl (Text.lines text)
    fun line mem => Text.not_mem_of_mem_splitAt mem
  rw [← Text.lines_withReturns_eq] at related
  rw [SplitsOpener, Bool.not_eq_true]
  exact related

/-- Line endings count: a block whose keyword stands alone on its line is lost before a carriage
return. -/
theorem blocks_withReturns_keyword :
    '\r' ∉ "asm\n(\"pause\")\n".toList ∧
      (blocks .arm64 (.ofEntries []) "asm\n(\"pause\")\n".toList).value =
        [⟨⟨1, 2⟩, ["asm".toList, "(\"pause\")".toList], false⟩] ∧
      (blocks .arm64 (.ofEntries []) (Text.withReturns "asm\n(\"pause\")\n".toList)).value =
        [] := by
  decide +kernel

end Assembly

end CrossArch
