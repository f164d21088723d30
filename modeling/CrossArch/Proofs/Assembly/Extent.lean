import CrossArch.Proofs.Assembly.Mnemonic
import CrossArch.Proofs.Assembly.Order
import CrossArch.Proofs.Assembly.Reading

/-!
# Blocks by counting brackets

The blocks of a text, read off its masked lines: behind each keyword the brackets are counted, a
keyword with no bracket on its own line or the next is dropped, and the search goes on behind the
block or on the next line. The scanner, which reads every character once, finds the same blocks.

The scanner is followed over the lines of one block. As long as no mark ends the block, it has read
the marks so far; so it closes the block at the mark that ends it, and at the end of the text if
there is none.
-/

namespace CrossArch.Assembly

/-- Where a block stands, and its template. -/
structure Extent where
  range : LineRange
  template : List (List Char)

/-- Whether a bracket opens on a line or the next. -/
def opensBlock (number : Nat) (marks : List Mark) : Bool :=
  marks.any fun mark => mark.opens && decide (mark.line ≤ number + 1)

/-- The extents of the blocks in some lines, of which the first may have been read in part. -/
def extents (number : Nat) : List (List Char) → List Extent
  | [] => []
  | rest :: later =>
    match _keyword : Opener.find? true rest with
    | none => extents (number + 1) later
    | some opener =>
      let marks := maskLines number (opener.afterKeyword :: later)
      if opensBlock number marks then
        match _ends : Mask.firstAt? Mask.endsBlock [] marks with
        | some (front, mark) =>
          ⟨⟨number, mark.line⟩, Mask.template front⟩ :: extents mark.line mark.behind
        | none => [⟨⟨number, number + later.length⟩, Mask.template marks⟩]
      else extents (number + 1) later
  termination_by lines => lengthOfLines lines
  decreasing_by
    · exact lengthOfLines_lt_cons rest later
    · have shorter := Opener.length_find? _keyword
      have behind := length_behind_lt (Mask.exists_of_firstAt? _ends).2.1
      simp only [lengthOfLines_cons] at behind ⊢
      omega
    · exact lengthOfLines_lt_cons rest later

/-- The block of an extent. It is native if the whitelist has the first token of each of the
literals of its template. -/
def Extent.block (whitelist : Whitelist) (lines : List (List Char)) (extent : Extent) : Block where
  range := extent.range
  lines := (extent.range.select lines).map Unicode.trim
  native := extent.template.all fun literal =>
    (firstToken? literal).all fun token => whitelist.contains (upperCase token)

section ScanLine

variable {number : Nat} {line rest after : List Char} {events : List Event} {current read : Pending}

theorem scanLine_of_closed
    (closed : (current.noteLine number line).readLine rest = (read, some after)) :
    scanLine number line events (some current) rest =
      scanLine number line (events ++ [.block read number]) none after := by
  rw [Pending.readLine] at closed
  rw [scanLine]
  split at closed
  · rename_i found
    rw [Prod.mk.injEq] at closed
    rcases closed with ⟨rfl, ⟨⟩⟩
    split
    · rename_i same
      rw [found] at same
      cases same
      rfl
    · rename_i same
      simp [found] at same
  · simp at closed

theorem scanLine_of_open
    (opened : (current.noteLine number line).readLine rest = (read, none)) :
    scanLine number line events (some current) rest =
      if !read.started && read.start < number then
        scanLine number line (events ++ [.abandoned read.start]) none rest
      else ⟨events, some read⟩ := by
  rw [Pending.readLine] at opened
  rw [scanLine]
  split at opened
  · simp at opened
  · rename_i notFound
    rw [Prod.mk.injEq] at opened
    rcases opened with ⟨rfl, -⟩
    split
    · rename_i found
      simp [notFound] at found
    · rfl

theorem scanLine_of_opener {opener : Opener} (found : Opener.find? true rest = some opener) :
    scanLine number line events none rest =
      scanLine number line (events ++ [.opened opener.keyword number])
        (some (Pending.ofLine number)) opener.afterKeyword := by
  conv_lhs => rw [scanLine]
  split
  · rename_i notFound
    simp [found] at notFound
  · rename_i same
    rw [found] at same
    cases same
    rfl

end ScanLine

/-- The events of a scan that goes on behind a line. -/
def Scan.onward (number : Nat) (later : List (List Char)) (scan : Scan) : List Event :=
  ((later.zipIdx (number + 1)).foldl Scan.next scan).finish

theorem Scan.onward_cons (number : Nat) (next : List Char) (later : List (List Char))
    (scan : Scan) :
    scan.onward number (next :: later) =
      (scanLine (number + 1) next scan.events scan.pending next).onward (number + 1) later := by
  rw [Scan.onward, List.zipIdx_cons, List.foldl_cons]
  rfl

/-- A block that is open when a line is read: it was opened on the line `start`, and `front` are the
marks that it has met before. -/
structure OpenOn (lines : List (List Char)) (start number : Nat) (line : List Char)
    (later : List (List Char)) (current : Pending) (front : List Mark) : Prop where
  lineAt : LineAt lines number line later
  positive : 1 ≤ start
  le : start ≤ number
  unclosed : Mask.Unclosed front
  noted : current.noteLine number line = Pending.reading lines start number front

section OpenBlock

variable {lines later : List (List Char)} {line rest : List Char} {events : List Event}
  {current : Pending} {number start : Nat} {front : List Mark}

theorem OpenOn.ofLine (lineAt : LineAt lines number line later) :
    OpenOn lines number number line later (Pending.ofLine number) [] where
  lineAt := lineAt
  positive := lineAt.positive
  le := Nat.le_refl number
  unclosed := by
    intro opened
    contradiction
  noted := Pending.noteLine_ofLine lineAt

/-- A line without an end of the block adds its marks to those that were met. -/
theorem OpenOn.next {next : List Char}
    (openOn : OpenOn lines start number line (next :: later) current front)
    (noEnd : Mask.firstAt? Mask.endsBlock front (maskLine number (next :: later) rest) = none) :
    OpenOn lines start (number + 1) next later
      (Pending.reading lines start number (front ++ maskLine number (next :: later) rest))
      (front ++ maskLine number (next :: later) rest) where
  lineAt := openOn.lineAt.next
  positive := openOn.positive
  le := Nat.le_succ_of_le openOn.le
  unclosed := openOn.unclosed.append noEnd
  noted := Pending.noteLine_reading openOn.lineAt.next openOn.positive openOn.le

/-- The block is closed on the line that has its end. -/
theorem scanLine_of_end {before : List Mark} {mark : Mark}
    (openOn : OpenOn lines start number line later current front)
    (ends : Mask.firstAt? Mask.endsBlock front (maskLine number later rest) = some (before, mark)) :
    mark.line = number ∧ ∃ after, mark.behind = after :: later ∧
      scanLine number line events (some current) rest =
        scanLine number line (events ++ [.block (Pending.reading lines start number before) number])
          none after := by
  rcases place_of_mem_maskLine (Mask.exists_of_firstAt? ends).2.1 with ⟨place, after, behind, -⟩
  have read : (Pending.reading lines start number front).readLine rest = _ :=
    Pending.readLine_reading openOn.unclosed number later rest
  rw [ends, ← openOn.noted, Option.elim_some, behind, List.head?_cons] at read
  exact ⟨place, after, behind, scanLine_of_closed read⟩

/-- Without an end on the line, the block stays open, unless its keyword is given up. -/
theorem scanLine_of_no_end (openOn : OpenOn lines start number line later current front)
    (noEnd : Mask.firstAt? Mask.endsBlock front (maskLine number later rest) = none) :
    scanLine number line events (some current) rest =
      if !(front ++ maskLine number later rest).any Mark.opens && start < number then
        scanLine number line (events ++ [.abandoned start]) none rest
      else
        ⟨events,
          some (Pending.reading lines start number (front ++ maskLine number later rest))⟩ := by
  have read : (Pending.reading lines start number front).readLine rest = _ :=
    Pending.readLine_reading openOn.unclosed number later rest
  rw [noEnd, ← openOn.noted, Option.elim_none] at read
  rw [scanLine_of_open read, Pending.started_reading (openOn.unclosed.append noEnd)]
  rfl

/-- A keyword is not given up if a bracket opens on its line or the next. -/
theorem scanLine_of_opensBlock (openOn : OpenOn lines start number line later current front)
    (opens : opensBlock start (front ++ maskLines number (rest :: later)) = true)
    (noEnd : Mask.firstAt? Mask.endsBlock front (maskLine number later rest) = none) :
    scanLine number line events (some current) rest =
      ⟨events,
        some (Pending.reading lines start number (front ++ maskLine number later rest))⟩ := by
  rw [scanLine_of_no_end openOn noEnd, if_neg]
  rw [Bool.and_eq_true, Bool.not_eq_true', decide_eq_true_eq]
  rintro ⟨notOpened, behind⟩
  rw [opensBlock, List.any_eq_true] at opens
  rcases opens with ⟨mark, mem, place⟩
  rw [Bool.and_eq_true, decide_eq_true_eq] at place
  rw [maskLines, ← List.append_assoc, List.mem_append] at mem
  rcases mem with read | unread
  · have opened := List.any_eq_true.2 ⟨mark, read, place.1⟩
    rw [notOpened] at opened
    contradiction
  · have := le_line_of_mem_maskLines unread
    omega

/-- A block is closed at the mark that ends it, and the scan goes on behind that mark. -/
theorem onward_of_end {before : List Mark} {mark : Mark}
    (openOn : OpenOn lines start number line later current front)
    (opens : opensBlock start (front ++ maskLines number (rest :: later)) = true)
    (ends : Mask.firstAt? Mask.endsBlock front (maskLines number (rest :: later)) =
      some (before, mark)) :
    ∃ last after behind, mark.behind = after :: behind ∧ LineAt lines mark.line last behind ∧
      (scanLine number line events (some current) rest).onward number later =
        (scanLine mark.line last
          (events ++ [.block (Pending.reading lines start mark.line before) mark.line])
          none after).onward mark.line behind := by
  -- The induction is on the lines behind; the marks that were met grow by those of each line.
  induction later generalizing number line rest current front with
  | nil =>
      rw [maskLines, maskLines, List.append_nil] at ends
      rcases scanLine_of_end openOn ends with ⟨rfl, after, behind, closed⟩
      exact ⟨line, after, [], behind, openOn.lineAt, by rw [closed]⟩
  | cons next later ih =>
      rw [maskLines, Mask.firstAt?_append, Option.or_eq_some_iff] at ends
      rcases ends with ends | ⟨noEnd, ends⟩
      · rcases scanLine_of_end openOn ends with ⟨rfl, after, behind, closed⟩
        exact ⟨line, after, next :: later, behind, openOn.lineAt, by rw [closed]⟩
      · rw [scanLine_of_opensBlock openOn opens noEnd, Scan.onward_cons]
        rw [maskLines, ← List.append_assoc] at opens
        exact ih (openOn.next noEnd) opens ends

/-- A block that no mark ends extends to the last line. -/
theorem onward_of_no_end (openOn : OpenOn lines start number line later current front)
    (opens : opensBlock start (front ++ maskLines number (rest :: later)) = true)
    (noEnd : Mask.firstAt? Mask.endsBlock front (maskLines number (rest :: later)) = none) :
    (scanLine number line events (some current) rest).onward number later =
      events ++ [.block (Pending.reading lines start (number + later.length)
        (front ++ maskLines number (rest :: later))) (number + later.length)] := by
  induction later generalizing number line rest current front with
  | nil =>
      have onLine : maskLines number [rest] = maskLine number [] rest := by
        rw [maskLines, maskLines, List.append_nil]
      rw [onLine] at noEnd ⊢
      have opened : (front ++ maskLine number [] rest).any Mark.opens = true := by
        rw [opensBlock, List.any_eq_true, onLine] at opens
        rcases opens with ⟨mark, mem, place⟩
        rw [Bool.and_eq_true] at place
        exact List.any_eq_true.2 ⟨mark, mem, place.1⟩
      rw [scanLine_of_opensBlock openOn opens noEnd, Scan.onward, List.zipIdx_nil, List.foldl_nil]
      simp only [Scan.finish, Pending.started_reading (openOn.unclosed.append noEnd), opened]
      rfl
  | cons next later ih =>
      rw [maskLines, Mask.firstAt?_append, Option.or_eq_none_iff] at noEnd
      have length : number + (next :: later).length = number + 1 + later.length := by
        rw [List.length_cons]
        omega
      rw [scanLine_of_opensBlock openOn opens noEnd.1, Scan.onward_cons, length, maskLines,
        ← List.append_assoc]
      rw [maskLines, ← List.append_assoc] at opens
      exact ih (openOn.next noEnd.1) opens noEnd.2

/-- A block does not end where no bracket opens. -/
theorem firstAt?_endsBlock_eq_none {marks : List Mark}
    (notOpened : (front ++ marks).any Mark.opens = false) :
    Mask.firstAt? Mask.endsBlock front marks = none := by
  by_contra found
  rcases Option.ne_none_iff_exists'.1 found with ⟨⟨before, mark⟩, ends⟩
  rcases Mask.exists_of_firstAt? ends with ⟨last, -, later, same⟩
  rw [same, List.any_append, Mask.any_opens_of_endsBlock last] at notOpened
  contradiction

/-- A keyword with no bracket on its line or the next completes no block, and the next line is
scanned from its start. -/
theorem onward_of_not_opensBlock (whitelist : Whitelist) (lineAt : LineAt lines number line later)
    (noBracket : opensBlock number (maskLines number (rest :: later)) = false) :
    ∃ more : List Event, more.filterMap (Event.block? whitelist) = [] ∧
      (scanLine number line events (some (Pending.ofLine number)) rest).onward number later =
        (⟨events ++ more, none⟩ : Scan).onward number later := by
  have closed : ∀ mark ∈ maskLines number (rest :: later), mark.line ≤ number + 1 →
      ¬mark.opens = true := by
    intro mark mem near opens
    rw [opensBlock, List.any_eq_false] at noBracket
    exact noBracket mark mem (by simp [opens, near])
  have ownClosed : ([] ++ maskLine number later rest).any Mark.opens = false := by
    rw [List.nil_append, List.any_eq_false]
    intro mark mem
    have near := (place_of_mem_maskLine mem).1
    exact closed mark (List.mem_append_left _ mem) (by omega)
  have ownNoEnd := firstAt?_endsBlock_eq_none ownClosed
  have openOn := OpenOn.ofLine lineAt
  rw [scanLine_of_no_end openOn ownNoEnd, if_neg (by simp)]
  cases later with
  | nil =>
      refine ⟨[], rfl, ?_⟩
      simp only [Scan.onward, List.zipIdx_nil, List.foldl_nil, Scan.finish,
        Pending.started_reading (openOn.unclosed.append ownNoEnd), ownClosed, List.append_nil]
      rfl
  | cons next later =>
      have nextClosed : ([] ++ maskLine number (next :: later) rest ++
          maskLine (number + 1) later next).any Mark.opens = false := by
        rw [List.any_append, ownClosed, Bool.false_or, List.any_eq_false]
        intro mark mem
        have near := (place_of_mem_maskLine mem).1
        exact closed mark (List.mem_append_right _ (List.mem_append_left _ mem)) (by omega)
      have nextNoEnd := firstAt?_endsBlock_eq_none nextClosed
      refine ⟨[.abandoned number], rfl, ?_⟩
      rw [Scan.onward_cons, Scan.onward_cons, scanLine_of_no_end (openOn.next ownNoEnd) nextNoEnd,
        nextClosed, if_pos (by simp)]

end OpenBlock

section Blocks

variable (whitelist : Whitelist) {lines later : List (List Char)} {number : Nat}
  {line : List Char}

/-- The block that has been read is the block of its extent. -/
theorem filterMap_block_reading (events : List Event) (start last : Nat) (marks : List Mark) :
    (events ++ [Event.block (Pending.reading lines start last marks) last]).filterMap
        (Event.block? whitelist) =
      events.filterMap (Event.block? whitelist) ++
        [Extent.block whitelist lines ⟨⟨start, last⟩, Mask.template marks⟩] := by
  have judged : Event.block? whitelist (.block (Pending.reading lines start last marks) last) =
      some (Extent.block whitelist lines ⟨⟨start, last⟩, Mask.template marks⟩) := by
    rw [Event.block?, isNative_eq]
    rfl
  rw [List.filterMap_append, List.filterMap_cons_some judged, List.filterMap_nil]

/-- An event that completes no block changes nothing. -/
theorem filterMap_append_none (events : List Event) {event : Event}
    (noBlock : Event.block? whitelist event = none) :
    (events ++ [event]).filterMap (Event.block? whitelist) =
      events.filterMap (Event.block? whitelist) := by
  rw [List.filterMap_append, List.filterMap_cons_none noBlock, List.filterMap_nil, List.append_nil]

theorem filterMap_opened (events : List Event) (keyword : List Char) (number : Nat) :
    (events ++ [Event.opened keyword number]).filterMap (Event.block? whitelist) =
      events.filterMap (Event.block? whitelist) :=
  filterMap_append_none whitelist events rfl

/-- With no block open, the blocks behind a line are those from the next line on. -/
theorem blocks_next (events : List Event) (lineAt : LineAt lines number line later)
    (fromNext : ∀ {next : List Char} {behind : List (List Char)}, later = next :: behind →
      LineAt lines (number + 1) next behind →
      ((scanLine (number + 1) next events none next).onward (number + 1) behind).filterMap
          (Event.block? whitelist) =
        events.filterMap (Event.block? whitelist) ++
          (extents (number + 1) later).map (Extent.block whitelist lines)) :
    ((⟨events, none⟩ : Scan).onward number later).filterMap (Event.block? whitelist) =
      events.filterMap (Event.block? whitelist) ++
        (extents (number + 1) later).map (Extent.block whitelist lines) := by
  cases later with
  | nil => simp [Scan.onward, Scan.finish, extents]
  | cons next behind =>
      rw [Scan.onward_cons]
      exact fromNext rfl lineAt.next

/-- The scanner completes the blocks of the extents. -/
theorem blocks_onward (number : Nat) (remaining : List (List Char)) {line rest : List Char}
    {later : List (List Char)} (events : List Event) (split : remaining = rest :: later)
    (lineAt : LineAt lines number line later) :
    ((scanLine number line events none rest).onward number later).filterMap
        (Event.block? whitelist) =
      events.filterMap (Event.block? whitelist) ++
        (extents number remaining).map (Extent.block whitelist lines) := by
  fun_induction extents number remaining generalizing line rest later events with
  | case1 => contradiction
  | case2 number rest later notFound ih =>
      cases split
      rw [scanLine_of_find?_eq_none notFound]
      exact blocks_next whitelist events lineAt fun same => ih events same
  | case3 number rest later opener found marks opens front mark ends =>
      rename_i ih
      cases split
      rw [scanLine_of_opener found]
      rcases onward_of_end (OpenOn.ofLine lineAt) opens ends with
        ⟨last, after, behind, same, lastAt, scan⟩
      rw [scan, ih _ same lastAt, filterMap_block_reading, filterMap_opened, List.append_assoc]
      rfl
  | case4 number rest later opener found marks opens =>
      rename_i noEnd
      cases split
      rw [scanLine_of_opener found, onward_of_no_end (OpenOn.ofLine lineAt) opens noEnd,
        filterMap_block_reading, filterMap_opened]
      rfl
  | case5 number rest later opener found marks noBracket =>
      rename_i ih
      cases split
      rw [Bool.not_eq_true] at noBracket
      rcases onward_of_not_opensBlock whitelist lineAt noBracket with ⟨more, noBlock, scan⟩
      rw [scanLine_of_opener found, scan, blocks_next whitelist _ lineAt fun same => ih _ same,
        List.filterMap_append, noBlock, List.append_nil, filterMap_opened]

end Blocks

/-- The inline assembly blocks of a text are those that counting brackets in its masked lines
gives. -/
theorem blocks_eq_extents (dest : Arch) (whitelist : Whitelist) (text : List Char) :
    (blocks dest whitelist text).value =
      (extents 1 (Text.lines text)).map (Extent.block whitelist (Text.lines text)) := by
  rcases Text.exists_lines_eq_cons text with ⟨line, later, same⟩
  have lineAt : LineAt (Text.lines text) 1 line later := ⟨Nat.le_refl 1, same⟩
  have scanned : events text = (scanLine 1 line [] none line).onward 1 later := by
    rw [events, Text.numberedLines, same, List.zipIdx_cons, List.foldl_cons]
    rfl
  have completed := blocks_onward whitelist 1 (Text.lines text) [] same lineAt
  rw [← scanned] at completed
  exact completed

end CrossArch.Assembly
