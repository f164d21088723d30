import CrossArch.Text.Front
import CrossArch.Text.Line
import Mathlib.Data.List.Basic
import Mathlib.Tactic.Common

/-!
# Lines and line numbers

A text that is split at a character has a piece before each place of the character and one behind
the last. The lines of a text are its pieces between newlines, so there is one more than there are
newlines. A newline at the front of a text puts an empty line before its lines, and every other
character extends the first line; the facts about lines below are proved from these two.

Spans of lines are ordered by their first lines, then by their last.
-/

namespace CrossArch

namespace Text

theorem dropWhile_append_stop {p : Char → Bool} {c : Char} (stops : p c = false)
    (text back : List Char) : (text ++ c :: back).dropWhile p = text.dropWhile p ++ c :: back := by
  rw [List.dropWhile_append]
  split <;> rename_i empty
  · rw [List.isEmpty_iff.1 empty, List.dropWhile_cons_of_neg (by simp [stops])]
    rfl
  · rfl

theorem takeWhile_append_stop {p : Char → Bool} {c : Char} (stops : p c = false)
    (text back : List Char) : (text ++ c :: back).takeWhile p = text.takeWhile p := by
  rw [List.takeWhile_append, List.takeWhile_cons_of_neg (by simp [stops]), List.append_nil]
  split <;> rename_i whole
  · exact ((List.takeWhile_prefix p).eq_of_length whole).symm
  · rfl

theorem dropWhile_append_of_stops {p : Char → Bool} {front back : List Char}
    (inside : ∀ c ∈ front, p c = true) (stops : ∀ c ∈ back.head?, p c = false) :
    (front ++ back).dropWhile p = back := by
  rw [List.dropWhile_append_of_pos inside]
  cases back with
  | nil => rfl
  | cons c back => exact List.dropWhile_cons_of_neg (by simp [stops c rfl])

theorem takeWhile_append_of_stops {p : Char → Bool} {front back : List Char}
    (inside : ∀ c ∈ front, p c = true) (stops : ∀ c ∈ back.head?, p c = false) :
    (front ++ back).takeWhile p = front := by
  rw [List.takeWhile_append_of_pos inside]
  cases back with
  | nil => simp
  | cons c back => simp [stops c rfl]

theorem exists_splitAt_eq_cons (separator : Char) (text : List Char) :
    ∃ piece later, splitAt separator text = piece :: later := by
  cases text with
  | nil => exact ⟨[], [], rfl⟩
  | cons c rest =>
      rw [splitAt]
      split
      · exact ⟨_, _, rfl⟩
      · split
        · exact ⟨_, _, rfl⟩
        · exact ⟨_, _, rfl⟩

theorem splitAt_cons {separator c : Char} {rest piece : List Char} {later : List (List Char)}
    (other : c ≠ separator) (same : splitAt separator rest = piece :: later) :
    splitAt separator (c :: rest) = (c :: piece) :: later := by
  rw [splitAt, if_neg other, same]

theorem splitAt_append (separator : Char) (front back : List Char) :
    splitAt separator (front ++ separator :: back) =
      splitAt separator front ++ splitAt separator back := by
  induction front with
  | nil => simp [splitAt]
  | cons c rest ih =>
      rw [List.cons_append]
      by_cases ends : c = separator
      · simp only [splitAt, if_pos ends, ih, List.cons_append]
      · rcases exists_splitAt_eq_cons separator rest with ⟨piece, later, same⟩
        rw [same, List.cons_append] at ih
        rw [splitAt_cons ends ih, splitAt_cons ends same, List.cons_append]

theorem splitAt_of_not_mem {separator : Char} {text : List Char} (absent : separator ∉ text) :
    splitAt separator text = [text] := by
  induction text with
  | nil => rfl
  | cons c rest ih =>
      rw [List.mem_cons, not_or] at absent
      exact splitAt_cons (Ne.symm absent.1) (ih absent.2)

theorem not_mem_of_mem_splitAt {separator : Char} {text piece : List Char}
    (mem : piece ∈ splitAt separator text) : separator ∉ piece := by
  induction text generalizing piece with
  | nil =>
      rw [splitAt, List.mem_singleton] at mem
      simp [mem]
  | cons c rest ih =>
      by_cases ends : c = separator
      · rw [splitAt, if_pos ends, List.mem_cons] at mem
        rcases mem with rfl | mem
        · exact List.not_mem_nil
        · exact ih mem
      · rcases exists_splitAt_eq_cons separator rest with ⟨first, later, same⟩
        rw [splitAt_cons ends same, List.mem_cons] at mem
        rw [same] at ih
        rcases mem with rfl | mem
        · rw [List.mem_cons, not_or]
          exact ⟨Ne.symm ends, ih List.mem_cons_self⟩
        · exact ih (List.mem_cons_of_mem first mem)

/-- A separator ends the first of several pieces, and the others are those behind it. -/
theorem exists_splitAt_of_cons {separator : Char} {text piece : List Char}
    {later : List (List Char)} (same : splitAt separator text = piece :: later)
    (more : later ≠ []) :
    ∃ back, text = piece ++ separator :: back ∧ splitAt separator back = later := by
  induction text generalizing piece with
  | nil =>
      cases same
      exact absurd rfl more
  | cons c rest ih =>
      by_cases ends : c = separator
      · rw [splitAt, if_pos ends] at same
        cases same
        exact ⟨rest, by rw [ends, List.nil_append], rfl⟩
      · rcases exists_splitAt_eq_cons separator rest with ⟨first, others, sameRest⟩
        rw [splitAt_cons ends sameRest] at same
        cases same
        rcases ih sameRest with ⟨back, whole, sameBack⟩
        exact ⟨back, by rw [whole, List.cons_append], sameBack⟩

/-- A piece with others before and behind it stands between separators. -/
theorem exists_between_of_splitAt {separator : Char} {text piece : List Char}
    {before behind : List (List Char)} (same : splitAt separator text = before ++ piece :: behind)
    (notFirst : before ≠ []) (notLast : behind ≠ []) :
    ∃ front back, text = front ++ separator :: (piece ++ separator :: back) := by
  induction before generalizing text with
  | nil => exact absurd rfl notFirst
  | cons first before ih =>
      rcases exists_splitAt_of_cons same (by simp) with ⟨rest, whole, sameRest⟩
      cases before with
      | nil =>
          rcases exists_splitAt_of_cons sameRest notLast with ⟨back, wholeRest, -⟩
          exact ⟨first, back, by rw [whole, wholeRest]⟩
      | cons second before =>
          rcases ih sameRest (by simp) with ⟨front, back, wholeRest⟩
          exact ⟨first ++ separator :: front, back, by simp [whole, wholeRest]⟩

/-- Joining the pieces of a text gives the text. -/
theorem intercalate_splitAt (separator : Char) (text : List Char) :
    List.intercalate [separator] (splitAt separator text) = text := by
  induction text with
  | nil => simp [splitAt]
  | cons c rest ih =>
      rcases exists_splitAt_eq_cons separator rest with ⟨piece, later, same⟩
      rw [same] at ih
      by_cases ends : c = separator
      · simp [splitAt, ends, same, List.intercalate_cons_cons, ih]
      · rw [splitAt_cons ends same]
        cases later with
        | nil => simpa using ih
        | cons next later => simpa [List.intercalate_cons_cons] using ih

theorem exists_piece_of_mem {separator c : Char} {text : List Char} (mem : c ∈ text)
    (other : c ≠ separator) : ∃ piece ∈ splitAt separator text, c ∈ piece := by
  induction text with
  | nil => simp at mem
  | cons d rest ih =>
      rcases List.mem_cons.1 mem with rfl | mem
      · rcases exists_splitAt_eq_cons separator rest with ⟨first, later, same⟩
        exact ⟨c :: first, by simp [splitAt_cons other same], by simp⟩
      · rcases ih mem with ⟨piece, pieceMem, mem⟩
        by_cases ends : d = separator
        · exact ⟨piece, by simp [splitAt, ends, pieceMem], mem⟩
        · rcases exists_splitAt_eq_cons separator rest with ⟨first, later, same⟩
          rw [same, List.mem_cons] at pieceMem
          rcases pieceMem with rfl | pieceMem
          · exact ⟨d :: piece, by simp [splitAt_cons ends same], by simp [mem]⟩
          · exact ⟨piece, by simp [splitAt_cons ends same, pieceMem], mem⟩

theorem eq_of_splitAt_singleton {separator : Char} {text piece : List Char}
    (same : splitAt separator text = [piece]) : text = piece := by
  have joined := intercalate_splitAt separator text
  simpa [same] using joined.symm

theorem exists_front_of_splitAt {separator : Char} {text last : List Char}
    {before : List (List Char)} (same : splitAt separator text = before ++ [last])
    (notFirst : before ≠ []) : ∃ front, text = front ++ separator :: last := by
  induction before generalizing text with
  | nil => exact absurd rfl notFirst
  | cons first before ih =>
      rcases exists_splitAt_of_cons same (by simp) with ⟨rest, rfl, sameRest⟩
      cases before with
      | nil => exact ⟨first, by rw [eq_of_splitAt_singleton sameRest]⟩
      | cons second before =>
          rcases ih sameRest (by simp) with ⟨front, rfl⟩
          exact ⟨first ++ separator :: front, by simp⟩

/-- Only one piece without separators can stand behind the last separator of a text. -/
theorem eq_of_append_separator {separator : Char} {front front' last last' : List Char}
    (absent : separator ∉ last) (absent' : separator ∉ last')
    (same : front ++ separator :: last = front' ++ separator :: last') : last = last' := by
  have pieces := congrArg (splitAt separator) same
  simp only [splitAt_append, splitAt_of_not_mem absent, splitAt_of_not_mem absent'] at pieces
  have ends := congrArg List.getLast? pieces
  simpa using ends

theorem exists_lines_eq_cons (text : List Char) :
    ∃ line later, lines text = line :: later :=
  exists_splitAt_eq_cons '\n' text

@[simp]
theorem lines_nil : lines [] = [[]] :=
  rfl

@[simp]
theorem lines_newline_cons (rest : List Char) : lines ('\n' :: rest) = [] :: lines rest := by
  simp [lines, splitAt]

/-- A character that is no newline extends the first line. -/
theorem lines_cons {c : Char} {rest line : List Char} {later : List (List Char)}
    (notNewline : c ≠ '\n') (same : lines rest = line :: later) :
    lines (c :: rest) = (c :: line) :: later :=
  splitAt_cons notNewline same

@[simp]
theorem newlines_nil : newlines [] = 0 :=
  rfl

@[simp]
theorem newlines_newline_cons (rest : List Char) : newlines ('\n' :: rest) = newlines rest + 1 := by
  simp [newlines]

theorem newlines_cons {c : Char} (notNewline : c ≠ '\n') (rest : List Char) :
    newlines (c :: rest) = newlines rest := by
  simp [newlines, notNewline]

@[simp]
theorem newlines_append (text more : List Char) :
    newlines (text ++ more) = newlines text + newlines more := by
  simp [newlines]

theorem newlines_cons_eq (c : Char) (rest : List Char) :
    newlines (c :: rest) = newlines [c] + newlines rest :=
  newlines_append [c] rest

theorem newlines_eq_zero {text : List Char} (inLine : '\n' ∉ text) : newlines text = 0 :=
  List.count_eq_zero.2 inLine

/-- The line behind a character. -/
theorem line_behind (c : Char) (line : Nat) :
    (if c = '\n' then line + 1 else line) = line + newlines [c] := by
  split <;> simp_all [newlines]

/-- A text has one line more than it has newlines. -/
theorem length_lines (text : List Char) : (lines text).length = newlines text + 1 := by
  induction text with
  | nil => rfl
  | cons c rest ih =>
      by_cases newline : c = '\n'
      · subst newline
        simp [ih]
      · rcases exists_lines_eq_cons rest with ⟨line, later, same⟩
        rw [lines_cons newline same, newlines_cons newline, ← ih, same]
        rfl

/-- Whether a text is empty or starts with a newline, so that a line ends before it. -/
def endsLine (text : List Char) : Bool :=
  text.head?.all (· == '\n')

theorem endsLine_cases {text : List Char} (ends : endsLine text = true) :
    text = [] ∨ ∃ rest, text = '\n' :: rest := by
  cases text with
  | nil => exact Or.inl rfl
  | cons c rest =>
      right
      simp only [endsLine, List.head?_cons, Option.all_some, beq_iff_eq] at ends
      exact ⟨rest, by rw [ends]⟩

/-- The first line stands at the front of a text, and every other line stands after a newline. -/
theorem lines_stand {text line : List Char} {later : List (List Char)}
    (same : lines text = line :: later) :
    (∃ back, text = line ++ back ∧ endsLine back = true) ∧
      ∀ other ∈ later, ∃ front back, text = front ++ '\n' :: (other ++ back) ∧
        endsLine back = true := by
  induction text generalizing line later with
  | nil =>
      rw [lines_nil] at same
      cases same
      exact ⟨⟨[], rfl, rfl⟩, by simp⟩
  | cons c rest ih =>
      rcases exists_lines_eq_cons rest with ⟨next, others, sameRest⟩
      rcases ih sameRest with ⟨⟨back, whole, ends⟩, stand⟩
      by_cases newline : c = '\n'
      · subst newline
        rw [lines_newline_cons, sameRest] at same
        cases same
        refine ⟨⟨'\n' :: rest, rfl, rfl⟩, ?_⟩
        intro other otherMem
        rcases List.mem_cons.1 otherMem with rfl | mem
        · exact ⟨[], back, by rw [whole, List.nil_append], ends⟩
        · rcases stand other mem with ⟨front, back, whole, ends⟩
          exact ⟨'\n' :: front, back, by rw [whole, List.cons_append], ends⟩
      · rw [lines_cons newline sameRest] at same
        cases same
        refine ⟨⟨back, by rw [whole, List.cons_append], ends⟩, ?_⟩
        intro other otherMem
        rcases stand other otherMem with ⟨front, back, whole, ends⟩
        exact ⟨c :: front, back, by rw [whole, List.cons_append], ends⟩

/-- A key without newlines is read from a line as it is from the line and what follows. -/
theorem after?_append_newline {key : List Char} (inLine : '\n' ∉ key) (text more : List Char) :
    after? key (text ++ '\n' :: more) = (after? key text).map fun rest => rest ++ '\n' :: more := by
  induction key generalizing text with
  | nil => rfl
  | cons k key ih =>
      rw [List.mem_cons, not_or] at inLine
      cases text with
      | nil => simp [after?, Ne.symm inLine.1]
      | cons c text =>
          rw [List.cons_append, after?, after?]
          split
          · exact ih inLine.2 text
          · rfl

/-- The numbers of the lines of a text ascend. -/
theorem pairwise_numberedLines (text : List Char) :
    (numberedLines text).Pairwise fun line other => line.2 < other.2 := by
  have ascending : ((numberedLines text).map Prod.snd).Pairwise (· < ·) := by
    rw [numberedLines, List.zipIdx_map_snd]
    exact List.pairwise_lt_range'
  exact List.pairwise_map.1 ascending

/-- The lines of a text are numbered from one to one more than its newlines. -/
theorem number_mem_bounds {text line : List Char} {number : Nat}
    (numbered : (line, number) ∈ numberedLines text) :
    1 ≤ number ∧ number ≤ newlines text + 1 := by
  have numberMem : number ∈ (numberedLines text).map Prod.snd :=
    List.mem_map_of_mem numbered
  rw [numberedLines, List.zipIdx_map_snd, List.mem_range'_1, length_lines] at numberMem
  omega

/-- A number belongs to one line of a text. -/
theorem line_unique {text line line' : List Char} {number : Nat}
    (numbered : (line, number) ∈ numberedLines text)
    (numbered' : (line', number) ∈ numberedLines text) : line = line' := by
  rw [numberedLines, List.mk_mem_zipIdx_iff_le_and_getElem?_sub] at numbered numbered'
  exact Option.some.inj (numbered.2.symm.trans numbered'.2)

/-- Behind a newline, the lines of a text go on with those of what follows. -/
theorem numberedLines_append_newline (front back : List Char) :
    numberedLines (front ++ '\n' :: back) =
      numberedLines front ++
        (numberedLines back).map (Prod.map id (· + (newlines front + 1))) := by
  rw [numberedLines, lines, splitAt_append, ← lines, ← lines, List.zipIdx_append, length_lines,
    Nat.add_comm 1, ← List.map_snd_add_zipIdx_eq_zipIdx]
  rfl

theorem numberedLines_of_not_mem {line : List Char} (inLine : '\n' ∉ line) :
    numberedLines line = [(line, 1)] := by
  rw [numberedLines, lines, splitAt_of_not_mem inLine]
  rfl

/-- A piece without newlines at the front of a text is at the front of its first line. -/
theorem exists_lines_append_eq_cons {piece : List Char} (inLine : '\n' ∉ piece)
    (back : List Char) :
    ∃ after later, after <+: back ∧ lines (piece ++ back) = (piece ++ after) :: later := by
  induction piece with
  | nil =>
      rcases exists_lines_eq_cons back with ⟨line, later, same⟩
      rcases (lines_stand same).1 with ⟨rest, whole, -⟩
      exact ⟨line, later, ⟨rest, whole.symm⟩, same⟩
  | cons c rest ih =>
      rw [List.mem_cons, not_or] at inLine
      rcases ih inLine.2 with ⟨after, later, front, same⟩
      exact ⟨after, later, front, lines_cons (Ne.symm inLine.1) same⟩

/-- A piece without newlines lies on the line whose number the newlines before it give. What stands
around it on that line stands around it in the text. -/
theorem exists_line_around (front piece back : List Char) (inLine : '\n' ∉ piece) :
    ∃ before after, before <:+ front ∧ after <+: back ∧
      (before ++ piece ++ after, newlines front + 1) ∈ numberedLines (front ++ piece ++ back) := by
  -- Without a newline in front of it, the piece lies on the first line.
  have onFirst : ∀ before : List Char, '\n' ∉ before → ∃ after, after <+: back ∧
      (before ++ piece ++ after, 1) ∈ numberedLines (before ++ piece ++ back) := by
    intro before inLine'
    have both : '\n' ∉ before ++ piece := by simp [inLine, inLine']
    rcases exists_lines_append_eq_cons both back with ⟨after, later, behind, same⟩
    rw [numberedLines, same, List.zipIdx_cons]
    exact ⟨after, behind, List.mem_cons_self⟩
  by_cases newline : '\n' ∈ front
  · rcases List.eq_append_cons_of_mem (List.mem_reverse.2 newline) with
      ⟨last, earlier, same, notLast⟩
    have split : front = earlier.reverse ++ '\n' :: last.reverse := by
      rw [← List.reverse_reverse front, same]
      simp
    rcases onFirst last.reverse (by simpa using notLast) with ⟨after, behind, numbered⟩
    have lines : newlines front = newlines earlier.reverse + 1 := by
      simp [split, newlines_eq_zero, notLast]
    refine ⟨last.reverse, after, ⟨earlier.reverse ++ ['\n'], by simp [split]⟩, behind, ?_⟩
    rw [lines, split, List.append_assoc, List.append_assoc, List.cons_append,
      numberedLines_append_newline, ← List.append_assoc last.reverse, List.mem_append]
    right
    exact List.mem_map.2 ⟨_, numbered, by simp [Nat.add_comm]⟩
  · rcases onFirst front newline with ⟨after, behind, numbered⟩
    refine ⟨front, after, List.suffix_rfl, behind, ?_⟩
    rwa [newlines_eq_zero newline]

theorem exists_line_of_append (front piece back : List Char) (inLine : '\n' ∉ piece) :
    ∃ line, (line, newlines front + 1) ∈ numberedLines (front ++ piece ++ back) ∧
      piece <:+: line := by
  rcases exists_line_around front piece back inLine with ⟨before, after, -, -, numbered⟩
  exact ⟨_, numbered, before, after, rfl⟩

/-- Joining the lines of a text gives the text. -/
theorem intercalate_lines (text : List Char) : List.intercalate ['\n'] (lines text) = text :=
  intercalate_splitAt '\n' text

/-- Lines with a newline behind each of them. -/
def ended (lines : List (List Char)) : List Char :=
  lines.flatMap (· ++ ['\n'])

theorem ended_append (lines more : List (List Char)) :
    ended (lines ++ more) = ended lines ++ ended more :=
  List.flatMap_append

/-- In front of a line stand the earlier lines, each with its newline. -/
theorem exists_back_of_lines {text line : List Char} {earlier later : List (List Char)}
    (same : lines text = earlier ++ line :: later) :
    ∃ back, text = ended earlier ++ (line ++ back) := by
  induction earlier generalizing text with
  | nil =>
      rcases (lines_stand same).1 with ⟨back, whole, -⟩
      exact ⟨back, whole⟩
  | cons first earlier ih =>
      rcases exists_splitAt_of_cons same (by simp) with ⟨rest, rfl, sameRest⟩
      rcases ih sameRest with ⟨back, rfl⟩
      exact ⟨back, by simp [ended]⟩

theorem newlines_ended {lines : List (List Char)} (inLine : ∀ line ∈ lines, '\n' ∉ line) :
    newlines (ended lines) = lines.length := by
  induction lines with
  | nil => rfl
  | cons line lines ih =>
      rw [List.forall_mem_cons] at inLine
      have step : ended (line :: lines) = line ++ '\n' :: ended lines := by simp [ended]
      rw [step, newlines_append, newlines_eq_zero inLine.1, newlines_newline_cons, ih inLine.2,
        Nat.zero_add, List.length_cons]

end Text

namespace LineRange

/-- The span so many lines further down. -/
def shift (lines : Nat) (range : LineRange) : LineRange :=
  ⟨range.first + lines, range.last + lines⟩

theorem precedes_iff {range other : LineRange} :
    range.precedes other = true ↔
      range.first < other.first ∨ range.first = other.first ∧ range.last ≤ other.last := by
  rw [precedes, order, Ordering.isLE_then_iff_or]
  simp [Nat.isLE_compare, Nat.compare_eq_lt]

theorem precedes_trans {range other third : LineRange} (le : range.precedes other = true)
    (le' : other.precedes third = true) : range.precedes third = true := by
  rw [precedes_iff] at le le' ⊢
  omega

theorem precedes_total (range other : LineRange) :
    (range.precedes other || other.precedes range) = true := by
  rw [Bool.or_eq_true, precedes_iff, precedes_iff]
  omega

theorem precedes_antisymm {range other : LineRange} (le : range.precedes other = true)
    (ge : other.precedes range = true) : range = other := by
  rw [precedes_iff] at le ge
  rw [LineRange.mk.injEq]
  omega

theorem precedes_shift (lines : Nat) (range other : LineRange) :
    (range.shift lines).precedes (other.shift lines) = range.precedes other := by
  rw [Bool.eq_iff_iff, precedes_iff, precedes_iff]
  simp only [shift]
  omega

theorem mergeSort_map_shift (lines : Nat) (ranges : List LineRange) :
    (ranges.map (shift lines)).mergeSort precedes =
      (ranges.mergeSort precedes).map (shift lines) := by
  rw [List.map_mergeSort]
  intro range _ other _
  exact (precedes_shift lines range other).symm

theorem pairwise_mergeSort (ranges : List LineRange) :
    (ranges.mergeSort precedes).Pairwise fun range other => range.precedes other = true := by
  apply List.pairwise_mergeSort
  · intro range other third
    exact precedes_trans
  · exact precedes_total

/-- Spans that precede others can be sorted apart from them. -/
theorem mergeSort_append {ranges others : List LineRange}
    (before : ∀ range ∈ ranges, ∀ other ∈ others, range.precedes other = true) :
    (ranges ++ others).mergeSort precedes =
      ranges.mergeSort precedes ++ others.mergeSort precedes := by
  apply List.Perm.eq_of_pairwise (fun _ _ _ _ => precedes_antisymm) (pairwise_mergeSort _)
  · apply List.pairwise_append.2
    refine ⟨pairwise_mergeSort ranges, pairwise_mergeSort others, ?_⟩
    intro range rangeMem other otherMem
    exact before range (List.mem_mergeSort.1 rangeMem) other (List.mem_mergeSort.1 otherMem)
  · exact (List.mergeSort_perm _ _).trans
      ((List.mergeSort_perm _ _).append (List.mergeSort_perm _ _)).symm

end LineRange

end CrossArch
